import RecordDesk.Api.Address
import RecordDesk.Desk
set_option autoImplicit false

/-!
Requests to the service and its answers. A request is handled step by step, and any step may refuse it.
-/

namespace RecordDesk.Api

structure Request where
  method : String
  address : String
  headers : List (String × String)
  /-- The document that was sent; null where none was. -/
  body : Document

mutual

/-- What keeps a document from being sent: the first part, in order, that has no written form. -/
def unsendable? : Document → Option Fault
  | .number (.float x) => if x.isFinite then none else some .unwritableNumber
  | .date t => some (.unsuitable (t.shown ++ " has no written form"))
  | .decimal d => some (.unsuitable (d.text ++ " has no written form"))
  | .wrapped v => some (.unsuitable (v.asText ++ " has no written form"))
  | .list ds => unsendableItem? ds
  | .object ms => unsendableMember? ms
  | _ => none

def unsendableItem? : List Document → Option Fault
  | [] => none
  | d :: rest => match unsendable? d with
    | some fault => some fault
    | none => unsendableItem? rest

def unsendableMember? : List (String × Document) → Option Fault
  | [] => none
  | (_, d) :: rest => match unsendable? d with
    | some fault => some fault
    | none => unsendableMember? rest

end

def isAscii (s : String) : Bool := s.toList.all fun c => c.toNat < 128

/-- The request as it arrives, if it can be sent: headers are ASCII texts, and the document has a written
form. -/
def Request.sent (r : Request) : Except Fault Request :=
  if r.headers.any fun h => !isAscii h.1 || !isAscii h.2 then .error .unsendableHeader
  else match unsendable? r.body with
    | some fault => .error fault
    | none => .ok { r with method := upper r.method }

def Request.header? (r : Request) (name : String) : Option String :=
  (r.headers.find? fun h => lower h.1 == lower name).map (·.2)

structure Response where
  status : Nat
  body : Document
  headers : List (String × String) := []

mutual

/-- A document with calendar values as texts. -/
def sendable : Document → Document
  | .date t => .text (Value.date t).asText
  | .list ds => .list (sendableItems ds)
  | .object ms => .object (sendableMembers ms)
  | d => d

def sendableItems : List Document → List Document
  | [] => []
  | d :: rest => sendable d :: sendableItems rest

def sendableMembers : List (String × Document) → List (String × Document)
  | [] => []
  | (k, d) :: rest => (k, sendable d) :: sendableMembers rest

end

namespace Response

def broken : Response := ⟨500, .text "Internal Server Error", []⟩

/-- A document as an answer. One that cannot be written portably is no answer. -/
def ofDocument (status : Nat) (headers : List (String × String)) (d : Document) : Response :=
  if d.isPortable then ⟨status, sendable d, headers⟩ else broken

def refusal (status : Nat) (detail : String) : Response := ⟨status, .object [("detail", .text detail)], []⟩

def misfit (issues : List Issue) : Response :=
  ⟨422, .object [("detail", .list (issues.map Issue.toDocument))], []⟩

end Response

/-- A step of the handling of a request; a refusal ends it. -/
abbrev Handling (α : Type) := ExceptT Response (StateM Desk) α

namespace Handling

variable {α : Type}

/-- A job as a step; `refuse` says how its failure is answered. -/
def ofJob (refuse : Fault → Response) (job : Job α) : Handling α :=
  fun d => match job d with
    | (.ok a, d) => (.ok a, d)
    | (.error fault, d) => (.error (refuse fault), d)

def require (job : Job α) : Handling α := ofJob (fun _ => .broken) job

def ofExcept : Except Fault α → Handling α
  | .ok a => return a
  | .error _ => throw .broken

def ofChecked : Checked α → Handling α
  | .valid a => return a
  | .invalid issues => throw (.misfit issues)

end Handling

namespace Request

variable {α : Type}

def isDocumentType (contentType : String) : Bool :=
  let name := (lower (strip (String.ofList (contentType.toList.takeWhile (· != ';'))))).toList
  match Address.pieces '/' name with
  | [main, sub] => main == "application".toList && (sub == "json".toList || "+json".toList.isSuffixOf sub)
  | _ => false

/-- Whether the body of a request is taken for a document; it is unless a header says otherwise. -/
def sendsDocument (r : Request) : Bool :=
  match r.header? "Content-Type" with
  | none | some "" => true
  | some contentType => isDocumentType contentType

def form (r : Request) (read : Form.Reader α) : Handling α :=
  match r.body with
  | .null => throw (.misfit [⟨[.key "body"], .missing⟩])
  | d =>
    if r.sendsDocument then Handling.ofChecked ((read d).under (.key "body"))
    else throw (.misfit [⟨[.key "body"], .modelAttributesType⟩])

/-- Who calls: the tenant, and the acting user if there is one. -/
structure Caller where
  tenantId : String
  userId : Option String

/-- Every caller names a tenant; blanks around names do not count. -/
def caller (r : Request) : Handling Caller :=
  match (r.header? "X-Tenant-Id").map strip with
  | none | some "" => throw (.refusal 400 "X-Tenant-Id header is required")
  | some tenantId => return ⟨tenantId, ((r.header? "X-User-Id").map strip).filter (· != "")⟩

end Request

end RecordDesk.Api
