import RecordDesk.Document.Reader
set_option autoImplicit false

namespace RecordDesk

structure Snapshot where
  id : String
  fields : Fields
  createdAt : Moment
  updatedAt : Option Moment

structure TenantRef where
  id : String
  name : String
  deriving DecidableEq, Repr

structure EntityRef where
  id : String
  name : String
  slug : String
  deriving DecidableEq, Repr

structure UserRef where
  id : String
  name : String
  email : String
  deriving DecidableEq, Repr

/-- Who acts when no user is known. -/
def UserRef.system : UserRef := ⟨"system", "System", "system@synkboard.com"⟩

structure RuleRef where
  id : String
  name : String
  deriving DecidableEq, Repr

structure Context where
  record : Snapshot
  entity : EntityRef
  user : UserRef
  rule : RuleRef
  tenant : TenantRef

namespace Context

def recordScope (r : Snapshot) : Members :=
  [("id", .text r.id), ("fields", .object r.fields.toMembers), ("created_at", .date (.moment r.createdAt))]
    ++ match r.updatedAt with
      | some m => [("updated_at", .date (.moment m))]
      | none => []

/-- The context as one object in which paths are looked up. -/
def scope (c : Context) : Document :=
  .object [
    ("record", .object (recordScope c.record)),
    ("entity", .object [("id", .text c.entity.id), ("name", .text c.entity.name),
      ("slug", .text c.entity.slug)]),
    ("user", .object [("id", .text c.user.id), ("name", .text c.user.name), ("email", .text c.user.email)]),
    ("rule", .object [("id", .text c.rule.id), ("name", .text c.rule.name)]),
    ("tenant", .object [("id", .text c.tenant.id), ("name", .text c.tenant.name)])]

end Context

namespace Template

def splitDots : List Char → List (List Char)
  | [] => [[]]
  | '.' :: rest => [] :: splitDots rest
  | c :: rest => match splitDots rest with
    | part :: parts => (c :: part) :: parts
    | [] => [[c]]

/-- The keys of a dotted path, blanks around it aside. -/
def keys (path : List Char) : List String :=
  (splitDots (stripWhere isBlank path)).map String.ofList

def follow : List String → Document → Option Document
  | [], d => some d
  | k :: rest, d => (d.get? k).bind (follow rest)

/-- The path of a placeholder whose opening braces were read, and what is left after its closing ones. -/
def placeholder? (s : List Char) : Option (List Char × List Char) :=
  match s.span (· != '\x7d') with
  | (c :: path, '\x7d' :: '\x7d' :: rest) => some (c :: path, rest)
  | _ => none

def substitute (scope : Document) (path : List Char) : List Char :=
  match follow (keys path) scope with
  | some d => (Value.of d).asText.toList
  | none => '\x7b' :: '\x7b' :: path ++ ['\x7d', '\x7d']

/-- Replaces placeholders from the left; what was put in is not read again. The fuel is a text's length. -/
def fill (scope : Document) : Nat → List Char → List Char
  | 0, s => s
  | _ + 1, [] => []
  | fuel + 1, '\x7b' :: '\x7b' :: rest =>
    match placeholder? rest with
    | some (path, after) => substitute scope path ++ fill scope fuel after
    | none => '\x7b' :: fill scope fuel ('\x7b' :: rest)
  | fuel + 1, c :: rest => c :: fill scope fuel rest

def interpolate (scope : Document) (template : String) : String :=
  let s := template.toList
  String.ofList (fill scope s.length s)

/-- Fills the written payload and reads it back; without payload there is an empty object. -/
def interpolatePayload (scope : Document) : Document → Except Fault Document
  | .null => .ok (.object [])
  | payload =>
    match Document.read (interpolate scope (payload.written .spaced)) with
    | .ok d => .ok d
    | .error (.malformed fault) => .error (.template fault)
    | .error (.numeralTooLong digits) => .error (.numeralTooLong (some digits))
    | .error (.tooDeep collection) => .error (.nestedTooDeep collection)

theorem fill_nil (scope : Document) (fuel : Nat) : fill scope fuel [] = [] := by
  cases fuel <;> rfl

end Template

end RecordDesk
