import RecordDesk.Numeric.ExactDecimal
import RecordDesk.Value
set_option autoImplicit false

/-!
Documents as they arrive, before their kinds are fixed. Besides the kinds of a written document there are
calendar values, exact decimals, and values that are wrapped already.
-/

namespace RecordDesk

inductive Document where
  | null
  | boolean (b : Bool)
  | number (n : Number)
  | text (s : String)
  | date (t : Temporal)
  | decimal (d : ExactDecimal)
  | wrapped (v : Value)
  | list (items : List Document)
  | object (members : List (String × Document))

abbrev Members := List (String × Document)

instance : Inhabited Document := ⟨.null⟩

namespace Document

def ofInt (i : Int) : Document := .number (.int i)
def ofNat (n : Nat) : Document := .number (.int n)
def ofOption : Option Document → Document
  | some d => d
  | none => .null
def ofText? : Option String → Document
  | some s => .text s
  | none => .null

def isText (s : String) : Document → Bool
  | .text t => t == s
  | _ => false

def get? (key : String) : Document → Option Document
  | .object members => members.lookup key
  | _ => none

end Document

/-- The members with a key set: in place if it is there, else at the end. -/
def Members.set (members : Members) (key : String) (d : Document) : Members :=
  if members.any (·.1 == key)
  then members.map fun m => if m.1 == key then (key, d) else m
  else members ++ [(key, d)]

/-- Members one after another; a later one with the key of an earlier takes its place. -/
def Members.ofPairs (pairs : List (String × Document)) : Members :=
  pairs.foldl (fun acc p => acc.set p.1 p.2) []

namespace Value

mutual

def of : Document → Value
  | .null => .null
  | .boolean b => .boolean b
  | .number n => .number n
  | .text s => .text s
  | .date t => .date t
  | .decimal d => .text d.text
  | .wrapped v => v
  | .list items => .array (ofItems items)
  | .object members => .object (ofMembers members)

def ofItems : List Document → List Value
  | [] => []
  | d :: rest => of d :: ofItems rest

def ofMembers : List (String × Document) → List (String × Value)
  | [] => []
  | (k, d) :: rest => (k, of d) :: ofMembers rest

end

mutual

def toDocument : Value → Document
  | .null => .null
  | .boolean b => .boolean b
  | .number n => .number n
  | .text s => .text s
  | .date t => .date t
  | .array items => .list (toItems items)
  | .object members => .object (toMembers members)

def toItems : List Value → List Document
  | [] => []
  | v :: rest => v.toDocument :: toItems rest

def toMembers : List (String × Value) → List (String × Document)
  | [] => []
  | (k, v) :: rest => (k, v.toDocument) :: toMembers rest

end

end Value

namespace Document

mutual

/-- What a written document says of this one: a thing that has no written form is its text. -/
def writable : Document → Value
  | .null => .null
  | .boolean b => .boolean b
  | .number n => .number n
  | .text s => .text s
  | .date t => .text t.shown
  | .decimal d => .text d.text
  | .wrapped v => .text v.asText
  | .list items => .array (writableItems items)
  | .object members => .object (writableMembers members)

def writableItems : List Document → List Value
  | [] => []
  | d :: rest => d.writable :: writableItems rest

def writableMembers : List (String × Document) → List (String × Value)
  | [] => []
  | (k, d) :: rest => (k, d.writable) :: writableMembers rest

end

def written (sep : Separators) (d : Document) : String := d.writable.written sep

/-- Empty things and zeros are false in a choice. -/
def isTruthy : Document → Bool
  | .null => false
  | .boolean b => b
  | .number n => !n.isZero
  | .text s => s != ""
  | .decimal d => !d.isZero
  | .list items => !items.isEmpty
  | .object members => !members.isEmpty
  | _ => true

end Document

namespace Document

def typeName : Document → String
  | .null => "NoneType"
  | .boolean _ => "bool"
  | .number (.int _) => "int"
  | .number (.float _) => "float"
  | .text _ => "str"
  | .date (.date _) => "datetime.date"
  | .date (.moment _) => "datetime.datetime"
  | .decimal _ => "decimal.Decimal"
  | .wrapped _ => "Value"
  | .list _ => "list"
  | .object _ => "dict"

/-- The members of an object. Empty things and zeros have none, and nothing else can be asked for them. -/
def members? (d : Document) : Except Fault Members :=
  match d with
  | .object members => .ok members
  | d => if d.isTruthy then .error (.withoutParts d.typeName) else .ok []

/-- The items of a collection: characters of a text, keys of an object. -/
def sequence? : Document → Option (List Document)
  | .list ds => some ds
  | .text s => some (s.toList.map fun c => .text (String.singleton c))
  | .object ms => some (ms.map fun m => .text m.1)
  | _ => none

def sequence (d : Document) : Except Fault (List Document) :=
  match d.sequence? with
  | some ds => .ok ds
  | none => .error (.unsuitable ("'" ++ d.typeName ++ "' object is not iterable"))

def count (d : Document) : Except Fault Nat :=
  match d.sequence? with
  | some ds => .ok ds.length
  | none => .error (.unsuitable ("object of type '" ++ d.typeName ++ "' has no len()"))

/-- Whether things can be looked up by the document: collections change, and a signalling decimal is no
key. -/
def isKey : Document → Bool
  | .list _ | .object _ => false
  | .decimal d => !d.isSignalling
  | _ => true

end Document

def Fields.of? (d : Document) : Except Fault Fields := d.members?.map Value.ofMembers

def Fields.toMembers (fields : Fields) : Members := Value.toMembers fields

theorem Value.of_wrapped (v : Value) : Value.of (.wrapped v) = v := rfl

end RecordDesk
