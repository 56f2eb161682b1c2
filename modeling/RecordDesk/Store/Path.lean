import RecordDesk.Document
set_option autoImplicit false

/-!
Paths into stored documents. A path goes down from the root step by step, to the member of an object or to
the item of a list. A step is read when it is taken, so one that cannot be read matters only where the steps
before it lead somewhere.
-/

namespace RecordDesk

namespace Document

mutual

/-- Whether every number has a place in a portable document; infinities and not-a-number have none. -/
def isPortable : Document → Bool
  | .number (.float x) => x.isFinite
  | .list ds => portableItems ds
  | .object ms => portableMembers ms
  | _ => true

def portableItems : List Document → Bool
  | [] => true
  | d :: rest => d.isPortable && portableItems rest

def portableMembers : List (String × Document) → Bool
  | [] => true
  | (_, d) :: rest => d.isPortable && portableMembers rest

end

end Document

namespace Path

def malformed : Fault := .storage "malformed JSON"
def unreadable (rest : List Char) : Fault := .storage ("JSON path error near '" ++ String.ofList rest ++ "'")

/-- A member's name, in quotes or bare up to the next step, and what follows it. A bare name is never
empty. -/
def name? : List Char → Option (List Char × List Char)
  | '"' :: s => match s.span (· != '"') with
    | (name, '"' :: rest) => some (name, rest)
    | _ => none
  | s => match s.span fun c => c != '.' && c != '[' with
    | ([], _) => none
    | found => some found

/-- The first member whose name is written so in the stored text. -/
def member? (name : List Char) (members : Members) : Option Document :=
  (members.find? fun m => Quoted.encode m.1.toList == name).map (·.2)

/-- Positions are counted in 32 bits. -/
def position (digits : List Nat) : Nat := Numeral.ofDigits digits % 4294967296

/-- A place in a list: counted from its start, or back from behind its end. -/
inductive Place where
  | fromStart (n : Nat)
  | fromEnd (n : Nat)
  deriving DecidableEq, Repr

def place? : List Char → Option (Place × List Char)
  | '#' :: s =>
    let (back, rest) := match s with
      | '-' :: t => match Numeral.digits asciiDigitValue? t with
        | ([], _) => (0, s)
        | (ds, rest) => (position ds, rest)
      | _ => (0, s)
    match rest with
    | ']' :: rest => some (.fromEnd back, rest)
    | _ => none
  | s => match Numeral.digits asciiDigitValue? s with
    | (d :: ds, ']' :: rest) => some (.fromStart (position (d :: ds)), rest)
    | _ => none

def item? (items : List Document) : Place → Option Document
  | .fromStart n => items[n]?
  | .fromEnd n => if n ≤ items.length then items[items.length - n]? else none

/-- Takes the steps of a path from a document; there are no more of them than characters. Places that are
counted from the end are read in lists only. -/
def follow : Nat → Document → List Char → Except Fault (Option Document)
  | _, d, [] => .ok (some d)
  | fuel + 1, d, '.' :: s => match d with
    | .object members => match name? s with
      | none => .error (unreadable s)
      | some (name, rest) => match member? name members with
        | some d => follow fuel d rest
        | none => .ok none
    | _ => .ok none
  | fuel + 1, d, '[' :: s => match d, s, place? s with
    | .list items, _, some (place, rest) => match item? items place with
      | some d => follow fuel d rest
      | none => .ok none
    | .list _, _, none => .error (unreadable s)
    | _, '#' :: _, _ => .ok none
    | _, _, some _ => .ok none
    | _, _, none => .error (unreadable s)
  | _, _, s => .error (unreadable s)

/-- The path that a key makes: one step to the member of that name, for a key that a name can hold. A path
ends at its first NUL. -/
def ofKey (key : String) : List Char :=
  ('.' :: '"' :: (key.toList ++ ['"'])).takeWhile fun c => c.toNat != 0

/-- What is stored in a document under a key. The stored text has to be portable as a whole. -/
def find (key : String) (stored : Document) : Except Fault (Option Document) :=
  if !stored.isPortable then .error malformed
  else follow (ofKey key).length stored (ofKey key)

end Path

end RecordDesk
