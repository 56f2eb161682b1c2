import RecordDesk.Document.Pairs
import RecordDesk.Store.Path
set_option autoImplicit false

namespace RecordDesk

inductive Cell where
  | null
  | number (n : Number)
  | text (s : String)
  deriving DecidableEq

namespace Cell

def wordLimit : Int := 0x8000000000000000

def fitsWord (i : Int) : Bool := decide (-wordLimit ≤ i) && decide (i < wordLimit)

/-- An integer that is too wide becomes the nearest binary64 number. -/
def ofNumber : Number → Number
  | .int i => if fitsWord i then .int i else .float (Binary64.ofInt i)
  | .float x => .float x

/-- A text is seen up to its first NUL, and a truth value as one or zero. -/
def of : Document → Cell
  | .null => .null
  | .boolean b => .number (.int (if b then 1 else 0))
  | .number n => .number (ofNumber n)
  | .text s => .text (String.ofList (s.toList.takeWhile fun c => c.toNat != 0))
  | d => .text (d.written .compact)

/-- As `of`, with truth values as words. -/
def label : Document → Cell
  | .boolean b => .text (if b then "true" else "false")
  | d => of d

def measure : Document → Cell
  | .number n => .number (ofNumber n)
  | _ => .null

/-- Nothing comes before numbers, and numbers before texts. -/
def rank : Cell → Nat
  | .null => 0
  | .number _ => 1
  | .text _ => 2

def order : Cell → Cell → Ordering
  | .number a, .number b => (a.compare? b).getD .eq
  | .text a, .text b => compare a b
  | a, b => compare a.rank b.rank

/-- Equality of two cells that hold something; nothing equals no cell. -/
def matches? : Cell → Cell → Bool
  | .number a, .number b => a.same b
  | .text a, .text b => a == b
  | _, _ => false

def shown : Cell → String
  | .null => "null"
  | .number n => n.plainText
  | .text s => s

/-- The cell as a binary64 number; an absent one counts as zero. -/
def toBinary64 : Cell → Binary64
  | .number (.int i) => Binary64.ofInt i
  | .number (.float x) => x
  | _ => Binary64.zero

end Cell

namespace Document

mutual

/-- Whether the store can write the document down: all of it must be of a written document's kinds. -/
def isStorable : Document → Bool
  | .date _ | .decimal _ | .wrapped _ => false
  | .list ds => storableItems ds
  | .object ms => storableMembers ms
  | _ => true

def storableItems : List Document → Bool
  | [] => true
  | d :: rest => d.isStorable && storableItems rest

def storableMembers : List (String × Document) → Bool
  | [] => true
  | (_, d) :: rest => d.isStorable && storableMembers rest

end

def isNaN : Document → Bool
  | .number n => n.isNaN
  | _ => false

mutual

/-- Likeness that a write does not see: numbers of all kinds by value, members in any order. -/
def alike (nans : NaNs) : Document → Document → Bool
  | .list a, .list b => alikeItems nans a b
  | .object a, .object b => a.length == b.length && alikeMembers nans a b
  | a, b => a.sameKey b || (nans == .alike && a.isNaN && b.isNaN)

def alikeItems (nans : NaNs) : List Document → List Document → Bool
  | [], [] => true
  | a :: as, b :: bs => alike nans a b && alikeItems nans as bs
  | _, _ => false

def alikeMembers (nans : NaNs) : List (String × Document) → List (String × Document) → Bool
  | [], _ => true
  | (k, a) :: as, bs => (match bs.lookup k with
    | some b => alike nans a b
    | none => false) && alikeMembers nans as bs

end

end Document

namespace Cell

/-- A view of the member under a key; a member that is missing is an empty cell. -/
def field (view : Document → Cell) (key : String) (stored : Document) : Except Fault Cell := do
  return match ← Path.find key stored with
    | some d => view d
    | none => .null

end Cell

end RecordDesk
