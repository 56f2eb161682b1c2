import RecordDesk.Calendar
import RecordDesk.Numeric.Number
import RecordDesk.Text.Numeral
import RecordDesk.Text.Quoted
set_option autoImplicit false

/-!
Values of record fields. Each value knows its kind; a comparison or a rendering goes through an explicit
view and never through the accidental likeness of two kinds.
-/

namespace RecordDesk

inductive Kind where
  | text | number | boolean | date | array | object | null
  deriving DecidableEq, Repr

def Kind.name : Kind → String
  | .text => "text"
  | .number => "number"
  | .boolean => "boolean"
  | .date => "date"
  | .array => "array"
  | .object => "object"
  | .null => "null"

inductive Value where
  | null
  | text (s : String)
  | number (n : Number)
  | boolean (b : Bool)
  | date (t : Temporal)
  | array (items : List Value)
  | object (members : List (String × Value))

structure Separators where
  item : String
  member : String

def Separators.compact : Separators := ⟨",", ":"⟩
def Separators.spaced : Separators := ⟨", ", ": "⟩

/-- How two not-a-numbers inside collections compare. Those that a reader found in written documents are
alike; of those that were handed over one by one, each differs from every other. At the top of a value none
equals another. -/
inductive NaNs where
  | alike | apart
  deriving DecidableEq, Repr

namespace Value

def kind : Value → Kind
  | .null => .null
  | .text _ => .text
  | .number _ => .number
  | .boolean _ => .boolean
  | .date _ => .date
  | .array _ => .array
  | .object _ => .object

def isNull : Value → Bool
  | .null => true
  | _ => false

/-- Null, false, zero, not-a-number and blank text are empty; collections and dates never are. -/
def isEmpty : Value → Bool
  | .null => true
  | .boolean b => !b
  | .number n => n.isZero || n.isNaN
  | .text s => strip s == ""
  | _ => false

def dropNaN (x : Binary64) : Option Binary64 := if x.isNaN then none else some x

/-- The numeric view: blank text is zero, a text that is no number has none. -/
def asNumber : Value → Except Fault (Option Binary64)
  | .number n => n.toBinary64.map dropNaN
  | .boolean b => .ok (some (Binary64.ofInt (if b then 1 else 0)))
  | .text s =>
    let bare := strip s
    if bare == "" then .ok (some Binary64.zero)
    else .ok ((Numeral.binary64? bare).bind dropNaN)
  | .date t => .ok (some t.epochMillis)
  | _ => .ok none

mutual

/-- The value as a written document; a date is a quoted text. -/
def written (sep : Separators) : Value → String
  | .null => "null"
  | .boolean b => if b then "true" else "false"
  | .number n => n.text Number.documentNames
  | .text s => Quoted.quote s
  | .date t => Quoted.quote t.shown
  | .array items => "[" ++ String.intercalate sep.item (writtenItems sep items) ++ "]"
  | .object members => "\x7b" ++ String.intercalate sep.item (writtenMembers sep members) ++ "\x7d"

def writtenItems (sep : Separators) : List Value → List String
  | [] => []
  | v :: rest => v.written sep :: writtenItems sep rest

def writtenMembers (sep : Separators) : List (String × Value) → List String
  | [] => []
  | (k, v) :: rest => (Quoted.quote k ++ sep.member ++ v.written sep) :: writtenMembers sep rest

end

mutual

/-- The text view: items of an array are joined by commas, a null item leaves its place blank, and an object
is a compact document. It is there for integers of any length; `printed` has the limit. -/
def asText : Value → String
  | .null => "null"
  | .text s => s
  | .boolean b => if b then "true" else "false"
  | .number n => n.plainText
  | .date t => t.iso
  | .array items => String.intercalate "," (itemTexts items)
  | .object members => (Value.object members).written .compact

def itemTexts : List Value → List String
  | [] => []
  | v :: rest => (if v.isNull then "" else v.asText) :: itemTexts rest

end

mutual

/-- Whether no integer in a value is too long to be written. -/
def isPrintable : Value → Bool
  | .number n => n.Fits
  | .array items => printableItems items
  | .object members => printableMembers members
  | _ => true

def printableItems : List Value → Bool
  | [] => true
  | v :: rest => v.isPrintable && printableItems rest

def printableMembers : List (String × Value) → Bool
  | [] => true
  | (_, v) :: rest => v.isPrintable && printableMembers rest

end

/-- The text view where it can be written. -/
def printed (v : Value) : Except Fault String :=
  if v.isPrintable then .ok v.asText else .error (.numeralTooLong none)

mutual

/-- Equality below the top of a value: numbers by exact value, members in their order. -/
def exact (nans : NaNs) : Value → Value → Bool
  | .null, .null => true
  | .text a, .text b => a == b
  | .number a, .number b => a.same b || (nans == .alike && a.isNaN && b.isNaN)
  | .boolean a, .boolean b => a == b
  | .date a, .date b => a.same b
  | .array a, .array b => exactItems nans a b
  | .object a, .object b => exactMembers nans a b
  | _, _ => false

def exactItems (nans : NaNs) : List Value → List Value → Bool
  | [], [] => true
  | a :: as, b :: bs => exact nans a b && exactItems nans as bs
  | _, _ => false

def exactMembers (nans : NaNs) : List (String × Value) → List (String × Value) → Bool
  | [], [] => true
  | (k, a) :: as, (l, b) :: bs => k == l && exact nans a b && exactMembers nans as bs
  | _, _ => false

end

def sameMembers (nans : NaNs) (a b : List (String × Value)) : Bool :=
  a.length == b.length && a.all fun (k, v) => match b.lookup k with
    | some w => exact nans v w
    | none => false

/-- Kind and payload must both agree. Numbers are compared as binary64, the members of an object in any
order. -/
def strictEquals (nans : NaNs) : Value → Value → Except Fault Bool
  | .number a, .number b => do
    let x ← a.toBinary64
    let y ← b.toBinary64
    return x.same y
  | .object a, .object b => .ok (sameMembers nans a b)
  | a, b => .ok (exact nans a b)

end Value

abbrev Fields := List (String × Value)

end RecordDesk
