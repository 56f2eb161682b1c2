import RecordDesk.Fault
import RecordDesk.Numeric.Shortest
import RecordDesk.Text.Numeral
set_option autoImplicit false

namespace RecordDesk

inductive Number where
  | int (i : Int)
  | float (x : Binary64)
  deriving DecidableEq

namespace Number

def inRange : Binary64 → Except Fault Binary64
  | .finite n u h => .ok (.finite n u h)
  | _ => .error .numberTooLarge

def intToBinary64 (i : Int) : Except Fault Binary64 := inRange (Binary64.ofInt i)

def toBinary64 : Number → Except Fault Binary64
  | .int i => intToBinary64 i
  | .float x => .ok x

/-- An integer and a binary64 number compared by value, without rounding either. -/
def compareInt? (i : Int) : Binary64 → Option Ordering
  | .nan => none
  | .infinite negative => some (if negative then .gt else .lt)
  | .finite negative units _ => some (compare (i * Binary64.one) (Binary64.signedUnits negative units))

def compare? : Number → Number → Option Ordering
  | .int i, .int j => some (compare i j)
  | .int i, .float y => compareInt? i y
  | .float x, .int j => (compareInt? j x).map Ordering.swap
  | .float x, .float y => x.compare? y

def same (a b : Number) : Bool := a.compare? b == some .eq

def isZero : Number → Bool
  | .int i => i == 0
  | .float x => x.isZero

/-- Integers with more digits than are read or written do not fit; every other number does. -/
def Fits : Number → Prop
  | .int i => (Nat.toDigits 10 i.natAbs).length ≤ Numeral.digitLimit
  | .float _ => True

instance : DecidablePred Fits
  | .int _ => inferInstanceAs (Decidable (_ ≤ _))
  | .float _ => inferInstanceAs (Decidable True)

def isNaN : Number → Bool
  | .int _ => false
  | .float x => x.isNaN

def documentNames : Binary64.Names := ⟨"Infinity", "NaN"⟩

def shownNames : Binary64.Names := ⟨"inf", "nan"⟩

def text (names : Binary64.Names) : Number → String
  | .int i => toString i
  | .float x => x.text names

/-- Whole numbers below this bound are shown without fraction. -/
def wholeBound : Nat := Nat.pow 10 21

def plainText : Number → String
  | .int i => toString i
  | .float x => match x.toInt? with
    | some i => if i.natAbs < wholeBound then toString i else x.text documentNames
    | none => x.text documentNames

end Number

end RecordDesk
