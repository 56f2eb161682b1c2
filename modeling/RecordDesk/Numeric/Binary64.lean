set_option autoImplicit false

/-!
Binary64 numbers as exact dyadic fractions. A finite number is a whole count of units of `2 ^ -1074`,
so sums, comparisons and quotients are questions about integers, and every operation is the exact
result followed by one rounding: to nearest, a tie to the even neighbour.
-/

namespace RecordDesk

/-- The quotient rounded to nearest; a tie goes to the even neighbour. -/
def roundHalfEven (num den : Nat) : Nat :=
  let q := num / den
  let r := num % den
  if 2 * r < den then q
  else if den < 2 * r then q + 1
  else q + q % 2

namespace Binary64

def one : Nat := Nat.pow 2 1074

/-- The first count of units past the finite numbers. -/
def limit : Nat := Nat.pow 2 2098

/-- The distance between neighbours around a count of units: 53 significant bits are kept. -/
def gridWidth (units : Nat) : Nat := Nat.pow 2 (units.log2 - 52)

def Representable (units : Nat) : Prop := units < limit ∧ units % gridWidth units = 0

instance (units : Nat) : Decidable (Representable units) :=
  inferInstanceAs (Decidable (_ ∧ _))

end Binary64

inductive Binary64 where
  | nan
  | infinite (negative : Bool)
  | finite (negative : Bool) (units : Nat) (onGrid : Binary64.Representable units)
  deriving DecidableEq

namespace Binary64

/-- The number nearest to a fraction of units; past the largest one it is infinite. -/
def ofUnits (negative : Bool) (num den : Nat) : Binary64 :=
  let width := gridWidth (num / den)
  let units := roundHalfEven num (den * width) * width
  if h : Representable units then .finite negative units h else .infinite negative

def ofRatio (negative : Bool) (num den : Nat) : Binary64 := ofUnits negative (num * one) den

def zero : Binary64 := ofRatio false 0 1

instance : Inhabited Binary64 := ⟨zero⟩

def ofInt (i : Int) : Binary64 := ofRatio (decide (i < 0)) i.natAbs 1

def ofQuotient (num den : Int) : Binary64 :=
  ofRatio (decide (num < 0) != decide (den < 0)) num.natAbs den.natAbs

/-- The nearest number to `coefficient * 10 ^ exponent`. Exponents far outside the range are settled
by the number of digits, so they cost nothing. -/
def ofDecimal (negative : Bool) (coefficient : Nat) (exponent : Int) : Binary64 :=
  if coefficient = 0 then ofRatio negative 0 1
  else
    let magnitude := exponent + (Nat.toDigits 10 coefficient).length
    if 400 < magnitude then .infinite negative
    else if magnitude < -400 then ofRatio negative 0 1
    else if 0 ≤ exponent then ofRatio negative (coefficient * Nat.pow 10 exponent.toNat) 1
    else ofRatio negative coefficient (Nat.pow 10 (-exponent).toNat)

def isNaN : Binary64 → Bool
  | .nan => true
  | _ => false

def isFinite : Binary64 → Bool
  | .finite .. => true
  | _ => false

def negative : Binary64 → Bool
  | .nan => false
  | .infinite n | .finite n _ _ => n

def signedUnits (negative : Bool) (units : Nat) : Int :=
  if negative then -units else units

def toRat? : Binary64 → Option Rat
  | .finite n u _ => some ((signedUnits n u : Rat) / (one : Rat))
  | _ => none

def compare? : Binary64 → Binary64 → Option Ordering
  | .nan, _ | _, .nan => none
  | .infinite a, .infinite b => some (compare b.toNat a.toNat)
  | .infinite a, .finite .. => some (if a then .lt else .gt)
  | .finite .., .infinite b => some (if b then .gt else .lt)
  | .finite a u _, .finite b v _ => some (compare (signedUnits a u) (signedUnits b v))

/-- Equality of values: both zeros are equal and a NaN differs from itself. -/
def same (x y : Binary64) : Bool := x.compare? y == some .eq
def less (x y : Binary64) : Bool := x.compare? y == some .lt
def lessOrSame (x y : Binary64) : Bool := x.less y || x.same y
def isZero (x : Binary64) : Bool := x.same zero

def neg : Binary64 → Binary64
  | .nan => .nan
  | .infinite n => .infinite (!n)
  | .finite n u h => .finite (!n) u h

/-- An exact zero sum is negative only when both terms are. -/
def add : Binary64 → Binary64 → Binary64
  | .nan, _ | _, .nan => .nan
  | .infinite a, .infinite b => if a = b then .infinite a else .nan
  | .infinite a, .finite .. => .infinite a
  | .finite .., .infinite b => .infinite b
  | .finite a u _, .finite b v _ =>
    let sum := signedUnits a u + signedUnits b v
    ofUnits (if sum = 0 then a && b else decide (sum < 0)) sum.natAbs 1

def sub (x y : Binary64) : Binary64 := x.add y.neg

def mul : Binary64 → Binary64 → Binary64
  | .nan, _ | _, .nan => .nan
  | .infinite a, .infinite b => .infinite (a != b)
  | .infinite a, .finite b v _ | .finite b v _, .infinite a =>
    if v = 0 then .nan else .infinite (a != b)
  | .finite a u _, .finite b v _ => ofUnits (a != b) (u * v) one

/-- Division; a zero divisor is the caller's concern and counts here as an infinitely small one. -/
def div : Binary64 → Binary64 → Binary64
  | .nan, _ | _, .nan => .nan
  | .infinite _, .infinite _ => .nan
  | .infinite a, .finite b _ _ => .infinite (a != b)
  | .finite a _ _, .infinite b => ofRatio (a != b) 0 1
  | .finite a u _, .finite b v _ =>
    if v = 0 then (if u = 0 then .nan else .infinite (a != b)) else ofUnits (a != b) (u * one) v

def abs : Binary64 → Binary64
  | .nan => .nan
  | .infinite _ => .infinite false
  | .finite _ u h => .finite false u h

instance : Neg Binary64 := ⟨neg⟩
instance : Add Binary64 := ⟨add⟩
instance : Sub Binary64 := ⟨sub⟩
instance : Mul Binary64 := ⟨mul⟩
instance : Div Binary64 := ⟨div⟩

def floor? : Binary64 → Option Int
  | .finite n u _ => some ((signedUnits n u).fdiv one)
  | _ => none

def ceil? (x : Binary64) : Option Int := x.neg.floor?.map (- ·)

/-- The integer nearest to a finite number; a half goes away from zero. -/
def round? : Binary64 → Option Int
  | .finite n u _ => some (signedUnits n ((2 * u + one) / (2 * one)))
  | _ => none

def roundEven? : Binary64 → Option Int
  | .finite n u _ => some (signedUnits n (roundHalfEven u one))
  | _ => none

def truncate? : Binary64 → Option Int
  | .finite n u _ => some (signedUnits n (u / one))
  | _ => none

def toInt? : Binary64 → Option Int
  | .finite n u _ => if u % one = 0 then some (signedUnits n (u / one)) else none
  | _ => none

end Binary64

end RecordDesk
