import RecordDesk.Fault
import RecordDesk.Numeric.ExactDecimal
set_option autoImplicit false

/-!
Differences, products and quotients of decimals. A result is exact as long as it has no more digits than are
kept, and is rounded to these otherwise, a half to the even neighbour. What has no result is a fault.
-/

namespace RecordDesk

namespace Decimal

def precision : Nat := 28

def rounded (d : Decimal) : Decimal :=
  let surplus := digitCount d.coefficient - precision
  let kept := roundHalfEven d.coefficient (Nat.pow 10 surplus)
  if precision < digitCount kept then ⟨kept / 10, d.exponent + surplus + 1⟩ else ⟨kept, d.exponent + surplus⟩

end Decimal

namespace ExactDecimal

def ofInt (i : Int) : ExactDecimal := .finite (decide (i < 0)) ⟨i.natAbs, 0⟩

def isNegative : ExactDecimal → Bool
  | .finite negative _ | .infinite negative | .nan negative _ _ => negative

/-- What comes of a decimal that is no number: the same, unless it signals. -/
def passOn : ExactDecimal → Except Fault ExactDecimal
  | .nan _ true _ => .error .invalidDecimal
  | d => .ok d

def countAt (exponent : Int) (negative : Bool) (d : Decimal) : Int :=
  let size : Int := d.coefficient * Nat.pow 10 (d.exponent - exponent).toNat
  if negative then -size else size

def minus (d : ExactDecimal) (i : Int) : Except Fault ExactDecimal :=
  match d with
  | .nan .. => passOn d
  | .infinite _ => .ok d
  | .finite negative digits =>
    let exponent := min digits.exponent 0
    let difference := countAt exponent negative digits - i * Nat.pow 10 (-exponent).toNat
    .ok (.finite (decide (difference < 0)) (Decimal.rounded ⟨difference.natAbs, exponent⟩))

def times (a b : ExactDecimal) : Except Fault ExactDecimal :=
  let negative := a.isNegative != b.isNegative
  match a, b with
  | .nan .., _ => if b.isSignalling then .error .invalidDecimal else passOn a
  | _, .nan .. => passOn b
  | .finite _ x, .finite _ y =>
    .ok (.finite negative (Decimal.rounded ⟨x.coefficient * y.coefficient, x.exponent + y.exponent⟩))
  | a, b => if a.isZero || b.isZero then .error .invalidDecimal else .ok (.infinite negative)

/-- The digits of a quotient. Past those that are kept a last one tells whether anything is left over. -/
def quotientDigits (x y : Decimal) : Decimal :=
  let shift := digitCount y.coefficient + Decimal.precision + 1 - digitCount x.coefficient
  let scaled := x.coefficient * Nat.pow 10 shift
  let whole := scaled / y.coefficient
  let marked := if scaled % y.coefficient ≠ 0 ∧ whole % 5 = 0 then whole + 1 else whole
  Decimal.rounded ⟨marked, x.exponent - y.exponent - shift⟩

def quotient (a b : ExactDecimal) : Except Fault ExactDecimal :=
  let negative := a.isNegative != b.isNegative
  match a, b with
  | .nan .., _ => if b.isSignalling then .error .invalidDecimal else passOn a
  | _, .nan .. => passOn b
  | .infinite _, .infinite _ => .error .invalidDecimal
  | .infinite _, .finite .. => .ok (.infinite negative)
  | .finite .., .infinite _ => .ok (.finite negative ⟨0, 0⟩)
  | .finite _ x, .finite _ y => .ok (.finite negative (quotientDigits x y))

def ceil (d : ExactDecimal) : Except Fault Int :=
  match d with
  | .nan .. => .error .nanDecimalToInteger
  | .infinite _ => .error .infiniteDecimalToInteger
  | .finite negative digits =>
    if 0 ≤ digits.exponent then .ok (countAt 0 negative digits)
    else
      let signed : Int := if negative then -(digits.coefficient : Int) else digits.coefficient
      .ok (-((-signed).fdiv (Nat.pow 10 (-digits.exponent).toNat)))

def truncate (d : ExactDecimal) : Except Fault Int :=
  match d with
  | .nan .. => .error .nanDecimalToInteger
  | .infinite _ => .error .infiniteDecimalToInteger
  | .finite negative digits =>
    if 0 ≤ digits.exponent then .ok (countAt 0 negative digits)
    else
      let size : Int := digits.coefficient / Nat.pow 10 (-digits.exponent).toNat
      .ok (if negative then -size else size)

end ExactDecimal

end RecordDesk
