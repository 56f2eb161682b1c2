import RecordDesk.Numeric.Number
import RecordDesk.Text.Numeral
set_option autoImplicit false

namespace RecordDesk

inductive ExactDecimal where
  | finite (negative : Bool) (digits : Decimal)
  | infinite (negative : Bool)
  /-- No number; a signalling one can not even be compared or converted. The payload is shown if it is not
  zero. -/
  | nan (negative signalling : Bool) (payload : Nat)
  deriving DecidableEq

namespace ExactDecimal

def ofExponent? (s : List Char) : Option Int := Numeral.exponent? digitValue? s

def readFinite? (negative : Bool) (s : List Char) : Option ExactDecimal :=
  let (whole, afterWhole) := Numeral.digits digitValue? s
  let (fraction, rest) := match afterWhole with
    | '.' :: more => Numeral.digits digitValue? more
    | other => ([], other)
  if whole.isEmpty && fraction.isEmpty then none
  else (ofExponent? rest).map fun e =>
    .finite negative ⟨Numeral.ofDigits (whole ++ fraction), e - fraction.length⟩

def readNaN? (negative signalling : Bool) (payload : List Char) : Option ExactDecimal :=
  match Numeral.digits digitValue? payload with
  | (ds, []) => some (.nan negative signalling (Numeral.ofDigits ds))
  | _ => none

/-- Reads a written decimal; underscores do not count, nor do blanks around it. -/
def read? (text : String) : Option ExactDecimal :=
  let s := (stripWhere isBlank text.toList).filter (· != '_')
  let (negative, body) := Numeral.sign s
  match body.map Char.toLower with
  | 'i' :: 'n' :: 'f' :: rest =>
    if rest.isEmpty || rest == "inity".toList then some (.infinite negative) else none
  | 'n' :: 'a' :: 'n' :: rest => readNaN? negative false rest
  | 's' :: 'n' :: 'a' :: 'n' :: rest => readNaN? negative true rest
  | _ => readFinite? negative body

/-- Digits stand positionally as long as no zeros have to be added behind them and at most five behind the
point; others carry a power of ten. -/
def layout (d : Decimal) : String :=
  let digits := Nat.toDigits 10 d.coefficient
  let left : Int := digits.length + d.exponent
  let point : Int := if d.exponent ≤ 0 ∧ -6 < left then left else 1
  let whole := if point ≤ 0 then ['0'] else digits.take point.toNat
  let fraction := List.replicate (-point).toNat '0' ++ digits.drop point.toNat
  let power := left - point
  String.ofList (whole ++ (if fraction.isEmpty then [] else '.' :: fraction))
    ++ (if power = 0 then "" else "E" ++ (if power < 0 then "-" else "+") ++ digitText power.natAbs)

def text : ExactDecimal → String
  | .finite negative d => (if negative then "-" else "") ++ layout d
  | .infinite negative => (if negative then "-" else "") ++ "Infinity"
  | .nan negative signalling payload =>
    (if negative then "-" else "") ++ (if signalling then "sNaN" else "NaN")
      ++ (if payload = 0 then "" else digitText payload)

def isZero : ExactDecimal → Bool
  | .finite _ d => d.coefficient == 0
  | _ => false

def isSignalling : ExactDecimal → Bool
  | .nan _ signalling _ => signalling
  | _ => false

def toBinary64? : ExactDecimal → Option Binary64
  | .finite negative d => some (Binary64.ofDecimal negative d.coefficient d.exponent)
  | .infinite negative => some (.infinite negative)
  | .nan _ signalling _ => if signalling then none else some .nan

def toRat? : ExactDecimal → Option Rat
  | .finite negative d =>
    let size : Rat :=
      if 0 ≤ d.exponent then ((d.coefficient * Nat.pow 10 d.exponent.toNat : Nat) : Rat)
      else (d.coefficient : Rat) / ((Nat.pow 10 (-d.exponent).toNat : Nat) : Rat)
    some (if negative then -size else size)
  | _ => none

def isFinite : ExactDecimal → Bool
  | .finite .. => true
  | _ => false

def toInt? : ExactDecimal → Option Int
  | .finite negative d =>
    let size : Option Nat :=
      if d.coefficient = 0 then some 0
      else if 0 ≤ d.exponent then some (d.coefficient * Nat.pow 10 d.exponent.toNat)
      else if digitCount d.coefficient ≤ (-d.exponent).toNat then none
      else
        let divisor := Nat.pow 10 (-d.exponent).toNat
        if d.coefficient % divisor = 0 then some (d.coefficient / divisor) else none
    size.map fun n => if negative then -(n : Int) else n
  | _ => none

/-- Order against an integer; there is none for what is no number. A decimal below one in size lies between
the integers next to zero, and one of more digits than an integer is the larger. -/
def compareInt? (i : Int) : ExactDecimal → Option Ordering
  | .nan .. => none
  | .infinite negative => some (if negative then .lt else .gt)
  | .finite negative d =>
    let sign : Int := if d.coefficient = 0 then 0 else if negative then -1 else 1
    let whole : Int := digitCount d.coefficient + d.exponent
    if sign ≠ 0 ∧ whole ≤ 0 then some (if 2 * i < sign then .gt else .lt)
    else if sign ≠ 0 ∧ digitCount i.natAbs < whole then some (compare sign 0)
    else if 0 ≤ d.exponent then some (compare (sign * (d.coefficient * Nat.pow 10 d.exponent.toNat)) i)
    else some (compare (sign * d.coefficient) (i * Nat.pow 10 (-d.exponent).toNat))

end ExactDecimal

end RecordDesk
