import RecordDesk.Numeric.Binary64
import RecordDesk.Text.Blank
import RecordDesk.Text.Casing
import RecordDesk.Text.Digit
set_option autoImplicit false

/-!
Numbers as people write them: blanks around, an underscore between two digits, and words in any case for
infinity and not-a-number. Which characters are digits is a parameter.
-/

namespace RecordDesk.Numeral

abbrev DigitClass := Char → Option Nat

def startsWithDigit (value? : DigitClass) : List Char → Bool
  | [] => false
  | c :: _ => (value? c).isSome

/-- The text without underscores, if each of them stands between two digits. -/
def joined (value? : DigitClass) : Bool → List Char → Option (List Char)
  | _, [] => some []
  | afterDigit, '_' :: rest =>
    if afterDigit && startsWithDigit value? rest then joined value? false rest else none
  | _, c :: rest => (joined value? (value? c).isSome rest).map (c :: ·)

def digits (value? : DigitClass) : List Char → List Nat × List Char
  | [] => ([], [])
  | c :: rest => match value? c with
    | none => ([], c :: rest)
    | some n => (n :: (digits value? rest).1, (digits value? rest).2)

def ofDigits (ds : List Nat) : Nat := ds.foldl (fun n d => 10 * n + d) 0

def sign : List Char → Bool × List Char
  | '-' :: rest => (true, rest)
  | '+' :: rest => (false, rest)
  | s => (false, s)

def signedInteger? (value? : DigitClass) (s : List Char) : Option Int :=
  let (minus, body) := sign s
  match digits value? body with
  | (d :: ds, []) =>
    let n : Int := ofDigits (d :: ds)
    some (if minus then -n else n)
  | _ => none

def exponent? (value? : DigitClass) : List Char → Option Int
  | [] => some 0
  | 'e' :: rest | 'E' :: rest => signedInteger? value? rest
  | _ => none

/-- A decimal without sign: digits with at most one point among or around them, and an exponent. -/
def decimal? (value? : DigitClass) (negative : Bool) (s : List Char) : Option Binary64 :=
  let (whole, afterWhole) := digits value? s
  let (fraction, rest) := match afterWhole with
    | '.' :: more => digits value? more
    | other => ([], other)
  if whole.isEmpty && fraction.isEmpty then none
  else (exponent? value? rest).map fun e =>
    Binary64.ofDecimal negative (ofDigits (whole ++ fraction)) (e - fraction.length)

def number? (value? : DigitClass) (s : List Char) : Option Binary64 :=
  let (negative, body) := sign s
  match String.ofList (body.map Char.toLower) with
  | "inf" | "infinity" => some (.infinite negative)
  | "nan" => some .nan
  | _ => decimal? value? negative body

/-- Reads a whole text as a binary64 number; digits may be of any script, and only white space may stand
around. -/
def binary64? (s : String) : Option Binary64 :=
  (joined digitValue? false (stripWhere isWhiteSpace s.toList)).bind (number? digitValue?)

def digitLimit : Nat := 4300

/-- Reads a whole text as an integer; digits may be of any script, and only white space may stand around. -/
def integer? (s : String) : Option Int :=
  (joined digitValue? false (stripWhere isWhiteSpace s.toList)).bind fun t =>
    if digitLimit < (t.filter fun c => (digitValue? c).isSome).length then none
    else signedInteger? digitValue? t

end RecordDesk.Numeral
