import RecordDesk.Text.Numeral
set_option autoImplicit false

/-!
Integers as people enter them in a form: with blanks around, a plus sign, a zero fraction, zeros in front
and underscores among the digits. Zeros and underscores in front are dropped up to what follows them, which
may be a minus.
-/

namespace RecordDesk.Numeral

/-- The text without a fraction that is all zeros; a point alone is no fraction. -/
def withoutZeroFraction (s : List Char) : List Char :=
  match s.span (· != '.') with
  | (whole, '.' :: '0' :: rest) => if rest.all (· == '0') then whole else s
  | _ => s

def isLeading (c : Char) : Bool := ('1' ≤ c && c ≤ '9') || c == '-'

/-- What is left after zeros and underscores: the number itself, or what comes last if there is nothing
else. `last` is the character before. -/
def afterZeros (last : Char) : List Char → Option (List Char)
  | [] => some [last]
  | c :: rest =>
    if c == '0' || c == '_' then afterZeros c rest
    else if isLeading c then some (c :: rest)
    else if c == '.' then some (last :: c :: rest)
    else none

def withoutLeadingZeros : List Char → Option (List Char)
  | [] => none
  | c :: rest =>
    if c == '0' then afterZeros c rest
    else if isLeading c then some (c :: rest)
    else none

/-- The text without underscores; one at an end or next to another keeps them all. -/
def withoutUnderscores (s : List Char) : List Char :=
  if s.head? = some '_' ∨ s.getLast? = some '_' ∨ (s.zip s.tail).contains ('_', '_') then s
  else s.filter (· != '_')

/-- The text without a plus sign, which no minus may follow. -/
def withoutPlus : List Char → Option (List Char)
  | '+' :: '-' :: _ => none
  | '+' :: rest => some rest
  | s => some s

inductive Entry where
  | integer (i : Int)
  | tooLong
  | unreadable
  deriving DecidableEq, Repr

/-- Digits with a minus perhaps; zero alone starts with a zero. -/
def entryOfDigits (s : List Char) : Entry :=
  let (minus, body) := match s with
    | '-' :: rest => (true, rest)
    | _ => (false, s)
  match digits asciiDigitValue? body with
  | ([], _) => .unreadable
  | (0 :: _ :: _, _) => .unreadable
  | (ds, rest) =>
    if digitLimit < ds.length then .tooLong
    else if !rest.isEmpty then .unreadable
    else
      let n : Int := ofDigits ds
      .integer (if minus then -n else n)

def entry (s : String) : Entry :=
  match (withoutPlus (stripWhere isWhiteSpace s.toList)).bind fun t =>
      withoutLeadingZeros (withoutZeroFraction t) with
  | none => .unreadable
  | some t => entryOfDigits (withoutUnderscores t)

end RecordDesk.Numeral
