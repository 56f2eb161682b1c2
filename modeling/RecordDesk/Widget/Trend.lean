import RecordDesk.Document.Display
set_option autoImplicit false

namespace RecordDesk

inductive Direction where
  | up | down | neutral
  deriving DecidableEq, Repr

def Direction.name : Direction → String
  | .up => "up"
  | .down => "down"
  | .neutral => "neutral"

structure Trend where
  value : Binary64
  percentage : Binary64
  direction : Direction

namespace Trend

def floor (x : Binary64) : Except Fault Int :=
  match x.floor? with
  | some i => .ok i
  | none => .error (if x.isNaN then .nanToInteger else .infinityToInteger)

def half : Binary64 := Binary64.ofQuotient 1 2
def hundred : Binary64 := Binary64.ofInt 100

/-- Rounded to two places; a half goes up. -/
def roundTwo (x : Binary64) : Except Fault Binary64 := do
  return Binary64.ofInt (← floor (x * hundred + half)) / hundred

def directionOf (change : Binary64) : Direction :=
  if Binary64.zero.less change then .up
  else if change.less Binary64.zero then .down
  else .neutral

/-- The change as a share of the previous figure; a previous figure of zero gives zero. -/
def percentageOf (change : Binary64) (previous : Binary64) : Except Fault Binary64 :=
  if previous.isZero then .ok Binary64.zero else roundTwo (change / previous * hundred)

def between (current previous : Binary64) : Except Fault Trend := do
  let change := current - previous
  return ⟨change, ← percentageOf change previous, directionOf change⟩

/-- A figure as it may be given: a number, a truth value, a decimal, or a text that is a number. -/
def figure : Document → Except Fault Binary64
  | .number n => n.toBinary64
  | .boolean b => .ok (Binary64.ofInt (if b then 1 else 0))
  | .decimal d => match d.toBinary64? with
    | some x => .ok x
    | none => .error .nanToFloat
  | .text s => match Numeral.binary64? s with
    | some x => .ok x
    | none => .error (.notNumeric (Document.quoted s))
  | d => .error (.unsuitable ("'" ++ d.typeName ++ "' is no figure"))

/-- A trend of figures as they may be given. What becomes zero only as a figure cannot be divided by. -/
def ofDocuments (current previous : Document) : Except Fault Trend := do
  let current ← figure current
  let divisor ← figure previous
  if divisor.isZero && previous.isTruthy then throw .divisionByZero
  between current divisor

end Trend

end RecordDesk
