import RecordDesk.Document.Display
import RecordDesk.Numeric.ExactDecimal.Arithmetic
set_option autoImplicit false

/-!
Counts that nobody has checked. Besides an integer a count may be a truth value, a binary64 number or a
decimal; it is compared by value and handed on as it was given.
-/

namespace RecordDesk

inductive Quantity where
  | number (n : Number)
  | flag (b : Bool)
  | decimal (d : ExactDecimal)
  deriving DecidableEq

namespace Quantity

def ofInt (i : Int) : Quantity := .number (.int i)

def ofDocument? : Document → Option Quantity
  | .number n => some (.number n)
  | .boolean b => some (.flag b)
  | .decimal d => some (.decimal d)
  | _ => none

def toDocument : Quantity → Document
  | .number n => .number n
  | .flag b => .boolean b
  | .decimal d => .decimal d

def toNumber? : Quantity → Except Fault Number
  | .number n => .ok n
  | .flag b => .ok (.int (if b then 1 else 0))
  | .decimal _ => .error (.unsuitable "unsupported operand for a decimal")

/-- The decimal of a quantity; a fraction of binary digits is not taken for one. -/
def toDecimal? : Quantity → Except Fault ExactDecimal
  | .number (.int i) => .ok (.ofInt i)
  | .number (.float _) => .error (.unsuitable "a binary64 number is no decimal")
  | .flag b => .ok (.ofInt (if b then 1 else 0))
  | .decimal d => .ok d

def whole : Quantity → Except Fault Int
  | .number (.int i) => .ok i
  | .number (.float x) => match x.truncate? with
    | some i => .ok i
    | none => .error (if x.isNaN then .nanToInteger else .infinityToInteger)
  | .flag b => .ok (if b then 1 else 0)
  | .decimal d => d.truncate

/-- Order against an integer; nothing is ordered with a NaN, and a decimal that is none cannot be asked. -/
def compareInt? (i : Int) : Quantity → Except Fault (Option Ordering)
  | .number n => .ok (n.compare? (.int i))
  | .flag b => .ok (some (compare (if b then 1 else 0 : Int) i))
  | .decimal d => match d.compareInt? i with
    | some o => .ok (some o)
    | none => .error .invalidDecimal

def isBelow (q : Quantity) (i : Int) : Except Fault Bool := do return (← q.compareInt? i) == some .lt
def isAbove (q : Quantity) (i : Int) : Except Fault Bool := do return (← q.compareInt? i) == some .gt

/-- The quantity itself, or a bound that is above it. -/
def atLeast (bound : Int) (q : Quantity) : Except Fault Quantity := do
  return if ← q.isBelow bound then ofInt bound else q

/-- Whether a quantity lies between two bounds; one that is not ordered does. -/
def isWithin (low high : Int) (q : Quantity) : Except Fault Bool := do
  if ← q.isBelow low then return false
  return !(← q.isAbove high)

/-- Something done to two quantities: to decimals where one of them is a decimal, else to numbers. -/
def combine {α : Type} (decimals : ExactDecimal → ExactDecimal → Except Fault α)
    (numbers : Number → Number → Except Fault α) (a b : Quantity) : Except Fault α :=
  match a, b with
  | .decimal d, b => do decimals d (← b.toDecimal?)
  | a, .decimal d => do decimals (← a.toDecimal?) d
  | a, b => do numbers (← a.toNumber?) (← b.toNumber?)

def productOfNumbers : Number → Number → Except Fault Number
  | .int i, .int j => .ok (.int (i * j))
  | a, b => do return .float ((← a.toBinary64) * (← b.toBinary64))

def times (a b : Quantity) : Except Fault Quantity :=
  combine (fun d e => .decimal <$> d.times e) (fun m n => .number <$> productOfNumbers m n) a b

def predecessor : Quantity → Except Fault Quantity
  | .number (.float x) => .ok (.number (.float (x - Binary64.ofInt 1)))
  | .number (.int i) => .ok (ofInt (i - 1))
  | .flag b => .ok (ofInt (if b then 0 else -1))
  | .decimal d => .decimal <$> d.minus 1

def quotientOfNumbers : Number → Number → Except Fault Binary64
  | .int i, .int j => match Binary64.ofQuotient i j with
    | .infinite _ => .error .quotientTooLarge
    | x => .ok x
  | a, b => do return (← a.toBinary64) / (← b.toBinary64)

def ceilOfNumbers (a b : Number) : Except Fault Int := do
  let x ← quotientOfNumbers a b
  match x.ceil? with
  | some i => return i
  | none => throw (if x.isNaN then .nanToInteger else .infinityToInteger)

def ceilQuotient (a b : Quantity) : Except Fault Int :=
  combine (fun d e => do (← d.quotient e).ceil) ceilOfNumbers a b

theorem whole_ofInt (i : Int) : (ofInt i).whole = .ok i := rfl

end Quantity

namespace Document

/-- The integer of a document: a text that is one, or the whole part of a quantity. -/
def whole (d : Document) : Except Fault Int :=
  match d with
  | .text s => match Numeral.integer? s with
    | some i => .ok i
    | none => .error (.notInteger (quoted s))
  | d => match Quantity.ofDocument? d with
    | some q => q.whole
    | none => .error (.unsuitable ("'" ++ d.typeName ++ "' has no integer"))

end Document

end RecordDesk
