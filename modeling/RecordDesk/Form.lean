import RecordDesk.Calendar.Reading
import RecordDesk.Document
import RecordDesk.Text.Integer
set_option autoImplicit false

/-!
Checked reading of input forms. Every issue of a form is found, in the order of its parts, and each carries
the path to its place. Scalars are read leniently: a number may come as a text, a flag as a word.
-/

namespace RecordDesk

def Step.toDocument : Step → Document
  | .key name => .text name
  | .index i => .ofInt i

def Issue.toDocument (i : Issue) : Document :=
  .object [("loc", .list (i.path.map Step.toDocument)), ("type", .text i.kind.name)]

/-- A part that was read, or all that is wrong with it. -/
inductive Checked (α : Type) where
  | valid (a : α)
  | invalid (issues : List Issue)

namespace Checked

variable {α β : Type}

def map (f : α → β) : Checked α → Checked β
  | .valid a => .valid (f a)
  | .invalid issues => .invalid issues

/-- Issues of both parts are kept. -/
def apply : Checked (α → β) → Checked α → Checked β
  | .valid f, .valid a => .valid (f a)
  | .valid _, .invalid issues => .invalid issues
  | .invalid issues, .valid _ => .invalid issues
  | .invalid first, .invalid second => .invalid (first ++ second)

instance : Applicative Checked where
  pure := .valid
  map := map
  seq f a := f.apply (a ())

/-- The same reading, seen from one step further up. -/
def under (step : Step) : Checked α → Checked α
  | .valid a => .valid a
  | .invalid issues => .invalid (issues.map fun i => ⟨step :: i.path, i.kind⟩)

def toExcept (subject : String) : Checked α → Except Fault α
  | .valid a => .ok a
  | .invalid issues => .error (.invalid subject issues)

def items (read : Document → Checked α) (start : Nat) : List Document → Checked (List α)
  | [] => .valid []
  | d :: rest => List.cons <$> (read d).under (.index start) <*> items read (start + 1) rest

def members (read : Document → Checked α) : Members → Checked (List (String × α))
  | [] => .valid []
  | (k, d) :: rest => (fun a more => (k, a) :: more) <$> (read d).under (.key k) <*> members read rest

end Checked

namespace Form

variable {α : Type}

abbrev Reader (α : Type) := Document → Checked α

def fail (kind : IssueKind) : Checked α := .invalid [⟨[], kind⟩]

def any : Reader Document := .valid

def text : Reader String
  | .text s => .valid s
  | _ => fail .stringType

def choice (options : List String) : Reader String
  | .text s => if options.contains s then .valid s else fail .literalError
  | _ => fail .literalError

def wideBound : Int := 0x8000000000000000

/-- A number with a fraction as an integer; it has to be whole and of a size that 64 bits hold. -/
def integerOfBinary64 (x : Binary64) : Checked Int :=
  if !x.isFinite then fail .finiteNumber
  else match x.toInt? with
    | none => fail .intFromFloat
    | some i => if -wideBound < i ∧ i < wideBound then .valid i else fail .intParsingSize

def integer : Reader Int
  | .number (.int i) => .valid i
  | .number (.float x) => integerOfBinary64 x
  | .decimal d =>
    if !d.isFinite then fail .finiteNumber
    else match d.toInt? with
      | some i => .valid i
      | none => fail .intFromFloat
  | .boolean b => .valid (if b then 1 else 0)
  | .text s => match Numeral.entry s with
    | .integer i => .valid i
    | .tooLong => fail .intParsingSize
    | .unreadable => fail .intParsing
  | _ => fail .intType

def trueWords : List String := ["1", "on", "t", "true", "y", "yes"]
def falseWords : List String := ["0", "off", "f", "false", "n", "no"]

def flagOfInt (i : Int) : Checked Bool :=
  if i = 0 then .valid false else if i = 1 then .valid true else fail .boolParsing

/-- What is no integer of 64 bits is no flag at all. -/
def flagOfBinary64 (x : Binary64) : Checked Bool :=
  match integerOfBinary64 x with
  | .valid i => flagOfInt i
  | .invalid _ => fail .boolType

def flag : Reader Bool
  | .boolean b => .valid b
  | .number (.int i) => if -wideBound ≤ i ∧ i < wideBound then flagOfInt i else fail .boolType
  | .number (.float x) => flagOfBinary64 x
  | .decimal d => match d.toBinary64? with
    | some x => flagOfBinary64 x
    | none => fail .boolType
  | .text s =>
    let word := String.ofList (s.toList.map Char.toLower)
    if trueWords.contains word then .valid true
    else if falseWords.contains word then .valid false
    else fail .boolParsing
  | _ => fail .boolType

/-- A number in ASCII digits: with white space around it, or else with underscores in it. -/
def binary64Text? (s : String) : Option Binary64 :=
  (Numeral.number? asciiDigitValue? (stripWhere isWhiteSpace s.toList)).orElse fun _ =>
    let t := s.toList
    if t.head? = some '_' ∨ t.getLast? = some '_' ∨ !t.contains '_' ∨ (t.zip t.tail).contains ('_', '_')
    then none else Numeral.number? asciiDigitValue? (t.filter (· != '_'))

def binary64 : Reader Binary64
  | .number n => match n.toBinary64 with
    | .ok x => .valid x
    | .error _ => fail .floatType
  | .boolean b => .valid (Binary64.ofInt (if b then 1 else 0))
  | .decimal d => match d.toBinary64? with
    | some x => .valid x
    | none => fail .floatType
  | .text s => match binary64Text? s with
    | some x => .valid x
    | none => fail .floatParsing
  | _ => fail .floatType

/-- A moment that was read has to be one of the calendar's years. -/
def momentInYears (m : Moment) : Checked Moment :=
  if m.inRange then .valid m else fail .datetimeParsing

def momentOfCount : Option Moment → Checked Moment
  | some m => momentInYears m
  | none => fail .datetimeParsing

def moment : Reader Moment
  | .date (.moment m) => .valid m
  | .date (.date d) => .valid (Moment.midnight d)
  | .text s => match Moment.read? s with
    | some m => momentInYears m
    | none => fail .datetimeFromDateParsing
  | .number (.int i) =>
    if (Number.int i).toBinary64.isOk then momentOfCount (Moment.ofCount? i) else fail .datetimeType
  | .number (.float x) => momentOfCount (Moment.ofFloat? x)
  | .decimal d => match d.toBinary64? with
    | some x => momentOfCount (Moment.ofFloat? x)
    | none => fail .datetimeType
  | _ => fail .datetimeType

def list (item : Reader α) : Reader (List α)
  | .list ds => Checked.items item 0 ds
  | _ => fail .listType

def object : Reader Members
  | .object members => .valid members
  | _ => fail .dictType

def mapping (item : Reader α) : Reader (List (String × α))
  | .object members => Checked.members item members
  | _ => fail .dictType

def nullable (read : Reader α) : Reader (Option α)
  | .null => .valid none
  | d => some <$> read d

def between (low high : Option Int) : Reader Int := fun d =>
  match integer d with
  | .invalid issues => .invalid issues
  | .valid i =>
    if high.any fun h => decide (h < i) then fail .lessThanEqual
    else if low.any fun l => decide (i < l) then fail .greaterThanEqual
    else .valid i

def record (notObject : IssueKind) (read : Members → Checked α) : Reader α
  | .object members => read members
  | _ => fail notObject

def required (key : String) (read : Reader α) (members : Members) : Checked α :=
  match members.lookup key with
  | some d => (read d).under (.key key)
  | none => .invalid [⟨[.key key], .missing⟩]

def optional (key : String) (absent : α) (read : Reader α) (members : Members) : Checked α :=
  match members.lookup key with
  | some d => (read d).under (.key key)
  | none => .valid absent

end Form

end RecordDesk
