import RecordDesk.Form
import RecordDesk.Text.Casing
set_option autoImplicit false

namespace RecordDesk

structure Condition where
  field : String
  /-- Kept as written: an unknown operator never matches, but it is no malformed condition. -/
  operator : String
  value : Document

inductive Operator where
  | equals | notEquals | gt | lt | gte | lte | contains | notContains | isIn | notIn
  | isEmpty | isNotEmpty | changed
  deriving DecidableEq, Repr

namespace Operator

def name : Operator → String
  | .equals => "equals"
  | .notEquals => "not_equals"
  | .gt => "gt"
  | .lt => "lt"
  | .gte => "gte"
  | .lte => "lte"
  | .contains => "contains"
  | .notContains => "not_contains"
  | .isIn => "in"
  | .notIn => "not_in"
  | .isEmpty => "is_empty"
  | .isNotEmpty => "is_not_empty"
  | .changed => "changed"

def all : List Operator :=
  [.equals, .notEquals, .gt, .lt, .gte, .lte, .contains, .notContains, .isIn, .notIn,
    .isEmpty, .isNotEmpty, .changed]

def ofName? (s : String) : Option Operator := all.find? (·.name == s)

/-- Operators that compare numeric views. -/
def isNumeric : Operator → Bool
  | .gt | .lt | .gte | .lte => true
  | _ => false

def isTextual : Operator → Bool
  | .contains | .notContains => true
  | _ => false

theorem ofName?_name (op : Operator) : ofName? op.name = some op := by cases op <;> decide

end Operator

inductive Comparison where
  | gt | lt | gte | lte
  deriving DecidableEq, Repr

namespace Comparison

/-- A side without number makes every comparison false. -/
def holds (c : Comparison) : Option Binary64 → Option Binary64 → Bool
  | some x, some y => match c with
    | .gt => y.less x
    | .lt => x.less y
    | .gte => y.lessOrSame x
    | .lte => x.lessOrSame y
  | _, _ => false

/-- The sign of the opposite comparison. -/
def failed : Comparison → String
  | .gt => "<="
  | .lt => ">="
  | .gte => "<"
  | .lte => ">"

end Comparison

structure Check where
  matched : Bool
  reason : Option String
  deriving DecidableEq, Repr

namespace Check

def pass : Check := ⟨true, none⟩
def refuse (reason : String) : Check := ⟨false, some reason⟩

/-- A match, or the reason why there is none; a match is told without one. -/
def of (matched : Bool) (reason : Except Fault String) : Except Fault Check :=
  if matched then .ok pass else reason.map refuse

end Check

def occursIn (needle text : List Char) : Bool :=
  match text with
  | [] => needle.isEmpty
  | _ :: rest => needle.isPrefixOf text || occursIn needle rest

namespace Condition

/-- The kind of issue for what is no object depends on how the form was sent. -/
def form (notObject : IssueKind) : Form.Reader Condition :=
  Form.record notObject fun o =>
    Condition.mk <$> Form.required "field" Form.text o <*> Form.required "operator" Form.text o
      <*> Form.optional "value" .null Form.any o

def listForm (notObject : IssueKind) : Form.Reader (List Condition) := Form.list (form notObject)

def toDocument (c : Condition) : Document :=
  .object [("field", .text c.field), ("operator", .text c.operator), ("value", c.value)]

/-- The values that a membership test tries: those of a list, or the one value itself. -/
def candidates : Document → List Value
  | .list ds => Value.ofItems ds
  | d => [Value.of d]

/-- Whether a value strictly equals one of several; the search ends at the first that it equals. -/
def isMember (nans : NaNs) (v : Value) : List Value → Except Fault Bool
  | [] => .ok false
  | w :: rest => match v.strictEquals nans w with
    | .error e => .error e
    | .ok true => .ok true
    | .ok false => isMember nans v rest

def candidateText (vs : List Value) : Except Fault String :=
  return String.intercalate ", " (← vs.mapM Value.printed)

def ordered (c : Comparison) (current expected : Value) : Except Fault Bool := do
  let x ← current.asNumber
  let y ← expected.asNumber
  return c.holds x y

/-- Whether the text of the expected value occurs in the text of the current one, case aside. -/
def found (current expected : Value) : Bool :=
  occursIn (lower expected.asText).toList (lower current.asText).toList

/-- What an operator decides of the field's value and the rule's, reasons aside. -/
def decision (nans : NaNs) (current : Value) (expected : Document) : Operator → Except Fault Bool
  | .equals => current.strictEquals nans (Value.of expected)
  | .notEquals => (current.strictEquals nans (Value.of expected)).map not
  | .gt => ordered .gt current (Value.of expected)
  | .lt => ordered .lt current (Value.of expected)
  | .gte => ordered .gte current (Value.of expected)
  | .lte => ordered .lte current (Value.of expected)
  | .contains => .ok (found current (Value.of expected))
  | .notContains => .ok (!found current (Value.of expected))
  | .isIn => isMember nans current (candidates expected)
  | .notIn => (isMember nans current (candidates expected)).map not
  | .isEmpty => .ok current.isEmpty
  | .isNotEmpty => .ok (!current.isEmpty)
  | .changed => .ok true

/-- Why an operator refuses a field whose text is known; `changed` never does. -/
def refusal (field shown : String) (expected : Document) : Operator → Except Fault String
  | .equals => against "!=="
  | .notEquals => against "==="
  | .gt => against Comparison.gt.failed
  | .lt => against Comparison.lt.failed
  | .gte => against Comparison.gte.failed
  | .lte => against Comparison.lte.failed
  | .contains => return "'" ++ shown ++ "' does not contain '" ++ (← (Value.of expected).printed) ++ "'"
  | .notContains => return "'" ++ shown ++ "' contains '" ++ (← (Value.of expected).printed) ++ "'"
  | .isIn => return "'" ++ shown ++ "' not in [" ++ (← candidateText (candidates expected)) ++ "]"
  | .notIn => return "'" ++ shown ++ "' is in [" ++ (← candidateText (candidates expected)) ++ "]"
  | .isEmpty => .ok ("Field '" ++ field ++ "' is not empty")
  | .isNotEmpty => .ok ("Field '" ++ field ++ "' is empty")
  | .changed => .ok ""
where
  against (sign : String) : Except Fault String :=
    return shown ++ " " ++ sign ++ " " ++ (← (Value.of expected).printed)

/-- Checks a field that holds something. Its text is asked for whatever the operator; that of the rule's
value is before a search, and for a refusal that tells it. -/
def check (nans : NaNs) (field : String) (op : Operator) (current : Value) (expected : Document) :
    Except Fault Check := do
  let shown ← current.printed
  if op.isTextual then let _ ← (Value.of expected).printed
  Check.of (← decision nans current expected op) (refusal field shown expected op)

/-- A field that is absent or null matches `is_empty` alone, whatever else the operator is. -/
def checkNull (field operator : String) : Check :=
  if operator = Operator.isEmpty.name then .pass
  else if operator = Operator.isNotEmpty.name then .refuse ("Field '" ++ field ++ "' is empty")
  else .refuse ("Field '" ++ field ++ "' is null/undefined")

def evaluate (nans : NaNs) (c : Condition) (fields : Fields) : Except Fault Check :=
  match fields.lookup c.field with
  | none | some .null => .ok (checkNull c.field c.operator)
  | some current => match Operator.ofName? c.operator with
    | none => .ok (.refuse ("Unknown operator: " ++ c.operator))
    | some op => check nans c.field op current c.value

structure Detail where
  condition : Condition
  check : Check

def Detail.toDocument (d : Detail) : Document :=
  .object [("condition", d.condition.toDocument), ("matched", .boolean d.check.matched),
    ("reason", Document.ofText? d.check.reason)]

def evaluateAll (nans : NaNs) (cs : List Condition) (fields : Fields) : Except Fault (List Detail) :=
  cs.mapM fun c => do return ⟨c, ← c.evaluate nans fields⟩

def met (details : List Detail) : Nat := details.countP (·.check.matched)

/-- All conditions hold; a rule without conditions matches. -/
def allMatched (details : List Detail) : Bool := met details == details.length

end Condition

structure FieldMeta where
  key : String
  type : String
  isFilterable : Bool
  isSortable : Bool
  name : Option String
  deriving DecidableEq, Repr

/-- The name of the field, or its key where the name is absent or empty. -/
def FieldMeta.label (f : FieldMeta) : String :=
  match f.name with
  | some "" | none => f.key
  | some s => s

/-- The field with a key; of several the last counts. -/
def FieldMeta.find? (fields : List FieldMeta) (key : String) : Option FieldMeta :=
  fields.reverse.find? (·.key == key)

namespace Condition

def problems (fields : List FieldMeta) (c : Condition) : List String :=
  match FieldMeta.find? fields c.field with
  | none => ["Unknown field '" ++ c.field ++ "'"]
  | some f => match Operator.ofName? c.operator with
    | none => ["Unknown operator: " ++ c.operator]
    | some op =>
      let refused (kind : String) :=
        ["Operator '" ++ op.name ++ "' not valid for " ++ kind ++ " field '" ++ c.field ++ "'"]
      if f.type = "number" ∧ op.isTextual then refused "numeric"
      else if f.type = "text" ∧ op.isNumeric then refused "text"
      else []

end Condition

end RecordDesk
