import RecordDesk.Document.Pairs
import RecordDesk.Store
import RecordDesk.Widget.Plan
set_option autoImplicit false

namespace RecordDesk

namespace Store

open Widget

def inWindow (p : Predicate) (created : Moment) : Bool :=
  (p.start.all fun m => decide (m.wall ≤ created.wall)) &&
    p.stop.all fun m => if p.stopInclusive then decide (created.wall ≤ m.wall) else
    decide (created.wall < m.wall)

/-- The value of a filter as the store compares it: it has to be portable. -/
def wantedCell (f : Filter) : Except Fault Cell :=
  let value := f.value.writable.toDocument
  if value.isPortable then .ok (Cell.of value) else .error Path.malformed

/-- Whether a record passes every filter. One that it fails ends the test, and the filters after it are not
looked at. -/
def passes (fields : Document) : List Filter → Except Fault Bool
  | [] => .ok true
  | f :: rest => do
    let found ← Cell.field Cell.of f.key fields
    let wanted ← wantedCell f
    if found.matches? wanted then passes fields rest else return false

def candidates (s : Store) (p : Predicate) : Except Fault (List RecordRow) := do
  let rows := (← s.records.read).filter fun r =>
    p.tenantId.isText r.tenantId && p.entityId.isText r.entityId && inWindow p r.createdAt
  return rows.mergeSort fun a b => a.createdAt.wall ≤ b.createdAt.wall

def select (s : Store) (p : Predicate) : Except Fault (List RecordRow) := do
  (← candidates s p).filterM fun r => passes r.fields p.filters

/-- A sum on its way: exact as long as only integers came and they fit. -/
structure Sum where
  real : Binary64 := Binary64.zero
  whole : Int := 0
  isReal : Bool := false
  overflowed : Bool := false

def Sum.add (s : Sum) : Number → Sum
  | .int i =>
    let s := { s with real := s.real + Binary64.ofInt i }
    if s.isReal then s
    else if Cell.fitsWord (s.whole + i) then { s with whole := s.whole + i }
    else { s with isReal := true, overflowed := true }
  | .float x => { s with real := s.real + x, isReal := true }

def sumOf (ns : List Number) : Sum := ns.foldl Sum.add {}

/-- A figure that came out as no number is absent. -/
def figure (x : Binary64) : Cell := if x.isNaN then .null else .number (.float x)

def total (ns : List Number) : Except Fault Cell :=
  if ns.isEmpty then .ok .null
  else
    let s := sumOf ns
    if s.overflowed then .error (.storage "integer overflow")
    else if s.isReal then .ok (figure s.real)
    else .ok (.number (.int s.whole))

def average (ns : List Number) : Cell :=
  if ns.isEmpty then .null else figure ((sumOf ns).real / Binary64.ofInt ns.length)

/-- The first number that no later one improves on. -/
def best (improves : Ordering) : List Number → Cell
  | [] => .null
  | n :: rest =>
    .number (rest.foldl (fun kept m => if m.compare? kept = some improves then m else kept) n)

/-- A figure over measures; measures that are no numbers do not count. -/
def compute (metric : Metric) (cells : List Cell) : Except Fault Cell :=
  let ns := cells.filterMap fun c => match c with
    | .number n => some n
    | _ => none
  match metric with
  | .count => .ok (.number (.int cells.length))
  | .sum => total ns
  | .avg => .ok (average ns)
  | .min => .ok (best .lt ns)
  | .max => .ok (best .gt ns)

def measureOf (target : Option String) (r : RecordRow) : Except Fault Cell :=
  match target with
  | some key => Cell.field Cell.measure key r.fields
  | none => .ok .null

/-- One figure over all records of a query; where there is none it is zero. -/
def aggregate (s : Store) (q : AggregateQuery) : Except Fault Binary64 := do
  let rows ← select s q.predicate
  let cells ← match q.metric with
    | .count => pure (rows.map fun _ => Cell.null)
    | _ => rows.mapM (measureOf q.targetField)
  return (← compute q.metric cells).toBinary64

structure Group where
  label : String
  value : Binary64

/-- The label and the measure of a record in a grouped query. A record without label or without measure
takes no part, and one without label is not measured. -/
def labelled? (q : AggregateQuery) (key : String) (r : RecordRow) : Except Fault (Option (Cell × Cell)) := do
  match ← Cell.field Cell.label key r.fields with
  | .null => return none
  | label => match q.metric with
    | .count => return some (label, .null)
    | _ => match ← measureOf q.targetField r with
      | .null => return none
      | measure => return some (label, measure)

def gather (pairs : List (Cell × Cell)) : List (Cell × List Cell) :=
  (pairs.mergeSort fun a b => a.1.order b.1 != .gt).foldr (fun (label, measure) groups =>
    match groups with
    | (next, measures) :: rest =>
      if label.order next == .eq then (label, measure :: measures) :: rest else (label, [measure]) :: groups
    | [] => [(label, [measure])]) []

/-- Whether one group stands before another: by figure, then by label. -/
def groupBefore (order : SortOrder) (a b : Cell × Cell) : Bool :=
  let byValue := match order with
    | .asc => a.2.order b.2
    | .desc => b.2.order a.2
  byValue == .lt || (byValue == .eq && a.1.order b.1 != .gt)

/-- The first rows up to a bound; a negative one bounds nothing. -/
def bounded {α : Type} (limit : Option Int) (rows : List α) : List α :=
  match limit with
  | none => rows
  | some n => if n < 0 then rows else rows.take n.toNat

/-- The figure of a group; every zero is the positive one. -/
def shownFigure (c : Cell) : Binary64 := if c.toBinary64.isZero then Binary64.zero else c.toBinary64

def grouped (s : Store) (q : AggregateQuery) (key : String) : Except Fault (List Group) := do
  let limit ← q.limit.mapM Quantity.whole
  let _ ← s.records.read
  if !(limit.all Cell.fitsWord) then throw .integerTooWide
  let pairs ← (← select s q.predicate).mapM (labelled? q key)
  let figures ← (gather (pairs.filterMap id)).mapM fun (label, measures) => do
    return (label, ← compute q.metric measures)
  let sorted := figures.mergeSort (groupBefore q.sortOrder)
  return (bounded limit sorted).map fun (label, value) => ⟨label.shown, shownFigure value⟩

/-- A record with its fields, and with the name of its creator if the creator is known. -/
structure Listed where
  record : RecordRow
  entries : Entries
  creator : Option String

def listed (users : List UserRow) (r : RecordRow) : Except Fault Listed := do
  return ⟨r, ← r.fields.pairsOrNone,
    r.createdBy.bind fun id => (users.find? (·.id == id)).map (·.name)⟩

/-- Whether one record stands before another: by key, then the later one, then by name. -/
def listedBefore (order : SortOrder) (a b : Cell × RecordRow) : Bool :=
  let byKey := match order with
    | .asc => a.1.order b.1
    | .desc => b.1.order a.1
  byKey == .lt ||
    (byKey == .eq && later a.2.createdAt b.2.createdAt a.2.id b.2.id)

def page (s : Store) (q : PageQuery) : Except Fault (List Listed × Nat) := do
  let offset ← q.offset.whole
  let limit ← q.limit.whole
  let rows ← select s q.predicate
  let users ← s.users.read
  if !Cell.fitsWord offset || !Cell.fitsWord limit then throw .integerTooWide
  let keyed ← rows.mapM fun r => do
    match q.sortBy with
    | none => return (Cell.null, r)
    | some key => return (← Cell.field Cell.label key r.fields, r)
  let sorted := (keyed.mergeSort (listedBefore q.sortOrder)).map (·.2)
  let shown := bounded (some limit) (sorted.drop offset.toNat)
  return (← shown.mapM (listed users), rows.length)

end Store

end RecordDesk
