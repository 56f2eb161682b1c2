import RecordDesk.Calendar.Span
import RecordDesk.Condition
import RecordDesk.Page.Quantity
import RecordDesk.Widget.RawSpec
set_option autoImplicit false

/-!
Plans of widgets. A specification is checked against the fields of the entity and turned into queries; a
query names no field that the entity does not have.
-/

namespace RecordDesk.Widget

inductive Metric where
  | count | sum | avg | min | max
  deriving DecidableEq, Repr

def Metric.name : Metric → String
  | .count => "count"
  | .sum => "sum"
  | .avg => "avg"
  | .min => "min"
  | .max => "max"

def Metric.ofName? (s : String) : Option Metric :=
  [Metric.count, .sum, .avg, .min, .max].find? (·.name == s)

def named? {α : Type} (ofName? : String → Option α) : Document → Option α
  | .text s => ofName? s
  | _ => none

inductive SortOrder where
  | asc | desc
  deriving DecidableEq, Repr

def SortOrder.name : SortOrder → String
  | .asc => "asc"
  | .desc => "desc"

def SortOrder.ofName? (s : String) : Option SortOrder :=
  [SortOrder.asc, .desc].find? (·.name == s)

inductive ChartKind where
  | bar | line | pie
  deriving DecidableEq, Repr

def ChartKind.name : ChartKind → String
  | .bar => "bar"
  | .line => "line"
  | .pie => "pie"

inductive WidgetKind where
  | kpi | chart (kind : ChartKind) | table | list
  deriving DecidableEq, Repr

def WidgetKind.name : WidgetKind → String
  | .kpi => "kpi"
  | .chart kind => kind.name
  | .table => "table"
  | .list => "list"

def WidgetKind.ofName? (s : String) : Option WidgetKind :=
  [WidgetKind.kpi, .chart .bar, .chart .line, .chart .pie, .table, .list].find? (·.name == s)

structure Filter where
  key : String
  value : Document

structure Predicate where
  tenantId : Document
  entityId : Document
  filters : List Filter
  start : Option Moment
  stop : Option Moment
  stopInclusive : Bool

def Predicate.window (p : Predicate) (start stop : Moment) (inclusive : Bool) : Predicate :=
  { p with start := some start, stop := some stop, stopInclusive := inclusive }

structure AggregateQuery where
  predicate : Predicate
  metric : Metric
  targetField : Option String
  groupBy : Option String
  limit : Option Quantity
  sortOrder : SortOrder

structure PageQuery where
  predicate : Predicate
  offset : Quantity
  limit : Quantity
  sortBy : Option String
  sortOrder : SortOrder

/-- Two windows of the same length, one after the other. -/
structure TrendQueries where
  current : AggregateQuery
  previous : AggregateQuery

inductive Plan where
  | kpi (value : AggregateQuery) (trend : Option TrendQueries) (periodDays : Quantity)
  | chart (kind : ChartKind) (query : AggregateQuery)
  | table (columns : List FieldMeta) (page : Int) (pageSize : Quantity) (query : PageQuery)
  | list (titleField : String) (subtitleField : Option String) (query : PageQuery)

namespace Plan

abbrev Refusable (α : Type) := Except Fault α

def refuse {α : Type} (cause : QueryFault) : Refusable α := .error (.query cause)

def inRange (name : String) (low high : Int) (d : Document) : Refusable Quantity := do
  match Quantity.ofDocument? d with
  | none => .error (.unsuitable ("'" ++ d.typeName ++ "' cannot be compared with a number"))
  | some q => if ← q.isWithin low high then return q else refuse (.outOfRange name low high)

def inRangeOr (absent : Int) (name : String) (low high : Int) : Document → Refusable Quantity
  | .null => .ok (.ofInt absent)
  | d => inRange name low high d

/-- The key of a field that a query may name; a quote would end its path. -/
def queryKey (f : FieldMeta) : Refusable String :=
  if f.key.toList.contains '"' then refuse (.notQueryable f.key) else .ok f.key

/-- The moment in universal time; one without offset is taken to be in it. -/
def asUtc (m : Moment) : Refusable Moment :=
  if m.utc.inRange then .ok m.utc else .error .dateOutOfRange

variable (fields : List FieldMeta)

/-- The field that a document names. What is no text names none, and a collection cannot even be looked
up. -/
def requireField (role : String) (d : Document) : Refusable FieldMeta :=
  match (match d with
    | .text key => FieldMeta.find? fields key
    | _ => none) with
  | some f => .ok f
  | none =>
    if d.isKey then refuse (.unknownField role d.shown)
    else .error (.unsuitable ("unhashable type: '" ++ d.typeName ++ "'"))

/-- A null or empty filter value means no filter, but its field must be known all the same. -/
def filter (m : String × Document) : Refusable (Option Filter) := do
  let f ← requireField fields "filter field" (.text m.1)
  if !f.isFilterable then refuse (.notFilterable m.1)
  else match m.2 with
    | .null | .text "" => return none
    | d => return some ⟨← queryKey f, d⟩

def utcOf? : Option Moment → Refusable (Option Moment)
  | none => .ok none
  | some m => some <$> asUtc m

/-- The window of a specification; a part that was not read has no ends to ask for. -/
def dateRange : Part DateRange → Refusable DateRange
  | .absent => .ok ⟨none, none⟩
  | .read r => .ok r
  | .unread d => .error (.withoutParts d.typeName)

def predicate (spec : RawSpec) : Refusable Predicate := do
  let filters ← (← spec.filters.members?).mapM (filter fields)
  let range ← dateRange spec.dateRange
  let start ← utcOf? range.start
  let stop ← utcOf? range.stop
  match start, stop with
  | some a, some b => if b.instant < a.instant then refuse .windowReversed
  | _, _ => pure ()
  return ⟨spec.tenantId, spec.entityId, filters.filterMap id, start, stop, true⟩

/-- The field that a metric is computed from; a count needs none, but one that is named must exist. -/
def metricTarget (spec : RawSpec) (metric : Metric) : Refusable (Option String) := do
  if spec.targetField.isTruthy then
    let target ← queryKey (← requireField fields "target_field" spec.targetField)
    return if metric = .count then none else some target
  else if metric = .count then return none
  else refuse (.needsTarget metric.name)

def sortField (spec : RawSpec) : Refusable (Option String) := do
  if spec.sortBy.isTruthy then
    let f ← requireField fields "sort field" spec.sortBy
    if f.isSortable then return some (← queryKey f) else refuse (.notSortable f.key)
  else return none

def daysOf (q : Quantity) : Refusable Int := do Span.ofNumber Moment.day (← q.toNumber?)

/-- Trend windows end now and replace a date range; the earlier one stops short of the later. -/
def trendQueries (value : AggregateQuery) (days : Quantity) (now : Moment) : Refusable TrendQueries := do
  let now ← asUtc now
  let period ← daysOf days
  let middle ← now.after (-period)
  let first ← middle.after (-period)
  return ⟨{ value with predicate := value.predicate.window middle now true },
    { value with predicate := value.predicate.window first middle false }⟩

def ofKpi (spec : RawSpec) (metric : Metric) (p : Predicate) (now : Moment) : Refusable Plan := do
  let value : AggregateQuery := ⟨p, metric, ← metricTarget fields spec metric, none, none, .desc⟩
  if spec.showTrend.isTruthy then
    let days ← inRange "trend_period_days" 1 365 spec.trendPeriodDays
    return .kpi value (some (← trendQueries value days now)) days
  else return .kpi value none (.ofInt 7)

def ofChart (spec : RawSpec) (kind : ChartKind) (metric : Metric) (order : SortOrder) (p : Predicate) :
    Refusable Plan := do
  if spec.groupBy.isTruthy then
    let group ← queryKey (← requireField fields "group_by field" spec.groupBy)
    let target ← metricTarget fields spec metric
    let limit ← inRangeOr 10 "limit" 1 50 spec.limit
    return .chart kind ⟨p, metric, target, some group, some limit, order⟩
  else refuse .needsGroup

/-- The page of a table. A part that was not read has no page to ask for, unless it is empty or zero. -/
def pageOf : Part Paging → Refusable Int
  | .absent => .ok 1
  | .read p => .ok p.page
  | .unread d => if d.isTruthy then .error (.withoutParts d.typeName) else .ok 1

def requestedSize (spec : RawSpec) : Document :=
  match spec.paging with
  | .read ⟨_, some n⟩ => .ofInt n
  | _ => spec.limit

def ofTable (spec : RawSpec) (order : SortOrder) (p : Predicate) (cap : Int) : Refusable Plan := do
  let columns ← (← spec.columns.sequence).mapM (requireField fields "column")
  let page ← pageOf spec.paging
  let asked ← inRangeOr Page.defaultSize "page size" 5 100 (requestedSize spec)
  let size ← asked.clamped cap
  let offset ← Quantity.offset (.ofInt page) size
  return .table columns page size ⟨p, offset, size, ← sortField fields spec, order⟩

def ofList (spec : RawSpec) (order : SortOrder) (p : Predicate) : Refusable Plan := do
  if spec.titleField.isTruthy then
    let title ← requireField fields "title_field" spec.titleField
    let subtitle ← if spec.subtitleField.isTruthy
      then (fun f => some f.key) <$> requireField fields "subtitle_field" spec.subtitleField
      else pure none
    let limit ← inRangeOr 10 "limit" 1 20 spec.limit
    return .list title.key subtitle ⟨p, .ofInt 0, limit, ← sortField fields spec, order⟩
  else refuse .needsTitle

/-- Checks a specification and turns it into queries; `cap` bounds the size of a table's page. -/
def ofRaw (spec : RawSpec) (cap : Int) (now : Moment) : Refusable Plan := do
  match named? WidgetKind.ofName? spec.widgetType with
  | none => refuse (.unsupportedWidget spec.widgetType.shown)
  | some kind => match named? Metric.ofName? spec.metricType with
    | none => refuse (.unsupportedMetric spec.metricType.shown)
    | some metric => match named? SortOrder.ofName? spec.sortOrder with
      | none => refuse (.unsupportedSortOrder spec.sortOrder.shown)
      | some order =>
        let p ← predicate fields spec
        match kind with
        | .kpi => ofKpi fields spec metric p now
        | .chart k => ofChart fields spec k metric order p
        | .table => ofTable fields spec order p cap
        | .list => ofList fields spec order p

def ofSpec (spec : Spec) (cap : Int) (now : Moment) : Refusable Plan := ofRaw fields spec.raw cap now

end Plan

end RecordDesk.Widget
