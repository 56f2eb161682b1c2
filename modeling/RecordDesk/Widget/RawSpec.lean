import RecordDesk.Widget.Spec
set_option autoImplicit false

/-!
Specifications as they came. A specification that fits its form is one whose parts are as the form left
them; for callers that answer for it themselves any document is taken part by part.
-/

namespace RecordDesk.Widget

/-- A part with parts of its own: absent, read, or a document in which nothing was read. -/
inductive Part (α : Type) where
  | absent
  | read (a : α)
  | unread (d : Document)

def Part.ofOption {α : Type} : Option α → Part α
  | some a => .read a
  | none => .absent

def Part.ofDocument {α : Type} : Document → Part α
  | .null => .absent
  | d => .unread d

structure RawSpec where
  tenantId : Document
  entityId : Document
  widgetType : Document
  metricType : Document
  targetField : Document
  groupBy : Document
  filters : Document
  dateRange : Part DateRange
  limit : Document
  sortOrder : Document
  sortBy : Document
  paging : Part Paging
  showTrend : Document
  trendPeriodDays : Document
  columns : Document
  titleField : Document
  subtitleField : Document

def Spec.raw (s : Spec) : RawSpec where
  tenantId := .text s.tenantId
  entityId := .text s.entityId
  widgetType := .text s.widgetType
  metricType := .text s.metricType
  targetField := Document.ofText? s.targetField
  groupBy := Document.ofText? s.groupBy
  filters := .object s.filters
  dateRange := Part.ofOption s.dateRange
  limit := Document.ofOption (s.limit.map .ofInt)
  sortOrder := .text s.sortOrder
  sortBy := Document.ofText? s.sortBy
  paging := Part.ofOption s.paging
  showTrend := .boolean s.showTrend
  trendPeriodDays := .ofInt s.trendPeriodDays
  columns := .list (s.columns.map .text)
  titleField := Document.ofText? s.titleField
  subtitleField := Document.ofText? s.subtitleField

/-- A specification that is taken as it is. Only its widget type has no default. -/
def RawSpec.ofMembers (o : Members) : Except Fault RawSpec :=
  let given (key : String) (absent : Document) := (o.lookup key).getD absent
  match o.lookup "widget_type" with
  | none => .error (.withoutParts "WidgetQuerySpec")
  | some widgetType => .ok {
      tenantId := given "tenant_id" .null
      entityId := given "entity_id" .null
      widgetType := widgetType
      metricType := given "metric_type" (.text "count")
      targetField := given "target_field" .null
      groupBy := given "group_by" .null
      filters := given "filters" (.object [])
      dateRange := Part.ofDocument (given "date_range" .null)
      limit := given "limit" .null
      sortOrder := given "sort_order" (.text "desc")
      sortBy := given "sort_by" .null
      paging := Part.ofDocument (given "pagination" .null)
      showTrend := given "show_trend" (.boolean false)
      trendPeriodDays := given "trend_period_days" (.ofInt 7)
      columns := given "columns" (.list [])
      titleField := given "title_field" .null
      subtitleField := given "subtitle_field" .null }

end RecordDesk.Widget
