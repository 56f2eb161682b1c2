import RecordDesk.Form
set_option autoImplicit false

namespace RecordDesk.Widget

structure DateRange where
  start : Option Moment
  stop : Option Moment
  deriving DecidableEq, Repr

structure Paging where
  page : Int
  limit : Option Int
  deriving DecidableEq, Repr

structure Spec where
  tenantId : String
  entityId : String
  /-- Any text: the planner refuses what is no widget. -/
  widgetType : String
  metricType : String
  targetField : Option String
  groupBy : Option String
  filters : Members
  dateRange : Option DateRange
  limit : Option Int
  sortOrder : String
  sortBy : Option String
  paging : Option Paging
  showTrend : Bool
  trendPeriodDays : Int
  columns : List String
  titleField : Option String
  subtitleField : Option String

namespace Spec

variable (notObject : IssueKind)

open Form in
def dateRangeForm : Reader DateRange :=
  record notObject fun o =>
    DateRange.mk <$> optional "start" none (nullable moment) o <*> optional "end" none (nullable moment) o

open Form in
def pagingForm : Reader Paging :=
  record notObject fun o =>
    Paging.mk <$> optional "page" 1 (between (some 1) none) o
      <*> optional "limit" none (nullable (between (some 1) none)) o

open Form in
/-- The kind of issue for a part that is no object depends on how the form was sent. -/
def form : Reader Spec :=
  record notObject fun o =>
    Spec.mk <$> required "tenant_id" text o
      <*> required "entity_id" text o
      <*> required "widget_type" text o
      <*> optional "metric_type" "count" text o
      <*> optional "target_field" none (nullable text) o
      <*> optional "group_by" none (nullable text) o
      <*> optional "filters" [] object o
      <*> optional "date_range" none (nullable (dateRangeForm notObject)) o
      <*> optional "limit" none (nullable integer) o
      <*> optional "sort_order" "desc" (choice ["asc", "desc"]) o
      <*> optional "sort_by" none (nullable text) o
      <*> optional "pagination" none (nullable (pagingForm notObject)) o
      <*> optional "show_trend" false flag o
      <*> optional "trend_period_days" 7 integer o
      <*> optional "columns" [] (list text) o
      <*> optional "title_field" none (nullable text) o
      <*> optional "subtitle_field" none (nullable text) o

end Spec

end RecordDesk.Widget
