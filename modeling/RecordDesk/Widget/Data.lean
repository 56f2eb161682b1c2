import RecordDesk.Desk
import RecordDesk.Store.Query
import RecordDesk.Widget.Trend
set_option autoImplicit false

namespace RecordDesk.Widget

structure Column where
  key : String
  label : String
  type : String
  deriving DecidableEq, Repr

structure Item where
  id : String
  title : Document
  subtitle : Document
  details : Members

inductive Data where
  | kpi (value : Binary64) (trend : Option Trend)
  | chart (kind : ChartKind) (groups : List Store.Group) (total : Binary64)
  | table (columns : List Column) (rows : List Members) (page limit total pages : Int)
  | list (items : List Item) (total : Int)

namespace Data

def systemColumns : List Column :=
  [⟨"id", "ID", "text"⟩, ⟨"created_at", "Created", "date"⟩, ⟨"created_by", "Created By", "text"⟩]

def createdAt (r : RecordRow) : Document := .date (.moment r.createdAt)

def stored (l : Store.Listed) (key : String) : Document := (l.entries.members.lookup key).getD .null

/-- A row of a table: the system columns, then the chosen ones; a column of the same key takes the place. -/
def tableRow (columns : List FieldMeta) (l : Store.Listed) : Members :=
  columns.foldl (fun row f => row.set f.key (stored l f.key))
    [("id", .text l.record.id), ("created_at", createdAt l.record),
      ("created_by", Document.ofText? l.creator)]

/-- The title of a list item; nothing and the empty text have a stand-in. -/
def titleOf (d : Document) : Document :=
  match d with
  | .null | .text "" => .text "Untitled"
  | d => d

/-- The details of an item are its creation time and its fields, which all have to be under texts. -/
def item (title : String) (subtitle : Option String) (l : Store.Listed) : Except Fault Item :=
  match l.entries.strays with
  | [] => .ok {
      id := l.record.id
      title := titleOf (stored l title)
      subtitle := match subtitle with
        | some "" | none => .null
        | some key => stored l key
      details := l.entries.members.foldl (fun acc m => acc.set m.1 m.2) [("created_at", createdAt l.record)] }
  | strays => .error (.invalid "ListItem"
      (strays.map fun step => ⟨[.key "metadata", step, .key "[key]"], .stringType⟩))

/-- The sum of what is shown, not of what was left out. -/
def shownTotal (groups : List Store.Group) : Binary64 :=
  groups.foldl (fun sum g => sum + g.value) Binary64.zero

def ofPlan (s : Store) : Plan → Except Fault Data
  | .kpi value trend _ => do
    let figure ← s.aggregate value
    match trend with
    | none => return .kpi figure none
    | some q =>
      let current ← s.aggregate q.current
      let previous ← s.aggregate q.previous
      return .kpi figure (some (← Trend.between current previous))
  | .chart kind q => do
    let groups ← s.grouped q (q.groupBy.getD "")
    return .chart kind groups (shownTotal groups)
  | .table columns page size q => do
    let (listed, total) ← s.page q
    let size ← size.whole
    return .table (systemColumns ++ columns.map fun f => ⟨f.key, f.label, f.type⟩)
      (listed.map (tableRow columns)) page size total (← Page.count total size)
  | .list title subtitle q => do
    let (listed, total) ← s.page q
    return .list (← listed.mapM (item title subtitle)) total

def loggerName : String := "widget_query"

/-- The data of a widget. That its query ran is logged whether or not it was answered. -/
def ofSpec (spec : Spec) : Job Data := do
  match ← Desk.query (·.entity? spec.entityId) with
  | none => throw (.query .noEntity)
  | some _ =>
    let fields ← Desk.query (·.entityFields spec.entityId)
    let d ← get
    let cap := Page.maxSize d.environment d.settings.apiMaxPageSize
    let plan ← (Plan.ofSpec fields spec cap d.now : Except Fault Plan)
    Desk.log ⟨loggerName, .debug,
      s!"Widget query executed tenant={spec.tenantId} entity={spec.entityId} " ++
        s!"widget_type={spec.widgetType} duration_ms=_"⟩
    Desk.query fun s => ofPlan s plan

def trendDocument (t : Trend) : Document :=
  .object [("value", .number (.float t.value)), ("percentage", .number (.float t.percentage)),
    ("direction", .text t.direction.name)]

def groupDocument (g : Store.Group) : Document :=
  .object [("label", .text g.label), ("value", .number (.float g.value))]

def columnDocument (c : Column) : Document :=
  .object [("key", .text c.key), ("label", .text c.label), ("type", .text c.type)]

def itemDocument (i : Item) : Document :=
  .object [("id", .text i.id), ("title", i.title), ("subtitle", i.subtitle), ("metadata", .object i.details)]

def toDocument : Data → Document
  | .kpi value trend => .object [("widget_type", .text "kpi"), ("value", .number (.float value)),
      ("trend", Document.ofOption (trend.map trendDocument))]
  | .chart kind groups total => .object [("widget_type", .text kind.name),
      ("data", .list (groups.map groupDocument)), ("total", .number (.float total))]
  | .table columns rows page limit total pages => .object [("widget_type", .text "table"),
      ("columns", .list (columns.map columnDocument)), ("rows", .list (rows.map .object)),
      ("pagination", .object [("page", .ofInt page), ("limit", .ofInt limit), ("total", .ofInt total),
        ("pages", .ofInt pages)])]
  | .list items total => .object [("widget_type", .text "list"), ("items", .list (items.map itemDocument)),
      ("total", .ofInt total)]

end Data

end RecordDesk.Widget
