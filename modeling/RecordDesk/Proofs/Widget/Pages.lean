import RecordDesk.Proofs.Ingest.Replacement
import RecordDesk.Proofs.Page.Covering
import RecordDesk.Proofs.Store.Listing
import RecordDesk.Proofs.Widget.Refusals
import RecordDesk.Widget.Data
set_option autoImplicit false

namespace RecordDesk

/-- The cap on the size of pages at a desk. It is at least one unless the settings themselves give less. -/
def Desk.pageCap (d : Desk) : Int := Page.maxSize d.environment d.settings.apiMaxPageSize

namespace Widget

open Store

def Spec.onPage (spec : Spec) (page : Int) : Spec :=
  { spec with paging := some ⟨page, spec.paging.bind (·.limit)⟩ }

namespace Plan

variable {fields : List FieldMeta} {spec : Spec} {cap : Int} {now : Moment}

def tablePage (columns : List FieldMeta) (size : Int) (p : Predicate) (sortBy : Option String)
    (order : SortOrder) (page : Int) : Plan :=
  .table columns page (.ofInt size) ⟨p, .ofInt (Page.offset page size), .ofInt size, sortBy, order⟩

theorem requestedSize_onPage (spec : Spec) (page : Int) :
    requestedSize (spec.onPage page).raw = requestedSize spec.raw := by
  unfold requestedSize Spec.onPage Spec.raw
  rcases spec.paging with _ | ⟨_, _ | n⟩ <;> rfl

theorem asked_size {asked : Quantity}
    (h : inRangeOr Page.defaultSize "page size" 5 100 (requestedSize spec.raw) = .ok asked) :
    ∃ n, asked = .ofInt n ∧ 5 ≤ n ∧ n ≤ 100 := by
  obtain ⟨size, hsize⟩ := requestedSize_raw spec
  rw [hsize] at h
  cases size with
  | none =>
    cases h
    exact ⟨Page.defaultSize, rfl, by decide, by decide⟩
  | some n =>
    obtain ⟨hlow, hhigh, rfl⟩ := inRange_ok h
    exact ⟨n, rfl, hlow, hhigh⟩

theorem ofTable_onPage {order : SortOrder} {p : Predicate} {plan : Plan}
    (h : ofTable fields spec.raw order p cap = .ok plan) :
    ∃ columns size sortBy page, plan = tablePage columns size p sortBy order page ∧
      sortField fields spec.raw = .ok sortBy ∧ size ≤ 100 ∧ (1 ≤ cap → 1 ≤ size) ∧
      ∀ page, ofTable fields (spec.onPage page).raw order p cap =
        .ok (tablePage columns size p sortBy order page) := by
  obtain ⟨columns, hcolumns, h⟩ := ok_of_bind h
  obtain ⟨page, hpage, h⟩ := ok_of_bind h
  obtain ⟨asked, hasked, h⟩ := ok_of_bind h
  obtain ⟨n, rfl, hlow, hhigh⟩ := asked_size hasked
  obtain ⟨size, hsize, h⟩ := ok_of_bind h
  cases hsize
  obtain ⟨offset, hoffset, h⟩ := ok_of_bind h
  cases hoffset
  obtain ⟨sortBy, hsort, h⟩ := ok_of_bind h
  cases h
  have hclamp : Page.clampSize cap n = min n cap := if_neg (by omega)
  refine ⟨columns, Page.clampSize cap n, sortBy, page, rfl,
    hsort, by omega, fun hcap => by omega, fun page => ?_⟩
  have hcolumns' : ((spec.onPage page).raw.columns.sequence >>= fun items =>
    items.mapM (requireField fields "column"))
      = .ok columns := hcolumns
  have hsort' : sortField fields (spec.onPage page).raw = .ok sortBy := hsort
  have hpage' : pageOf (spec.onPage page).raw.paging = .ok page := rfl
  unfold ofTable
  rw [← bind_assoc, hcolumns', requestedSize_onPage, hasked, hsort', hpage']
  rfl

def kind : Plan → WidgetKind
  | .kpi .. => .kpi
  | .chart kind _ => .chart kind
  | .table .. => .table
  | .list .. => .list

section

variable {raw : RawSpec} {metric : Metric} {order : SortOrder} {p : Predicate} {plan : Plan}

theorem kind_ofKpi (h : ofKpi fields raw metric p now = .ok plan) : plan.kind = .kpi := by
  obtain ⟨target, -, h⟩ := ok_of_bind h
  dsimp only at h
  split at h
  · obtain ⟨days, -, h⟩ := ok_of_bind h
    obtain ⟨trend, -, h⟩ := ok_of_bind h
    cases h
    rfl
  · cases h
    rfl

theorem kind_ofChart {k : ChartKind} (h : ofChart fields raw k metric order p = .ok plan) :
    plan.kind = .chart k := by
  unfold ofChart at h
  split at h
  · obtain ⟨f, -, h⟩ := ok_of_bind h
    obtain ⟨group, -, h⟩ := ok_of_bind h
    obtain ⟨target, -, h⟩ := ok_of_bind h
    obtain ⟨limit, -, h⟩ := ok_of_bind h
    cases h
    rfl
  · cases h

theorem kind_ofList (h : ofList fields raw order p = .ok plan) : plan.kind = .list := by
  unfold ofList at h
  split at h
  · obtain ⟨title, -, h⟩ := ok_of_bind h
    dsimp only at h
    split at h <;>
      · obtain ⟨subtitle, -, h⟩ := ok_of_bind h
        obtain ⟨limit, -, h⟩ := ok_of_bind h
        obtain ⟨sortBy, -, h⟩ := ok_of_bind h
        cases h
        rfl
  · cases h

end

theorem ofSpec_onPage {columns : List FieldMeta} {page : Int} {size : Quantity} {q : PageQuery}
    (h : ofSpec fields spec cap now = .ok (.table columns page size q)) :
    ∃ n p sortBy order, Plan.table columns page size q = tablePage columns n p sortBy order page ∧
      predicate fields spec.raw = .ok p ∧ sortField fields spec.raw = .ok sortBy ∧
      SortOrder.ofName? spec.sortOrder = some order ∧ n ≤ 100 ∧ (1 ≤ cap → 1 ≤ n) ∧
      ∀ page, ofSpec fields (spec.onPage page) cap now = .ok (tablePage columns n p sortBy order page) := by
  unfold ofSpec ofRaw at h
  split at h
  · cases h
  · rename_i kind hkind
    split at h
    · cases h
    · rename_i metric hmetric
      split at h
      · cases h
      · rename_i order horder
        obtain ⟨p, hp, h⟩ := ok_of_bind h
        cases kind with
        | kpi => cases kind_ofKpi h
        | chart k => cases kind_ofChart h
        | list => cases kind_ofList h
        | table =>
          obtain ⟨columns', n, sortBy, page', hplan, hsort, hsmall, hpositive, hpages⟩ := ofTable_onPage h
          cases hplan
          refine ⟨n, p, sortBy, order, rfl, hp, hsort, horder, hsmall, hpositive, fun page => ?_⟩
          unfold ofSpec ofRaw
          have hkind' : named? WidgetKind.ofName? (spec.onPage page).raw.widgetType = some .table := hkind
          have hmetric' : named? Metric.ofName? (spec.onPage page).raw.metricType = some metric := hmetric
          have horder' : named? SortOrder.ofName? (spec.onPage page).raw.sortOrder = some order := horder
          have hp' : predicate fields (spec.onPage page).raw = .ok p := hp
          simp only [hkind', hmetric', horder', hp', bind, Except.bind, hpages page]

end Plan

namespace Data

def shown (d : Desk) (spec : Spec) : Except Fault Data := ((ofSpec spec).run d).1

theorem shown_eq (d : Desk) (spec : Spec) : shown d spec = (do
    match ← d.store.entity? spec.entityId with
    | none => throw (.query .noEntity)
    | some _ =>
      let fields ← d.store.entityFields spec.entityId
      let plan ← Plan.ofSpec fields spec d.pageCap d.now
      ofPlan d.store plan) := by
  rw [shown, ofSpec, Job.run_bind_cont, Job.run_query]
  cases d.store.entity? spec.entityId with
  | error fault => rfl
  | ok entity =>
    cases entity with
    | none => rfl
    | some e =>
      change ((Desk.query (·.entityFields spec.entityId) >>= _ : Job Data).run d).1
        = (d.store.entityFields spec.entityId >>= _ : Except Fault Data)
      rw [Job.run_bind_cont, Job.run_query]
      cases d.store.entityFields spec.entityId with
      | error fault => rfl
      | ok fields =>
        change ((liftM (Plan.ofSpec fields spec d.pageCap d.now) >>= _ : Job Data).run d).1
          = (Plan.ofSpec fields spec d.pageCap d.now >>= ofPlan d.store)
        rw [Job.run_bind_cont]
        cases Plan.ofSpec fields spec d.pageCap d.now <;> rfl

variable {d : Desk} {spec : Spec} {s : Store} {plan : Plan}

theorem shown_ok {data : Data} (h : shown d spec = .ok data) : ∃ e fields plan,
    d.store.entity? spec.entityId = .ok (some e) ∧ d.store.entityFields spec.entityId = .ok fields ∧
      Plan.ofSpec fields spec d.pageCap d.now = .ok plan ∧
      ofPlan d.store plan = .ok data := by
  rw [shown_eq] at h
  obtain ⟨entity, hentity, h⟩ := ok_of_bind h
  cases entity with
  | none => cases h
  | some e =>
    obtain ⟨fields, hfields, h⟩ := ok_of_bind h
    obtain ⟨plan, hplan, h⟩ := ok_of_bind h
    exact ⟨e, fields, plan, hentity, hfields, hplan, h⟩

theorem shown_of_plan {e : EntityRow} {fields : List FieldMeta}
    (he : d.store.entity? spec.entityId = .ok (some e))
    (hfields : d.store.entityFields spec.entityId = .ok fields)
    (hplan : Plan.ofSpec fields spec d.pageCap d.now = .ok plan) :
    shown d spec = ofPlan d.store plan := by
  rw [shown_eq, he]
  simp only [bind, Except.bind, hfields, hplan]

def columnsOf (chosen : List FieldMeta) : List Column := systemColumns ++ chosen.map fun f =>
    ⟨f.key, f.label, f.type⟩

theorem ofPlan_table {columns : List Column} {rows : List Members} {page size total pages : Int}
    (h : ofPlan s plan = .ok (.table columns rows page size total pages)) : ∃ chosen limit q listed count,
      plan = .table chosen page limit q ∧ columns = columnsOf chosen ∧ rows = listed.map (tableRow chosen) ∧
      s.page q = .ok (listed, count) ∧ limit.whole = .ok size ∧ total = count ∧
        Page.count total size = .ok pages := by
  cases plan with
  | kpi value trend days =>
    obtain ⟨figure, -, h⟩ := ok_of_bind h
    cases trend with
    | none => cases h
    | some q =>
      obtain ⟨current, -, h⟩ := ok_of_bind h
      obtain ⟨previous, -, h⟩ := ok_of_bind h
      obtain ⟨between, -, h⟩ := ok_of_bind h
      cases h
  | chart kind q =>
    obtain ⟨groups, -, h⟩ := ok_of_bind h
    cases h
  | table chosen page limit q =>
    obtain ⟨⟨listed, count⟩, hpage, h⟩ := ok_of_bind h
    obtain ⟨size, hsize, h⟩ := ok_of_bind h
    obtain ⟨pages, hpages, h⟩ := ok_of_bind h
    cases h
    exact ⟨chosen, limit, q, listed, count, rfl, rfl, rfl, hpage, hsize, rfl, hpages⟩
  | list title subtitle q =>
    obtain ⟨answer, -, h⟩ := ok_of_bind h
    obtain ⟨items, -, h⟩ := ok_of_bind h
    cases h

theorem ofPlan_tablePage (chosen : List FieldMeta) (size : Nat) {p : Predicate} {sortBy : Option String}
    (order : SortOrder) (page : Int) {pages : Int} {found : List RecordRow} {users : List UserRow}
    {cells : List (Cell × RecordRow)}
    (hselect : s.select p = .ok found) (husers : s.users.rows = some users)
    (hcells : found.mapM (Store.keyed sortBy) = .ok cells)
    (hoffset : Cell.fitsWord (Page.offset page size) = true)
    (hfit : Cell.fitsWord size = true) (hcount : Page.count found.length size = .ok pages)
    (hshow : ∀ r ∈ Page.slice size page (Store.arranged sortBy order found), r.Showable) :
    ofPlan s (Plan.tablePage chosen size p sortBy order page) = .ok (.table (columnsOf chosen)
      ((Page.slice size page (Store.arranged sortBy order found)).map fun r =>
        tableRow chosen (Store.display users r)) page size found.length pages) := by
  have hcut := Store.page_eq (q := ⟨p, .ofInt (Page.offset page size), .ofInt size, sortBy, order⟩)
    rfl rfl hselect husers hcells hoffset hfit (Int.natCast_nonneg size) hshow
  simp only [Plan.tablePage, ofPlan, hcut, Quantity.whole_ofInt, hcount, bind, Except.bind, List.map_map]
  rfl

end Data

/-- A list that a table is cut from: records in an order, with the names of users to show beside them. -/
structure Listing where
  fields : List FieldMeta
  predicate : Predicate
  sortBy : Option String
  order : SortOrder
  chosen : List FieldMeta
  users : List UserRow
  records : List RecordRow

namespace Listing

/-- The list that a specification asks for: every record that its predicate takes is there once, and one
that stands before another comes first. -/
structure Of (l : Listing) (d : Desk) (spec : Spec) : Prop where
  fields : d.store.entityFields spec.entityId = .ok l.fields
  predicate : Plan.predicate l.fields spec.raw = .ok l.predicate
  sort : Plan.sortField l.fields spec.raw = .ok l.sortBy
  direction : SortOrder.ofName? spec.sortOrder = some l.order
  users : d.store.users.rows = some l.users
  total : Std.TransCmp (RecordRow.order l.sortBy l.order)
  once : l.records.Perm (d.store.matching l.predicate)
  ordered : l.records.Pairwise fun a b => RecordRow.order l.sortBy l.order a b = .lt

/-- A table shows a list page by page. Pages up to the last one are always there, others as far as the store
counts; what is no collection of fields cannot be shown. -/
structure Paged (l : Listing) (d : Desk) (spec : Spec) (columns : List Column) (size total pages : Int) :
    Prop where
  heading : columns = Data.columnsOf l.chosen
  length : total = l.records.length
  counted : ∀ q : AggregateQuery, q.predicate = l.predicate → q.metric = .count →
    d.store.aggregate q = .ok (Binary64.ofInt total)
  covers : Page.Covers l.records size pages fun page => Page.slice size page l.records
  shown : ∀ page, 1 ≤ page → page ≤ pages ∨ Cell.fitsWord (Page.offset page size) = true →
    (∀ r ∈ Page.slice size page l.records, r.Showable) → Data.shown d (spec.onPage page) = .ok (.table columns
      ((Page.slice size page l.records).map fun r => Data.tableRow l.chosen (Store.display l.users r))
        page size total pages)

end Listing

variable {d : Desk} {spec : Spec}

/-- A table that is shown is cut from the list that its specification asks for. -/
theorem paged_of_shown {columns : List Column} {rows : List Members} {page size total pages : Int}
    (hkeys : d.store.records.KeyedBy (·.id)) (hcap : 1 ≤ d.pageCap)
    (h : Data.shown d spec = .ok (.table columns rows page size total pages)) (htotal : total ≤ 2 ^ 53) :
    ∃ l : Listing, l.Of d spec ∧ l.Paged d spec columns size total pages := by
  -- The shown page tells what all pages have in common: the plan, the records and the size.
  obtain ⟨e, fields, plan, he, hfields, hplan, h⟩ := Data.shown_ok h
  obtain ⟨chosen, limit, q, listed, count, rfl, rfl, -, hpage, hsize, rfl, hpages⟩ := Data.ofPlan_table h
  obtain ⟨n, p, sortBy, order, hq, hp, hsort, horder, hsmall, hpositive, hplans⟩ := Plan.ofSpec_onPage hplan
  cases hq
  cases hsize
  obtain ⟨found, users, cells, hselect, husers, hcells, -, hfit, rfl⟩ := Store.page_ok rfl rfl hpage
  have hone : 1 ≤ size := hpositive hcap
  obtain ⟨size, rfl⟩ := Int.eq_ofNat_of_zero_le (show 0 ≤ size by omega)
  have hsize : 0 < size := by omega
  have hword : size < Binary64.one := lt_of_le_of_lt (show size ≤ 100 by omega) (by decide +kernel)
  have hrows : found.length ≤ 2 ^ 53 := by exact_mod_cast htotal
  -- The count that is shown came from a rounded quotient; for so many rows it is the exact one.
  have hcount := Page.count_eq_pagesFor hsize hword hrows
  obtain rfl := Except.ok.inj (hcount.symm.trans hpages)
  have hperm : (Store.arranged sortBy order found).Perm found := Store.arranged_perm
  refine ⟨⟨fields, p, sortBy, order, chosen, users, Store.arranged sortBy order found⟩,
    ⟨hfields, hp, hsort, horder, husers, inferInstance, hperm.trans (Store.select_perm hselect),
      Store.arranged_strict (Store.nodup_select hkeys hselect)⟩, rfl, ?_, ?_, ?_, ?_⟩
  · rw [hperm.length_eq]
  · rintro q rfl hmetric
    rw [Store.aggregate_count hmetric hselect]
  · rw [← hperm.length_eq]
    exact Page.slices_cover hsize _
  · intro page hlow hreach hshow
    have hoffset : Cell.fitsWord (Page.offset page size) = true :=
      hreach.elim (fun hhigh => Page.offset_fits hlow hhigh hrows) id
    have hshown : Data.shown d (spec.onPage page) = _ := Data.shown_of_plan he hfields (hplans page)
    rw [hshown, Data.ofPlan_tablePage chosen size order page hselect husers hcells hoffset hfit hcount hshow]

end Widget

end RecordDesk
