import RecordDesk.Proofs.Widget.Predicates
set_option autoImplicit false

/-!
Names in specifications and in plans. Every name that a query carries is the key of a field of its entity,
one that the field allows for its part of the query, and no query but those of the specification's own
records is planned.
-/

namespace RecordDesk.Widget

variable (fields : List FieldMeta)

def Refers (allowed : FieldMeta → Bool) (d : Document) : Prop :=
  ∃ f ∈ fields, d = .text f.key ∧ allowed f = true

abbrev Mentions (d : Document) : Prop := Refers fields (fun _ => true) d

def Queryable (allowed : FieldMeta → Bool) (key : String) : Prop :=
  Refers fields allowed (.text key) ∧ '"' ∉ key.toList

variable (spec : RawSpec)

def RawSpec.filterMembers (spec : RawSpec) : Members :=
  match spec.filters with
  | .object members => members
  | _ => []

def wanted? (m : String × Document) : Option Filter :=
  match m.2 with
  | .null | .text "" => none
  | d => some ⟨m.1, d⟩

/-- A predicate of the specification's own records, narrowed by all the filters that it wants and by no
others. -/
structure Predicate.Fits (p : Predicate) : Prop where
  tenant : p.tenantId = spec.tenantId
  entity : p.entityId = spec.entityId
  filters : p.filters = spec.filterMembers.filterMap wanted?
  queryable : ∀ f ∈ p.filters, Queryable fields (·.isFilterable) f.key

structure AggregateQuery.Fits (q : AggregateQuery) : Prop where
  predicate : q.predicate.Fits fields spec
  target : ∀ key, q.targetField = some key → Queryable fields (fun _ => true) key
  group : ∀ key, q.groupBy = some key → Queryable fields (fun _ => true) key

structure PageQuery.Fits (q : PageQuery) : Prop where
  predicate : q.predicate.Fits fields spec
  sort : ∀ key, q.sortBy = some key → Queryable fields (·.isSortable) key

/-- All queries of a plan fit, and what it shows are fields of the entity. -/
def Plan.Fits : Plan → Prop
  | .kpi value trend _ =>
    value.Fits fields spec ∧ ∀ q, trend = some q → q.current.Fits fields spec ∧ q.previous.Fits fields spec
  | .chart _ q => q.Fits fields spec
  | .table columns _ _ q => (∀ f ∈ columns, f ∈ fields) ∧ q.Fits fields spec
  | .list title subtitle q =>
    Mentions fields (.text title) ∧ (∀ key, subtitle = some key → Mentions fields (.text key)) ∧
      q.Fits fields spec

namespace RawSpec

/-- Every filter refers to a field that may be filtered by, also one that is dropped because it wants
nothing. -/
def FiltersKnown : Prop := ∀ m ∈ spec.filterMembers, Refers fields (·.isFilterable) (.text m.1)

/-- Any metric but a count comes with a target, and a target that is given is a field. -/
structure TargetKnown : Prop where
  given : spec.metricType ≠ .text Metric.count.name → spec.targetField.isTruthy = true
  known : spec.targetField.isTruthy = true → Mentions fields spec.targetField

def SortKnown : Prop := spec.sortBy.isTruthy = true → Refers fields (·.isSortable) spec.sortBy

def ColumnsKnown : Prop := ∀ columns, spec.columns.sequence = .ok columns → ∀ d ∈ columns, Mentions fields d

/-- What a widget of a kind reads of a specification refers to fields of the entity. -/
def KnownFor : WidgetKind → Prop
  | .kpi => spec.TargetKnown fields
  | .chart _ => Mentions fields spec.groupBy ∧ spec.TargetKnown fields
  | .table => spec.ColumnsKnown fields ∧ spec.SortKnown fields
  | .list => Mentions fields spec.titleField ∧
    (spec.subtitleField.isTruthy = true → Mentions fields spec.subtitleField) ∧ spec.SortKnown fields

end RawSpec

namespace Plan

variable {fields spec} {plan : Plan} {p : Predicate} {d : Document} {f : FieldMeta}

theorem requireField_ok {role : String} (h : requireField fields role d = .ok f) :
    f ∈ fields ∧ d = .text f.key := by
  unfold requireField at h
  split at h
  · rename_i found hfound
    cases h
    split at hfound
    · rename_i key
      have hkey : f.key = key := by simpa using List.find?_some hfound
      exact ⟨List.mem_reverse.1 (List.mem_of_find?_eq_some hfound), hkey ▸ rfl⟩
    · cases hfound
  · split at h <;> cases h

theorem refers_of_requireField {role : String} {allowed : FieldMeta → Bool}
    (h : requireField fields role d = .ok f) (hf : allowed f = true) : Refers fields allowed d :=
  ⟨f, (requireField_ok h).1, (requireField_ok h).2, hf⟩

theorem queryKey_ok {key : String} (h : queryKey f = .ok key) : key = f.key ∧ '"' ∉ f.key.toList := by
  unfold queryKey at h
  split at h
  · cases h
  · rename_i hquote
    cases h
    exact ⟨rfl, by simpa using hquote⟩

theorem queryable_of_queryKey {allowed : FieldMeta → Bool} {key : String} (h : queryKey f = .ok key)
    (hmem : f ∈ fields) (hf : allowed f = true) : Queryable fields allowed key := by
  obtain ⟨rfl, hquote⟩ := queryKey_ok h
  exact ⟨⟨f, hmem, rfl, hf⟩, hquote⟩

theorem filter_ok {m : String × Document} {found : Option Filter} (h : filter fields m = .ok found) :
    Refers fields (·.isFilterable) (.text m.1) ∧ found = wanted? m ∧
      ∀ g, found = some g → Queryable fields (·.isFilterable) g.key := by
  obtain ⟨f, hf, h⟩ := ok_of_bind h
  split at h
  · cases h
  · rename_i hfilterable
    have hfilterable : f.isFilterable = true := by simpa using hfilterable
    refine ⟨refers_of_requireField hf hfilterable, ?_⟩
    obtain ⟨hmem, hkey⟩ := requireField_ok hf
    split at h
    · rename_i hnull
      cases h
      rw [wanted?, hnull]
      exact ⟨rfl, fun g hg => by cases hg⟩
    · rename_i hempty
      cases h
      rw [wanted?, hempty]
      exact ⟨rfl, fun g hg => by cases hg⟩
    · rename_i hnull hempty
      obtain ⟨key, hquery, h⟩ := ok_of_bind h
      cases h
      refine ⟨?_, ?_⟩
      · unfold wanted?
        split
        · exact absurd ‹_› hnull
        · exact absurd ‹_› hempty
        · rw [(queryKey_ok hquery).1, Document.text.inj hkey]
      · rintro g ⟨⟩
        exact queryable_of_queryKey hquery hmem hfilterable

theorem filters_ok {members : Members} {found : List (Option Filter)}
    (h : members.mapM (filter fields) = .ok found) :
    (∀ m ∈ members, Refers fields (·.isFilterable) (.text m.1)) ∧
    found.filterMap id = members.filterMap wanted? ∧
      ∀ g ∈ found.filterMap id, Queryable fields (·.isFilterable) g.key := by
  induction members generalizing found with
  | nil =>
    cases h
    simp
  | cons m rest ih =>
    rw [List.mapM_cons] at h
    obtain ⟨one, hone, h⟩ := ok_of_bind h
    obtain ⟨more, hmore, h⟩ := ok_of_bind h
    cases h
    obtain ⟨hm, rfl, hkey⟩ := filter_ok hone
    obtain ⟨hrest, hfilters, hkeys⟩ := ih hmore
    refine ⟨List.forall_mem_cons.2 ⟨hm, hrest⟩, ?_, ?_⟩
    · rw [List.filterMap_cons, List.filterMap_cons, hfilters]
      rfl
    · cases hw : wanted? m with
      | none => simpa [hw] using hkeys
      | some g => simpa using ⟨hkey g hw, by simpa using hkeys⟩

theorem filterMembers_of_members {members : Members} (h : spec.filters.members? = .ok members) :
    spec.filterMembers = members := by
  unfold Document.members? at h
  split at h
  · rename_i hobject
    cases h
    rw [RawSpec.filterMembers, hobject]
  · rename_i hother
    split at h
    · cases h
    · cases h
      unfold RawSpec.filterMembers
      split
      · exact absurd ‹_› (hother _)
      · rfl

theorem predicate_ok (h : predicate fields spec = .ok p) :
    p.Fits fields spec ∧ ∀ m ∈ spec.filterMembers, Refers fields (·.isFilterable) (.text m.1) := by
  obtain ⟨htenant, hentity⟩ := predicate_owner h
  obtain ⟨members, hmembers, h⟩ := ok_of_bind h
  obtain ⟨found, hfound, h⟩ := ok_of_bind h
  obtain ⟨range, -, h⟩ := ok_of_bind h
  obtain ⟨start, -, h⟩ := ok_of_bind h
  obtain ⟨stop, -, h⟩ := ok_of_bind h
  obtain ⟨hrefers, hwanted, hqueryable⟩ := filters_ok hfound
  rw [← filterMembers_of_members hmembers] at hrefers hwanted
  have hfilters : p.filters = found.filterMap id := by
    dsimp only at h
    split at h
    · split at h
      · obtain ⟨u, hu, -⟩ := ok_of_bind h
        cases hu
      · cases h
        rfl
    · cases h
      rfl
  exact ⟨⟨htenant, hentity, hfilters.trans hwanted, hfilters ▸ hqueryable⟩, hrefers⟩

theorem metricTarget_ok {metric : Metric} {target : Option String}
    (h : metricTarget fields spec metric = .ok target) :
    (metric ≠ .count → spec.targetField.isTruthy = true) ∧
      (spec.targetField.isTruthy = true → Mentions fields spec.targetField) ∧
      ∀ key, target = some key → Queryable fields (fun _ => true) key := by
  unfold metricTarget at h
  split at h
  · rename_i hgiven
    obtain ⟨f, hf, h⟩ := ok_of_bind h
    obtain ⟨key, hkey, h⟩ := ok_of_bind h
    refine ⟨fun _ => hgiven, fun _ => refers_of_requireField hf rfl, ?_⟩
    split at h
    · cases h
      exact fun key hkey => by cases hkey
    · cases h
      rintro _ ⟨⟩
      exact queryable_of_queryKey hkey (requireField_ok hf).1 rfl
  · rename_i hmissing
    split at h
    · rename_i hcount
      cases h
      exact ⟨fun hne => absurd hcount hne, fun hgiven => absurd hgiven hmissing,
        fun key hkey => by cases hkey⟩
    · cases h

theorem sortField_ok {sort : Option String} (h : sortField fields spec = .ok sort) :
    (spec.sortBy.isTruthy = true → Refers fields (·.isSortable) spec.sortBy) ∧
      ∀ key, sort = some key → Queryable fields (·.isSortable) key := by
  unfold sortField at h
  split at h
  · obtain ⟨f, hf, h⟩ := ok_of_bind h
    split at h
    · rename_i hsortable
      obtain ⟨key, hkey, h⟩ := ok_of_bind h
      cases h
      refine ⟨fun _ => refers_of_requireField hf hsortable, ?_⟩
      rintro _ ⟨⟩
      exact queryable_of_queryKey hkey (requireField_ok hf).1 hsortable
    · cases h
  · rename_i hmissing
    cases h
    exact ⟨fun hgiven => absurd hgiven hmissing, fun key hkey => by cases hkey⟩

theorem columns_ok {ds : List Document} {columns : List FieldMeta}
    (h : ds.mapM (requireField fields "column") = .ok columns) :
    (∀ d ∈ ds, Mentions fields d) ∧ ∀ f ∈ columns, f ∈ fields := by
  induction ds generalizing columns with
  | nil =>
    cases h
    simp
  | cons d rest ih =>
    rw [List.mapM_cons] at h
    obtain ⟨f, hf, h⟩ := ok_of_bind h
    obtain ⟨more, hmore, h⟩ := ok_of_bind h
    cases h
    obtain ⟨hrest, hcolumns⟩ := ih hmore
    exact ⟨List.forall_mem_cons.2 ⟨refers_of_requireField hf rfl, hrest⟩,
      List.forall_mem_cons.2 ⟨(requireField_ok hf).1, hcolumns⟩⟩

theorem fits_window (h : p.Fits fields spec) (start stop : Moment) (inclusive : Bool) :
    (p.window start stop inclusive).Fits fields spec :=
  ⟨h.tenant, h.entity, h.filters, h.queryable⟩

theorem trendQueries_fits {value : AggregateQuery} {days : Quantity} {now : Moment} {q : TrendQueries}
    (hv : value.Fits fields spec) (h : trendQueries value days now = .ok q) :
    q.current.Fits fields spec ∧ q.previous.Fits fields spec := by
  obtain ⟨now', -, h⟩ := ok_of_bind h
  obtain ⟨period, -, h⟩ := ok_of_bind h
  obtain ⟨middle, -, h⟩ := ok_of_bind h
  obtain ⟨first, -, h⟩ := ok_of_bind h
  cases h
  exact ⟨⟨fits_window hv.predicate _ _ _, hv.target, hv.group⟩,
    ⟨fits_window hv.predicate _ _ _, hv.target, hv.group⟩⟩

section

variable {metric : Metric} {order : SortOrder} (hp : p.Fits fields spec)
  (hm : spec.metricType = .text metric.name)

include hp hm

theorem ofKpi_known {now : Moment} (h : ofKpi fields spec metric p now = .ok plan) :
    plan.Fits fields spec ∧ spec.TargetKnown fields := by
  obtain ⟨target, htarget, h⟩ := ok_of_bind h
  obtain ⟨hgiven, hknown, hqueryable⟩ := metricTarget_ok htarget
  have hvalue : AggregateQuery.Fits fields spec ⟨p, metric, target, none, none, .desc⟩ :=
    ⟨hp, hqueryable, fun key hkey => by cases hkey⟩
  refine ⟨?_, fun hne => hgiven fun heq => hne (heq ▸ hm), hknown⟩
  dsimp only at h
  split at h
  · obtain ⟨days, -, h⟩ := ok_of_bind h
    obtain ⟨trend, htrend, h⟩ := ok_of_bind h
    cases h
    refine ⟨hvalue, ?_⟩
    rintro _ ⟨⟩
    exact trendQueries_fits hvalue htrend
  · cases h
    exact ⟨hvalue, fun q hq => by cases hq⟩

theorem ofChart_known {kind : ChartKind} (h : ofChart fields spec kind metric order p = .ok plan) :
    plan.Fits fields spec ∧ Mentions fields spec.groupBy ∧ spec.TargetKnown fields := by
  unfold ofChart at h
  split at h
  · obtain ⟨f, hf, h⟩ := ok_of_bind h
    obtain ⟨group, hgroup, h⟩ := ok_of_bind h
    obtain ⟨target, htarget, h⟩ := ok_of_bind h
    obtain ⟨limit, -, h⟩ := ok_of_bind h
    cases h
    obtain ⟨hgiven, hknown, hqueryable⟩ := metricTarget_ok htarget
    refine ⟨⟨hp, hqueryable, ?_⟩, refers_of_requireField hf rfl, fun hne => hgiven fun heq =>
      hne (heq ▸ hm), hknown⟩
    rintro _ ⟨⟩
    exact queryable_of_queryKey hgroup (requireField_ok hf).1 rfl
  · cases h

omit hm in
theorem ofTable_known {cap : Int} (h : ofTable fields spec order p cap = .ok plan) :
    plan.Fits fields spec ∧ spec.ColumnsKnown fields ∧ spec.SortKnown fields := by
  obtain ⟨items, hitems, h⟩ := ok_of_bind h
  obtain ⟨columns, hcolumns, h⟩ := ok_of_bind h
  obtain ⟨page, -, h⟩ := ok_of_bind h
  obtain ⟨asked, -, h⟩ := ok_of_bind h
  obtain ⟨size, -, h⟩ := ok_of_bind h
  obtain ⟨offset, -, h⟩ := ok_of_bind h
  obtain ⟨sort, hsort, h⟩ := ok_of_bind h
  cases h
  obtain ⟨hmentions, hfields⟩ := columns_ok hcolumns
  obtain ⟨hknown, hqueryable⟩ := sortField_ok hsort
  refine ⟨⟨hfields, hp, hqueryable⟩, fun ds hds => ?_, hknown⟩
  cases hitems.symm.trans hds
  exact hmentions

omit hm in
theorem ofList_known (h : ofList fields spec order p = .ok plan) :
    plan.Fits fields spec ∧ Mentions fields spec.titleField ∧
      (spec.subtitleField.isTruthy = true → Mentions fields spec.subtitleField) ∧ spec.SortKnown fields := by
  have hshown {role : String} {d : Document} {f : FieldMeta} (hf : requireField fields role d = .ok f) :
      Mentions fields (.text f.key) := ⟨f, (requireField_ok hf).1, rfl, rfl⟩
  unfold ofList at h
  split at h
  · obtain ⟨title, htitle, h⟩ := ok_of_bind h
    dsimp only at h
    split at h
    · obtain ⟨subtitle, hsubtitle, h⟩ := ok_of_bind h
      obtain ⟨limit, -, h⟩ := ok_of_bind h
      obtain ⟨sort, hsort, h⟩ := ok_of_bind h
      cases h
      obtain ⟨hknown, hqueryable⟩ := sortField_ok hsort
      cases hf : requireField fields "subtitle_field" spec.subtitleField with
      | error fault => rw [hf] at hsubtitle; cases hsubtitle
      | ok f =>
        rw [hf] at hsubtitle
        cases hsubtitle
        refine ⟨⟨hshown htitle, ?_, hp, hqueryable⟩, refers_of_requireField htitle rfl,
          fun _ => refers_of_requireField hf rfl, hknown⟩
        rintro _ ⟨⟩
        exact hshown hf
    · rename_i hnone
      obtain ⟨subtitle, hsubtitle, h⟩ := ok_of_bind h
      obtain ⟨limit, -, h⟩ := ok_of_bind h
      obtain ⟨sort, hsort, h⟩ := ok_of_bind h
      cases hsubtitle
      cases h
      obtain ⟨hknown, hqueryable⟩ := sortField_ok hsort
      exact ⟨⟨hshown htitle, (fun key hkey => by cases hkey), hp, hqueryable⟩,
        refers_of_requireField htitle rfl, fun hgiven => absurd hgiven hnone, hknown⟩
  · cases h

end

theorem text_of_named {α : Type} {all : List α} {name : α → String} {a : α}
    (h : named? (fun s => all.find? (name · == s)) d = some a) : d = .text (name a) := by
  unfold named? at h
  split at h
  · rw [show name a = _ by simpa using List.find?_some h]
  · cases h

/-- What a plan takes: its queries fit, and the specification refers to fields of the entity as far as it is
read. -/
theorem ofRaw_known {cap : Int} {now : Moment} (h : ofRaw fields spec cap now = .ok plan) :
    plan.Fits fields spec ∧ spec.FiltersKnown fields ∧
      ∃ kind : WidgetKind, spec.widgetType = .text kind.name ∧ spec.KnownFor fields kind := by
  unfold ofRaw at h
  split at h
  · cases h
  · rename_i kind hkind
    split at h
    · cases h
    · rename_i metric hmetric
      split at h
      · cases h
      · rename_i order horder
        obtain ⟨p, hp, h⟩ := ok_of_bind h
        obtain ⟨hfits, hfilters⟩ := predicate_ok hp
        have hm : spec.metricType = .text metric.name := text_of_named hmetric
        have hk : spec.widgetType = .text kind.name := text_of_named hkind
        cases kind with
        | kpi =>
          obtain ⟨hplan, hknown⟩ := ofKpi_known hfits hm h
          exact ⟨hplan, hfilters, .kpi, hk, hknown⟩
        | chart k =>
          obtain ⟨hplan, hknown⟩ := ofChart_known hfits hm h
          exact ⟨hplan, hfilters, .chart k, hk, hknown⟩
        | table =>
          obtain ⟨hplan, hknown⟩ := ofTable_known hfits h
          exact ⟨hplan, hfilters, .table, hk, hknown⟩
        | list =>
          obtain ⟨hplan, hknown⟩ := ofList_known hfits h
          exact ⟨hplan, hfilters, .list, hk, hknown⟩

/-- No query of a plan names a field that is not one of the entity's, or not one for its part. -/
theorem ofRaw_fits {cap : Int} {now : Moment} (h : ofRaw fields spec cap now = .ok plan) :
    plan.Fits fields spec :=
  (ofRaw_known h).1

end Plan

/-! A sum with its trend, of the records won so far; the empty title wants no filter. -/

def dealFields : List FieldMeta :=
  [⟨"amount", "number", true, true, none⟩, ⟨"stage", "select", true, true, none⟩,
    ⟨"title", "text", true, true, none⟩]

def wonAmount : RawSpec where
  tenantId := .text "t"
  entityId := .text "e"
  widgetType := .text "kpi"
  metricType := .text "sum"
  targetField := .text "amount"
  groupBy := .null
  filters := .object [("stage", .text "won"), ("title", .text "")]
  dateRange := .absent
  limit := .null
  sortOrder := .text "desc"
  sortBy := .null
  paging := .absent
  showTrend := .boolean true
  trendPeriodDays := .ofInt 7
  columns := .list []
  titleField := .null
  subtitleField := .null

theorem wonAmount_fits : ∃ value q, Plan.ofRaw dealFields wonAmount 100 ⟨1718452800000000, some 0⟩
      = .ok (.kpi value (some q) (.ofInt 7)) ∧
    q.previous.targetField = some "amount" ∧ q.previous.predicate.filters.map (·.key) = ["stage"] ∧
    Plan.Fits dealFields wonAmount (.kpi value (some q) (.ofInt 7)) := by
  have hplan : ∃ value q, Plan.ofRaw dealFields wonAmount 100 ⟨1718452800000000, some 0⟩
      = .ok (.kpi value (some q) (.ofInt 7)) ∧
      q.previous.targetField = some "amount" ∧ q.previous.predicate.filters.map (·.key) = ["stage"] :=
    ⟨_, _, rfl, rfl, rfl⟩
  obtain ⟨value, q, hplan, htarget, hfilters⟩ := hplan
  exact ⟨value, q, hplan, htarget, hfilters, Plan.ofRaw_fits hplan⟩

end RecordDesk.Widget
