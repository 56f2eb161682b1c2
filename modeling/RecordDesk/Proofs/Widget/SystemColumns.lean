import RecordDesk.Proofs.Widget.Trends
set_option autoImplicit false

/-!
Tables and their system columns. A row is filled from the left, and what comes later takes the place of what
was there under its key: a system column is the record's own unless a field of its key is asked for.
-/

namespace RecordDesk

namespace Members

variable {key : String}

theorem lookup_cons (k name : String) (d : Document) (rest : Members) :
    List.lookup k ((name, d) :: rest) = if k = name then some d else rest.lookup k := by
  rw [List.lookup_cons]
  by_cases hk : k = name
  · rw [beq_iff_eq.2 hk, if_pos hk]
  · rw [beq_false_of_ne hk, if_neg hk]

theorem lookup_replaced_other {k : String} (hk : k ≠ key) (d : Document) (ms : Members) :
    (ms.map fun m => if m.1 == key then (key, d) else m).lookup k = ms.lookup k := by
  induction ms with
  | nil => rfl
  | cons m rest ih =>
    obtain ⟨name, e⟩ := m
    rw [List.map_cons, lookup_cons k name e, ← ih]
    by_cases hname : name = key
    · rw [if_pos (beq_iff_eq.2 hname), lookup_cons, if_neg hk, if_neg fun h => hk (h.trans hname)]
    · rw [if_neg (by simpa using hname), lookup_cons]

theorem lookup_replaced_self (d : Document) {ms : Members} (hany : ms.any (·.1 == key) = true) :
    (ms.map fun m => if m.1 == key then (key, d) else m).lookup key = some d := by
  induction ms with
  | nil => cases hany
  | cons m rest ih =>
    obtain ⟨name, e⟩ := m
    rw [List.map_cons]
    by_cases hname : name = key
    · rw [if_pos (beq_iff_eq.2 hname), lookup_cons, if_pos rfl]
    · have hrest : rest.any (·.1 == key) = true := by simpa [hname] using hany
      rw [if_neg (by simpa using hname), lookup_cons, if_neg fun h => hname h.symm, ih hrest]

theorem lookup_set (members : Members) (key k : String) (d : Document) :
    (members.set key d).lookup k = if k = key then some d else members.lookup k := by
  unfold Members.set
  by_cases hk : k = key
  · subst hk
    rw [if_pos rfl]
    split
    · exact lookup_replaced_self d ‹_›
    · rename_i hnone
      have hmissing : members.lookup k = none := by
        rw [List.lookup_eq_none_iff]
        exact fun m hm => bne_iff_ne.2 fun heq => hnone (List.any_eq_true.2 ⟨m, hm, beq_iff_eq.2 heq.symm⟩)
      rw [List.lookup_append, hmissing, Option.none_or, lookup_cons, if_pos rfl]
  · rw [if_neg hk]
    split
    · exact lookup_replaced_other hk d members
    · rw [List.lookup_append, lookup_cons, if_neg hk, List.lookup_nil, Option.or_none]

theorem lookup_setAll {α : Type} (key : α → String) (value : String → Document) (as : List α)
    (members : Members)
    (k : String) : (as.foldl (fun row a => row.set (key a) (value (key a))) members).lookup k =
      if k ∈ as.map key then some (value k) else members.lookup k := by
  induction as generalizing members with
  | nil => simp
  | cons a rest ih =>
    rw [List.foldl_cons, ih, lookup_set, List.map_cons]
    by_cases hrest : k ∈ rest.map key
    · rw [if_pos hrest, if_pos (List.mem_cons_of_mem _ hrest)]
    · rw [if_neg hrest]
      by_cases hk : k = key a
      · rw [if_pos hk, if_pos (hk ▸ List.mem_cons_self), hk]
      · rw [if_neg hk, if_neg fun h => (List.mem_cons.1 h).elim hk hrest]

end Members

def Document.IsFields (d : Document) : Prop := ∃ members, d = .object members ∧ (members.map (·.1)).Nodup

def RecordRow.value (key : String) (r : RecordRow) : Document := (r.fields.get? key).getD .null

namespace Store

open Widget

variable {s : Store} {q : PageQuery} {users : List UserRow}

theorem pairsOrNone_object (members : Members) :
    (Document.object members).pairsOrNone = .ok (members.map fun m => (.text m.1, m.2)) := by
  cases members <;> rfl

theorem stored_display {r : RecordRow} (h : r.fields.IsFields) (users : List UserRow) (key : String) :
    Data.stored (display users r) key = r.value key := by
  obtain ⟨members, hfields, hnodup⟩ := h
  have hentries : (display users r).entries = members.map fun m => (.text m.1, m.2) := by
    rw [display, hfields, pairsOrNone_object]
  have hmembers : (display users r).entries.members = members := by
    rw [Entries.members, hentries, List.filterMap_map]
    exact (congrArg Members.ofPairs List.filterMap_some).trans (Document.ofPairs_of_nodup hnodup)
  rw [Data.stored, hmembers, RecordRow.value, hfields]
  rfl

theorem listed_of_page {listed : List Listed} {count : Nat} (h : s.page q = .ok (listed, count)) :
    ∃ (users : List UserRow) (records : List RecordRow), s.users.rows = some users ∧
      records.Subperm (s.matching q.predicate) ∧ listed = records.map (display users) := by
  obtain ⟨offset, -, h⟩ := ok_of_bind h
  obtain ⟨limit, -, h⟩ := ok_of_bind h
  obtain ⟨rows, hrows, h⟩ := ok_of_bind h
  obtain ⟨users, husers, h⟩ := ok_of_bind h
  dsimp only at h
  split at h
  · cases h
  · obtain ⟨cells, hcells, h⟩ := ok_of_bind h
    obtain ⟨more, hmore, h⟩ := ok_of_bind h
    cases h
    rw [mapM_keyed hcells, map_sorted] at hmore
    refine ⟨users, bounded (some limit) ((arranged q.sortBy q.sortOrder rows).drop offset.toNat),
      Table.rows_of_read husers, ?_, ?_⟩
    · exact ((bounded_sublist _ _).trans (List.drop_sublist _ _)).subperm.trans
        (arranged_perm.trans (select_perm hrows)).subperm
    · have hdisplayed := mapM_ok (f := Store.listed users) (g := display users) fun r hr => by
        obtain ⟨l, hl⟩ := ok_of_mapM hmore r hr
        obtain ⟨entries, hentries, -⟩ := ok_of_bind hl
        exact listed_display ⟨entries, hentries⟩
      exact Except.ok.inj (hmore.symm.trans hdisplayed)

end Store

namespace Widget

namespace Plan

variable {fields : List FieldMeta} {cap : Int} {now : Moment}

theorem ofRaw_table {raw : RawSpec} {columns : List FieldMeta} {page : Int} {size : Quantity} {q : PageQuery}
    (h : ofRaw fields raw cap now = .ok (.table columns page size q)) : ∃ order p,
      predicate fields raw = .ok p ∧ ofTable fields raw order p cap = .ok (.table columns page size q) := by
  unfold ofRaw at h
  split at h
  · cases h
  · rename_i kind hkind
    split at h
    · cases h
    · split at h
      · cases h
      · rename_i order horder
        obtain ⟨p, hp, h⟩ := ok_of_bind h
        cases kind with
        | kpi => cases kind_ofKpi h
        | chart k => cases kind_ofChart h
        | table => exact ⟨order, p, hp, h⟩
        | list => cases kind_ofList h

theorem keys_of_columns {spec : Spec} {order : SortOrder} {p : Predicate}
    {columns : List FieldMeta} {page : Int} {size : Quantity} {q : PageQuery}
    (h : ofTable fields spec.raw order p cap = .ok (.table columns page size q)) :
    columns.map (·.key) = spec.columns ∧ q.predicate = p := by
  obtain ⟨chosen, hchosen, h⟩ := ok_of_bind h
  obtain ⟨page, -, h⟩ := ok_of_bind h
  obtain ⟨asked, -, h⟩ := ok_of_bind h
  obtain ⟨size, -, h⟩ := ok_of_bind h
  obtain ⟨offset, -, h⟩ := ok_of_bind h
  obtain ⟨sortBy, -, h⟩ := ok_of_bind h
  cases h
  have hkeys : columns.filterMap (fun f => some (Document.text f.key)) =
    (spec.columns.map Document.text).filterMap some :=
    filterMap_of_mapM (fun d f hf => congrArg some (requireField_ok hf).2) hchosen
  rw [List.filterMap_some, List.filterMap_eq_map'] at hkeys
  refine ⟨List.map_injective_iff.2 (fun a b h => Document.text.inj h) ?_, rfl⟩
  rw [List.map_map]
  exact hkeys

end Plan

namespace Data

/-- What the system columns show of a record: its name, the time of its creation, and the name of its
creator. -/
def ownColumns (users : List UserRow) (r : RecordRow) : Members :=
  [("id", .text r.id), ("created_at", createdAt r),
    ("created_by", .ofText? (r.createdBy.bind fun id => (users.find? (·.id == id)).map (·.name)))]

theorem tableRow_eq (columns : List FieldMeta) (users : List UserRow) (r : RecordRow) :
    tableRow columns (Store.display users r) = columns.foldl (fun row f => row.set f.key
      (stored (Store.display users r) f.key)) (ownColumns users r) := rfl

/-- A row holds what is stored of a record under the keys that are asked for, and else its system
columns. -/
theorem lookup_tableRow (columns : List FieldMeta) (users : List UserRow) {r : RecordRow}
    (h : r.fields.IsFields) (key : String) : (tableRow columns (Store.display users r)).lookup key =
      if key ∈ columns.map (·.key) then some (r.value key) else (ownColumns users r).lookup key := by
  rw [tableRow_eq, Members.lookup_setAll FieldMeta.key (stored (Store.display users r)),
    Store.stored_display h]

theorem lookup_own {users : List UserRow} {r : RecordRow} {own : String × Document}
    (h : own ∈ ownColumns users r) : (ownColumns users r).lookup own.1 = some own.2 := by
  simp only [ownColumns, List.mem_cons, List.not_mem_nil, or_false] at h
  rcases h with rfl | rfl | rfl <;> rfl

/-- A row whose columns hold what they are asked for: the system columns the record's own, unless something
else is stored under a key of theirs that is asked for, and the others what is stored under their keys, or
null. -/
structure RowOf (keys : List String) (users : List UserRow) (r : RecordRow) (row : Members) : Prop where
  own : ∀ c ∈ ownColumns users r, row.lookup c.1 = some c.2 ↔ (c.1 ∈ keys → r.value c.1 = c.2)
  asked : ∀ key ∈ keys, row.lookup key = some (r.value key)

theorem rowOf_tableRow (columns : List FieldMeta) (users : List UserRow) {r : RecordRow}
    (h : r.fields.IsFields) :
    RowOf (columns.map (·.key)) users r (tableRow columns (Store.display users r)) where
  own c hc := by
    rw [lookup_tableRow columns users h]
    by_cases hkey : c.1 ∈ columns.map (·.key)
    · rw [if_pos hkey, Option.some_inj]
      exact ⟨fun heq _ => heq, fun heq => heq hkey⟩
    · rw [if_neg hkey, lookup_own hc]
      exact ⟨fun _ h => (hkey h).elim, fun _ => rfl⟩
  asked key hkey := by rw [lookup_tableRow columns users h, if_pos hkey]

variable {d : Desk} {spec : Spec}

/-- The rows of a table are of records that its predicate takes, each at most once. A system column of a row
is the record's own just if its key is not asked for or the same is stored under it; every column that is
asked for holds what is stored under its key, or null. -/
theorem table_own_iff {columns : List Column} {rows : List Members} {page size total pages : Int}
    (h : shown d spec = .ok (.table columns rows page size total pages))
    (hfields : ∀ all, d.store.records.rows = some all → ∀ r ∈ all, r.fields.IsFields) :
    ∃ fields p users records, d.store.entityFields spec.entityId = .ok fields ∧
      Plan.predicate fields spec.raw = .ok p ∧ d.store.users.rows = some users ∧
      records.Subperm (d.store.matching p) ∧ List.Forall₂ (RowOf spec.columns users) records rows := by
  obtain ⟨e, fields, plan, -, hentity, hplan, h⟩ := shown_ok h
  obtain ⟨chosen, limit, q, listed, count, rfl, -, rfl, hpage, -⟩ := ofPlan_table h
  obtain ⟨order, p, hp, htable⟩ := Plan.ofRaw_table hplan
  obtain ⟨hkeys, rfl⟩ := Plan.keys_of_columns htable
  obtain ⟨users, records, husers, hmatching, rfl⟩ := Store.listed_of_page hpage
  refine ⟨fields, _, users, records, hentity, hp, husers, hmatching, ?_⟩
  rw [List.map_map, List.forall₂_map_right_iff, List.forall₂_same, ← hkeys]
  intro r hr
  refine rowOf_tableRow chosen users ?_
  have hmem := List.mem_of_mem_filter (hmatching.subset hr)
  cases hrows : d.store.records.rows with
  | none => rw [hrows] at hmem; cases hmem
  | some all => exact hfields all hrows r (by rwa [hrows] at hmem)

/-! A desk whose only record has a field that is named as a system column is. -/

def codeField : FieldMeta := ⟨"id", "text", true, true, none⟩

def stageField : FieldMeta := ⟨"stage", "text", true, true, none⟩

def codedRecord : RecordRow :=
  ⟨"r-1", "t-1", "ent-1", .object [("id", .text "deal-7"), ("stage", .text "won")], some "u-1",
    ⟨1718452800000000, none⟩, none⟩

theorem code_ne_name : codedRecord.value "id" ≠ .text codedRecord.id := by
  intro h
  have hsame : Document.text "deal-7" = .text "r-1" := h
  exact absurd (Document.text.inj hsame) (by decide)

def ada : UserRow := ⟨"u-1", "t-1", "Ada", "ada@example.com"⟩

def codedDesk : Desk where
  store := {
    users := ⟨"users", some [ada]⟩
    entities := ⟨"entities", some [⟨"ent-1", "t-1", "Deals", "deals"⟩]⟩
    fields := ⟨"entity_fields", some [⟨"ent-1", codeField, false, 0⟩, ⟨"ent-1", stageField, false, 1⟩]⟩
    records := ⟨"entity_records", some [codedRecord]⟩ }
  now := ⟨1718452800000000, some 0⟩

def codedTable : Spec where
  tenantId := "t-1"
  entityId := "ent-1"
  widgetType := "table"
  metricType := "count"
  targetField := none
  groupBy := none
  filters := []
  dateRange := none
  limit := none
  sortOrder := "asc"
  sortBy := none
  paging := none
  showTrend := false
  trendPeriodDays := 7
  columns := ["id", "stage"]
  titleField := none
  subtitleField := none

theorem fields_codedDesk : codedDesk.store.entityFields "ent-1" = .ok [codeField, stageField] := by
  have hsorted : ([⟨"ent-1", codeField, false, 0⟩, ⟨"ent-1", stageField, false, 1⟩] : List FieldRow).mergeSort
      (fun a b => decide (a.position ≤ b.position)) =
        [⟨"ent-1", codeField, false, 0⟩, ⟨"ent-1", stageField, false, 1⟩] :=
    List.mergeSort_of_pairwise (by decide)
  change Except.ok ((([⟨"ent-1", codeField, false, 0⟩, ⟨"ent-1", stageField, false, 1⟩] :
    List FieldRow).mergeSort _).map (·.field)) = _
  rw [hsorted]
  rfl

def codedPredicate : Predicate := ⟨.text "t-1", .text "ent-1", [], none, none, true⟩

theorem shown_codedTable : shown codedDesk codedTable = .ok (.table (columnsOf [codeField, stageField])
    [tableRow [codeField, stageField] (Store.display [ada] codedRecord)] 1 20 1 1) := by
  have hplan : Plan.ofSpec [codeField, stageField] codedTable codedDesk.pageCap codedDesk.now
      = .ok (Plan.tablePage [codeField, stageField] 20 codedPredicate none .asc 1) := by rfl
  have hselect : codedDesk.store.select codedPredicate = .ok [codedRecord] := by
    change ((([codedRecord] : List RecordRow).mergeSort _).filterM _ : Except Fault (List RecordRow)) = _
    rw [List.mergeSort_singleton]
    rfl
  have hcells : [codedRecord].mapM (Store.keyed none) = .ok [(.null, codedRecord)] := by rfl
  have hcount : Page.count [codedRecord].length 20 = .ok 1 :=
    Page.count_eq_pagesFor (by decide) (by decide +kernel) (by decide)
  have hslice : Page.slice ((20 : Nat) : Int) 1 (Store.arranged none .asc [codedRecord]) = [codedRecord] := by
    rw [Store.arranged, List.mergeSort_singleton]
    rfl
  have hpage := ofPlan_tablePage [codeField, stageField] 20 .asc 1 hselect rfl hcells (by decide)
    (by decide) hcount (by rw [hslice]; exact List.forall_mem_singleton.2 ⟨_, rfl⟩)
  rw [hslice] at hpage
  exact (shown_of_plan rfl fields_codedDesk hplan).trans hpage

/-- The row has the name of the creator and the stage, and its first column what is stored under `id`. -/
theorem codedTable_own : (∀ all, codedDesk.store.records.rows = some all → ∀ r ∈ all, r.fields.IsFields) ∧
    ∃ row, shown codedDesk codedTable = .ok (.table (columnsOf [codeField, stageField]) [row] 1 20 1 1) ∧
    RowOf ["id", "stage"] [ada] codedRecord row ∧ row.lookup "created_by" = some (.text "Ada") ∧
    row.lookup "stage" = some (.text "won") ∧ row.lookup "id" ≠ some (.text "r-1") := by
  have hfields : ∀ all, codedDesk.store.records.rows = some all → ∀ r ∈ all, r.fields.IsFields := by
    rintro _ ⟨⟩
    exact List.forall_mem_singleton.2 ⟨_, rfl, by decide⟩
  obtain ⟨fields, p, users, records, -, -, husers, hmatching, hrows⟩ := table_own_iff shown_codedTable hfields
  obtain rfl := Option.some.inj husers
  obtain ⟨r, rest, hrow, hrest, rfl⟩ := List.forall₂_cons_right_iff.1 hrows
  obtain rfl := List.forall₂_nil_right_iff.1 hrest
  obtain rfl : r = codedRecord :=
    List.mem_singleton.1 (List.mem_of_mem_filter (hmatching.subset List.mem_cons_self))
  refine ⟨hfields, _, shown_codedTable, hrow, ?_, hrow.asked "stage" (by decide), ?_⟩
  · exact (hrow.own ("created_by", .text "Ada") (by simp [ownColumns, codedRecord, ada, Document.ofText?])).2
      fun h => absurd h (by decide)
  · exact fun hid => code_ne_name ((hrow.own ("id", .text "r-1") List.mem_cons_self).1 hid (by decide))

/-- A column of the key `id` takes the place of the name of the record. -/
theorem id_column_hidden : ¬ ∀ (d : Desk) (spec : Spec) (columns : List Column) (rows : List Members)
    (page size total pages : Int), shown d spec = .ok (.table columns rows page size total pages) →
    ∀ row ∈ rows, ∃ all r, d.store.records.rows = some all ∧ r ∈ all ∧
    row.lookup "id" = some (.text r.id) := by
  intro hall
  obtain ⟨all, r, hrecords, hr, hid⟩ :=
    hall codedDesk codedTable _ _ _ _ _ _ shown_codedTable _ List.mem_cons_self
  obtain rfl := Option.some.inj hrecords
  obtain rfl := List.mem_singleton.1 hr
  rw [lookup_tableRow _ _ ⟨_, rfl, by decide⟩] at hid
  exact code_ne_name (Option.some.inj hid)

end Data

end Widget

end RecordDesk
