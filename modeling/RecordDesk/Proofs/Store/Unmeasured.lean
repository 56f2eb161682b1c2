import RecordDesk.Proofs.Store.Overflow
set_option autoImplicit false

/-!
Records that are not measured. A figure is made of the numbers that the records hold, the oldest first; a
record that holds none leaves no trace in it, wherever it stands.
-/

namespace RecordDesk

open Widget

def RecordRow.number? (key : String) (r : RecordRow) : Option Number :=
  match r.fields.get? key with
  | some (.number n) => some n
  | _ => none

namespace Store

variable {s s' : Store} {p : Predicate} {q : AggregateQuery} {rows rows' : List RecordRow} {key : String}

def chosen (s : Store) (p : Predicate) : List RecordRow :=
  (s.matching p).mergeSort fun a b => a.createdAt.wall ≤ b.createdAt.wall

theorem wall_trans (a b c : RecordRow) (hab : decide (a.createdAt.wall ≤ b.createdAt.wall) = true)
    (hbc : decide (b.createdAt.wall ≤ c.createdAt.wall) = true) :
    decide (a.createdAt.wall ≤ c.createdAt.wall) = true := by
  rw [decide_eq_true_eq] at *
  exact hab.trans hbc

theorem wall_total (a b : RecordRow) :
    (decide (a.createdAt.wall ≤ b.createdAt.wall) || decide (b.createdAt.wall ≤ a.createdAt.wall)) =
      true := by
  simpa using Int.le_total a.createdAt.wall b.createdAt.wall

theorem filter_chosen (keep : RecordRow → Bool) : (s.chosen p).filter keep =
    ((s.matching p).filter keep).mergeSort fun a b => a.createdAt.wall ≤ b.createdAt.wall :=
  filter_sorted wall_trans wall_total keep (s.matching p)

theorem select_eq (h : s.select p = .ok rows) : rows = s.chosen p := by
  obtain ⟨found, hfound, h⟩ := ok_of_bind h
  obtain ⟨all, hall, hfound⟩ := ok_of_bind hfound
  cases hfound
  rw [filterM_ok h, filter_sorted wall_trans wall_total, chosen, matching, Table.rows_of_read hall,
    List.filter_filter]
  congr 1
  refine List.filter_congr fun r _ => ?_
  rw [Predicate.takes, Bool.and_comm]

theorem compute_congr {metric : Metric} (hmetric : metric ≠ .count) {cells cells' : List Cell}
    (h : cells.filterMap Cell.number? = cells'.filterMap Cell.number?) :
    compute metric cells = compute metric cells' := by
  cases metric with
  | count => exact absurd rfl hmetric
  | sum => exact congrArg total h
  | avg => exact congrArg (fun ns => Except.ok (average ns)) h
  | min => exact congrArg (fun ns => Except.ok (best .lt ns)) h
  | max => exact congrArg (fun ns => Except.ok (best .gt ns)) h

theorem measureOf_plain (hkey : Path.Plain key) {r : RecordRow} (hr : r.fields.isPortable = true) :
    measureOf (some key) r = .ok (Cell.seen Cell.measure (r.fields.get? key)) :=
  Cell.field_plain Cell.measure hkey hr

theorem measured_number (key : String) (r : RecordRow) :
    (Cell.seen Cell.measure (r.fields.get? key)).number? = (r.number? key).map Cell.ofNumber := by
  rw [RecordRow.number?]
  cases r.fields.get? key with
  | none => rfl
  | some d => cases d <;> rfl

theorem aggregate_plain (hkey : Path.Plain key) (htarget : q.targetField = some key)
    (hmetric : q.metric ≠ .count) (hrows : s.select q.predicate = .ok rows)
    (hportable : ∀ r ∈ rows, r.fields.isPortable = true) :
    s.aggregate q = (compute q.metric
      (((rows.filterMap (·.number? key)).map Cell.ofNumber).map Cell.number)).map Cell.toBinary64 := by
  have hcells : rows.mapM (measureOf q.targetField) =
      .ok (rows.map fun r => Cell.seen Cell.measure (r.fields.get? key)) := by
    rw [htarget]
    exact mapM_ok fun r hr => measureOf_plain hkey (hportable r hr)
  have hnumbers : (rows.map fun r => Cell.seen Cell.measure (r.fields.get? key)).filterMap Cell.number? =
      (((rows.filterMap (·.number? key)).map Cell.ofNumber).map Cell.number).filterMap Cell.number? := by
    rw [List.filterMap_map, List.map_map, List.filterMap_map, List.filterMap_filterMap]
    refine List.filterMap_congr fun r _ => (measured_number key r).trans ?_
    cases r.number? key <;> rfl
  rw [aggregate_measured hmetric]
  refine (bind_of_ok hrows).trans ((bind_of_ok hcells).trans ?_)
  rw [compute_congr hmetric hnumbers]
  rfl

theorem filterMap_filter_isSome {α β : Type} (f : α → Option β) (as : List α) :
    (as.filter fun a => (f a).isSome).filterMap f = as.filterMap f := by
  rw [List.filterMap_filter]
  refine List.filterMap_congr fun a _ => ?_
  cases f a <;> rfl

theorem numbers_of_more {before after : List RecordRow} {r : RecordRow}
    (hrows : s.records.rows = some (before ++ after))
    (hmore : s'.records.rows = some (before ++ r :: after)) (hr : r.number? key = none) :
    (s'.chosen p).filterMap (·.number? key) = (s.chosen p).filterMap (·.number? key) := by
  have hkept : (s'.matching p).filter (fun a => (a.number? key).isSome) =
      (s.matching p).filter fun a => (a.number? key).isSome := by
    rw [matching, matching, hrows, hmore, Option.getD_some, Option.getD_some, List.filter_filter,
      List.filter_filter, List.filter_append, List.filter_append, List.filter_cons_of_neg (by simp [hr])]
  rw [← filterMap_filter_isSome _ (s'.chosen p), ← filterMap_filter_isSome _ (s.chosen p),
    filter_chosen, filter_chosen, hkept]

theorem select_of_more {before after : List RecordRow} {r : RecordRow}
    (hrows : s.records.rows = some (before ++ after))
    (hmore : s'.records.rows = some (before ++ r :: after)) (h : ∃ rows, s'.select p = .ok rows) :
    ∃ rows, s.select p = .ok rows := by
  obtain ⟨all, hall, htest⟩ := select_ok_iff.1 h
  cases hmore.symm.trans hall
  refine select_ok_iff.2 ⟨_, hrows, fun a ha => htest a ?_⟩
  rcases List.mem_append.1 ha with ha | ha
  · exact List.mem_append_left _ ha
  · exact List.mem_append_right _ (List.mem_cons_of_mem _ ha)

theorem portable_of_select (hs : ∃ all, s.records.rows = some all ∧ ∀ r ∈ all, r.fields.Sound)
    (hrows : s.select p = .ok rows) : ∀ r ∈ rows, r.fields.isPortable = true := by
  obtain ⟨all, hall, hsound⟩ := hs
  intro r hr
  have hmem := (select_perm hrows).mem_iff.1 hr
  rw [matching, hall] at hmem
  exact (hsound r (List.mem_filter.1 hmem).1).portable

/-- A record more that holds no number under a plain key changes no figure of it but the count. -/
theorem aggregate_unmoved (hkey : Path.Plain key) (htarget : q.targetField = some key)
    (hmetric : q.metric ≠ .count)
    {before after : List RecordRow} {r : RecordRow} (hs : ∀ a ∈ before ++ r :: after, a.fields.Sound)
    (hrows : s.records.rows = some (before ++ after)) (hmore : s'.records.rows = some (before ++ r :: after))
    (hr : r.number? key = none) (h : ∃ rows, s'.select q.predicate = .ok rows) :
    s'.aggregate q = s.aggregate q := by
  obtain ⟨rows, hselect⟩ := select_of_more hrows hmore h
  obtain ⟨rows', hselect'⟩ := h
  have hportable := portable_of_select ⟨_, hrows, fun a ha => hs a (by simp at ha ⊢; tauto)⟩ hselect
  rw [aggregate_plain hkey htarget hmetric hselect' (portable_of_select ⟨_, hmore, hs⟩ hselect'),
    aggregate_plain hkey htarget hmetric hselect hportable, select_eq hselect, select_eq hselect',
    numbers_of_more hrows hmore hr]

/-! Some records, and a query for all of them. -/

def holding (rows : List RecordRow) : Store := { records := ⟨"entity_records", some rows⟩ }

def everything : Predicate := ⟨.text "t", .text "e", [], none, none, true⟩

theorem sound_holding {rows : List RecordRow} (h : ∀ r ∈ rows, r.fields.Sound) : (holding rows).Sound :=
  ⟨⟨rows, rfl, h⟩, [], rfl⟩

theorem select_holding (rows : List RecordRow) : ∃ found, (holding rows).select everything = .ok found :=
  select_ok_iff.2 ⟨rows, rfl, fun _ _ _ => ⟨true, rfl⟩⟩

theorem chosen_holding {rows : List RecordRow} (htakes : ∀ r ∈ rows, everything.takes r = true)
    (heven : ∀ r ∈ rows, r.createdAt = ⟨0, none⟩) : (holding rows).chosen everything = rows := by
  have hmatching : (holding rows).matching everything = rows := List.filter_eq_self.2 htakes
  have hany : rows.Pairwise fun _ _ => True := List.pairwise_of_forall fun _ _ => trivial
  rw [chosen, hmatching]
  refine List.mergeSort_of_pairwise (hany.imp_of_mem fun {a b} ha hb _ => ?_)
  rw [heven a ha, heven b hb]
  rfl

end Store

end RecordDesk
