import RecordDesk.Proofs.Store.Groups
set_option autoImplicit false

namespace RecordDesk

open Widget

namespace Store

open Cell

variable {s : Store} {q : AggregateQuery} {key : String} {rows : List RecordRow}

/-- A grouped query that the store can answer: its limit is a number of 64 bits, and what it asks of the
records is there. -/
structure Answerable (s : Store) (q : AggregateQuery) (key : String) : Prop where
  limit : ∃ limit, q.limit.mapM Quantity.whole = .ok limit ∧ limit.all Cell.fitsWord = true
  records : ∃ all, s.records.rows = some all ∧ ∀ r ∈ all, q.predicate.Meets r →
    ∃ b, passes r.fields q.predicate.filters = .ok b
  labels : ∀ r ∈ s.matching q.predicate, ∃ entry, labelled? q key r = .ok entry

/-- A grouped query over portable documents, by keys that a path can name. -/
structure Portable (s : Store) (q : AggregateQuery) (key : String) : Prop where
  limit : ∃ limit, q.limit.mapM Quantity.whole = .ok limit ∧ limit.all Cell.fitsWord = true
  records : ∃ all, s.records.rows = some all ∧ ∀ r ∈ all, q.predicate.Meets r → r.fields.isPortable = true
  key : Path.Nameable key
  target : ∀ target, q.targetField = some target → Path.Nameable target
  filters : ∀ f ∈ q.predicate.filters, Path.Nameable f.key ∧ ∃ c, wantedCell f = .ok c

theorem labelled?_total {r : RecordRow} (hlabel : ∃ c, Cell.field Cell.label key r.fields = .ok c)
    (hmeasure : ∃ c, measureOf q.targetField r = .ok c) : ∃ entry, labelled? q key r = .ok entry := by
  refine bind_total hlabel fun label => ?_
  split
  · exact ⟨_, rfl⟩
  · split
    · exact ⟨_, rfl⟩
    · refine bind_total hmeasure fun measure => ?_
      split <;> exact ⟨_, rfl⟩

theorem Portable.answerable (h : Portable s q key) : Answerable s q key := by
  obtain ⟨all, hall, hportable⟩ := h.records
  refine ⟨h.limit, ⟨all, hall, fun r hr hmeets => passes_total (hportable r hr hmeets) h.filters⟩,
    fun r hr => ?_⟩
  rw [matching, hall, Option.getD_some, List.mem_filter, Predicate.takes_iff] at hr
  have hfields := hportable r hr.1 hr.2.1
  refine labelled?_total ⟨_, Cell.field_nameable Cell.label h.key hfields⟩ ?_
  cases htarget : q.targetField with
  | none => exact ⟨.null, rfl⟩
  | some target => exact ⟨_, Cell.field_nameable Cell.measure (h.target target htarget) hfields⟩

theorem answerable_of_grouped {groups : List Group} (h : s.grouped q key = .ok groups) :
    Answerable s q key := by
  obtain ⟨limit, rows, found, bars, hlimit, hfits, hrows, hfound, -, -⟩ := grouped_ok h
  exact ⟨⟨limit, hlimit, hfits⟩, select_ok_iff.1 ⟨rows, hrows⟩,
    fun r hr => ok_of_mapM hfound r ((select_perm hrows).mem_iff.2 hr)⟩

theorem grouped_of_answerable (h : Answerable s q key) (hint : OfIntegers q (s.matching q.predicate))
    (hmodest : q.metric = .sum → ∀ rows, s.select q.predicate = .ok rows → Modest q key rows) :
    ∃ groups, s.grouped q key = .ok groups := by
  obtain ⟨limit, hlimit, hfits⟩ := h.limit
  obtain ⟨rows, hrows⟩ := select_ok_iff.2 h.records
  have hmem (r : RecordRow) : r ∈ rows → r ∈ s.matching q.predicate := (select_perm hrows).mem_iff.1
  obtain ⟨found, hfound⟩ := mapM_ok_iff.2 fun r hr => h.labels r (hmem r hr)
  have hrowsInt : OfIntegers q rows := hint.imp_right fun hint => ⟨hint.1, fun r hr => hint.2 r (hmem r hr)⟩
  obtain ⟨cells, hcells⟩ := figures_answered hrowsInt fun hsum => hmodest hsum rows hrows
  exact ⟨_, grouped_of_figures hlimit hfits hrows hfound hcells⟩

theorem shownFigure_int (i : Int) : shownFigure (.number (.int i)) = Binary64.ofInt i := by
  unfold shownFigure
  split
  · rename_i hzero
    obtain rfl := (Binary64.isZero_ofInt i).1 hzero
    exact Binary64.ofInt_zero.symm
  · rfl

theorem bounded_map {α β : Type} (f : α → β) (limit : Option Int) (as : List α) :
    bounded limit (as.map f) = (bounded limit as).map f := by
  unfold bounded
  split
  · rfl
  · split
    · rfl
    · exact List.map_take.symm

def beyond {α : Type} (limit : Option Int) (rows : List α) : List α :=
  match limit with
  | none => []
  | some n => if n < 0 then [] else rows.drop n.toNat

theorem bounded_append_beyond {α : Type} (limit : Option Int) (rows : List α) :
    bounded limit rows ++ beyond limit rows = rows := by
  cases limit with
  | none => exact List.append_nil rows
  | some n => by_cases hn : n < 0 <;> simp [bounded, beyond, hn]

/-- A chart is answered with the first bars of a full list. The list has a bar for each label of the records
that take part, with the figure over just these records, in the order of the query; no bar left out stands
before one that is shown. A chart of integers is answered wherever the store can answer it, as it can for
portable documents. -/
theorem grouped_charted (s : Store) (q : AggregateQuery) (key : String) :
    (Portable s q key → Answerable s q key) ∧
    (OfIntegers q (s.matching q.predicate) →
      (q.metric = .sum → ∀ rows, s.select q.predicate = .ok rows → Modest q key rows) →
      ((∃ groups, s.grouped q key = .ok groups) ↔ Answerable s q key)) ∧
    ∀ groups, s.grouped q key = .ok groups → OfIntegers q (s.matching q.predicate) →
      ∃ limit bars, q.limit.mapM Quantity.whole = .ok limit ∧ Charted q key (s.matching q.predicate) bars ∧
        groups = (bounded limit bars).map (fun b => ⟨b.1.shown, Binary64.ofInt b.2⟩) ∧
        ∀ a ∈ bounded limit bars, ∀ b ∈ beyond limit bars, Before q.sortOrder a b := by
  refine ⟨Portable.answerable, fun hint hmodest => ⟨fun ⟨groups, h⟩ => answerable_of_grouped h,
    fun h => grouped_of_answerable h hint hmodest⟩, fun groups h hint => ?_⟩
  obtain ⟨limit, rows, found, cells, hlimit, -, hrows, -, hcells, rfl⟩ := grouped_ok h
  have hperm := select_perm hrows
  have hrowsInt : OfIntegers q rows :=
    hint.imp_right fun hint => ⟨hint.1, fun r hr => hint.2 r (hperm.mem_iff.1 hr)⟩
  obtain ⟨bars, hsorted, hcharted⟩ := charted_of_figures hrowsInt hcells
  refine ⟨limit, bars, hlimit, hcharted.perm hperm, ?_, ?_⟩
  · rw [hsorted, bounded_map, List.map_map]
    exact List.map_congr_left fun b _ => congrArg (Group.mk b.1.shown) (shownFigure_int b.2)
  · have hordered := hcharted.ordered
    rw [← bounded_append_beyond limit bars] at hordered
    exact (List.pairwise_append.1 hordered).2.2

def atStage (stage : Document) : RecordRow :=
  ⟨"r", "t", "e", .object [("stage", stage)], none, ⟨0, none⟩, none⟩

def staged : List RecordRow :=
  [.boolean true, .text "true", .ofInt 1, .number (.float (Binary64.ofInt 1)), .text "1", .list [.ofInt 1],
    .null].map atStage

def stagedStore : Store := { records := ⟨"entity_records", some staged⟩ }

def topStages : AggregateQuery :=
  ⟨⟨.text "t", .text "e", [], none, none, true⟩, .count, none, some "stage", some (.ofInt 2), .desc⟩

/-- The truth value and its word are one bar of two records, and the bars have all six records with a
stage. -/
theorem staged_charted : Portable stagedStore topStages "stage" ∧
    ∃ (groups : List Group) (bars : List (Cell × Int)), stagedStore.grouped topStages "stage" = .ok groups ∧
      groups = (bars.take 2).map (fun b => ⟨b.1.shown, Binary64.ofInt b.2⟩) ∧
      (Cell.text "true", 2) ∈ bars ∧ (bars.map (·.2)).sum = 6 := by
  have hportable : Portable stagedStore topStages "stage" := {
    limit := ⟨some 2, rfl, rfl⟩
    records := ⟨staged, rfl, fun r hr _ =>
      (by decide +kernel : ∀ r ∈ staged, r.fields.isPortable = true) r hr⟩
    key := by simp [Path.Nameable]
    target := fun _ h => by cases h
    filters := fun _ hf => (List.not_mem_nil hf).elim }
  have hint : OfIntegers topStages (stagedStore.matching topStages.predicate) := .inl rfl
  have hmatching : stagedStore.matching topStages.predicate = staged :=
    List.filter_eq_self.2 (by decide +kernel)
  have hcharted := grouped_charted stagedStore topStages "stage"
  obtain ⟨groups, hgroups⟩ := (hcharted.2.1 hint fun h => Metric.noConfusion h).2 (hcharted.1 hportable)
  obtain ⟨limit, bars, hlimit, hbars, heq, -⟩ := hcharted.2.2 groups hgroups hint
  cases hlimit
  rw [hmatching] at hbars
  have hmembers : (members topStages "stage" staged (.text "true")).length = 2 := by decide +kernel
  have hall : (staged.filter (takesPart topStages "stage")).length = 6 := by decide +kernel
  refine ⟨hportable, groups, bars, hgroups, heq, ?_, ?_⟩
  · obtain ⟨b, hb, hmatch⟩ := hbars.covers (atStage (.boolean true)) (List.mem_map_of_mem List.mem_cons_self)
      (by decide +kernel)
    have htrue : (atStage (.boolean true)).label "stage" = .text "true" := by decide +kernel
    have hlabel : b.1 = .text "true" := by
      rw [htrue] at hmatch
      cases hcell : b.1 with
      | text t =>
        rw [hcell] at hmatch
        exact congrArg Cell.text (beq_iff_eq.1 hmatch).symm
      | _ =>
        rw [hcell] at hmatch
        cases hmatch
    have hfigure : b.2 = ((members topStages "stage" staged b.1).map (weight topStages)).length :=
      hbars.shows b hb
    rw [hlabel, List.length_map, hmembers] at hfigure
    have hbar : b = (.text "true", 2) := Prod.ext hlabel hfigure
    exact hbar ▸ hb
  · have hsum : (bars.map (·.2)).sum =
      ((staged.filter (takesPart topStages "stage")).map (weight topStages)).length :=
      hbars.conserved (.inl rfl)
    rw [hsum, List.length_map, hall]
    rfl

def endless : RecordRow :=
  ⟨"r", "t", "e", .object [("stage", .text "won"), ("odds", .number (.float (.infinite false)))], none,
    ⟨0, none⟩, none⟩

/-- One infinite number spoils the count of stages: the record's stored text is not read for its stage
either. -/
theorem endless_uncharted : ¬ ∀ (s : Store) (q : AggregateQuery) (key : String),
    q.metric = .count → (∃ rows, s.records.rows = some rows) → ∃ groups, s.grouped q key = .ok groups := by
  intro hall
  obtain ⟨groups, hgroups⟩ :=
    hall { records := ⟨"entity_records", some [endless]⟩ } topStages "stage" rfl ⟨_, rfl⟩
  obtain ⟨entry, hentry⟩ := (answerable_of_grouped hgroups).labels endless (by
    rw [matching, List.mem_filter]
    exact ⟨List.mem_cons_self, by decide +kernel⟩)
  have hfield : Cell.field Cell.label "stage" endless.fields = .error Path.malformed := by rfl
  rw [labelled?, hfield] at hentry
  cases hentry

end Store

end RecordDesk
