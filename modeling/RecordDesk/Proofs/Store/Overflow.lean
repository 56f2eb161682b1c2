import RecordDesk.Proofs.Store.Lookups
import RecordDesk.Proofs.Store.Charts
set_option autoImplicit false

/-!
Which queries are answered. A sum is answered as long as the integers that come before any fraction never
add up to more than a word holds; all other figures always are. So a query is answered just when it can be
read and its sums fit.
-/

namespace RecordDesk

open Widget

namespace Store

/-! Sums of any numbers. -/

/-- The integers at the front of some numbers never add up to what a word does not hold. -/
def SumFits (ns : List Number) : Prop :=
  ∀ is : List Int, is.map Number.int <+: ns → Cell.fitsWord is.sum = true

namespace Sum

/-- A fraction came before any sum left the range of a word; from then on nothing can. -/
def Safe (s : Sum) : Prop := s.isReal = true ∧ s.overflowed = false

theorem Safe.addAll {s : Sum} (h : s.Safe) (ns : List Number) : (ns.foldl Sum.add s).overflowed = false := by
  induction ns generalizing s with
  | nil => exact h.2
  | cons n rest ih =>
    refine ih ?_
    obtain ⟨hreal, hover⟩ := h
    cases n <;> simp [Safe, Sum.add, hreal, hover]

theorem overflowed_addAll_iff {s : Sum} {i : Int} (h : s.Exact i) (hi : Cell.fitsWord i = true)
    (ns : List Number) : (ns.foldl Sum.add s).overflowed = false ↔
      ∀ is : List Int, is.map Number.int <+: ns → Cell.fitsWord (i + is.sum) = true := by
  induction ns generalizing s i with
  | nil =>
    refine ⟨fun _ is hpre => ?_, fun _ => h.2.1⟩
    rw [List.map_eq_nil_iff.1 (List.prefix_nil.1 hpre)]
    simpa using hi
  | cons n rest ih =>
    cases n with
    | float x =>
      have hsafe : (s.add (.float x)).Safe := ⟨rfl, h.2.1⟩
      refine ⟨fun _ is hpre => ?_, fun _ => hsafe.addAll rest⟩
      cases is with
      | nil => simpa using hi
      | cons j is => cases (List.cons_prefix_cons.1 hpre).1
    | int j =>
      by_cases hfit : Cell.fitsWord (i + j) = true
      · have hnext : (s.add (.int j)).Exact (i + j) :=
          (add_int h j).resolve_right fun hwide => by rw [hfit] at hwide; cases hwide.2
        rw [List.foldl_cons, ih hnext hfit]
        constructor
        · rintro hall (_ | ⟨k, is⟩) hpre
          · simpa using hi
          · obtain ⟨hhead, hrest⟩ := List.cons_prefix_cons.1 hpre
            obtain rfl := Number.int.inj hhead
            rw [List.sum_cons, ← Int.add_assoc]
            exact hall is hrest
        · intro hall is hpre
          have hmore := hall (j :: is) (List.cons_prefix_cons.2 ⟨rfl, hpre⟩)
          rwa [List.sum_cons, ← Int.add_assoc] at hmore
      · -- Once a sum does not fit, nothing that comes later makes up for it.
        have hlost : (s.add (.int j)).Lost := by
          obtain ⟨hreal, -, rfl⟩ := h
          simp [Lost, add, hreal, hfit]
        refine iff_of_false ?_ fun hall => hfit ?_
        · rw [List.foldl_cons, (hlost.addAll rest).2]
          exact Bool.noConfusion
        · simpa using hall [j] (List.cons_prefix_cons.2 ⟨rfl, List.nil_prefix⟩)

end Sum

theorem total_ok_iff {ns : List Number} : (∃ c, total ns = .ok c) ↔ SumFits ns := by
  have hover := Sum.overflowed_addAll_iff (s := {}) (i := 0) ⟨rfl, rfl, rfl⟩ rfl ns
  simp only [Int.zero_add] at hover
  rw [SumFits, ← hover]
  cases ns with
  | nil => exact ⟨fun _ => rfl, fun _ => ⟨_, rfl⟩⟩
  | cons n rest =>
    have hfull : ((n :: rest).isEmpty) = false := rfl
    rw [total, hfull]
    dsimp only
    rw [sumOf]
    cases ((n :: rest).foldl Sum.add {}).overflowed with
    | true => simp
    | false =>
      refine iff_of_true ?_ rfl
      simp only [Bool.false_eq_true, if_false]
      split <;> exact ⟨_, rfl⟩

theorem compute_ok_iff {metric : Metric} {cells : List Cell} :
    (∃ c, compute metric cells = .ok c) ↔ (metric = .sum → SumFits (cells.filterMap Cell.number?)) := by
  cases metric with
  | sum => exact total_ok_iff.trans ⟨fun h _ => h, fun h => h rfl⟩
  | count => exact ⟨fun _ => nofun, fun _ => ⟨_, rfl⟩⟩
  | avg => exact ⟨fun _ => nofun, fun _ => ⟨_, rfl⟩⟩
  | min => exact ⟨fun _ => nofun, fun _ => ⟨_, rfl⟩⟩
  | max => exact ⟨fun _ => nofun, fun _ => ⟨_, rfl⟩⟩

def numberOf (target : Option String) (r : RecordRow) : Option Number :=
  match measureOf target r with
  | .ok c => c.number?
  | .error _ => none

theorem filterMap_numberOf {target : Option String} {rows : List RecordRow} {cells : List Cell}
    (h : rows.mapM (measureOf target) = .ok cells) :
    cells.filterMap Cell.number? = rows.filterMap (numberOf target) :=
  filterMap_of_mapM (fun r c hc => by rw [numberOf, hc]) h

end Store

/-! What a query reads of the records that it takes. -/

/-- A key that a query looks up in a record: its group first, and where the record has one, or is not
grouped, the target of a metric that is no count. -/
def Widget.AggregateQuery.Reads (q : AggregateQuery) (r : RecordRow) (key : String) : Prop :=
  q.groupBy = some key ∨
    q.metric ≠ .count ∧ q.targetField = some key ∧ ∀ group, q.groupBy = some group → r.label group ≠ .null

/-- Keys that hold no quote, as a planned query has them. -/
structure Widget.AggregateQuery.Unquoted (q : AggregateQuery) : Prop where
  filters : ∀ f ∈ q.predicate.filters, '"' ∉ f.key.toList
  target : ∀ key, q.targetField = some key → '"' ∉ key.toList
  group : ∀ key, q.groupBy = some key → '"' ∉ key.toList

structure Widget.PageQuery.Unquoted (q : PageQuery) : Prop where
  filters : ∀ f ∈ q.predicate.filters, '"' ∉ f.key.toList
  sort : ∀ key, q.sortBy = some key → '"' ∉ key.toList

namespace Store

/-- Every filter that is come to can be asked, and every key that is looked up can be named. -/
structure Readable (s : Store) (q : AggregateQuery) : Prop where
  tested : s.Testable q.predicate
  keys : ∀ r ∈ s.matching q.predicate, ∀ key, q.Reads r key → Path.Nameable key

structure PageReadable (s : Store) (q : PageQuery) : Prop where
  tested : s.Testable q.predicate
  keys : ∀ r ∈ s.matching q.predicate, ∀ key, q.sortBy = some key → Path.Nameable key

def SumsFit (s : Store) (q : AggregateQuery) : Prop :=
  q.metric = .sum → ∀ rows, s.select q.predicate = .ok rows →
    match q.groupBy with
    | none => SumFits (rows.filterMap (numberOf q.targetField))
    | some key => ∀ r ∈ rows, takesPart q key r = true →
      SumFits ((members q key rows (r.label key)).filterMap (numberOf q.targetField))

variable {s : Store} {q : AggregateQuery} {rows : List RecordRow} {key : String}

theorem read_ok_iff {β : Type} {f : RecordRow → Except Fault β} {p : Predicate} (hs : s.Sound)
    (hquote : ∀ f ∈ p.filters, '"' ∉ f.key.toList) :
    (∃ rows bs, s.select p = .ok rows ∧ rows.mapM f = .ok bs) ↔
      s.Testable p ∧ ∀ r ∈ s.matching p, ∃ b, f r = .ok b := by
  rw [← select_ok_iff_testable hs hquote]
  constructor
  · rintro ⟨rows, bs, hrows, hbs⟩
    exact ⟨⟨rows, hrows⟩, fun r hr => ok_of_mapM hbs r ((select_perm hrows).mem_iff.2 hr)⟩
  · rintro ⟨⟨rows, hrows⟩, hread⟩
    obtain ⟨bs, hbs⟩ := mapM_ok_iff.2 fun r hr => hread r ((select_perm hrows).mem_iff.1 hr)
    exact ⟨rows, bs, hrows, hbs⟩

theorem readable_iff {β : Type} {f : RecordRow → Except Fault β} (hs : s.Sound) (hq : q.Unquoted)
    (hread : ∀ r, r.fields.Sound → ((∃ b, f r = .ok b) ↔ ∀ key, q.Reads r key → Path.Nameable key)) :
    (∃ rows bs, s.select q.predicate = .ok rows ∧ rows.mapM f = .ok bs) ↔ s.Readable q := by
  rw [read_ok_iff hs hq.filters]
  constructor
  · rintro ⟨htested, hall⟩
    exact ⟨htested, fun r hr => (hread r (sound_of_matching hs hr)).1 (hall r hr)⟩
  · rintro ⟨htested, hkeys⟩
    exact ⟨htested, fun r hr => (hread r (sound_of_matching hs hr)).2 (hkeys r hr)⟩

theorem sumsFit_of_single (hrows : s.select q.predicate = .ok rows) (hgroup : q.groupBy = none) :
    s.SumsFit q ↔ (q.metric = .sum → SumFits (rows.filterMap (numberOf q.targetField))) := by
  unfold SumsFit
  rw [hgroup]
  refine imp_congr_right fun _ => ⟨fun h => h rows hrows, fun h rows' hrows' => ?_⟩
  obtain rfl := Except.ok.inj (hrows.symm.trans hrows')
  exact h

theorem sumsFit_of_grouped (hrows : s.select q.predicate = .ok rows) (hgroup : q.groupBy = some key) :
    s.SumsFit q ↔ (q.metric = .sum → ∀ r ∈ rows, takesPart q key r = true →
      SumFits ((members q key rows (r.label key)).filterMap (numberOf q.targetField))) := by
  unfold SumsFit
  rw [hgroup]
  refine imp_congr_right fun _ => ⟨fun h => h rows hrows, fun h rows' hrows' => ?_⟩
  obtain rfl := Except.ok.inj (hrows.symm.trans hrows')
  exact h

theorem measureOf_ok_iff {target : Option String} (hquote : ∀ key, target = some key → '"' ∉ key.toList)
    {r : RecordRow} (hr : r.fields.Sound) : (∃ c, measureOf target r = .ok c) ↔
    ∀ key, target = some key → Path.Nameable key := by
  cases target with
  | none => exact ⟨fun _ => nofun, fun _ => ⟨_, rfl⟩⟩
  | some key =>
    have hfield := Cell.field_ok_iff Cell.measure (hquote key rfl) hr
    simpa [measureOf] using hfield

theorem reads_count (hmetric : q.metric = .count) (hgroup : q.groupBy = none) (r : RecordRow) (key : String) :
    ¬ q.Reads r key := by
  rintro (hkey | ⟨hno, -⟩)
  · rw [hgroup] at hkey
    cases hkey
  · exact hno hmetric

theorem reads_target (hmetric : q.metric ≠ .count) (hgroup : q.groupBy = none) (r : RecordRow)
    (key : String) : q.Reads r key ↔ q.targetField = some key := by
  simp [AggregateQuery.Reads, hmetric, hgroup]

theorem aggregate_measured (hmetric : q.metric ≠ .count) : s.aggregate q = (do
    let rows ← s.select q.predicate
    let cells ← rows.mapM (measureOf q.targetField)
    return (← compute q.metric cells).toBinary64) := by
  unfold aggregate
  cases hq : q.metric with
  | count => exact absurd hq hmetric
  | _ => rfl

/-- A figure over all records is answered just when its query can be read and its sum fits. -/
theorem aggregate_ok_iff (hs : s.Sound) (hq : q.Unquoted) (hgroup : q.groupBy = none) :
    (∃ x, s.aggregate q = .ok x) ↔ s.Readable q ∧ s.SumsFit q := by
  by_cases hmetric : q.metric = .count
  · have hselect := select_ok_iff_testable hs hq.filters
    constructor
    · rintro ⟨x, hx⟩
      obtain ⟨rows, hrows, -⟩ := ok_of_bind hx
      refine ⟨⟨hselect.1 ⟨rows, hrows⟩, fun r _ key hkey => absurd hkey (reads_count hmetric hgroup r key)⟩,
        fun hsum => ?_⟩
      rw [hmetric] at hsum
      cases hsum
    · rintro ⟨⟨htested, -⟩, -⟩
      obtain ⟨rows, hrows⟩ := hselect.2 htested
      exact ⟨_, aggregate_count hmetric hrows⟩
  · have hreadable : (∃ rows cells, s.select q.predicate = .ok rows ∧
      rows.mapM (measureOf q.targetField) = .ok cells) ↔
        s.Readable q := readable_iff hs hq fun r hr => by
      rw [measureOf_ok_iff hq.target hr]
      exact forall_congr' fun key => imp_congr_left (reads_target hmetric hgroup r key).symm
    have hsums {rows : List RecordRow} {cells : List Cell} (hrows : s.select q.predicate = .ok rows)
        (hcells : rows.mapM (measureOf q.targetField) = .ok cells) :
        (∃ c, compute q.metric cells = .ok c) ↔ s.SumsFit q := by
      rw [compute_ok_iff, filterMap_numberOf hcells, sumsFit_of_single hrows hgroup]
    rw [aggregate_measured hmetric, ← hreadable]
    constructor
    · rintro ⟨x, hx⟩
      obtain ⟨rows, hrows, hx⟩ := ok_of_bind hx
      obtain ⟨cells, hcells, hx⟩ := ok_of_bind hx
      obtain ⟨c, hc, -⟩ := ok_of_bind hx
      exact ⟨⟨rows, cells, hrows, hcells⟩, (hsums hrows hcells).1 ⟨c, hc⟩⟩
    · rintro ⟨⟨rows, cells, hrows, hcells⟩, hfit⟩
      obtain ⟨c, hc⟩ := (hsums hrows hcells).2 hfit
      exact bind_ok_iff.2 ⟨rows, hrows, bind_ok_iff.2 ⟨cells, hcells, bind_ok_iff.2 ⟨c, hc, _, rfl⟩⟩⟩

/-! Charts. -/

section

variable {label : Cell}

theorem labelled?_ok_iff (hq : q.Unquoted) (hgroup : q.groupBy = some key) {r : RecordRow}
    (hr : r.fields.Sound) :
    (∃ entry, labelled? q key r = .ok entry) ↔ ∀ k, q.Reads r k → Path.Nameable k := by
  have hlabel := Cell.field_ok_iff Cell.label (hq.group key hgroup) hr
  have hmeasure := measureOf_ok_iff hq.target hr
  rw [labelled?, bind_ok_iff]
  constructor
  · rintro ⟨c, hc, hrest⟩ k (hk | ⟨hmetric, hk, hfull⟩)
    · rw [hgroup] at hk
      cases hk
      exact hlabel.1 ⟨c, hc⟩
    · have hlabelled := hfull key hgroup
      rw [label_of_field hc] at hlabelled
      refine hmeasure.1 ?_ k hk
      split at hrest
      · exact absurd rfl hlabelled
      · split at hrest
        · exact absurd ‹_› hmetric
        · obtain ⟨m, hm, -⟩ := bind_ok_iff.1 hrest
          exact ⟨m, hm⟩
  · intro hkeys
    obtain ⟨c, hc⟩ := hlabel.2 (hkeys key (.inl hgroup))
    refine ⟨c, hc, ?_⟩
    split
    · exact ⟨_, rfl⟩
    · rename_i hlabelled
      split
      · exact ⟨_, rfl⟩
      · rename_i hmetric
        obtain ⟨m, hm⟩ := hmeasure.2 fun k hk => hkeys k (.inr ⟨hmetric, hk, fun group hg => by
          rw [hgroup] at hg
          cases hg
          rw [label_of_field hc]
          exact hlabelled⟩)
        refine bind_ok_iff.2 ⟨m, hm, ?_⟩
        split <;> exact ⟨_, rfl⟩

theorem filterMap_weight (hmetric : q.metric ≠ .count) (rows : List RecordRow) :
    (rows.map (weight q)).filterMap Cell.number? = rows.filterMap (numberOf q.targetField) := by
  rw [List.filterMap_map]
  refine List.filterMap_congr fun r _ => ?_
  have hweight : weight q r = match measureOf q.targetField r with
      | .ok c => c
      | .error _ => .null := by
    unfold weight
    split
    · exact absurd ‹_› hmetric
    · rfl
  rw [Function.comp_apply, hweight, numberOf]
  cases measureOf q.targetField r <;> rfl

theorem members_congr {label' : Cell} (hlabel : label.Ordered) (hlabel' : label'.Ordered)
    (h : Cell.standing label label' = .eq) : members q key rows label = members q key rows label' := by
  unfold members
  refine List.filter_congr fun r _ => ?_
  by_cases hr : takesPart q key r = true
  · rw [hr, Bool.true_and, Bool.true_and, Bool.eq_iff_iff, matches?_label hlabel hr,
      matches?_label hlabel' hr, Std.TransCmp.congr_right h]
  · rw [Bool.not_eq_true] at hr
    rw [hr, Bool.false_and, Bool.false_and]

theorem figures_ok_iff : (∃ bars, figures q key rows = .ok bars) ↔ (q.metric = .sum → ∀ r ∈ rows,
    takesPart q key r = true →
    SumFits ((members q key rows (r.label key)).filterMap (numberOf q.targetField))) := by
  have hgathered := gathered_labelled q key rows
  have hfigure (g : Cell × List Cell) : (∃ bar, figureOf q.metric g = .ok bar) ↔
      ∃ c, compute q.metric g.2 = .ok c := by
    rw [figureOf, bind_ok_iff]
    exact exists_congr fun c => and_iff_left ⟨_, rfl⟩
  have hfits (hsum : q.metric = .sum) (g : Cell × List Cell) (hg : g ∈ gather (labelled q key rows)) :
      g.2.filterMap Cell.number? = (members q key rows g.1).filterMap (numberOf q.targetField) := by
    rw [(hgathered.cells g hg).2, filterMap_weight (by rw [hsum]; exact nofun)]
  refine mapM_ok_iff.trans ⟨fun h hsum r hr htakes => ?_, fun h g hg => ?_⟩
  · obtain ⟨g, hg, hsame⟩ := hgathered.covers (r.label key, weight q r)
      (List.mem_map_of_mem (List.mem_filter.2 ⟨hr, htakes⟩))
    have hcompute := compute_ok_iff.1 ((hfigure g).1 (h g hg)) hsum
    rw [hfits hsum g hg] at hcompute
    rw [members_congr (ordered_label_of r) (hgathered.cells g hg).1 hsame]
    exact hcompute
  · refine (hfigure g).2 (compute_ok_iff.2 fun hsum => ?_)
    obtain ⟨r, hr, hlabel⟩ := members_ne_nil hgathered hg
    have hsums := h hsum r (mem_members.1 hr).1 (mem_members.1 hr).2.1
    rw [hlabel] at hsums
    rw [hfits hsum g hg]
    exact hsums

/-- A chart is answered just when its query can be read and its sums fit, where its limit fits. -/
theorem grouped_ok_iff (hs : s.Sound) (hq : q.Unquoted) (hgroup : q.groupBy = some key)
    (hlimit : ∃ limit, q.limit.mapM Quantity.whole = .ok limit ∧ limit.all Cell.fitsWord = true) :
    (∃ groups, s.grouped q key = .ok groups) ↔ s.Readable q ∧ s.SumsFit q := by
  rw [← readable_iff hs hq fun r hr => labelled?_ok_iff hq hgroup hr]
  constructor
  · rintro ⟨groups, h⟩
    obtain ⟨limit, rows, found, bars, -, -, hrows, hfound, hbars, -⟩ := grouped_ok h
    exact ⟨⟨rows, found, hrows, hfound⟩, (sumsFit_of_grouped hrows hgroup).2 (figures_ok_iff.1 ⟨bars, hbars⟩)⟩
  · rintro ⟨⟨rows, found, hrows, hfound⟩, hfit⟩
    obtain ⟨limit, hlimit, hfits⟩ := hlimit
    obtain ⟨bars, hbars⟩ := figures_ok_iff.2 ((sumsFit_of_grouped hrows hgroup).1 hfit)
    exact ⟨_, grouped_of_figures hlimit hfits hrows hfound hbars⟩

end

/-! Pages. -/

theorem keyed_ok_iff {sortBy : Option String} (hquote : ∀ key, sortBy = some key → '"' ∉ key.toList)
    {r : RecordRow} (hr : r.fields.Sound) : (∃ k, keyed sortBy r = .ok k) ↔
    ∀ key, sortBy = some key → Path.Nameable key := by
  cases sortBy with
  | none => exact ⟨fun _ => nofun, fun _ => ⟨_, rfl⟩⟩
  | some key =>
    have hfield : (∃ k, keyed (some key) r = .ok k) ↔ ∃ c, Cell.field Cell.label key r.fields = .ok c :=
      bind_ok_iff.trans (exists_congr fun c => and_iff_left ⟨_, rfl⟩)
    rw [hfield, Cell.field_ok_iff Cell.label (hquote key rfl) hr]
    simp

theorem showable_of_sound {r : RecordRow} (hr : r.fields.Sound) : r.Showable := by
  obtain ⟨members, hmembers⟩ := hr.object
  rw [RecordRow.Showable, hmembers, Document.pairsOrNone]
  split <;> exact ⟨_, rfl⟩

theorem page_ok_iff {q : PageQuery} {offset limit : Int} (hs : s.Sound) (hq : q.Unquoted)
    (hoffset : q.offset = .ofInt offset) (hlimit : q.limit = .ofInt limit) :
    (∃ answer, s.page q = .ok answer) ↔
      s.PageReadable q ∧ Cell.fitsWord offset = true ∧ Cell.fitsWord limit = true := by
  have hread := read_ok_iff (f := keyed q.sortBy) hs hq.filters
  have hkeyed (r : RecordRow) (hr : r ∈ s.matching q.predicate) :=
    keyed_ok_iff hq.sort (sound_of_matching hs hr)
  constructor
  · rintro ⟨⟨shown, total⟩, h⟩
    obtain ⟨rows, users, cells, hrows, -, hcells, hfit, hfit', -⟩ := page_ok hoffset hlimit h
    obtain ⟨htested, hkeys⟩ := hread.1 ⟨rows, cells, hrows, hcells⟩
    exact ⟨⟨htested, fun r hr => (hkeyed r hr).1 (hkeys r hr)⟩, hfit, hfit'⟩
  · rintro ⟨⟨htested, hkeys⟩, hfit, hfit'⟩
    obtain ⟨users, husers⟩ := hs.users
    obtain ⟨rows, cells, hrows, hcells⟩ := hread.2 ⟨htested, fun r hr => (hkeyed r hr).2 (hkeys r hr)⟩
    -- Whatever piece is shown, its records are among those that were found.
    refine ⟨_, page_bounded hoffset hlimit hrows husers hcells hfit hfit' fun r hr => ?_⟩
    have hfound := arranged_perm.mem_iff.1 (List.mem_of_mem_drop (mem_bounded hr))
    exact showable_of_sound (sound_of_matching hs ((select_perm hrows).mem_iff.1 hfound))

end Store

end RecordDesk
