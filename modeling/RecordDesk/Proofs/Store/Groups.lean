import RecordDesk.Proofs.Store.Gathering
set_option autoImplicit false

/-!
Charts. A grouped query is answered with the first bars of a full list, which has one bar for each label of
the records that take part, in the order of the query. What stands on the list is a matter of the records
alone.
-/

namespace RecordDesk

open Std Widget

def RecordRow.label (key : String) (r : RecordRow) : Cell := r.sortCell (some key)

namespace Store

open Cell

/-- A record takes part in a chart if it has a label and, where records are not only counted, is measured at
a number. -/
def takesPart (q : AggregateQuery) (key : String) (r : RecordRow) : Bool :=
  r.label key != .null && (q.metric == .count || match measureOf q.targetField r with
    | .ok c => c != .null
    | .error _ => false)

def weight (q : AggregateQuery) (r : RecordRow) : Cell :=
  match q.metric with
  | .count => .null
  | _ => match measureOf q.targetField r with
    | .ok c => c
    | .error _ => .null

def members (q : AggregateQuery) (key : String) (rows : List RecordRow) (label : Cell) : List RecordRow :=
  rows.filter fun r => takesPart q key r && (r.label key).matches? label

def Shows (q : AggregateQuery) (rows : List RecordRow) (i : Int) : Prop :=
  q.metric.Figure (rows.map (weight q)) i

/-- Whether one bar stands before another: by figure, and of equal figures by label. -/
def Before (order : SortOrder) (a b : Cell × Int) : Prop :=
  (match order with
    | .asc => a.2 < b.2
    | .desc => b.2 < a.2) ∨ a.2 = b.2 ∧ a.1.order b.1 = .lt

/-- The full list of bars over some records. -/
structure Charted (q : AggregateQuery) (key : String) (rows : List RecordRow) (bars : List (Cell × Int)) :
    Prop where
  apart : bars.Pairwise fun a b => a.1.matches? b.1 = false
  covers : ∀ r ∈ rows, takesPart q key r = true → ∃ b ∈ bars, (r.label key).matches? b.1 = true
  named : ∀ b ∈ bars, ∃ r ∈ rows, takesPart q key r = true ∧ r.label key = b.1
  shows : ∀ b ∈ bars, Shows q (members q key rows b.1) b.2
  ordered : bars.Pairwise (Before q.sortOrder)
  conserved : q.metric = .count ∨ q.metric = .sum →
    Shows q (rows.filter (takesPart q key)) (bars.map (·.2)).sum

variable {s : Store} {q : AggregateQuery} {key : String} {rows : List RecordRow}

theorem label_of_field {r : RecordRow} {c : Cell} (h : Cell.field Cell.label key r.fields = .ok c) :
    r.label key = c := by
  rw [RecordRow.label, RecordRow.sortCell, h]

theorem ordered_label_of (r : RecordRow) : (r.label key).Ordered := RecordRow.ordered_sortCell (some key) r

theorem labelled?_eq {r : RecordRow} {entry : Option (Cell × Cell)} (h : labelled? q key r = .ok entry) :
    entry = if takesPart q key r then some (r.label key, weight q r) else none := by
  obtain ⟨c, hc, h⟩ := ok_of_bind h
  rw [takesPart, label_of_field hc]
  split at h
  · cases h
    rfl
  · rename_i hfull
    have hlabel : (c != .null) = true := bne_iff_ne.2 hfull
    rw [hlabel, Bool.true_and, weight]
    split at h
    · rename_i hcount
      cases h
      rw [hcount]
      rfl
    · rename_i hmetric
      obtain ⟨m, hm, h⟩ := ok_of_bind h
      have hno : (q.metric == .count) = false := beq_eq_false_iff_ne.2 hmetric
      simp only [hno, Bool.false_or, hm]
      split at h
      · cases h
        rfl
      · rename_i hmeasure
        cases h
        rw [if_pos (bne_iff_ne.2 hmeasure)]

theorem filterMap_labelled {found : List (Option (Cell × Cell))}
    (h : rows.mapM (labelled? q key) = .ok found) :
    found.filterMap id = (rows.filter (takesPart q key)).map fun r => (r.label key, weight q r) := by
  rw [← List.filterMap_eq_map, List.filterMap_filter]
  exact filterMap_of_mapM (fun r entry hentry => (labelled?_eq hentry).symm) h

def figureOf (metric : Metric) (group : Cell × List Cell) : Except Fault (Cell × Cell) := do
  return (group.1, ← compute metric group.2)

def figures (q : AggregateQuery) (key : String) (rows : List RecordRow) : Except Fault (List (Cell × Cell)) :=
  (gather ((rows.filter (takesPart q key)).map fun r => (r.label key, weight q r))).mapM (figureOf q.metric)

theorem grouped_ok {groups : List Group} (h : s.grouped q key = .ok groups) : ∃ limit rows found bars,
    q.limit.mapM Quantity.whole = .ok limit ∧ limit.all Cell.fitsWord = true ∧
    s.select q.predicate = .ok rows ∧
      rows.mapM (labelled? q key) = .ok found ∧ figures q key rows = .ok bars ∧
      groups = (bounded limit (bars.mergeSort (groupBefore q.sortOrder))).map
        fun b => ⟨b.1.shown, shownFigure b.2⟩ := by
  obtain ⟨limit, hlimit, h⟩ := ok_of_bind h
  obtain ⟨all, hall, h⟩ := ok_of_bind h
  dsimp only at h
  by_cases hfits : limit.all Cell.fitsWord = true
  · rw [if_neg (by simp [hfits])] at h
    obtain ⟨rows, hrows, h⟩ := ok_of_bind h
    obtain ⟨found, hfound, h⟩ := ok_of_bind h
    obtain ⟨bars, hbars, h⟩ := ok_of_bind h
    cases h
    rw [filterMap_labelled hfound] at hbars
    exact ⟨limit, rows, found, bars, hlimit, hfits, hrows, hfound, hbars, rfl⟩
  · rw [if_pos (by simp [hfits])] at h
    cases h

theorem grouped_of_figures {limit : Option Int} {found : List (Option (Cell × Cell))}
    {bars : List (Cell × Cell)} (hlimit : q.limit.mapM Quantity.whole = .ok limit)
    (hfits : limit.all Cell.fitsWord = true) (hrows : s.select q.predicate = .ok rows)
    (hfound : rows.mapM (labelled? q key) = .ok found)
    (hbars : figures q key rows = .ok bars) : s.grouped q key = .ok
      ((bounded limit (bars.mergeSort (groupBefore q.sortOrder))).map fun b =>
        ⟨b.1.shown, shownFigure b.2⟩) := by
  obtain ⟨all, hall, -⟩ := select_ok_iff.1 ⟨rows, hrows⟩
  have hread : s.records.read = .ok all := Table.read_of_rows hall
  rw [figures, ← filterMap_labelled hfound] at hbars
  refine (bind_of_ok hlimit).trans ((bind_of_ok hread).trans ?_)
  dsimp only
  rw [if_neg (by simp [hfits])]
  exact (bind_of_ok hrows).trans ((bind_of_ok hfound).trans ((bind_of_ok hbars).trans rfl))

/-- A chart of integers: records are counted, or what is added up or compared are integers. -/
def OfIntegers (q : AggregateQuery) (rows : List RecordRow) : Prop :=
  q.metric = .count ∨ q.metric ≠ .avg ∧ ∀ r ∈ rows, ∀ c, measureOf q.targetField r = .ok c → c.Integral

theorem OfIntegers.not_avg (h : OfIntegers q rows) : q.metric ≠ .avg := by
  rcases h with h | h
  · rw [h]
    exact nofun
  · exact h.1

theorem OfIntegers.integral (h : OfIntegers q rows) {r : RecordRow} (hr : r ∈ rows) :
    (weight q r).Integral := by
  rcases h with hcount | ⟨-, hint⟩
  · rw [weight, hcount]
    exact integral_null
  · unfold weight
    split
    · exact integral_null
    · split
      · rename_i c hc
        exact hint r hr c hc
      · exact integral_null

theorem integer_of_takesPart (h : OfIntegers q rows) {r : RecordRow} (hr : r ∈ rows)
    (htakes : takesPart q key r = true) (hmetric : q.metric ≠ .count) :
    ∃ i, weight q r = .number (.int i) := by
  have hno : (q.metric == .count) = false := beq_eq_false_iff_ne.2 hmetric
  rw [takesPart, hno, Bool.false_or, Bool.and_eq_true] at htakes
  have hweight : weight q r = match measureOf q.targetField r with
      | .ok c => c
      | .error _ => .null := by
    unfold weight
    split
    · exact absurd ‹_› hmetric
    · rfl
  cases hm : measureOf q.targetField r with
  | error fault =>
    rw [hm] at htakes
    exact absurd htakes.2 Bool.false_ne_true
  | ok c =>
    rw [hm] at htakes hweight
    rcases measureOf_ok hm with rfl | ⟨n, rfl⟩
    · exact absurd htakes.2 (by decide)
    · obtain ⟨i, rfl⟩ := (hweight ▸ h.integral hr) n rfl
      exact ⟨i, hweight⟩

theorem figureOf_eq {metric : Metric} {group : Cell × List Cell} {c : Cell}
    (h : compute metric group.2 = .ok c) : figureOf metric group = .ok (group.1, c) := bind_of_ok h

theorem bars_of_groups {metric : Metric} {groups : List (Cell × List Cell)} {cells : List (Cell × Cell)}
    (h : groups.mapM (figureOf metric) = .ok cells)
    (hint : ∀ g ∈ groups, ∀ c, compute metric g.2 = .ok c → ∃ i, metric.Figure g.2 i ∧ c = .number (.int i)) :
    ∃ bars : List (Cell × Int), cells = bars.map (fun b => (b.1, .number (.int b.2))) ∧
      List.Forall₂ (fun g b => b.1 = g.1 ∧ metric.Figure g.2 b.2) groups bars := by
  induction groups generalizing cells with
  | nil =>
    cases h
    exact ⟨[], rfl, .nil⟩
  | cons g rest ih =>
    obtain ⟨hg, hrest⟩ := List.forall_mem_cons.1 hint
    rw [List.mapM_cons] at h
    obtain ⟨cell, hcell, h⟩ := ok_of_bind h
    obtain ⟨more, hmore, h⟩ := ok_of_bind h
    cases h
    obtain ⟨c, hc, hcell⟩ := ok_of_bind hcell
    cases hcell
    obtain ⟨i, hi, rfl⟩ := hg c hc
    obtain ⟨bars, rfl, hbars⟩ := ih hmore hrest
    exact ⟨(g.1, i) :: bars, rfl, .cons ⟨rfl, hi⟩ hbars⟩

def labelled (q : AggregateQuery) (key : String) (rows : List RecordRow) : List (Cell × Cell) :=
  (rows.filter (takesPart q key)).map fun r => (r.label key, weight q r)

theorem ordered_labelled : ∀ p ∈ labelled q key rows, p.1.Ordered := by
  intro p hp
  obtain ⟨r, -, rfl⟩ := List.mem_map.1 hp
  exact ordered_label_of r

theorem gathered_labelled (q : AggregateQuery) (key : String) (rows : List RecordRow) :
    Gathered (labelled q key rows) (gather (labelled q key rows)) :=
  gathered_gather ordered_labelled

theorem matches?_label {label : Cell} (hlabel : label.Ordered) {r : RecordRow}
    (hr : takesPart q key r = true) :
    (r.label key).matches? label = true ↔ standing (r.label key) label = .eq := by
  rw [takesPart, Bool.and_eq_true] at hr
  exact matches?_iff (ordered_label_of r) hlabel (bne_iff_ne.1 hr.1)

theorem filter_labelled {label : Cell} (hlabel : label.Ordered) :
    ((labelled q key rows).filter (hasLabel label)).map (·.2) =
      (members q key rows label).map (weight q) := by
  rw [labelled, List.filter_map, List.map_map, List.filter_filter, members]
  refine congrArg (List.map (weight q)) (List.filter_congr fun r _ => ?_)
  rw [Bool.and_comm]
  by_cases hr : takesPart q key r = true
  · rw [hr, Bool.true_and, Bool.true_and, Bool.eq_iff_iff, matches?_label hlabel hr,
      Function.comp_apply, hasLabel, beq_iff_eq]
  · rw [Bool.not_eq_true] at hr
    rw [hr, Bool.false_and, Bool.false_and]

theorem Gathered.cells {groups : List (Cell × List Cell)} (h : Gathered (labelled q key rows) groups) :
    ∀ g ∈ groups, g.1.Ordered ∧ g.2 = (members q key rows g.1).map (weight q) := by
  intro g hg
  obtain ⟨p, hp, hpg⟩ := h.named g hg
  have hordered : g.1.Ordered := hpg ▸ ordered_labelled p hp
  exact ⟨hordered, (h.measures g hg).trans (filter_labelled hordered)⟩

theorem mem_members {label : Cell} {r : RecordRow} : r ∈ members q key rows label ↔
    r ∈ rows ∧ takesPart q key r = true ∧ (r.label key).matches? label = true := by
  rw [members, List.mem_filter, Bool.and_eq_true]

theorem members_ne_nil {groups : List (Cell × List Cell)} (h : Gathered (labelled q key rows) groups)
    {g : Cell × List Cell} (hg : g ∈ groups) : ∃ r ∈ members q key rows g.1, r.label key = g.1 := by
  obtain ⟨p, hp, hpg⟩ := h.named g hg
  obtain ⟨r, hr, rfl⟩ := List.mem_map.1 hp
  obtain ⟨hr, htakes⟩ := List.mem_filter.1 hr
  have hself : (r.label key).matches? g.1 = true := by
    rw [matches?_label (h.cells g hg).1 htakes, ← hpg]
    exact ReflCmp.compare_self
  exact ⟨r, mem_members.2 ⟨hr, htakes, hself⟩, hpg⟩

theorem compute_group (hint : OfIntegers q rows) {groups : List (Cell × List Cell)}
    (h : Gathered (labelled q key rows) groups) {g : Cell × List Cell} (hg : g ∈ groups) :
    (∃ i, q.metric.Figure g.2 i ∧ compute q.metric g.2 = .ok (.number (.int i))) ∨
      q.metric = .sum ∧ compute q.metric g.2 = .error (.storage "integer overflow") ∧
        ∃ n, Cell.fitsWord (((members q key rows g.1).map (weight q)).filterMap integer? |>.take n).sum =
          false := by
  rw [(h.cells g hg).2]
  refine compute_integral hint.not_avg ?_ fun hmetric => ?_
  · intro c hc
    obtain ⟨r, hr, rfl⟩ := List.mem_map.1 hc
    exact hint.integral (mem_members.1 hr).1
  · obtain ⟨r, hr, -⟩ := members_ne_nil h hg
    obtain ⟨i, hi⟩ := integer_of_takesPart hint (mem_members.1 hr).1 (mem_members.1 hr).2.1 hmetric
    have hmem : i ∈ ((members q key rows g.1).map (weight q)).filterMap integer? :=
      List.mem_filterMap.2 ⟨weight q r, List.mem_map_of_mem hr, by rw [hi]; rfl⟩
    exact List.ne_nil_of_mem hmem

/-! The order of bars. -/

def barOrder (order : SortOrder) (a b : Cell × Int) : Ordering :=
  (match order with
    | .asc => compare a.2 b.2
    | .desc => compare b.2 a.2).then (standing a.1 b.1)

instance (order : SortOrder) : TransCmp (barOrder order) := by
  have hlabel : TransCmp fun a b : Cell × Int => standing a.1 b.1 := transCmp_on standing Prod.fst
  cases order with
  | asc =>
    exact inferInstanceAs (TransCmp (compareLex (compareOn Prod.snd) fun a b : Cell × Int =>
      standing a.1 b.1))
  | desc =>
    exact inferInstanceAs (TransCmp (compareLex (fun a b => compareOn Prod.snd b a)
      fun a b : Cell × Int => standing a.1 b.1))

theorem order_ints (i j : Int) : (Cell.number (.int i)).order (.number (.int j)) = compare i j := rfl

theorem bne_gt (o : Ordering) : (o != .gt) = o.isLE := by cases o <;> rfl

section

variable {order : SortOrder} {a b : Cell × Int}

theorem groupBefore_eq (ha : a.1.Ordered) (hb : b.1.Ordered) :
    groupBefore order (a.1, .number (.int a.2)) (b.1, .number (.int b.2)) = (barOrder order a b).isLE := by
  unfold barOrder
  rw [Bool.eq_iff_iff, Ordering.isLE_then_iff_or, ← order_eq_standing ha hb]
  cases order <;> simp only [groupBefore, order_ints, bne_gt, Bool.or_eq_true, Bool.and_eq_true, beq_iff_eq]

theorem before_iff (ha : a.1.Ordered) (hb : b.1.Ordered) : Before order a b ↔ barOrder order a b = .lt := by
  unfold Before barOrder
  rw [Ordering.then_eq_lt, ← order_eq_standing ha hb]
  cases order with
  | asc => rw [Int.compare_eq_lt, Int.compare_eq_eq]
  | desc => rw [Int.compare_eq_lt, Int.compare_eq_eq, @eq_comm _ a.2]

end

theorem apart_sorted {bars : List (Cell × Int)} (hordered : ∀ b ∈ bars, b.1.Ordered)
    (hapart : bars.Pairwise fun a b => standing a.1 b.1 ≠ .eq) (order : SortOrder) :
    (bars.mergeSort fun a b => (barOrder order a b).isLE).Pairwise (Before order) := by
  have hperm := List.mergeSort_perm bars fun a b => (barOrder order a b).isLE
  have hsorted : (bars.mergeSort fun a b => (barOrder order a b).isLE).Pairwise
      fun a b => (barOrder order a b).isLE = true :=
    pairwise_mergeSort_of_agree fun _ _ _ _ => rfl
  have hne : (bars.mergeSort fun a b => (barOrder order a b).isLE).Pairwise fun a b =>
      standing a.1 b.1 ≠ .eq :=
    (hperm.pairwise_iff fun hab hba => hab (OrientedCmp.eq_symm hba)).2 hapart
  refine (hsorted.and hne).imp_of_mem fun {a b} ha hb hab => ?_
  rw [before_iff (hordered a (hperm.mem_iff.1 ha)) (hordered b (hperm.mem_iff.1 hb))]
  cases hcmp : barOrder order a b with
  | lt => rfl
  | eq =>
    -- Bars with one figure still differ in their labels.
    unfold barOrder at hcmp
    exact absurd (Ordering.then_eq_eq.1 hcmp).2 hab.2
  | gt =>
    rw [hcmp] at hab
    cases hab.1

theorem figure_append {metric : Metric} (hmetric : metric = .count ∨ metric = .sum) {cells cells' : List Cell}
    {i j : Int} (hi : metric.Figure cells i) (hj : metric.Figure cells' j) :
    metric.Figure (cells ++ cells') (i + j) := by
  rcases hmetric with rfl | rfl
  · rw [Metric.Figure] at *
    rw [hi, hj, List.length_append, Int.natCast_add]
  · rw [Metric.Figure] at *
    rw [hi, hj, List.filterMap_append, List.sum_append]

theorem figure_perm {metric : Metric} {cells cells' : List Cell} (h : cells.Perm cells') {i : Int} :
    metric.Figure cells i ↔ metric.Figure cells' i := by
  have hints := h.filterMap integer?
  cases metric with
  | count => rw [Metric.Figure, Metric.Figure, h.length_eq]
  | sum => rw [Metric.Figure, Metric.Figure, hints.sum_eq]
  | min => simp only [Metric.Figure, hints.mem_iff]
  | max => simp only [Metric.Figure, hints.mem_iff]
  | avg => exact Iff.rfl

theorem labels_of_bars {metric : Metric} {groups : List (Cell × List Cell)} {bars : List (Cell × Int)}
    (h : List.Forall₂ (fun g b => b.1 = g.1 ∧ metric.Figure g.2 b.2) groups bars) :
    bars.map (·.1) = groups.map (·.1) := by
  induction h with
  | nil => rfl
  | cons hhead _ ih => rw [List.map_cons, List.map_cons, hhead.1, ih]

theorem group_of_bar {metric : Metric} {groups : List (Cell × List Cell)} {bars : List (Cell × Int)}
    (h : List.Forall₂ (fun g b => b.1 = g.1 ∧ metric.Figure g.2 b.2) groups bars) :
    ∀ b ∈ bars, ∃ g ∈ groups, b.1 = g.1 ∧ metric.Figure g.2 b.2 := by
  induction h with
  | nil => exact fun b hb => (List.not_mem_nil hb).elim
  | cons hhead _ ih =>
    refine List.forall_mem_cons.2 ⟨⟨_, List.mem_cons_self, hhead⟩, fun b hb => ?_⟩
    obtain ⟨g, hg, hfigure⟩ := ih b hb
    exact ⟨g, List.mem_cons_of_mem _ hg, hfigure⟩

theorem figure_flat {metric : Metric} (hmetric : metric = .count ∨ metric = .sum)
    {groups : List (Cell × List Cell)}
    {bars : List (Cell × Int)} (h : List.Forall₂ (fun g b => b.1 = g.1 ∧ metric.Figure g.2 b.2) groups bars) :
    metric.Figure (groups.flatMap (·.2)) (bars.map (·.2)).sum := by
  induction h with
  | nil => rcases hmetric with rfl | rfl <;> rfl
  | cons hhead _ ih =>
    rw [List.flatMap_cons, List.map_cons, List.sum_cons]
    exact figure_append hmetric hhead.2 ih

theorem charted_of_bars {groups : List (Cell × List Cell)} {bars : List (Cell × Int)}
    (h : Gathered (labelled q key rows) groups)
    (hbars : List.Forall₂ (fun g b => b.1 = g.1 ∧ q.metric.Figure g.2 b.2) groups bars) :
    Charted q key rows (bars.mergeSort fun a b => (barOrder q.sortOrder a b).isLE) := by
  have hperm := List.mergeSort_perm bars fun a b => (barOrder q.sortOrder a b).isLE
  have hlabels := labels_of_bars hbars
  have hgroup := group_of_bar hbars
  have hordered : ∀ b ∈ bars, b.1.Ordered := by
    intro b hb
    obtain ⟨g, hg, heq, -⟩ := hgroup b hb
    exact heq ▸ (h.cells g hg).1
  have hapart : bars.Pairwise fun a b => standing a.1 b.1 ≠ .eq := by
    have hgroups : (groups.map (·.1)).Pairwise fun a b => standing a b ≠ .eq :=
      List.pairwise_map.2 (h.apart.imp fun hlt heq => by rw [hlt] at heq; cases heq)
    rw [← hlabels] at hgroups
    exact List.pairwise_map.1 hgroups
  -- The groups stand by their labels and the bars by their figures, but they are the same ones.
  refine ⟨?_, ?_, ?_, ?_, apart_sorted hordered hapart q.sortOrder, ?_⟩
  · have hapart' := (hperm.pairwise_iff fun hab hba => hab (OrientedCmp.eq_symm hba)).2 hapart
    exact hapart'.imp_of_mem fun ha hb hab =>
      matches?_of_apart (hordered _ (hperm.mem_iff.1 ha)) (hordered _ (hperm.mem_iff.1 hb)) hab
  · intro r hr htakes
    obtain ⟨g, hg, hmatch⟩ := h.covers (r.label key, weight q r)
      (List.mem_map_of_mem (List.mem_filter.2 ⟨hr, htakes⟩))
    obtain ⟨b, hb, hlabel⟩ := List.mem_map.1 (hlabels ▸ List.mem_map_of_mem hg : g.1 ∈ bars.map (·.1))
    refine ⟨b, hperm.mem_iff.2 hb, ?_⟩
    rw [matches?_label (hordered b hb) htakes, hlabel]
    exact hmatch
  · intro b hb
    obtain ⟨g, hg, heq, -⟩ := hgroup b (hperm.mem_iff.1 hb)
    obtain ⟨r, hr, hlabel⟩ := members_ne_nil h hg
    exact ⟨r, (mem_members.1 hr).1, (mem_members.1 hr).2.1, hlabel.trans heq.symm⟩
  · intro b hb
    obtain ⟨g, hg, heq, hfigure⟩ := hgroup b (hperm.mem_iff.1 hb)
    rw [Shows, heq, ← (h.cells g hg).2]
    exact hfigure
  · intro hmetric
    rw [Shows, (hperm.map _).sum_eq, ← figure_perm (h.flat.trans (.of_eq ?_))]
    · exact figure_flat hmetric hbars
    · rw [labelled, List.map_map]
      rfl

theorem charted_of_figures (hint : OfIntegers q rows) {cells : List (Cell × Cell)}
    (h : figures q key rows = .ok cells) : ∃ bars : List (Cell × Int),
      cells.mergeSort (groupBefore q.sortOrder) = bars.map (fun b => (b.1, .number (.int b.2))) ∧
      Charted q key rows bars := by
  have hgathered := gathered_labelled q key rows
  obtain ⟨bars, rfl, hbars⟩ := bars_of_groups h fun g hg c hc => by
    rcases compute_group hint hgathered hg with ⟨i, hi, hok⟩ | ⟨-, herror, -⟩
    · exact ⟨i, hi, Except.ok.inj (hc.symm.trans hok)⟩
    · cases hc.symm.trans herror
  have hcharted := charted_of_bars hgathered hbars
  have hordered : ∀ b ∈ bars, b.1.Ordered := by
    intro b hb
    obtain ⟨r, -, -, hlabel⟩ := hcharted.named b ((List.mergeSort_perm _ _).mem_iff.2 hb)
    exact hlabel ▸ ordered_label_of r
  exact ⟨_, (List.map_mergeSort fun a ha b hb =>
    (groupBefore_eq (hordered a ha) (hordered b hb)).symm).symm, hcharted⟩

/-- The full list does not depend on the order of the records. -/
theorem Charted.perm {rows' : List RecordRow} {bars : List (Cell × Int)} (hperm : rows.Perm rows')
    (h : Charted q key rows bars) : Charted q key rows' bars := by
  refine ⟨h.apart, fun r hr => h.covers r (hperm.mem_iff.2 hr), fun b hb => ?_, fun b hb => ?_, h.ordered,
    fun hmetric => ?_⟩
  · obtain ⟨r, hr, hnamed⟩ := h.named b hb
    exact ⟨r, hperm.mem_iff.1 hr, hnamed⟩
  · exact (figure_perm ((hperm.filter _).map _)).1 (h.shows b hb)
  · exact (figure_perm ((hperm.filter _).map _)).1 (h.conserved hmetric)

/-- What is added up for a label fits in 53 bits, from the oldest record on. -/
def Modest (q : AggregateQuery) (key : String) (rows : List RecordRow) : Prop :=
  ∀ label n, ((((members q key rows label).map (weight q)).filterMap integer?).take n).sum.natAbs < 2 ^ 53

theorem figures_answered (hint : OfIntegers q rows) (hmodest : q.metric = .sum → Modest q key rows) :
    ∃ cells, figures q key rows = .ok cells := by
  have hgathered := gathered_labelled q key rows
  refine mapM_ok_iff.2 fun g hg => ?_
  rcases compute_group hint hgathered hg with ⟨i, -, hok⟩ | ⟨hsum, -, n, hwide⟩
  · exact ⟨_, figureOf_eq hok⟩
  · rw [fitsWord_of_natAbs (hmodest hsum g.1 n).le] at hwide
    cases hwide

end Store

end RecordDesk
