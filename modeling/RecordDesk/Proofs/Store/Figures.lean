import RecordDesk.Proofs.Numeric.Integers
import RecordDesk.Proofs.Store.Answering
set_option autoImplicit false

namespace RecordDesk

open Widget

namespace Cell

def number? : Cell → Option Number
  | .number n => some n
  | _ => none

def integer? : Cell → Option Int
  | .number (.int i) => some i
  | _ => none

/-- No number, or an integer that a word holds. -/
def Integral (c : Cell) : Prop := ∀ n, c = .number n → ∃ i, n = .int i

theorem integral_null : Integral .null := fun _ h => Cell.noConfusion h

theorem filterMap_number? {cells : List Cell} (h : ∀ c ∈ cells, c.Integral) :
    cells.filterMap number? = (cells.filterMap integer?).map .int := by
  induction cells with
  | nil => rfl
  | cons c rest ih =>
    obtain ⟨hc, hrest⟩ := List.forall_mem_cons.1 h
    cases c with
    | number n =>
      obtain ⟨i, rfl⟩ := hc n rfl
      exact congrArg (Number.int i :: ·) (ih hrest)
    | null | text s => exact ih hrest

theorem fitsWord_of_natAbs {i : Int} (h : i.natAbs ≤ 2 ^ 53) : fitsWord i = true := by
  unfold fitsWord wordLimit
  simp only [Bool.and_eq_true, decide_eq_true_eq]
  omega

end Cell

namespace Store

namespace Sum

def Exact (s : Sum) (i : Int) : Prop := s.isReal = false ∧ s.overflowed = false ∧ s.whole = i

def Lost (s : Sum) : Prop := s.isReal = true ∧ s.overflowed = true

theorem add_int {s : Sum} {i : Int} (h : s.Exact i) (j : Int) :
    (s.add (.int j)).Exact (i + j) ∨ (s.add (.int j)).Lost ∧ Cell.fitsWord (i + j) = false := by
  obtain ⟨hreal, hover, rfl⟩ := h
  by_cases hfit : Cell.fitsWord (s.whole + j) = true
  · exact .inl (by simp [Exact, add, hreal, hover, hfit])
  · exact .inr (by simp [Lost, add, hreal, hfit])

theorem Lost.add {s : Sum} (h : s.Lost) (n : Number) : (s.add n).Lost := by
  obtain ⟨hreal, hover⟩ := h
  cases n <;> simp [Lost, Sum.add, hreal, hover]

theorem Lost.addAll {s : Sum} (h : s.Lost) (ns : List Number) : (ns.foldl Sum.add s).Lost := by
  induction ns generalizing s with
  | nil => exact h
  | cons n rest ih => exact ih (h.add n)

/-- Integers added one after the other: the sum is exact unless one of the sums on the way did not fit. -/
theorem addAll_ints {s : Sum} {i : Int} (h : s.Exact i) (is : List Int) :
    ((is.map Number.int).foldl Sum.add s).Exact (i + is.sum) ∨
      ((is.map Number.int).foldl Sum.add s).Lost ∧ ∃ n, Cell.fitsWord (i + (is.take n).sum) = false := by
  induction is generalizing s i with
  | nil => exact .inl (by simpa using h)
  | cons j rest ih =>
    rcases add_int h j with hexact | ⟨hlost, hwide⟩
    · have hsum : i + (j :: rest).sum = i + j + rest.sum := by rw [List.sum_cons, Int.add_assoc]
      rw [hsum]
      rcases ih hexact with hrest | ⟨hrest, n, hn⟩
      · exact .inl hrest
      · refine .inr ⟨hrest, n + 1, ?_⟩
        rw [List.take_succ_cons, List.sum_cons, ← Int.add_assoc]
        exact hn
    -- No later integer makes up for it: the first sum that does not fit decides.
    · exact .inr ⟨hlost.addAll _, 1, by simpa using hwide⟩

end Sum

theorem sumOf_ints (is : List Int) : (sumOf (is.map .int)).Exact is.sum ∨
    (sumOf (is.map .int)).Lost ∧ ∃ n, Cell.fitsWord (is.take n).sum = false := by
  have h := Sum.addAll_ints (s := {}) ⟨rfl, rfl, rfl⟩ is
  simp only [Int.zero_add] at h
  exact h

theorem total_ints (is : List Int) :
    total (is.map .int) = .ok (if is = [] then .null else .number (.int is.sum)) ∨
    total (is.map .int) = .error (.storage "integer overflow") ∧
    ∃ n, Cell.fitsWord (is.take n).sum = false := by
  cases is with
  | nil => exact .inl rfl
  | cons i rest =>
    have hfull : ((i :: rest).map Number.int).isEmpty = false := rfl
    rcases sumOf_ints (i :: rest) with ⟨hreal, hover, hwhole⟩ | ⟨⟨-, hover⟩, hwide⟩
    · refine .inl ?_
      rw [total, hfull, if_neg (List.cons_ne_nil i rest)]
      simp only [hreal, hover, hwhole, Bool.false_eq_true, if_false]
    · refine .inr ⟨?_, hwide⟩
      rw [total, hfull]
      simp only [hover, Bool.false_eq_true, if_false, if_true]

theorem total_fits {is : List Int} (h : ∀ n, Cell.fitsWord (is.take n).sum = true) :
    total (is.map .int) = .ok (if is = [] then .null else .number (.int is.sum)) := by
  refine (total_ints is).resolve_right ?_
  rintro ⟨-, n, hn⟩
  exact Bool.false_ne_true (hn.symm.trans (h n))

theorem total_of_ok {is : List Int} {c : Cell} (h : total (is.map .int) = .ok c) :
    c = if is = [] then .null else .number (.int is.sum) := by
  rcases total_ints is with hok | ⟨herror, -⟩
  · exact Except.ok.inj (h.symm.trans hok)
  · cases h.symm.trans herror

theorem best_ints {improves : Ordering} {pick : Int → Int → Int}
    (hpick : ∀ kept j, (if compare j kept = improves then j else kept) = pick kept j) (i : Int)
    (is : List Int) : best improves ((i :: is).map .int) = .number (.int (is.foldl pick i)) := by
  -- Over all that may have been kept so far, since each step may keep another one.
  have hfold (kept : Int) : (is.map Number.int).foldl
      (fun kept m => if m.compare? kept = some improves then m else kept) (.int kept) =
        .int (is.foldl pick kept) := by
    induction is generalizing kept with
    | nil => rfl
    | cons j rest ih =>
      have hkeep : (if (Number.int j).compare? (.int kept) = some improves then Number.int j else .int kept)
          = .int (pick kept j) := by
        rw [← hpick, apply_ite Number.int]
        simp only [Number.compare?, Option.some.injEq]
      rw [List.map_cons, List.foldl_cons, hkeep, ih, List.foldl_cons]
  exact congrArg Cell.number (hfold i)

theorem best_lt (i : Int) (is : List Int) : best .lt ((i :: is).map .int) = .number (.int (is.foldl min i)) :=
  best_ints (fun kept j => by simp only [Int.compare_eq_lt]; split_ifs <;> omega) i is

theorem best_gt (i : Int) (is : List Int) : best .gt ((i :: is).map .int) = .number (.int (is.foldl max i)) :=
  best_ints (fun kept j => by simp only [Int.compare_eq_gt]; split_ifs <;> omega) i is

end Store

/-- What a metric says of the integers among some cells; a count is of all cells, and an average is no
integer. -/
def Widget.Metric.Figure (metric : Metric) (cells : List Cell) (i : Int) : Prop :=
  match metric with
  | .count => i = cells.length
  | .sum => i = (cells.filterMap Cell.integer?).sum
  | .min => i ∈ cells.filterMap Cell.integer? ∧ ∀ j ∈ cells.filterMap Cell.integer?, i ≤ j
  | .max => i ∈ cells.filterMap Cell.integer? ∧ ∀ j ∈ cells.filterMap Cell.integer?, j ≤ i
  | .avg => False

namespace Store

theorem compute_integral {metric : Metric} (hmetric : metric ≠ .avg) {cells : List Cell}
    (hint : ∀ c ∈ cells, c.Integral) (hfull : metric ≠ .count → cells.filterMap Cell.integer? ≠ []) :
    (∃ i, metric.Figure cells i ∧ compute metric cells = .ok (.number (.int i))) ∨
      metric = .sum ∧ compute metric cells = .error (.storage "integer overflow") ∧
        ∃ n, Cell.fitsWord ((cells.filterMap Cell.integer?).take n).sum = false := by
  have hnumbers := Cell.filterMap_number? hint
  cases metric with
  | avg => exact absurd rfl hmetric
  | count => exact .inl ⟨cells.length, rfl, rfl⟩
  | sum =>
    have htotal : compute .sum cells = total ((cells.filterMap Cell.integer?).map .int) :=
      congrArg total hnumbers
    rw [htotal]
    rcases total_ints (cells.filterMap Cell.integer?) with hok | herror
    · rw [if_neg (hfull nofun)] at hok
      exact .inl ⟨_, rfl, hok⟩
    · exact .inr ⟨rfl, herror⟩
  | min =>
    obtain ⟨i, rest, hcells⟩ := List.exists_cons_of_ne_nil (hfull nofun)
    rw [hcells] at hnumbers
    refine .inl ⟨rest.foldl min i, ?_,
      congrArg Except.ok ((congrArg (best .lt) hnumbers).trans (best_lt i rest))⟩
    rw [Metric.Figure, hcells]
    exact List.min?_eq_some_iff.1 List.min?_cons'
  | max =>
    obtain ⟨i, rest, hcells⟩ := List.exists_cons_of_ne_nil (hfull nofun)
    rw [hcells] at hnumbers
    refine .inl ⟨rest.foldl max i, ?_,
      congrArg Except.ok ((congrArg (best .gt) hnumbers).trans (best_gt i rest))⟩
    rw [Metric.Figure, hcells]
    exact List.max?_eq_some_iff.1 List.max?_cons'

theorem measureOf_ok {target : Option String} {r : RecordRow} {c : Cell} (h : measureOf target r = .ok c) :
    c = .null ∨ ∃ n, c = .number n := by
  cases target with
  | none =>
    cases h
    exact .inl rfl
  | some key =>
    obtain ⟨found, -, h⟩ := ok_of_bind h
    cases h
    cases found with
    | none => exact .inl rfl
    | some d => cases d <;> first | exact .inl rfl | exact .inr ⟨_, rfl⟩

def integerOf (target : Option String) (r : RecordRow) : Option Int :=
  match measureOf target r with
  | .ok c => c.integer?
  | .error _ => none

def integers (s : Store) (q : AggregateQuery) : List Int :=
  (s.matching q.predicate).filterMap (integerOf q.targetField)

def Integral (s : Store) (q : AggregateQuery) : Prop :=
  ∀ r ∈ s.matching q.predicate, ∀ c, measureOf q.targetField r = .ok c → c.Integral

theorem filterMap_measured {target : Option String} {rows : List RecordRow} {cells : List Cell}
    (h : rows.mapM (measureOf target) = .ok cells) :
    cells.filterMap Cell.integer? = rows.filterMap (integerOf target) :=
  filterMap_of_mapM (fun r c hc => by rw [integerOf, hc]) h

theorem natAbs_sum_take_le (is : List Int) (n : Nat) : (is.take n).sum.natAbs ≤ (is.map Int.natAbs).sum := by
  induction is generalizing n with
  | nil => simp
  | cons i rest ih =>
    cases n with
    | zero => simp
    | succ n =>
      have hrest := ih n
      rw [List.take_succ_cons, List.sum_cons, List.map_cons, List.sum_cons]
      omega

/-- Integers that fit a word in whatever order they are added up. -/
def Fits (is : List Int) : Prop := (is.map Int.natAbs).sum < 2 ^ 63

instance (is : List Int) : Decidable (Fits is) := inferInstanceAs (Decidable (_ < _))

theorem Fits.take {is : List Int} (h : Fits is) (n : Nat) : Cell.fitsWord (is.take n).sum = true := by
  have hle := natAbs_sum_take_le is n
  unfold Fits at h
  unfold Cell.fitsWord Cell.wordLimit
  simp only [Bool.and_eq_true, decide_eq_true_eq]
  omega

theorem Fits.of_perm {is js ks : List Int} (h : is.Perm (js ++ ks)) (hfits : Fits is) :
    Fits js ∧ Fits ks := by
  have hsum := (h.map Int.natAbs).sum_eq
  rw [List.map_append, List.sum_append] at hsum
  unfold Fits at *
  omega

section

variable {s : Store} {q : AggregateQuery} {rows : List RecordRow} {cells : List Cell}

theorem aggregate_sum_eq (hq : q.metric = .sum) (hrows : s.select q.predicate = .ok rows)
    (hcells : rows.mapM (measureOf q.targetField) = .ok cells) (hint : s.Integral q) :
    s.aggregate q = (total ((rows.filterMap (integerOf q.targetField)).map .int)).map Cell.toBinary64 := by
  have hintegral : ∀ c ∈ cells, c.Integral := by
    intro c hc
    obtain ⟨r, hr, hmeasure⟩ := mem_of_mapM hcells c hc
    exact hint r ((select_perm hrows).mem_iff.1 hr) c hmeasure
  have htotal : compute .sum cells = total ((rows.filterMap (integerOf q.targetField)).map .int) := by
    rw [← filterMap_measured hcells, ← Cell.filterMap_number? hintegral]
    rfl
  simp only [aggregate, hrows, hq, hcells, htotal, bind, Except.bind]
  cases total ((rows.filterMap (integerOf q.targetField)).map .int) <;> rfl

theorem aggregate_sum (hq : q.metric = .sum) (hint : s.Integral q) {x : Binary64}
    (h : s.aggregate q = .ok x) : x = Binary64.ofInt (s.integers q).sum := by
  obtain ⟨rows, hrows, hmore⟩ := ok_of_bind h
  simp only [hq] at hmore
  obtain ⟨cells, hcells, -⟩ := ok_of_bind hmore
  have hsum : (rows.filterMap (integerOf q.targetField)).sum = (s.integers q).sum :=
    ((select_perm hrows).filterMap _).sum_eq
  rw [aggregate_sum_eq hq hrows hcells hint] at h
  cases htotal : total ((rows.filterMap (integerOf q.targetField)).map .int) with
  | error fault =>
    rw [htotal] at h
    cases h
  | ok c =>
    rw [htotal] at h
    cases h
    rw [total_of_ok htotal, ← hsum]
    split
    · rename_i hempty
      rw [hempty]
      rfl
    · rfl

/-- A sum of integers is answered if they fit, once the records of the query are found and measured. -/
theorem aggregate_sum_iff (hq : q.metric = .sum) (hint : s.Integral q) (hfits : Fits (s.integers q)) :
    (∃ x, s.aggregate q = .ok x) ↔ (∃ rows, s.select q.predicate = .ok rows) ∧
      ∀ r ∈ s.matching q.predicate, ∃ c, measureOf q.targetField r = .ok c := by
  constructor
  · rintro ⟨x, h⟩
    obtain ⟨rows, hrows, h⟩ := ok_of_bind h
    simp only [hq] at h
    obtain ⟨cells, hcells, -⟩ := ok_of_bind h
    exact ⟨⟨rows, hrows⟩, fun r hr => ok_of_mapM hcells r ((select_perm hrows).mem_iff.2 hr)⟩
  · rintro ⟨⟨rows, hrows⟩, hmeasured⟩
    obtain ⟨cells, hcells⟩ := mapM_ok_iff.2 fun r hr => hmeasured r ((select_perm hrows).mem_iff.1 hr)
    have hperm : (s.integers q).Perm (rows.filterMap (integerOf q.targetField) ++ []) := by
      rw [List.append_nil]
      exact ((select_perm hrows).filterMap _).symm
    rw [aggregate_sum_eq hq hrows hcells hint, total_fits (Fits.of_perm hperm hfits).1.take]
    exact ⟨_, rfl⟩

end

end Store

end RecordDesk
