import RecordDesk.Proofs.Numeric.Whole
import RecordDesk.Proofs.Store.Keys
import RecordDesk.Proofs.Store.Unmeasured
set_option autoImplicit false

/-!
Exact figures. Over whole numbers of up to 53 bits a sum, the least and the greatest are exact, whether they
are stored as integers or as fractions; under a key that is not plain no figure is to be had.
-/

namespace RecordDesk

open Widget

/-- Integers of which neither one nor what is added up on the way takes more than 53 bits. -/
structure Small (is : List Int) : Prop where
  each : ∀ i ∈ is, i.natAbs < 2 ^ 53
  added : ∀ n, (is.take n).sum.natAbs < 2 ^ 53

/-- What a metric says of integers, and zero where there are none; a count and an average are not of
integers alone. -/
def Widget.Metric.ofIntegers (metric : Metric) (is : List Int) : Option Int :=
  match metric with
  | .sum => some is.sum
  | .min => some (is.min?.getD 0)
  | .max => some (is.max?.getD 0)
  | .count | .avg => none

/-- Numbers that are just these integers. -/
abbrev Wholes (ns : List Number) (is : List Int) : Prop := List.Forall₂ (fun n i => n.whole? = some i) ns is

namespace Store

namespace Sum

/-- What has come so far adds up to an integer, as a binary64 number and, as long as only integers came, as
a word. -/
structure Holds (s : Sum) (i : Int) : Prop where
  real : s.real.toInt? = some i
  whole : s.isReal = false → s.whole = i
  kept : s.overflowed = false

theorem Holds.add {s : Sum} {i j : Int} {n : Number} (h : s.Holds i) (hn : n.whole? = some j)
    (hj : j.natAbs < 2 ^ 53) (hsum : (i + j).natAbs < 2 ^ 53) : (s.add n).Holds (i + j) := by
  obtain ⟨hreal, hwhole, hkept⟩ := h
  cases n with
  | float x => exact ⟨Binary64.toInt?_add hreal hn hsum.le, fun hno => Bool.noConfusion hno, hkept⟩
  | int k =>
    obtain rfl := Option.some.inj hn
    have hmore : (s.real + Binary64.ofInt k).toInt? = some (i + k) :=
      Binary64.toInt?_add hreal (Binary64.toInt?_ofInt hj.le) hsum.le
    cases hr : s.isReal with
    | true =>
      exact ⟨by simpa [Sum.add, hr] using hmore, by simp [Sum.add, hr], by simpa [Sum.add, hr] using hkept⟩
    | false =>
      obtain rfl := hwhole hr
      have hfits : Cell.fitsWord (s.whole + k) = true := Cell.fitsWord_of_natAbs hsum.le
      exact ⟨by simpa [Sum.add, hr, hfits] using hmore, by simp [Sum.add, hr, hfits],
        by simpa [Sum.add, hr, hfits] using hkept⟩

theorem Holds.addAll {s : Sum} {i : Int} (h : s.Holds i) {ns : List Number} {is : List Int}
    (hns : Wholes ns is) (heach : ∀ j ∈ is, j.natAbs < 2 ^ 53)
    (hadded : ∀ n, (i + (is.take n).sum).natAbs < 2 ^ 53) :
    (ns.foldl Sum.add s).Holds (i + is.sum) := by
  induction hns generalizing s i with
  | nil => simpa using h
  | @cons n j ns is hn _ ih =>
    obtain ⟨hj, hrest⟩ := List.forall_mem_cons.1 heach
    have hnext : (s.add n).Holds (i + j) := h.add hn hj (by simpa using hadded 1)
    rw [List.foldl_cons, List.sum_cons, ← Int.add_assoc]
    refine ih hnext hrest fun m => ?_
    have hmore := hadded (m + 1)
    rwa [List.take_succ_cons, List.sum_cons, ← Int.add_assoc] at hmore

end Sum

variable {ns : List Number} {is : List Int}

theorem sumOf_wholes (h : Wholes ns is) (hsmall : Small is) : (sumOf ns).Holds is.sum := by
  have hzero : ({} : Sum).Holds 0 := ⟨by dsimp only; exact Binary64.toInt?_zero, fun _ => rfl, rfl⟩
  have hsum := hzero.addAll h hsmall.each (by simpa using hsmall.added)
  rwa [Int.zero_add] at hsum

/-- A figure that is absent or an integer of up to 53 bits. -/
def Exactly (c : Cell) (i : Int) : Prop := c.toBinary64.toInt? = some i

theorem exactly_null : Exactly .null 0 := Binary64.toInt?_zero

theorem exactly_whole {n : Number} {i : Int} (h : n.whole? = some i) (hi : i.natAbs ≤ 2 ^ 53) :
    Exactly (.number n) i := by
  cases n with
  | int j =>
    obtain rfl := Option.some.inj h
    exact Binary64.toInt?_ofInt hi
  | float x => exact h

theorem exactly_figure {x : Binary64} {i : Int} (h : x.toInt? = some i) : Exactly (figure x) i := by
  cases x with
  | finite negative units hgrid => exact h
  | _ => cases h

theorem total_wholes (h : Wholes ns is) (hsmall : Small is) : ∃ c, total ns = .ok c ∧ Exactly c is.sum := by
  have hsum := sumOf_wholes h hsmall
  cases ns with
  | nil =>
    obtain rfl := List.forall₂_nil_left_iff.1 h
    exact ⟨.null, rfl, exactly_null⟩
  | cons n rest =>
    rw [total]
    simp only [List.isEmpty_cons, hsum.kept, Bool.false_eq_true, if_false]
    cases hreal : (sumOf (n :: rest)).isReal with
    | true => exact ⟨_, rfl, exactly_figure hsum.real⟩
    | false =>
      have hbits : is.sum.natAbs < 2 ^ 53 := by simpa using hsmall.added is.length
      refine ⟨_, rfl, exactly_whole (i := is.sum) ?_ hbits.le⟩
      exact congrArg some (hsum.whole hreal)

theorem best_wholes {improves : Ordering} {pick : Int → Int → Int}
    (hpick : ∀ kept j, (if compare j kept = improves then j else kept) = pick kept j) {n : Number} {i : Int}
    (hn : n.whole? = some i) (h : Wholes ns is) :
    ∃ m, best improves (n :: ns) = .number m ∧ m.whole? = some (is.foldl pick i) := by
  refine ⟨_, rfl, ?_⟩
  induction h generalizing n i with
  | nil => exact hn
  | @cons m j ns is hm _ ih =>
    rw [List.foldl_cons, List.foldl_cons]
    refine ih ?_
    rw [Number.compare?_of_whole hm hn, ← hpick]
    simp only [Option.some.injEq]
    split
    · exact hm
    · exact hn

theorem best_exact {improves : Ordering} {pick : Int → Int → Int} {choose : List Int → Option Int}
    (hpick : ∀ kept j, (if compare j kept = improves then j else kept) = pick kept j)
    (hnil : choose [] = none) (hcons : ∀ i is, choose (i :: is) = some (is.foldl pick i))
    (hmem : ∀ is i, choose is = some i → i ∈ is)
    (h : Wholes ns is) (heach : ∀ i ∈ is, i.natAbs < 2 ^ 53) :
    Exactly (best improves ns) ((choose is).getD 0) := by
  cases h with
  | nil =>
    rw [hnil]
    exact exactly_null
  | @cons n i ns is hn hrest =>
    obtain ⟨m, hbest, hm⟩ := best_wholes hpick hn hrest
    rw [hbest, hcons]
    exact exactly_whole hm (heach _ (hmem _ _ (hcons i is))).le

theorem compute_wholes {metric : Metric} {i : Int} (h : Wholes ns is) (hsmall : Small is)
    (hfigure : metric.ofIntegers is = some i) : ∃ c, compute metric (ns.map .number) = .ok c ∧
    Exactly c i := by
  have hnumbers : (ns.map Cell.number).filterMap Cell.number? = ns := by
    rw [List.filterMap_map]
    exact List.filterMap_some
  cases metric with
  | count => cases hfigure
  | avg => cases hfigure
  | sum =>
    cases hfigure
    rw [← hnumbers] at h
    exact total_wholes h hsmall
  | min =>
    cases hfigure
    rw [← hnumbers] at h
    exact ⟨_, rfl, best_exact (fun kept j => by simp only [Int.compare_eq_lt]; split_ifs <;> omega)
      List.min?_nil (fun i is => List.min?_cons') (fun is i h => List.min?_mem h) h hsmall.each⟩
  | max =>
    cases hfigure
    rw [← hnumbers] at h
    exact ⟨_, rfl, best_exact (fun kept j => by simp only [Int.compare_eq_gt]; split_ifs <;> omega)
      List.max?_nil (fun i is => List.max?_cons') (fun is i h => List.max?_mem h) h hsmall.each⟩

theorem map_ofNumber (h : Wholes ns is) (heach : ∀ i ∈ is, i.natAbs < 2 ^ 53) :
    ns.map Cell.ofNumber = ns := by
  induction h with
  | nil => rfl
  | @cons n i ns is hn _ ih =>
    obtain ⟨hi, hrest⟩ := List.forall_mem_cons.1 heach
    rw [List.map_cons, ih hrest]
    cases n with
    | float x => rfl
    | int j =>
      obtain rfl := Option.some.inj hn
      rw [Cell.ofNumber_int (Cell.fitsWord_of_natAbs hi.le)]

variable {s : Store} {q : AggregateQuery} {key : String}

theorem aggregate_exact (hkey : Path.Plain key) (hs : s.Sound) (htarget : q.targetField = some key)
    (hselect : ∃ rows, s.select q.predicate = .ok rows)
    (hwhole : Wholes ((s.chosen q.predicate).filterMap (·.number? key)) is) (hsmall : Small is) {i : Int}
    (hfigure : q.metric.ofIntegers is = some i) : ∃ x, s.aggregate q = .ok x ∧ x.toInt? = some i := by
  obtain ⟨rows, hrows⟩ := hselect
  obtain rfl := select_eq hrows
  have hmetric : q.metric ≠ .count := by
    intro hcount
    rw [hcount] at hfigure
    cases hfigure
  obtain ⟨c, hc, hexact⟩ := compute_wholes hwhole hsmall hfigure
  rw [aggregate_plain hkey htarget hmetric hrows (portable_of_select hs.records hrows),
    map_ofNumber hwhole hsmall.each, hc]
  exact ⟨_, rfl, hexact⟩

/-! A single record that holds a one. -/

def oneUnder (key : String) : RecordRow := ⟨"r", "t", "e", .object [(key, .ofInt 1)], none, ⟨0, none⟩, none⟩

def figureUnder (metric : Metric) (key : String) : AggregateQuery :=
  ⟨everything, metric, some key, none, none, .desc⟩

theorem sound_oneUnder (key : String) : ∀ r ∈ [oneUnder key], r.fields.Sound := by
  intro r hr
  obtain rfl := List.mem_singleton.1 hr
  exact ⟨⟨_, rfl⟩, rfl⟩

theorem chosen_oneUnder (key : String) : (holding [oneUnder key]).chosen everything = [oneUnder key] :=
  List.mergeSort_singleton _

theorem number?_oneUnder (key : String) : (oneUnder key).number? key = some (.int 1) := by
  rw [RecordRow.number?, oneUnder, get?_one]
  rfl

theorem wholes_oneUnder (key : String) :
    Wholes (((holding [oneUnder key]).chosen everything).filterMap (·.number? key)) [1] := by
  rw [chosen_oneUnder, List.filterMap_cons_some (number?_oneUnder key)]
  exact .cons rfl .nil

theorem small_one : Small [1] := by
  refine ⟨by decide, fun n => ?_⟩
  cases n <;> simp

theorem aggregate_not_plain (hquote : '"' ∉ key.toList) (hkey : ¬ Path.Plain key) :
    ¬ ∃ x, (holding [oneUnder key]).aggregate (figureUnder .sum key) = .ok x ∧ x.toInt? = some 1 := by
  rintro ⟨x, hx, hone⟩
  obtain ⟨rows, hrows⟩ := select_holding [oneUnder key]
  obtain rfl := (select_eq hrows).trans (chosen_oneUnder key)
  have hmetric : (figureUnder .sum key).metric ≠ .count := fun h => Metric.noConfusion h
  rw [aggregate_measured hmetric] at hx
  obtain ⟨found, hfound, hx⟩ := ok_of_bind hx
  obtain ⟨cells, hcells, hx⟩ := ok_of_bind hx
  cases hrows.symm.trans hfound
  rw [List.mapM_cons] at hcells
  obtain ⟨c, hc, hcells⟩ := ok_of_bind hcells
  cases hcells
  rcases field_not_plain hquote hkey Cell.measure with hnull | ⟨fault, herror⟩
  · cases hc.symm.trans hnull
    have hzero : Binary64.zero = x := Except.ok.inj hx
    rw [← hzero, Binary64.toInt?_zero] at hone
    cases hone
  · cases hc.symm.trans herror

/-- A count is the number of the records that are taken. A key without a quote is plain just if every sum,
every least and every greatest over whole numbers under it is exact, and zero where there are none. Under a
plain key a record more that holds no number changes none of them. -/
theorem figures_exact (key : String) (hquote : '"' ∉ key.toList) :
    (∀ (s : Store) (q : AggregateQuery), q.metric = .count → (∃ rows, s.select q.predicate = .ok rows) →
      s.aggregate q = .ok (Binary64.ofInt (s.matching q.predicate).length)) ∧
    (Path.Plain key ↔ ∀ (s : Store) (q : AggregateQuery) (is : List Int) (i : Int), s.Sound →
      q.targetField = some key → (∃ rows, s.select q.predicate = .ok rows) →
      Wholes ((s.chosen q.predicate).filterMap (·.number? key)) is → Small is →
        q.metric.ofIntegers is = some i →
      ∃ x, s.aggregate q = .ok x ∧ x.toInt? = some i) ∧
    (Path.Plain key → ∀ (s s' : Store) (q : AggregateQuery) (before after : List RecordRow) (r : RecordRow),
      q.targetField = some key → q.metric ≠ .count → (∀ a ∈ before ++ r :: after, a.fields.Sound) →
      s.records.rows = some (before ++ after) → s'.records.rows = some (before ++ r :: after) →
      r.number? key = none → (∃ rows, s'.select q.predicate = .ok rows) →
        s'.aggregate q = s.aggregate q) := by
  refine ⟨?_, ⟨?_, ?_⟩, ?_⟩
  · rintro s q hcount ⟨rows, hrows⟩
    rw [aggregate_count hcount hrows, (select_perm hrows).length_eq]
  · intro hkey s q is i hs htarget hselect hwhole hsmall hfigure
    exact aggregate_exact hkey hs htarget hselect hwhole hsmall hfigure
  · intro hall
    by_contra hkey
    refine aggregate_not_plain hquote hkey
      (hall _ (figureUnder .sum key) [1] 1 (sound_holding (sound_oneUnder key)) rfl
      (select_holding _) (wholes_oneUnder key) small_one rfl)
  · intro hkey s s' q before after r htarget hmetric hs hrows hmore hr hselect
    exact aggregate_unmoved hkey htarget hmetric hs hrows hmore hr hselect

def withAmount (amount : Document) : RecordRow :=
  ⟨"r", "t", "e", .object [("amount", amount)], none, ⟨0, none⟩, none⟩

def amounts : List RecordRow :=
  [.ofInt 5, .null, .boolean true, .text "7", .number (.float (Binary64.ofInt 2)), .ofInt (-3)].map withAmount

/-- Three of the six amounts add up to four, and a list beside them changes nothing. -/
theorem amounts_exact : '"' ∉ "amount".toList ∧ Path.Plain "amount" ∧ (holding amounts).Sound ∧
    Wholes (((holding amounts).chosen everything).filterMap (·.number? "amount")) [5, 2, -3] ∧
    Small [5, 2, -3] ∧
    (∃ x, (holding amounts).aggregate (figureUnder .sum "amount") = .ok x ∧ x.toInt? = some 4) ∧
    (∃ x, (holding amounts).aggregate (figureUnder .min "amount") = .ok x ∧ x.toInt? = some (-3)) ∧
    (holding amounts).aggregate (figureUnder .count "amount") = .ok (Binary64.ofInt 6) ∧
    (holding (amounts ++ [withAmount (.list [.ofInt 9])])).aggregate (figureUnder .sum "amount") =
      (holding amounts).aggregate (figureUnder .sum "amount") := by
  have hquote : '"' ∉ "amount".toList := by decide
  have hkey : Path.Plain "amount" := by decide
  have hsound : ∀ r ∈ amounts ++ [withAmount (.list [.ofInt 9])], r.fields.Sound := by
    intro r hr
    have hportable : ∀ r ∈ amounts ++ [withAmount (.list [.ofInt 9])], r.fields.isPortable =
      true := by decide +kernel
    refine ⟨?_, hportable r hr⟩
    simp only [amounts, ← List.map_singleton, ← List.map_append] at hr
    obtain ⟨d, -, rfl⟩ := List.mem_map.1 hr
    exact ⟨_, rfl⟩
  have hs : (holding amounts).Sound := sound_holding fun r hr => hsound r (List.mem_append_left _ hr)
  have hnumbers : ((holding amounts).chosen everything).filterMap (·.number? "amount") =
      [.int 5, .float (Binary64.ofInt 2), .int (-3)] := by
    rw [chosen_holding (by decide +kernel) (by decide +kernel)]
    decide +kernel
  have htwo : (Number.float (Binary64.ofInt 2)).whole? = some 2 := by
    rw [Number.whole?]
    exact Binary64.toInt?_ofInt (by decide)
  have hwhole : Wholes (((holding amounts).chosen everything).filterMap (·.number? "amount")) [5, 2, -3] := by
    rw [hnumbers]
    exact .cons rfl (.cons htwo (.cons rfl .nil))
  have hsmall : Small [5, 2, -3] := by
    refine ⟨by decide, fun n => ?_⟩
    match n with
    | 0 | 1 | 2 => decide
    | n + 3 => simp
  obtain ⟨hcount, hexact, hmore⟩ := figures_exact "amount" hquote
  refine ⟨hquote, hkey, hs, hwhole, hsmall, ?_, ?_, ?_, ?_⟩
  · exact hexact.1 hkey _ (figureUnder .sum "amount") _ 4 hs rfl (select_holding _) hwhole hsmall rfl
  · exact hexact.1 hkey _ (figureUnder .min "amount") _ (-3) hs rfl (select_holding _) hwhole hsmall rfl
  · rw [hcount _ (figureUnder .count "amount") rfl (select_holding _)]
    have hsix : ((holding amounts).matching everything).length = 6 := by decide +kernel
    exact congrArg (fun n : Nat => Except.ok (Binary64.ofInt n)) hsix
  · exact hmore hkey _ _ (figureUnder .sum "amount") amounts [] (withAmount (.list [.ofInt 9])) rfl
      (fun h => Metric.noConfusion h) hsound (congrArg some (List.append_nil amounts).symm) rfl
        (by decide +kernel)
      (select_holding _)

/-- The one under a key with a backslash is not added up. -/
theorem escaped_key_left_out : ¬ ∀ (key : String) (s : Store) (q : AggregateQuery) (is : List Int) (i : Int),
    '"' ∉ key.toList → s.Sound → q.targetField = some key → (∃ rows, s.select q.predicate = .ok rows) →
    Wholes ((s.chosen q.predicate).filterMap (·.number? key)) is → Small is →
    q.metric.ofIntegers is = some i → ∃ x, s.aggregate q = .ok x ∧ x.toInt? = some i := by
  intro hall
  have hquote : '"' ∉ "a\\b".toList := by decide
  refine aggregate_not_plain hquote (by decide) (hall "a\\b" _ (figureUnder .sum "a\\b") [1] 1 hquote
    (sound_holding (sound_oneUnder "a\\b")) rfl (select_holding _) (wholes_oneUnder "a\\b") small_one rfl)

end Store

end RecordDesk
