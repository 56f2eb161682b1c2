import RecordDesk.Proofs.Rule.Operators
set_option autoImplicit false

namespace RecordDesk

namespace Comparison

def ofIntegers (m n : Int) : Comparison → Bool
  | .gt => decide (m > n)
  | .lt => decide (m < n)
  | .gte => decide (m ≥ n)
  | .lte => decide (m ≤ n)

theorem accepts_compare (c : Comparison) (m n : Int) : c.accepts (compare m n) = c.ofIntegers m n := by
  apply Bool.eq_iff_iff.2
  cases c <;> simp [accepts, ofIntegers, Int.compare_eq_lt, Int.compare_eq_gt]

end Comparison

namespace Condition

open Binary64 (integerLimit KeptApart)

variable {nans : NaNs} {fields : Fields} {field : String} {m n : Int}

/-- The operators decide as the comparison of two integers does. -/
structure AsIntegers (decision : Operator → Except Fault Bool) (m n : Int) : Prop where
  equals : decision .equals = .ok (decide (m = n))
  notEquals : decision .notEquals = .ok (decide (m ≠ n))
  gt : decision .gt = .ok (decide (m > n))
  lt : decision .lt = .ok (decide (m < n))
  gte : decision .gte = .ok (decide (m ≥ n))
  lte : decision .lte = .ok (decide (m ≤ n))

/-- The ordered operators find two numbers level. -/
structure Level (decision : Operator → Except Fault Bool) : Prop where
  gt : decision .gt = .ok false
  lt : decision .lt = .ok false
  gte : decision .gte = .ok true
  lte : decision .lte = .ok true

theorem strictEquals_ints (hm : m.natAbs < integerLimit) (hn : n.natAbs < integerLimit) :
    (Value.number (.int m)).strictEquals nans (.number (.int n)) =
      .ok ((Binary64.ofInt m).same (Binary64.ofInt n)) := by
  rw [Value.strictEquals, Number.toBinary64, Number.toBinary64, Number.intToBinary64_ok hm,
    Number.intToBinary64_ok hn]
  rfl

theorem ordered_ints (c : Comparison) (hm : m.natAbs < integerLimit)
    (hn : n.natAbs < integerLimit) {o : Ordering}
    (ho : (Binary64.ofInt m).compare? (Binary64.ofInt n) = some o) :
    ordered c (.number (.int m)) (.number (.int n)) = .ok (c.accepts o) := by
  rw [ordered_ok (Value.asNumber_int hm) (Value.asNumber_int hn),
    c.holds_eq (Binary64.isNaN_ofInt m) (Binary64.isNaN_ofInt n) ho]

theorem same_of_keptApart (hm : m.natAbs < integerLimit) (hn : n.natAbs < integerLimit) (h : KeptApart m n) :
    (Binary64.ofInt m).same (Binary64.ofInt n) = decide (m = n) := by
  rw [Binary64.same, Binary64.compare?_of_keptApart hm hn h, Bool.eq_iff_iff, beq_iff_eq, Option.some.injEq,
    Int.compare_eq_eq, decide_eq_true_iff]

theorem asIntegers_decision (hm : m.natAbs < integerLimit) (hn : n.natAbs < integerLimit)
    (h : KeptApart m n) : AsIntegers (decision nans (.number (.int m)) (.ofInt n)) m n := by
  have hsame : (Value.number (.int m)).strictEquals nans (.number (.int n)) = .ok (decide (m = n)) := by
    rw [strictEquals_ints hm hn, same_of_keptApart hm hn h]
  have hordered (c : Comparison) : ordered c (.number (.int m)) (.number (.int n)) =
      .ok (c.ofIntegers m n) := by
    rw [ordered_ints c hm hn (Binary64.compare?_of_keptApart hm hn h), c.accepts_compare]
  refine ⟨hsame, ?_, hordered .gt, hordered .lt, hordered .gte, hordered .lte⟩
  exact (congrArg (Except.map not) hsame).trans (congrArg Except.ok (decide_not (p := m = n)).symm)

theorem level_decision (hm : m.natAbs < integerLimit) (hn : n.natAbs < integerLimit) (h : ¬ KeptApart m n) :
    Level (decision nans (.number (.int m)) (.ofInt n)) := by
  obtain ⟨-, hsame⟩ := Classical.not_imp.1 h
  rw [Bool.not_eq_false, Binary64.same, beq_iff_eq] at hsame
  exact ⟨ordered_ints .gt hm hn hsame, ordered_ints .lt hm hn hsame, ordered_ints .gte hm hn hsame,
    ordered_ints .lte hm hn hsame⟩

theorem isMember_ints (hm : m.natAbs < integerLimit) {ns : List Int}
    (hns : ∀ n ∈ ns, n.natAbs < integerLimit ∧ KeptApart m n) :
    isMember nans (.number (.int m)) (ns.map fun n => .number (.int n)) = .ok (decide (m ∈ ns)) := by
  induction ns with
  | nil => rfl
  | cons n rest ih =>
    obtain ⟨⟨hn, hapart⟩, hrest⟩ := List.forall_mem_cons.1 hns
    rw [List.map_cons, isMember, strictEquals_ints hm hn, same_of_keptApart hm hn hapart]
    by_cases heq : m = n
    · simp [heq]
    · simp [heq, ih hrest]

/-- Conditions on an integer decide as integer comparison does wherever rounding to binary64 keeps the two
sides apart, as it does up to 53 bits. Different integers with the same nearest number are level. -/
theorem integers_decided (nans : NaNs) {fields : Fields} {field : String} {m : Int}
    (hfield : fields.lookup field = some (.number (.int m))) (hm : m.natAbs < integerLimit) :
    (∀ n : Int, n.natAbs < integerLimit →
      (KeptApart m n → AsIntegers (verdict nans fields field (.ofInt n)) m n) ∧
      (¬ KeptApart m n → Level (verdict nans fields field (.ofInt n)))) ∧
    (∀ ns : List Int, (∀ n ∈ ns, n.natAbs < integerLimit ∧ KeptApart m n) →
      verdict nans fields field (.list (ns.map .ofInt)) .isIn = .ok (decide (m ∈ ns))) ∧
    (m.natAbs ≤ 2 ^ 53 → ∀ n : Int, n.natAbs ≤ 2 ^ 53 → KeptApart m n) := by
  have hverdict {x : Document} (hx : (Value.of x).isPrintable = true) :
      verdict nans fields field x = decision nans (.number (.int m)) x :=
    funext (verdict_present hfield nofun (Value.isPrintable_int hm.le) hx)
  refine ⟨fun n hn => ?_, fun ns hns => ?_, fun hm n hn => Binary64.keptApart_of_exact hm hn⟩
  · rw [hverdict (Value.isPrintable_ofInt hn.le)]
    exact ⟨asIntegers_decision hm hn, level_decision hm hn⟩
  · have hprintable : (Value.of (.list (ns.map .ofInt))).isPrintable = true := by
      rw [Value.of, Value.isPrintable, Value.printableItems_iff, ofItems_eq, List.map_map]
      refine List.forall_mem_map.2 fun n hn => Value.isPrintable_int (hns n hn).1.le
    rw [hverdict hprintable, decision, candidates_eq, elements, List.map_map]
    exact isMember_ints hm hns

/-- Cents of two large amounts: those of 53 bits are told apart, and the next integer is not above the last
of them. -/
theorem large_amounts_compared : [("cents", Value.number (.int (2 ^ 53)))].lookup "cents" =
    some (.number (.int (2 ^ 53))) ∧
    AsIntegers (verdict .alike [("cents", .number (.int (2 ^ 53)))] "cents" (.ofInt (2 ^ 53 - 1)))
      (2 ^ 53) (2 ^ 53 - 1) ∧
    Level (verdict .alike [("cents", .number (.int (2 ^ 53)))] "cents" (.ofInt (2 ^ 53 + 1))) := by
  have hnext : ((2 : Int) ^ 53 + 1).natAbs < integerLimit := (Binary64.isFinite_ofInt _).1 (by decide +kernel)
  have hfield : [("cents", Value.number (.int (2 ^ 53)))].lookup "cents" = some (.number (.int (2 ^ 53))) :=
    rfl
  obtain ⟨hone, -, hexact⟩ := integers_decided .alike hfield (Binary64.lt_integerLimit_of_exact (by decide))
  refine ⟨hfield, ?_, ?_⟩
  · exact (hone (2 ^ 53 - 1) (Binary64.lt_integerLimit_of_exact (by decide))).1
      (hexact (by decide) _ (by decide))
  · refine (hone (2 ^ 53 + 1) hnext).2 fun hapart => ?_
    exact absurd (hapart (by decide)) (by decide +kernel)

/-- The first integer that is no binary64 number is more than the one before it, and no condition sees
it. -/
theorem neighbours_level : ¬ ∀ (nans : NaNs) (fields : Fields) (field : String) (m n : Int),
    fields.lookup field = some (.number (.int m)) → m.natAbs < integerLimit → n.natAbs < integerLimit →
      verdict nans fields field (.ofInt n) .gt = .ok (decide (m > n)) := by
  intro hall
  have hm : ((2 : Int) ^ 53 + 1).natAbs < integerLimit := (Binary64.isFinite_ofInt _).1 (by decide +kernel)
  have hn : ((2 : Int) ^ 53).natAbs < integerLimit := Binary64.lt_integerLimit_of_exact (by decide)
  have hsame : (Binary64.ofInt (2 ^ 53 + 1)).compare? (Binary64.ofInt (2 ^ 53)) =
    some .eq := by decide +kernel
  have hgt := hall .alike [("cents", .number (.int (2 ^ 53 + 1)))] "cents" (2 ^ 53 + 1) (2 ^ 53) rfl hm hn
  rw [verdict_present (v := .number (.int (2 ^ 53 + 1))) rfl nofun (Value.isPrintable_int hm.le)
    (Value.isPrintable_ofInt hn.le)] at hgt
  cases hgt.symm.trans (ordered_ints .gt hm hn hsame)

end Condition

end RecordDesk
