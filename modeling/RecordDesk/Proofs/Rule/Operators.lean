import RecordDesk.Proofs.Numeric.Order
import RecordDesk.Proofs.Rule.Answers
set_option autoImplicit false

/-!
How the operators of conditions go together. A negated operator says the opposite of its partner, the four
ordered ones follow from one comparison, membership is equality with some element, and a field that holds
nothing is empty and matches nothing else.
-/

namespace RecordDesk

/-! A numeric view is never a NaN, with which nothing could be compared. -/

namespace Binary64

attribute [local irreducible] ofUnits in
theorem isNaN_mul {x : Binary64} (hx : x.isNaN = false) (negative : Bool) {units : Nat}
    (h : Representable units) (hpos : units ≠ 0) : (x * finite negative units h).isNaN = false := by
  cases x with
  | nan => cases hx
  | infinite a =>
    have hmul : infinite a * finite negative units h = infinite (a != negative) := if_neg hpos
    rw [hmul]
    rfl
  | finite a u hu => exact isNaN_ofUnits (a != negative) (u * units) one

end Binary64

theorem Moment.isNaN_epochMillis (m : Moment) : m.epochMillis.isNaN = false := by
  have hunits : (1000 : Int).natAbs * Binary64.one ≠ 0 := Nat.mul_ne_zero (by decide) Binary64.one_pos.ne'
  rw [epochMillis, Binary64.ofInt_exact (by decide), Binary64.ofQuotient]
  exact Binary64.isNaN_mul (Binary64.isNaN_ofRatio _ _ _) _ _ hunits

namespace Value

theorem isNaN_of_dropNaN {x y : Binary64} (h : dropNaN x = some y) : y.isNaN = false := by
  unfold dropNaN at h
  split at h
  · cases h
  · rename_i hx
    cases h
    exact Bool.eq_false_iff.2 hx

theorem asNumber_int {i : Int} (h : i.natAbs < Binary64.integerLimit) :
    (Value.number (.int i)).asNumber = .ok (some (Binary64.ofInt i)) := by
  rw [asNumber, Number.toBinary64, Number.intToBinary64_ok h, Except.map, dropNaN, Binary64.isNaN_ofInt]
  rfl

theorem isNaN_of_asNumber {v : Value} {x : Binary64} (h : v.asNumber = .ok (some x)) : x.isNaN = false := by
  cases v with
  | number n =>
    rcases n.answers_toBinary64 with ⟨-, y, hy⟩ | ⟨-, hy⟩
    · rw [asNumber, hy] at h
      exact isNaN_of_dropNaN (Except.ok.inj h)
    · rw [asNumber, hy] at h
      cases h
  | text s =>
    rw [asNumber] at h
    split at h
    · rw [← Option.some.inj (Except.ok.inj h)]
      exact Binary64.isNaN_ofRatio false 0 1
    · obtain ⟨y, -, hy⟩ := Option.bind_eq_some_iff.1 (Except.ok.inj h)
      exact isNaN_of_dropNaN hy
  | boolean b =>
    rw [asNumber] at h
    rw [← Option.some.inj (Except.ok.inj h)]
    exact Binary64.isNaN_ofInt _
  | date t =>
    cases h
    cases t with
    | date d => exact (Moment.midnight d).isNaN_epochMillis
    | moment m => exact m.isNaN_epochMillis
  | null | array | object => cases h

end Value

namespace Comparison

def accepts : Comparison → Ordering → Bool
  | .gt, o => o == .gt
  | .lt, o => o == .lt
  | .gte, o => o != .lt
  | .lte, o => o != .gt

theorem holds_eq (c : Comparison) {x y : Binary64} (hx : x.isNaN = false)
    (hy : y.isNaN = false) {o : Ordering} (h : x.compare? y = some o) :
    c.holds (some x) (some y) = c.accepts o := by
  obtain ⟨o', hxy, hyx⟩ := Binary64.compare?_some hx hy
  obtain rfl : o' = o := Option.some.inj (hxy.symm.trans h)
  cases c
  all_goals
    simp only [holds, Binary64.less, Binary64.lessOrSame, Binary64.same, hxy, hyx]
    cases o' <;> rfl

end Comparison

namespace Condition

variable (nans : NaNs)

/-- What a condition on a field of a record decides. -/
def verdict (fields : Fields) (field : String) (expected : Document) (op : Operator) : Except Fault Bool :=
  (evaluate nans ⟨field, op.name, expected⟩ fields).map (·.matched)

variable {nans} {fields : Fields} {field : String} {v : Value}

theorem verdict_told (hv : fields.lookup field = some v) (hn : v ≠ .null)
    {expected : Document} {op : Operator} (h : ¬ Untold nans v expected op) :
    verdict nans fields field expected op =
      decision nans v expected op := by
  rw [verdict, evaluate_present hv hn, Operator.ofName?_name]
  exact (check_told h).1

theorem verdict_untold (hv : fields.lookup field = some v) (hn : v ≠ .null)
    {expected : Document} {op : Operator} (h : Untold nans v expected op) :
    verdict nans fields field expected op =
      .error (.numeralTooLong none) := by
  rw [verdict, evaluate_present hv hn, Operator.ofName?_name]
  dsimp only
  rw [check_untold h]
  rfl

/-- With texts that can be written on both sides, nothing but the decision counts. -/
theorem verdict_present (hv : fields.lookup field = some v) (hn : v ≠ .null)
    (hprintable : v.isPrintable = true)
    {expected : Document} (hexpected : (Value.of expected).isPrintable = true) (op : Operator) :
    verdict nans fields field expected op = decision nans v expected op :=
  verdict_told hv hn (not_untold hprintable hexpected)

theorem verdict_ok_iff (hv : fields.lookup field = some v) (hn : v ≠ .null)
    {expected : Document} {op : Operator} {m : Bool} : verdict nans fields field expected op = .ok m ↔
      ¬ Untold nans v expected op ∧ decision nans v expected op = .ok m := by
  by_cases h : Untold nans v expected op
  · rw [verdict_untold hv hn h]
    exact iff_of_false nofun fun hm => hm.1 h
  · rw [verdict_told hv hn h, and_iff_right h]

theorem verdict_alike {fields' : Fields} {field' : String} {op : Operator} {v w : Value} {x y : Document}
    (hv : fields.lookup field = some v) (hvnull : v ≠ .null) (hw : fields'.lookup field' = some w)
    (hwnull : w ≠ .null) (hfield : v.isPrintable = w.isPrintable)
    (hrule : (Value.of x).isPrintable = (Value.of y).isPrintable)
    (h : decision nans v x op = decision nans w y op) :
    verdict nans fields field x op = verdict nans fields' field' y op := by
  have huntold : Untold nans v x op ↔ Untold nans w y op := by
    rw [Untold, Untold, Tells, Tells, hfield, hrule, h]
  by_cases hx : Untold nans v x op
  · rw [verdict_untold hv hvnull hx, verdict_untold hw hwnull (huntold.1 hx)]
  · rw [verdict_told hv hvnull hx, verdict_told hw hwnull (mt huntold.2 hx), h]

theorem matched_checkNull (field operator : String) :
    (checkNull field operator).matched = true ↔ operator = Operator.isEmpty.name := by
  unfold checkNull
  split_ifs with hempty
  · exact iff_of_true rfl hempty
  · exact iff_of_false Bool.false_ne_true hempty
  · exact iff_of_false Bool.false_ne_true hempty

theorem reasoned_checkNull (field operator : String) : (checkNull field operator).Reasoned := by
  unfold checkNull
  split_ifs
  · exact Check.reasoned_pass
  · exact Check.reasoned_refuse _
  · exact Check.reasoned_refuse _

theorem reasoned_evaluate {c : Condition} {outcome : Check} (h : c.evaluate nans fields = .ok outcome) :
    outcome.Reasoned := by
  obtain ⟨field, operator, expected⟩ := c
  rcases hv : fields.lookup field with _ | v
  · rw [evaluate_absent (.inl hv)] at h
    cases h
    exact reasoned_checkNull field operator
  · by_cases hn : v = .null
    · rw [evaluate_absent (.inr (hn ▸ hv))] at h
      cases h
      exact reasoned_checkNull field operator
    · rw [evaluate_present hv hn] at h
      split at h
      · cases h
        exact Check.reasoned_refuse _
      · rename_i op _
        by_cases huntold : Untold nans v expected op
        · rw [check_untold huntold] at h
          cases h
        · exact (check_told huntold).2 outcome h

/-! Membership is equality with some element. -/

def elements : Document → List Document
  | .list ds => ds
  | d => [d]

theorem ofItems_eq (ds : List Document) : Value.ofItems ds = ds.map Value.of := by
  induction ds with
  | nil => rfl
  | cons d rest ih => rw [Value.ofItems, ih, List.map_cons]

theorem candidates_eq (d : Document) : candidates d = (elements d).map Value.of := by
  cases d with
  | list ds => exact ofItems_eq ds
  | _ => rfl

theorem isMember_iff {ws : List Value} {present : Bool} (h : isMember nans v ws = .ok present) :
    present = true ↔ ∃ w ∈ ws, v.strictEquals nans w = .ok true := by
  induction ws with
  | nil =>
    cases h
    simp
  | cons w rest ih =>
    rw [isMember] at h
    split at h
    · cases h
    · rename_i hw
      cases h
      exact iff_of_true rfl ⟨w, List.mem_cons_self, hw⟩
    · rename_i hw
      rw [ih h]
      simp [hw]

/-! The laws of the operators. -/

/-- Of two operators one is answered just if the other is, and then they say the opposite. -/
def Opposite (decide : Operator → Except Fault Bool) (p q : Operator) : Prop := decide q = (decide p).map not

def Contrary (decide : Operator → Except Fault Bool) (p q : Operator) : Prop :=
  ∀ a b, decide p = .ok a → decide q = .ok b → b = !a

/-- The ordered operators say how two numbers stand: above, below or level. -/
def OneOrder (decide : Operator → Except Fault Bool) : Prop :=
  ∃ gt lt gte lte, decide .gt = .ok gt ∧ decide .lt = .ok lt ∧ decide .gte = .ok gte ∧ decide .lte = .ok lte ∧
    lte = !gt ∧ gte = !lt ∧ [gt, lt, gte && lte].count true = 1

/-- Both sides of a condition have texts that can be written. -/
structure BothPrintable (v : Value) (x : Document) : Prop where
  field : v.isPrintable = true
  expected : (Value.of x).isPrintable = true

/-- What the operators say of a field that holds a value. A refusal tells the rule's value, so that of two
contrary operators only one may be answered where that value cannot be written. -/
structure Laws (nans : NaNs) (fields : Fields) (field : String) (v : Value) : Prop where
  equals : ∀ x, Contrary (verdict nans fields field x) .equals .notEquals ∧
    (BothPrintable v x → Opposite (verdict nans fields field x) .equals .notEquals)
  contains : ∀ x, Opposite (verdict nans fields field x) .contains .notContains
  isIn : ∀ x, Contrary (verdict nans fields field x) .isIn .notIn ∧
    (BothPrintable v x → Opposite (verdict nans fields field x) .isIn .notIn)
  isEmpty : ∀ x, Opposite (verdict nans fields field x) .isEmpty .isNotEmpty
  member : ∀ x present, verdict nans fields field x .isIn = .ok present →
    (present = true ↔ ∃ d ∈ elements x, verdict nans fields field d .equals = .ok true)
  numbers : ∀ x m n, v.asNumber = .ok (some m) → (Value.of x).asNumber = .ok (some n) →
    OneOrder (verdict nans fields field x)
  noNumber : ∀ x m n, v.asNumber = .ok m → (Value.of x).asNumber = .ok n → m = none ∨ n = none →
    ∀ op : Operator, op.isNumeric = true → verdict nans fields field x op ≠ .ok true ∧
      (BothPrintable v x → verdict nans fields field x op = .ok false)

theorem ordered_ok {c : Comparison} {w : Value} {m n : Option Binary64} (hm : v.asNumber = .ok m)
    (hn : w.asNumber = .ok n) : ordered c v w = .ok (c.holds m n) := by
  rw [ordered, hm, hn]
  rfl

theorem oneOrder_decision {x : Document} {m n : Binary64} (hm : v.asNumber = .ok (some m))
    (hn : (Value.of x).asNumber = .ok (some n)) : OneOrder (decision nans v x) := by
  have hmNaN := Value.isNaN_of_asNumber hm
  have hnNaN := Value.isNaN_of_asNumber hn
  obtain ⟨o, ho, -⟩ := Binary64.compare?_some hmNaN hnNaN
  have hordered (c : Comparison) : ordered c v (Value.of x) = .ok (c.accepts o) := by
    rw [ordered_ok hm hn, c.holds_eq hmNaN hnNaN ho]
  refine ⟨_, _, _, _, hordered .gt, hordered .lt, hordered .gte, hordered .lte, ?_⟩
  cases o <;> decide

theorem noNumber_decision {x : Document} {m n : Option Binary64} (hm : v.asNumber = .ok m)
    (hn : (Value.of x).asNumber = .ok n) (hnone : m = none ∨ n = none) {op : Operator}
    (hop : op.isNumeric = true) : decision nans v x op = .ok false := by
  have hfails (c : Comparison) : ordered c v (Value.of x) = .ok false := by
    rw [ordered_ok hm hn]
    rcases hnone with rfl | rfl
    · rfl
    · cases m <;> rfl
  cases op with
  | gt | lt | gte | lte => exact hfails _
  | _ => cases hop

theorem contrary_of_decision (hv : fields.lookup field = some v) (hn : v ≠ .null) {x : Document}
    {p q : Operator} (h : Opposite (decision nans v x) p q) :
    Contrary (verdict nans fields field x) p q := by
  intro a b ha hb
  have hp := ((verdict_ok_iff hv hn).1 ha).2
  have hq := ((verdict_ok_iff hv hn).1 hb).2
  rw [h, hp] at hq
  exact (Except.ok.inj hq).symm

theorem opposite_of_decision (hv : fields.lookup field = some v) (hn : v ≠ .null) {x : Document}
    {p q : Operator} (h : Opposite (decision nans v x) p q)
    (huntold : Untold nans v x p ↔ Untold nans v x q) :
    Opposite (verdict nans fields field x) p q := by
  unfold Opposite
  by_cases hp : Untold nans v x p
  · rw [verdict_untold hv hn hp, verdict_untold hv hn (huntold.1 hp)]
    rfl
  · rw [verdict_told hv hn hp, verdict_told hv hn (mt huntold.2 hp)]
    exact h

theorem laws_of_present (hv : fields.lookup field = some v) (hn : v ≠ .null) : Laws nans fields field v := by
  have hboth {x : Document} (h : BothPrintable v x) : verdict nans fields field x = decision nans v x :=
    funext (verdict_present hv hn h.field h.expected)
  constructor
  case equals | isIn =>
    refine fun x => ⟨contrary_of_decision hv hn rfl, fun h => ?_⟩
    rw [hboth h]
    rfl
  case contains =>
    exact fun x => opposite_of_decision hv hn rfl
      (or_congr Iff.rfl (and_congr_left' (iff_of_true (.inl rfl) (.inl rfl))))
  case isEmpty =>
    have hnot {x : Document} {op : Operator} (hop : op = .isEmpty ∨ op = .isNotEmpty) :
        ¬ Tells nans v x op := by
      rcases hop with rfl | rfl <;> rintro (h | ⟨h, -⟩) <;> cases h
    exact fun x => opposite_of_decision hv hn rfl
      (or_congr Iff.rfl (and_congr_left' (iff_of_false (hnot (.inl rfl)) (hnot (.inr rfl)))))
  case member =>
    intro x present h
    obtain ⟨htold, hpresent⟩ := (verdict_ok_iff hv hn).1 h
    have hequals (d : Document) : verdict nans fields field d .equals = .ok true ↔
        v.strictEquals nans (Value.of d) = .ok true := by
      refine (verdict_ok_iff hv hn).trans (and_iff_right_of_imp fun hd => ?_)
      rintro (hfield | ⟨htells, -⟩)
      · exact htold (.inl hfield)
      · exact absurd (hd.symm.trans (htells.resolve_left nofun).2) nofun
    rw [isMember_iff hpresent, candidates_eq]
    simp only [hequals, List.mem_map, exists_exists_and_eq_and]
  case numbers =>
    intro x m n hm hx
    rw [hboth ⟨Value.isPrintable_of_asNumber hm, Value.isPrintable_of_asNumber hx⟩]
    exact oneOrder_decision hm hx
  case noNumber =>
    intro x m n hm hx hnone op hop
    have hfails : decision nans v x op = .ok false := noNumber_decision hm hx hnone hop
    refine ⟨fun htrue => ?_, fun h => (congrFun (hboth h) op).trans hfails⟩
    cases ((verdict_ok_iff hv hn).1 htrue).2.symm.trans hfails

/-- The laws hold of every field that holds a value. One that is absent or null matches `is_empty` alone,
whatever the operator is called. A match is what is told without a reason. -/
theorem operators_agree (nans : NaNs) (fields : Fields) (field : String) :
    (∀ v, fields.lookup field = some v → v ≠ .null → Laws nans fields field v) ∧
    (fields.lookup field = none ∨ fields.lookup field = some .null → ∀ operator expected, ∃ outcome,
      evaluate nans ⟨field, operator, expected⟩ fields = .ok outcome ∧
        (outcome.matched = true ↔ operator = "is_empty")) ∧
    ∀ operator expected outcome, evaluate nans ⟨field, operator, expected⟩ fields = .ok outcome →
      (outcome.matched = true ↔ outcome.reason = none) :=
  ⟨fun _ hv hn => laws_of_present hv hn,
    fun h operator _ => ⟨checkNull field operator, evaluate_absent h, matched_checkNull field operator⟩,
    fun _ _ _ h => reasoned_evaluate h⟩

/-- A deal of 1500 is above one of 1000, by whatever operator it is asked. -/
theorem deal_above : [("amount", Value.number (.int 1500))].lookup "amount" = some (.number (.int 1500)) ∧
    Value.number (.int 1500) ≠ .null ∧
    OneOrder (verdict .alike [("amount", .number (.int 1500))] "amount" (.ofInt 1000)) := by
  refine ⟨rfl, nofun, ?_⟩
  have hlaws := (operators_agree .alike [("amount", .number (.int 1500))] "amount").1 _ rfl nofun
  exact hlaws.numbers (.ofInt 1000) (Binary64.ofInt 1500) (Binary64.ofInt 1000)
    (Value.asNumber_int (Binary64.lt_integerLimit_of_exact (by decide)))
    (Value.asNumber_int (Binary64.lt_integerLimit_of_exact (by decide)))

end Condition

end RecordDesk
