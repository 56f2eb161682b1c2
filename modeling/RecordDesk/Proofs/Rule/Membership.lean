import RecordDesk.Proofs.Rule.Operators
import RecordDesk.Proofs.Value.Equivalence
set_option autoImplicit false

/-!
Membership conditions and strict equality. Documents that are strictly equal are told apart from the same
others, so a list has both of them for members or neither.
-/

namespace RecordDesk

namespace Document

variable {nans : NaNs} {a b : Document}

theorem StrictlyEqual.same_answer (h : a.StrictlyEqual nans b) (ha : a.IsComparable)
    (hb : b.IsComparable) {x : Document} (hx : x.IsComparable) :
    ∃ e, (Value.of a).strictEquals nans (Value.of x) = .ok e ∧
    (Value.of b).strictEquals nans (Value.of x) = .ok e := by
  obtain ⟨e, he⟩ := ha.answered nans hx
  obtain ⟨e', he'⟩ := hb.answered nans hx
  refine ⟨e, he, he'.trans (congrArg Except.ok ?_)⟩
  rw [Bool.eq_iff_iff]
  constructor
  · rintro rfl
    exact Except.ok.inj (he.symm.trans (Value.strictEquals_trans h he'))
  · rintro rfl
    exact Except.ok.inj (he'.symm.trans (Value.strictEquals_trans (ha.symm hb h) he))

end Document

namespace Condition

open Document (StrictlyEqual IsComparable)

variable {nans : NaNs}

theorem isMember_alike {v w : Value} {candidates : List Value}
    (h : ∀ u ∈ candidates, ∃ e, v.strictEquals nans u = .ok e ∧ w.strictEquals nans u = .ok e) :
    ∃ present, isMember nans v candidates = .ok present ∧ isMember nans w candidates = .ok present := by
  induction candidates with
  | nil => exact ⟨false, rfl, rfl⟩
  | cons u rest ih =>
    obtain ⟨⟨e, hv, hw⟩, hrest⟩ := List.forall_mem_cons.1 h
    rw [isMember, isMember, hv, hw]
    cases e with
    | true => exact ⟨true, rfl, rfl⟩
    | false => exact ih hrest

theorem isMember_of_equal {a b : Document} (ha : a.IsComparable) (hb : b.IsComparable)
    (h : a.StrictlyEqual nans b) {xs : List Document} (hxs : ∀ x ∈ xs, x.IsComparable) :
    ∃ present, isMember nans (Value.of a) (candidates (.list xs)) = .ok present ∧
      isMember nans (Value.of b) (candidates (.list xs)) = .ok present := by
  refine isMember_alike fun u hu => ?_
  rw [candidates_eq, elements] at hu
  obtain ⟨x, hx, rfl⟩ := List.mem_map.1 hu
  exact h.same_answer ha hb (hxs x hx)

theorem membership_decided {a b : Document} (ha : a.IsComparable) (hb : b.IsComparable)
    (h : a.StrictlyEqual nans b)
    {xs : List Document} (hxs : ∀ x ∈ xs, x.IsComparable) {op : Operator} (hop : op = .isIn ∨ op = .notIn) :
    ∃ e, decision nans (Value.of a) (.list xs) op = .ok e ∧
    decision nans (Value.of b) (.list xs) op = .ok e := by
  obtain ⟨present, hpresent, hpresent'⟩ := isMember_of_equal ha hb h hxs
  rcases hop with rfl | rfl
  · exact ⟨present, hpresent, hpresent'⟩
  · exact ⟨!present, congrArg (Except.map not) hpresent, congrArg (Except.map not) hpresent'⟩

theorem verdict_null {fields : Fields} {field : String} {expected : Document} {op : Operator}
    (h : fields.lookup field = some .null) (hop : op = .isIn ∨ op = .notIn) :
    verdict nans fields field expected op = .ok false := by
  rw [verdict, evaluate_absent (.inr h)]
  rcases hop with rfl | rfl <;> rfl

/-- Strict equality of comparable documents is an equivalence that keeps the kinds apart, and membership
respects it: on fields that hold equal documents a condition on a list of comparable ones comes to the same,
and to an answer if the texts can be written that it may have to tell. -/
theorem membership_respects_equality (nans : NaNs) :
    (Equivalence fun a b : {d : Document // d.IsComparable} => a.1.StrictlyEqual nans b.1) ∧
    (∀ v w : Value, v.kind ≠ w.kind → v.strictEquals nans w = .ok false) ∧
    ∀ (a b : Document) (xs : List Document), a.IsComparable → b.IsComparable → (∀ x ∈ xs, x.IsComparable) →
      a.StrictlyEqual nans b → ∀ (fields fields' : Fields) (field field' : String),
        fields.lookup field = some (Value.of a) → fields'.lookup field' = some (Value.of b) →
          ∀ op, op = .isIn ∨ op = .notIn →
            verdict nans fields field (.list xs) op = verdict nans fields' field' (.list xs) op ∧
            (BothPrintable (Value.of a) (.list xs) → ∃ e, verdict nans fields field (.list xs) op = .ok e ∧
              verdict nans fields' field' (.list xs) op = .ok e) := by
  refine ⟨⟨fun a => a.2.refl, fun {a b} => a.2.symm b.2, Value.strictEquals_trans⟩,
    fun v w => Value.strictEquals_of_kind_ne, ?_⟩
  intro a b xs ha hb hxs hequal fields fields' field field' hfield hfield' op hop
  have hkind : (Value.of a).kind = (Value.of b).kind := Value.kind_of_strictEquals hequal
  by_cases hnull : Value.of a = .null
  · have hnull' : Value.of b = .null := Value.eq_null_of_kind (hkind.symm.trans (congrArg Value.kind hnull))
    have hfalse : verdict nans fields field (.list xs) op = .ok false := verdict_null (hnull ▸ hfield) hop
    have hfalse' : verdict nans fields' field' (.list xs) op = .ok false :=
      verdict_null (hnull' ▸ hfield') hop
    exact ⟨hfalse.trans hfalse'.symm, fun _ => ⟨false, hfalse, hfalse'⟩⟩
  · have hnull' : Value.of b ≠ .null :=
      fun h => hnull (Value.eq_null_of_kind (hkind.trans (congrArg Value.kind h)))
    have hprintable : (Value.of a).isPrintable = (Value.of b).isPrintable :=
      Value.isPrintable_of_strictEquals ha.definite.json.distinctKeys hb.definite.json.distinctKeys hequal
    obtain ⟨e, hdecision, hdecision'⟩ := membership_decided ha hb hequal hxs hop
    have hsame : verdict nans fields field (.list xs) op = verdict nans fields' field' (.list xs) op :=
      verdict_alike hfield hnull hfield' hnull' hprintable rfl (hdecision.trans hdecision'.symm)
    refine ⟨hsame, fun hboth => ?_⟩
    have hanswer := (verdict_present hfield hnull hboth.field hboth.expected op).trans hdecision
    exact ⟨e, hanswer, hsame.symm.trans hanswer⟩

/-- An order is in a list with its members the other way around, its net amount an integer in one and a
decimal in the other. -/
theorem reordered_member : Document.IsComparable (.object [("net", .ofInt 1), ("paid", .boolean true)]) ∧
    Document.IsComparable (.object [("paid", .boolean true), ("net", .number (.float (Binary64.ofInt 1)))]) ∧
    ∃ e, verdict .alike [("order", Value.of (.object [("net", .ofInt 1), ("paid", .boolean true)]))] "order"
        (.list [.null, .object [("net", .ofInt 1), ("paid", .boolean true)]]) .isIn = .ok e ∧
      verdict .alike [("order",
        Value.of (.object [("paid", .boolean true), ("net", .number (.float (Binary64.ofInt 1)))]))]
        "order" (.list [.null, .object [("net", .ofInt 1), ("paid", .boolean true)]]) .isIn = .ok e := by
  have hinteger : Document.IsComparable (.object [("net", .ofInt 1), ("paid", .boolean true)]) := by
    refine ⟨?_, id⟩
    constructor <;>
      simp [Document.IsJson, Document.Every, Document.EveryMember, Document.IsJsonPart, Document.DefinitePart,
        Document.ofInt, Number.isNaN]
  have hdecimal : Document.IsComparable
      (.object [("paid", .boolean true), ("net", .number (.float (Binary64.ofInt 1)))]) := by
    refine ⟨?_, id⟩
    constructor <;>
      simp [Document.IsJson, Document.Every, Document.EveryMember, Document.IsJsonPart, Document.DefinitePart,
        Number.isNaN, Binary64.isNaN_ofInt]
  have hnull : Document.IsComparable .null := ⟨⟨trivial, trivial⟩, id⟩
  have hmembers : ∀ x ∈ [Document.null, .object [("net", .ofInt 1), ("paid", .boolean true)]],
      x.IsComparable := by
    simp only [List.forall_mem_cons, List.not_mem_nil, false_imp_iff, implies_true, and_true]
    exact ⟨hnull, hinteger⟩
  have hequal : StrictlyEqual .alike (.object [("net", .ofInt 1), ("paid", .boolean true)])
      (.object [("paid", .boolean true), ("net", .number (.float (Binary64.ofInt 1)))]) :=
    congrArg Except.ok (by decide +kernel)
  exact ⟨hinteger, hdecimal,
    ((membership_respects_equality .alike).2.2 _ _ _ hinteger hdecimal hmembers hequal _ _ _ _
    rfl rfl .isIn (.inl rfl)).2 ⟨by decide, by decide⟩⟩

end Condition

end RecordDesk
