import RecordDesk.Proofs.Rule.Operators
import RecordDesk.Proofs.Text.Numerals
set_option autoImplicit false

/-!
Integers as texts. A condition that compares numbers does not see whether an integer was stored as a number
or as its text, with blanks around it or without. Past the range it does: there the text is infinite and the
number is a fault.
-/

namespace RecordDesk

open Binary64 (integerLimit)

/-- A text that shows an integer, with blanks around it perhaps. -/
def Shows (t : String) (i : Int) : Prop :=
  ∃ before after : String, (∀ c ∈ before.toList, isBlank c) ∧ (∀ c ∈ after.toList, isBlank c) ∧
    t = before ++ (Value.number (.int i)).asText ++ after

namespace Shows

variable {t : String} {i : Int}

theorem strip_eq (h : Shows t i) : strip t = toString i := by
  obtain ⟨before, after, hbefore, hafter, rfl⟩ := h
  have htext : (Value.number (.int i)).asText = toString i := by rw [Value.asText, Number.plainText]
  have hbare : ∀ c ∈ (toString i).toList, ¬ isBlank c := fun c hc => by simp [Numeral.not_isBlank hc]
  rw [strip, htext, String.toList_append, String.toList_append,
    stripWhere_padded hbefore hafter (fun c hc => hbare c (List.mem_of_mem_head? hc))
      fun c hc => hbare c (List.mem_of_getLast? hc), String.ofList_toList]

theorem asNumber_text (h : Shows t i) : (Value.text t).asNumber = .ok (some (Binary64.ofInt i)) := by
  have hread := Numeral.binary64?_toString i
  have hne : (toString i == "") = false := by
    refine beq_eq_false_iff_ne.2 fun hempty => ?_
    rw [hempty] at hread
    cases hread
  rw [Value.asNumber, h.strip_eq, hne, hread, Option.bind_some, Value.dropNaN, Binary64.isNaN_ofInt]
  rfl

theorem asNumber_eq_iff (h : Shows t i) :
    (Value.text t).asNumber = (Value.number (.int i)).asNumber ↔ i.natAbs < integerLimit := by
  rw [h.asNumber_text]
  constructor
  · intro heq
    exact not_le.1 ((Value.answers_asNumber (.number (.int i))).ok_iff.1 ⟨_, heq.symm⟩)
  · intro hi
    exact (Value.asNumber_int hi).symm

end Shows

namespace Condition

variable {nans : NaNs} {fields : Fields} {field : String}

theorem decision_of_isNumeric (nans : NaNs) {op : Operator} (h : op.isNumeric = true) :
    ∃ c, ∀ v x, decision nans v x op = ordered c v (Value.of x) := by
  cases op with
  | gt => exact ⟨.gt, fun _ _ => rfl⟩
  | lt => exact ⟨.lt, fun _ _ => rfl⟩
  | gte => exact ⟨.gte, fun _ _ => rfl⟩
  | lte => exact ⟨.lte, fun _ _ => rfl⟩
  | _ => cases h

theorem decision_congr {op : Operator} (hop : op.isNumeric = true) {v w : Value} {x y : Document}
    (hfield : v.asNumber = w.asNumber) (hrule : (Value.of x).asNumber = (Value.of y).asNumber) :
    decision nans v x op = decision nans w y op := by
  obtain ⟨c, hc⟩ := decision_of_isNumeric nans hop
  rw [hc, hc, ordered, ordered, hfield, hrule]

theorem verdict_congr {op : Operator} (hop : op.isNumeric = true) {x y : Document}
    (hprintable : (Value.of x).isPrintable = (Value.of y).isPrintable)
    (h : (Value.of x).asNumber = (Value.of y).asNumber) :
    verdict nans fields field x op = verdict nans fields field y op := by
  rcases hv : fields.lookup field with _ | v
  · rw [verdict, verdict, evaluate_absent (.inl hv), evaluate_absent (.inl hv)]
  · by_cases hnull : v = .null
    · rw [verdict, verdict, evaluate_absent (.inr (hnull ▸ hv)), evaluate_absent (.inr (hnull ▸ hv))]
    · exact verdict_alike hv hnull hv hnull rfl hprintable (decision_congr hop rfl h)

/-- The text of an integer has the numeric view of the integer just if that is in the range of binary64
numbers, whatever blanks stand around it. Every ordered condition then decides the same of the one and of
the other, as the value of its field and as the value of its rule. -/
theorem integer_texts_decide {i : Int} {t : String} (ht : Shows t i) :
    ((Value.text t).asNumber = (Value.number (.int i)).asNumber ↔ i.natAbs < integerLimit) ∧
    (i.natAbs < integerLimit → ∀ (nans : NaNs) (op : Operator), op.isNumeric = true →
      (∀ (fields fields' : Fields) (field field' : String) (x : Document),
        fields.lookup field = some (.number (.int i)) → fields'.lookup field' = some (.text t) →
          verdict nans fields field x op = verdict nans fields' field' x op) ∧
      ∀ (fields : Fields) (field : String), verdict nans fields field (.ofInt i) op =
        verdict nans fields field (.text t) op) := by
  refine ⟨ht.asNumber_eq_iff, fun hi nans op hop => ⟨?_, fun fields field => ?_⟩⟩
  all_goals
    have hprintable : (Value.number (.int i)).isPrintable = true := Value.isPrintable_int hi.le
    have hview := (ht.asNumber_eq_iff.2 hi).symm
  · intro fields fields' field field' x hfield hfield'
    exact verdict_alike hfield nofun hfield' nofun hprintable rfl (decision_congr hop hview rfl)
  · exact verdict_congr hop hprintable hview

/-- A debt between a no-break space and a tab is compared as the debt itself. -/
theorem padded_amount_decides : Shows "\u00a0-1500\t" (-1500) ∧ (-1500 : Int).natAbs < integerLimit ∧
    verdict .alike [("amount", .number (.int (-1500)))] "amount" (.ofInt (-2000)) .gt
      = verdict .alike [("amount", .text "\u00a0-1500\t")] "amount" (.ofInt (-2000)) .gt ∧
    verdict .alike [("limit", .number (.int (-2000)))] "limit" (.ofInt (-1500)) .lte
      = verdict .alike [("limit", .number (.int (-2000)))] "limit" (.text "\u00a0-1500\t") .lte := by
  have hshows : Shows "\u00a0-1500\t" (-1500) :=
    ⟨"\u00a0", "\t", by simp [isBlank, isWhiteSpace], by simp [isBlank, isWhiteSpace], by decide⟩
  have hrange : (-1500 : Int).natAbs < integerLimit := Binary64.lt_integerLimit_of_exact (by decide)
  have hdecide := (integer_texts_decide hshows).2 hrange .alike
  exact ⟨hshows, hrange, (hdecide .gt rfl).1 _ _ _ _ _ rfl rfl, (hdecide .lte rfl).2 _ _⟩

end Condition

end RecordDesk
