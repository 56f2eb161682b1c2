import RecordDesk.Proofs.Text.Numerals
import RecordDesk.Value
set_option autoImplicit false

namespace RecordDesk

/-- There is an answer unless something stands in its way, and then a number is too large. -/
def Answers {α : Type} (x : Except Fault α) (blocked : Prop) : Prop :=
  (¬ blocked ∧ ∃ a, x = .ok a) ∨ blocked ∧ x = .error .numberTooLarge

namespace Answers

variable {α β : Type} {x : Except Fault α} {p q : Prop}

theorem ok (a : α) : Answers (.ok a) False := .inl ⟨id, a, rfl⟩

theorem congr (hx : Answers x p) (h : p ↔ q) : Answers x q := by
  rw [Answers, h] at hx
  exact hx

theorem bind {f : α → Except Fault β} (hx : Answers x p) (hf : ∀ a, x = .ok a → Answers (f a) q) :
    Answers (x >>= f) (p ∨ q) := by
  rcases hx with ⟨hp, a, rfl⟩ | ⟨hp, rfl⟩
  · rcases hf a rfl with ⟨hq, b, hb⟩ | ⟨hq, hb⟩
    · exact .inl ⟨not_or.2 ⟨hp, hq⟩, b, hb⟩
    · exact .inr ⟨.inr hq, hb⟩
  · exact .inr ⟨.inl hp, rfl⟩

theorem map (hx : Answers x p) (f : α → β) : Answers (x >>= fun a => pure (f a)) p :=
  (hx.bind fun a _ => ok (f a)).congr (or_iff_left id)

theorem mapped (hx : Answers x p) (f : α → β) : Answers (x.map f) p := by
  rcases hx with ⟨hp, a, rfl⟩ | ⟨hp, rfl⟩
  · exact .inl ⟨hp, f a, rfl⟩
  · exact .inr ⟨hp, rfl⟩

theorem ok_iff (hx : Answers x p) : (∃ a, x = .ok a) ↔ ¬ p := by
  rcases hx with ⟨hp, a, rfl⟩ | ⟨hp, rfl⟩
  · exact iff_of_true ⟨a, rfl⟩ hp
  · exact iff_of_false (by rintro ⟨a, ⟨⟩⟩) (not_not_intro hp)

theorem error_iff (hx : Answers x p) {fault : Fault} : x = .error fault ↔ p ∧ fault = .numberTooLarge := by
  rcases hx with ⟨hp, a, rfl⟩ | ⟨hp, rfl⟩
  · exact iff_of_false nofun fun h => hp h.1
  · constructor
    · rintro ⟨⟩
      exact ⟨hp, rfl⟩
    · rintro ⟨-, rfl⟩
      rfl

end Answers

/-- An integer that is past all binary64 numbers. -/
def Number.TooWide : Number → Prop
  | .int i => Binary64.integerLimit ≤ i.natAbs
  | .float _ => False

theorem Number.answers_toBinary64 (n : Number) : Answers n.toBinary64 n.TooWide := by
  cases n with
  | int i =>
    rcases intToBinary64_cases i with ⟨hi, hx⟩ | ⟨hi, hx⟩
    · exact .inl ⟨not_le.2 hi, hx⟩
    · exact .inr ⟨hi, hx⟩
  | float x => exact .ok x

namespace Value

def TooWide : Value → Prop
  | .number n => n.TooWide
  | _ => False

/-- Two numbers one of which is too wide. Values of other kinds are compared without being numbers. -/
def Incomparable : Value → Value → Prop
  | .number m, .number n => m.TooWide ∨ n.TooWide
  | _, _ => False

theorem answers_asNumber (v : Value) : Answers v.asNumber v.TooWide := by
  cases v with
  | number n =>
    have hn : Answers (n.toBinary64.map dropNaN) n.TooWide := by
      rcases n.answers_toBinary64 with ⟨hn, x, hx⟩ | ⟨hn, hx⟩
      · exact .inl ⟨hn, dropNaN x, by rw [hx]; rfl⟩
      · exact .inr ⟨hn, by rw [hx]; rfl⟩
    exact hn
  | text s =>
    rw [asNumber]
    split
    · exact .ok _
    · exact .ok _
  | null | boolean | date | array | object => exact .ok _

variable (nans : NaNs)

theorem answers_strictEquals (v w : Value) : Answers (v.strictEquals nans w) (Incomparable v w) := by
  cases v with
  | number m =>
    cases w with
    | number n =>
      exact m.answers_toBinary64.bind fun x _ => n.answers_toBinary64.map fun y => x.same y
    | _ => exact .ok _
  | object => cases w <;> exact .ok _
  | _ => exact .ok _

end Value

/-! Values with a text that can be written. -/

theorem Number.fits_of_le {i : Int} (h : i.natAbs ≤ Binary64.integerLimit) : (Number.int i).Fits := by
  -- The exponent stays a variable: as a numeral it would be computed.
  have hdigits {e : Nat} (he : 1024 ≤ 3 * e) : (Nat.toDigits 10 i.natAbs).length ≤ e + 1 :=
    digitCount_le (Nat.succ_pos e) ((h.trans (Binary64.integerLimit_le he)).trans_lt
      (Nat.pow_lt_pow_right (by decide) (Nat.lt_succ_self e)))
  exact (hdigits (e := 399) (by decide)).trans (by decide)

theorem Number.fits_of_not_tooWide {n : Number} (h : ¬ n.TooWide) : n.Fits := by
  cases n with
  | int i => exact fits_of_le (not_le.1 h).le
  | float x => trivial

namespace Value

variable {v : Value}

theorem isPrintable_number {n : Number} : (Value.number n).isPrintable = true ↔ n.Fits := by
  rw [isPrintable, decide_eq_true_iff]

theorem isPrintable_int {i : Int} (h : i.natAbs ≤ Binary64.integerLimit) :
    (Value.number (.int i)).isPrintable = true :=
  isPrintable_number.2 (Number.fits_of_le h)

theorem isPrintable_ofInt {i : Int} (h : i.natAbs ≤ Binary64.integerLimit) :
    (of (.ofInt i)).isPrintable = true :=
  isPrintable_int h

theorem printed_of_printable (h : v.isPrintable = true) : v.printed = .ok v.asText := if_pos h

theorem printed_of_not_printable (h : v.isPrintable = false) : v.printed = .error (.numeralTooLong none) :=
  if_neg (Bool.eq_false_iff.1 h)

theorem printableItems_iff {items : List Value} : printableItems items = true ↔
    ∀ v ∈ items, v.isPrintable = true := by
  induction items with
  | nil => simp [printableItems]
  | cons v rest ih => simp [printableItems, ih]

theorem printableMembers_iff {members : List (String × Value)} :
    printableMembers members = true ↔ ∀ m ∈ members, m.2.isPrintable = true := by
  induction members with
  | nil => simp [printableMembers]
  | cons m rest ih => simp [printableMembers, ih]

theorem isPrintable_of_asNumber {x : Binary64} (h : v.asNumber = .ok (some x)) : v.isPrintable = true := by
  cases v with
  | number n =>
    have hanswered : ∃ y, (Value.number n).asNumber = .ok y := ⟨some x, h⟩
    exact isPrintable_number.2
      (Number.fits_of_not_tooWide ((answers_asNumber (.number n)).ok_iff.1 hanswered))
  | text | boolean | date => rfl
  | null | array | object => cases h

theorem mapM_printed (vs : List Value) :
    vs.mapM printed = if printableItems vs then .ok (vs.map asText) else .error (.numeralTooLong none) := by
  induction vs with
  | nil => rfl
  | cons v rest ih =>
    rw [List.mapM_cons, ih, printableItems]
    cases hv : v.isPrintable with
    | false => rw [printed_of_not_printable hv]; rfl
    | true =>
      rw [printed_of_printable hv]
      cases printableItems rest <;> rfl

end Value

end RecordDesk
