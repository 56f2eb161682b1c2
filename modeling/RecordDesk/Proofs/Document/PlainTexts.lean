import RecordDesk.Proofs.Document.Compact
import RecordDesk.Proofs.Numeric.Whole
set_option autoImplicit false

/-!
Numbers as people read them. Two numbers are shown alike just if they are equal: a whole number is shown as
the integer that it is, and all others as they are written.
-/

namespace RecordDesk

theorem Binary64.eq_of_same {x y : Binary64} (h : x.same y = true) (hzero : x.toInt? ≠ some 0) : x = y := by
  rw [same, beq_iff_eq] at h
  cases x with
  | nan => cases h
  | infinite a =>
    cases y with
    | nan => cases h
    | infinite b => cases a <;> cases b <;> first | rfl | cases h
    | finite b v hv => cases a <;> cases h
  | finite a u hu =>
    cases y with
    | nan => cases h
    | infinite b => cases b <;> cases h
    | finite b v hv =>
      have hunits : signedUnits a u = signedUnits b v := Int.compare_eq_eq.1 (Option.some.inj h)
      have hpos : u ≠ 0 := by
        rintro rfl
        refine hzero (toInt?_iff.2 ⟨a, 0, hu, rfl, ?_⟩)
        rw [Int.zero_mul]
        cases a <;> rfl
      -- The sign of a count that is not zero can be told from the signed count.
      have hsame : a = b ∧ u = v := by
        unfold signedUnits at hunits
        cases a <;> cases b <;> simp only [Bool.false_eq_true, if_true, if_false] at hunits <;>
          first | exact ⟨rfl, by omega⟩ | omega
      obtain ⟨rfl, rfl⟩ := hsame
      rfl

namespace Number

variable {m n : Number} {i : Int}

theorem whole_of_units (hn : n.isNaN = false) (hside : n.side = 0) (hunits : n.units = i * Binary64.one) :
    n.whole? = some i := by
  have hone : (Binary64.one : Int) ≠ 0 := by exact_mod_cast Binary64.one_pos.ne'
  cases n with
  | int j => exact congrArg some (Int.eq_of_mul_eq_mul_right hone hunits)
  | float x =>
    cases x with
    | nan => cases hn
    | infinite negative => cases negative <;> cases hside
    | finite negative units h => exact Binary64.toInt?_iff.2 ⟨negative, units, h, rfl, hunits⟩

theorem whole_of_same (hn : n.isNaN = false) (hm : m.whole? = some i) (h : m.same n = true) :
    n.whole? = some i := by
  obtain ⟨hmn, hside, hunits⟩ := units_of_whole hm
  obtain ⟨hsides, hequal⟩ := (same_iff hmn hn).1 h
  exact whole_of_units hn (hsides ▸ hside) (hequal ▸ hunits)

theorem text_inj (h : m.text documentNames = n.text documentNames) : m = n := by
  have hends : Document.EndsNumber [] := fun c hc => by cases hc
  exact (Document.number_cancel hends hends (by rw [h])).1

def face : Number → Number
  | .int i => .int i
  | .float x => match x.toInt? with
    | some i => if i.natAbs < wholeBound then .int i else .float x
    | none => .float x

theorem plainText_eq (n : Number) : n.plainText = n.face.text documentNames := by
  cases n with
  | int i => rfl
  | float x =>
    rw [plainText, face]
    cases x.toInt? with
    | none => rfl
    | some i =>
      dsimp only
      split <;> rfl

/-- Not a NaN, and no integer that is shown as it is where a fraction of its value is shown with an
exponent. -/
structure Shown (n : Number) : Prop where
  number : n.isNaN = false
  below : ∀ i, n = .int i → i.natAbs < wholeBound

theorem face_cases (hn : n.Shown) : (∃ i, n.whole? = some i ∧ i.natAbs < wholeBound ∧ n.face = .int i) ∨
    ∃ x, n = .float x ∧ n.face = .float x ∧ ∀ i, x.toInt? = some i → wholeBound ≤ i.natAbs := by
  cases n with
  | int i => exact .inl ⟨i, rfl, hn.below i rfl, rfl⟩
  | float x =>
    cases hx : x.toInt? with
    | none => exact .inr ⟨x, rfl, by rw [face, hx], fun i hi => by rw [hx] at hi; cases hi⟩
    | some i =>
      by_cases hi : i.natAbs < wholeBound
      · exact .inl ⟨i, hx, hi, by rw [face, hx]; exact if_pos hi⟩
      · refine .inr ⟨x, rfl, by rw [face, hx]; exact if_neg hi, fun j hj => ?_⟩
        obtain rfl := Option.some.inj (hx.symm.trans hj)
        exact Nat.le_of_not_lt hi

theorem face_eq_iff (hm : m.Shown) (hn : n.Shown) : m.face = n.face ↔ m.same n = true := by
  rcases face_cases hm with ⟨i, hi, hlow, hface⟩ | ⟨x, rfl, hface, hbig⟩ <;>
    rcases face_cases hn with ⟨j, hj, hlow', hface'⟩ | ⟨y, rfl, hface', hbig'⟩ <;> rw [hface, hface']
  · rw [same, compare?_of_whole hi hj, beq_iff_eq, Option.some.injEq, Int.compare_eq_eq, Number.int.injEq]
  · refine iff_of_false Number.noConfusion fun h => ?_
    exact absurd (hbig' i (whole_of_same hn.number hi h)) (Nat.not_le_of_lt hlow)
  · refine iff_of_false Number.noConfusion fun h => ?_
    rw [same_comm] at h
    exact absurd (hbig j (whole_of_same hm.number hj h)) (Nat.not_le_of_lt hlow')
  · constructor
    · intro h
      rw [← h]
      exact same_self hm.number
    · intro h
      refine congrArg Number.float (Binary64.eq_of_same h fun hzero => ?_)
      exact absurd (hbig 0 hzero) (by decide)

theorem plainText_inj (hm : m.Shown) (hn : n.Shown) : m.plainText = n.plainText ↔ m.same n = true := by
  rw [← face_eq_iff hm hn, plainText_eq, plainText_eq]
  refine ⟨text_inj, fun h => ?_⟩
  rw [h]

end Number

end RecordDesk
