import RecordDesk.Proofs.Numeric.Order
set_option autoImplicit false

namespace RecordDesk

namespace Binary64

variable {x y : Binary64} {i j : Int}

theorem signedUnits_mul (negative : Bool) (units k : Nat) :
    signedUnits negative (units * k) = signedUnits negative units * k := by
  cases negative <;> simp [signedUnits]

theorem signedUnits_sign (zeroSign : Bool) (i : Int) :
    signedUnits (if i = 0 then zeroSign else decide (i < 0)) i.natAbs = i := by
  unfold signedUnits
  split_ifs with hzero hsign hsign
  · subst hzero
    rfl
  · subst hzero
    rfl
  · rw [decide_eq_true_eq] at hsign
    omega
  · rw [decide_eq_true_eq] at hsign
    omega

theorem toInt?_finite (negative : Bool) {units : Nat} (h : Representable units) :
    (finite negative units h).toInt? =
    if units % one = 0 then some (signedUnits negative (units / one)) else none := rfl

theorem toInt?_iff : x.toInt? = some i ↔
    ∃ negative units, ∃ h : Representable units, x = .finite negative units h ∧
    signedUnits negative units = i * one := by
  constructor
  · intro hx
    cases x with
    | nan => cases hx
    | infinite negative => cases hx
    | finite negative units h =>
      rw [toInt?_finite] at hx
      split at hx
      · rename_i hones
        refine ⟨negative, units, h, rfl, ?_⟩
        rw [← Option.some.inj hx, ← signedUnits_mul, Nat.div_mul_cancel (Nat.dvd_of_mod_eq_zero hones)]
      · cases hx
  · rintro ⟨negative, units, h, rfl, hunits⟩
    have hone : (one : Int) ≠ 0 := by exact_mod_cast one_pos.ne'
    have hsize : i.natAbs * one = units := by
      rw [← Int.natAbs_natCast one, ← Int.natAbs_mul, ← hunits]
      cases negative <;> simp [signedUnits]
    subst hsize
    rw [signedUnits_mul] at hunits
    have hvalue : signedUnits negative i.natAbs = i := Int.eq_of_mul_eq_mul_right hone hunits
    rw [toInt?_finite, Nat.mul_mod_left, if_pos rfl, Nat.mul_div_cancel i.natAbs one_pos, hvalue]

theorem toInt?_ofInt (h : i.natAbs ≤ 2 ^ 53) : (ofInt i).toInt? = some i :=
  toInt?_iff.2 ⟨_, _, _, ofInt_exact h, signedUnits_natAbs i⟩

theorem toInt?_zero : zero.toInt? = some 0 := ofInt_zero ▸ toInt?_ofInt (Nat.zero_le _)

theorem toInt?_add (hx : x.toInt? = some i) (hy : y.toInt? = some j) (hsum : (i + j).natAbs ≤ 2 ^ 53) :
    (x + y).toInt? = some (i + j) := by
  obtain ⟨a, u, hu, rfl, hi⟩ := toInt?_iff.1 hx
  obtain ⟨b, v, hv, rfl, hj⟩ := toInt?_iff.1 hy
  have hunits : signedUnits a u + signedUnits b v = (i + j) * one := by rw [hi, hj, Int.add_mul]
  have hsize : ((i + j) * one).natAbs = (i + j).natAbs * one := by rw [Int.natAbs_mul, Int.natAbs_natCast]
  rw [finite_add, hunits, hsize, ofUnits_one _ (representable_mul_one hsum)]
  refine toInt?_iff.2 ⟨_, _, _, rfl, ?_⟩
  rw [← hsize]
  exact signedUnits_sign (a && b) _

end Binary64

namespace Number

variable {m n : Number} {i j : Int}

def whole? : Number → Option Int
  | .int i => some i
  | .float x => x.toInt?

theorem units_of_whole (h : n.whole? = some i) : n.isNaN = false ∧ n.side = 0 ∧
    n.units = i * Binary64.one := by
  cases n with
  | int j =>
    cases h
    exact ⟨rfl, rfl, rfl⟩
  | float x =>
    obtain ⟨negative, units, hgrid, rfl, hunits⟩ := Binary64.toInt?_iff.1 h
    exact ⟨rfl, rfl, hunits⟩

theorem compare?_of_whole (hm : m.whole? = some i) (hn : n.whole? = some j) :
    m.compare? n = some (compare i j) := by
  obtain ⟨hmn, hms, hmu⟩ := units_of_whole hm
  obtain ⟨hnn, hns, hnu⟩ := units_of_whole hn
  have hone : (0 : Int) < Binary64.one := by exact_mod_cast Binary64.one_pos
  rw [compare?_eq hmn hnn, hms, hns, hmu, hnu, compare_scaled hone, Int.compare_eq_eq.2 rfl]
  rfl

end Number

end RecordDesk
