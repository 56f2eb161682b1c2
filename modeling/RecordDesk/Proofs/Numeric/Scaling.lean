import RecordDesk.Proofs.Numeric.Order
set_option autoImplicit false

namespace RecordDesk.Binary64

theorem ofUnits_one_of_lt (negative : Bool) {units : Nat} (h : units < integerLimit * one) :
    ∃ hgrid, ofUnits negative units 1 = .finite negative (nearest units) hgrid := by
  have hfinite := (isFinite_ofUnits_one negative units).2 h
  rw [ofUnits, Nat.div_one, Nat.one_mul] at hfinite ⊢
  split
  · rename_i hgrid
    exact ⟨hgrid, rfl⟩
  · rename_i hoff
    rw [dif_neg hoff] at hfinite
    cases hfinite

theorem ofUnits_one_of_le (negative : Bool) {units : Nat} (h : integerLimit * one ≤ units) :
    ofUnits negative units 1 = .infinite negative := by
  have hpast : ¬ (ofUnits negative units 1).isFinite = true := by
    rw [isFinite_ofUnits_one]
    omega
  rw [ofUnits, Nat.div_one, Nat.one_mul] at hpast ⊢
  split
  · rename_i hgrid
    rw [dif_pos hgrid] at hpast
    exact absurd rfl hpast
  · rfl

attribute [local irreducible] ofUnits in
theorem finite_mul (a b : Bool) {u v : Nat} (hu : Representable u) (hv : Representable v) :
    finite a u hu * finite b v hv = ofUnits (a != b) (u * v) one := rfl

attribute [local irreducible] ofUnits in
theorem finite_div (a b : Bool) {u v : Nat} (hu : Representable u) (hv : Representable v) :
    finite a u hu / finite b v hv = if v = 0 then (if u = 0 then nan else infinite (a != b))
      else ofUnits (a != b) (u * one) v := rfl

theorem infinite_mul (a b : Bool) {v : Nat} (hv : Representable v) :
    infinite a * finite b v hv = if v = 0 then nan else infinite (a != b) := rfl

theorem infinite_add (a b : Bool) {v : Nat} (hv : Representable v) :
    infinite a + finite b v hv = infinite a := rfl

theorem finite_mul_ofInt (negative : Bool) {units k : Nat} (h : Representable units) (hk : k ≤ 2 ^ 53) :
    finite negative units h * ofInt k = ofUnits negative (units * k) 1 := by
  have hsign : decide ((k : Int) < 0) = false := decide_eq_false (by omega)
  have hcancel := ofUnits_mul_right one_pos negative (units * k) 1
  rw [Nat.one_mul] at hcancel
  rw [ofInt_exact (i := k) hk, finite_mul, Int.natAbs_natCast, hsign,
    Bool.bne_false, ← Nat.mul_assoc, hcancel]

theorem infinite_mul_ofInt (negative : Bool) {k : Nat} (hpos : 0 < k) (hk : k ≤ 2 ^ 53) :
    infinite negative * ofInt k = infinite negative := by
  have hsign : decide ((k : Int) < 0) = false := decide_eq_false (by omega)
  rw [ofInt_exact (i := k) hk, infinite_mul, Int.natAbs_natCast, hsign, Bool.bne_false,
    if_neg (Nat.mul_pos hpos one_pos).ne']

theorem isNaN_mul_ofInt {x : Binary64} {k : Nat} (hx : x.isNaN = false) (hpos : 0 < k) (hk : k ≤ 2 ^ 53) :
    (x * ofInt k).isNaN = false := by
  cases x with
  | nan => cases hx
  | infinite negative =>
    rw [infinite_mul_ofInt negative hpos hk]
    rfl
  | finite negative units h =>
    rw [finite_mul_ofInt negative h hk]
    exact isNaN_ofUnits _ _ _

theorem isNaN_add_finite {x : Binary64} (hx : x.isNaN = false) (b : Bool) {v : Nat} (hv : Representable v) :
    (x + finite b v hv).isNaN = false := by
  cases x with
  | nan => cases hx
  | infinite a => rfl
  | finite a u hu =>
    rw [finite_add]
    exact isNaN_ofUnits _ _ _

theorem isNaN_div_finite {x : Binary64} (hx : x.isNaN = false) (b : Bool) {v : Nat} (hv : Representable v)
    (hpos : v ≠ 0) : (x / finite b v hv).isNaN = false := by
  cases x with
  | nan => cases hx
  | infinite a => rfl
  | finite a u hu =>
    rw [finite_div, if_neg hpos]
    exact isNaN_ofUnits _ _ _

theorem units_le_top {units : Nat} (h : Representable units) : units + 2 ^ 2045 ≤ limit := by
  have hlimit := h.1
  rw [limit_eq_pow] at hlimit ⊢
  rcases Nat.lt_or_ge units.log2 2097 with hlow | hhigh
  · have hdouble : 2 ^ 2098 = 2 ^ 2097 + 2 ^ 2097 := by rw [← Nat.two_mul, ← pow_succ']
    rw [hdouble]
    exact Nat.add_le_add (lt_two_pow_of_log2 hlow).le (pow_le_pow_right₀ (by decide) (by decide))
  · have hpos : units ≠ 0 := by
      rintro rfl
      exact absurd hhigh (by decide)
    have hlog : units.log2 = 2045 + 52 := by
      have hbits := (Nat.log2_lt hpos).2 hlimit
      omega
    have hgrid : 2 ^ 2045 ∣ units := gridWidth_of_log2 hlog ▸ Nat.dvd_of_mod_eq_zero h.2
    exact add_le_of_lt_of_dvd hlimit hgrid (pow_dvd_pow 2 (by decide))

theorem lt_top_of_small {units small : Nat} (h : Representable units) (hsmall : small < 2 ^ 2044) :
    units + small < integerLimit * one := by
  have htop := units_le_top h
  have hbound : integerLimit * one + 2 ^ 2044 = limit := by
    rw [integerLimit_mul_one, limit_eq_pow, show 2 * (2 ^ 53 - 1) + 1 = 2 ^ 54 - 1 by decide, ← Nat.succ_mul,
      show Nat.succ (2 ^ 54 - 1) = 2 ^ 54 by decide, ← pow_add]
  have hstep : 2 ^ 2045 = 2 * 2 ^ 2044 := by rw [← pow_succ']
  generalize 2 ^ 2044 = quarter at hsmall hbound hstep
  generalize 2 ^ 2045 = step at htop hstep
  omega

theorem natAbs_signedUnits_add_le (a b : Bool) (u v : Nat) :
    (signedUnits a u + signedUnits b v).natAbs ≤ u + v := by
  unfold signedUnits
  split_ifs <;> omega

theorem isFinite_add_small (a b : Bool) {u v : Nat} (hu : Representable u) (hv : Representable v)
    (hsmall : v < 2 ^ 2044) : (finite a u hu + finite b v hv).isFinite = true := by
  rw [finite_add, isFinite_ofUnits_one]
  exact (natAbs_signedUnits_add_le a b u v).trans_lt (lt_top_of_small hu hsmall)

theorem lessOrSame_finite {u v : Nat} (hu : Representable u) (hv : Representable v) :
    (finite false u hu).lessOrSame (finite false v hv) = true ↔ u ≤ v := by
  have hcompare : (finite false u hu).compare? (finite false v hv) = some (compare (u : Int) v) := rfl
  rw [lessOrSame, less, same, hcompare, Bool.or_eq_true, beq_iff_eq, beq_iff_eq, Option.some.injEq,
    Option.some.injEq, Int.compare_eq_lt, Int.compare_eq_eq]
  omega

end RecordDesk.Binary64
