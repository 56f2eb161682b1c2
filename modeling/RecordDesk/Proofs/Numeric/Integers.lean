import RecordDesk.Numeric.Number
import RecordDesk.Proofs.Numeric.Quotients
set_option autoImplicit false

namespace RecordDesk

theorem roundHalfEven_le_iff_of_odd {num den m : Nat} (hden : 0 < den) (hm : m % 2 = 1) :
    roundHalfEven num den ≤ m ↔ 2 * num < (2 * m + 1) * den := by
  have hsplit := Nat.div_add_mod num den
  have hmod := Nat.mod_lt num hden
  have hexpand : (2 * m + 1) * den = 2 * (den * m) + den := by ring
  have hstep (k : Nat) (hk : k < m) : den * k + den ≤ den * m := by
    rw [← Nat.mul_succ]
    exact Nat.mul_le_mul_left den hk
  have hpast (k : Nat) (hk : m < k) : den * m + den ≤ den * k := by
    rw [← Nat.mul_succ]
    exact Nat.mul_le_mul_left den hk
  unfold roundHalfEven
  dsimp only
  rcases Nat.lt_trichotomy (num / den) m with hq | hq | hq
  · have hlow := hstep _ hq
    split_ifs <;> omega
  · rw [hq] at hsplit ⊢
    split_ifs <;> omega
  · have hhigh := hpast _ hq
    split_ifs <;> omega

namespace Binary64

/-- The least integer that is nearer to the first count past the finite numbers than to the last of them. -/
def integerLimit : Nat := 2 ^ 1024 - 2 ^ 970

-- The exponent is generalized first: no step may compute the power.
theorem limit_eq_pow : limit = 2 ^ 2098 := by
  unfold limit
  generalize 2098 = n
  rfl

theorem one_eq_pow : one = 2 ^ 1074 := by
  unfold one
  generalize 1074 = n
  rfl

theorem two_pow_le_one : 2 ^ 52 ≤ one := by
  rw [one_eq_pow]
  exact pow_le_pow_right₀ (by decide) (by decide)

theorem limit_eq : limit = 2 ^ 53 * 2 ^ 2045 := by rw [limit_eq_pow, ← pow_add]

theorem integerLimit_mul_one : integerLimit * one = (2 * (2 ^ 53 - 1) + 1) * 2 ^ 2044 := by
  have hbits : integerLimit = (2 * (2 ^ 53 - 1) + 1) * 2 ^ 970 := by
    rw [show 2 * (2 ^ 53 - 1) + 1 = 2 ^ 54 - 1 by decide, Nat.sub_mul, Nat.one_mul, ← pow_add, integerLimit]
  rw [hbits, one_eq_pow, Nat.mul_assoc, ← pow_add]

theorem top_of_integerLimit : 2 * (integerLimit * one) = (2 * (2 ^ 53 - 1) + 1) * 2 ^ 2045 := by
  rw [integerLimit_mul_one, Nat.mul_left_comm, ← pow_succ']

theorem lowest_of_top : 2 ^ 2097 < integerLimit * one ∧ integerLimit * one < 2 ^ 2098 := by
  have htop : 0 < 2 ^ 2044 := pow_pos two_pos 2044
  rw [integerLimit_mul_one, pow_add 2 53 2044, pow_add 2 54 2044]
  exact ⟨Nat.mul_lt_mul_of_pos_right (by decide) htop, Nat.mul_lt_mul_of_pos_right (by decide) htop⟩

theorem lt_two_pow_of_log2 {n a : Nat} (h : n.log2 < a) : n < 2 ^ a :=
  Nat.lt_log2_self.trans_le (Nat.pow_le_pow_right (by decide) h)

theorem gridWidth_of_log2 {units e : Nat} (h : units.log2 = e + 52) : gridWidth units = 2 ^ e := by
  rw [gridWidth, h, Nat.add_sub_cancel]
  rfl

theorem grid_le_rounded {units : Nat} (h : 52 ≤ units.log2) :
    2 ^ 52 * gridWidth units ≤ roundHalfEven units (gridWidth units) * gridWidth units := by
  have hfloor : 2 ^ units.log2 ≤ units := Nat.log2_self_le (by rintro rfl; exact absurd h (by decide))
  have hquotient : 2 ^ 52 ≤ units / gridWidth units := by
    rw [Nat.le_div_iff_mul_le (gridWidth_pos units), grid_of_log2 h]
    exact hfloor
  refine Nat.mul_le_mul_right _ (hquotient.trans ?_)
  unfold roundHalfEven
  dsimp only
  split_ifs <;> omega

/-- Rounding leaves the finite range from half a step below its end. -/
theorem rounded_lt_limit_iff (units : Nat) :
    roundHalfEven units (gridWidth units) * gridWidth units < limit ↔ units < integerLimit * one := by
  have hround : roundHalfEven units (gridWidth units) ≤ 2 ^ 53 := roundHalfEven_le (lt_gridWidth_mul units).le
  -- Below the last 53 bits of the range rounding stays in it, and past them all is out of it.
  rcases Nat.lt_trichotomy units.log2 2097 with hlog | hlog | hlog
  · have hsmall : units < integerLimit * one := (lt_two_pow_of_log2 hlog).trans lowest_of_top.1
    refine iff_of_true ?_ hsmall
    calc roundHalfEven units (gridWidth units) * gridWidth units
      _ ≤ 2 ^ 53 * 2 ^ (units.log2 - 52) := Nat.mul_le_mul_right _ hround
      _ = 2 ^ (53 + (units.log2 - 52)) := (Nat.pow_add 2 53 _).symm
      _ < 2 ^ 2098 := pow_lt_pow_right₀ (by decide) (by omega)
      _ = limit := limit_eq_pow.symm
  · have htop : 0 < 2 ^ 2045 := pow_pos two_pos 2045
    rw [gridWidth_of_log2 (e := 2045) hlog, limit_eq, Nat.mul_lt_mul_right htop,
      ← Nat.le_sub_one_iff_lt (by decide),
      roundHalfEven_le_iff_of_odd htop (by decide), ← top_of_integerLimit]
    omega
  · have hfloor : 2 ^ units.log2 ≤ units := Nat.log2_self_le (by rintro rfl; exact absurd hlog (by decide))
    have hlarge : 52 ≤ units.log2 := by omega
    have hsplit : 2 ^ 52 * gridWidth units = 2 ^ units.log2 := grid_of_log2 hlarge
    have hlimit : limit ≤ 2 ^ units.log2 := by
      rw [limit_eq_pow]
      exact pow_le_pow_right₀ (by decide) (Nat.succ_le_of_lt hlog)
    have hbeyond : integerLimit * one < limit := limit_eq_pow ▸ lowest_of_top.2
    refine iff_of_false ?_ ?_
    · rw [not_lt]
      exact (hlimit.trans hsplit.ge).trans (grid_le_rounded hlarge)
    · rw [not_lt]
      exact (hbeyond.le.trans hlimit).trans hfloor

theorem isFinite_ofUnits_one (negative : Bool) (units : Nat) :
    (ofUnits negative units 1).isFinite = true ↔ units < integerLimit * one := by
  rw [← rounded_lt_limit_iff]
  have hround : roundHalfEven units (gridWidth units) ≤ 2 ^ 53 := roundHalfEven_le (lt_gridWidth_mul units).le
  rw [ofUnits, Nat.div_one, Nat.one_mul]
  split
  · rename_i h
    exact iff_of_true rfl h.1
  · rename_i h
    exact iff_of_false Bool.false_ne_true fun hlt => h (representable_mul rfl hround hlt)

theorem isFinite_ofInt (i : Int) : (ofInt i).isFinite = true ↔ i.natAbs < integerLimit := by
  rw [ofInt, ofRatio, isFinite_ofUnits_one, Nat.mul_lt_mul_right one_pos]

end Binary64

theorem Number.intToBinary64_cases (i : Int) :
    (i.natAbs < Binary64.integerLimit ∧ ∃ x, Number.intToBinary64 i = .ok x) ∨
      Binary64.integerLimit ≤ i.natAbs ∧ Number.intToBinary64 i = .error .numberTooLarge := by
  have hfinite := Binary64.isFinite_ofInt i
  rw [Number.intToBinary64]
  generalize Binary64.ofInt i = x at hfinite ⊢
  cases x with
  | nan => exact .inr ⟨not_lt.1 fun h => Bool.false_ne_true (hfinite.2 h), rfl⟩
  | infinite negative => exact .inr ⟨not_lt.1 fun h => Bool.false_ne_true (hfinite.2 h), rfl⟩
  | finite negative units h => exact .inl ⟨hfinite.1 rfl, _, rfl⟩

namespace Binary64

theorem ofInt_exact {i : Int} (h : i.natAbs ≤ 2 ^ 53) :
    ofInt i = .finite (decide (i < 0)) (i.natAbs * one) (representable_mul_one h) := by
  rw [ofInt, ofRatio]
  exact ofUnits_one (decide (i < 0)) (representable_mul_one h)

attribute [local irreducible] ofUnits in
theorem finite_add (a b : Bool) {u v : Nat} (hu : Representable u) (hv : Representable v) :
    finite a u hu + finite b v hv = ofUnits (if signedUnits a u + signedUnits b v = 0 then a && b
      else decide (signedUnits a u + signedUnits b v < 0)) (signedUnits a u + signedUnits b v).natAbs 1 := rfl

theorem signedUnits_natAbs (i : Int) : signedUnits (decide (i < 0)) (i.natAbs * one) = i * one := by
  unfold signedUnits
  by_cases hi : i < 0
  · simp only [hi, decide_true, if_true, Nat.cast_mul]
    rw [← neg_mul]
    congr 1
    omega
  · simp only [hi, decide_false, Bool.false_eq_true, if_false, Nat.cast_mul]
    congr 1
    omega

theorem ofInt_add {a b : Int} (ha : a.natAbs ≤ 2 ^ 53) (hb : b.natAbs ≤ 2 ^ 53)
    (hab : (a + b).natAbs ≤ 2 ^ 53) : ofInt a + ofInt b = ofInt (a + b) := by
  have hone : (0 : Int) < one := by exact_mod_cast one_pos
  have hneg : (a + b) * (one : Int) < 0 ↔ a + b < 0 := by
    constructor <;> intro h
    · exact neg_of_mul_neg_left h hone.le
    · exact mul_neg_of_neg_of_pos h hone
  have hsum : signedUnits (decide (a < 0)) (a.natAbs * one) + signedUnits (decide (b < 0)) (b.natAbs * one)
      = (a + b) * one := by rw [signedUnits_natAbs, signedUnits_natAbs, Int.add_mul]
  have hsign : (if (a + b) * one = 0 then decide (a < 0) && decide (b < 0) else decide ((a + b) * one < 0))
      = decide (a + b < 0) := by
    by_cases hzero : a + b = 0
    · have hopposite : ¬ (a < 0 ∧ b < 0) := by omega
      simp only [hzero, Int.zero_mul, if_true, Int.lt_irrefl, decide_false]
      simpa using hopposite
    · rw [if_neg (Int.mul_ne_zero hzero hone.ne')]
      simp only [hneg]
  rw [ofInt_exact ha, ofInt_exact hb, ofInt_exact hab, finite_add, hsum, hsign, Int.natAbs_mul,
    Int.natAbs_natCast]
  exact ofUnits_one _ (representable_mul_one hab)

theorem ofInt_zero : ofInt 0 = zero := rfl

theorem limit_pos : 0 < limit := limit_eq_pow ▸ pow_pos two_pos 2098

theorem zero_eq : ∃ h, zero = .finite false 0 h := by
  have hzero : (0 : Int).natAbs * one = 0 := by rw [Int.natAbs_zero, Nat.zero_mul]
  rw [← ofInt_zero, ofInt_exact (Nat.zero_le _)]
  simp only [hzero, Int.lt_irrefl, decide_false, exists_true_iff_nonempty]
  exact ⟨⟨limit_pos, Nat.zero_mod _⟩⟩

theorem isZero_finite (negative : Bool) {units : Nat} (h : Representable units) :
    (finite negative units h).isZero = true ↔ units = 0 := by
  obtain ⟨hzero, hz⟩ := zero_eq
  rw [isZero, hz, same, compare?, beq_iff_eq, Option.some.injEq, Int.compare_eq_eq]
  cases negative <;> simp [signedUnits]

theorem isZero_ofUnits_one (negative : Bool) {units : Nat} (h : 52 ≤ units.log2) :
    (ofUnits negative units 1).isZero = false := by
  have hpos : 0 < roundHalfEven units (gridWidth units) * gridWidth units :=
    (Nat.mul_pos (pow_pos two_pos 52) (gridWidth_pos units)).trans_le (grid_le_rounded h)
  rw [ofUnits, Nat.div_one, Nat.one_mul]
  split
  · rw [Bool.eq_false_iff, ne_eq, isZero_finite]
    exact hpos.ne'
  · obtain ⟨hzero, hz⟩ := zero_eq
    rw [isZero, hz]
    cases negative <;> rfl

theorem isZero_ofInt (i : Int) : (ofInt i).isZero = true ↔ i = 0 := by
  constructor
  · intro h
    by_contra hi
    have hlarge : 52 ≤ (i.natAbs * one).log2 := by
      rw [Nat.le_log2 (Nat.mul_ne_zero (by omega) one_pos.ne')]
      exact two_pow_le_one.trans (Nat.le_mul_of_pos_left one (by omega))
    rw [ofInt, ofRatio, isZero_ofUnits_one _ hlarge] at h
    cases h
  · rintro rfl
    obtain ⟨hzero, hz⟩ := zero_eq
    rw [ofInt_zero, hz, isZero_finite]

end Binary64

end RecordDesk
