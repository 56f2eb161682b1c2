import RecordDesk.Proofs.Numeric.ShortestReads
set_option autoImplicit false

/-!
Quotients of counts, rounded up. The rounding of a quotient never reaches the integer below it, as long as
the dividend has no more than 53 bits: the quotient is further from that integer than half a step of the
grid.
-/

namespace RecordDesk

theorem roundHalfEven_le {num den m : Nat} (h : num ≤ m * den) : roundHalfEven num den ≤ m := by
  rcases Nat.eq_zero_or_pos den with rfl | hden
  · obtain rfl : num = 0 := by omega
    simp [roundHalfEven]
  · have hsplit := Nat.div_add_mod num den
    have hq : num / den ≤ m := Nat.div_le_of_le_mul (by rw [Nat.mul_comm]; exact h)
    have hr : num / den = m → num % den = 0 := by
      intro heq
      rw [heq, Nat.mul_comm] at hsplit
      omega
    unfold roundHalfEven
    dsimp only
    split_ifs <;> omega

theorem lt_roundHalfEven {num den m : Nat} (hden : 0 < den) (h : (2 * m + 1) * den < 2 * num) :
    m < roundHalfEven num den := by
  have hsplit := Nat.div_add_mod num den
  have hmod := Nat.mod_lt num hden
  have hq : m ≤ num / den := by
    rw [Nat.le_div_iff_mul_le hden]
    have hexpand : (2 * m + 1) * den = 2 * (m * den) + den := by ring
    omega
  have hr : num / den = m → den < 2 * (num % den) := by
    intro heq
    have hexpand : (2 * m + 1) * den = 2 * (den * m) + den := by ring
    rw [heq] at hsplit
    omega
  unfold roundHalfEven
  dsimp only
  split_ifs <;> omega

namespace Binary64

theorem one_eq : ∃ a, one = Nat.pow 2 a := by
  unfold one
  exact ⟨_, rfl⟩

theorem gridWidth_dvd_mul {m : Nat} (hm : m ≤ 2 ^ 53) (j : Nat) :
    gridWidth (m * Nat.pow 2 j) ∣ m * Nat.pow 2 j := by
  rcases Nat.lt_or_eq_of_le hm with hlt | rfl
  · have hbits : (m * 2 ^ j).log2 - 52 ≤ j := by
      rcases Nat.eq_zero_or_pos m with rfl | hpos
      · simp
      · have hlog : (m * 2 ^ j).log2 < 53 + j := by
          rw [Nat.log2_lt (Nat.mul_pos hpos (Nat.two_pow_pos j)).ne', Nat.pow_add]
          exact Nat.mul_lt_mul_of_pos_right hlt (Nat.two_pow_pos j)
        omega
    exact (Nat.pow_dvd_pow 2 hbits).trans (Nat.dvd_mul_left _ _)
  · change gridWidth (2 ^ 53 * 2 ^ j) ∣ 2 ^ 53 * 2 ^ j
    rw [← Nat.pow_add, gridWidth, Nat.log2_two_pow]
    exact Nat.pow_dvd_pow 2 (by omega)

theorem representable_mul {m j width : Nat} (hwidth : width = Nat.pow 2 j) (hm : m ≤ 2 ^ 53)
    (hlimit : m * width < limit) : Representable (m * width) := by
  subst hwidth
  exact ⟨hlimit, Nat.mod_eq_zero_of_dvd (gridWidth_dvd_mul hm j)⟩

theorem scaled_lt_limit : 2 ^ 53 * one < limit := by decide +kernel

theorem ceil_finite {units c : Nat} (h : Representable units) (above : c * one < units + one)
    (below : units ≤ c * one) : (finite false units h).ceil? = some (c : Int) := by
  have hone : (0 : Int) < one := by exact_mod_cast one_pos
  have hfloor : (-(units : Int)) / one = -c := by
    apply le_antisymm
    · rw [← Int.lt_add_one_iff]
      apply Int.ediv_lt_of_lt_mul hone
      have habove : (c : Int) * one < units + one := by exact_mod_cast above
      linarith
    · rw [Int.le_ediv_iff_mul_le hone]
      have hbelow : (units : Int) ≤ c * one := by exact_mod_cast below
      linarith
  change ((some ((-(units : Int)).fdiv one)).map (- ·)) = _
  rw [Int.fdiv_eq_ediv_of_nonneg _ hone.le, hfloor]
  simp

theorem pow_log2_le {units n a unit : Nat} (hunit : unit = Nat.pow 2 a) (hn : 0 < n)
    (above : n * unit ≤ units) (below : units < (n + 1) * unit) : 2 ^ units.log2 ≤ n * unit := by
  subst hunit
  have hpow : 0 < Nat.pow 2 a := Nat.two_pow_pos a
  have hle : Nat.pow 2 a ≤ units := (Nat.le_mul_of_pos_left _ hn).trans above
  have hlog : a ≤ units.log2 := (Nat.le_log2 (by omega)).2 hle
  have hsplit : 2 ^ units.log2 = 2 ^ (units.log2 - a) * Nat.pow 2 a := by
    rw [← Nat.sub_add_cancel hlog, Nat.add_sub_cancel]
    exact Nat.pow_add 2 _ a
  have hlead : 2 ^ (units.log2 - a) * Nat.pow 2 a < (n + 1) * Nat.pow 2 a := by
    rw [← hsplit]
    exact (Nat.log2_self_le (by omega)).trans_lt below
  rw [hsplit]
  exact Nat.mul_le_mul_right _ (Nat.le_of_lt_succ (Nat.lt_of_mul_lt_mul_right hlead))

theorem grid_of_log2 {units : Nat} (h : 52 ≤ units.log2) : 2 ^ 52 * gridWidth units = 2 ^ units.log2 :=
  calc 2 ^ 52 * gridWidth units = 2 ^ (52 + (units.log2 - 52)) := (Nat.pow_add 2 52 _).symm
    _ = 2 ^ units.log2 := by rw [Nat.add_sub_cancel' h]

theorem gridWidth_lt_of_rest {total size : Nat} (hsize : 0 < size) (hword : size < one)
    (htotal : total ≤ 2 ^ 53) (hrest : 0 < total % size) :
    size * gridWidth (total * one / size) < 2 * (total % size * one) := by
  have hsplit := Nat.div_add_mod total size
  have hmod := Nat.mod_lt total hsize
  generalize hn : total / size = n at hsplit
  generalize total % size = rest at hrest hsplit hmod
  generalize hu : total * one / size = u
  have hone : one ≤ rest * one := Nat.le_mul_of_pos_left _ hrest
  rcases Nat.lt_or_ge u.log2 52 with hsmall | hlarge
  · have hw : gridWidth u = 1 := by rw [gridWidth, Nat.sub_eq_zero_of_le hsmall.le]
    rw [hw, Nat.mul_one]
    omega
  · have hgrid := grid_of_log2 hlarge
    rcases Nat.eq_zero_or_pos n with rfl | hpos
    · have hsu : size * u ≤ rest * one := by
        rw [← hu, ← hsplit, Nat.mul_zero, Nat.zero_add]
        exact Nat.mul_div_le _ _
      have hlead : 2 ^ u.log2 ≤ u := Nat.log2_self_le (by rintro rfl; simp at hlarge)
      have hstep : size * (2 ^ 52 * gridWidth u) ≤ rest * one :=
        (Nat.mul_le_mul_left size (hgrid.le.trans hlead)).trans hsu
      rw [Nat.mul_left_comm] at hstep
      omega
    · obtain ⟨a, hpow⟩ := one_eq
      have habove : n * one ≤ u := by
        rw [← hu, Nat.le_div_iff_mul_le hsize, ← hsplit, Nat.mul_right_comm]
        exact Nat.mul_le_mul_right one (by rw [Nat.mul_comm]; omega)
      have hbelow : u < (n + 1) * one := by
        rw [← hu, Nat.div_lt_iff_lt_mul hsize, ← hsplit, Nat.mul_right_comm]
        exact Nat.mul_lt_mul_of_pos_right (by rw [Nat.add_mul, Nat.mul_comm]; omega) one_pos
      have hstep : size * (2 ^ 52 * gridWidth u) ≤ size * (n * one) :=
        Nat.mul_le_mul_left size (hgrid.le.trans (pow_log2_le hpow hpos habove hbelow))
      have hwhole : size * (n * one) + rest * one ≤ 2 ^ 53 * one := by
        rw [← Nat.mul_assoc, ← Nat.add_mul, hsplit]
        exact Nat.mul_le_mul_right one htotal
      rw [Nat.mul_left_comm] at hstep
      omega

theorem gridWidth_pos (units : Nat) : 0 < gridWidth units := Nat.two_pow_pos _

theorem ofUnits_one (negative : Bool) {units : Nat} (h : Representable units) :
    ofUnits negative units 1 = .finite negative units h := by
  have hwidth := gridWidth_pos units
  exact ofUnits_eq h (by rw [Nat.div_one]) (Nat.dvd_of_mod_eq_zero h.2) (by omega) (by omega)

theorem representable_mul_one {n : Nat} (hn : n ≤ 2 ^ 53) : Representable (n * one) := by
  obtain ⟨a, hone⟩ := one_eq
  exact representable_mul hone hn ((Nat.mul_le_mul_right one hn).trans_lt scaled_lt_limit)

theorem ofQuotient_natCast (total size : Nat) : ofQuotient total size = ofUnits false (total * one) size := by
  have hneg (n : Nat) : decide ((n : Int) < 0) = false := decide_eq_false (by omega)
  rw [ofQuotient, ofRatio, hneg, hneg, Int.natAbs_natCast, Int.natAbs_natCast]
  rfl

theorem ceil_of_dvd {size c : Nat} (hsize : 0 < size) (hc : c ≤ 2 ^ 53) :
    (ofUnits false (c * size * one) size).ceil? = some (c : Int) := by
  have hshare : ofUnits false (c * size * one) size = ofUnits false (c * one) 1 := by
    have hcancel := ofUnits_mul_right hsize false (c * one) 1
    rwa [Nat.one_mul, Nat.mul_right_comm] at hcancel
  have hgrid := representable_mul_one hc
  rw [hshare, ofUnits_one false hgrid]
  exact ceil_finite hgrid (by have := one_pos; omega) le_rfl

theorem shares_le {total size : Nat} (hsize : 0 < size) (htotal : total ≤ 2 ^ 53) (hrest : 0 < total % size) :
    total / size + 1 ≤ 2 ^ 53 := by
  have hsplit := Nat.div_add_mod total size
  have hle : total / size ≤ size * (total / size) := Nat.le_mul_of_pos_left _ hsize
  omega

theorem width_dvd_one {total size : Nat} (hsize : 0 < size) (htotal : total ≤ 2 ^ 53)
    (hrest : 0 < total % size) : gridWidth (total * one / size) ∣ one := by
  obtain ⟨a, hpow⟩ := one_eq
  have hlt : total * one / size < 2 ^ 53 * one := by
    rw [Nat.div_lt_iff_lt_mul hsize, Nat.mul_right_comm]
    refine Nat.mul_lt_mul_of_pos_right ?_ one_pos
    have hshares := Nat.mul_le_mul_right size (shares_le hsize htotal hrest)
    have hsplit := Nat.div_add_mod total size
    have hmod := Nat.mod_lt total hsize
    rw [Nat.add_mul, Nat.mul_comm] at hshares
    omega
  rw [hpow] at hlt ⊢
  refine Nat.pow_dvd_pow 2 (Nat.sub_le_of_le_add ?_)
  generalize total * Nat.pow 2 a / size = u at hlt
  rcases Nat.eq_zero_or_pos u with rfl | hu
  · simp
  · have hlog : u.log2 < 53 + a := by
      rw [Nat.log2_lt hu.ne', Nat.pow_add]
      exact hlt
    omega

/-- The rounding of a quotient that is no integer stays past the integer below and does not pass the next
one. -/
theorem rounded_between {total size width : Nat} (hsize : 0 < size) (hword : size < one)
    (htotal : total ≤ 2 ^ 53) (hrest : 0 < total % size)
    (hwidth : gridWidth (total * one / size) = width) :
    total / size * one < roundHalfEven (total * one) (size * width) * width ∧
      roundHalfEven (total * one) (size * width) * width ≤ (total / size + 1) * one := by
  have hnear := gridWidth_lt_of_rest hsize hword htotal hrest
  have hpos := gridWidth_pos (total * one / size)
  obtain ⟨steps, hsteps⟩ := width_dvd_one hsize htotal hrest
  have hsplit := Nat.div_add_mod total size
  have hmod := Nat.mod_lt total hsize
  rw [hwidth] at hnear hpos hsteps
  generalize total / size = n at hsplit ⊢
  generalize total % size = rest at hsplit hmod hnear
  have habove : n * steps < roundHalfEven (total * one) (size * width) := by
    refine lt_roundHalfEven (Nat.mul_pos hsize hpos) ?_
    have hexpand : (2 * (n * steps) + 1) * (size * width) =
      2 * (size * n * (width * steps)) + size * width := by ring
    rw [hexpand, ← hsteps, ← hsplit, Nat.add_mul]
    omega
  have hbelow : roundHalfEven (total * one) (size * width) ≤ (n + 1) * steps := by
    refine roundHalfEven_le ?_
    have hexpand : (n + 1) * steps * (size * width) = (size * n + size) * (width * steps) := by ring
    rw [hexpand, ← hsteps]
    exact Nat.mul_le_mul_right one (by omega)
  have hscale (m : Nat) : m * steps * width = m * one := by rw [Nat.mul_assoc, Nat.mul_comm steps, ← hsteps]
  constructor
  · rw [← hscale n]
    exact Nat.mul_lt_mul_of_pos_right habove hpos
  · rw [← hscale (n + 1)]
    exact Nat.mul_le_mul_right width hbelow

theorem ceil_of_rest {total size : Nat} (hsize : 0 < size) (hword : size < one) (htotal : total ≤ 2 ^ 53)
    (hrest : 0 < total % size) :
    (ofUnits false (total * one) size).ceil? = some ((total / size + 1 : Nat) : Int) := by
  obtain ⟨hlower, hupper⟩ := rounded_between hsize hword htotal hrest rfl
  have hbits : roundHalfEven (total * one) (size * gridWidth (total * one / size)) ≤ 2 ^ 53 := by
    have hlead : total * one / size < 2 ^ 53 * gridWidth (total * one / size) := lt_gridWidth_mul _
    refine roundHalfEven_le ?_
    rw [Nat.mul_comm size, ← Nat.mul_assoc]
    exact ((Nat.div_lt_iff_lt_mul hsize).1 hlead).le
  have hlimit := (Nat.mul_le_mul_right one (shares_le hsize htotal hrest)).trans_lt scaled_lt_limit
  obtain ⟨j, hwidth⟩ : ∃ j, gridWidth (total * one / size) = Nat.pow 2 j := ⟨_, rfl⟩
  have hgrid := representable_mul hwidth hbits (hupper.trans_lt hlimit)
  unfold ofUnits
  dsimp only
  rw [dif_pos hgrid]
  exact ceil_finite hgrid (by rw [Nat.add_mul]; omega) hupper

/-- The number of full and partial shares of a count, by the rounded quotient, is exact. -/
theorem ceil_ofQuotient {total size : Nat} (hsize : 0 < size) (hword : size < one) (htotal : total ≤ 2 ^ 53) :
    (ofQuotient total size).ceil? = some (((total + size - 1) / size : Nat) : Int) := by
  have hsplit := Nat.div_add_mod total size
  have hmod := Nat.mod_lt total hsize
  rw [ofQuotient_natCast]
  rcases Nat.eq_zero_or_pos (total % size) with hzero | hrest
  · have hshares : (total + size - 1) / size = total / size :=
      Nat.div_eq_of_lt_le (by rw [Nat.mul_comm]; omega) (by rw [Nat.add_mul, Nat.mul_comm]; omega)
    rw [hzero, Nat.add_zero, Nat.mul_comm] at hsplit
    rw [hshares, ← ceil_of_dvd hsize ((Nat.div_le_self _ _).trans htotal), hsplit]
  · have hshares : (total + size - 1) / size = total / size + 1 :=
      Nat.div_eq_of_lt_le (by rw [Nat.add_mul, Nat.mul_comm]; omega)
        (by rw [Nat.add_mul, Nat.add_mul, Nat.mul_comm]; omega)
    rw [hshares]
    exact ceil_of_rest hsize hword htotal hrest

end Binary64

end RecordDesk
