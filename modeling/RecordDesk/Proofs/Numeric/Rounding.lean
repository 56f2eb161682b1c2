import Mathlib
import RecordDesk.Numeric.Binary64
set_option autoImplicit false

namespace RecordDesk

theorem roundHalfEven_eq {num den m : Nat} (above : 2 * num < (2 * m + 1) * den)
    (below : 2 * m * den < 2 * num + den) : roundHalfEven num den = m := by
  have hden : 0 < den := by
    rcases Nat.eq_zero_or_pos den with rfl | h
    · simp at above
    · exact h
  have e1 : (2 * m + 1) * den = 2 * (m * den) + den := by ring
  have e2 : 2 * m * den = 2 * (m * den) := by ring
  unfold roundHalfEven
  by_cases hm : m * den ≤ num
  · have hq : num / den = m := Nat.div_eq_of_lt_le hm (by rw [Nat.succ_mul]; omega)
    have hr : num % den = num - m * den := by
      have h := Nat.div_add_mod num den
      rw [hq, Nat.mul_comm] at h
      omega
    have hlt : 2 * (num % den) < den := by omega
    simp [hq, hlt]
  · obtain ⟨k, rfl⟩ : ∃ k, m = k + 1 := Nat.exists_eq_succ_of_ne_zero (by rintro rfl; simp at hm)
    have e3 : (k + 1) * den = k * den + den := Nat.succ_mul k den
    have hq : num / den = k := Nat.div_eq_of_lt_le (by omega) (by rw [Nat.succ_mul]; omega)
    have hr : num % den = num - k * den := by
      have h := Nat.div_add_mod num den
      rw [hq, Nat.mul_comm] at h
      omega
    have hlt : ¬ 2 * (num % den) < den := by omega
    have hgt : den < 2 * (num % den) := by omega
    simp [hq, hlt, hgt]

theorem roundHalfEven_mul_right {k : Nat} (hk : 0 < k) (num den : Nat) :
    roundHalfEven (num * k) (den * k) = roundHalfEven num den := by
  have hlt : ∀ a b : Nat, 2 * (a * k) < b * k ↔ 2 * a < b := by
    intro a b
    rw [← Nat.mul_assoc]
    exact Nat.mul_lt_mul_right hk
  have hgt : ∀ a b : Nat, b * k < 2 * (a * k) ↔ b < 2 * a := by
    intro a b
    rw [← Nat.mul_assoc]
    exact Nat.mul_lt_mul_right hk
  simp only [roundHalfEven, Nat.mul_div_mul_right num den hk, Nat.mul_mod_mul_right, hlt, hgt]

theorem add_le_of_lt_of_dvd {a b g : Nat} (h : a < b) (ha : g ∣ a) (hb : g ∣ b) : a + g ≤ b := by
  obtain ⟨m, rfl⟩ := ha
  obtain ⟨n, rfl⟩ := hb
  have hmn : m < n := Nat.lt_of_mul_lt_mul_left h
  calc g * m + g = g * (m + 1) := (Nat.mul_succ g m).symm
    _ ≤ g * n := Nat.mul_le_mul_left g hmn

theorem twice_lt_of_small_part {distance units den part width : Nat} (hw : units ≤ part * width)
    (h : distance * (2 * part) < units * den) : 2 * distance < width * den := by
  have hle : units * den ≤ part * (width * den) := by
    rw [← Nat.mul_assoc]
    exact Nat.mul_le_mul_right den hw
  by_contra hc
  have hfar := Nat.mul_le_mul_left part (Nat.le_of_not_lt hc)
  have e : part * (2 * distance) = distance * (2 * part) := by ring
  omega

namespace Binary64

theorem ofUnits_mul_right {k : Nat} (hk : 0 < k) (negative : Bool) (num den : Nat) :
    ofUnits negative (num * k) (den * k) = ofUnits negative num den := by
  simp only [ofUnits, Nat.mul_div_mul_right num den hk, Nat.mul_right_comm den k,
    roundHalfEven_mul_right hk]

theorem ofRatio_mul_right {k : Nat} (hk : 0 < k) (negative : Bool) (num den : Nat) :
    ofRatio negative (num * k) (den * k) = ofRatio negative num den := by
  simp only [ofRatio, Nat.mul_right_comm num k, ofUnits_mul_right hk]

theorem gridWidth_dvd {a b : Nat} (h : a.log2 ≤ b.log2) : gridWidth a ∣ gridWidth b :=
  Nat.pow_dvd_pow 2 (Nat.sub_le_sub_right h 52)

theorem lt_gridWidth_mul (units : Nat) : units < Nat.pow 2 53 * gridWidth units := by
  have h := Nat.lt_log2_self (n := units)
  calc units < 2 ^ (units.log2 + 1) := h
    _ ≤ 2 ^ (53 + (units.log2 - 52)) := Nat.pow_le_pow_right (by decide) (by omega)
    _ = _ := Nat.pow_add 2 53 _

theorem ofUnits_eq {negative : Bool} {units num den width : Nat} (h : Representable units)
    (hw : gridWidth (num / den) = width) (hd : width ∣ units)
    (above : 2 * num < 2 * (units * den) + width * den) (below : 2 * (units * den) < 2 * num + width * den) :
    ofUnits negative num den = .finite negative units h := by
  obtain ⟨m, rfl⟩ := hd
  have e1 : (2 * m + 1) * (den * width) = 2 * (width * m * den) + width * den := by ring
  have e2 : 2 * m * (den * width) = 2 * (width * m * den) := by ring
  have hr : roundHalfEven num (den * width) = m := by
    apply roundHalfEven_eq
    · rw [e1]
      exact above
    · rw [e2, Nat.mul_comm den width]
      exact below
  have hu : m * width = width * m := Nat.mul_comm m width
  simp only [ofUnits, hw, hr]
  rw [dif_pos (hu ▸ h)]
  simp only [hu]

/-- A quotient within half a grid step above the units is not in a higher binade. -/
theorem log2_div_le {units num den : Nat} (hgrid : gridWidth units ∣ units)
    (above : 2 * num < 2 * (units * den) + gridWidth units * den) : (num / den).log2 ≤ units.log2 := by
  by_cases hlt : num / den ≤ units
  · rw [Nat.log2_eq_log_two, Nat.log2_eq_log_two]
    exact Nat.log_mono_right hlt
  · have hlast : units + gridWidth units ≤ Nat.pow 2 (units.log2 + 1) :=
      add_le_of_lt_of_dvd Nat.lt_log2_self hgrid (Nat.pow_dvd_pow 2 (by omega))
    have hstep := Nat.mul_le_mul_right den hlast
    rw [Nat.add_mul] at hstep
    have hnum : num < Nat.pow 2 (units.log2 + 1) * den := by omega
    have hq : num / den < 2 ^ (units.log2 + 1) := Nat.div_lt_of_lt_mul (by rw [Nat.mul_comm]; exact hnum)
    exact Nat.le_of_lt_succ ((Nat.log2_lt (by omega)).2 hq)

theorem units_le_of_near {units num den : Nat} (hden : 0 < den) (hdvd : gridWidth (num / den) ∣ units)
    (below : (units * den - num) * (2 * Nat.pow 2 53) < units * den) :
    units ≤ Nat.pow 2 53 * gridWidth (num / den) := by
  by_contra hc
  have hnum : num < Nat.pow 2 53 * gridWidth (num / den) * den :=
    (Nat.lt_mul_of_div_lt (Nat.lt_succ_self _) hden).trans_le
      (Nat.mul_le_mul_right den (lt_gridWidth_mul (num / den)))
  generalize gridWidth (num / den) = width at hc hnum hdvd
  generalize hP : Nat.pow 2 53 = P at hc hnum below
  have hP1 : 1 < P := by subst hP; decide
  have hstep : P * width + width ≤ units :=
    add_le_of_lt_of_dvd (by omega) (Nat.dvd_mul_left _ _) hdvd
  have hfar := Nat.mul_le_mul_right den hstep
  rw [Nat.add_mul] at hfar
  -- The distance exceeds a grid step, and so the units exceed twice the bound.
  have h1 := Nat.mul_le_mul_right (2 * P) (show width * den ≤ units * den - num by omega)
  have e1 : width * den * (2 * P) = 2 * (P * width * den) := by ring
  have h2 := Nat.mul_le_mul_left (units * den - num) (show 2 ≤ 2 * P by omega)
  omega

theorem ofUnits_eq_of_near {negative : Bool} {units num den : Nat} (h : Representable units)
    (above : (num - units * den) * Nat.pow 2 54 < units * den)
    (below : (units * den - num) * Nat.pow 2 54 < units * den) :
    ofUnits negative num den = .finite negative units h := by
  have hden : 0 < den := by
    rcases Nat.eq_zero_or_pos den with rfl | hd
    · simp at above
    · exact hd
  rw [show Nat.pow 2 54 = 2 * Nat.pow 2 53 by decide] at above below
  have hgrid : gridWidth units ∣ units := Nat.dvd_of_mod_eq_zero h.2
  have hown := twice_lt_of_small_part (lt_gridWidth_mul units).le above
  have hlog : (num / den).log2 ≤ units.log2 := log2_div_le hgrid (by omega)
  have hdvd : gridWidth (num / den) ∣ units := (gridWidth_dvd hlog).trans hgrid
  have hbound := units_le_of_near hden hdvd below
  have ha := twice_lt_of_small_part hbound above
  have hb := twice_lt_of_small_part hbound below
  exact ofUnits_eq h rfl hdvd (by omega) (by omega)

end Binary64

end RecordDesk
