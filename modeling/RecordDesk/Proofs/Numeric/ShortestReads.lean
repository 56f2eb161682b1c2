import RecordDesk.Numeric.Shortest
import RecordDesk.Proofs.Numeric.Rounding
set_option autoImplicit false

/-!
The digits of a binary64 number read back as the number. Zeros at the end of a coefficient do not count, and
on the grid of seventeen digits the nearer neighbour is close enough to be rounded to the number.
-/

namespace RecordDesk

namespace Binary64

theorem length_toDigits_mul_ten {c : Nat} (h : c ≠ 0) :
    (Nat.toDigits 10 (c * 10)).length = (Nat.toDigits 10 c).length + 1 := by
  have ht := Nat.toDigits_append_toDigits (b := 10) (n := c) (d := 0) (by decide) (by omega) (by decide)
  rw [Nat.add_zero, Nat.mul_comm] at ht
  rw [← ht, List.length_append, Nat.toDigits_zero]
  rfl

theorem ofDecimal_eq_ofRatio {negative : Bool} {c : Nat} {e : Int} (h : c ≠ 0)
    (high : e + (Nat.toDigits 10 c).length ≤ 400) (low : -400 ≤ e + (Nat.toDigits 10 c).length) :
    ofDecimal negative c e = ofRatio negative (c * Nat.pow 10 e.toNat) (Nat.pow 10 (-e).toNat) := by
  have h1 : ¬ 400 < e + ((Nat.toDigits 10 c).length : Int) := by omega
  have h2 : ¬ e + ((Nat.toDigits 10 c).length : Int) < -400 := by omega
  simp only [ofDecimal, h, h1, h2, if_false]
  by_cases he : 0 ≤ e
  · have hz : (-e).toNat = 0 := by omega
    simp only [he, if_true, hz]
  · have hz : e.toNat = 0 := by omega
    simp only [he, if_false, hz]
    exact congrArg (ofRatio negative · _) (Nat.mul_one c).symm

theorem ofDecimal_mul_ten (negative : Bool) (c : Nat) (e : Int) :
    ofDecimal negative (c * 10) (e - 1) = ofDecimal negative c e := by
  by_cases h : c = 0
  · subst h; rfl
  · have hl := length_toDigits_mul_ten h
    have hm : e - 1 + ((Nat.toDigits 10 (c * 10)).length : Int) = e + (Nat.toDigits 10 c).length := by omega
    have h10 : c * 10 ≠ 0 := by omega
    by_cases high : 400 < e + ((Nat.toDigits 10 c).length : Int)
    · simp only [ofDecimal, h, h10, hm, high, if_true, if_false]
    · by_cases low : e + ((Nat.toDigits 10 c).length : Int) < -400
      · simp only [ofDecimal, h, h10, hm, high, low, if_true, if_false]
      · rw [ofDecimal_eq_ofRatio h10 (by omega) (by omega), ofDecimal_eq_ofRatio h (by omega) (by omega)]
        by_cases he : 1 ≤ e
        · obtain ⟨n, rfl⟩ : ∃ n : Nat, e = n + 1 := ⟨(e - 1).toNat, by omega⟩
          have h1 : ((n : Int) + 1 - 1).toNat = n := by omega
          have h2 : ((n : Int) + 1).toNat = n + 1 := by omega
          have h3 : (-((n : Int) + 1 - 1)).toNat = (-((n : Int) + 1)).toNat := by omega
          rw [h1, h2, h3, Nat.mul_assoc, Nat.mul_comm 10]
          rfl
        · have h1 : (e - 1).toNat = e.toNat := by omega
          have h2 : (-(e - 1)).toNat = (-e).toNat + 1 := by omega
          rw [h1, h2, Nat.mul_right_comm]
          exact ofRatio_mul_right (by decide) _ _ _

theorem ofDecimal_mul_pow_ten (negative : Bool) (c k : Nat) (e : Int) :
    ofDecimal negative (c * 10 ^ k) (e - k) = ofDecimal negative c e := by
  induction k with
  | zero => simp
  | succ k ih =>
    rw [← ih, ← ofDecimal_mul_ten negative (c * 10 ^ k) (e - k), Nat.pow_succ, Nat.mul_assoc]
    congr 1
    omega

theorem ofDecimal_dropZeros (negative : Bool) (fuel : Nat) (d : Decimal) :
    ofDecimal negative (d.dropZeros fuel).coefficient (d.dropZeros fuel).exponent
      = ofDecimal negative d.coefficient d.exponent := by
  induction fuel generalizing d with
  | zero => rfl
  | succ fuel ih =>
    unfold Decimal.dropZeros
    split
    · rename_i h
      rw [ih, ← ofDecimal_mul_ten]
      congr 1
      · show d.coefficient / 10 * 10 = _
        omega
      · show d.exponent + 1 - 1 = _
        omega
    · rfl

theorem ofDecimal_finite {c : Nat} {e : Int} {units : Nat} {h : Representable units}
    (hr : ofDecimal false c e = .finite false units h) (negative : Bool) :
    ofDecimal negative c e = .finite negative units h := by
  have sign : ∀ num den, ofRatio false num den = .finite false units h →
      ofRatio negative num den = .finite negative units h := by
    intro num den hf
    simp only [ofRatio, ofUnits] at hf ⊢
    split at hf
    · rename_i hg
      rw [dif_pos hg]
      simpa using hf
    · simp at hf
  unfold ofDecimal at hr ⊢
  dsimp only at hr ⊢
  split_ifs at hr ⊢
  all_goals exact sign _ _ hr

end Binary64

/-! Seventeen digits are enough. -/

theorem lt_pow_digitCount (n : Nat) : n < Nat.pow 10 (digitCount n) :=
  (Nat.length_toDigits_le_iff (by decide) Nat.length_toDigits_pos).1 (Nat.le_refl _)

theorem pow_digitCount_le {n : Nat} (h : 0 < n) : Nat.pow 10 (digitCount n - 1) ≤ n := by
  by_contra hc
  by_cases h1 : digitCount n - 1 = 0
  · rw [h1] at hc
    exact hc h
  · have hle := (Nat.length_toDigits_le_iff (by decide) (Nat.pos_of_ne_zero h1)).2 (Nat.lt_of_not_le hc)
    change digitCount n ≤ digitCount n - 1 at hle
    omega

theorem digitCount_le {n k : Nat} (hk : 0 < k) (h : n < Nat.pow 10 k) : digitCount n ≤ k :=
  (Nat.length_toDigits_le_iff (by decide) hk).2 h

theorem digitCount_pos (n : Nat) : 0 < digitCount n := Nat.length_toDigits_pos

namespace Decimal

/-- Grids with steps so small and that large against the quotient have coefficients of so many digits. -/
def OnScale (num den digits : Nat) (exponent : Int) : Prop :=
  Nat.pow 10 digits * (den * Nat.pow 10 exponent.toNat) ≤ num * Nat.pow 10 (-exponent).toNat ∧
    num * Nat.pow 10 (-exponent).toNat < Nat.pow 10 (digits + 1) * (den * Nat.pow 10 exponent.toNat)

theorem pow_ten_pos (n : Nat) : 0 < Nat.pow 10 n := Nat.pow_pos (by decide)

theorem onScale_of_large {num den places digits : Nat} (lower : Nat.pow 10 places * den ≤ num)
    (upper : num < Nat.pow 10 (places + 1) * den) : OnScale num den digits ((places : Int) - digits) := by
  unfold OnScale
  by_cases hle : digits ≤ places
  · obtain ⟨j, rfl⟩ := Nat.exists_eq_add_of_le hle
    have h1 : (((digits + j : Nat) : Int) - digits).toNat = j := by omega
    have h2 : (-(((digits + j : Nat) : Int) - digits)).toNat = 0 := by omega
    have e1 : Nat.pow 10 (digits + j) = Nat.pow 10 digits * Nat.pow 10 j := Nat.pow_add 10 digits j
    have e2 : Nat.pow 10 (digits + j + 1) = Nat.pow 10 (digits + 1) * Nat.pow 10 j := by
      rw [Nat.add_right_comm]
      exact Nat.pow_add 10 (digits + 1) j
    rw [e1] at lower
    rw [e2] at upper
    rw [h1, h2, show Nat.pow 10 0 = 1 from rfl, Nat.mul_one]
    constructor
    · calc Nat.pow 10 digits * (den * Nat.pow 10 j) = Nat.pow 10 digits * Nat.pow 10 j * den := by ring
        _ ≤ num := lower
    · calc num < Nat.pow 10 (digits + 1) * Nat.pow 10 j * den := upper
        _ = Nat.pow 10 (digits + 1) * (den * Nat.pow 10 j) := by ring
  · obtain ⟨j, rfl⟩ := Nat.exists_eq_add_of_lt (Nat.lt_of_not_le hle)
    have h1 : ((places : Int) - (places + j + 1 : Nat)).toNat = 0 := by omega
    have h2 : (-((places : Int) - (places + j + 1 : Nat))).toNat = j + 1 := by omega
    have e1 : Nat.pow 10 (places + j + 1) = Nat.pow 10 places * Nat.pow 10 (j + 1) :=
      Nat.pow_add 10 places (j + 1)
    have e2 : Nat.pow 10 (places + j + 1 + 1) = Nat.pow 10 (places + 1) * Nat.pow 10 (j + 1) := by
      rw [show places + j + 1 + 1 = places + 1 + (j + 1) by omega]
      exact Nat.pow_add 10 (places + 1) (j + 1)
    rw [h1, h2, e1, e2, show Nat.pow 10 0 = 1 from rfl, Nat.mul_one]
    constructor
    · calc
        Nat.pow 10 places * Nat.pow 10 (j + 1) * den = Nat.pow 10 places * den * Nat.pow 10 (j + 1) := by ring
        _ ≤ num * Nat.pow 10 (j + 1) := Nat.mul_le_mul_right _ lower
    · calc num * Nat.pow 10 (j + 1) < Nat.pow 10 (places + 1) * den * Nat.pow 10 (j + 1) :=
            (Nat.mul_lt_mul_right (pow_ten_pos (j + 1))).2 upper
        _ = Nat.pow 10 (places + 1) * Nat.pow 10 (j + 1) * den := by ring

theorem onScale_of_small {num den places digits : Nat} (lower : den ≤ Nat.pow 10 (places + 1) * num)
    (upper : Nat.pow 10 places * num < den) :
    OnScale num den digits (-((digits + (places + 1) : Nat) : Int)) := by
  unfold OnScale
  have h1 : (-((digits + (places + 1) : Nat) : Int)).toNat = 0 := by omega
  have h2 : (-(-((digits + (places + 1) : Nat) : Int))).toNat = digits + (places + 1) := by omega
  have e1 : Nat.pow 10 (digits + (places + 1)) = Nat.pow 10 digits * Nat.pow 10 (places + 1) :=
    Nat.pow_add 10 digits (places + 1)
  have e2 : Nat.pow 10 (digits + (places + 1)) = Nat.pow 10 (digits + 1) * Nat.pow 10 places := by
    rw [show digits + (places + 1) = digits + 1 + places by omega]
    exact Nat.pow_add 10 (digits + 1) places
  rw [h1, h2, show Nat.pow 10 0 = 1 from rfl, Nat.mul_one]
  constructor
  · rw [e1]
    calc Nat.pow 10 digits * den ≤ Nat.pow 10 digits * (Nat.pow 10 (places + 1) * num) :=
          Nat.mul_le_mul_left _ lower
      _ = num * (Nat.pow 10 digits * Nat.pow 10 (places + 1)) := by ring
  · rw [e2]
    calc
      num * (Nat.pow 10 (digits + 1) * Nat.pow 10 places) =
        Nat.pow 10 (digits + 1) * (Nat.pow 10 places * num) := by
          ring
      _ < Nat.pow 10 (digits + 1) * den := (Nat.mul_lt_mul_left (pow_ten_pos (digits + 1))).2 upper

theorem onScale_point {num den : Nat} (hn : 0 < num) (hd : 0 < den) (digits : Nat) :
    OnScale num den digits (point num den - (digits + 1 : Nat)) := by
  by_cases hle : den ≤ num
  · have hp : point num den = digitCount (num / den) := if_pos hle
    obtain ⟨k, hk⟩ := Nat.exists_eq_succ_of_ne_zero (Nat.pos_iff_ne_zero.1 (digitCount_pos (num / den)))
    have lower := pow_digitCount_le (Nat.div_pos hle hd)
    have upper := lt_pow_digitCount (num / den)
    rw [hk] at lower upper
    have he : point num den - (digits + 1 : Nat) = (k : Int) - digits := by rw [hp, hk]; omega
    rw [he]
    exact onScale_of_large ((Nat.le_div_iff_mul_le hd).1 lower) ((Nat.div_lt_iff_lt_mul hd).1 upper)
  · have hp : point num den = 1 - (digitCount ((den - 1) / num) : Int) := if_neg hle
    obtain ⟨k, hk⟩ := Nat.exists_eq_succ_of_ne_zero (Nat.pos_iff_ne_zero.1 (digitCount_pos ((den - 1) / num)))
    have upper := pow_digitCount_le (Nat.div_pos (show num ≤ den - 1 by omega) hn)
    have lower := lt_pow_digitCount ((den - 1) / num)
    rw [hk] at lower upper
    have hu := (Nat.le_div_iff_mul_le hn).1 upper
    have hl := (Nat.div_lt_iff_lt_mul hn).1 lower
    simp only [Nat.succ_sub_one] at hu
    simp only [Nat.succ_eq_add_one] at hl
    have he : point num den - (digits + 1 : Nat) = -((digits + (k + 1) : Nat) : Int) := by rw [hp, hk]; omega
    rw [he]
    exact onScale_of_small (by omega) (by omega)

end Decimal

namespace Binary64

theorem neighbours_head (num den : Nat) (e : Int) (hb : 0 < den * Nat.pow 10 e.toNat) :
    ∃ c rest, Decimal.neighbours num den e = ⟨c, e⟩ :: rest ∧
      2 * (c * (den * Nat.pow 10 e.toNat) - num * Nat.pow 10 (-e).toNat) ≤ den * Nat.pow 10 e.toNat ∧
      2 * (num * Nat.pow 10 (-e).toNat - c * (den * Nat.pow 10 e.toNat)) ≤ den * Nat.pow 10 e.toNat := by
  unfold Decimal.neighbours
  generalize num * Nat.pow 10 (-e).toNat = top
  generalize hB : den * Nat.pow 10 e.toNat = bottom at hb
  have hdiv := Nat.div_add_mod top bottom
  have hmod := Nat.mod_lt top hb
  have e1 : top / bottom * bottom = bottom * (top / bottom) := Nat.mul_comm _ _
  have e2 : (top / bottom + 1) * bottom = bottom * (top / bottom) + bottom := by ring
  dsimp only
  split
  · exact ⟨top / bottom, _, rfl, by omega, by omega⟩
  · exact ⟨top / bottom + 1, _, rfl, by omega, by omega⟩

theorem one_pos : 0 < one := by decide +kernel

theorem one_lt : one < Nat.pow 10 324 := by decide +kernel

theorem limit_lt : limit < Nat.pow 10 309 * one := by decide +kernel

theorem point_le {units : Nat} (h : units < limit) : Decimal.point units one ≤ 309 := by
  unfold Decimal.point
  split
  · have hq : units / one < Nat.pow 10 309 :=
      (Nat.div_lt_iff_lt_mul one_pos).2 (h.trans limit_lt)
    have := digitCount_le (by decide) hq
    omega
  · omega

theorem le_point (units : Nat) : -323 ≤ Decimal.point units one := by
  unfold Decimal.point
  split
  · omega
  · have hq : (one - 1) / units < Nat.pow 10 324 :=
      ((Nat.div_le_self _ _).trans (Nat.sub_le _ _)).trans_lt one_lt
    have := digitCount_le (by decide) hq
    omega

/-- A coefficient of seventeen digits reads back if it is at most half a step away. -/
theorem ofDecimal_of_half_step {units c : Nat} {e : Int} (h : Representable units)
    (scale : Decimal.OnScale units one 16 e) (high : e ≤ 292) (low : -340 ≤ e)
    (above : 2 * (c * (one * Nat.pow 10 e.toNat) - units * Nat.pow 10 (-e).toNat) ≤ one * Nat.pow 10 e.toNat)
    (below : 2 * (units * Nat.pow 10 (-e).toNat - c * (one * Nat.pow 10 e.toNat)) ≤
      one * Nat.pow 10 e.toNat) : ofDecimal false c e = .finite false units h := by
  -- A step of the grid is at most one part in 10 ^ 16, which is less than one in 2 ^ 53.
  obtain ⟨lower, upper⟩ := scale
  have hbottom : 0 < one * Nat.pow 10 e.toNat := Nat.mul_pos one_pos (Nat.pow_pos (by decide))
  have hnum : c * Nat.pow 10 e.toNat * one = c * (one * Nat.pow 10 e.toNat) := by ring
  rw [show Nat.pow 10 16 = 10000000000000000 by decide] at lower
  rw [show Nat.pow 10 (16 + 1) = 100000000000000000 by decide] at upper
  have hpos : 0 < c := by
    rcases Nat.eq_zero_or_pos c with rfl | h0
    · simp only [Nat.zero_mul, Nat.sub_zero] at below
      omega
    · exact h0
  have hlt : c < Nat.pow 10 18 := by
    by_contra hc
    have h1 := Nat.mul_le_mul_right (one * Nat.pow 10 e.toNat) (Nat.le_of_not_lt hc)
    rw [show Nat.pow 10 18 = 1000000000000000000 by decide] at h1
    omega
  have hlen : (Nat.toDigits 10 c).length ≤ 18 := digitCount_le (by decide) hlt
  have hlen0 : 0 < (Nat.toDigits 10 c).length := digitCount_pos c
  rw [ofDecimal_eq_ofRatio (by omega) (by omega) (by omega), ofRatio, hnum]
  apply ofUnits_eq_of_near h
  · rw [show Nat.pow 2 54 = 18014398509481984 by decide]
    omega
  · rw [show Nat.pow 2 54 = 18014398509481984 by decide]
    omega

theorem neighbour_reads {units : Nat} (h : Representable units) (hu : 0 < units) :
    ∃ d ∈ Decimal.neighbours units one (Decimal.point units one - (16 + 1 : Nat)),
      ofDecimal false d.coefficient d.exponent = .finite false units h := by
  have scale := Decimal.onScale_point hu one_pos 16
  have high := point_le h.1
  have low := le_point units
  generalize hE : Decimal.point units one - (16 + 1 : Nat) = e at scale
  have hbottom : 0 < one * Nat.pow 10 e.toNat := Nat.mul_pos one_pos (Nat.pow_pos (by decide))
  obtain ⟨c, rest, hc, above, below⟩ := neighbours_head units one e hbottom
  have hreads := ofDecimal_of_half_step h scale (by omega) (by omega) above below
  exact ⟨⟨c, e⟩, by rw [hc]; exact List.mem_cons_self, hreads⟩

theorem ofRatio_zero (h : Representable 0) (negative : Bool) :
    ofRatio negative 0 1 = .finite negative 0 h := by
  rw [ofRatio, Nat.zero_mul]
  exact ofUnits_eq h rfl (Nat.dvd_zero 1) (by decide) (by decide)

/-- The digits of a number read back as the number. -/
theorem ofDecimal_shortest (negative : Bool) {units : Nat} (h : Representable units) :
    ofDecimal negative (shortest (.finite negative units h)).coefficient
      (shortest (.finite negative units h)).exponent = .finite negative units h := by
  by_cases hu : units = 0
  · subst hu
    simp only [shortest, if_true]
    rw [ofDecimal, if_pos rfl]
    exact ofRatio_zero h negative
  · obtain ⟨d, hd, hreads⟩ := neighbour_reads h (Nat.pos_of_ne_zero hu)
    simp only [shortest, hu, if_false]
    rw [ofDecimal_dropZeros]
    apply ofDecimal_finite
    generalize hhit : List.findSome? _ _ = hit
    cases hit with
    | none =>
      rw [List.findSome?_eq_none_iff] at hhit
      have hnone := hhit (Decimal.point units one - (16 + 1 : Nat))
        (List.mem_map.2 ⟨16, by decide, rfl⟩)
      have := List.find?_eq_none.1 hnone d hd
      simp [hreads] at this
    | some d' =>
      obtain ⟨e, -, he⟩ := List.exists_of_findSome?_eq_some hhit
      simpa using List.find?_some he

theorem shortest_exponent (negative : Bool) {units : Nat} (h : Representable units)
    (hz : (shortest (.finite negative units h)).coefficient = 0) :
    (shortest (.finite negative units h)).exponent = 0 := by
  have h0 : Representable 0 := ⟨by decide +kernel, Nat.zero_mod _⟩
  have hreads := ofDecimal_shortest negative h
  rw [hz, ofDecimal, if_pos rfl, ofRatio_zero h0] at hreads
  obtain ⟨-, hu⟩ := Binary64.finite.inj hreads
  subst hu
  simp [shortest]

end Binary64

end RecordDesk
