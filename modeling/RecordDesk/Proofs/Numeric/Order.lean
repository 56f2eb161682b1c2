import RecordDesk.Proofs.Numeric.Integers
set_option autoImplicit false

namespace RecordDesk

open Std (OrientedCmp)

namespace Number

def side : Number → Int
  | .float (.infinite negative) => if negative then -1 else 1
  | _ => 0

def units : Number → Int
  | .int i => i * Binary64.one
  | .float (.finite negative units _) => Binary64.signedUnits negative units
  | .float _ => 0

theorem compare_scaled {scale : Int} (hscale : 0 < scale) (i j : Int) :
    compare (i * scale) (j * scale) = compare i j := by
  rcases Int.lt_trichotomy i j with h | rfl | h
  · rw [Int.compare_eq_lt.2 h, Int.compare_eq_lt.2 (Int.mul_lt_mul_of_pos_right h hscale)]
  · rw [Int.compare_eq_eq.2 rfl, Int.compare_eq_eq.2 rfl]
  · rw [Int.compare_eq_gt.2 h, Int.compare_eq_gt.2 (Int.mul_lt_mul_of_pos_right h hscale)]

theorem compare?_eq {a b : Number} (ha : a.isNaN = false) (hb : b.isNaN = false) :
    a.compare? b = some ((compare a.side b.side).then (compare a.units b.units)) := by
  have hone : (0 : Int) < Binary64.one := by exact_mod_cast Binary64.one_pos
  cases a with
  | int i =>
    cases b with
    | int j => exact congrArg some (compare_scaled hone i j).symm
    | float y =>
      cases y with
      | nan => cases hb
      | infinite negative => cases negative <;> rfl
      | finite negative u h => rfl
  | float x =>
    cases x with
    | nan => cases ha
    | infinite negative =>
      cases b with
      | int j => cases negative <;> rfl
      | float y =>
        cases y with
        | nan => cases hb
        | infinite negative' => cases negative <;> cases negative' <;> rfl
        | finite negative' u h => cases negative <;> rfl
    | finite negative u h =>
      cases b with
      | int j => exact congrArg some OrientedCmp.eq_swap.symm
      | float y =>
        cases y with
        | nan => cases hb
        | infinite negative' => cases negative' <;> rfl
        | finite negative' v h' => rfl

end Number

theorem roundHalfEven_mono {a b den : Nat} (h : a ≤ b) : roundHalfEven a den ≤ roundHalfEven b den := by
  have hquotient : a / den ≤ b / den := Nat.div_le_div_right h
  have ha := Nat.div_add_mod a den
  have hb := Nat.div_add_mod b den
  -- With one quotient the remainders decide; else the lower number is rounded to the higher quotient at most.
  have hrest : a / den = b / den → a % den ≤ b % den := by
    intro heq
    rw [heq] at ha
    omega
  unfold roundHalfEven
  dsimp only
  rcases hquotient.lt_or_eq with hlt | heq
  · split_ifs <;> omega
  · have hle := hrest heq
    rw [heq]
    split_ifs <;> omega

theorem le_roundHalfEven {num den m : Nat} (hden : 0 < den) (h : m * den ≤ num) :
    m ≤ roundHalfEven num den := by
  have hfloor : m ≤ num / den := (Nat.le_div_iff_mul_le hden).2 h
  unfold roundHalfEven
  dsimp only
  split_ifs <;> omega

namespace Binary64

theorem isNaN_ofUnits (negative : Bool) (num den : Nat) : (ofUnits negative num den).isNaN = false := by
  unfold ofUnits
  dsimp only
  split <;> rfl

theorem isNaN_ofRatio (negative : Bool) (num den : Nat) : (ofRatio negative num den).isNaN = false :=
  isNaN_ofUnits negative (num * one) den

theorem isNaN_ofInt (i : Int) : (ofInt i).isNaN = false := isNaN_ofRatio (decide (i < 0)) i.natAbs 1

theorem compare?_some {x y : Binary64} (hx : x.isNaN = false) (hy : y.isNaN = false) :
    ∃ o, x.compare? y = some o ∧ y.compare? x = some o.swap := by
  have hxy : x.compare? y = _ := Number.compare?_eq (a := .float x) (b := .float y) hx hy
  have hyx : y.compare? x = _ := Number.compare?_eq (a := .float y) (b := .float x) hy hx
  refine ⟨_, hxy, ?_⟩
  rw [hyx, Ordering.swap_then, ← OrientedCmp.eq_swap, ← OrientedCmp.eq_swap]

def nearest (units : Nat) : Nat := roundHalfEven units (gridWidth units) * gridWidth units

theorem gridWidth_dvd_two_pow {units e : Nat} (h : units.log2 ≤ e) : gridWidth units ∣ 2 ^ e :=
  Nat.pow_dvd_pow 2 (by omega)

theorem nearest_le {units e : Nat} (h : units < 2 ^ e) : nearest units ≤ 2 ^ e := by
  have hlog : units.log2 ≤ e := by
    rcases Nat.eq_zero_or_pos units with rfl | hpos
    · simp
    · exact ((Nat.log2_lt hpos.ne').2 h).le
  obtain ⟨m, hm⟩ := gridWidth_dvd_two_pow hlog
  rw [Nat.mul_comm] at hm
  calc nearest units ≤ m * gridWidth units := Nat.mul_le_mul_right _ (roundHalfEven_le (h.le.trans hm.le))
    _ = 2 ^ e := hm.symm

theorem le_nearest {units : Nat} (h : 0 < units) : 2 ^ units.log2 ≤ nearest units := by
  obtain ⟨m, hm⟩ := gridWidth_dvd_two_pow (le_refl units.log2)
  rw [Nat.mul_comm] at hm
  calc 2 ^ units.log2 = m * gridWidth units := hm
    _ ≤ nearest units :=
      Nat.mul_le_mul_right _ (le_roundHalfEven (gridWidth_pos units) (hm.ge.trans (Nat.log2_self_le h.ne')))

/-- Rounding keeps the order of counts: between two binades lies a power of two that neither passes. -/
theorem nearest_mono {u v : Nat} (h : u ≤ v) : nearest u ≤ nearest v := by
  rcases Nat.lt_or_ge u.log2 v.log2 with hlt | hge
  · have hpos : 0 < v := Nat.pos_of_ne_zero (by rintro rfl; exact absurd hlt (by simp))
    exact (nearest_le (lt_two_pow_of_log2 hlt)).trans (le_nearest hpos)
  · have hsame : u.log2 = v.log2 := le_antisymm (by
      rw [Nat.log2_eq_log_two, Nat.log2_eq_log_two]
      exact Nat.log_mono_right h) hge
    unfold nearest gridWidth
    rw [hsame]
    exact Nat.mul_le_mul_right _ (roundHalfEven_mono h)

def nearestTo (i : Int) : Int := signedUnits (decide (i < 0)) (nearest (i.natAbs * one))

theorem nearestTo_mono {i j : Int} (h : i ≤ j) : nearestTo i ≤ nearestTo j := by
  unfold nearestTo signedUnits
  by_cases hi : i < 0 <;> by_cases hj : j < 0
  · have hsize : nearest (j.natAbs * one) ≤ nearest (i.natAbs * one) :=
      nearest_mono (Nat.mul_le_mul_right _ (by omega))
    simp only [hi, hj, decide_true, if_true]
    omega
  · simp only [hi, hj, decide_true, decide_false, if_true, Bool.false_eq_true, if_false]
    omega
  · omega
  · have hsize : nearest (i.natAbs * one) ≤ nearest (j.natAbs * one) :=
      nearest_mono (Nat.mul_le_mul_right _ (by omega))
    simp only [hi, hj, decide_false, Bool.false_eq_true, if_false]
    omega

theorem ofInt_finite {i : Int} (h : i.natAbs < integerLimit) :
    ∃ hgrid, ofInt i = .finite (decide (i < 0)) (nearest (i.natAbs * one)) hgrid := by
  have hfinite := (isFinite_ofInt i).2 h
  rw [ofInt, ofRatio, ofUnits, Nat.div_one, Nat.one_mul] at hfinite ⊢
  split
  · rename_i hgrid
    exact ⟨hgrid, rfl⟩
  · rename_i hoff
    rw [dif_neg hoff] at hfinite
    cases hfinite

theorem lt_integerLimit_of_exact {i : Int} (h : i.natAbs ≤ 2 ^ 53) : i.natAbs < integerLimit := by
  rw [← isFinite_ofInt, ofInt_exact h]
  rfl

end Binary64

theorem Number.intToBinary64_ok {i : Int} (h : i.natAbs < Binary64.integerLimit) :
    Number.intToBinary64 i = .ok (Binary64.ofInt i) := by
  obtain ⟨hgrid, hi⟩ := Binary64.ofInt_finite h
  rw [Number.intToBinary64, hi]
  rfl

namespace Binary64

variable {m n : Int}

theorem compare?_ofInt (hm : m.natAbs < integerLimit) (hn : n.natAbs < integerLimit) :
    (ofInt m).compare? (ofInt n) = some (compare (nearestTo m) (nearestTo n)) := by
  obtain ⟨hu, hm⟩ := ofInt_finite hm
  obtain ⟨hv, hn⟩ := ofInt_finite hn
  rw [hm, hn]
  rfl

/-- Equal integers, or different ones that rounding does not bring together. -/
def KeptApart (m n : Int) : Prop := m ≠ n → (ofInt m).same (ofInt n) = false

theorem compare?_of_keptApart (hm : m.natAbs < integerLimit) (hn : n.natAbs < integerLimit)
    (h : KeptApart m n) : (ofInt m).compare? (ofInt n) = some (compare m n) := by
  have hapart : m ≠ n → nearestTo m ≠ nearestTo n := by
    intro hne heq
    have hsame := h hne
    rw [same, compare?_ofInt hm hn, heq, Int.compare_eq_eq.2 rfl] at hsame
    cases hsame
  rw [compare?_ofInt hm hn, Option.some.injEq]
  rcases Int.lt_trichotomy m n with hlt | rfl | hgt
  · have hnearest := (nearestTo_mono hlt.le).lt_of_ne (hapart hlt.ne)
    rw [Int.compare_eq_lt.2 hnearest, Int.compare_eq_lt.2 hlt]
  · rw [Int.compare_eq_eq.2 rfl, Int.compare_eq_eq.2 rfl]
  · have hnearest := (nearestTo_mono hgt.le).lt_of_ne' (hapart hgt.ne')
    rw [Int.compare_eq_gt.2 hnearest, Int.compare_eq_gt.2 hgt]

theorem keptApart_of_exact (hm : m.natAbs ≤ 2 ^ 53) (hn : n.natAbs ≤ 2 ^ 53) : KeptApart m n := by
  intro hne
  have hone : (0 : Int) < one := by exact_mod_cast one_pos
  rw [ofInt_exact hm, ofInt_exact hn, same, compare?, signedUnits_natAbs, signedUnits_natAbs,
    Number.compare_scaled hone, beq_eq_false_iff_ne, ne_eq, Option.some.injEq, Int.compare_eq_eq]
  exact hne

theorem compare?_ofInt_of_exact {i : Int} {y : Binary64} (h : Number.compareInt? i y = some .eq) :
    (ofInt i).compare? y = some .eq := by
  cases y with
  | nan => cases h
  | infinite negative => cases negative <;> cases h
  | finite negative units hgrid =>
    have hvalue : i * one = signedUnits negative units := Int.compare_eq_eq.1 (Option.some.inj h)
    have hsize : i.natAbs * one = units := by
      have habs := congrArg Int.natAbs hvalue
      rw [Int.natAbs_mul, Int.natAbs_natCast] at habs
      rw [habs]
      cases negative <;> simp [signedUnits]
    subst hsize
    rw [ofInt, ofRatio, ofUnits_one (decide (i < 0)) hgrid, compare?, signedUnits_natAbs]
    exact h

end Binary64

namespace Number

theorem same_float (x y : Binary64) : (float x).same (float y) = x.same y := rfl

theorem isNaN_of_same {m n : Number} (h : m.same n = true) : m.isNaN = false ∧ n.isNaN = false := by
  rcases m with i | _ | x | x <;> rcases n with j | _ | y | y
  all_goals first | exact ⟨rfl, rfl⟩ | cases h

/-- Numbers of one value stand on one side of the finite numbers and have one count of units. -/
theorem same_iff {m n : Number} (hm : m.isNaN = false) (hn : n.isNaN = false) :
    m.same n = true ↔ m.side = n.side ∧ m.units = n.units := by
  rw [same, compare?_eq hm hn, beq_iff_eq, Option.some.injEq, Ordering.then_eq_eq, Int.compare_eq_eq,
    Int.compare_eq_eq]

theorem same_self {n : Number} (h : n.isNaN = false) : n.same n = true := (same_iff h h).2 ⟨rfl, rfl⟩

theorem same_symm {m n : Number} (h : m.same n = true) : n.same m = true := by
  obtain ⟨hm, hn⟩ := isNaN_of_same h
  obtain ⟨hside, hunits⟩ := (same_iff hm hn).1 h
  exact (same_iff hn hm).2 ⟨hside.symm, hunits.symm⟩

theorem same_comm (m n : Number) : m.same n = n.same m := Bool.eq_iff_iff.2 ⟨same_symm, same_symm⟩

theorem same_trans {l m n : Number} (h : l.same m = true) (h' : m.same n = true) : l.same n = true := by
  obtain ⟨hl, hm⟩ := isNaN_of_same h
  obtain ⟨-, hn⟩ := isNaN_of_same h'
  obtain ⟨hside, hunits⟩ := (same_iff hl hm).1 h
  obtain ⟨hside', hunits'⟩ := (same_iff hm hn).1 h'
  exact (same_iff hl hn).2 ⟨hside.trans hside', hunits.trans hunits'⟩

theorem eq_ofInt_of_ok {i : Int} {x : Binary64} (h : intToBinary64 i = .ok x) : x = Binary64.ofInt i := by
  rcases intToBinary64_cases i with ⟨hi, -⟩ | ⟨-, hi⟩
  · exact Except.ok.inj (h.symm.trans (intToBinary64_ok hi))
  · cases h.symm.trans hi

theorem same_ofInt {i : Int} {n : Number} {y : Binary64} (h : (int i).same n = true)
    (hy : n.toBinary64 = .ok y) : (Binary64.ofInt i).same y = true := by
  cases n with
  | int j =>
    obtain rfl : i = j := Int.compare_eq_eq.1 (Option.some.inj (beq_iff_eq.1 h))
    rw [eq_ofInt_of_ok hy, ← same_float]
    exact same_self (Binary64.isNaN_ofInt i)
  | float z =>
    cases hy
    exact beq_iff_eq.2 (Binary64.compare?_ofInt_of_exact (beq_iff_eq.1 h))

theorem same_nearest {m n : Number} {x y : Binary64} (h : m.same n = true) (hx : m.toBinary64 = .ok x)
    (hy : n.toBinary64 = .ok y) : x.same y = true := by
  cases m with
  | int i =>
    rw [eq_ofInt_of_ok hx]
    exact same_ofInt h hy
  | float z =>
    cases hx
    cases n with
    | int j =>
      rw [eq_ofInt_of_ok hy, ← same_float, same_comm, same_float]
      exact same_ofInt (same_symm h) rfl
    | float w =>
      cases hy
      exact h

end Number

end RecordDesk
