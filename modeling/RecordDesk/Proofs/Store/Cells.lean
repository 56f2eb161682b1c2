import RecordDesk.Proofs.Document.Compact
import RecordDesk.Proofs.Document.Equality
import RecordDesk.Proofs.Numeric.Integers
import RecordDesk.Store.Cell
set_option autoImplicit false

/-!
What cells tell apart. A cell has less than the document that it is a view of, so two documents can differ
where their cells match, and collections can be equal where their cells do not match.
-/

namespace RecordDesk

namespace Binary64

theorem half_lt_rounded {units half : Nat} (hlarge : 52 ≤ units.log2) (h : 2 * half ≤ units) :
    half < roundHalfEven units (gridWidth units) * gridWidth units := by
  have hrounded := (grid_of_log2 hlarge).symm.trans_le (grid_le_rounded hlarge)
  have htop : units < 2 ^ (units.log2 + 1) := Nat.lt_log2_self
  rw [Nat.pow_succ'] at htop
  omega

theorem natAbs_signedUnits (negative : Bool) (units : Nat) : (signedUnits negative units).natAbs = units := by
  cases negative <;> simp [signedUnits]

theorem compareInt?_eq {k : Int} {x : Binary64} (h : Number.compareInt? k x = some .eq) :
    ∃ negative units hu, x = finite negative units hu ∧ k.natAbs * one = units := by
  cases x with
  | nan => cases h
  | infinite negative => cases negative <;> cases h
  | finite negative units hu =>
    refine ⟨negative, units, hu, rfl, ?_⟩
    rw [Number.compareInt?, Option.some.injEq, Int.compare_eq_eq] at h
    rw [← natAbs_signedUnits negative units, ← h, Int.natAbs_mul, Int.natAbs_natCast]

theorem ofUnits_one_cases (negative : Bool) (units : Nat) :
    ofUnits negative units 1 = infinite negative ∨
      ∃ h, ofUnits negative units 1 =
        finite negative (roundHalfEven units (gridWidth units) * gridWidth units) h := by
  rw [ofUnits, Nat.div_one, Nat.one_mul]
  split
  · rename_i h
    exact .inr ⟨h, rfl⟩
  · exact .inl rfl

theorem compareInt?_ofInt_ne {i k : Int} (hi : 2 ≤ i.natAbs) (hk : k.natAbs ≤ 1) :
    Number.compareInt? k (ofInt i) ≠ some .eq := by
  have hunits : 2 * one ≤ i.natAbs * one := Nat.mul_le_mul_right one hi
  have hsmall : k.natAbs * one ≤ one := (Nat.mul_le_mul_right one hk).trans_eq (Nat.one_mul one)
  -- Rounding keeps the leading bit, so more than half of what is rounded is left.
  have hlarge : 52 ≤ (i.natAbs * one).log2 := by
    rw [Nat.le_log2 (Nat.mul_ne_zero (by omega) one_pos.ne')]
    calc 2 ^ 52
      _ ≤ one := two_pow_le_one
      _ ≤ 2 * one := Nat.le_mul_of_pos_left one (by decide)
      _ ≤ i.natAbs * one := hunits
  have hpast := half_lt_rounded hlarge hunits
  intro h
  obtain ⟨negative, units, hu, hx, hk⟩ := compareInt?_eq h
  rcases ofUnits_one_cases (decide (i < 0)) (i.natAbs * one) with hinf | ⟨hfin, heq⟩
  · cases hx.symm.trans hinf
  · have hround := (Binary64.finite.inj (hx.symm.trans heq)).2
    rw [← hround, ← hk] at hpast
    exact absurd hpast (not_lt.2 hsmall)

theorem eq_ofInt {i : Int} {x : Binary64} (hi : i ≠ 0) (h : Number.compareInt? i x = some .eq) :
    x = ofInt i := by
  obtain ⟨negative, units, hu, rfl, hunits⟩ := compareInt?_eq h
  have hone : (0 : Int) < one := by exact_mod_cast one_pos
  have hsign : negative = decide (i < 0) := by
    rw [Number.compareInt?, Option.some.injEq, Int.compare_eq_eq] at h
    cases negative with
    | false =>
      have hpos : 0 ≤ i * one := h.symm ▸ Int.natCast_nonneg units
      exact (decide_eq_false (not_lt.2 (nonneg_of_mul_nonneg_left hpos hone))).symm
    | true =>
      have hneg : i * one ≤ 0 := h.symm ▸ Int.neg_nonpos_of_nonneg (Int.natCast_nonneg units)
      exact (decide_eq_true (lt_of_le_of_ne (nonpos_of_mul_nonpos_left hneg hone) hi)).symm
  subst hunits
  rw [hsign, ofInt, ofRatio, ofUnits_one]

end Binary64

namespace Cell

theorem fitsWord_of_small {k : Int} (h : k.natAbs ≤ 1) : fitsWord k = true := by
  unfold fitsWord wordLimit
  simp
  omega

theorem same_ofInt (i : Int) : (Number.float (Binary64.ofInt i)).same (.float (Binary64.ofInt i)) = true := by
  unfold Binary64.ofInt Binary64.ofRatio
  rcases Binary64.ofUnits_one_cases (decide (i < 0)) (i.natAbs * Binary64.one) with hinf | ⟨hfin, heq⟩
  · rw [hinf]
    simp [Number.same, Number.compare?, Binary64.compare?]
  · rw [heq]
    simp [Number.same, Number.compare?, Binary64.compare?]

theorem ofNumber_int {i : Int} (h : fitsWord i = true) : ofNumber (.int i) = .int i := by
    rw [ofNumber, if_pos h]

theorem ofNumber_wide {i : Int} (h : fitsWord i = false) : ofNumber (.int i) = .float (Binary64.ofInt i) := by
  rw [ofNumber, if_neg (by rw [h]; exact Bool.false_ne_true)]

theorem ne_zero_of_wide {i : Int} (h : fitsWord i = false) : 2 ≤ i.natAbs := by
  by_contra hsmall
  rw [fitsWord_of_small (by omega)] at h
  cases h

theorem same_int_float {i : Int} {x : Binary64} :
    (Number.int i).same (.float x) = true ↔ Number.compareInt? i x = some .eq := by
  rw [Number.same, Number.compare?, beq_iff_eq]

theorem same_float_int {i : Int} {x : Binary64} :
    (Number.float x).same (.int i) = true ↔ Number.compareInt? i x = some .eq := by
  rw [Number.same, Number.compare?, beq_iff_eq, Option.map_eq_some_iff]
  constructor
  · rintro ⟨o, ho, hswap⟩
    rw [ho, Ordering.swap_eq_eq.1 hswap]
  · intro h
    exact ⟨.eq, h, rfl⟩

theorem same_ofNumber {a b : Number} (h : a.same b = true) : (ofNumber a).same (ofNumber b) = true := by
  cases a with
  | int i =>
    cases b with
    | int j =>
      have hij : i = j := by simpa [Number.same, Number.compare?] using h
      subst hij
      cases hfits : fitsWord i with
      | true => rwa [ofNumber_int hfits]
      | false => rw [ofNumber_wide hfits, same_ofInt]
    | float y =>
      cases hfits : fitsWord i with
      | true => rwa [ofNumber_int hfits]
      | false =>
        have hwide := ne_zero_of_wide hfits
        rw [ofNumber_wide hfits, Binary64.eq_ofInt (by omega) (same_int_float.1 h)]
        exact same_ofInt i
  | float x =>
    cases b with
    | int j =>
      cases hfits : fitsWord j with
      | true => rwa [ofNumber_int hfits]
      | false =>
        have hwide := ne_zero_of_wide hfits
        rw [ofNumber_wide hfits, Binary64.eq_ofInt (by omega) (same_float_int.1 h)]
        exact same_ofInt j
    | float y => exact h

theorem ofNumber_same_small {n : Number} {k : Int} (hk : k.natAbs ≤ 1) :
    (ofNumber n).same (.int k) = n.same (.int k) := by
  cases n with
  | float x => rfl
  | int i =>
    cases hfits : fitsWord i with
    | true => rw [ofNumber_int hfits]
    | false =>
      have hwide := ne_zero_of_wide hfits
      have hleft : (Number.float (Binary64.ofInt i)).same (.int k) = false :=
        Bool.eq_false_iff.2 fun h => Binary64.compareInt?_ofInt_ne hwide hk (same_float_int.1 h)
      have hright : (Number.int i).same (.int k) = false := by
        have hne : i ≠ k := by omega
        simpa [Number.same, Number.compare?] using hne
      rw [ofNumber_wide hfits, hleft, hright]

theorem same_int_comm (i : Int) (n : Number) : (Number.int i).same n = n.same (.int i) := by
  cases n with
  | int j =>
    have hint (k l : Int) : (Number.int k).same (.int l) = decide (k = l) := by
      rw [Bool.eq_iff_iff]
      simp [Number.same, Number.compare?]
    rw [hint, hint, decide_eq_decide, eq_comm]
  | float x => rw [Bool.eq_iff_iff, same_int_float, same_float_int]

end Cell

namespace Document

def isCollection : Document → Bool
  | .list _ | .object _ => true
  | _ => false

def untilNul (s : String) : String := String.ofList (s.toList.takeWhile fun c => c.toNat != 0)

/-- Different documents whose cells match: a truth value is a one or a zero, an integer that is no word is
rounded, a text ends at a NUL, and a collection is a text. -/
inductive Blurred : Document → Document → Prop
  | truth {b : Bool} {n : Number} (h : n.same (.int (if b then 1 else 0)) = true) :
    Blurred (.boolean b) (.number n)
  | digit {n : Number} {b : Bool} (h : n.same (.int (if b then 1 else 0)) = true) :
    Blurred (.number n) (.boolean b)
  | rounded {m n : Number} (hne : m.same n = false) (h : (Cell.ofNumber m).same (Cell.ofNumber n) = true) :
    Blurred (.number m) (.number n)
  | cut {s t : String} (hne : s ≠ t) (h : untilNul s = untilNul t) : Blurred (.text s) (.text t)
  | spelled {s : String} {d : Document} (hd : d.isCollection = true) (h : untilNul s = d.written .compact) :
    Blurred (.text s) d
  | spelling {d : Document} {s : String} (hd : d.isCollection = true) (h : d.written .compact = untilNul s) :
    Blurred d (.text s)

/-- Equal collections that are not the same: with members in another order, or with a number written in
another way. -/
def Rewritten (d e : Document) : Prop := d.isCollection = true ∧ d.equals e = true ∧ d ≠ e

/-- Documents that the store does not tell apart, or tells apart though they are equal. -/
def Confused (d e : Document) : Prop := Blurred d e ∨ Rewritten d e

end Document

namespace Cell

open Document

variable {x v : Document}

theorem of_collection (h : v.isCollection = true) : Cell.of v = .text (v.written .compact) := by
  cases v with
  | list items => rfl
  | object members => rfl
  | _ => cases h

theorem small_of_truth (b : Bool) : (if b then 1 else 0 : Int).natAbs ≤ 1 := by cases b <;> decide

theorem matches?_of_blurred (h : Blurred x v) : (Cell.of x).matches? (Cell.of v) = true ∧
    x.equals v = false := by
  cases h with
  | @truth b n h =>
    refine ⟨?_, rfl⟩
    change (Number.int (if b then 1 else 0)).same (ofNumber n) = true
    rw [same_int_comm, ofNumber_same_small (small_of_truth b), h]
  | @digit n b h =>
    refine ⟨?_, rfl⟩
    change (ofNumber n).same (.int (if b then 1 else 0)) = true
    rw [ofNumber_same_small (small_of_truth b), h]
  | rounded hne h => exact ⟨h, hne⟩
  | cut hne h => exact ⟨beq_iff_eq.2 h, beq_false_of_ne hne⟩
  | spelled hd h =>
    rw [of_collection hd]
    refine ⟨beq_iff_eq.2 h, ?_⟩
    cases v <;> first | rfl | cases hd
  | spelling hd h =>
    rw [of_collection hd]
    refine ⟨beq_iff_eq.2 h, ?_⟩
    cases x <;> first | rfl | cases hd

theorem collection_of_equals (hx : x.isCollection = true) (h : x.equals v = true) :
    v.isCollection = true := by
  cases x with
  | list items => cases v <;> first | rfl | cases h
  | object members => cases v <;> first | rfl | cases h
  | _ => cases hx

theorem matches?_of_rewritten (hx : x.IsJson) (hv : v.IsJson) (h : Rewritten x v) :
    (Cell.of x).matches? (Cell.of v) = false ∧ x.equals v = true := by
  obtain ⟨hcollection, hequals, hne⟩ := h
  rw [of_collection hcollection, of_collection (collection_of_equals hcollection hequals)]
  exact ⟨beq_false_of_ne fun heq => hne ((written_compact_inj hx hv).1 heq), hequals⟩

theorem equals_of_collections (hx : x.IsJson) (hv : v.IsJson) (hportable : x.isPortable = true)
    (hxc : x.isCollection = true) (hvc : v.isCollection = true)
    (h : (Cell.of x).matches? (Cell.of v) = true) : x.equals v = true := by
  rw [of_collection hxc, of_collection hvc] at h
  obtain rfl := (written_compact_inj hx hv).1 (beq_iff_eq.1 h)
  exact equals_self x hx hportable

theorem equals_or_blurred (hx : x.IsJson) (hv : v.IsJson) (hportable : x.isPortable = true)
    (h : (Cell.of x).matches? (Cell.of v) = true) : x.equals v = true ∨ Blurred x v := by
  cases x with
  | null => cases h
  | boolean b =>
    cases v with
    | boolean c =>
      left
      have hbits : (if b then 1 else 0 : Int) = if c then 1 else 0 := by
        simpa [Cell.of, matches?, Number.same, Number.compare?] using h
      cases b <;> cases c <;> first | rfl | cases hbits
    | number n =>
      right
      refine .truth ?_
      change (Number.int (if b then 1 else 0)).same (ofNumber n) = true at h
      rwa [same_int_comm, ofNumber_same_small (small_of_truth b)] at h
    | _ => cases h
  | number m =>
    cases v with
    | boolean b =>
      right
      refine .digit ?_
      change (ofNumber m).same (.int (if b then 1 else 0)) = true at h
      rwa [ofNumber_same_small (small_of_truth b)] at h
    | number n =>
      cases hsame : m.same n with
      | true => exact .inl hsame
      | false => exact .inr (.rounded hsame h)
    | _ => cases h
  | text s =>
    cases v with
    | text t =>
      by_cases hst : s = t
      · exact .inl (beq_iff_eq.2 hst)
      · exact .inr (.cut hst (beq_iff_eq.1 h))
    | list items => exact .inr (.spelled rfl (beq_iff_eq.1 h))
    | object members => exact .inr (.spelled rfl (beq_iff_eq.1 h))
    | null | boolean b | number n => cases h
    | date t | decimal d | wrapped w => exact hv.elim
  | list items =>
    cases v with
    | text t => exact .inr (.spelling rfl (beq_iff_eq.1 h))
    | list items' => exact .inl (equals_of_collections hx hv hportable rfl rfl h)
    | object members => exact .inl (equals_of_collections hx hv hportable rfl rfl h)
    | null | boolean b | number n => cases h
    | date t | decimal d | wrapped w => exact hv.elim
  | object members =>
    cases v with
    | text t => exact .inr (.spelling rfl (beq_iff_eq.1 h))
    | list items => exact .inl (equals_of_collections hx hv hportable rfl rfl h)
    | object members' => exact .inl (equals_of_collections hx hv hportable rfl rfl h)
    | null | boolean b | number n => cases h
    | date t | decimal d | wrapped w => exact hv.elim
  | date t => exact hx.elim
  | decimal d => exact hx.elim
  | wrapped w => exact hx.elim

theorem matches_or_rewritten (hfull : v ≠ .null) (h : x.equals v = true) :
    (Cell.of x).matches? (Cell.of v) = true ∨ Rewritten x v := by
  cases hcollection : x.isCollection with
  | true =>
    by_cases hsame : x = v
    · subst hsame
      left
      rw [of_collection hcollection]
      exact beq_self_eq_true (x.written .compact)
    · exact .inr ⟨hcollection, h, hsame⟩
  | false =>
    left
    cases x with
    | null => cases v <;> first | exact absurd rfl hfull | cases h
    | boolean b =>
      cases v with
      | boolean c =>
        obtain rfl := beq_iff_eq.1 h
        exact Document.same_self rfl
      | _ => cases h
    | number m =>
      cases v with
      | number n => exact same_ofNumber h
      | _ => cases h
    | text s =>
      cases v with
      | text t =>
        obtain rfl := beq_iff_eq.1 h
        exact beq_self_eq_true (untilNul s)
      | _ => cases h
    | list items => cases hcollection
    | object members => cases hcollection
    | date t => cases v <;> cases h
    | decimal d => cases v <;> cases h
    | wrapped w => cases v <;> cases h

/-- The cells of two documents match if and only if the documents are equal, but for those that are
confused. -/
theorem matches?_of_iff (hx : x.IsJson) (hv : v.IsJson) (hportable : x.isPortable = true)
    (hfull : v ≠ .null) :
    (Cell.of x).matches? (Cell.of v) = true ↔ (x.equals v = true ↔ ¬ Confused x v) := by
  -- Either kind of confusion settles both sides; where there is none, each side gives the other.
  by_cases hblurred : Blurred x v
  · obtain ⟨hmatch, hapart⟩ := matches?_of_blurred hblurred
    simp [hmatch, hapart, Confused, hblurred]
  by_cases hrewritten : Rewritten x v
  · obtain ⟨hapart, hequals⟩ := matches?_of_rewritten hx hv hrewritten
    simp [hapart, hequals, Confused, hrewritten]
  have hclear : ¬ Confused x v := fun h => h.elim hblurred hrewritten
  rw [iff_true_right hclear]
  exact ⟨fun h => (equals_or_blurred hx hv hportable h).resolve_right hblurred,
    fun h => (matches_or_rewritten hfull h).resolve_right hrewritten⟩

end Cell

end RecordDesk
