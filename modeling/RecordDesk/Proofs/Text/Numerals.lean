import RecordDesk.Proofs.Document.NumberReads
import RecordDesk.Proofs.Numeric.Integers
set_option autoImplicit false

namespace RecordDesk

theorem stripWhere_padded {drop : Char → Bool} {before s after : List Char} (hbefore : ∀ c ∈ before, drop c)
    (hafter : ∀ c ∈ after, drop c) (hfirst : ∀ c, s.head? = some c → ¬ drop c)
    (hlast : ∀ c, s.getLast? = some c → ¬ drop c) : stripWhere drop (before ++ s ++ after) = s := by
  have hafter' : ∀ c ∈ after.reverse, drop c := fun c hc => hafter c (List.mem_reverse.1 hc)
  rw [stripWhere, List.append_assoc, List.dropWhile_append_of_pos hbefore]
  cases s with
  | nil => rw [List.nil_append, List.dropWhile_eq_nil_iff.2 hafter]; rfl
  | cons c rest =>
    have hkept : (c :: rest ++ after).dropWhile drop = c :: rest ++ after :=
      List.dropWhile_cons_of_neg (hfirst c rfl)
    have hend : (c :: rest).reverse.dropWhile drop = (c :: rest).reverse := by
      refine List.dropWhile_eq_self_iff.2 fun hl => ?_
      refine hlast _ ?_
      rw [List.getLast?_eq_head?_reverse, List.head?_eq_getElem?, List.getElem?_eq_getElem hl]
    rw [hkept, List.reverse_append, List.dropWhile_append_of_pos hafter', hend, List.reverse_reverse]

theorem stripWhere_of_forall_not {drop : Char → Bool} {s : List Char} (h : ∀ c ∈ s, ¬ drop c) :
    stripWhere drop s = s := by
  simpa using @stripWhere_padded drop [] s [] nofun nofun (fun c hc => h c (List.mem_of_mem_head? hc))
    fun c hc => h c (List.mem_of_getLast? hc)

namespace Binary64

theorem ofUnits_infinite {negative : Bool} {num den : Nat} (h : (ofUnits negative num den).isFinite = false) :
    ofUnits negative num den = .infinite negative := by
  unfold ofUnits at h ⊢
  dsimp only at h ⊢
  split
  · rename_i hgrid
    rw [dif_pos hgrid] at h
    cases h
  · rfl

theorem two_pow_le_ten_pow {k e : Nat} (h : k ≤ 3 * e) : 2 ^ k ≤ Nat.pow 10 e := by
  change 2 ^ k ≤ 10 ^ e
  calc 2 ^ k ≤ 2 ^ (3 * e) := Nat.pow_le_pow_right (by decide) h
    _ = (2 ^ 3) ^ e := pow_mul 2 3 e
    _ ≤ 10 ^ e := Nat.pow_le_pow_left (by decide) e

theorem integerLimit_le {e : Nat} (h : 1024 ≤ 3 * e) : integerLimit ≤ Nat.pow 10 e :=
  (Nat.sub_le _ _).trans (two_pow_le_ten_pow h)

theorem ten_pow_le_of_digits {n k : Nat} (hk : 0 < k) (h : ¬ (Nat.toDigits 10 n).length ≤ k) :
    Nat.pow 10 k ≤ n :=
  Nat.le_of_not_lt fun hlt => h (digitCount_le hk hlt)

theorem ofDecimal_whole (negative : Bool) (n : Nat) : ofDecimal negative n 0 = ofRatio negative n 1 := by
  by_cases hzero : n = 0
  · rw [hzero]
    exact if_pos rfl
  · by_cases hlength : (Nat.toDigits 10 n).length ≤ 400
    · rw [ofDecimal_eq_ofRatio hzero (by omega) (by omega)]
      simp
    · -- With more digits both are past the finite numbers.
      have hlarge : integerLimit ≤ n :=
        (integerLimit_le (by decide)).trans (ten_pow_le_of_digits (by decide) hlength)
      have hbeyond : (ofRatio negative n 1).isFinite = false := by
        rw [← Bool.not_eq_true, ofRatio, isFinite_ofUnits_one, Nat.mul_lt_mul_right one_pos, not_lt]
        exact hlarge
      rw [ofRatio, ofUnits_infinite hbeyond, ofDecimal, if_neg hzero, if_pos (by omega)]

end Binary64

namespace Numeral

open Document (signed)

theorem digits_of_forall_isDigit {ds : List Char} (h : ∀ c ∈ ds, c.isDigit = true) :
    digits digitValue? ds = (ds.map fun c => c.toNat - 48, []) := by
  induction ds with
  | nil => rfl
  | cons c rest ih =>
    obtain ⟨hc, hrest⟩ := List.forall_mem_cons.1 h
    simp [digits, digitValue?, hc, ih hrest]

theorem joined_of_not_mem {value? : DigitClass} {s : List Char} (h : '_' ∉ s) (afterDigit : Bool) :
    joined value? afterDigit s = some s := by
  induction s generalizing afterDigit with
  | nil => rfl
  | cons c rest ih =>
    obtain ⟨hc, hrest⟩ := not_or.1 (mt List.mem_cons.2 h)
    rw [joined]
    · rw [ih hrest]
      rfl
    · exact fun h => hc h.symm

theorem toLower_of_isDigit {c : Char} (h : c.isDigit = true) : c.toLower = c := by
  refine Char.toLower_eq_of_not_isUpper fun hupper => ?_
  have hlow : 'A'.toNat ≤ c.toNat := UInt32.le_iff_toNat_le.1 (of_decide_eq_true hupper).1
  exact absurd (hlow.trans (Char.isDigit_iff_toNat.1 h).2) (by decide)

theorem sign_signed (minus : Bool) {body : List Char} (h : ∀ c ∈ body.head?, c.isDigit = true) :
    sign (signed minus body) = (minus, body) := by
  cases minus with
  | true => rfl
  | false =>
    simp only [signed, Bool.false_eq_true, if_false]
    unfold sign
    split
    · cases h '-' rfl
    · cases h '+' rfl
    · rfl

theorem number?_signed {ds : List Char} (minus : Bool) (hne : ds ≠ []) (h : ∀ c ∈ ds, c.isDigit = true) :
    number? digitValue? (signed minus ds) = some (.ofDecimal minus (Nat.ofDigitChars 10 ds 0) 0) := by
  have hhead : ∀ c ∈ ds.head?, c.isDigit = true := fun c hc => h c (List.mem_of_mem_head? hc)
  have hlower : ds.map Char.toLower = ds :=
    (List.map_congr_left fun c hc => toLower_of_isDigit (h c hc)).trans (List.map_id ds)
  -- No word begins with a digit.
  have hword : ∀ s : String, String.ofList ds = s → ∀ c ∈ s.toList.head?, c.isDigit = true := by
    rintro s rfl
    rwa [String.toList_ofList]
  rw [number?, sign_signed minus hhead]
  dsimp only
  rw [hlower]
  split
  · rename_i hinf
    cases hword _ hinf 'i' rfl
  · rename_i hinfinity
    cases hword _ hinfinity 'i' rfl
  · rename_i hnan
    cases hword _ hnan 'n' rfl
  · rw [decimal?, digits_of_forall_isDigit h]
    simp [hne, exponent?, Document.ofDigits_map]

theorem isDigit_or_minus {i : Int} {c : Char} (h : c ∈ (toString i).toList) : c.isDigit = true ∨ c = '-' := by
  rw [Document.toList_toString_int] at h
  cases hminus : decide (i < 0) with
  | false =>
    rw [hminus] at h
    exact .inl (Document.isDigit_of_mem_toDigits h)
  | true =>
    rw [hminus] at h
    exact (List.mem_cons.1 h).symm.imp_left Document.isDigit_of_mem_toDigits

theorem not_isBlank {i : Int} {c : Char} (h : c ∈ (toString i).toList) : isBlank c = false := by
  rcases isDigit_or_minus h with hdigit | rfl
  · obtain ⟨hlow, hhigh⟩ := Char.isDigit_iff_toNat.1 hdigit
    change 48 ≤ c.toNat at hlow
    change c.toNat ≤ 57 at hhigh
    simp [isBlank, isWhiteSpace]
    omega
  · decide

/-- The text of an integer is read as the number that the integer is converted to. -/
theorem binary64?_toString (i : Int) : binary64? (toString i) = some (.ofInt i) := by
  have hbare : stripWhere isWhiteSpace (toString i).toList = (toString i).toList :=
    stripWhere_of_forall_not fun c hc => by simp [(Bool.or_eq_false_iff.1 (not_isBlank hc)).1]
  have hscore : '_' ∉ (toString i).toList := fun h => by
    rcases isDigit_or_minus h with h | h <;> cases h
  rw [binary64?, hbare, joined_of_not_mem hscore, Option.bind_some, Document.toList_toString_int,
    number?_signed _ Nat.toDigits_ne_nil fun c hc => Document.isDigit_of_mem_toDigits hc,
    Nat.ofDigitChars_ten_toDigits, Binary64.ofDecimal_whole]
  rfl

end Numeral

end RecordDesk
