import Mathlib
import RecordDesk.Document.Reader
set_option autoImplicit false

namespace RecordDesk

namespace Document

open Quoted (hex unit escape encodeChar encode)

theorem hexValue?_digitChar {n : Nat} (h : n < 16) : hexValue? n.digitChar = some n := by
  decide +revert

theorem hex_four {n : Nat} (h : n < 65536) :
    hex 4 n = [(n / 4096).digitChar, (n / 256 % 16).digitChar, (n / 16 % 16).digitChar,
      (n % 16).digitChar] := by
  rw [hex]
  rw [Nat.toDigits_eq_if (by decide)]
  split
  · have e1 : n / 4096 = 0 := by omega
    have e2 : n / 256 % 16 = 0 := by omega
    have e3 : n / 16 % 16 = 0 := by omega
    have e4 : n % 16 = n := by omega
    simp [e1, e2, e3, e4, List.replicate]
  · rw [Nat.toDigits_eq_if (by decide)]
    split
    · have e1 : n / 4096 = 0 := by omega
      have e2 : n / 256 % 16 = 0 := by omega
      have e3 : n / 16 % 16 = n / 16 := by omega
      simp [e1, e2, e3, List.replicate]
    · rw [Nat.toDigits_eq_if (by decide)]
      have e0 : n / 16 / 16 = n / 256 := by omega
      rw [e0]
      split
      · have e1 : n / 4096 = 0 := by omega
        have e2 : n / 256 % 16 = n / 256 := by omega
        simp [e1, e2]
      · rw [Nat.toDigits_eq_if (by decide), if_pos (by omega)]
        have e1 : n / 256 / 16 = n / 4096 := by omega
        simp [e1]

theorem hexUnit?_hex {n : Nat} (h : n < 65536) :
    ∃ a b c d, hex 4 n = [a, b, c, d] ∧ hexUnit? a b c d = some n := by
  refine ⟨_, _, _, _, hex_four h, ?_⟩
  simp only [hexUnit?, hexValue?_digitChar (show n / 4096 < 16 by omega),
    hexValue?_digitChar (show n / 256 % 16 < 16 by omega),
    hexValue?_digitChar (show n / 16 % 16 < 16 by omega),
    hexValue?_digitChar (show n % 16 < 16 by omega), Option.bind_eq_bind, Option.bind_some, Option.pure_def,
    Option.some.injEq]
  omega

theorem unitEscape?_hex {n : Nat} (h : n < 65536) (x : Char) (rest : List Char) :
    unitEscape? (hex 4 n ++ x :: rest) = some (n, x :: rest) := by
  obtain ⟨a, b, c, d, he, hu⟩ := hexUnit?_hex h
  rw [he]
  simp [unitEscape?, hu]

theorem lowHalf_unit {n : Nat} (h : n < 65536) (hl : isLowHalf n = true) (x : Char) (rest : List Char) :
    lowHalf (unit n ++ x :: rest) = .ok (some n, x :: rest) := by
  obtain ⟨a, b, c, d, he, hu⟩ := hexUnit?_hex h
  simp [lowHalf, unit, he, hu, hl]

/-- A character that stands for itself in a quoted text. -/
def IsPlain (c : Char) : Prop := c ≠ '"' ∧ c ≠ '\\' ∧ 32 ≤ c.toNat

instance (c : Char) : Decidable (IsPlain c) := inferInstanceAs (Decidable (_ ∧ _ ∧ _))

theorem readText_plain (opening : List Char) (fuel : Nat) (done : List Char) {c : Char} (h : IsPlain c)
    (rest : List Char) :
    readText opening (fuel + 1) done (c :: rest) = readText opening fuel (c :: done) rest := by
  obtain ⟨h1, h2, h3⟩ := h
  rw [readText.eq_def]
  simp [Nat.not_lt.2 h3]

theorem readText_unit (opening : List Char) (fuel : Nat) (done : List Char) {n : Nat} (h : n < 65536)
    (hh : isHighHalf n = false) (x : Char) (rest : List Char) :
    readText opening (fuel + 1) done (unit n ++ x :: rest)
      = readText opening fuel (unitChar n :: done) (x :: rest) := by
  rw [readText.eq_def]
  simp [unit, unitEscape?_hex h, hh]

theorem readText_pair (opening : List Char) (fuel : Nat) (done : List Char) {high low : Nat}
    (hh : isHighHalf high = true) (hl : isLowHalf low = true) (x : Char) (rest : List Char) :
    readText opening (fuel + 1) done (unit high ++ unit low ++ x :: rest)
      = readText opening fuel (joinHalves high low :: done) (x :: rest) := by
  have h1 : high < 65536 := by simp [isHighHalf] at hh; omega
  have h2 : low < 65536 := by simp [isLowHalf] at hl; omega
  have hlow := lowHalf_unit h2 hl x rest
  have hunit : unit low ++ x :: rest = '\\' :: ('u' :: hex 4 low ++ x :: rest) := rfl
  rw [hunit] at hlow
  rw [List.append_assoc, hunit, readText.eq_def]
  simp only [unit, List.cons_append, unitEscape?_hex h1, hh, if_true] at hlow ⊢
  rw [hlow]

theorem not_half (c : Char) : isHighHalf c.toNat = false ∧ isLowHalf c.toNat = false := by
  have hv : c.toNat < 0xd800 ∨ (0xdfff < c.toNat ∧ c.toNat < 0x110000) := c.valid
  simp only [isHighHalf, isLowHalf, Bool.and_eq_false_iff, decide_eq_false_iff_not]
  omega

theorem joinHalves_escape {c : Char} (h : 0x10000 ≤ c.toNat) :
    joinHalves (0xd800 + (c.toNat - 0x10000) / 0x400) (0xdc00 + (c.toNat - 0x10000) % 0x400) = c := by
  have hs : 0x10000 + (0xd800 + (c.toNat - 0x10000) / 0x400 - 0xd800) * 0x400
      + (0xdc00 + (c.toNat - 0x10000) % 0x400 - 0xdc00) = c.toNat := by omega
  rw [joinHalves, hs, Char.ofNat_toNat]

theorem readText_escape (opening : List Char) (fuel : Nat) (done : List Char) (c x : Char)
    (rest : List Char) :
    readText opening (fuel + 1) done (escape c ++ x :: rest) =
      readText opening fuel (c :: done) (x :: rest) := by
  have hv : c.toNat < 0x110000 := by
    have := c.valid
    rcases this with h | h
    · exact h.trans (by decide)
    · exact h.2
  obtain ⟨hh, hl⟩ := not_half c
  unfold escape
  dsimp only
  split
  · rename_i hn
    rw [readText_unit opening fuel done hn hh]
    simp [unitChar, hh, hl, Char.ofNat_toNat]
  · rename_i hn
    rw [readText_pair, joinHalves_escape (by omega)]
    · simp only [isHighHalf, Bool.and_eq_true, decide_eq_true_eq]
      omega
    · simp only [isLowHalf, Bool.and_eq_true, decide_eq_true_eq]
      omega

theorem readText_encodeChar (opening : List Char) (fuel : Nat) (done : List Char) (c x : Char)
    (rest : List Char) :
    readText opening (fuel + 1) done (encodeChar c ++ x :: rest) =
      readText opening fuel (c :: done) (x :: rest) := by
  have short : ∀ e : Char, e ≠ 'u' → escapedChar? e = some c →
      readText opening (fuel + 1) done ('\\' :: e :: x :: rest) =
        readText opening fuel (c :: done) (x :: rest) := by
    intro e hu he
    rw [readText.eq_def]
    simp [he]
  have control : ∀ n : Nat, c.toNat = n → c = Char.ofNat n := by
    rintro n rfl
    exact (Char.ofNat_toNat c).symm
  unfold encodeChar
  split_ifs with h1 h2 h3 h4 h5 h6 h7 h8
  · exact short '"' (by decide) (by rw [h1]; rfl)
  · exact short '\\' (by decide) (by rw [h2]; rfl)
  · exact short 'n' (by decide) (by rw [h3]; rfl)
  · exact short 'r' (by decide) (by rw [h4]; rfl)
  · exact short 't' (by decide) (by rw [h5]; rfl)
  · exact short 'b' (by decide) (by rw [control 8 h6]; rfl)
  · exact short 'f' (by decide) (by rw [control 12 h7]; rfl)
  · exact readText_plain opening fuel done ⟨h1, h2, h8.1⟩ (x :: rest)
  · exact readText_escape opening fuel done c x rest

/-- What may stand between quotes for a text: each character escaped or, where it may, as it is. -/
inductive Spells : List Char → List Char → Prop where
  | nil : Spells [] []
  | encoded (c : Char) {w t : List Char} : Spells w t → Spells (encodeChar c ++ w) (c :: t)
  | plain {c : Char} {w t : List Char} : IsPlain c → Spells w t → Spells (c :: w) (c :: t)

theorem encodeChar_ne_nil (c : Char) : encodeChar c ≠ [] := by
  have unit_ne_nil : ∀ n, unit n ≠ [] := fun n => List.cons_ne_nil _ _
  have escape_ne_nil : escape c ≠ [] := by
    rw [escape]
    split
    · exact unit_ne_nil _
    · exact List.append_ne_nil_of_left_ne_nil (unit_ne_nil _) _
  unfold encodeChar
  split_ifs
  all_goals first | exact List.cons_ne_nil _ _ | exact escape_ne_nil

theorem Spells.readText {w t : List Char} (h : Spells w t) (opening : List Char) {fuel : Nat}
    (hf : w.length < fuel) (done rest : List Char) :
    readText opening fuel done (w ++ '"' :: rest) = .ok (String.ofList (done.reverse ++ t), rest) := by
  induction h generalizing fuel done with
  | nil =>
    obtain ⟨k, rfl⟩ := Nat.exists_eq_succ_of_ne_zero (by omega : fuel ≠ 0)
    simp [Document.readText]
  | encoded c h ih =>
    rename_i w t
    have hc := List.length_pos_of_ne_nil (encodeChar_ne_nil c)
    rw [List.length_append] at hf
    obtain ⟨k, rfl⟩ := Nat.exists_eq_succ_of_ne_zero (by omega : fuel ≠ 0)
    obtain ⟨x, more, hx⟩ := List.exists_cons_of_ne_nil (show w ++ '"' :: rest ≠ [] by simp)
    rw [List.append_assoc, hx, readText_encodeChar, ← hx, ih (by omega)]
    simp
  | plain hc h ih =>
    rw [List.length_cons] at hf
    obtain ⟨k, rfl⟩ := Nat.exists_eq_succ_of_ne_zero (by omega : fuel ≠ 0)
    rw [List.cons_append, readText_plain opening k done hc, ih (by omega)]
    simp

theorem Spells.append {w t w' t' : List Char} (h : Spells w t) (h' : Spells w' t') :
    Spells (w ++ w') (t ++ t') := by
  induction h with
  | nil => exact h'
  | encoded c _ ih => rw [List.append_assoc]; exact .encoded c ih
  | plain hc _ ih => exact .plain hc ih

theorem spells_encode (s : List Char) : Spells (encode s) s := by
  induction s with
  | nil => exact .nil
  | cons c s ih => exact .encoded c ih

theorem spells_of_plain {s : List Char} (h : ∀ c ∈ s, IsPlain c) : Spells s s := by
  induction s with
  | nil => exact .nil
  | cons c s ih => exact .plain (h c List.mem_cons_self) (ih fun x hx => h x (List.mem_cons_of_mem c hx))

end Document

end RecordDesk
