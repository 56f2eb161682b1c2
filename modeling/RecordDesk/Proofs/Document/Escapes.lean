import RecordDesk.Proofs.Document.Load
set_option autoImplicit false

/-!
What a written text stands for. A backslash starts an escape and everything else stands for itself, so a
text with an escape is longer than what it stands for. What is written down holds printable characters only.
-/

namespace RecordDesk

namespace Document

open Quoted (unit escape encodeChar encode)

def lowEscape? : List Char → Option (Nat × List Char)
  | '\\' :: 'u' :: a :: b :: c :: d :: rest => match hexUnit? a b c d with
    | some n => if isLowHalf n then some (n, rest) else none
    | none => none
  | _ => none

def escapeAt? : List Char → Option (Char × List Char)
  | 'u' :: a :: b :: c :: d :: rest => match hexUnit? a b c d with
    | some n =>
      if isHighHalf n then match lowEscape? rest with
        | some (low, after) => some (joinHalves n low, after)
        | none => some (unitChar n, rest)
      else some (unitChar n, rest)
    | none => none
  | c :: rest => (escapedChar? c).map (·, rest)
  | [] => none

def unescapeWithin : Nat → List Char → Option (List Char)
  | _, [] => some []
  | 0, _ :: _ => none
  | fuel + 1, c :: s =>
    if c = '\\' then match escapeAt? s with
      | some (x, rest) => (unescapeWithin fuel rest).map (x :: ·)
      | none => none
    else (unescapeWithin fuel s).map (c :: ·)

/-- What a text stands for, if every backslash in it starts an escape. -/
def unescape (s : List Char) : Option (List Char) := unescapeWithin s.length s

/-! Writing down and back. -/

theorem escapeAt?_unit {n : Nat} (h : n < 65536) (hh : isHighHalf n = false) (w : List Char) :
    escapeAt? ('u' :: Quoted.hex 4 n ++ w) = some (unitChar n, w) := by
  obtain ⟨a, b, c, d, he, hu⟩ := hexUnit?_hex h
  simp [he, escapeAt?, hu, hh]

theorem escapeAt?_pair {high low : Nat} (hh : isHighHalf high = true) (hl : isLowHalf low = true)
    (w : List Char) :
    escapeAt? ('u' :: Quoted.hex 4 high ++ (unit low ++ w)) = some (joinHalves high low, w) := by
  have h1 : high < 65536 := by simp [isHighHalf] at hh; omega
  have h2 : low < 65536 := by simp [isLowHalf] at hl; omega
  obtain ⟨a, b, c, d, he, hu⟩ := hexUnit?_hex h1
  obtain ⟨a', b', c', d', he', hu'⟩ := hexUnit?_hex h2
  simp [he, he', unit, escapeAt?, lowEscape?, hu, hu', hh, hl]

theorem unescapeWithin_escape (fuel : Nat) (c : Char) (w : List Char) :
    unescapeWithin (fuel + 1) (escape c ++ w) = (unescapeWithin fuel w).map (c :: ·) := by
  have hv := toNat_lt c
  obtain ⟨hh, hl⟩ := not_half c
  unfold escape
  dsimp only
  split
  · rename_i hn
    have hchar : unitChar c.toNat = c := by simp [unitChar, hh, hl, Char.ofNat_toNat]
    rw [unit, List.cons_append, unescapeWithin, if_pos rfl, escapeAt?_unit hn hh, hchar]
  · rename_i hn
    have hhigh : isHighHalf (0xd800 + (c.toNat - 0x10000) / 0x400) = true := by
      simp only [isHighHalf, Bool.and_eq_true, decide_eq_true_eq]
      omega
    have hlow : isLowHalf (0xdc00 + (c.toNat - 0x10000) % 0x400) = true := by
      simp only [isLowHalf, Bool.and_eq_true, decide_eq_true_eq]
      omega
    rw [List.append_assoc, unit, List.cons_append, unescapeWithin, if_pos rfl, escapeAt?_pair hhigh hlow,
      joinHalves_escape (by omega)]

theorem unescapeWithin_encodeChar (fuel : Nat) (c : Char) (w : List Char) :
    unescapeWithin (fuel + 1) (encodeChar c ++ w) = (unescapeWithin fuel w).map (c :: ·) := by
  have short (e : Char) (hu : e ≠ 'u') (he : escapedChar? e = some c) :
      unescapeWithin (fuel + 1) ('\\' :: e :: w) = (unescapeWithin fuel w).map (c :: ·) := by
    have hat : escapeAt? (e :: w) = some (c, w) := by
      rw [escapeAt?, he]
      · rfl
      · rintro _ _ _ _ _ rfl
        exact absurd rfl hu
    rw [unescapeWithin, if_pos rfl, hat]
  have control (n : Nat) (hn : c.toNat = n) : c = Char.ofNat n := by rw [← hn, Char.ofNat_toNat]
  unfold encodeChar
  split_ifs with h1 h2 h3 h4 h5 h6 h7 h8
  · exact short '"' (by decide) (by rw [h1]; rfl)
  · exact short '\\' (by decide) (by rw [h2]; rfl)
  · exact short 'n' (by decide) (by rw [h3]; rfl)
  · exact short 'r' (by decide) (by rw [h4]; rfl)
  · exact short 't' (by decide) (by rw [h5]; rfl)
  · exact short 'b' (by decide) (by rw [control 8 h6]; rfl)
  · exact short 'f' (by decide) (by rw [control 12 h7]; rfl)
  · rw [List.singleton_append, unescapeWithin, if_neg h2]
  · exact unescapeWithin_escape fuel c w

theorem unescape_encode (s : List Char) : unescape (encode s) = some s := by
  have hall : ∀ fuel, (encode s).length ≤ fuel → unescapeWithin fuel (encode s) = some s := by
    induction s with
    | nil => exact fun fuel _ => by rw [encode, List.flatMap_nil, unescapeWithin]
    | cons c s ih =>
      intro fuel hf
      have hc := List.length_pos_of_ne_nil (encodeChar_ne_nil c)
      rw [encode, List.flatMap_cons, List.length_append] at hf
      rw [encode] at ih ⊢
      obtain ⟨fuel, rfl⟩ := Nat.exists_eq_succ_of_ne_zero (by omega : fuel ≠ 0)
      rw [List.flatMap_cons, unescapeWithin_encodeChar, ih fuel (by omega)]
      rfl
  exact hall _ (Nat.le_refl _)

theorem unescape_bare {s : List Char} (h : '\\' ∉ s) : unescape s = some s := by
  unfold unescape
  induction s with
  | nil => rfl
  | cons c s ih =>
    rw [List.mem_cons, not_or] at h
    rw [List.length_cons, unescapeWithin, if_neg (Ne.symm h.1), ih h.2]
    rfl

/-! A text with an escape is longer than what it stands for. -/

theorem length_lowEscape? {s rest : List Char} {n : Nat} (h : lowEscape? s = some (n, rest)) :
    rest.length < s.length := by
  unfold lowEscape? at h
  split at h
  · split at h
    · split at h
      · cases h
        simp only [List.length_cons]
        omega
      · cases h
    · cases h
  · cases h

theorem length_escapeAt? {s rest : List Char} {x : Char} (h : escapeAt? s = some (x, rest)) :
    rest.length < s.length := by
  unfold escapeAt? at h
  split at h
  · split at h
    · split at h
      · split at h
        · rename_i hlow
          have hrest := length_lowEscape? hlow
          obtain ⟨-, rfl⟩ := Prod.mk.inj (Option.some.inj h)
          simp only [List.length_cons]
          omega
        · obtain ⟨-, rfl⟩ := Prod.mk.inj (Option.some.inj h)
          simp only [List.length_cons]
          omega
      · obtain ⟨-, rfl⟩ := Prod.mk.inj (Option.some.inj h)
        simp only [List.length_cons]
        omega
    · cases h
  · obtain ⟨y, -, hy⟩ := Option.map_eq_some_iff.1 h
    cases hy
    simp
  · cases h

theorem length_unescapeWithin {fuel : Nat} {s t : List Char} (h : unescapeWithin fuel s = some t) :
    t.length ≤ s.length ∧ ('\\' ∈ s → t.length < s.length) := by
  induction fuel generalizing s t with
  | zero =>
    cases s with
    | nil =>
      cases h
      exact ⟨Nat.le_refl 0, fun hmem => (List.not_mem_nil hmem).elim⟩
    | cons c s => cases h
  | succ fuel ih =>
    cases s with
    | nil =>
      cases h
      exact ⟨Nat.le_refl 0, fun hmem => (List.not_mem_nil hmem).elim⟩
    | cons c s =>
      rw [unescapeWithin] at h
      split at h
      · split at h
        · rename_i hat
          have hrest := length_escapeAt? hat
          obtain ⟨u, hu, rfl⟩ := Option.map_eq_some_iff.1 h
          have hle := (ih hu).1
          simp only [List.length_cons]
          exact ⟨by omega, fun _ => by omega⟩
        · cases h
      · rename_i hc
        obtain ⟨u, hu, rfl⟩ := Option.map_eq_some_iff.1 h
        obtain ⟨hle, hlt⟩ := ih hu
        simp only [List.length_cons]
        refine ⟨by omega, fun hmem => ?_⟩
        have hmore := hlt ((List.mem_cons.1 hmem).resolve_left fun heq => hc heq.symm)
        omega

theorem unescape_eq_self_iff (s : List Char) : unescape s = some s ↔ '\\' ∉ s :=
  ⟨fun h hmem => absurd ((length_unescapeWithin h).2 hmem) (Nat.lt_irrefl _), unescape_bare⟩

/-! What is written down is printable. -/

theorem printable_of_mem_unit {n : Nat} (hn : n < 65536) {x : Char} (h : x ∈ unit n) : 32 ≤ x.toNat := by
  have hdigit : ∀ k : Nat, k < 16 → 32 ≤ k.digitChar.toNat := by decide
  simp only [unit, hex_four hn, List.mem_cons, List.not_mem_nil, or_false] at h
  rcases h with rfl | rfl | rfl | rfl | rfl | rfl
  · decide
  · decide
  all_goals exact hdigit _ (by omega)

theorem printable_of_mem_encode {s : List Char} {x : Char} (h : x ∈ encode s) : 32 ≤ x.toNat := by
  obtain ⟨c, -, h⟩ := List.mem_flatMap.1 h
  have hv := toNat_lt c
  unfold encodeChar at h
  split_ifs at h with h1 h2 h3 h4 h5 h6 h7 h8
  all_goals try
    simp only [List.mem_cons, List.not_mem_nil, or_false] at h
    rcases h with rfl | rfl <;> decide
  · rw [List.mem_singleton] at h
    exact h ▸ h8.1
  · unfold escape at h
    dsimp only at h
    split at h
    · exact printable_of_mem_unit (by omega) h
    · rcases List.mem_append.1 h with h | h
      · exact printable_of_mem_unit (by omega) h
      · exact printable_of_mem_unit (by omega) h

end Document

end RecordDesk
