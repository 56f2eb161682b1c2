import RecordDesk.Proofs.Document.WrittenReads
set_option autoImplicit false

/-!
What a text can hold when it is read. Quotes, backslashes and characters past ASCII have a weight, and so
has the `u` of a unit escape; then no reading gives more than there was in the text, however it was escaped.
-/

namespace RecordDesk

namespace Document

open Quoted (hex unit escape encodeChar encode)

def charLoad (c : Char) : Nat :=
  if c = '"' ∨ c = '\\' ∨ c = 'u' then 1
  else if c.toNat < 127 then 0
  else if c.toNat < 0x10000 then 2
  else 4

def load (s : List Char) : Nat := (s.map charLoad).sum

@[simp] theorem load_nil : load [] = 0 := rfl

@[simp] theorem load_cons (c : Char) (s : List Char) : load (c :: s) = charLoad c + load s := rfl

@[simp] theorem charLoad_quote : charLoad '"' = 1 := rfl

@[simp] theorem charLoad_slash : charLoad '\\' = 1 := rfl

@[simp] theorem charLoad_u : charLoad 'u' = 1 := rfl

@[simp] theorem load_append (s t : List Char) : load (s ++ t) = load s + load t := by
  simp [load]

theorem load_dropWhile_le (p : Char → Bool) (s : List Char) : load (s.dropWhile p) ≤ load s := by
  have h := congrArg load (List.takeWhile_append_dropWhile (p := p) (l := s))
  rw [load_append] at h
  omega

theorem load_skipSpace_le (s : List Char) : load (skipSpace s) ≤ load s := load_dropWhile_le isSpace s

theorem charLoad_digitChar {n : Nat} (h : n < 16) : charLoad n.digitChar = 0 := by
  decide +revert

theorem load_hex {n : Nat} (h : n < 65536) : load (hex 4 n) = 0 := by
  rw [hex_four h]
  simp [charLoad_digitChar (show n / 4096 < 16 by omega),
    charLoad_digitChar (show n / 256 % 16 < 16 by omega),
    charLoad_digitChar (show n / 16 % 16 < 16 by omega), charLoad_digitChar (show n % 16 < 16 by omega)]

theorem load_unit {n : Nat} (h : n < 65536) : load (unit n) = 2 := by
  simp [unit, load_hex h, charLoad]

theorem toNat_lt (c : Char) : c.toNat < 0x110000 := by
  have hv : c.toNat < 0xd800 ∨ (0xdfff < c.toNat ∧ c.toNat < 0x110000) := c.valid
  omega

theorem load_escape (c : Char) : load (escape c) = if c.toNat < 0x10000 then 2 else 4 := by
  have hv := toNat_lt c
  rw [escape]
  split
  · rename_i h
    exact load_unit h
  · rw [load_append, load_unit (by omega), load_unit (by omega)]

theorem charLoad_control {c : Char} (h : c.toNat < 32) : charLoad c = 0 := by
  have hc : ¬ (c = '"' ∨ c = '\\' ∨ c = 'u') := by
    rintro (rfl | rfl | rfl) <;> exact absurd h (by decide)
  rw [charLoad, if_neg hc, if_pos (by omega)]

theorem charLoad_large {c : Char} (h : 127 ≤ c.toNat) : charLoad c = if c.toNat < 0x10000 then 2 else 4 := by
  have hc : ¬ (c = '"' ∨ c = '\\' ∨ c = 'u') := by
    rintro (rfl | rfl | rfl) <;> exact absurd h (by decide)
  rw [charLoad, if_neg hc, if_neg (by omega)]

theorem not_isPlain_control {c : Char} (h : c.toNat < 32) : ¬ IsPlain c := fun hp => by
  have := hp.2.2
  omega

theorem load_encodeChar (c : Char) :
    load (encodeChar c) = charLoad c ∧ IsPlain c ∨ charLoad c < load (encodeChar c) ∧ ¬ IsPlain c := by
  unfold encodeChar
  split_ifs with h1 h2 h3 h4 h5 h6 h7 h8
  · exact .inr ⟨by simp [h1], fun hp => hp.1 h1⟩
  · exact .inr ⟨by simp [h2], fun hp => hp.2.1 h2⟩
  · exact .inr ⟨by simp [h3, charLoad], by simp [h3, IsPlain]⟩
  · exact .inr ⟨by simp [h4, charLoad], by simp [h4, IsPlain]⟩
  · exact .inr ⟨by simp [h5, charLoad], by simp [h5, IsPlain]⟩
  · exact .inr ⟨by simp [charLoad_control (show c.toNat < 32 by omega)], not_isPlain_control (by omega)⟩
  · exact .inr ⟨by simp [charLoad_control (show c.toNat < 32 by omega)], not_isPlain_control (by omega)⟩
  · exact .inl ⟨by simp, h1, h2, h8.1⟩
  · rw [load_escape]
    by_cases hc : c.toNat < 32
    · exact .inr ⟨by rw [charLoad_control hc, if_pos (by omega)]; omega, not_isPlain_control hc⟩
    · exact .inl ⟨(charLoad_large (by omega)).symm, h1, h2, by omega⟩

theorem load_encodeChar_le {c : Char} (h : c.toNat < 0x10000) : load (encodeChar c) ≤ 2 := by
  unfold encodeChar
  split_ifs with h1 h2 h3 h4 h5 h6 h7 h8
  all_goals try decide
  · rw [load_cons, load_nil, charLoad]
    split_ifs <;> omega
  · rw [load_escape, if_pos h]

theorem load_encodeChar_le_four (c : Char) : load (encodeChar c) ≤ 4 := by
  by_cases h : c.toNat < 0x10000
  · have := load_encodeChar_le h
    omega
  · have hl := charLoad_large (c := c) (by omega)
    rw [if_neg h] at hl
    rcases load_encodeChar c with ⟨he, -⟩ | ⟨-, hp⟩
    · omega
    · exact absurd ⟨by rintro rfl; exact h (by decide), by rintro rfl; exact h (by decide), by omega⟩ hp

def textLoad (s : List Char) : Nat := load (encode s)

theorem textLoad_cons (c : Char) (s : List Char) : textLoad (c :: s) = load (encodeChar c) + textLoad s := by
  simp [textLoad, encode]

theorem textLoad_append (s t : List Char) : textLoad (s ++ t) = textLoad s + textLoad t := by
  simp [textLoad, Quoted.encode_append]

/-! No reader gives more than it took. -/

theorem unitChar_toNat_lt (n : Nat) (h : n < 0x10000) : (unitChar n).toNat < 0x10000 := by
  unfold unitChar
  split
  · decide
  · rename_i hn
    simp only [isHighHalf, isLowHalf, Bool.or_eq_true, Bool.and_eq_true, decide_eq_true_eq] at hn
    have hv : n.isValidChar := by
      show n < 0xd800 ∨ (0xdfff < n ∧ n < 0x110000)
      omega
    rw [Char.toNat_ofNat, if_pos hv]
    exact h

theorem hexValue?_lt {c : Char} {n : Nat} (h : hexValue? c = some n) : n < 16 := by
  unfold hexValue? at h
  split_ifs at h with h1 h2 h3
  · have hd : c.toNat ≤ 57 := (Char.isDigit_iff_toNat.1 h1).2
    simp only [Option.some.injEq] at h
    omega
  · have hd : c.toNat ≤ 102 := h2.2
    simp only [Option.some.injEq] at h
    omega
  · have hd : c.toNat ≤ 70 := h3.2
    simp only [Option.some.injEq] at h
    omega

theorem hexUnit?_lt {a b c d : Char} {n : Nat} (h : hexUnit? a b c d = some n) : n < 0x10000 := by
  simp only [hexUnit?, Option.bind_eq_bind, Option.bind_eq_some_iff, Option.pure_def, Option.some.injEq] at h
  obtain ⟨w, hw, x, hx, y, hy, z, hz, rfl⟩ := h
  have := hexValue?_lt hw
  have := hexValue?_lt hx
  have := hexValue?_lt hy
  have := hexValue?_lt hz
  omega

theorem unitEscape?_some {s after : List Char} {n : Nat} (h : unitEscape? s = some (n, after)) :
    n < 0x10000 ∧ load after ≤ load s := by
  unfold unitEscape? at h
  split at h
  · simp only [Option.map_eq_some_iff, Prod.mk.injEq] at h
    obtain ⟨m, hm, rfl, rfl⟩ := h
    refine ⟨hexUnit?_lt hm, ?_⟩
    simp only [load_cons]
    omega
  · cases h

theorem lowHalf_some {s after : List Char} {low : Nat} (h : lowHalf s = .ok (some low, after)) :
    load after + 2 ≤ load s := by
  unfold lowHalf at h
  split at h
  · split at h
    · cases h
    · split at h
      · cases h
        simp only [load_cons, charLoad_slash, charLoad_u]
        omega
      · cases h
  · cases h

theorem lowHalf_none {s after : List Char} (h : lowHalf s = .ok (none, after)) : after = s := by
  unfold lowHalf at h
  split at h
  · split at h
    · cases h
    · split at h
      · cases h
      · cases h
        rfl
  · cases h
    rfl

theorem escapedChar?_load {c x : Char} (h : escapedChar? c = some x) :
    load (encodeChar x) ≤ 1 + charLoad c := by
  unfold escapedChar? at h
  split at h
  all_goals first | (cases h; decide) | cases h

theorem readText_escaped {opening : List Char} {fuel : Nat} {done more rest : List Char} {t : String}
    (h : readText opening (fuel + 1) done ('\\' :: 'u' :: more) = .ok (t, rest)) :
    ∃ x after, load (encodeChar x) + load after ≤ 2 + load more ∧
      readText opening fuel (x :: done) after = .ok (t, rest) := by
  simp only [readText] at h
  split at h
  · cases h
  · rename_i n after hesc
    obtain ⟨hn, hload⟩ := unitEscape?_some hesc
    have hchar := load_encodeChar_le (unitChar_toNat_lt n hn)
    split at h
    · split at h
      · cases h
      · rename_i low after' hlow
        have hl := lowHalf_some hlow
        have hj := load_encodeChar_le_four (joinHalves n low)
        exact ⟨_, _, by omega, h⟩
      · rename_i hlow
        rw [lowHalf_none hlow] at h
        exact ⟨_, _, by omega, h⟩
    · exact ⟨_, _, by omega, h⟩

theorem readText_step {opening : List Char} {fuel : Nat} {done s rest : List Char} {t : String}
    (h : readText opening (fuel + 1) done s = .ok (t, rest)) :
    (s = '"' :: rest ∧ t = String.ofList done.reverse) ∨
      ∃ x after, load (encodeChar x) + load after ≤ load s ∧
      readText opening fuel (x :: done) after = .ok (t, rest) := by
  have hunfold := h
  rw [readText.eq_def] at h
  dsimp only at h
  split at h
  · cases h
  · cases h
    exact .inl ⟨rfl, rfl⟩
  · rename_i more
    right
    split at h
    · cases h
    · obtain ⟨x, after, hload, hread⟩ := readText_escaped hunfold
      exact ⟨x, after, by simp only [load_cons, charLoad_slash, charLoad_u]; omega, hread⟩
    · split at h
      · rename_i c more' _ x hx
        have hc := escapedChar?_load hx
        exact ⟨x, _, by simp only [load_cons, charLoad_slash]; omega, h⟩
      · cases h
  · rename_i c more hq hs
    right
    split at h
    · cases h
    · have hplain : IsPlain c := ⟨hq, hs, by omega⟩
      -- What the reader takes as it is was not to be escaped, so its written form is no heavier.
      rcases load_encodeChar c with ⟨he, -⟩ | ⟨-, hp⟩
      · exact ⟨c, more, by rw [load_cons, he], h⟩
      · exact absurd hplain hp

theorem textLoad_reverse (s : List Char) : textLoad s.reverse = textLoad s := by
  induction s with
  | nil => rfl
  | cons c s ih =>
    rw [List.reverse_cons, textLoad_append, textLoad_cons, ih]
    simp [textLoad, encode, Nat.add_comm]

theorem readText_load {opening : List Char} {fuel : Nat} {done s rest : List Char} {t : String}
    (h : readText opening fuel done s = .ok (t, rest)) :
    textLoad t.toList + load rest + 1 ≤ textLoad done + load s := by
  induction fuel generalizing done s with
  | zero => simp [readText] at h
  | succ fuel ih =>
    rcases readText_step h with ⟨rfl, rfl⟩ | ⟨x, after, hload, hread⟩
    · rw [String.toList_ofList, textLoad_reverse, load_cons, charLoad_quote]
      omega
    · have := ih hread
      rw [textLoad_cons] at this
      omega

theorem load_takeDigits_le (s : List Char) : load (takeDigits s).2 ≤ load s := by
  rw [takeDigits, List.span_eq_takeWhile_dropWhile]
  exact load_dropWhile_le _ s

theorem load_fraction_le (s : List Char) : load (fraction s).2 ≤ load s := by
  unfold fraction
  split
  · split
    · have h := load_takeDigits_le
      rename_i d rest _
      have := h (d :: rest)
      simp only [load_cons] at this ⊢
      omega
    · exact Nat.le_refl _
  · exact Nat.le_refl _

theorem load_sign_le (s : List Char) : load (Numeral.sign s).2 ≤ load s := by
  unfold Numeral.sign
  split <;> simp

theorem load_exponent_le (s : List Char) : load (exponent s).2 ≤ load s := by
  unfold exponent
  split
  · rename_i e rest
    split
    · have h1 := load_sign_le rest
      have h2 := load_takeDigits_le (Numeral.sign rest).2
      dsimp only
      split
      · exact Nat.le_refl _
      · rename_i ds after _ heq
        rw [heq] at h2
        simp only [load_cons] at h2 ⊢
        omega
    · exact Nat.le_refl _
  · exact Nat.le_refl _

theorem load_wholePart_le (s : List Char) : load (wholePart s).2 ≤ load s := by
  unfold wholePart
  split
  · simp
  · exact load_takeDigits_le _

theorem load_minusSign_le (s : List Char) : load (minusSign s).2 ≤ load s := by
  unfold minusSign
  split <;> simp

theorem readNumber_load {s rest : List Char} {d : Document} (h : readNumber s = .ok (d, rest)) :
    (∃ n, d = .number n) ∧ load rest ≤ load s := by
  have h1 := load_minusSign_le s
  unfold readNumber at h
  dsimp only at h
  have h2 := load_wholePart_le (minusSign s).2
  split at h
  · cases h
  · rename_i whole afterWhole _ hw
    have h3 := load_fraction_le afterWhole
    have h4 := load_exponent_le (fraction afterWhole).2
    rw [hw] at h2
    dsimp only at h h2
    split at h
    · split at h
      · cases h
      · cases h
        exact ⟨⟨_, rfl⟩, by omega⟩
    · cases h
      exact ⟨⟨_, rfl⟩, by omega⟩

mutual

def loadBy (leaf : String → Nat) : Document → Nat
  | .null => 1
  | .boolean b => if b then 1 else 0
  | .text s => leaf s + 2
  | .list items => loadItemsBy leaf items
  | .object members => loadMembersBy leaf members
  | _ => 0

def loadItemsBy (leaf : String → Nat) : List Document → Nat
  | [] => 0
  | d :: rest => d.loadBy leaf + loadItemsBy leaf rest

def loadMembersBy (leaf : String → Nat) : List (String × Document) → Nat
  | [] => 0
  | (k, d) :: rest => textLoad k.toList + 2 + d.loadBy leaf + loadMembersBy leaf rest

end

def escapedLoad (s : String) : Nat := textLoad s.toList

theorem loadItemsBy_append (leaf : String → Nat) (a b : List Document) :
    loadItemsBy leaf (a ++ b) = loadItemsBy leaf a + loadItemsBy leaf b := by
  induction a with
  | nil => simp [loadItemsBy]
  | cons d a ih => rw [List.cons_append, loadItemsBy, loadItemsBy, ih, Nat.add_assoc]

theorem loadMembersBy_append (leaf : String → Nat) (a b : Members) :
    loadMembersBy leaf (a ++ b) = loadMembersBy leaf a + loadMembersBy leaf b := by
  induction a with
  | nil => simp [loadMembersBy]
  | cons m a ih =>
    obtain ⟨k, d⟩ := m
    rw [List.cons_append, loadMembersBy, loadMembersBy, ih]
    omega

/-- A member that takes the place of another brings no more than it would at the end. -/
theorem loadMembersBy_map_le (leaf : String → Nat) {members : Members}
    (h : (members.map (·.1)).Nodup) (key : String)
    (d : Document) : loadMembersBy leaf (members.map fun m => if m.1 == key then (key, d) else m)
      ≤ loadMembersBy leaf members + (textLoad key.toList + 2 + d.loadBy leaf) := by
  induction members with
  | nil => simp [loadMembersBy]
  | cons m rest ih =>
    obtain ⟨k, e⟩ := m
    rw [List.map_cons, List.nodup_cons] at h
    have hrest := ih h.2
    rw [List.map_cons]
    by_cases hk : k = key
    · subst hk
      rw [map_set_of_not_mem h.1]
      simp only [beq_self_eq_true, if_true, loadMembersBy]
      omega
    · rw [if_neg (by simpa using hk)]
      simp only [loadMembersBy]
      omega

theorem loadMembersBy_set_le (leaf : String → Nat) {members : Members}
    (h : (members.map (·.1)).Nodup) (key : String)
    (d : Document) : loadMembersBy leaf (members.set key d)
      ≤ loadMembersBy leaf members + (textLoad key.toList + 2 + d.loadBy leaf) := by
  rw [Members.set]
  split
  · exact loadMembersBy_map_le leaf h key d
  · rw [loadMembersBy_append]
    simp [loadMembersBy]

theorem loadMembersBy_ofPairs_le (leaf : String → Nat) (members : Members) :
    loadMembersBy leaf (Members.ofPairs members) ≤ loadMembersBy leaf members := by
  -- The members so far have keys of their own; a repeated key would count its new value more than once.
  have step : ∀ (rest done : Members), (done.map (·.1)).Nodup →
      loadMembersBy leaf (rest.foldl (fun (acc : Members) p => acc.set p.1 p.2) done)
        ≤ loadMembersBy leaf done + loadMembersBy leaf rest := by
    intro rest
    induction rest with
    | nil => simp [loadMembersBy]
    | cons m rest ih =>
      intro done hn
      obtain ⟨k, d⟩ := m
      have h1 := ih (done.set k d) (nodup_set hn k d)
      have h2 := loadMembersBy_set_le leaf hn k d
      rw [loadMembersBy]
      exact h1.trans (by omega)
  have h := step members [] (by simp)
  rwa [loadMembersBy, Nat.zero_add] at h

theorem readWord_load {s rest : List Char} {d : Document} (h : readWord s = some (d, rest)) :
    d.loadBy escapedLoad + load rest ≤ load s := by
  unfold readWord at h
  obtain ⟨w, hw, heq⟩ := Option.map_eq_some_iff.1 h
  have hword : ∀ w ∈ words, w.2.loadBy escapedLoad ≤ load w.1 := by decide
  have hle := hword w (List.mem_of_find?_eq_some hw)
  have hpre := List.find?_some hw
  obtain ⟨r, rfl⟩ := List.isPrefixOf_iff_prefix.1 hpre
  cases heq
  rw [List.drop_left, load_append]
  omega

/-- With so much fuel nothing is read that was not there, in values, in items and in members. -/
structure TakesNoMore (fuel : Nat) : Prop where
  value : ∀ s d rest, readValue fuel s = .ok (d, rest) → d.loadBy escapedLoad + load rest ≤ load s
  items : ∀ done s d rest, readItems fuel done s = .ok (d, rest) →
    d.loadBy escapedLoad + load rest ≤ loadItemsBy escapedLoad done.reverse + load s
  members : ∀ done s d rest, readMembers fuel done s = .ok (d, rest) →
    d.loadBy escapedLoad + load rest ≤ loadMembersBy escapedLoad done.reverse + load s

theorem readText_whole {opening body rest : List Char} {fuel : Nat} {t : String}
    (h : readText opening fuel [] body = .ok (t, rest)) : escapedLoad t + load rest + 1 ≤ load body := by
  have := readText_load h
  simpa [escapedLoad, textLoad, Quoted.encode] using this

namespace TakesNoMore

variable {fuel : Nat}

theorem readValue_load (ih : TakesNoMore fuel) {s rest : List Char} {d : Document}
    (h : readValue (fuel + 1) s = .ok (d, rest)) : d.loadBy escapedLoad + load rest ≤ load s := by
  rw [readValue.eq_def] at h
  dsimp only at h
  split at h
  · rename_i body
    cases ht : readText ('"' :: body) fuel [] body with
    | error e => rw [ht] at h; cases h
    | ok r =>
      rw [ht] at h
      cases h
      have := readText_whole ht
      simp only [loadBy, load_cons, charLoad_quote]
      omega
  · rename_i body
    have hskip := load_skipSpace_le body
    split at h
    · rename_i after heq
      cases h
      rw [heq] at hskip
      simp only [loadBy, loadItemsBy, load_cons] at hskip ⊢
      omega
    · have := ih.items _ _ _ _ h
      simp only [List.reverse_nil, loadItemsBy, load_cons] at this ⊢
      omega
  · rename_i body
    have hskip := load_skipSpace_le body
    split at h
    · rename_i after heq
      cases h
      rw [heq] at hskip
      simp only [loadBy, loadMembersBy, load_cons] at hskip ⊢
      omega
    · have := ih.members _ _ _ _ h
      simp only [List.reverse_nil, loadMembersBy, load_cons] at this ⊢
      omega
  · split at h
    · rename_i hw
      cases h
      exact readWord_load hw
    · obtain ⟨⟨n, rfl⟩, hle⟩ := readNumber_load h
      simpa [loadBy] using hle

theorem readItems_load (ih : TakesNoMore fuel) {done : List Document} {s rest : List Char} {d : Document}
    (h : readItems (fuel + 1) done s = .ok (d, rest)) :
    d.loadBy escapedLoad + load rest ≤ loadItemsBy escapedLoad done.reverse + load s := by
  rw [readItems.eq_def] at h
  dsimp only at h
  cases hv : readValue fuel s with
  | error e => rw [hv] at h; cases h
  | ok r =>
    obtain ⟨item, after⟩ := r
    have hvalue := ih.value _ _ _ hv
    have hskip := load_skipSpace_le after
    rw [hv] at h
    dsimp only at h
    split at h
    · rename_i after' heq
      cases h
      rw [heq] at hskip
      simp only [load_cons, loadBy, List.reverse_cons, loadItemsBy_append, loadItemsBy] at hskip ⊢
      omega
    · rename_i after' heq
      rw [heq] at hskip
      have hitems := ih.items _ _ _ _ h
      have hskip' := load_skipSpace_le after'
      simp only [load_cons, List.reverse_cons, loadItemsBy_append, loadItemsBy] at hskip hitems
      omega
    · cases h

theorem readMembers_load (ih : TakesNoMore fuel) {done : Members} {s rest : List Char} {d : Document}
    (h : readMembers (fuel + 1) done s = .ok (d, rest)) :
    d.loadBy escapedLoad + load rest ≤ loadMembersBy escapedLoad done.reverse + load s := by
  rw [readMembers.eq_def] at h
  dsimp only at h
  split at h
  · rename_i body
    cases ht : readText ('"' :: body) fuel [] body with
    | error e => rw [ht] at h; cases h
    | ok r =>
      obtain ⟨key, afterKey⟩ := r
      have hkey : textLoad key.toList + load afterKey + 1 ≤ load body := readText_whole ht
      have hskip := load_skipSpace_le afterKey
      rw [ht] at h
      dsimp only at h
      split at h
      · rename_i afterColon heq
        have hcolon := load_skipSpace_le afterColon
        rw [heq, load_cons] at hskip
        cases hv : readValue fuel (skipSpace afterColon) with
        | error e => rw [hv] at h; cases h
        | ok r =>
          obtain ⟨item, after⟩ := r
          have hvalue := ih.value _ _ _ hv
          have hafter := load_skipSpace_le after
          rw [hv] at h
          dsimp only at h
          split at h
          · rename_i after' heq'
            cases h
            have hpairs := loadMembersBy_ofPairs_le escapedLoad ((key, item) :: done).reverse
            rw [heq', load_cons] at hafter
            simp only [load_cons, charLoad_quote, loadBy, List.reverse_cons, loadMembersBy_append,
              loadMembersBy] at hpairs ⊢
            omega
          · rename_i after' heq'
            rw [heq', load_cons] at hafter
            have hmembers := ih.members _ _ _ _ h
            have hnext := load_skipSpace_le after'
            simp only [load_cons, charLoad_quote, List.reverse_cons, loadMembersBy_append, loadMembersBy]
              at hmembers ⊢
            omega
          · cases h
      · cases h
  · cases h

end TakesNoMore

theorem takesNoMore (fuel : Nat) : TakesNoMore fuel := by
  induction fuel with
  | zero => constructor <;> simp [readValue, readItems, readMembers]
  | succ fuel ih => exact ⟨fun _ _ _ => ih.readValue_load, fun _ _ _ _ => ih.readItems_load,
      fun _ _ _ _ => ih.readMembers_load⟩

theorem scan_load {s : List Char} {d : Document} (h : scan s = .ok d) : d.loadBy escapedLoad ≤ load s := by
  rw [scan] at h
  split at h
  · cases h
  · cases hv : readValue (2 * s.length + 2) (skipSpace s) with
    | error e => rw [hv] at h; cases h
    | ok r =>
      obtain ⟨x, after⟩ := r
      have hvalue := (takesNoMore _).value _ _ _ hv
      have hskip := load_skipSpace_le s
      rw [hv] at h
      dsimp only at h
      split at h
      · cases h
        omega
      · cases h

end Document

end RecordDesk
