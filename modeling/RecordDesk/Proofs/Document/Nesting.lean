import RecordDesk.Proofs.Document.Load
set_option autoImplicit false

/-!
How deep collections stand in each other, in a document and in its written form. Quoted texts count for
nothing there, whatever brackets they hold; so a written document is read back just when it does not nest
too deep.
-/

namespace RecordDesk

namespace Document

open Quoted (encodeChar encode)

mutual

def nesting : Document → Nat
  | .list items => nestingItems items + 1
  | .object members => nestingMembers members + 1
  | _ => 0

def nestingItems : List Document → Nat
  | [] => 0
  | d :: rest => max d.nesting (nestingItems rest)

def nestingMembers : List (String × Document) → Nat
  | [] => 0
  | (_, d) :: rest => max d.nesting (nestingMembers rest)

end

def IsFlat (c : Char) : Prop := c ≠ '[' ∧ c ≠ '\x7b' ∧ c ≠ ']' ∧ c ≠ '\x7d' ∧ c ≠ '"'

instance (c : Char) : Decidable (IsFlat c) := inferInstanceAs (Decidable (_ ∧ _ ∧ _ ∧ _ ∧ _))

theorem tooDeep?_flat {w : List Char} (h : ∀ c ∈ w, IsFlat c) (depth : Nat) (rest : List Char) :
    tooDeep? depth false (w ++ rest) = tooDeep? depth false rest := by
  induction w with
  | nil => rfl
  | cons c w ih =>
    obtain ⟨⟨h1, h2, h3, h4, h5⟩, hw⟩ := List.forall_mem_cons.1 h
    rw [List.cons_append, tooDeep?, if_neg (by simp [h1, h2]), if_neg (by simp [h3, h4]),
      beq_false_of_ne h5, ih hw]

theorem tooDeep?_quote (depth : Nat) (rest : List Char) :
    tooDeep? depth false ('"' :: rest) = tooDeep? depth true rest := rfl

/-! Inside a text only its closing quote counts. -/

theorem tooDeep?_within {c : Char} (h1 : c ≠ '"') (h2 : c ≠ '\\') (depth : Nat) (rest : List Char) :
    tooDeep? depth true (c :: rest) = tooDeep? depth true rest := by
  rw [tooDeep?, bne_iff_ne.2 h1]
  rintro _ _ rfl
  exact absurd rfl h2

theorem tooDeep?_short (depth : Nat) (e : Char) (rest : List Char) :
    tooDeep? depth true ('\\' :: e :: rest) = tooDeep? depth true rest := rfl

theorem tooDeep?_unit {n : Nat} (h : n < 65536) (depth : Nat) (rest : List Char) :
    tooDeep? depth true (Quoted.unit n ++ rest) = tooDeep? depth true rest := by
  have hdigit : ∀ k : Nat, k < 16 → k.digitChar ≠ '"' ∧ k.digitChar ≠ '\\' := by decide
  have hpass : ∀ (k : Nat) (s : List Char), k < 16 →
      tooDeep? depth true (k.digitChar :: s) = tooDeep? depth true s :=
    fun k s hk => tooDeep?_within (hdigit k hk).1 (hdigit k hk).2 depth s
  rw [Quoted.unit, hex_four h]
  simp only [List.cons_append, List.nil_append, tooDeep?_short]
  rw [hpass _ _ (by omega), hpass _ _ (by omega), hpass _ _ (by omega), hpass _ _ (by omega)]

theorem tooDeep?_encodeChar (c : Char) (depth : Nat) (rest : List Char) :
    tooDeep? depth true (encodeChar c ++ rest) = tooDeep? depth true rest := by
  have hv := toNat_lt c
  unfold encodeChar
  split_ifs with h1 h2 h3 h4 h5 h6 h7 h8
  all_goals try exact tooDeep?_short depth _ rest
  · exact tooDeep?_within h1 h2 depth rest
  · unfold Quoted.escape
    dsimp only
    split
    · exact tooDeep?_unit (by omega) depth rest
    · rw [List.append_assoc, tooDeep?_unit (by omega), tooDeep?_unit (by omega)]

theorem Spells.tooDeep? {w t : List Char} (h : Spells w t) (depth : Nat) (rest : List Char) :
    Document.tooDeep? depth true (w ++ '"' :: rest) = Document.tooDeep? depth false rest := by
  induction h with
  | nil => rfl
  | encoded c _ ih => rw [List.append_assoc, tooDeep?_encodeChar, ih]
  | plain hc _ ih => rw [List.cons_append, tooDeep?_within hc.1 hc.2.1, ih]

/-! The count over a written document. -/

/-- What the count of collections says of a piece that is followed by others: it passes over it, or stops
inside. -/
def Counts (depth nested : Nat) (w : List Char) : Prop :=
  ∀ rest, depth + nested ≤ nestingLimit ∧ tooDeep? depth false (w ++ rest) = tooDeep? depth false rest ∨
    nestingLimit < depth + nested ∧ ∃ collection, tooDeep? depth false (w ++ rest) = some collection

theorem counts_flat {depth : Nat} {w : List Char} (hd : depth ≤ nestingLimit) (h : ∀ c ∈ w, IsFlat c) :
    Counts depth 0 w := fun rest => .inl ⟨hd, tooDeep?_flat h depth rest⟩

theorem counts_quoted {depth : Nat} {w t : List Char} (hd : depth ≤ nestingLimit) (h : Spells w t) :
    Counts depth 0 ('"' :: (w ++ ['"'])) := by
  intro rest
  refine .inl ⟨hd, ?_⟩
  rw [List.cons_append, List.append_assoc, tooDeep?_quote]
  exact h.tooDeep? depth rest

theorem Counts.append {depth n m : Nat} {w v : List Char} (h : Counts depth n w) (h' : Counts depth m v) :
    Counts depth (max n m) (w ++ v) := by
  intro rest
  rw [List.append_assoc]
  rcases h (v ++ rest) with ⟨hn, hpass⟩ | ⟨hn, hstop⟩
  · rw [hpass]
    rcases h' rest with ⟨hm, hpass'⟩ | ⟨hm, hstop'⟩
    · exact .inl ⟨by omega, hpass'⟩
    · exact .inr ⟨by omega, hstop'⟩
  · exact .inr ⟨by omega, hstop⟩

theorem Counts.enclosed {depth n : Nat} {w : List Char} {o c : Char} (ho : o = '[' ∨ o = '\x7b')
    (hc : c = ']' ∨ c = '\x7d') (h : depth < nestingLimit → Counts (depth + 1) n w) :
    Counts depth (n + 1) (o :: (w ++ [c])) := by
  intro rest
  have hopen : (o == '[' || o == '\x7b') = true := by rcases ho with rfl | rfl <;> rfl
  have hclose : tooDeep? (depth + 1) false (c :: rest) = tooDeep? depth false rest := by
    rcases hc with rfl | rfl <;> rfl
  rw [List.cons_append, List.append_assoc, tooDeep?, if_pos hopen]
  by_cases hd : nestingLimit ≤ depth
  · rw [if_pos hd]
    exact .inr ⟨by omega, _, rfl⟩
  · rw [if_neg hd]
    rcases h (by omega) ([c] ++ rest) with ⟨hn, hpass⟩ | ⟨hn, hstop⟩
    · exact .inl ⟨by omega, hpass.trans hclose⟩
    · exact .inr ⟨by omega, hstop⟩

theorem isFlat_numberText (n : Number) : ∀ c ∈ (n.text Number.documentNames).toList, IsFlat c := by
  have hmarks : ∀ c ∈ numberMarks, IsFlat c := by simp [numberMarks, IsFlat]
  intro c hc
  rcases mem_numberText hc with h | h
  · refine ⟨?_, ?_, ?_, ?_, ?_⟩ <;> rintro rfl <;> exact absurd h (by decide)
  · exact hmarks c h

section
variable {leaf : String → List Char} {f : String → String}

mutual

theorem counts_writtenBy (d : Document) (hj : d.IsJson) (hl : d.Every (SpellsPart leaf f)) {depth : Nat}
    (hd : depth ≤ nestingLimit) : Counts depth d.nesting (d.writtenBy leaf) := by
  cases d with
  | null => exact counts_flat hd (w := ['n', 'u', 'l', 'l']) (by simp [IsFlat])
  | boolean b =>
    cases b
    · exact counts_flat hd (w := ['f', 'a', 'l', 's', 'e']) (by simp [IsFlat])
    · exact counts_flat hd (w := ['t', 'r', 'u', 'e']) (by simp [IsFlat])
  | number n => exact counts_flat hd (isFlat_numberText n)
  | text s => exact counts_quoted hd hl
  | list items => exact Counts.enclosed (.inl rfl) (.inl rfl) fun h => counts_writtenItemsBy items hj.2 hl.2 h
  | object members =>
    exact Counts.enclosed (.inr rfl) (.inr rfl) fun h => counts_writtenMembersBy members hj.2 hl.2 h
  | date t => exact hj.elim
  | decimal x => exact hj.elim
  | wrapped v => exact hj.elim

theorem counts_writtenItemsBy (items : List Document) (hj : EveryItem IsJsonPart items)
    (hl : EveryItem (SpellsPart leaf f) items) {depth : Nat} (hd : depth ≤ nestingLimit) :
    Counts depth (nestingItems items) (writtenItemsBy leaf items) := by
  cases items with
  | nil => exact counts_flat hd (by simp [writtenItemsBy])
  | cons d more =>
    have hfirst := counts_writtenBy d hj.1 hl.1 hd
    have hmore := counts_writtenItemsBy more hj.2 hl.2 hd
    rw [writtenItemsBy, nestingItems]
    cases more with
    | nil => exact hfirst.append (counts_flat hd (by simp))
    | cons e more =>
      have hcomma : Counts depth 0 [',', ' '] := counts_flat hd (by simp [IsFlat])
      have hrest := hcomma.append hmore
      rw [Nat.zero_max] at hrest
      exact hfirst.append hrest

theorem counts_writtenMembersBy (members : Members) (hj : EveryMember IsJsonPart members)
    (hl : EveryMember (SpellsPart leaf f) members) {depth : Nat} (hd : depth ≤ nestingLimit) :
    Counts depth (nestingMembers members) (writtenMembersBy leaf members) := by
  cases members with
  | nil => exact counts_flat hd (by simp [writtenMembersBy])
  | cons m more =>
    obtain ⟨k, d⟩ := m
    have hkey := counts_quoted hd (spells_encode k.toList)
    have hcolon : Counts depth 0 [':', ' '] := counts_flat hd (by simp [IsFlat])
    have hfirst := (hkey.append hcolon).append (counts_writtenBy d hj.1 hl.1 hd)
    have hmore := counts_writtenMembersBy more hj.2 hl.2 hd
    rw [Nat.zero_max, Nat.zero_max] at hfirst
    cases more with
    | nil =>
      have hall := hfirst.append (counts_flat hd (w := []) (by simp))
      simpa [writtenMembersBy, nestingMembers] using hall
    | cons e more =>
      have hcomma : Counts depth 0 [',', ' '] := counts_flat hd (by simp [IsFlat])
      have hrest := hcomma.append hmore
      rw [Nat.zero_max] at hrest
      have hall := hfirst.append hrest
      rw [writtenMembersBy, nestingMembers]
      simpa using hall

end

/-- A written document is read back with the texts that were spelled, unless it nests too deep. -/
theorem read_writtenBy_of_fits {d : Document} (hj : d.IsJson) (hl : d.Every (SpellsPart leaf f))
    (hf : d.Fits) :
    d.nesting ≤ nestingLimit ∧ read (String.ofList (d.writtenBy leaf)) = .ok (d.mapTexts f) ∨
      nestingLimit < d.nesting ∧
        ∃ collection, read (String.ofList (d.writtenBy leaf)) = .error (.tooDeep collection) := by
  have hscan : scan (d.writtenBy leaf) = .ok (d.mapTexts f) := by
    rcases scan_writtenBy d hj hl with hok | ⟨hn, -⟩
    · exact hok
    · exact absurd hf hn
  have hcount := counts_writtenBy d hj hl (Nat.zero_le _) []
  rw [List.append_nil, Nat.zero_add] at hcount
  rw [read, String.toList_ofList, hscan]
  rcases hcount with ⟨hn, hnone⟩ | ⟨hn, collection, hsome⟩
  · have hread : tooDeep? 0 false (d.writtenBy leaf) = none := hnone.trans rfl
    simp only [hread]
    exact .inl ⟨hn, trivial⟩
  · simp only [hsome]
    exact .inr ⟨hn, collection, rfl⟩

end

end Document

end RecordDesk
