import RecordDesk.Proofs.Document.Parts
set_option autoImplicit false

namespace RecordDesk

namespace Document

theorem skipSpace_cons {c : Char} (h : isSpace c = false) (s : List Char) : skipSpace (c :: s) = c :: s := by
  simp [skipSpace, h]

theorem skipSpace_space (s : List Char) : skipSpace (' ' :: s) = skipSpace s := by
  simp [skipSpace, isSpace]

/-- What a written document starts with: no blank, nothing that closes a list, and no mark of an
encoding. -/
def Opens (c : Char) : Prop := isSpace c = false ∧ c ≠ ']' ∧ c ≠ Char.ofNat 0xfeff

instance (c : Char) : Decidable (Opens c) := inferInstanceAs (Decidable (_ ∧ _ ∧ _))

theorem opens_digit {c : Char} (h : c.isDigit = true) : Opens c := by
  simp only [Opens, isSpace, Bool.or_eq_false_iff, beq_eq_false_iff_ne]
  refine ⟨⟨⟨⟨?_, ?_⟩, ?_⟩, ?_⟩, ?_, ?_⟩ <;> (rintro rfl; simp at h)

theorem head_signed (minus : Bool) {c : Char} (hc : c.isDigit = true) (r : List Char) :
    ∃ c' r', signed minus (c :: r) = c' :: r' ∧ Opens c' := by
  cases minus with
  | true => exact ⟨'-', c :: r, rfl, by decide⟩
  | false => exact ⟨c, r, rfl, opens_digit hc⟩

theorem head_numberText (n : Number) : ∃ c r, (n.text Number.documentNames).toList = c :: r ∧ Opens c := by
  cases n with
  | int i =>
    obtain ⟨d, ds, hd⟩ := List.exists_cons_of_ne_nil (Nat.toDigits_ne_nil (n := i.natAbs) (b := 10))
    have hdig : d.isDigit = true :=
      isDigit_of_mem_toDigits (n := i.natAbs) (by rw [hd]; exact List.mem_cons_self)
    rw [show ((Number.int i).text Number.documentNames) = toString i from rfl, toList_toString_int, hd]
    exact head_signed _ hdig ds
  | float x =>
    cases x with
    | nan => exact ⟨'N', ['a', 'N'], rfl, by decide⟩
    | infinite negative =>
      cases negative
      · exact ⟨'I', "nfinity".toList, rfl, by decide⟩
      · exact ⟨'-', "Infinity".toList, rfl, by decide⟩
    | finite negative units h =>
      obtain ⟨c, r, hc, hdig⟩ := head_layout (Binary64.shortest (.finite negative units h))
      rw [toList_text_finite, hc]
      exact head_signed negative hdig r

theorem head_writtenBy (leaf : String → List Char) {d : Document} (h : IsJson d) :
    ∃ c r, d.writtenBy leaf = c :: r ∧ Opens c := by
  cases d with
  | null => exact ⟨'n', "ull".toList, rfl, by decide⟩
  | boolean b =>
    cases b
    · exact ⟨'f', "alse".toList, rfl, by decide⟩
    · exact ⟨'t', "rue".toList, rfl, by decide⟩
  | number n => exact head_numberText n
  | text t => exact ⟨'"', leaf t ++ ['"'], rfl, by decide⟩
  | list items => exact ⟨'[', writtenItemsBy leaf items ++ [']'], rfl, by decide⟩
  | object members => exact ⟨'\x7b', writtenMembersBy leaf members ++ ['\x7d'], rfl, by decide⟩
  | date t => exact h.elim
  | decimal x => exact h.elim
  | wrapped v => exact h.elim

theorem skipSpace_writtenBy (leaf : String → List Char) {d : Document} (h : IsJson d) (s : List Char) :
    skipSpace (d.writtenBy leaf ++ s) = d.writtenBy leaf ++ s := by
  obtain ⟨c, r, hc, hs, -⟩ := head_writtenBy leaf h
  rw [hc]
  exact skipSpace_cons hs _

theorem endsNumber_comma (rest : List Char) : EndsNumber (',' :: rest) := by simp [EndsNumber]

theorem endsNumber_close (rest : List Char) : EndsNumber (']' :: rest) := by simp [EndsNumber]

theorem endsNumber_brace (rest : List Char) : EndsNumber ('\x7d' :: rest) := by simp [EndsNumber]

theorem scan_of_read {text : List Char} {x : Document} (h : read (String.ofList text) = .ok x) :
    scan text = .ok x := by
  rw [read, String.toList_ofList] at h
  generalize scan text = r at h
  cases r with
  | ok d =>
    dsimp only at h
    split at h
    · exact congrArg Except.ok (Except.ok.inj h)
    · cases h
  | error stop =>
    dsimp only at h
    split at h
    · cases h
    · cases stop <;> cases h

/-! Reading what was written, part by part. The parts of a list and of an object are read up to what closes
them. -/

section
variable {leaf : String → List Char} {f : String → String}

mutual

theorem readValue_writtenBy (d : Document) (hj : d.IsJson) (hl : d.Every (SpellsPart leaf f)) (fuel : Nat)
    (hf : (d.writtenBy leaf).length ≤ fuel) (rest : List Char) (hr : EndsNumber rest) :
    Reads d.Fits (d.mapTexts f) rest (readValue fuel (d.writtenBy leaf ++ rest)) := by
  cases d with
  | null =>
    obtain ⟨k, rfl⟩ := Nat.exists_eq_succ_of_ne_zero (by rintro rfl; simp [writtenBy] at hf : fuel ≠ 0)
    exact .inl rfl
  | boolean b =>
    obtain ⟨k, rfl⟩ := Nat.exists_eq_succ_of_ne_zero
      (by rintro rfl; cases b <;> simp [writtenBy] at hf : fuel ≠ 0)
    cases b <;> exact .inl rfl
  | number n =>
    obtain ⟨c, r, hc, -⟩ := head_numberText n
    obtain ⟨k, rfl⟩ := Nat.exists_eq_succ_of_ne_zero (by rintro rfl; simp [writtenBy, hc] at hf : fuel ≠ 0)
    exact readValue_number k n hr
  | text s =>
    simp only [writtenBy, List.length_cons, List.length_append] at hf
    obtain ⟨k, rfl⟩ := Nat.exists_eq_succ_of_ne_zero (by omega : fuel ≠ 0)
    left
    simp only [writtenBy, List.cons_append, List.append_assoc, List.nil_append, readValue]
    rw [Spells.readText hl _ (by omega)]
    simp [Except.map, mapTexts]
  | list items =>
    simp only [writtenBy, List.length_cons, List.length_append, List.length_nil] at hf
    obtain ⟨k, rfl⟩ := Nat.exists_eq_succ_of_ne_zero (by omega : fuel ≠ 0)
    simp only [writtenBy, List.cons_append, List.append_assoc, List.nil_append, readValue]
    cases items with
    | nil => exact .inl rfl
    | cons d more =>
      have hitems := readItems_writtenBy (d :: more) (List.cons_ne_nil _ _) hj.2 hl.2 k (by omega) [] rest
      obtain ⟨c, r, hc, hs, hclose, -⟩ := head_writtenBy leaf hj.2.1
      have hw : writtenItemsBy leaf (d :: more) ++ ']' :: rest
          = c :: (r ++ (if more.isEmpty then [] else ',' :: ' ' :: writtenItemsBy leaf more) ++
            ']' :: rest) := by
        rw [writtenItemsBy, hc]
        rfl
      rw [hw] at hitems ⊢
      rw [skipSpace_cons hs]
      split
      · -- An item does not start with the mark that closes an empty list.
        rename_i heq
        exact absurd (List.cons.inj heq).1 hclose
      · rcases hitems with hok | ⟨hn, hstop⟩
        · exact .inl hok
        · exact .inr ⟨fun h => hn h.2, hstop⟩
  | object members =>
    simp only [writtenBy, List.length_cons, List.length_append, List.length_nil] at hf
    obtain ⟨k, rfl⟩ := Nat.exists_eq_succ_of_ne_zero (by omega : fuel ≠ 0)
    simp only [writtenBy, List.cons_append, List.append_assoc, List.nil_append, readValue]
    cases members with
    | nil => exact .inl rfl
    | cons m more =>
      have hmembers := readMembers_writtenBy (m :: more) (List.cons_ne_nil _ _) hj.2 hl.2 k (by omega) [] rest
      have hkeys : ((mapMembers f (m :: more)).map (·.1)).Nodup := by
        rw [map_fst_mapMembers]
        exact hj.1
      rw [List.reverse_nil, List.nil_append, ofPairs_of_nodup hkeys] at hmembers
      rw [show skipSpace (writtenMembersBy leaf (m :: more) ++ '\x7d' :: rest)
        = writtenMembersBy leaf (m :: more) ++ '\x7d' :: rest from skipSpace_cons rfl _]
      rcases hmembers with hok | ⟨hn, hstop⟩
      · exact .inl hok
      · exact .inr ⟨fun h => hn h.2, hstop⟩
  | date t => exact hj.elim
  | decimal x => exact hj.elim
  | wrapped v => exact hj.elim

theorem readItems_writtenBy (items : List Document) (hne : items ≠ []) (hj : EveryItem IsJsonPart items)
    (hl : EveryItem (SpellsPart leaf f) items) (fuel : Nat) (hf : (writtenItemsBy leaf items).length < fuel)
    (done : List Document) (rest : List Char) :
    Reads (EveryItem FitsPart items) (.list (done.reverse ++ mapItems f items)) rest
      (readItems fuel done (writtenItemsBy leaf items ++ ']' :: rest)) := by
  cases items with
  | nil => exact absurd rfl hne
  | cons d more =>
    rw [writtenItemsBy, List.length_append] at hf
    obtain ⟨k, rfl⟩ := Nat.exists_eq_succ_of_ne_zero (by omega : fuel ≠ 0)
    rw [writtenItemsBy, List.append_assoc, readItems]
    cases more with
    | nil =>
      have hd := readValue_writtenBy d hj.1 hl.1 k (by omega) (']' :: rest) (endsNumber_close rest)
      simp only [List.isEmpty_nil, if_true, List.nil_append]
      rcases hd with hok | ⟨hn, stop, hstop⟩
      · left
        rw [hok]
        simp [skipSpace_cons, isSpace, mapItems]
      · rw [hstop]
        exact .inr ⟨fun h => hn h.1, stop, rfl⟩
    | cons e more =>
      simp only [List.isEmpty_cons, Bool.false_eq_true, if_false, List.length_cons] at hf
      simp only [List.isEmpty_cons, Bool.false_eq_true, if_false, List.cons_append]
      have hd := readValue_writtenBy d hj.1 hl.1 k (by omega)
        (',' :: ' ' :: (writtenItemsBy leaf (e :: more) ++ ']' :: rest)) (endsNumber_comma _)
      have hmore := readItems_writtenBy (e :: more) (List.cons_ne_nil _ _) hj.2 hl.2 k (by omega)
        (d.mapTexts f :: done) rest
      have hskip : skipSpace (writtenItemsBy leaf (e :: more) ++ ']' :: rest)
          = writtenItemsBy leaf (e :: more) ++ ']' :: rest := by
        rw [writtenItemsBy, List.append_assoc]
        exact skipSpace_writtenBy leaf hj.2.1 _
      rcases hd with hok | ⟨hn, stop, hstop⟩
      · rw [hok]
        simp only [skipSpace_cons (show isSpace ',' = false from rfl), skipSpace_space, hskip]
        rw [List.reverse_cons, List.append_assoc] at hmore
        rcases hmore with hok | ⟨hn, hstop⟩
        · exact .inl hok
        · exact .inr ⟨fun h => hn h.2, hstop⟩
      · rw [hstop]
        exact .inr ⟨fun h => hn h.1, stop, rfl⟩

theorem readMembers_writtenBy (members : Members) (hne : members ≠ []) (hj : EveryMember IsJsonPart members)
    (hl : EveryMember (SpellsPart leaf f) members) (fuel : Nat)
    (hf : (writtenMembersBy leaf members).length < fuel) (done : Members) (rest : List Char) :
    Reads (EveryMember FitsPart members) (.object (Members.ofPairs (done.reverse ++ mapMembers f members)))
      rest (readMembers fuel done (writtenMembersBy leaf members ++ '\x7d' :: rest)) := by
  cases members with
  | nil => exact absurd rfl hne
  | cons m more =>
    obtain ⟨key, d⟩ := m
    simp only [writtenMembersBy, List.length_cons, List.length_append] at hf
    obtain ⟨k, rfl⟩ := Nat.exists_eq_succ_of_ne_zero (by omega : fuel ≠ 0)
    simp only [writtenMembersBy, List.cons_append, List.append_assoc, readMembers]
    rw [(spells_encode key.toList).readText _ (by omega)]
    simp only [List.reverse_nil, List.nil_append, String.ofList_toList,
      skipSpace_cons (show isSpace ':' = false from rfl), skipSpace_space, skipSpace_writtenBy leaf hj.1]
    cases more with
    | nil =>
      have hd := readValue_writtenBy d hj.1 hl.1 k (by omega) ('\x7d' :: rest) (endsNumber_brace rest)
      simp only [List.isEmpty_nil, if_true, List.nil_append]
      rcases hd with hok | ⟨hn, stop, hstop⟩
      · left
        rw [hok]
        simp [skipSpace_cons, isSpace, mapMembers]
      · rw [hstop]
        exact .inr ⟨fun h => hn h.1, stop, rfl⟩
    | cons m more =>
      simp only [List.isEmpty_cons, Bool.false_eq_true, if_false, List.length_cons] at hf
      simp only [List.isEmpty_cons, Bool.false_eq_true, if_false, List.cons_append]
      have hd := readValue_writtenBy d hj.1 hl.1 k (by omega)
        (',' :: ' ' :: (writtenMembersBy leaf (m :: more) ++ '\x7d' :: rest)) (endsNumber_comma _)
      have hmore := readMembers_writtenBy (m :: more) (List.cons_ne_nil _ _) hj.2 hl.2 k (by omega)
        ((key, d.mapTexts f) :: done) rest
      have hskip : skipSpace (writtenMembersBy leaf (m :: more) ++ '\x7d' :: rest)
          = writtenMembersBy leaf (m :: more) ++ '\x7d' :: rest := skipSpace_cons rfl _
      rcases hd with hok | ⟨hn, stop, hstop⟩
      · rw [hok]
        simp only [skipSpace_cons (show isSpace ',' = false from rfl), skipSpace_space, hskip]
        rw [List.reverse_cons, List.append_assoc] at hmore
        rcases hmore with hok | ⟨hn, hstop⟩
        · exact .inl hok
        · exact .inr ⟨fun h => hn h.2, hstop⟩
      · rw [hstop]
        exact .inr ⟨fun h => hn h.1, stop, rfl⟩

end

theorem scan_writtenBy (d : Document) (hj : d.IsJson) (hl : d.Every (SpellsPart leaf f)) :
    scan (d.writtenBy leaf) = .ok (d.mapTexts f) ∨ ¬ d.Fits ∧ ∃ stop,
    scan (d.writtenBy leaf) = .error stop := by
  have hread := readValue_writtenBy d hj hl (2 * (d.writtenBy leaf).length + 2) (by omega) []
    (by simp [EndsNumber])
  have hskip := skipSpace_writtenBy leaf hj []
  obtain ⟨c, r, hc, -, -, hmark⟩ := head_writtenBy leaf hj
  have hbom : ¬ (d.writtenBy leaf).head? = some (Char.ofNat 0xfeff) := by
    rw [hc]
    intro h
    exact hmark (Option.some.inj h)
  rw [List.append_nil] at hread hskip
  rw [scan, if_neg hbom, hskip]
  rcases hread with hok | ⟨hn, stop, hstop⟩
  · left
    rw [hok]
    rfl
  · right
    rw [hstop]
    exact ⟨hn, stop, rfl⟩

/-- What is read from such a text is the document itself, with the texts that were spelled. -/
theorem read_writtenBy {d x : Document} (hj : d.IsJson) (hl : d.Every (SpellsPart leaf f))
    (h : read (String.ofList (d.writtenBy leaf)) = .ok x) : x = d.mapTexts f := by
  have hscan : scan (d.writtenBy leaf) = .ok x := scan_of_read h
  rcases scan_writtenBy d hj hl with hok | ⟨-, stop, hstop⟩
  · exact (Except.ok.inj (hscan.symm.trans hok))
  · rw [hstop] at hscan
    cases hscan

end

end Document

end RecordDesk
