import RecordDesk.Proofs.Template.Pieces
set_option autoImplicit false

/-!
Payloads that are filled in place. It is enough that every placeholder is closed in the text that opens it,
that no character of its path has to be escaped, and that no key opens one.
-/

namespace RecordDesk

namespace Template

open Quoted (encodeChar encode)

def PathChar (c : Char) : Prop := c ≠ '"' ∧ c ≠ '\\' ∧ 32 ≤ c.toNat ∧ c.toNat < 127

/-- Every two opening braces of a text belong to a placeholder that is closed in it, with a path of such
characters. The fuel is the text's length. -/
def Closed : Nat → List Char → Prop
  | 0, _ => True
  | _ + 1, [] => True
  | fuel + 1, '\x7b' :: '\x7b' :: rest =>
    match placeholder? rest with
    | some (path, after) => (∀ c ∈ path, PathChar c) ∧ Closed fuel after
    | none => False
  | fuel + 1, _ :: rest => Closed fuel rest

def ClosedPart : Document → Prop
  | .text s => Closed s.toList.length s.toList
  | .object members => ∀ m ∈ members, ¬ ['\x7b', '\x7b'] <:+: m.1.toList
  | _ => True

/-- The written payload is filled text by text: no placeholder crosses the end of a text, and none is hidden
by the escapes of its own text. -/
def FillsInPlace (scope payload : Document) : Prop :=
  interpolate scope (payload.written .spaced) = String.ofList (payload.writtenBy (filledLeaf scope))

def fillAll (scope : Document) (s : List Char) : List Char := fill scope s.length s

theorem placeholder?_some {s path after : List Char} (h : placeholder? s = some (path, after)) :
    s = path ++ '\x7d' :: '\x7d' :: after ∧ path ≠ [] ∧ ∀ c ∈ path, c ≠ '\x7d' := by
  unfold placeholder? at h
  rw [List.span_eq_takeWhile_dropWhile] at h
  split at h
  · rename_i c more rest heq
    simp only [Prod.mk.injEq] at heq
    cases h
    have happ := List.takeWhile_append_dropWhile (p := (· != '\x7d')) (l := s)
    rw [heq.1, heq.2] at happ
    refine ⟨happ.symm, List.cons_ne_nil _ _, ?_⟩
    intro x hx
    rw [← heq.1] at hx
    simpa using List.mem_takeWhile_imp hx
  · cases h

theorem placeholder?_append {path : List Char} (hne : path ≠ []) (h : ∀ c ∈ path, c ≠ '\x7d')
    (after : List Char) : placeholder? (path ++ '\x7d' :: '\x7d' :: after) = some (path, after) := by
  obtain ⟨c, more, rfl⟩ := List.exists_cons_of_ne_nil hne
  have hp : ∀ x ∈ c :: more, (x != '\x7d') = true := fun x hx => by simpa using h x hx
  rw [placeholder?, List.span_eq_takeWhile_dropWhile, List.takeWhile_append_of_pos hp,
    List.dropWhile_append_of_pos hp]
  simp

theorem fill_fuel (scope : Document) {fuel fuel' : Nat} {s : List Char} (h : s.length ≤ fuel)
    (h' : s.length ≤ fuel') : fill scope fuel s = fill scope fuel' s := by
  fun_induction fill scope fuel s generalizing fuel' with
  | case1 s =>
    rw [List.eq_nil_of_length_eq_zero (Nat.le_zero.1 h), fill_nil]
  | case2 fuel => rw [fill_nil]
  | case3 fuel rest path after hp ih =>
    obtain ⟨k, rfl⟩ := Nat.exists_eq_succ_of_ne_zero (by rintro rfl; simp at h' : fuel' ≠ 0)
    obtain ⟨rfl, -, -⟩ := placeholder?_some hp
    simp only [List.length_cons, List.length_append] at h h'
    rw [fill, hp, ih (by omega) (show after.length ≤ k by omega)]
  | case4 fuel rest hp ih =>
    obtain ⟨k, rfl⟩ := Nat.exists_eq_succ_of_ne_zero (by rintro rfl; simp at h' : fuel' ≠ 0)
    simp only [List.length_cons] at h h'
    rw [fill, hp, ih (by simp only [List.length_cons]; omega) (show ('\x7b' :: rest).length ≤ k by
      simp only [List.length_cons]; omega)]
  | case5 fuel c rest hc ih =>
    obtain ⟨k, rfl⟩ := Nat.exists_eq_succ_of_ne_zero (by rintro rfl; simp at h' : fuel' ≠ 0)
    simp only [List.length_cons] at h h'
    rw [fill, ih (by omega) (show rest.length ≤ k by omega)]
    exact hc

theorem fillAll_nil (scope : Document) : fillAll scope [] = [] := rfl

theorem fillAll_cons {c : Char} {s : List Char} (scope : Document) (h : c = '\x7b' → s.head? ≠ some '\x7b') :
    fillAll scope (c :: s) = c :: fillAll scope s := by
  rw [fillAll, List.length_cons, fill]
  · rfl
  · rintro rest rfl rfl
    exact h rfl rfl

theorem fillAll_hole {path : List Char} (scope : Document) (hne : path ≠ []) (h : ∀ c ∈ path, c ≠ '\x7d')
    (after : List Char) : fillAll scope ('\x7b' :: '\x7b' :: (path ++ '\x7d' :: '\x7d' :: after))
      = substitute scope path ++ fillAll scope after := by
  rw [fillAll, List.length_cons, fill, placeholder?_append hne h]
  refine congrArg (substitute scope path ++ ·) (fill_fuel scope ?_ (Nat.le_refl _))
  simp only [List.length_cons, List.length_append]
  omega

theorem fillAll_append {w : List Char} (scope : Document) (h : ∀ c ∈ w, c ≠ '\x7b') (s : List Char) :
    fillAll scope (w ++ s) = w ++ fillAll scope s := by
  induction w with
  | nil => rfl
  | cons c w ih =>
    rw [List.cons_append, fillAll_cons scope fun hc => absurd hc (h c List.mem_cons_self),
      ih fun x hx => h x (List.mem_cons_of_mem c hx), List.cons_append]

/-! Escapes hold no braces of their own. -/

theorem ne_brace_of_mem_unit {n : Nat} (hn : n < 65536) {c : Char} (h : c ∈ Quoted.unit n) : c ≠ '\x7b' := by
  have hdigit : ∀ k : Nat, k < 16 → k.digitChar ≠ '\x7b' := by decide
  simp only [Quoted.unit, Document.hex_four hn, List.mem_cons, List.not_mem_nil, or_false] at h
  rcases h with rfl | rfl | rfl | rfl | rfl | rfl
  · decide
  · decide
  all_goals exact hdigit _ (by omega)

theorem encodeChar_brace : encodeChar '\x7b' = ['\x7b'] := by decide

theorem ne_brace_of_mem_encodeChar {c x : Char} (hc : c ≠ '\x7b') (h : x ∈ encodeChar c) : x ≠ '\x7b' := by
  have hv := Document.toNat_lt c
  unfold encodeChar at h
  split_ifs at h with h1 h2 h3 h4 h5 h6 h7 h8
  all_goals try
    simp only [List.mem_cons, List.not_mem_nil, or_false] at h
    rcases h with rfl | rfl <;> decide
  · rw [List.mem_singleton] at h
    exact h ▸ hc
  · unfold Quoted.escape at h
    dsimp only at h
    split at h
    · exact ne_brace_of_mem_unit (by omega) h
    · rcases List.mem_append.1 h with h | h
      · exact ne_brace_of_mem_unit (by omega) h
      · exact ne_brace_of_mem_unit (by omega) h

theorem encode_pathChars {path : List Char} (h : ∀ c ∈ path, PathChar c) : encode path = path := by
  induction path with
  | nil => rfl
  | cons c path ih =>
    obtain ⟨h1, h2, h3, h4⟩ := h c List.mem_cons_self
    have hn : c ≠ '\n' := by rintro rfl; exact absurd h3 (by decide)
    have hr : c ≠ '\r' := by rintro rfl; exact absurd h3 (by decide)
    have ht : c ≠ '\t' := by rintro rfl; exact absurd h3 (by decide)
    have hc : encodeChar c = [c] := by
      simp only [encodeChar, h1, h2, hn, hr, ht, if_false]
      rw [if_neg (by omega), if_neg (by omega), if_pos ⟨h3, h4⟩]
    have ih' := ih fun x hx => h x (List.mem_cons_of_mem c hx)
    rw [encode] at ih' ⊢
    rw [List.flatMap_cons, hc, ih']
    rfl

theorem head?_encode_append {s rest : List Char} (hs : s.head? ≠ some '\x7b')
    (hr : rest.head? ≠ some '\x7b') : (encode s ++ rest).head? ≠ some '\x7b' := by
  cases s with
  | nil => exact hr
  | cons x s =>
    have hx : x ≠ '\x7b' := fun h => hs (congrArg some h)
    obtain ⟨y, more, hy⟩ := List.exists_cons_of_ne_nil (Document.encodeChar_ne_nil x)
    have hmem : y ∈ encodeChar x := by rw [hy]; exact List.mem_cons_self
    rw [encode, List.flatMap_cons, hy]
    exact fun h => ne_brace_of_mem_encodeChar hx hmem (Option.some.inj h)

theorem fillAll_encodeChar {c : Char} {s rest : List Char} (scope : Document)
    (hc : c = '\x7b' → s.head? ≠ some '\x7b') (hr : rest.head? ≠ some '\x7b') :
    fillAll scope (encode (c :: s) ++ rest) = encodeChar c ++ fillAll scope (encode s ++ rest) := by
  rw [encode, List.flatMap_cons, List.append_assoc]
  by_cases h : c = '\x7b'
  · subst h
    rw [encodeChar_brace, List.singleton_append, List.singleton_append]
    exact fillAll_cons scope fun _ => head?_encode_append (hc rfl) hr
  · exact fillAll_append scope (fun x hx => ne_brace_of_mem_encodeChar h hx) _

theorem fillAll_leaf (scope : Document) {fuel : Nat} {s rest : List Char} (hf : s.length ≤ fuel)
    (h : Closed fuel s) (hr : rest.head? ≠ some '\x7b') :
    fillAll scope (encode s ++ rest) = (pieces fuel s).flatMap (Piece.inPlace scope) ++
      fillAll scope rest := by
  fun_induction pieces fuel s with
  | case1 s =>
    rw [List.eq_nil_of_length_eq_zero (Nat.le_zero.1 hf)]
    rfl
  | case2 fuel => rfl
  | case3 fuel body path after hp ih =>
    obtain ⟨rfl, hne, hclose⟩ := placeholder?_some hp
    rw [Closed, hp] at h
    simp only [List.length_cons, List.length_append] at hf
    have hbrace : encodeChar '\x7d' = ['\x7d'] := by decide
    have hpath := encode_pathChars h.1
    have hbody : encode ('\x7b' :: '\x7b' :: (path ++ '\x7d' :: '\x7d' :: after)) ++ rest
        = '\x7b' :: '\x7b' :: (path ++ '\x7d' :: '\x7d' :: (encode after ++ rest)) := by
      rw [encode] at hpath ⊢
      simp [encodeChar_brace, hbrace, hpath, encode]
    have hhole : (Piece.hole path).inPlace scope = substitute scope path := by
      rw [Piece.inPlace, substitute]
      cases follow (keys path) scope with
      | some d => rfl
      | none =>
        rw [encode] at hpath ⊢
        simp [encodeChar_brace, hbrace, hpath]
    rw [hbody, fillAll_hole scope hne hclose, ih (by omega) h.2, List.flatMap_cons, hhole, List.append_assoc]
  | case4 fuel body hp ih =>
    rw [Closed, hp] at h
    exact h.elim
  | case5 fuel c s hc ih =>
    simp only [List.length_cons] at hf
    have hs : Closed fuel s := by
      rw [Closed] at h
      · exact h
      · exact hc
    -- A brace stays a brace when it is written, so a single one must not meet another behind it.
    have hhead : c = '\x7b' → s.head? ≠ some '\x7b' := by
      rintro rfl heq
      obtain ⟨more, rfl⟩ := List.head?_eq_some_iff.1 heq
      exact hc more rfl rfl
    rw [fillAll_encodeChar scope hhead hr, ih (by omega) hs, List.flatMap_cons, List.append_assoc]
    rfl

theorem fillAll_key (scope : Document) {k rest : List Char} (h : ¬ ['\x7b', '\x7b'] <:+: k)
    (hr : rest.head? ≠ some '\x7b') : fillAll scope (encode k ++ rest) = encode k ++ fillAll scope rest := by
  induction k with
  | nil => rfl
  | cons c k ih =>
    have hk : ¬ ['\x7b', '\x7b'] <:+: k := fun hk => h (hk.trans (List.suffix_cons c k).isInfix)
    have hhead : c = '\x7b' → k.head? ≠ some '\x7b' := by
      rintro rfl heq
      obtain ⟨more, rfl⟩ := List.head?_eq_some_iff.1 heq
      exact h (List.prefix_append _ more).isInfix
    rw [fillAll_encodeChar scope hhead hr, ih hk, ← List.append_assoc]
    rfl

theorem fillAll_numberText (scope : Document) (n : Number) (rest : List Char) :
    fillAll scope ((n.text Number.documentNames).toList ++ rest)
      = (n.text Number.documentNames).toList ++ fillAll scope rest := by
  have hmarks : ∀ c ∈ Document.numberMarks, c ≠ '\x7b' := by simp [Document.numberMarks]
  apply fillAll_append
  intro c hc
  rcases Document.mem_numberText hc with h | h
  · rintro rfl
    exact absurd h (by decide)
  · exact hmarks c h

/-! The written document as a whole. -/

section
variable (scope : Document)

mutual

theorem fillAll_writtenBy (d : Document) (hj : d.IsJson) (hc : d.Every ClosedPart) (rest : List Char) :
    fillAll scope (d.writtenBy Document.encoded ++ rest) =
      d.writtenBy (filledLeaf scope) ++ fillAll scope rest := by
  cases d with
  | null => exact fillAll_append (w := ['n', 'u', 'l', 'l']) scope (by simp) rest
  | boolean b =>
    cases b
    · exact fillAll_append (w := ['f', 'a', 'l', 's', 'e']) scope (by simp) rest
    · exact fillAll_append (w := ['t', 'r', 'u', 'e']) scope (by simp) rest
  | number n => exact fillAll_numberText scope n rest
  | text s =>
    have hquote : ('"' :: rest).head? ≠ some '\x7b' := by simp
    have hleaf := fillAll_leaf scope (Nat.le_refl _) hc hquote
    simp only [Document.writtenBy, List.cons_append, List.append_assoc, List.nil_append]
    rw [fillAll_cons scope (by simp), Document.encoded, hleaf, fillAll_cons scope (by simp)]
    rfl
  | list items =>
    have hi := fillAll_writtenItemsBy items hj.2 hc.2 (']' :: rest)
    simp only [Document.writtenBy, List.cons_append, List.append_assoc, List.nil_append]
    rw [fillAll_cons scope (by simp), hi, fillAll_cons scope (by simp)]
  | object members =>
    have hm := fillAll_writtenMembersBy members hj.2 hc.1 hc.2 ('\x7d' :: rest)
    have hhead : (Document.writtenMembersBy Document.encoded members ++ '\x7d' :: rest).head? ≠
        some '\x7b' := by
      cases members with
      | nil => simp [Document.writtenMembersBy]
      | cons m more =>
        obtain ⟨k, d⟩ := m
        simp [Document.writtenMembersBy]
    simp only [Document.writtenBy, List.cons_append, List.append_assoc, List.nil_append]
    rw [fillAll_cons scope fun _ => hhead, hm, fillAll_cons scope (by simp)]
  | date t => exact hj.elim
  | decimal x => exact hj.elim
  | wrapped v => exact hj.elim

theorem fillAll_writtenItemsBy (items : List Document) (hj : Document.EveryItem Document.IsJsonPart items)
    (hc : Document.EveryItem ClosedPart items) (rest : List Char) :
    fillAll scope (Document.writtenItemsBy Document.encoded items ++ rest)
      = Document.writtenItemsBy (filledLeaf scope) items ++ fillAll scope rest := by
  cases items with
  | nil => rfl
  | cons d more =>
    have hd := fillAll_writtenBy d hj.1 hc.1
    have hmore := fillAll_writtenItemsBy more hj.2 hc.2 rest
    cases more with
    | nil => simp [Document.writtenItemsBy, hd]
    | cons e more =>
      rw [Document.writtenItemsBy.eq_2 _ d, Document.writtenItemsBy.eq_2 _ d, List.append_assoc, hd]
      simp only [List.isEmpty_cons, Bool.false_eq_true, if_false, List.cons_append, List.append_assoc]
      rw [fillAll_cons scope (by simp), fillAll_cons scope (by simp), hmore]

theorem fillAll_writtenMembersBy (members : Members) (hj : Document.EveryMember Document.IsJsonPart members)
    (hk : ∀ m ∈ members, ¬ ['\x7b', '\x7b'] <:+: m.1.toList) (hc : Document.EveryMember ClosedPart members)
    (rest : List Char) : fillAll scope (Document.writtenMembersBy Document.encoded members ++ rest)
      = Document.writtenMembersBy (filledLeaf scope) members ++ fillAll scope rest := by
  cases members with
  | nil => rfl
  | cons m more =>
    obtain ⟨k, d⟩ := m
    have hd := fillAll_writtenBy d hj.1 hc.1
    have hmore := fillAll_writtenMembersBy more hj.2 (fun m hm => hk m (List.mem_cons_of_mem _ hm)) hc.2 rest
    have hkey := hk (k, d) List.mem_cons_self
    simp only [Document.writtenMembersBy, List.cons_append, List.append_assoc]
    rw [fillAll_cons scope (by simp), fillAll_key scope hkey (by simp), fillAll_cons scope (by simp),
      fillAll_cons scope (by simp), fillAll_cons scope (by simp), hd]
    cases more with
    | nil => simp
    | cons m more =>
      simp only [List.isEmpty_cons, Bool.false_eq_true, if_false, List.cons_append]
      rw [fillAll_cons scope (by simp), fillAll_cons scope (by simp), hmore]

end

end

theorem fillsInPlace_of_closed (scope : Document) {d : Document} (hj : d.IsJson) (hc : d.Every ClosedPart) :
    FillsInPlace scope d := by
  have h := fillAll_writtenBy scope d hj hc []
  rw [List.append_nil, fillAll_nil, List.append_nil] at h
  rw [FillsInPlace, interpolate, Document.toList_written d hj, ← h]
  rfl

end Template

end RecordDesk
