import RecordDesk.Proofs.Template.Contained
set_option autoImplicit false

namespace RecordDesk

namespace Template

def CleanPart (scope : Document) : Document → Prop
  | .text s => ∀ p ∈ leafPieces s, p.Clean scope
  | _ => True

def ResolvedPart (scope : Document) : Document → Prop
  | .text s => ∀ path, Piece.hole path ∈ leafPieces s → (follow (keys path) scope).isSome
  | _ => True

theorem spellsPart_of_clean (scope : Document) (d : Document) (h : CleanPart scope d) :
    Document.SpellsPart (filledLeaf scope) (interpolate scope) d := by
  cases d with
  | text s =>
    show Document.Spells (filledLeaf scope s) (interpolate scope s).toList
    rw [toList_interpolate]
    exact spells_flatMap h
  | _ => trivial

theorem loadPart_le (scope : Document) (d : Document) :
    Document.LoadPart (· ≤ ·) (fun s => Document.load (filledLeaf scope s))
      (fun s => Document.escapedLoad (interpolate scope s)) d := by
  cases d with
  | text s =>
    show Document.load (filledLeaf scope s) ≤ Document.textLoad (interpolate scope s).toList
    rw [toList_interpolate]
    exact load_flatMap_le scope (leafPieces s)
  | _ => trivial

theorem clean_of_loadPart (scope : Document) (d : Document)
    (h : Document.LoadPart (· = ·) (fun s => Document.load (filledLeaf scope s))
      (fun s => Document.escapedLoad (interpolate scope s)) d) : CleanPart scope d := by
  cases d with
  | text s =>
    have hs : Document.load (filledLeaf scope s) = Document.textLoad (interpolate scope s).toList := h
    rw [toList_interpolate] at hs
    exact clean_of_load_flatMap hs.ge
  | _ => trivial

theorem read_of_interpolatePayload {scope payload d : Document} (hin : FillsInPlace scope payload)
    (hnull : payload ≠ .null) (h : interpolatePayload scope payload = .ok d) :
    Document.read (String.ofList (payload.writtenBy (filledLeaf scope))) = .ok d := by
  rw [← hin]
  unfold interpolatePayload at h
  split at h
  · exact absurd rfl hnull
  · split at h
    · rename_i hread
      rw [hread]
      exact congrArg Except.ok (Except.ok.inj h)
    all_goals cases h

/-- Filled in place, a payload keeps its shape just when nothing that goes into its holes has to be
escaped. -/
theorem interpolatePayload_eq_iff {scope : Document} {members : Members} {d : Document}
    (hj : (Document.object members).IsJson) (hin : FillsInPlace scope (.object members))
    (h : interpolatePayload scope (.object members) = .ok d) :
    d = (Document.object members).mapTexts (interpolate scope) ↔
      (Document.object members).Every (CleanPart scope) := by
  have hread := read_of_interpolatePayload hin (by simp) h
  constructor
  · -- The text has no more load than its clean filling would; equal documents leave no room for an escape.
    rintro rfl
    have hle := Document.every_of_forall (loadPart_le scope) (.object members)
    exact (Document.load_eq_of_read hj hle hread).imp (clean_of_loadPart scope)
  · intro hclean
    exact Document.read_writtenBy hj (hclean.imp (spellsPart_of_clean scope)) hread

/-! A payload with one hole, and a context that fills it. -/

def greeting : Members := [("a", .text "\x7b\x7brecord.fields.x\x7d\x7d")]

def contextOf (x : String) : Context :=
  ⟨⟨"r", [("x", .text x)], ⟨0, none⟩, none⟩, ⟨"e", "E", "e"⟩, .system, ⟨"q", "Q"⟩, ⟨"t", "T"⟩⟩

theorem isJson_greeting : (Document.object greeting).IsJson :=
  ⟨by simp [Document.IsJsonPart, greeting], trivial, trivial⟩

theorem leafPieces_greeting :
    leafPieces "\x7b\x7brecord.fields.x\x7d\x7d" = [.hole "record.fields.x".toList] := rfl

theorem follow_greeting (x : String) :
    follow (keys "record.fields.x".toList) (contextOf x).scope = some (.text x) := rfl

theorem resolved_greeting (x : String) :
    ResolvedPart (contextOf x).scope (.text "\x7b\x7brecord.fields.x\x7d\x7d") := by
  intro path hp
  rw [leafPieces_greeting, List.mem_singleton] at hp
  cases hp
  rw [follow_greeting]
  rfl

theorem clean_greeting {x : String} (h : ∀ c ∈ x.toList, Document.IsPlain c) :
    CleanPart (contextOf x).scope (.text "\x7b\x7brecord.fields.x\x7d\x7d") := by
  intro p hp
  rw [leafPieces_greeting, List.mem_singleton] at hp
  subst hp
  intro d hd
  rw [follow_greeting] at hd
  cases hd
  exact h

theorem closed_greeting : (Document.object greeting).Every ClosedPart := by
  refine ⟨?_, ?_, trivial⟩
  · intro m hm
    rw [List.mem_singleton.1 hm]
    show ¬ ['\x7b', '\x7b'] <:+: ['a']
    decide
  · show (∀ c ∈ ['r', 'e', 'c', 'o', 'r', 'd', '.', 'f', 'i', 'e', 'l', 'd', 's', '.', 'x'], PathChar c) ∧
      True
    simp [PathChar]

theorem interpolatePayload_greeting {x : String} {d : Document}
    (h : Document.read (String.ofList (['\x7b', '"', 'a', '"', ':', ' ', '"'] ++ x.toList ++
      ['"', '\x7d'])) = .ok d) :
    interpolatePayload (contextOf x).scope (.object greeting) = .ok d := by
  have hleaf : filledLeaf (contextOf x).scope "\x7b\x7brecord.fields.x\x7d\x7d" = x.toList := by
    rw [filledLeaf, leafPieces_greeting, List.flatMap_singleton, (Piece.filled_of_some (follow_greeting x)).1]
    rfl
  have hwritten : (Document.object greeting).writtenBy (filledLeaf (contextOf x).scope)
      = ['\x7b', '"', 'a', '"', ':', ' ', '"'] ++ x.toList ++ ['"', '\x7d'] := by
    simp only [greeting, Document.writtenBy, Document.writtenMembersBy, hleaf]
    simp [Quoted.encode, Quoted.encodeChar]
  have hin := fillsInPlace_of_closed (contextOf x).scope isJson_greeting closed_greeting
  rw [FillsInPlace, hwritten] at hin
  rw [interpolatePayload, hin, h]
  simp

theorem greeting_keeps_shape :
    Document.object [("a", .text "Ada")] =
      (Document.object greeting).mapTexts (interpolate (contextOf "Ada").scope) := by
  have htext : "Ada".toList = ['A', 'd', 'a'] := rfl
  have hread := interpolatePayload_greeting (x := "Ada") (d := .object [("a", .text "Ada")]) (by
    rw [Document.read, String.toList_ofList, htext]
    rfl)
  have hplain : ∀ c ∈ "Ada".toList, Document.IsPlain c := by
    rw [htext]
    simp [Document.IsPlain]
  exact (interpolatePayload_eq_iff isJson_greeting
    (fillsInPlace_of_closed _ isJson_greeting closed_greeting) hread).2
    ⟨trivial, clean_greeting hplain, trivial⟩

/-- A text that closes its own quotes brings a key of its own. -/
theorem quote_brings_key : ¬ ∀ (c : Context) (members : Members) (d : Document),
    (Document.object members).IsJson →
    (Document.object members).Every ClosedPart → (Document.object members).Every (ResolvedPart c.scope) →
    interpolatePayload c.scope (.object members) = .ok d →
    d = (Document.object members).mapTexts (interpolate c.scope) := by
  intro hall
  have htext : "1\",\"b\":\"2".toList = ['1', '"', ',', '"', 'b', '"', ':', '"', '2'] := rfl
  have hread := interpolatePayload_greeting (x := "1\",\"b\":\"2")
    (d := .object [("a", .text "1"), ("b", .text "2")]) (by
      rw [Document.read, String.toList_ofList, htext]
      rfl)
  have hd := hall _ greeting _ isJson_greeting closed_greeting ⟨trivial, resolved_greeting _, trivial⟩ hread
  simp [greeting, Document.mapTexts, Document.mapMembers] at hd

/-- A text that opens a placeholder without closing it, in front of one with a placeholder of its own. -/
def crossing : Members := [("a", .text "\x7b\x7b"), ("b", .text "\x7b\x7brecord.fields.x\x7d\x7d")]

theorem isJson_crossing : (Document.object crossing).IsJson :=
  ⟨by simp [Document.IsJsonPart, crossing], trivial, trivial, trivial⟩

theorem leafPieces_crossing : leafPieces "\x7b\x7b" = [.char '\x7b', .char '\x7b'] := rfl

theorem interpolatePayload_crossing :
    interpolatePayload (contextOf "Ada").scope (.object crossing) = .ok (.object crossing) := by
  have hread : Document.scan ((Document.object crossing).writtenBy Document.encoded) =
    .ok (.object crossing) := rfl
  have hfill : interpolate (contextOf "Ada").scope ((Document.object crossing).written .spaced)
      = String.ofList ((Document.object crossing).writtenBy Document.encoded) := by
    rw [interpolate, Document.toList_written _ isJson_crossing]
    rfl
  rw [interpolatePayload, hfill]
  · rw [Document.read, String.toList_ofList, hread]
    rfl
  · simp

/-- Clean texts alone do not keep the shape: where a placeholder runs into the next text, nothing is
filled. -/
theorem clean_not_enough : ¬ ∀ (c : Context) (members : Members) (d : Document),
    (Document.object members).IsJson → (Document.object members).Every (ResolvedPart c.scope) →
    (Document.object members).Every (CleanPart c.scope) →
    interpolatePayload c.scope (.object members) = .ok d →
    d = (Document.object members).mapTexts (interpolate c.scope) := by
  intro hall
  have hb : interpolate (contextOf "Ada").scope "\x7b\x7brecord.fields.x\x7d\x7d" = "Ada" := by
    apply String.toList_injective
    rw [toList_interpolate, leafPieces_greeting, List.flatMap_singleton,
      (Piece.filled_of_some (follow_greeting "Ada")).2]
    rfl
  have hd := hall _ crossing _ isJson_crossing ⟨trivial, ?_, ?_, trivial⟩ ⟨trivial, ?_, ?_, trivial⟩
    interpolatePayload_crossing
  · simp [crossing, Document.mapTexts, Document.mapMembers, hb] at hd
  · intro path hp
    simp [leafPieces_crossing] at hp
  · exact resolved_greeting "Ada"
  · intro p hp
    simp only [leafPieces_crossing, List.mem_cons, List.not_mem_nil, or_false] at hp
    rcases hp with rfl | rfl <;> trivial
  · exact clean_greeting (show ∀ c ∈ ['A', 'd', 'a'], Document.IsPlain c by simp [Document.IsPlain])
end Template

end RecordDesk
