import RecordDesk.Proofs.Document.Nesting
import RecordDesk.Proofs.Template.Payload
set_option autoImplicit false

namespace RecordDesk

namespace Template

theorem interpolatePayload_of_clean {scope : Document} {members : Members}
    (hj : (Document.object members).IsJson) (hin : FillsInPlace scope (.object members))
    (hclean : (Document.object members).Every (CleanPart scope))
    (hf : (Document.object members).Fits) :
    (Document.object members).nesting ≤ Document.nestingLimit ∧
        interpolatePayload scope (.object members) =
          .ok ((Document.object members).mapTexts (interpolate scope)) ∨
      Document.nestingLimit < (Document.object members).nesting ∧
        ∃ collection, interpolatePayload scope (.object members) = .error (.nestedTooDeep collection) := by
  have hread := Document.read_writtenBy_of_fits hj (hclean.imp (spellsPart_of_clean scope)) hf
  rw [interpolatePayload, hin]
  · rcases hread with ⟨hn, hok⟩ | ⟨hn, collection, hdeep⟩
    · rw [hok]
      exact .inl ⟨hn, rfl⟩
    · rw [hdeep]
      exact .inr ⟨hn, collection, rfl⟩
  · simp

/-- A payload whose keys open no placeholder, whose texts close the ones they open, and whose placeholders
lead to texts that need no escape, is never refused for what was put in. What comes back is the payload
itself with each of its texts filled: its keys, their order, its nesting, its numbers and all else stay.
Only nesting is bounded, by what the reader takes. -/
theorem interpolatePayload_fills_leaves (scope : Document) (members : Members)
    (hj : (Document.object members).IsJson) (hf : (Document.object members).Fits)
    (hclosed : (Document.object members).Every ClosedPart)
    (hclean : (Document.object members).Every (CleanPart scope)) :
    (∀ fault, interpolatePayload scope (.object members) ≠ .error (.template fault)) ∧
    ((Document.object members).nesting ≤ Document.nestingLimit →
      interpolatePayload scope (.object members) =
        .ok ((Document.object members).mapTexts (interpolate scope))) ∧
    (Document.nestingLimit < (Document.object members).nesting →
      ∃ collection, interpolatePayload scope (.object members) = .error (.nestedTooDeep collection)) := by
  rcases interpolatePayload_of_clean hj (fillsInPlace_of_closed scope hj hclosed) hclean hf with
    ⟨hn, hok⟩ | ⟨hn, collection, hdeep⟩
  · refine ⟨fun fault h => ?_, fun _ => hok, fun h => absurd hn (by omega)⟩
    rw [hok] at h
    cases h
  · refine ⟨fun fault h => ?_, fun h => absurd hn (by omega), fun _ => ⟨collection, hdeep⟩⟩
    rw [hdeep] at h
    cases h

/-! A payload with all kinds of parts, among them a text with quotes, a line break and characters past
ASCII. -/

def sundries : Document :=
  .list [.text "\"é\n\\😀 \x7b", .number (.int (-12)), .boolean true, .null, .object []]

def letter : Members := greeting ++ [("ключ", sundries)]

theorem leafPieces_sundries : leafPieces "\"é\n\\😀 \x7b" = "\"é\n\\😀 \x7b".toList.map .char := rfl

theorem interpolate_sundries (scope : Document) : interpolate scope "\"é\n\\😀 \x7b" = "\"é\n\\😀 \x7b" := by
  apply String.toList_injective
  rw [toList_interpolate, leafPieces_sundries, List.flatMap_map]
  simp [Piece.filled]

theorem interpolate_greeting (x : String) :
    interpolate (contextOf x).scope "\x7b\x7brecord.fields.x\x7d\x7d" = x := by
  apply String.toList_injective
  rw [toList_interpolate, leafPieces_greeting, List.flatMap_singleton,
    (Piece.filled_of_some (follow_greeting x)).2]
  rfl

theorem isJson_letter : (Document.object letter).IsJson :=
  ⟨show ["a", "ключ"].Nodup by decide, trivial,
    ⟨trivial, trivial, trivial, trivial, trivial, ⟨List.nodup_nil, trivial⟩, trivial⟩, trivial⟩

theorem fits_letter : (Document.object letter).Fits := by
  have hdigits : (Number.int (-12)).Fits := show (Nat.toDigits 10 12).length ≤ 4300 by decide
  exact ⟨trivial, trivial, ⟨trivial, trivial, hdigits, trivial, trivial, ⟨trivial, trivial⟩, trivial⟩,
    trivial⟩

theorem closed_letter : (Document.object letter).Every ClosedPart := by
  have hkeys : ClosedPart (.object letter) := by
    simp only [ClosedPart, letter, greeting, List.cons_append, List.nil_append, List.forall_mem_cons]
    exact ⟨show ¬ ['\x7b', '\x7b'] <:+: ['a'] by decide,
      show ¬ ['\x7b', '\x7b'] <:+: ['к', 'л', 'ю', 'ч'] by decide, by simp⟩
  have hempty : ClosedPart (.object []) := by simp [ClosedPart]
  exact ⟨hkeys, closed_greeting.2.1,
    ⟨trivial, trivial, trivial, trivial, trivial, ⟨hempty, trivial⟩, trivial⟩, trivial⟩

theorem clean_letter : (Document.object letter).Every (CleanPart (contextOf "Ada").scope) := by
  have hplain : ∀ c ∈ ['A', 'd', 'a'], Document.IsPlain c := by simp [Document.IsPlain]
  have hchars : CleanPart (contextOf "Ada").scope (.text "\"é\n\\😀 \x7b") := by
    intro p hp
    rw [leafPieces_sundries] at hp
    obtain ⟨c, -, rfl⟩ := List.mem_map.1 hp
    trivial
  exact ⟨trivial, clean_greeting hplain,
    ⟨trivial, hchars, trivial, trivial, trivial, ⟨trivial, trivial⟩, trivial⟩,
    trivial⟩

theorem letter_filled : interpolatePayload (contextOf "Ada").scope (.object letter)
    = .ok (.object [("a", .text "Ada"), ("ключ", sundries)]) := by
  have hfilled := (interpolatePayload_fills_leaves (contextOf "Ada").scope letter isJson_letter fits_letter
    closed_letter clean_letter).2.1 (by decide)
  simpa [letter, greeting, sundries, Document.mapTexts, Document.mapMembers, Document.mapItems,
    interpolate_greeting, interpolate_sundries] using hfilled

end Template

end RecordDesk
