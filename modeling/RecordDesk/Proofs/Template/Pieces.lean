import RecordDesk.Proofs.Document.WrittenLoad
import RecordDesk.Template
set_option autoImplicit false

/-!
A template cut into pieces: characters that stay, and holes. Filling goes piece by piece; in a written
document the characters are escaped, and what goes into a hole is not.
-/

namespace RecordDesk

namespace Template

open Document (IsPlain Spells load textLoad)
open Quoted (encodeChar encode)

inductive Piece where
  | char (c : Char)
  | hole (path : List Char)

/-- Cuts a template from the left. The fuel is a text's length. -/
def pieces : Nat → List Char → List Piece
  | 0, s => s.map .char
  | _ + 1, [] => []
  | fuel + 1, '\x7b' :: '\x7b' :: rest =>
    match placeholder? rest with
    | some (path, after) => .hole path :: pieces fuel after
    | none => .char '\x7b' :: pieces fuel ('\x7b' :: rest)
  | fuel + 1, c :: rest => .char c :: pieces fuel rest

namespace Piece

def filled (scope : Document) : Piece → List Char
  | .char c => [c]
  | .hole path => substitute scope path

/-- What a piece becomes between the quotes of a written document: a hole that leads nowhere stays as it was
written, and one that leads somewhere holds the text as it is. -/
def inPlace (scope : Document) : Piece → List Char
  | .char c => encodeChar c
  | .hole path => match follow (keys path) scope with
    | some d => (Value.of d).asText.toList
    | none => encode ('\x7b' :: '\x7b' :: path ++ ['\x7d', '\x7d'])

/-- What goes into a hole has only characters that stand for themselves. -/
def Clean (scope : Document) : Piece → Prop
  | .char _ => True
  | .hole path => ∀ d, follow (keys path) scope = some d → ∀ c ∈ (Value.of d).asText.toList, IsPlain c

end Piece

theorem fill_eq_flatMap (scope : Document) (fuel : Nat) (s : List Char) :
    fill scope fuel s = (pieces fuel s).flatMap (Piece.filled scope) := by
  fun_induction pieces fuel s with
  | case1 s =>
    rw [fill, List.flatMap_map]
    simp [Piece.filled]
  | case2 fuel => rfl
  | case3 fuel rest path after hp ih =>
    rw [fill, hp, List.flatMap_cons, ← ih]
    rfl
  | case4 fuel rest hp ih =>
    rw [fill, hp, List.flatMap_cons, ← ih]
    rfl
  | case5 fuel c rest hc ih =>
    rw [fill, List.flatMap_cons, ← ih]
    · rfl
    · exact hc

theorem load_le_textLoad (s : List Char) : load s ≤ textLoad s := by
  induction s with
  | nil => exact Nat.le_refl _
  | cons c s ih =>
    rw [Document.load_cons, Document.textLoad_cons]
    rcases Document.load_encodeChar c with ⟨h, -⟩ | ⟨h, -⟩ <;> omega

theorem isPlain_of_textLoad_le {s : List Char} (h : textLoad s ≤ load s) : ∀ c ∈ s, IsPlain c := by
  induction s with
  | nil => simp
  | cons c s ih =>
    rw [Document.load_cons, Document.textLoad_cons] at h
    have hs := load_le_textLoad s
    rcases Document.load_encodeChar c with ⟨he, hc⟩ | ⟨he, -⟩
    · intro x hx
      rcases List.mem_cons.1 hx with rfl | hx
      · exact hc
      · exact ih (by omega) x hx
    · omega

namespace Piece

theorem filled_of_some {scope : Document} {path : List Char} {d : Document}
    (h : follow (keys path) scope = some d) : (hole path).inPlace scope = (Value.of d).asText.toList ∧
    (hole path).filled scope = (Value.of d).asText.toList := by
  constructor
  · rw [inPlace, h]
  · rw [filled, substitute, h]

theorem filled_of_none {scope : Document} {path : List Char} (h : follow (keys path) scope = none) :
    (hole path).inPlace scope = encode ((hole path).filled scope) := by
  rw [inPlace, filled, substitute, h]

theorem spells {scope : Document} {p : Piece} (h : p.Clean scope) :
    Spells (p.inPlace scope) (p.filled scope) := by
  cases p with
  | char c =>
    have hc := Document.spells_encode [c]
    simpa [inPlace, filled, encode] using hc
  | hole path =>
    cases hf : follow (keys path) scope with
    | some d =>
      obtain ⟨h1, h2⟩ := filled_of_some hf
      rw [h1, h2]
      exact Document.spells_of_plain (h d hf)
    | none =>
      rw [filled_of_none hf]
      exact Document.spells_encode _

theorem load_inPlace_le (scope : Document) (p : Piece) :
    load (p.inPlace scope) ≤ textLoad (p.filled scope) := by
  cases p with
  | char c => simp [inPlace, filled, textLoad, encode]
  | hole path =>
    cases hf : follow (keys path) scope with
    | some d =>
      obtain ⟨h1, h2⟩ := filled_of_some hf
      rw [h1, h2]
      exact load_le_textLoad _
    | none =>
      rw [filled_of_none hf]
      exact Nat.le_refl _

theorem clean_of_load {scope : Document} {p : Piece}
    (h : textLoad (p.filled scope) ≤ load (p.inPlace scope)) :
    p.Clean scope := by
  cases p with
  | char c => trivial
  | hole path =>
    intro d hd
    obtain ⟨h1, h2⟩ := filled_of_some hd
    rw [h1, h2] at h
    exact isPlain_of_textLoad_le h

end Piece

/-! The pieces of a text together. -/

theorem spells_flatMap {scope : Document} {ps : List Piece} (h : ∀ p ∈ ps, p.Clean scope) :
    Spells (ps.flatMap (Piece.inPlace scope)) (ps.flatMap (Piece.filled scope)) := by
  induction ps with
  | nil => exact .nil
  | cons p ps ih =>
    rw [List.flatMap_cons, List.flatMap_cons]
    exact (Piece.spells (h p List.mem_cons_self)).append (ih fun q hq => h q (List.mem_cons_of_mem p hq))

theorem load_flatMap_le (scope : Document) (ps : List Piece) :
    load (ps.flatMap (Piece.inPlace scope)) ≤ textLoad (ps.flatMap (Piece.filled scope)) := by
  induction ps with
  | nil => exact Nat.le_refl _
  | cons p ps ih =>
    have hp := Piece.load_inPlace_le scope p
    rw [List.flatMap_cons, List.flatMap_cons, Document.load_append, Document.textLoad_append]
    omega

theorem clean_of_load_flatMap {scope : Document} {ps : List Piece}
    (h : textLoad (ps.flatMap (Piece.filled scope)) ≤ load (ps.flatMap (Piece.inPlace scope))) :
    ∀ p ∈ ps, p.Clean scope := by
  induction ps with
  | nil => simp
  | cons p ps ih =>
    have hp := Piece.load_inPlace_le scope p
    have hps := load_flatMap_le scope ps
    rw [List.flatMap_cons, List.flatMap_cons, Document.load_append, Document.textLoad_append] at h
    intro q hq
    rcases List.mem_cons.1 hq with rfl | hq
    · exact Piece.clean_of_load (by omega)
    · exact ih (by omega) q hq

def leafPieces (s : String) : List Piece := pieces s.toList.length s.toList

theorem toList_interpolate (scope : Document) (s : String) :
    (interpolate scope s).toList = (leafPieces s).flatMap (Piece.filled scope) := by
  rw [interpolate, String.toList_ofList, fill_eq_flatMap]
  rfl

def filledLeaf (scope : Document) (s : String) : List Char := (leafPieces s).flatMap (Piece.inPlace scope)

end Template

end RecordDesk
