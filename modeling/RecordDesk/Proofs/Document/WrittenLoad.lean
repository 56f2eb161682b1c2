import RecordDesk.Proofs.Document.Load
set_option autoImplicit false

/-!
The load of a written document. It is the sum of the loads of its parts, and a text that reads back as
another document than it spells has not enough of it.
-/

namespace RecordDesk

namespace Document

theorem load_eq_zero {s : List Char} (h : ∀ c ∈ s, charLoad c = 0) : load s = 0 := by
  induction s with
  | nil => rfl
  | cons c s ih =>
    rw [load_cons, h c List.mem_cons_self, ih fun x hx => h x (List.mem_cons_of_mem c hx)]

theorem charLoad_digit {c : Char} (h : c.isDigit = true) : charLoad c = 0 := by
  have hd : c.toNat ≤ 57 := (Char.isDigit_iff_toNat.1 h).2
  have hne : ¬ (c = '"' ∨ c = '\\' ∨ c = 'u') := by
    rintro (rfl | rfl | rfl) <;> exact absurd h (by decide)
  rw [charLoad, if_neg hne, if_pos (by omega)]

theorem load_numberText (n : Number) : load (n.text Number.documentNames).toList = 0 := by
  have hmarks : ∀ c ∈ numberMarks, charLoad c = 0 := by simp [numberMarks, charLoad]
  apply load_eq_zero
  intro c hc
  rcases mem_numberText hc with h | h
  · exact charLoad_digit h
  · exact hmarks c h

mutual

theorem load_writtenBy (leaf : String → List Char) (d : Document) (h : d.IsJson) :
    load (d.writtenBy leaf) = d.loadBy fun s => load (leaf s) := by
  cases d with
  | null => simp [writtenBy, loadBy, charLoad]
  | boolean b => cases b <;> simp [writtenBy, loadBy, charLoad]
  | number n => exact load_numberText n
  | text s =>
    simp only [writtenBy, loadBy, load_cons, load_append, load_nil, charLoad_quote]
    omega
  | list items =>
    have hi := load_writtenItemsBy leaf items h.2
    simp [writtenBy, loadBy, charLoad, hi]
  | object members =>
    have hm := load_writtenMembersBy leaf members h.2
    simp [writtenBy, loadBy, charLoad, hm]
  | date t => exact h.elim
  | decimal x => exact h.elim
  | wrapped v => exact h.elim

theorem load_writtenItemsBy (leaf : String → List Char) (items : List Document)
    (h : EveryItem IsJsonPart items) :
    load (writtenItemsBy leaf items) = loadItemsBy (fun s => load (leaf s)) items := by
  cases items with
  | nil => rfl
  | cons d more =>
    have hd := load_writtenBy leaf d h.1
    have hmore := load_writtenItemsBy leaf more h.2
    rw [writtenItemsBy, loadItemsBy, ← hmore, ← hd]
    cases more <;> simp [writtenItemsBy, charLoad]

theorem load_writtenMembersBy (leaf : String → List Char) (members : Members)
    (h : EveryMember IsJsonPart members) :
    load (writtenMembersBy leaf members) = loadMembersBy (fun s => load (leaf s)) members := by
  cases members with
  | nil => rfl
  | cons m more =>
    obtain ⟨k, d⟩ := m
    have hd := load_writtenBy leaf d h.1
    have hmore := load_writtenMembersBy leaf more h.2
    rw [writtenMembersBy, loadMembersBy, ← hmore, ← hd, textLoad]
    cases more <;> simp [writtenMembersBy, charLoad] <;> omega

end

mutual

theorem loadBy_mapTexts (leaf : String → Nat) (f : String → String) (d : Document) :
    (d.mapTexts f).loadBy leaf = d.loadBy fun s => leaf (f s) := by
  cases d with
  | list items => exact loadItemsBy_mapItems leaf f items
  | object members => exact loadMembersBy_mapMembers leaf f members
  | null => rfl
  | boolean b => rfl
  | number n => rfl
  | text s => rfl
  | date t => rfl
  | decimal x => rfl
  | wrapped v => rfl

theorem loadItemsBy_mapItems (leaf : String → Nat) (f : String → String) (items : List Document) :
    loadItemsBy leaf (mapItems f items) = loadItemsBy (fun s => leaf (f s)) items := by
  cases items with
  | nil => rfl
  | cons d more => rw [mapItems, loadItemsBy, loadBy_mapTexts, loadItemsBy_mapItems, loadItemsBy]

theorem loadMembersBy_mapMembers (leaf : String → Nat) (f : String → String) (members : Members) :
    loadMembersBy leaf (mapMembers f members) = loadMembersBy (fun s => leaf (f s)) members := by
  cases members with
  | nil => rfl
  | cons m more =>
    obtain ⟨k, d⟩ := m
    rw [mapMembers, loadMembersBy, loadBy_mapTexts, loadMembersBy_mapMembers, loadMembersBy]

end

def LoadPart (r : Nat → Nat → Prop) (g h : String → Nat) : Document → Prop
  | .text s => r (g s) (h s)
  | _ => True

mutual

/-- A document is no lighter than another way to count it, and as heavy only if each text is. -/
theorem loadBy_le {g h : String → Nat} (d : Document) (hle : d.Every (LoadPart (· ≤ ·) g h)) :
    d.loadBy g ≤ d.loadBy h ∧ (d.loadBy h ≤ d.loadBy g → d.Every (LoadPart (· = ·) g h)) := by
  cases d with
  | text s =>
    have hs : g s ≤ h s := hle
    refine ⟨Nat.add_le_add_right hs 2, fun he => ?_⟩
    have he' : h s + 2 ≤ g s + 2 := he
    show g s = h s
    omega
  | list items =>
    obtain ⟨h1, h2⟩ := loadItemsBy_le items hle.2
    exact ⟨h1, fun he => ⟨trivial, h2 he⟩⟩
  | object members =>
    obtain ⟨h1, h2⟩ := loadMembersBy_le members hle.2
    exact ⟨h1, fun he => ⟨trivial, h2 he⟩⟩
  | null => exact ⟨Nat.le_refl _, fun _ => trivial⟩
  | boolean b => exact ⟨Nat.le_refl _, fun _ => trivial⟩
  | number n => exact ⟨Nat.le_refl _, fun _ => trivial⟩
  | date t => exact ⟨Nat.le_refl _, fun _ => trivial⟩
  | decimal x => exact ⟨Nat.le_refl _, fun _ => trivial⟩
  | wrapped v => exact ⟨Nat.le_refl _, fun _ => trivial⟩

theorem loadItemsBy_le {g h : String → Nat} (items : List Document)
    (hle : EveryItem (LoadPart (· ≤ ·) g h) items) : loadItemsBy g items ≤ loadItemsBy h items ∧
      (loadItemsBy h items ≤ loadItemsBy g items → EveryItem (LoadPart (· = ·) g h) items) := by
  cases items with
  | nil => exact ⟨Nat.le_refl _, fun _ => trivial⟩
  | cons d more =>
    obtain ⟨h1, h2⟩ := loadBy_le d hle.1
    obtain ⟨h3, h4⟩ := loadItemsBy_le more hle.2
    simp only [loadItemsBy]
    exact ⟨by omega, fun he => ⟨h2 (by omega), h4 (by omega)⟩⟩

theorem loadMembersBy_le {g h : String → Nat} (members : Members)
    (hle : EveryMember (LoadPart (· ≤ ·) g h) members) :
    loadMembersBy g members ≤ loadMembersBy h members ∧
      (loadMembersBy h members ≤ loadMembersBy g members → EveryMember (LoadPart (· = ·) g h) members) := by
  cases members with
  | nil => exact ⟨Nat.le_refl _, fun _ => trivial⟩
  | cons m more =>
    obtain ⟨k, d⟩ := m
    obtain ⟨h1, h2⟩ := loadBy_le d hle.1
    obtain ⟨h3, h4⟩ := loadMembersBy_le more hle.2
    simp only [loadMembersBy]
    exact ⟨by omega, fun he => ⟨h2 (by omega), h4 (by omega)⟩⟩

end

/-- A document that reads back with its texts replaced had the load of what replaces them. -/
theorem load_eq_of_read {leaf : String → List Char} {f : String → String} {d : Document} (hj : d.IsJson)
    (hle : d.Every (LoadPart (· ≤ ·) (fun s => load (leaf s)) fun s => escapedLoad (f s)))
    (h : read (String.ofList (d.writtenBy leaf)) = .ok (d.mapTexts f)) :
    d.Every (LoadPart (· = ·) (fun s => load (leaf s)) fun s => escapedLoad (f s)) := by
  have hload := scan_load (scan_of_read h)
  rw [loadBy_mapTexts, load_writtenBy leaf d hj] at hload
  exact (loadBy_le d hle).2 hload

end Document

end RecordDesk
