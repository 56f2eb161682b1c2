import RecordDesk.Proofs.Document.NumberReads
import RecordDesk.Proofs.Document.TextReads
set_option autoImplicit false

namespace RecordDesk

namespace Document

open Quoted (encode)

mutual

/-- A property of a document and of every document inside it. -/
def Every (p : Document → Prop) : Document → Prop
  | .list items => p (.list items) ∧ EveryItem p items
  | .object members => p (.object members) ∧ EveryMember p members
  | d => p d

def EveryItem (p : Document → Prop) : List Document → Prop
  | [] => True
  | d :: rest => d.Every p ∧ EveryItem p rest

def EveryMember (p : Document → Prop) : List (String × Document) → Prop
  | [] => True
  | (_, d) :: rest => d.Every p ∧ EveryMember p rest

end

mutual

theorem Every.imp {p q : Document → Prop} (h : ∀ d, p d → q d) (d : Document) (hd : d.Every p) :
    d.Every q := by
  cases d with
  | list items => exact ⟨h _ hd.1, EveryItem.imp h items hd.2⟩
  | object members => exact ⟨h _ hd.1, EveryMember.imp h members hd.2⟩
  | null => exact h _ hd
  | boolean b => exact h _ hd
  | number n => exact h _ hd
  | text s => exact h _ hd
  | date t => exact h _ hd
  | decimal x => exact h _ hd
  | wrapped v => exact h _ hd

theorem EveryItem.imp {p q : Document → Prop} (h : ∀ d, p d → q d) (items : List Document)
    (hi : EveryItem p items) : EveryItem q items := by
  cases items with
  | nil => trivial
  | cons d rest => exact ⟨Every.imp h d hi.1, EveryItem.imp h rest hi.2⟩

theorem EveryMember.imp {p q : Document → Prop} (h : ∀ d, p d → q d) (members : List (String × Document))
    (hm : EveryMember p members) : EveryMember q members := by
  cases members with
  | nil => trivial
  | cons m rest =>
    obtain ⟨k, d⟩ := m
    exact ⟨Every.imp h d hm.1, EveryMember.imp h rest hm.2⟩

end

mutual

theorem every_of_forall {p : Document → Prop} (h : ∀ d, p d) (d : Document) : d.Every p := by
  cases d with
  | list items => exact ⟨h _, everyItem_of_forall h items⟩
  | object members => exact ⟨h _, everyMember_of_forall h members⟩
  | null => exact h _
  | boolean b => exact h _
  | number n => exact h _
  | text s => exact h _
  | date t => exact h _
  | decimal x => exact h _
  | wrapped v => exact h _

theorem everyItem_of_forall {p : Document → Prop} (h : ∀ d, p d) (items : List Document) :
    EveryItem p items := by
  cases items with
  | nil => trivial
  | cons d rest => exact ⟨every_of_forall h d, everyItem_of_forall h rest⟩

theorem everyMember_of_forall {p : Document → Prop} (h : ∀ d, p d) (members : List (String × Document)) :
    EveryMember p members := by
  cases members with
  | nil => trivial
  | cons m rest =>
    obtain ⟨k, d⟩ := m
    exact ⟨every_of_forall h d, everyMember_of_forall h rest⟩

end

mutual

def mapTexts (f : String → String) : Document → Document
  | .text s => .text (f s)
  | .list items => .list (mapItems f items)
  | .object members => .object (mapMembers f members)
  | d => d

def mapItems (f : String → String) : List Document → List Document
  | [] => []
  | d :: rest => d.mapTexts f :: mapItems f rest

def mapMembers (f : String → String) : List (String × Document) → List (String × Document)
  | [] => []
  | (k, d) :: rest => (k, d.mapTexts f) :: mapMembers f rest

end

mutual

/-- The written form, where what stands between the quotes of a text is given. -/
def writtenBy (leaf : String → List Char) : Document → List Char
  | .null => "null".toList
  | .boolean b => if b then "true".toList else "false".toList
  | .number n => (n.text Number.documentNames).toList
  | .text s => '"' :: (leaf s ++ ['"'])
  | .list items => '[' :: (writtenItemsBy leaf items ++ [']'])
  | .object members => '\x7b' :: (writtenMembersBy leaf members ++ ['\x7d'])
  | _ => []

def writtenItemsBy (leaf : String → List Char) : List Document → List Char
  | [] => []
  | d :: rest => d.writtenBy leaf ++ (if rest.isEmpty then [] else ',' :: ' ' :: writtenItemsBy leaf rest)

def writtenMembersBy (leaf : String → List Char) : List (String × Document) → List Char
  | [] => []
  | (k, d) :: rest => '"' :: (encode k.toList ++ '"' :: ':' :: ' ' :: (d.writtenBy leaf
      ++ (if rest.isEmpty then [] else ',' :: ' ' :: writtenMembersBy leaf rest)))

end

/-- A part that has a written form of its own kind: nothing of the calendar, no exact decimal, nothing
wrapped, and no key twice. -/
def IsJsonPart : Document → Prop
  | .date _ | .decimal _ | .wrapped _ => False
  | .object members => (members.map (·.1)).Nodup
  | _ => True

/-- A document that a reader can give. -/
def IsJson (d : Document) : Prop := d.Every IsJsonPart

def FitsPart : Document → Prop
  | .number n => n.Fits
  | _ => True

def Fits (d : Document) : Prop := d.Every FitsPart

def SpellsPart (leaf : String → List Char) (f : String → String) : Document → Prop
  | .text s => Spells (leaf s) (f s).toList
  | _ => True

/-! Members with distinct keys stay as they are. -/

theorem set_of_not_mem {members : Members} {key : String} (h : key ∉ members.map (·.1)) (d : Document) :
    members.set key d = members ++ [(key, d)] := by
  have hany : members.any (·.1 == key) = false := by
    rw [List.any_eq_false]
    intro m hm heq
    rw [beq_iff_eq] at heq
    exact h (heq ▸ List.mem_map_of_mem hm)
  simp [Members.set, hany]

theorem map_set_of_not_mem {members : Members} {key : String} (h : key ∉ members.map (·.1)) (d : Document) :
    (members.map fun m => if m.1 == key then (key, d) else m) = members := by
  have hid : ∀ m ∈ members, (if m.1 == key then (key, d) else m) = id m := by
    intro m hm
    have hk : m.1 ≠ key := fun hk => h (hk ▸ List.mem_map_of_mem hm)
    rw [if_neg (by simpa using hk)]
    rfl
  rw [List.map_congr_left hid, List.map_id]

theorem nodup_set {members : Members} (h : (members.map (·.1)).Nodup) (key : String) (d : Document) :
    ((members.set key d).map (·.1)).Nodup := by
  by_cases hmem : key ∈ members.map (·.1)
  · have hany : members.any (·.1 == key) = true := by
      obtain ⟨m, hm, hk⟩ := List.mem_map.1 hmem
      exact List.any_eq_true.2 ⟨m, hm, by simp [hk]⟩
    rw [Members.set, if_pos hany, List.map_map]
    have hkeys : (Prod.fst ∘ fun m : String × Document => if m.1 == key then (key, d) else m) = Prod.fst := by
      funext m
      by_cases hm : m.1 = key <;> simp [hm]
    rw [hkeys]
    exact h
  · rw [set_of_not_mem hmem, List.map_append, List.nodup_append]
    refine ⟨h, by simp, ?_⟩
    intro a ha b hb hab
    simp only [List.map_cons, List.map_nil, List.mem_singleton] at hb
    exact hmem (hb ▸ hab ▸ ha)

theorem ofPairs_of_nodup {members : Members} (h : (members.map (·.1)).Nodup) :
    Members.ofPairs members = members := by
  have step : ∀ (rest done : Members), ((done ++ rest).map (·.1)).Nodup →
      rest.foldl (fun acc p => acc.set p.1 p.2) done = done ++ rest := by
    intro rest
    induction rest with
    | nil => simp
    | cons p rest ih =>
      intro done hn
      have hp : p.1 ∉ done.map (·.1) := by
        rw [List.map_append, List.nodup_append] at hn
        intro hmem
        exact hn.2.2 _ hmem _ (by simp) rfl
      rw [List.foldl_cons, set_of_not_mem hp, ih]
      · simp
      · simpa using hn
  exact step members [] h

theorem map_fst_mapMembers (f : String → String) (members : Members) :
    (mapMembers f members).map (·.1) = members.map (·.1) := by
  induction members with
  | nil => rfl
  | cons m rest ih => simp [mapMembers, ih]

/-! The written form of a document is the one whose texts are escaped. -/

def encoded (s : String) : List Char := encode s.toList

theorem toList_quote (s : String) : (Quoted.quote s).toList = '"' :: (encoded s ++ ['"']) := by
  simp [Quoted.quote, encoded]

theorem toList_intercalate_cons (sep x : String) (xs : List String) :
    (String.intercalate sep (x :: xs)).toList
      = x.toList ++ (if xs.isEmpty then [] else sep.toList ++ (String.intercalate sep xs).toList) := by
  cases xs with
  | nil => simp
  | cons y ys => simp [String.intercalate_cons_cons]

theorem isEmpty_writtenItems (sep : Separators) (items : List Document) :
    (Value.writtenItems sep (writableItems items)).isEmpty = items.isEmpty := by
  cases items <;> rfl

theorem isEmpty_writtenMembers (sep : Separators) (members : Members) :
    (Value.writtenMembers sep (writableMembers members)).isEmpty = members.isEmpty := by
  cases members <;> rfl

mutual

theorem toList_written (d : Document) (h : d.IsJson) : (d.written .spaced).toList = d.writtenBy encoded := by
  cases d with
  | null => rfl
  | boolean b => cases b <;> rfl
  | number n => rfl
  | text s => exact toList_quote s
  | list items =>
    have hi := toList_writtenItems items h.2
    rw [written, writable, Value.written, String.toList_append, String.toList_append, hi, writtenBy]
    rfl
  | object members =>
    have hm := toList_writtenMembers members h.2
    rw [written, writable, Value.written, String.toList_append, String.toList_append, hm, writtenBy]
    rfl
  | date t => exact h.elim
  | decimal x => exact h.elim
  | wrapped v => exact h.elim

theorem toList_writtenItems (items : List Document) (h : EveryItem IsJsonPart items) :
    (String.intercalate Separators.spaced.item (Value.writtenItems .spaced (writableItems items))).toList
      = writtenItemsBy encoded items := by
  cases items with
  | nil => rfl
  | cons d more =>
    have hd := toList_written d h.1
    have hmore := toList_writtenItems more h.2
    rw [writableItems, Value.writtenItems, toList_intercalate_cons, isEmpty_writtenItems, hmore,
      writtenItemsBy, ← hd]
    rfl

theorem toList_writtenMembers (members : Members) (h : EveryMember IsJsonPart members) :
    (String.intercalate Separators.spaced.item
      (Value.writtenMembers .spaced (writableMembers members))).toList
      = writtenMembersBy encoded members := by
  cases members with
  | nil => rfl
  | cons m more =>
    obtain ⟨k, d⟩ := m
    have hd := toList_written d h.1
    have hmore := toList_writtenMembers more h.2
    rw [writableMembers, Value.writtenMembers, toList_intercalate_cons, isEmpty_writtenMembers, hmore,
      writtenMembersBy, ← hd, String.toList_append, String.toList_append, toList_quote, encoded]
    simp [Separators.spaced, written]

end

end Document

end RecordDesk
