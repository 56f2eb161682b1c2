import RecordDesk.Proofs.Document.Parts
set_option autoImplicit false

namespace RecordDesk

namespace Document

/-- A part with a kind of its own: an exact decimal becomes a text, and what was wrapped is its value. -/
def IsKeptPart : Document → Prop
  | .decimal _ | .wrapped _ => False
  | _ => True

def IsKept (d : Document) : Prop := d.Every IsKeptPart

theorem isKeptPart_of_isJsonPart (d : Document) (h : d.IsJsonPart) : d.IsKeptPart := by
  cases d with
  | decimal | wrapped => exact h.elim
  | _ => trivial

theorem IsJson.isKept {d : Document} (h : d.IsJson) : d.IsKept := Every.imp isKeptPart_of_isJsonPart d h

end Document

namespace Value

open Document

/-! From a value to its document and back. -/

mutual

theorem of_toDocument (v : Value) : of v.toDocument = v := by
  cases v with
  | array items => rw [toDocument, of, ofItems_toItems items]
  | object members => rw [toDocument, of, ofMembers_toMembers members]
  | null | text | number | boolean | date => rfl

theorem ofItems_toItems (items : List Value) : ofItems (toItems items) = items := by
  cases items with
  | nil => rfl
  | cons v rest => rw [toItems, ofItems, of_toDocument v, ofItems_toItems rest]

theorem ofMembers_toMembers (members : List (String × Value)) : ofMembers (toMembers members) = members := by
  cases members with
  | nil => rfl
  | cons m rest =>
    obtain ⟨k, v⟩ := m
    rw [toMembers, ofMembers, of_toDocument v, ofMembers_toMembers rest]

end

mutual

theorem isKept_toDocument (v : Value) : v.toDocument.IsKept := by
  cases v with
  | array items => exact ⟨trivial, everyItem_toItems items⟩
  | object members => exact ⟨trivial, everyMember_toMembers members⟩
  | null | text | number | boolean | date => trivial

theorem everyItem_toItems (items : List Value) : EveryItem IsKeptPart (toItems items) := by
  cases items with
  | nil => trivial
  | cons v rest => exact ⟨isKept_toDocument v, everyItem_toItems rest⟩

theorem everyMember_toMembers (members : List (String × Value)) :
    EveryMember IsKeptPart (toMembers members) := by
  cases members with
  | nil => trivial
  | cons m rest =>
    obtain ⟨k, v⟩ := m
    exact ⟨isKept_toDocument v, everyMember_toMembers rest⟩

end

/-! From a document to its value and back. -/

mutual

theorem toDocument_of {d : Document} (h : d.IsKept) : (of d).toDocument = d := by
  cases d with
  | list items => rw [of, toDocument, toItems_ofItems h.2]
  | object members => rw [of, toDocument, toMembers_ofMembers h.2]
  | null | boolean | number | text | date => rfl
  | decimal | wrapped => exact h.elim

theorem toItems_ofItems {items : List Document} (h : EveryItem IsKeptPart items) :
    toItems (ofItems items) = items := by
  cases items with
  | nil => rfl
  | cons d rest => rw [ofItems, toItems, toDocument_of h.1, toItems_ofItems h.2]

theorem toMembers_ofMembers {members : Members} (h : EveryMember IsKeptPart members) :
    toMembers (ofMembers members) = members := by
  cases members with
  | nil => rfl
  | cons m rest =>
    obtain ⟨k, d⟩ := m
    rw [ofMembers, toMembers, toDocument_of h.1, toMembers_ofMembers h.2]

end

/-- Nothing is lost of a document just if all its parts are of kinds that values have. -/
theorem toDocument_of_iff {d : Document} : (of d).toDocument = d ↔ d.IsKept :=
  ⟨fun h => h ▸ isKept_toDocument (of d), toDocument_of⟩

end Value

namespace Fields

open Document

/-- The fields of a JSON object are its members again: the keys in their order at every level, and integers,
decimals and truth values kept apart. Any value comes back from its document, and wrapping it once more
changes nothing. -/
theorem round_trip :
    (∀ raw : Members, (Document.object raw).IsJson →
      ∃ fields, Fields.of? (.object raw) = .ok fields ∧ fields.toMembers = raw) ∧
    ∀ d : Document, Value.of (Value.of d).toDocument = Value.of d ∧
    Value.of (.wrapped (Value.of d)) = Value.of d := by
  refine ⟨fun raw h => ⟨Value.ofMembers raw, rfl, ?_⟩,
    fun d => ⟨Value.of_toDocument (Value.of d), Value.of_wrapped _⟩⟩
  exact Value.toMembers_ofMembers h.isKept.2

def page : Members :=
  [("z", .boolean true), ("a", .list [.ofInt 1, .object [("k", .null)]]),
    ("m", .number (.float (Binary64.ofInt 1)))]

theorem page_round_trip : (Document.object page).IsJson ∧
    (∃ fields, Fields.of? (.object page) = .ok fields ∧ fields.toMembers = page) ∧
    Value.of (Value.of (.object page)).toDocument = Value.of (.object page) := by
  have hjson : (Document.object page).IsJson := by
    simp [page, IsJson, Every, EveryItem, EveryMember, IsJsonPart, Document.ofInt]
  exact ⟨hjson, round_trip.1 page hjson, (round_trip.2 (.object page)).1⟩

end Fields

end RecordDesk
