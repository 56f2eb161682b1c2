import Mathlib
import RecordDesk.Proofs.Numeric.Order
import RecordDesk.Proofs.Rule.Outcomes
import RecordDesk.Store.Query
set_option autoImplicit false

/-!
The order in which the store lists rows. Cells without not-a-number are ordered by what they hold, nothing
before numbers and numbers before texts; rows with like cells are ordered by time and by name.
-/

namespace RecordDesk

open Std

namespace Cell

/-- Not a NaN, with which nothing is ordered. -/
def Ordered : Cell → Prop
  | .number n => n.isNaN = false
  | _ => True

def side : Cell → Int
  | .number n => n.side
  | _ => 0

def units : Cell → Int
  | .number n => n.units
  | _ => 0

def letters : Cell → String
  | .text s => s
  | _ => ""

/-- The order of cells spelled out: by kind, by number and by text. -/
def standing : Cell → Cell → Ordering :=
  compareLex (compareOn rank) (compareLex (compareOn side) (compareLex (compareOn units) (compareOn letters)))

instance : TransCmp standing :=
  inferInstanceAs (TransCmp (compareLex (compareOn rank)
    (compareLex (compareOn side) (compareLex (compareOn units) (compareOn letters)))))

theorem order_eq_standing {a b : Cell} (ha : a.Ordered) (hb : b.Ordered) : a.order b = standing a b := by
  cases a <;> cases b
  case number.number m n =>
    rw [order, Number.compare?_eq ha hb]
    simp [standing, compareLex, compareOn, rank, side, units, letters]
  case text.text s t => simp [order, standing, compareLex, compareOn, rank, side, units, letters]
  case null.null => decide
  all_goals rfl

end Cell

namespace Document

theorem portableItems_iff {ds : List Document} : portableItems ds = true ↔ ∀ d ∈ ds, d.isPortable = true := by
  induction ds with
  | nil => simp [portableItems]
  | cons d rest ih => simp [portableItems, ih]

theorem portableMembers_iff {ms : Members} : portableMembers ms = true ↔ ∀ m ∈ ms, m.2.isPortable = true := by
  induction ms with
  | nil => simp [portableMembers]
  | cons m rest ih => simp [portableMembers, ih]

end Document

namespace Path

theorem portable_of_member {name : List Char} {ms : Members} {d : Document}
    (hms : (Document.object ms).isPortable = true)
    (h : member? name ms = some d) : d.isPortable = true := by
  obtain ⟨m, hm, rfl⟩ := Option.map_eq_some_iff.1 h
  exact Document.portableMembers_iff.1 hms m (List.mem_of_find?_eq_some hm)

theorem portable_of_item {items : List Document} {place : Place} {d : Document}
    (hitems : (Document.list items).isPortable = true) (h : item? items place = some d) :
    d.isPortable = true := by
  have hmem : d ∈ items := by
    unfold item? at h
    split at h
    · exact List.mem_of_getElem? h
    · split at h
      · exact List.mem_of_getElem? h
      · cases h
  exact Document.portableItems_iff.1 hitems d hmem

theorem portable_of_follow {fuel : Nat} {d found : Document} {path : List Char} (hd : d.isPortable = true)
    (h : follow fuel d path = .ok (some found)) : found.isPortable = true := by
  fun_induction follow fuel d path with
  | case1 fuel d =>
    cases h
    exact hd
  | case3 fuel s members name rest hname d hmember ih => exact ih (portable_of_member hd hmember) h
  | case6 fuel s items place rest hplace d hitem ih =>
    simp only [hplace, hitem] at h
    exact ih (portable_of_item hd hitem) h
  | _ => simp_all

theorem portable_of_find {key : String} {stored found : Document} (h : find key stored = .ok (some found)) :
    found.isPortable = true := by
  unfold find at h
  split at h
  · cases h
  · rename_i hstored
    exact portable_of_follow (by simpa using hstored) h

end Path

namespace Cell

theorem ordered_label {d : Document} (hd : d.isPortable = true) : (label d).Ordered := by
  cases d with
  | number n =>
    cases n with
    | int i =>
      change (ofNumber (.int i)).isNaN = false
      unfold ofNumber
      dsimp only
      split
      · rfl
      · exact Binary64.isNaN_ofUnits (decide (i < 0)) (i.natAbs * Binary64.one) 1
    | float x => cases x <;> first | rfl | cases hd
  | _ => trivial

theorem ordered_field {key : String} {stored : Document} {c : Cell} (h : field label key stored = .ok c) :
    c.Ordered := by
  obtain ⟨found, hfound, h⟩ := ok_of_bind h
  cases h
  cases found with
  | none => trivial
  | some d => exact ordered_label (Path.portable_of_find hfound)

end Cell

end RecordDesk
