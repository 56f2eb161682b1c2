import RecordDesk.Proofs.Document.Parts
import RecordDesk.Store.Path
set_option autoImplicit false

namespace RecordDesk

namespace Document

mutual

def equals : Document → Document → Bool
  | .null, .null => true
  | .boolean a, .boolean b => a == b
  | .number a, .number b => a.same b
  | .text a, .text b => a == b
  | .list a, .list b => equalsItems a b
  | .object a, .object b => a.length == b.length && equalsMembers a b
  | _, _ => false

def equalsItems : List Document → List Document → Bool
  | [], [] => true
  | a :: as, b :: bs => a.equals b && equalsItems as bs
  | _, _ => false

def equalsMembers : Members → Members → Bool
  | [], _ => true
  | (k, a) :: as, bs => (match bs.lookup k with
    | some b => a.equals b
    | none => false) && equalsMembers as bs

end

theorem same_self {n : Number} (h : (Document.number n).isPortable = true) : n.same n = true := by
  cases n with
  | int i => simp [Number.same, Number.compare?]
  | float x =>
    cases x with
    | finite negative units hu => simp [Number.same, Number.compare?, Binary64.compare?]
    | _ => cases h

theorem everyMember_mem {p : Document → Prop} {members : Members} (h : EveryMember p members)
    {m : String × Document} (hm : m ∈ members) : m.2.Every p := by
  induction members with
  | nil => cases hm
  | cons n rest ih =>
    rcases List.mem_cons.1 hm with rfl | hm
    · exact h.1
    · exact ih h.2 hm

theorem lookup_of_mem {α : Type} {members : List (String × α)} (hkeys : (members.map (·.1)).Nodup)
    {m : String × α} (hm : m ∈ members) : members.lookup m.1 = some m.2 := by
  induction members with
  | nil => cases hm
  | cons n rest ih =>
    obtain ⟨hn, hrest⟩ := List.nodup_cons.1 hkeys
    rcases List.mem_cons.1 hm with rfl | hm
    · rw [List.lookup_cons_self]
    · have hne : (m.1 == n.1) = false := beq_eq_false_iff_ne.2 fun heq => hn (List.mem_map.2 ⟨m, hm, heq⟩)
      rw [List.lookup_cons, hne]
      exact ih hrest hm

mutual

theorem equals_self (d : Document) (hj : d.IsJson) (hp : d.isPortable = true) : d.equals d = true := by
  cases d with
  | null => rfl
  | boolean b => exact beq_self_eq_true b
  | number n => exact same_self hp
  | text s => exact beq_self_eq_true s
  | list items => exact equalsItems_self items hj.2 hp
  | object members =>
    rw [equals, beq_self_eq_true, Bool.true_and]
    exact equalsMembers_of_lookup members members hj.2 hp fun m hm => lookup_of_mem hj.1 hm
  | date t => exact hj.elim
  | decimal x => exact hj.elim
  | wrapped v => exact hj.elim

theorem equalsItems_self (items : List Document) (hj : EveryItem IsJsonPart items)
    (hp : portableItems items = true) : equalsItems items items = true := by
  cases items with
  | nil => rfl
  | cons d rest =>
    rw [portableItems, Bool.and_eq_true] at hp
    rw [equalsItems, equals_self d hj.1 hp.1, equalsItems_self rest hj.2 hp.2, Bool.and_self]

theorem equalsMembers_of_lookup (as bs : Members) (hj : EveryMember IsJsonPart as)
    (hp : portableMembers as = true) (h : ∀ m ∈ as, bs.lookup m.1 = some m.2) :
    equalsMembers as bs = true := by
  cases as with
  | nil => rfl
  | cons m rest =>
    obtain ⟨k, d⟩ := m
    rw [portableMembers, Bool.and_eq_true] at hp
    obtain ⟨hd, hrest⟩ := List.forall_mem_cons.1 h
    rw [equalsMembers, hd]
    simp only [equals_self d hj.1 hp.1, equalsMembers_of_lookup rest bs hj.2 hp.2 hrest, Bool.and_self]

end

end Document

end RecordDesk
