import RecordDesk.Proofs.Document.Equality
import RecordDesk.Proofs.Numeric.Order
import RecordDesk.Proofs.Fallible
set_option autoImplicit false

/-!
Strict equality at the top of a value and below it. Below the top two values are equal if they are so part
by part with the keys of every object in one order. At the top of an object the order of its own keys does
not count, and at the top numbers are compared as binary64 numbers.
-/

namespace RecordDesk

namespace Document

def DefinitePart : Document → Prop
  | .number n => n.isNaN = false
  | _ => True

/-- A document that a reader can give, with no NaN in it. -/
structure IsDefinite (d : Document) : Prop where
  json : d.IsJson
  parts : d.Every DefinitePart

mutual

/-- What is left of a document without its leaves: which collections are where, and the keys in their
order. -/
def skeleton : Document → Document
  | .list items => .list (skeletonItems items)
  | .object members => .object (skeletonMembers members)
  | _ => .null

def skeletonItems : List Document → List Document
  | [] => []
  | d :: rest => d.skeleton :: skeletonItems rest

def skeletonMembers : Members → Members
  | [] => []
  | (k, d) :: rest => (k, d.skeleton) :: skeletonMembers rest

end

/-- Equal documents that have their keys in one order throughout. -/
def Coincides (a b : Document) : Prop := a.equals b = true ∧ a.skeleton = b.skeleton

theorem lookup_eq_of_not_mem {members : Members} {k l : String} {d : Document} (h : k ≠ l) :
    ((l, d) :: members).lookup k = members.lookup k := by
  rw [List.lookup_cons, beq_eq_false_iff_ne.2 h]

theorem equalsMembers_cons_of_not_mem {as bs : Members} {l : String} {b : Document} (h : l ∉ as.map (·.1)) :
    equalsMembers as ((l, b) :: bs) = equalsMembers as bs := by
  induction as with
  | nil => rfl
  | cons m rest ih =>
    obtain ⟨k, a⟩ := m
    obtain ⟨hne, hrest⟩ := not_or.1 (mt List.mem_cons.2 h)
    rw [equalsMembers, equalsMembers, lookup_eq_of_not_mem (Ne.symm hne), ih hrest]

theorem equalsMembers_cons {as bs : Members} {k : String} {a b : Document} (h : k ∉ as.map (·.1)) :
    equalsMembers ((k, a) :: as) ((k, b) :: bs) = (a.equals b && equalsMembers as bs) := by
  rw [equalsMembers, List.lookup_cons_self, equalsMembers_cons_of_not_mem h]

end Document

namespace Value

open Document

variable {nans : NaNs}

theorem exact_number {m n : Number} (hm : m.isNaN = false) :
    exact nans (.number m) (.number n) = m.same n := by
  rw [exact, hm, Bool.and_false, Bool.false_and, Bool.or_false]

mutual

/-- Below the top, values are equal just if their documents are and have their keys in one order. -/
theorem exact_iff {a b : Document} (ha : a.IsJson) (hn : a.Every DefinitePart) (hb : b.IsJson) :
    exact nans (of a) (of b) = true ↔ a.Coincides b := by
  cases a with
  | date => exact ha.elim
  | decimal => exact ha.elim
  | wrapped => exact ha.elim
  | list items =>
    cases b with
    | list others =>
      have hitems := @exactItems_iff items others ha.2 hn.2 hb.2
      rw [of, of, exact, hitems, Coincides, equals, skeleton, skeleton, Document.list.injEq]
    | wrapped => exact hb.elim
    | _ => simp [of, exact, Coincides, equals]
  | object members =>
    cases b with
    | object others =>
      have hmembers := @exactMembers_iff members others ha.1 ha.2 hn.2 hb.2
      rw [of, of, exact, hmembers, Coincides, equals, Bool.and_eq_true, skeleton, skeleton,
        Document.object.injEq]
    | wrapped => exact hb.elim
    | _ => simp [of, exact, Coincides, equals]
  | number m =>
    cases b with
    | number n =>
      rw [of, of, exact_number hn, Coincides, equals]
      exact (and_iff_left rfl).symm
    | wrapped => exact hb.elim
    | _ => simp [of, exact, Coincides, equals]
  | null | boolean | text =>
    cases b with
    | wrapped | decimal => exact hb.elim
    | _ => simp [of, exact, Coincides, equals, skeleton]

theorem exactItems_iff {items others : List Document} (ha : EveryItem IsJsonPart items)
    (hn : EveryItem DefinitePart items) (hb : EveryItem IsJsonPart others) :
    exactItems nans (ofItems items) (ofItems others) = true ↔
      equalsItems items others = true ∧ skeletonItems items = skeletonItems others := by
  cases items with
  | nil => cases others <;> simp [ofItems, exactItems, equalsItems, skeletonItems]
  | cons a rest =>
    cases others with
    | nil => simp [ofItems, exactItems, equalsItems]
    | cons b more =>
      have hfirst := exact_iff (a := a) (b := b) ha.1 hn.1 hb.1
      have hrest := @exactItems_iff rest more ha.2 hn.2 hb.2
      rw [ofItems, ofItems, exactItems, Bool.and_eq_true, hfirst, hrest, equalsItems,
        Bool.and_eq_true, skeletonItems, skeletonItems, List.cons.injEq]
      exact and_and_and_comm

theorem exactMembers_iff {members others : Members} (hkeys : (members.map (·.1)).Nodup)
    (ha : EveryMember IsJsonPart members) (hn : EveryMember DefinitePart members)
    (hb : EveryMember IsJsonPart others) : exactMembers nans (ofMembers members) (ofMembers others) = true ↔
      ((members.length == others.length) = true ∧ equalsMembers members others = true) ∧
        skeletonMembers members = skeletonMembers others := by
  cases members with
  | nil => cases others <;> simp [ofMembers, exactMembers, equalsMembers, skeletonMembers]
  | cons m rest =>
    cases others with
    | nil => simp [ofMembers, exactMembers]
    | cons n more =>
      obtain ⟨k, a⟩ := m
      obtain ⟨l, b⟩ := n
      obtain ⟨hk, hkeys⟩ := List.nodup_cons.1 hkeys
      by_cases hkl : k = l
      · subst hkl
        have hfirst := exact_iff (a := a) (b := b) ha.1 hn.1 hb.1
        have hrest := @exactMembers_iff rest more hkeys ha.2 hn.2 hb.2
        rw [ofMembers, ofMembers, exactMembers, beq_self_eq_true, Bool.true_and,
          Bool.and_eq_true, hfirst, hrest, equalsMembers_cons hk, Bool.and_eq_true, skeletonMembers,
          skeletonMembers, List.cons.injEq, Prod.mk.injEq]
        simp only [Coincides, List.length_cons, beq_iff_eq, Nat.add_right_cancel_iff, true_and]
        tauto
      · simp [ofMembers, exactMembers, skeletonMembers, hkl]

end

/-! A document equals itself. -/

mutual

theorem exact_self {d : Document} (hd : d.IsJson) (hn : d.Every DefinitePart) :
    exact nans (of d) (of d) = true := by
  cases d with
  | null => rfl
  | boolean b => exact beq_self_eq_true b
  | text s => exact beq_self_eq_true s
  | number n => exact (exact_number hn).trans (Number.same_self hn)
  | list items => exact exactItems_self hd.2 hn.2
  | object members => exact exactMembers_self hd.2 hn.2
  | date | decimal | wrapped => exact hd.elim

theorem exactItems_self {items : List Document} (hi : EveryItem IsJsonPart items)
    (hn : EveryItem DefinitePart items) : exactItems nans (ofItems items) (ofItems items) = true := by
  cases items with
  | nil => rfl
  | cons d rest => rw [ofItems, exactItems, exact_self hi.1 hn.1, exactItems_self hi.2 hn.2, Bool.and_self]

theorem exactMembers_self {members : Members} (hm : EveryMember IsJsonPart members)
    (hn : EveryMember DefinitePart members) :
    exactMembers nans (ofMembers members) (ofMembers members) = true := by
  cases members with
  | nil => rfl
  | cons m rest =>
    obtain ⟨k, d⟩ := m
    rw [ofMembers, exactMembers, beq_self_eq_true, exact_self hm.1 hn.1, exactMembers_self hm.2 hn.2]
    rfl

end

/-! Members under their keys. -/

theorem ofMembers_eq (members : Members) : ofMembers members = members.map fun m => (m.1, of m.2) := by
  induction members with
  | nil => rfl
  | cons m rest ih => rw [ofMembers, ih, List.map_cons]

theorem keys_ofMembers (members : Members) : (ofMembers members).map (·.1) = members.map (·.1) := by
  rw [ofMembers_eq, List.map_map]
  rfl

theorem keys_of_exactMembers {as bs : List (String × Value)} (h : exactMembers nans as bs = true) :
    as.map (·.1) = bs.map (·.1) := by
  induction as generalizing bs with
  | nil =>
    cases bs with
    | nil => rfl
    | cons n more => cases h
  | cons m rest ih =>
    cases bs with
    | nil => cases h
    | cons n more =>
      rw [exactMembers, Bool.and_eq_true, Bool.and_eq_true, beq_iff_eq] at h
      rw [List.map_cons, List.map_cons, h.1.1, ih h.2]

theorem mem_of_lookup {α : Type} {members : List (String × α)} {k : String} {x : α}
    (h : members.lookup k = some x) : (k, x) ∈ members := by
  obtain ⟨before, after, rfl, -⟩ := List.lookup_eq_some_iff.1 h
  exact List.mem_append_right before List.mem_cons_self

def EqualIn (nans : NaNs) (bs : List (String × Value)) (m : String × Value) : Prop :=
  ∃ w, bs.lookup m.1 = some w ∧ exact nans m.2 w = true

theorem sameMembers_iff {as bs : List (String × Value)} :
    sameMembers nans as bs = true ↔ as.length = bs.length ∧ ∀ m ∈ as, EqualIn nans bs m := by
  rw [sameMembers, Bool.and_eq_true, beq_iff_eq, List.all_eq_true]
  refine and_congr_right fun _ => forall₂_congr fun m _ => ?_
  unfold EqualIn
  dsimp only
  split <;> simp [*]

theorem exactMembers_iff_equalIn {as bs : List (String × Value)} (hkeys : as.map (·.1) = bs.map (·.1))
    (hn : (as.map (·.1)).Nodup) : exactMembers nans as bs = true ↔ ∀ m ∈ as, EqualIn nans bs m := by
  induction as generalizing bs with
  | nil =>
    obtain rfl : bs = [] := List.map_eq_nil_iff.1 hkeys.symm
    exact iff_of_true rfl nofun
  | cons m rest ih =>
    cases bs with
    | nil => cases hkeys
    | cons n more =>
      obtain ⟨k, a⟩ := m
      obtain ⟨l, b⟩ := n
      simp only [List.map_cons, List.cons.injEq] at hkeys
      obtain ⟨rfl, hmore⟩ := hkeys
      obtain ⟨hk, hn⟩ := List.nodup_cons.1 hn
      have hfirst : EqualIn nans ((k, b) :: more) (k, a) ↔ exact nans a b = true := by
        simp [EqualIn]
      have hrest : (∀ m ∈ rest, EqualIn nans ((k, b) :: more) m) ↔ ∀ m ∈ rest, EqualIn nans more m := by
        refine forall₂_congr fun m hm => ?_
        have hne : (m.1 == k) = false := beq_eq_false_iff_ne.2 fun h => hk (List.mem_map.2 ⟨m, hm, h⟩)
        rw [EqualIn, EqualIn, List.lookup_cons, hne]
      rw [exactMembers, beq_self_eq_true, Bool.true_and, Bool.and_eq_true, ih hmore hn,
        List.forall_mem_cons, hfirst, hrest]

theorem sameMembers_of_keys {as bs : List (String × Value)} (hkeys : as.map (·.1) = bs.map (·.1))
    (hn : (as.map (·.1)).Nodup) : sameMembers nans as bs = exactMembers nans as bs := by
  have hlength : as.length = bs.length := by simpa using congrArg List.length hkeys
  rw [Bool.eq_iff_iff, sameMembers_iff, exactMembers_iff_equalIn hkeys hn, and_iff_right hlength]

theorem lookup_ofMembers (members : Members) (k : String) :
    (ofMembers members).lookup k = (members.lookup k).map of := by
  induction members with
  | nil => rfl
  | cons m rest ih =>
    obtain ⟨l, d⟩ := m
    rw [ofMembers, List.lookup_cons, List.lookup_cons, ih]
    split <;> rfl

theorem equalIn_ofMembers {members : Members} {k : String} {a : Document} :
    EqualIn nans (ofMembers members) (k, of a) ↔
    ∃ d, members.lookup k = some d ∧ exact nans (of a) (of d) = true := by
  rw [EqualIn, lookup_ofMembers]
  simp

theorem sameMembers_of_perm {as bs cs : List (String × Value)} (hb : (bs.map (·.1)).Nodup)
    (hperm : cs.Perm bs) (h : sameMembers nans as cs = true) : sameMembers nans as bs = true := by
  obtain ⟨hlength, hin⟩ := sameMembers_iff.1 h
  refine sameMembers_iff.2 ⟨hlength.trans hperm.length_eq, fun m hm => ?_⟩
  obtain ⟨w, hw, hequal⟩ := hin m hm
  exact ⟨w, lookup_of_mem hb (hperm.mem_iff.1 (mem_of_lookup hw)), hequal⟩

/-- The members of the second object in the order of the first. -/
def reordered (as bs : Members) : Members := as.map fun m => (m.1, (bs.lookup m.1).getD .null)

theorem perm_reordered {as bs : Members} (ha : (as.map (·.1)).Nodup) (hlength : as.length = bs.length)
    (hfound : ∀ m ∈ as, ∃ d, bs.lookup m.1 = some d) : (reordered as bs).Perm bs := by
  have hkeys : ((reordered as bs).map (·.1)).Nodup := by simpa [reordered, Function.comp_def] using ha
  have hsubset : reordered as bs ⊆ bs := by
    intro n hn
    obtain ⟨m, hm, rfl⟩ := List.mem_map.1 hn
    obtain ⟨d, hd⟩ := hfound m hm
    rw [hd, Option.getD_some]
    exact mem_of_lookup hd
  refine (List.subperm_of_subset hkeys.of_map hsubset).perm_of_length_le ?_
  rw [reordered, List.length_map, hlength]

theorem exactMembers_reordered {as bs : Members}
    (h : ∀ m ∈ as, ∃ d, bs.lookup m.1 = some d ∧ exact nans (of m.2) (of d) = true) :
    exactMembers nans (ofMembers as) (ofMembers (reordered as bs)) = true := by
  induction as with
  | nil => rfl
  | cons m rest ih =>
    obtain ⟨⟨d, hd, hexact⟩, hrest⟩ := List.forall_mem_cons.1 h
    have hmore : exactMembers nans (ofMembers rest)
      (ofMembers (rest.map fun m => (m.1, (bs.lookup m.1).getD .null)))
        = true := ih hrest
    rw [reordered, List.map_cons, hd, Option.getD_some, ofMembers, ofMembers, exactMembers,
      beq_self_eq_true, hexact, hmore]
    rfl

/-- The members of two objects are the same if those of the second can be put in an order in which they are
equal one after another. -/
theorem sameMembers_iff_perm {as bs : Members} (ha : (as.map (·.1)).Nodup) (hb : (bs.map (·.1)).Nodup) :
    sameMembers nans (ofMembers as) (ofMembers bs) = true ↔
      ∃ cs : Members, cs.Perm bs ∧ exactMembers nans (ofMembers as) (ofMembers cs) = true := by
  constructor
  · intro h
    obtain ⟨hlength, hin⟩ := sameMembers_iff.1 h
    rw [ofMembers_eq as, ofMembers_eq bs, List.length_map, List.length_map] at hlength
    have hfound : ∀ m ∈ as, ∃ d, bs.lookup m.1 = some d ∧ exact nans (of m.2) (of d) = true := fun m hm =>
      equalIn_ofMembers.1 (hin (m.1, of m.2) (by rw [ofMembers_eq]; exact List.mem_map_of_mem hm))
    refine ⟨reordered as bs, perm_reordered ha hlength fun m hm => ?_, exactMembers_reordered hfound⟩
    obtain ⟨d, hd, -⟩ := hfound m hm
    exact ⟨d, hd⟩
  · rintro ⟨cs, hperm, hexact⟩
    have hsame : sameMembers nans (ofMembers as) (ofMembers cs) = true := by
      rw [sameMembers_of_keys (keys_of_exactMembers hexact) (by rwa [keys_ofMembers]), hexact]
    have hvalues : (ofMembers cs).Perm (ofMembers bs) := by
      rw [ofMembers_eq, ofMembers_eq]
      exact hperm.map _
    exact sameMembers_of_perm (by rwa [keys_ofMembers]) hvalues hsame

end Value

namespace Document

theorem everyMember_of_mem {p : Document → Prop} {members : Members} (h : ∀ m ∈ members, m.2.Every p) :
    EveryMember p members := by
  induction members with
  | nil => trivial
  | cons m rest ih =>
    obtain ⟨hm, hrest⟩ := List.forall_mem_cons.1 h
    exact ⟨hm, ih hrest⟩

theorem isJson_of_perm {as bs : Members} (hperm : as.Perm bs) (h : (Document.object bs).IsJson) :
    (Document.object as).IsJson :=
  ⟨(hperm.map _).nodup_iff.2 h.1, everyMember_of_mem fun _ hm => everyMember_mem h.2 (hperm.mem_iff.1 hm)⟩

/-- Numbers of different values with one nearest binary64 number, or objects whose members coincide once
they are put in another order. -/
def EqualAtTopOnly : Document → Document → Prop
  | .number m, .number n =>
    m.same n = false ∧ ∃ x y, m.toBinary64 = .ok x ∧ n.toBinary64 = .ok y ∧ x.same y = true
  | .object as, .object bs =>
    as.map (·.1) ≠ bs.map (·.1) ∧ ∃ cs : Members, cs.Perm bs ∧ (Document.object as).Coincides (.object cs)
  | _, _ => False

/-- What stands around one part of a collection. -/
inductive Layer where
  | item (before after : List Document)
  | member (before : Members) (key : String) (after : Members)

def Layer.around : Layer → Document → Document
  | .item before after, d => .list (before ++ d :: after)
  | .member before key after, d => .object (before ++ (key, d) :: after)

def Layer.IsDefinite (l : Layer) : Prop := (l.around .null).IsDefinite

/-- A document inside of several layers, the outermost first. -/
def enclosed (layers : List Layer) (d : Document) : Document := layers.foldr Layer.around d

end Document

namespace Value

open Document

variable {nans : NaNs}

theorem exactItems_around {before after : List Document}
    (hj : EveryItem IsJsonPart (before ++ .null :: after))
    (hn : EveryItem DefinitePart (before ++ .null :: after)) (a b : Document) :
    exactItems nans (ofItems (before ++ a :: after)) (ofItems (before ++ b :: after)) =
      exact nans (of a) (of b) := by
  induction before with
  | nil =>
    rw [List.nil_append, List.nil_append, ofItems, ofItems, exactItems,
      exactItems_self hj.2 hn.2, Bool.and_true]
  | cons d rest ih =>
    rw [List.cons_append, List.cons_append, ofItems, ofItems, exactItems, exact_self hj.1 hn.1, ih hj.2 hn.2,
      Bool.true_and]

theorem exactMembers_around {before after : Members} {key : String}
    (hj : EveryMember IsJsonPart (before ++ (key, .null) :: after))
    (hn : EveryMember DefinitePart (before ++ (key, .null) :: after)) (a b : Document) :
    exactMembers nans (ofMembers (before ++ (key, a) :: after)) (ofMembers (before ++ (key, b) :: after))
      = exact nans (of a) (of b) := by
  induction before with
  | nil =>
    rw [List.nil_append, List.nil_append, ofMembers, ofMembers, exactMembers,
      exactMembers_self hj.2 hn.2, Bool.and_true, beq_self_eq_true, Bool.true_and]
  | cons m rest ih =>
    rw [List.cons_append, List.cons_append, ofMembers, ofMembers, exactMembers,
      exact_self hj.1 hn.1, ih hj.2 hn.2, beq_self_eq_true, Bool.true_and, Bool.true_and]

theorem exact_around {l : Layer} (hl : l.IsDefinite) (a b : Document) :
    exact nans (of (l.around a)) (of (l.around b)) = exact nans (of a) (of b) := by
  cases l with
  | item before after => exact exactItems_around hl.json.2 hl.parts.2 a b
  | member before key after => exact exactMembers_around hl.json.2 hl.parts.2 a b

theorem exact_enclosed {layers : List Layer} (hl : ∀ l ∈ layers, l.IsDefinite) (a b : Document) :
    exact nans (of (enclosed layers a)) (of (enclosed layers b)) = exact nans (of a) (of b) := by
  induction layers with
  | nil => rfl
  | cons l rest ih =>
    obtain ⟨hfirst, hrest⟩ := List.forall_mem_cons.1 hl
    exact (exact_around hfirst _ _).trans (ih hrest)

theorem strictEquals_around {l : Layer} (hl : l.IsDefinite) (a b : Document) :
    (of (l.around a)).strictEquals nans (of (l.around b)) = .ok (exact nans (of a) (of b)) := by
  cases l with
  | item before after => exact congrArg Except.ok (exactItems_around hl.json.2 hl.parts.2 a b)
  | member before key after =>
    have hkeys (d : Document) : (ofMembers (before ++ (key, d) :: after)).map (·.1)
        = (before ++ (key, Document.null) :: after).map (·.1) := by
      rw [keys_ofMembers]
      simp
    have hsame : sameMembers nans (ofMembers (before ++ (key, a) :: after))
      (ofMembers (before ++ (key, b) :: after)) = _ :=
      sameMembers_of_keys ((hkeys a).trans (hkeys b).symm) (hkeys a ▸ hl.json.1)
    exact congrArg Except.ok (hsame.trans (exactMembers_around hl.json.2 hl.parts.2 a b))

theorem strictEquals_enclosed {layers : List Layer} (hne : layers ≠ []) (hl : ∀ l ∈ layers, l.IsDefinite)
    (a b : Document) :
    (of (enclosed layers a)).strictEquals nans (of (enclosed layers b)) = .ok (exact nans (of a) (of b)) := by
  cases layers with
  | nil => exact absurd rfl hne
  | cons l rest =>
    obtain ⟨hfirst, hrest⟩ := List.forall_mem_cons.1 hl
    exact (strictEquals_around hfirst _ _).trans (congrArg Except.ok (exact_enclosed hrest a b))

/-- How strict equality at the top goes with exact equality: they differ only where documents are equal by
their top alone. -/
def TopDecides (nans : NaNs) (a b : Document) (e : Bool) : Prop :=
  a.EqualAtTopOnly b ∧ e = true ∧ exact nans (of a) (of b) = false ∨
    ¬ a.EqualAtTopOnly b ∧ exact nans (of a) (of b) = e

theorem topDecides_numbers {m n : Number} (hm : m.isNaN = false) {e : Bool}
    (h : (of (.number m)).strictEquals nans (of (.number n)) = .ok e) :
    TopDecides nans (.number m) (.number n) e := by
  obtain ⟨x, hx, h⟩ := ok_of_bind h
  obtain ⟨y, hy, h⟩ := ok_of_bind h
  obtain rfl : x.same y = e := Except.ok.inj h
  have hexact : exact nans (of (.number m)) (of (.number n)) = m.same n := exact_number hm
  cases hvalue : m.same n with
  | true =>
    refine .inr ⟨fun htop => ?_, ?_⟩
    · exact Bool.false_ne_true (htop.1.symm.trans hvalue)
    · rw [hexact, hvalue, Number.same_nearest hvalue hx hy]
  | false =>
    cases hnearest : x.same y with
    | true => exact .inl ⟨⟨hvalue, x, y, hx, hy, hnearest⟩, rfl, hexact.trans hvalue⟩
    | false =>
      refine .inr ⟨?_, hexact.trans hvalue⟩
      rintro ⟨-, z, w, hz, hw, hsame⟩
      cases hx.symm.trans hz
      cases hy.symm.trans hw
      exact Bool.false_ne_true (hnearest.symm.trans hsame)

theorem topDecides_objects {as bs : Members} (ha : (Document.object as).IsDefinite)
    (hb : (Document.object bs).IsDefinite) {e : Bool}
    (h : (of (.object as)).strictEquals nans (of (.object bs)) = .ok e) :
    TopDecides nans (.object as) (.object bs) e := by
  obtain rfl : sameMembers nans (ofMembers as) (ofMembers bs) = e := Except.ok.inj h
  by_cases hkeys : as.map (·.1) = bs.map (·.1)
  · have hnodup : ((ofMembers as).map (·.1)).Nodup := by rw [keys_ofMembers]; exact ha.json.1
    have hsame : sameMembers nans (ofMembers as) (ofMembers bs) =
      exactMembers nans (ofMembers as) (ofMembers bs) :=
      sameMembers_of_keys (by rw [keys_ofMembers, keys_ofMembers, hkeys]) hnodup
    exact .inr ⟨fun htop => htop.1 hkeys, hsame.symm⟩
  · -- Keys in another order: below the top that alone makes a difference, at the top it does not.
    have hexact : exact nans (of (.object as)) (of (.object bs)) = false := by
      rw [← Bool.not_eq_true]
      intro htrue
      refine hkeys ?_
      rw [← keys_ofMembers as, ← keys_ofMembers bs, keys_of_exactMembers htrue]
    have hreordered : sameMembers nans (ofMembers as) (ofMembers bs) = true ↔
        (Document.object as).EqualAtTopOnly (.object bs) := by
      rw [sameMembers_iff_perm ha.json.1 hb.json.1, EqualAtTopOnly, and_iff_right hkeys]
      exact exists_congr fun cs => and_congr_right fun hperm =>
        exact_iff (a := .object as) (b := .object cs) ha.json ha.parts (isJson_of_perm hperm hb.json)
    cases hsame : sameMembers nans (ofMembers as) (ofMembers bs) with
    | true => exact .inl ⟨hreordered.1 hsame, rfl, hexact⟩
    | false => exact .inr ⟨fun htop => Bool.false_ne_true (hsame.symm.trans (hreordered.2 htop)), hexact⟩

theorem topDecides {a b : Document} (ha : a.IsDefinite) (hb : b.IsDefinite) {e : Bool}
    (h : (of a).strictEquals nans (of b) = .ok e) : TopDecides nans a b e := by
  cases a with
  | date | decimal | wrapped => exact ha.json.elim
  | number m =>
    cases b with
    | date | decimal | wrapped => exact hb.json.elim
    | number n => exact topDecides_numbers ha.parts h
    | _ => exact .inr ⟨id, Except.ok.inj h⟩
  | object as =>
    cases b with
    | date | decimal | wrapped => exact hb.json.elim
    | object bs => exact topDecides_objects ha hb h
    | _ => exact .inr ⟨id, Except.ok.inj h⟩
  | null | boolean | text | list =>
    cases b with
    | date | decimal | wrapped => exact hb.json.elim
    | _ => exact .inr ⟨id, Except.ok.inj h⟩

/-- Inside of arrays and objects two values are equal if they are so with their keys in one order
throughout. That is what they are by themselves as well, unless they are equal by their top alone. -/
theorem enclosed_equality (nans : NaNs) {a b : Document} (ha : a.IsDefinite) (hb : b.IsDefinite) {e : Bool}
    (h : (of a).strictEquals nans (of b) = .ok e) {layers : List Layer} (hne : layers ≠ [])
    (hl : ∀ l ∈ layers, l.IsDefinite) :
    ∃ r, (of (enclosed layers a)).strictEquals nans (of (enclosed layers b)) = .ok r ∧
      (r = true ↔ a.Coincides b) ∧
      (e = true ↔ a.Coincides b ∨ a.EqualAtTopOnly b) ∧
      (r = e ↔ ¬ a.EqualAtTopOnly b) := by
  have hexact : exact nans (of a) (of b) = true ↔ a.Coincides b := exact_iff ha.json ha.parts hb.json
  refine ⟨_, strictEquals_enclosed hne hl a b, hexact, ?_⟩
  rw [← hexact]
  rcases topDecides ha hb h with ⟨htop, rfl, hapart⟩ | ⟨htop, rfl⟩
  · simp [htop, hapart]
  · simp [htop]

/-- An order with its net amount as an integer and as a decimal, in a list on a page. -/
theorem orders_equal :
    (of (.object [("net", .ofInt 1)])).strictEquals .alike
      (of (.object [("net", .number (.float (Binary64.ofInt 1)))]))
        = .ok true ∧
      (of (enclosed [.member [("page", .ofInt 1)] "orders" [], .item [.null] []]
        (.object [("net", .ofInt 1)]))).strictEquals
        .alike (of (enclosed [.member [("page", .ofInt 1)] "orders" [], .item [.null] []]
          (.object [("net", .number (.float (Binary64.ofInt 1)))]))) = .ok true := by
  have hinteger : (Document.object [("net", .ofInt 1)]).IsDefinite := by
    constructor <;> simp [IsJson, Every, EveryMember, IsJsonPart, DefinitePart, Document.ofInt, Number.isNaN]
  have hdecimal : (Document.object [("net", .number (.float (Binary64.ofInt 1)))]).IsDefinite := by
    constructor <;>
      simp [IsJson, Every, EveryMember, IsJsonPart, DefinitePart, Number.isNaN, Binary64.isNaN_ofInt]
  have hne : [Layer.member [("page", .ofInt 1)] "orders" [], .item [.null] []] ≠ [] := nofun
  have hlayers : ∀ l ∈ [Layer.member [("page", .ofInt 1)] "orders" [], .item [.null] []], l.IsDefinite := by
    simp only [List.forall_mem_cons, List.not_mem_nil, false_imp_iff, implies_true, and_true]
    constructor <;> constructor <;>
      simp [Layer.around, IsJson, Every, EveryItem, EveryMember, IsJsonPart, DefinitePart,
        Document.ofInt, Number.isNaN]
  have hequal : (of (.object [("net", .ofInt 1)])).strictEquals .alike
      (of (.object [("net", .number (.float (Binary64.ofInt 1)))])) = .ok true :=
      congrArg Except.ok (by decide +kernel)
  obtain ⟨r, hr, -, -, hsame⟩ := enclosed_equality .alike hinteger hdecimal hequal hne hlayers
  obtain rfl : r = true := hsame.2 fun hreordered => hreordered.1 rfl
  exact ⟨hequal, hr⟩

/-- Two objects with the same members in another order are equal, and lists of them are not. -/
theorem reordered_apart : ¬ ∀ (nans : NaNs) (a b : Document) (e : Bool) (layers : List Layer),
    a.IsDefinite → b.IsDefinite → (of a).strictEquals nans (of b) = .ok e → (∀ l ∈ layers, l.IsDefinite) →
      (of (enclosed layers a)).strictEquals nans (of (enclosed layers b)) = .ok e := by
  intro hall
  have hfirst : (Document.object [("a", .ofInt 1), ("b", .ofInt 2)]).IsDefinite := by
    constructor <;> simp [IsJson, Every, EveryMember, IsJsonPart, DefinitePart, Document.ofInt, Number.isNaN]
  have hsecond : (Document.object [("b", .ofInt 2), ("a", .ofInt 1)]).IsDefinite := by
    constructor <;> simp [IsJson, Every, EveryMember, IsJsonPart, DefinitePart, Document.ofInt, Number.isNaN]
  have hlayer : ∀ l ∈ [Layer.item [] []], l.IsDefinite := by
    simp only [List.forall_mem_cons, List.not_mem_nil, false_imp_iff, implies_true, and_true]
    constructor <;> simp [Layer.around, IsJson, Every, EveryItem, IsJsonPart, DefinitePart]
  have hequal := hall .alike _ _ true [.item [] []] hfirst hsecond rfl hlayer
  cases hequal

end Value

end RecordDesk
