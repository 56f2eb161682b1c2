import RecordDesk.Proofs.Rule.Answers
import RecordDesk.Proofs.Value.Structure
set_option autoImplicit false

/-!
Strict equality as an equivalence. Below the top it goes part by part, at the top of an object by key, and
two numbers at the top by their nearest binary64 numbers. Each of the three can be turned around and
chained, and a definite value equals itself unless it is an integer without a binary64 number.
-/

namespace RecordDesk

namespace Temporal

theorem same_comm (s t : Temporal) : s.same t = t.same s := by
  cases s <;> cases t <;> simp [same, Moment.same, Bool.beq_comm]

theorem same_trans {s t u : Temporal} (h : s.same t = true) (h' : t.same u = true) : s.same u = true := by
  cases s <;> cases t <;> cases u <;> simp_all [same, Moment.same]

end Temporal

theorem Number.lt_integerLimit_of_same {i : Int} {y : Binary64} (h : (int i).same (float y) = true) :
    i.natAbs < Binary64.integerLimit := by
  rw [← Binary64.isFinite_ofInt]
  cases y with
  | nan => cases h
  | infinite negative => cases negative <;> cases h
  | finite =>
    have hsame := same_ofInt h rfl
    cases hx : Binary64.ofInt i with
    | finite => rfl
    | nan =>
      rw [hx] at hsame
      cases hsame
    | infinite negative =>
      rw [hx] at hsame
      cases negative <;> cases hsame

theorem Number.fits_of_same {m n : Number} (h : m.same n = true) : m.Fits ↔ n.Fits := by
  cases m with
  | int i =>
    cases n with
    | int j =>
      obtain rfl : i = j := Int.compare_eq_eq.1 (Option.some.inj (beq_iff_eq.1 h))
      exact Iff.rfl
    | float y => exact iff_of_true (fits_of_le (lt_integerLimit_of_same h).le) trivial
  | float x =>
    cases n with
    | int j => exact iff_of_true trivial (fits_of_le (lt_integerLimit_of_same (same_symm h)).le)
    | float y => exact Iff.rfl

namespace Value

open Document

variable {nans : NaNs}

/-! Below the top. -/

theorem exact_numbers {m n : Number} : exact nans (.number m) (.number n) = true ↔
    m.same n = true ∨ nans = .alike ∧ m.isNaN = true ∧ n.isNaN = true := by
  simp [exact, and_assoc]

mutual

theorem exact_comm (v w : Value) : exact nans v w = exact nans w v := by
  cases v with
  | number m =>
    cases w with
    | number n =>
      rw [Bool.eq_iff_iff, exact_numbers, exact_numbers, Number.same_comm, and_comm (a := m.isNaN = true)]
    | _ => rfl
  | array items =>
    cases w with
    | array others => exact exactItems_comm items others
    | _ => rfl
  | object members =>
    cases w with
    | object others => exact exactMembers_comm members others
    | _ => rfl
  | date s =>
    cases w with
    | date t => exact s.same_comm t
    | _ => rfl
  | null | text | boolean => cases w <;> simp [exact, Bool.beq_comm]

theorem exactItems_comm (as bs : List Value) : exactItems nans as bs = exactItems nans bs as := by
  cases as with
  | nil => cases bs <;> rfl
  | cons a rest =>
    cases bs with
    | nil => rfl
    | cons b more => rw [exactItems, exactItems, exact_comm a b, exactItems_comm rest more]

theorem exactMembers_comm (as bs : List (String × Value)) :
    exactMembers nans as bs = exactMembers nans bs as := by
  cases as with
  | nil => cases bs <;> rfl
  | cons m rest =>
    cases bs with
    | nil => rfl
    | cons n more =>
      obtain ⟨k, a⟩ := m
      obtain ⟨l, b⟩ := n
      rw [exactMembers, exactMembers, Bool.beq_comm (a := k), exact_comm a b, exactMembers_comm rest more]

end

mutual

theorem exact_trans {u v w : Value} (h : exact nans u v = true) (h' : exact nans v w = true) :
    exact nans u w = true := by
  cases u with
  | number l =>
    cases v with
    | number m =>
      cases w with
      | number n =>
        rcases exact_numbers.1 h with hsame | ⟨halike, hl, hm⟩
        · rcases exact_numbers.1 h' with hsame' | ⟨-, hm, -⟩
          · exact exact_numbers.2 (.inl (Number.same_trans hsame hsame'))
          · exact absurd hm (by rw [(Number.isNaN_of_same hsame).2]; decide)
        · rcases exact_numbers.1 h' with hsame' | ⟨-, -, hn⟩
          · exact absurd hm (by rw [(Number.isNaN_of_same hsame').1]; decide)
          · exact exact_numbers.2 (.inr ⟨halike, hl, hn⟩)
      | _ => cases h'
    | _ => cases h
  | array as =>
    cases v with
    | array bs =>
      cases w with
      | array cs => exact exactItems_trans (show exactItems nans as bs = true from h) h'
      | _ => cases h'
    | _ => cases h
  | object as =>
    cases v with
    | object bs =>
      cases w with
      | object cs => exact exactMembers_trans (show exactMembers nans as bs = true from h) h'
      | _ => cases h'
    | _ => cases h
  | date s =>
    cases v with
    | date t =>
      cases w with
      | date r => exact Temporal.same_trans (t := t) h h'
      | _ => cases h'
    | _ => cases h
  | null | text | boolean => cases v <;> cases w <;> simp_all [exact]
termination_by structural u

theorem exactItems_trans {as bs cs : List Value} (h : exactItems nans as bs = true)
    (h' : exactItems nans bs cs = true) : exactItems nans as cs = true := by
  cases as with
  | nil =>
    cases bs with
    | nil => exact h'
    | cons b more => cases h
  | cons a rest =>
    cases bs with
    | nil => cases h
    | cons b more =>
      cases cs with
      | nil => cases h'
      | cons c others =>
        rw [exactItems, Bool.and_eq_true] at h h' ⊢
        exact ⟨exact_trans h.1 h'.1, exactItems_trans h.2 h'.2⟩
termination_by structural as

theorem exactMembers_trans {as bs cs : List (String × Value)} (h : exactMembers nans as bs = true)
    (h' : exactMembers nans bs cs = true) : exactMembers nans as cs = true := by
  cases as with
  | nil =>
    cases bs with
    | nil => exact h'
    | cons b more => cases h
  | cons m rest =>
    obtain ⟨k, a⟩ := m
    cases bs with
    | nil => cases h
    | cons b more =>
      cases cs with
      | nil => cases h'
      | cons c others =>
        simp only [exactMembers, Bool.and_eq_true, beq_iff_eq] at h h' ⊢
        exact ⟨⟨h.1.1.trans h'.1.1, exact_trans h.1.2 h'.1.2⟩, exactMembers_trans h.2 h'.2⟩
termination_by structural as

end

/-! At the top of an object. -/

theorem keys_of_sameMembers {as bs : List (String × Value)} (ha : (as.map (·.1)).Nodup)
    (h : sameMembers nans as bs = true) : (as.map (·.1)).Perm (bs.map (·.1)) := by
  obtain ⟨hlength, hin⟩ := sameMembers_iff.1 h
  have hsubset : as.map (·.1) ⊆ bs.map (·.1) := by
    intro k hk
    obtain ⟨m, hm, rfl⟩ := List.mem_map.1 hk
    obtain ⟨w, hw, -⟩ := hin m hm
    exact List.mem_map_of_mem (f := (·.1)) (mem_of_lookup hw)
  refine (List.subperm_of_subset ha hsubset).perm_of_length_le ?_
  rw [List.length_map, List.length_map, hlength]

theorem sameMembers_symm {as bs : List (String × Value)} (ha : (as.map (·.1)).Nodup)
    (hb : (bs.map (·.1)).Nodup) (h : sameMembers nans as bs = true) : sameMembers nans bs as = true := by
  obtain ⟨hlength, hin⟩ := sameMembers_iff.1 h
  refine sameMembers_iff.2 ⟨hlength.symm, fun n hn => ?_⟩
  obtain ⟨m, hm, hkey⟩ := List.mem_map.1 ((keys_of_sameMembers ha h).mem_iff.2 (List.mem_map_of_mem hn))
  obtain ⟨w, hw, hexact⟩ := hin m hm
  obtain rfl : n.2 = w := Option.some.inj ((lookup_of_mem hb hn).symm.trans (hkey ▸ hw))
  exact ⟨m.2, hkey ▸ lookup_of_mem ha hm, (exact_comm n.2 m.2).trans hexact⟩

theorem sameMembers_trans {as bs cs : List (String × Value)} (h : sameMembers nans as bs = true)
    (h' : sameMembers nans bs cs = true) : sameMembers nans as cs = true := by
  obtain ⟨hlength, hin⟩ := sameMembers_iff.1 h
  obtain ⟨hlength', hin'⟩ := sameMembers_iff.1 h'
  refine sameMembers_iff.2 ⟨hlength.trans hlength', fun m hm => ?_⟩
  obtain ⟨w, hw, hexact⟩ := hin m hm
  obtain ⟨x, hx, hexact'⟩ := hin' (m.1, w) (mem_of_lookup hw)
  exact ⟨x, hx, exact_trans hexact hexact'⟩

/-! Equal values both have a text or neither has. -/

mutual

theorem isPrintable_of_exact {v w : Value} (h : exact nans v w = true) : v.isPrintable = w.isPrintable := by
  cases v with
  | number m =>
    cases w with
    | number n =>
      rw [Bool.eq_iff_iff, isPrintable_number, isPrintable_number]
      rcases exact_numbers.1 h with hsame | ⟨-, hm, hn⟩
      · exact Number.fits_of_same hsame
      · cases m with
        | int i => cases hm
        | float x =>
          cases n with
          | int j => cases hn
          | float y => exact Iff.rfl
    | _ => cases h
  | array as =>
    cases w with
    | array bs => exact printableItems_of_exact (show exactItems nans as bs = true from h)
    | _ => cases h
  | object as =>
    cases w with
    | object bs => exact printableMembers_of_exact (show exactMembers nans as bs = true from h)
    | _ => cases h
  | null | text | boolean | date => cases w <;> first | rfl | cases h

theorem printableItems_of_exact {as bs : List Value} (h : exactItems nans as bs = true) :
    printableItems as = printableItems bs := by
  cases as with
  | nil =>
    cases bs with
    | nil => rfl
    | cons b more => cases h
  | cons a rest =>
    cases bs with
    | nil => cases h
    | cons b more =>
      rw [exactItems, Bool.and_eq_true] at h
      rw [printableItems, printableItems, isPrintable_of_exact h.1, printableItems_of_exact h.2]

theorem printableMembers_of_exact {as bs : List (String × Value)} (h : exactMembers nans as bs = true) :
    printableMembers as = printableMembers bs := by
  cases as with
  | nil =>
    cases bs with
    | nil => rfl
    | cons n more => cases h
  | cons m rest =>
    cases bs with
    | nil => cases h
    | cons n more =>
      obtain ⟨k, a⟩ := m
      obtain ⟨l, b⟩ := n
      rw [exactMembers, Bool.and_eq_true, Bool.and_eq_true] at h
      rw [printableMembers, printableMembers, isPrintable_of_exact h.1.2, printableMembers_of_exact h.2]

end

theorem printableMembers_of_same {as bs : List (String × Value)} (h : sameMembers nans as bs = true)
    (hbs : printableMembers bs = true) : printableMembers as = true := by
  obtain ⟨-, hin⟩ := sameMembers_iff.1 h
  refine printableMembers_iff.2 fun m hm => ?_
  obtain ⟨w, hw, hexact⟩ := hin m hm
  rw [isPrintable_of_exact hexact]
  exact printableMembers_iff.1 hbs (m.1, w) (mem_of_lookup hw)

/-! Values as a whole. -/

/-- The keys of an object are distinct; below them nothing is asked. -/
def DistinctKeys : Value → Prop
  | .object members => (members.map (·.1)).Nodup
  | _ => True

theorem strictEquals_of_kind_ne {v w : Value} (h : v.kind ≠ w.kind) : v.strictEquals nans w = .ok false := by
  cases v <;> cases w <;> first | rfl | exact absurd rfl h

theorem kind_of_strictEquals {v w : Value} (h : v.strictEquals nans w = .ok true) : v.kind = w.kind := by
  by_contra hne
  cases h.symm.trans (strictEquals_of_kind_ne hne)

theorem eq_null_of_kind {v : Value} (h : v.kind = .null) : v = .null := by
  cases v with
  | null => rfl
  | _ => cases h

theorem strictEquals_numbers {m n : Number} {e : Bool} (h : (number m).strictEquals nans (number n) = .ok e) :
    ∃ x y, m.toBinary64 = .ok x ∧ n.toBinary64 = .ok y ∧ x.same y = e := by
  obtain ⟨x, hx, h⟩ := ok_of_bind h
  obtain ⟨y, hy, h⟩ := ok_of_bind h
  exact ⟨x, y, hx, hy, Except.ok.inj h⟩

theorem strictEquals_symm {v w : Value} (hv : v.DistinctKeys) (hw : w.DistinctKeys)
    (h : v.strictEquals nans w = .ok true) : w.strictEquals nans v = .ok true := by
  cases v with
  | number m =>
    cases w with
    | number n =>
      obtain ⟨x, y, hx, hy, hsame⟩ := strictEquals_numbers h
      rw [← Number.same_float, Number.same_comm, Number.same_float] at hsame
      rw [strictEquals, hx, hy, ← hsame]
      rfl
    | _ => cases h
  | object as =>
    cases w with
    | object bs => exact congrArg Except.ok (sameMembers_symm hv hw (Except.ok.inj h))
    | _ => cases h
  | null | text | boolean | date | array => cases w <;> exact (congrArg Except.ok (exact_comm _ _)).trans h

theorem strictEquals_trans {u v w : Value} (h : u.strictEquals nans v = .ok true)
    (h' : v.strictEquals nans w = .ok true) : u.strictEquals nans w = .ok true := by
  cases u with
  | number l =>
    cases v with
    | number m =>
      cases w with
      | number n =>
        obtain ⟨x, y, hx, hy, hsame⟩ := strictEquals_numbers h
        obtain ⟨y', z, hy', hz, hsame'⟩ := strictEquals_numbers h'
        obtain rfl : y = y' := Except.ok.inj (hy.symm.trans hy')
        rw [← Number.same_float] at hsame hsame'
        rw [strictEquals, hx, hz, ← Number.same_trans hsame hsame', Number.same_float]
        rfl
      | _ => cases h'
    | _ => cases h
  | object as =>
    cases v with
    | object bs =>
      cases w with
      | object cs => exact congrArg Except.ok (sameMembers_trans (Except.ok.inj h) (Except.ok.inj h'))
      | _ => cases h'
    | _ => cases h
  | null | text | boolean | date | array =>
    cases v with
    | number | object => cases h
    | _ => cases w <;> exact congrArg Except.ok (exact_trans (Except.ok.inj h) (Except.ok.inj h'))

theorem isPrintable_of_strictEquals {v w : Value} (hv : v.DistinctKeys) (hw : w.DistinctKeys)
    (h : v.strictEquals nans w = .ok true) : v.isPrintable = w.isPrintable := by
  cases v with
  | number m =>
    cases w with
    | number n =>
      obtain ⟨x, y, hx, hy, -⟩ := strictEquals_numbers h
      have hm : m.Fits := Number.fits_of_not_tooWide (m.answers_toBinary64.ok_iff.1 ⟨x, hx⟩)
      have hn : n.Fits := Number.fits_of_not_tooWide (n.answers_toBinary64.ok_iff.1 ⟨y, hy⟩)
      rw [isPrintable_number.2 hm, isPrintable_number.2 hn]
    | _ => cases h
  | object as =>
    cases w with
    | object bs =>
      have hsame : sameMembers nans as bs = true := Except.ok.inj h
      exact Bool.eq_iff_iff.2 ⟨printableMembers_of_same (sameMembers_symm hv hw hsame),
        printableMembers_of_same hsame⟩
    | _ => cases h
  | null | text | boolean | date | array =>
    cases w with
    | number | object => cases h
    | _ =>
      have hexact : exact nans _ _ = true := Except.ok.inj h
      exact isPrintable_of_exact hexact

theorem tooWide_of_incomparable {v w : Value} (h : v.Incomparable w) : v.TooWide ∨ w.TooWide := by
  cases v with
  | number m =>
    cases w with
    | number n => exact h
    | _ => exact h.elim
  | _ => exact h.elim

end Value

namespace Document

open Value

variable {nans : NaNs} {a b c : Document}

/-- A definite document that is no integer too wide to be compared. -/
structure IsComparable (d : Document) : Prop where
  definite : d.IsDefinite
  narrow : ¬ (of d).TooWide

/-- Two documents whose values are found to be strictly equal. -/
def StrictlyEqual (nans : NaNs) (a b : Document) : Prop := (of a).strictEquals nans (of b) = .ok true

theorem IsJson.distinctKeys (h : a.IsJson) : (of a).DistinctKeys := by
  cases a with
  | object members => exact (congrArg List.Nodup (keys_ofMembers members)).mpr h.1
  | date | decimal | wrapped => exact h.elim
  | null | boolean | number | text | list => trivial

namespace IsComparable

theorem answered (nans : NaNs) (ha : a.IsComparable) (hb : b.IsComparable) :
    ∃ e, (of a).strictEquals nans (of b) = .ok e :=
  (answers_strictEquals nans (of a) (of b)).ok_iff.2 fun hblocked =>
    (tooWide_of_incomparable hblocked).elim ha.narrow hb.narrow

theorem refl (ha : a.IsComparable) : a.StrictlyEqual nans a := by
  obtain ⟨⟨hj, hn⟩, hnarrow⟩ := ha
  cases a with
  | number n =>
    obtain ⟨x, hx⟩ := n.answers_toBinary64.ok_iff.2 hnarrow
    have hsame : x.same x = true := Number.same_nearest (Number.same_self hn) hx hx
    rw [StrictlyEqual, of, strictEquals, hx, ← hsame]
    rfl
  | object members =>
    have hkeys : ((ofMembers members).map (·.1)).Nodup := IsJson.distinctKeys hj
    exact congrArg Except.ok ((sameMembers_of_keys rfl hkeys).trans (exactMembers_self hj.2 hn.2))
  | date | decimal | wrapped => exact hj.elim
  | null | boolean | text | list => exact congrArg Except.ok (exact_self hj hn)

theorem symm (ha : a.IsComparable) (hb : b.IsComparable) (h : a.StrictlyEqual nans b) :
    b.StrictlyEqual nans a :=
  strictEquals_symm ha.definite.json.distinctKeys hb.definite.json.distinctKeys h

end IsComparable

end Document

end RecordDesk
