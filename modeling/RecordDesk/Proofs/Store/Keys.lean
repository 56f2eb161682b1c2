import RecordDesk.Proofs.Document.Escapes
import RecordDesk.Proofs.Store.Filters
set_option autoImplicit false

/-!
Keys. What a query sees under a key is stored under the name that is written as the key, and that is the key
itself just if the key is plain. Where names are compared by what they stand for, it is the key itself just
if no backslash is in it.
-/

namespace RecordDesk

open Quoted (encode)

namespace Path

variable {key : String} {d v : Document}

def meantAlike (label written : List Char) : Bool :=
  (Document.unescape label).isSome && Document.unescape label == Document.unescape written

theorem stored_single (name : String) (hv : v.Stored) : (Document.object [(name, v)]).Stored :=
  (Store.holds_own (f := ⟨name, v⟩) hv).1

/-- A key finds its own member in every document just if it is compared as alike with no written name but
its own. -/
theorem heldBy_eq_get?_iff {alike : List Char → List Char → Bool} :
    (∀ d : Document, d.Stored → heldBy alike key d = d.get? key) ↔
      ∀ name : String, alike key.toList (encode name.toList) = (key == name) := by
  constructor
  · intro hall name
    -- An object with nothing but the name tells whether it is found.
    have hone := hall (.object [(name, .null)]) (stored_single name ⟨trivial, rfl⟩)
    change ([(name, Document.null)].find? _).map _ = List.lookup key [(name, Document.null)] at hone
    rw [List.find?_cons, List.lookup_cons] at hone
    cases halike : alike key.toList (encode name.toList) <;> cases hname : key == name <;> simp_all
  · exact fun hsame d _ => heldBy_of_alike hsame d

theorem meantAlike_encode (name : String) : meantAlike key.toList (encode name.toList) = true ↔
    Document.unescape key.toList = some name.toList := by
  rw [meantAlike, Document.unescape_encode, Bool.and_eq_true, beq_iff_eq]
  refine and_iff_right_of_imp fun h => ?_
  rw [h]
  rfl

theorem meantAlike_iff : (∀ name : String, meantAlike key.toList (encode name.toList) = (key == name)) ↔
    '\\' ∉ key.toList := by
  rw [← Document.unescape_eq_self_iff]
  constructor
  · intro h
    have hself := h key
    rwa [beq_self_eq_true, meantAlike_encode] at hself
  · intro h name
    rw [Bool.eq_iff_iff, meantAlike_encode, h, beq_iff_eq, Option.some.injEq, String.toList_inj]

theorem nameable_of_written {name : String} (hquote : '"' ∉ key.toList)
    (h : encode name.toList = key.toList) : Nameable key := by
  intro c hc
  refine ⟨fun heq => hquote (heq ▸ hc), fun hzero => ?_⟩
  rw [← h] at hc
  have hprintable := Document.printable_of_mem_encode hc
  omega

theorem held?_iff : held? key d = some v ↔
    ∃ name : String, encode name.toList = key.toList ∧ d.get? name = some v := by
  cases d with
  | object members =>
    change (members.find? fun m => encode m.1.toList == key.toList).map (·.2) = some v ↔
      ∃ name : String, encode name.toList = key.toList ∧ members.lookup name = some v
    induction members with
    | nil => simp
    | cons m rest ih =>
      rw [List.find?_cons]
      cases hm : encode m.1.toList == key.toList with
      | true =>
        have hname := beq_iff_eq.1 hm
        rw [Option.map_some, Option.some.injEq]
        constructor
        · rintro rfl
          exact ⟨m.1, hname, by rw [List.lookup_cons, beq_self_eq_true]⟩
        · rintro ⟨name, hkey, hfound⟩
          obtain rfl := Document.encode_inj (hkey.trans hname.symm)
          rw [List.lookup_cons, beq_self_eq_true] at hfound
          exact Option.some.inj hfound
      | false =>
        rw [ih]
        refine exists_congr fun name => and_congr_right fun hkey => ?_
        -- Only the member whose name is written as the key could end the search.
        have hother : (name == m.1) = false := by
          rw [beq_eq_false_iff_ne]
          rintro rfl
          rw [hkey, beq_self_eq_true] at hm
          cases hm
        rw [List.lookup_cons, hother]
  | _ => simp [held?, Document.get?]

theorem find_iff (hquote : '"' ∉ key.toList) (hd : d.isPortable = true) : find key d = .ok (some v) ↔
    ∃ name : String, encode name.toList = key.toList ∧ d.get? name = some v := by
  by_cases hkey : Nameable key
  · rw [find_nameable hkey hd, Except.ok.injEq, held?_iff]
  · refine iff_of_false (fun h => ?_) fun ⟨name, hname, _⟩ => hkey (nameable_of_written hquote hname)
    cases d with
    | object members =>
      have hopen : name? ('"' :: key.toList.takeWhile fun c => c.toNat != 0) = none :=
        name?_open fun hc => hquote ((List.takeWhile_prefix _).subset hc)
      rw [find, hd, ofKey_cut hkey hquote] at h
      simp only [List.length_cons, follow, hopen, Bool.not_true, Bool.false_eq_true, if_false] at h
      cases h
    | _ =>
      rw [find, hd, ofKey_cut hkey hquote] at h
      cases h

end Path

namespace Store

open Widget

variable {key : String}

theorem field_not_plain (hquote : '"' ∉ key.toList) (hkey : ¬ Path.Plain key) (view : Document → Cell) :
    Cell.field view key (.object [(key, .ofInt 1)]) = .ok .null ∨
      ∃ fault, Cell.field view key (.object [(key, .ofInt 1)]) = .error fault := by
  unfold Cell.field
  rcases Path.find_not_plain hquote hkey (d := .ofInt 1) rfl with hnone | ⟨fault, herror⟩
  · rw [hnone]
    exact .inl rfl
  · rw [herror]
    exact .inr ⟨fault, rfl⟩

theorem stored_one (key : String) : (Document.object [(key, .ofInt 1)]).Stored :=
  Path.stored_single key ⟨trivial, rfl⟩

theorem get?_one (key : String) : (Document.object [(key, .ofInt 1)]).get? key = some (.ofInt 1) :=
  List.lookup_cons_self

theorem field_exact_iff (hquote : '"' ∉ key.toList) {view : Document → Cell}
    (hview : view (.ofInt 1) = .number (.int 1)) :
    Path.Plain key ↔ ∀ d : Document, d.Stored →
    Cell.field view key d = .ok (Cell.seen view (d.get? key)) := by
  constructor
  · exact fun hkey d hd => Cell.field_plain view hkey hd.portable
  · intro hall
    by_contra hkey
    have hone := hall _ (stored_one key)
    rw [get?_one, Cell.seen, hview] at hone
    rcases field_not_plain hquote hkey view with hnull | ⟨fault, herror⟩
    · cases hnull.symm.trans hone
    · cases herror.symm.trans hone

theorem equality_exact_iff (hquote : '"' ∉ key.toList) : Path.Plain key ↔
    ∀ d v : Document, d.Stored → v.Stored →
    passes d [⟨key, v⟩] = .ok ((Cell.seen Cell.of (d.get? key)).matches? (Cell.of v)) := by
  constructor
  · exact fun hkey d v hd hv => passes_one_plain hkey hv hd
  · intro hall
    by_contra hkey
    have hone := hall _ (.ofInt 1) (stored_one key) ⟨trivial, rfl⟩
    rw [get?_one, passes_one] at hone
    rcases field_not_plain hquote hkey Cell.of with hnull | ⟨fault, herror⟩
    · rw [hnull] at hone
      cases hone
    · rw [herror] at hone
      cases hone

/-- A key without a quote is read exactly just if it is plain: then each expression that a query reads a
field by sees the value under the key, and else each of them misses the value of some document. What is seen
is stored under the name that is written as the key. If names were compared by what they stand for, the keys
that are read exactly were those without a backslash. -/
theorem keys_read_exactly (key : String) (hquote : '"' ∉ key.toList) :
    (∀ view ∈ [Cell.measure, Cell.label, Cell.of], Path.Plain key ↔
      ∀ d : Document, d.Stored → Cell.field view key d = .ok (Cell.seen view (d.get? key))) ∧
    (Path.Plain key ↔ ∀ d v : Document, d.Stored → v.Stored →
      passes d [⟨key, v⟩] = .ok ((Cell.seen Cell.of (d.get? key)).matches? (Cell.of v))) ∧
    (∀ d v : Document, d.Stored → (Path.find key d = .ok (some v) ↔
      ∃ name : String, encode name.toList = key.toList ∧ d.get? name = some v)) ∧
    ('\\' ∉ key.toList ↔ ∀ d : Document, d.Stored → Path.heldBy Path.meantAlike key d = d.get? key) := by
  refine ⟨fun view hview => field_exact_iff hquote ?_, equality_exact_iff hquote,
    fun d v hd => Path.find_iff hquote hd.portable, ?_⟩
  · simp only [List.mem_cons, List.not_mem_nil, or_false] at hview
    rcases hview with rfl | rfl | rfl <;> rfl
  · rw [Path.heldBy_eq_get?_iff, Path.meantAlike_iff]

/-- Amounts under two keys, of which the second is written as the first is when it is stored. -/
def twoAmounts : Document := .object [("a\\b", .ofInt 5), ("a\\\\b", .ofInt 7)]

theorem stored_twoAmounts : twoAmounts.Stored :=
  ⟨⟨by simp [Document.IsJsonPart], trivial, trivial, trivial⟩, by decide⟩

/-- Under the second key the amount of the first is found. -/
theorem other_amount_found : '"' ∉ "a\\\\b".toList ∧ twoAmounts.Stored ∧
    Path.find "a\\\\b" twoAmounts = .ok (some (.ofInt 5)) ∧ ¬ Path.Plain "a\\\\b" := by
  have hquote : '"' ∉ "a\\\\b".toList := by decide
  obtain ⟨hviews, -, hfound, -⟩ := keys_read_exactly "a\\\\b" hquote
  have hother : Path.find "a\\\\b" twoAmounts = .ok (some (.ofInt 5)) :=
    (hfound _ _ stored_twoAmounts).2 ⟨"a\\b", by decide, rfl⟩
  refine ⟨hquote, stored_twoAmounts, hother, fun hkey => ?_⟩
  have hseen := (hviews Cell.measure List.mem_cons_self).1 hkey _ stored_twoAmounts
  rw [Cell.field, hother] at hseen
  cases hseen

/-- A backslash in a key is enough for another key's value to be seen. -/
theorem escaped_key_taken : ¬ ∀ (key : String) (d : Document), '"' ∉ key.toList → d.Stored →
    Cell.field Cell.measure key d = .ok (Cell.seen Cell.measure (d.get? key)) := by
  intro hall
  have hseen := hall "a\\\\b" twoAmounts (by decide) stored_twoAmounts
  have hother : Cell.field Cell.measure "a\\\\b" twoAmounts = .ok (.number (.int 5)) := rfl
  cases hother.symm.trans hseen

end Store

end RecordDesk
