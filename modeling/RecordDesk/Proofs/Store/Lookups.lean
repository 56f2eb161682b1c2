import RecordDesk.Proofs.Store.Filters
set_option autoImplicit false

namespace RecordDesk

open Widget

/-- Fields as an object, with no infinity and no not-a-number anywhere. -/
structure Document.Sound (d : Document) : Prop where
  object : ∃ members, d = .object members
  portable : d.isPortable = true

/-- Records are there, with sound fields, and so are users. -/
structure Store.Sound (s : Store) : Prop where
  records : ∃ rows, s.records.rows = some rows ∧ ∀ r ∈ rows, r.fields.Sound
  users : ∃ rows, s.users.rows = some rows

namespace Path

variable {key : String} {d : Document}

theorem find_ok_iff (hquote : '"' ∉ key.toList) (hd : d.Sound) : (∃ found, find key d = .ok found) ↔
    Nameable key := by
  constructor
  · rintro ⟨found, h⟩
    obtain ⟨members, rfl⟩ := hd.object
    by_contra hkey
    have hopen : name? ('"' :: key.toList.takeWhile fun c => c.toNat != 0) = none :=
      name?_open fun hc => hquote ((List.takeWhile_prefix _).subset hc)
    rw [find, hd.portable, ofKey_cut hkey hquote] at h
    simp only [List.length_cons, follow, hopen, Bool.not_true, Bool.false_eq_true, if_false] at h
    cases h
  · exact fun hkey => ⟨_, find_nameable hkey hd.portable⟩

end Path

theorem Cell.field_ok_iff {key : String} {d : Document} (view : Document → Cell) (hquote : '"' ∉ key.toList)
    (hd : d.Sound) : (∃ c, Cell.field view key d = .ok c) ↔ Path.Nameable key := by
  rw [Cell.field, bind_ok_iff, ← Path.find_ok_iff hquote hd]
  exact exists_congr fun found => and_iff_left ⟨_, rfl⟩

/-- A filter that can be asked: its key can be named, and its value is portable. -/
structure Widget.Filter.Askable (f : Filter) : Prop where
  key : Path.Nameable f.key
  value : f.value.writable.toDocument.isPortable = true

namespace Store

variable {s : Store} {p : Predicate} {fields : Document}

theorem wantedCell_ok_iff {f : Filter} : (∃ c, wantedCell f = .ok c) ↔
    f.value.writable.toDocument.isPortable = true := by
  unfold wantedCell
  dsimp only
  split
  · rename_i h
    exact ⟨fun _ => h, fun _ => ⟨_, rfl⟩⟩
  · rename_i h
    exact ⟨fun ⟨_, hc⟩ => (by cases hc), fun hp => absurd hp h⟩

theorem passes_cons (f : Filter) (rest : List Filter) :
    passes fields (f :: rest) = (do if ← passes fields [f] then passes fields rest else return false) := by
  rw [passes_one, passes]
  cases Cell.field Cell.of f.key fields with
  | error fault => rfl
  | ok found =>
    cases wantedCell f with
    | error fault => rfl
    | ok wanted => rfl

theorem passes_one_ok_iff {f : Filter} (hfields : fields.Sound) (hquote : '"' ∉ f.key.toList) :
    (∃ b, passes fields [f] = .ok b) ↔ f.Askable := by
  rw [passes_one, bind_ok_iff]
  constructor
  · rintro ⟨found, hfound, hrest⟩
    obtain ⟨wanted, hwanted, -⟩ := bind_ok_iff.1 hrest
    exact ⟨(Cell.field_ok_iff Cell.of hquote hfields).1 ⟨found, hfound⟩,
      wantedCell_ok_iff.1 ⟨wanted, hwanted⟩⟩
  · rintro ⟨hkey, hvalue⟩
    obtain ⟨found, hfound⟩ := (Cell.field_ok_iff Cell.of hquote hfields).2 hkey
    obtain ⟨wanted, hwanted⟩ := wantedCell_ok_iff.2 hvalue
    exact ⟨found, hfound, bind_ok_iff.2 ⟨wanted, hwanted, _, rfl⟩⟩

/-- A record is tested just when each filter can be asked that it comes to, having passed all before. -/
theorem passes_ok_iff (hfields : fields.Sound) {filters : List Filter}
    (hquote : ∀ f ∈ filters, '"' ∉ f.key.toList) :
    (∃ b, passes fields filters = .ok b) ↔ ∀ before f after, filters = before ++ f :: after →
      passes fields before = .ok true → f.Askable := by
  induction filters with
  | nil => exact ⟨fun _ before f after h => absurd h (by simp), fun _ => ⟨true, rfl⟩⟩
  | cons f rest ih =>
    obtain ⟨hf, hrest⟩ := List.forall_mem_cons.1 hquote
    rw [passes_cons, bind_ok_iff]
    constructor
    · rintro ⟨b, hb, hmore⟩ before g after hsplit hpassed
      cases before with
      | nil =>
        obtain rfl := (List.cons.inj hsplit).1
        exact (passes_one_ok_iff hfields hf).1 ⟨b, hb⟩
      | cons first before =>
        obtain ⟨rfl, rfl⟩ := List.cons.inj hsplit
        obtain ⟨hfirst, hpassed⟩ := passes_cons_iff.1 hpassed
        obtain rfl := Except.ok.inj (hb.symm.trans hfirst)
        exact (ih hrest).1 hmore before g after rfl hpassed
    · intro hasked
      obtain ⟨b, hb⟩ := (passes_one_ok_iff hfields hf).2 (hasked [] f rest rfl rfl)
      refine ⟨b, hb, ?_⟩
      cases b with
      | false => exact ⟨false, rfl⟩
      | true =>
        exact (ih hrest).2 fun before g after hsplit hpassed =>
          hasked (f :: before) g after (by rw [hsplit]; rfl) (passes_cons_iff.2 ⟨hb, hpassed⟩)

/-- No record that is looked at comes to a filter that cannot be asked. -/
def Testable (s : Store) (p : Predicate) : Prop :=
  ∀ r ∈ s.records.rows.getD [], p.Meets r → ∀ before f after, p.filters = before ++ f :: after →
    passes r.fields before = .ok true → f.Askable

theorem select_ok_iff_testable (hs : s.Sound) (hquote : ∀ f ∈ p.filters, '"' ∉ f.key.toList) :
    (∃ rows, s.select p = .ok rows) ↔ s.Testable p := by
  obtain ⟨all, hall, hsound⟩ := hs.records
  rw [select_ok_iff, Testable, hall]
  constructor
  · rintro ⟨all', hall', htest⟩ r hr hmeets
    cases hall'
    exact (passes_ok_iff (hsound r hr) hquote).1 (htest r hr hmeets)
  · exact fun htest => ⟨all, rfl, fun r hr hmeets => (passes_ok_iff (hsound r hr) hquote).2
      (htest r hr hmeets)⟩

theorem sound_of_matching (hs : s.Sound) {r : RecordRow} (hr : r ∈ s.matching p) : r.fields.Sound := by
  obtain ⟨all, hall, hsound⟩ := hs.records
  rw [matching, hall] at hr
  exact hsound r (List.mem_filter.1 hr).1

end Store

end RecordDesk
