import RecordDesk.Proofs.Store.Listing
set_option autoImplicit false

namespace RecordDesk

section

variable {α β : Type}

theorem saysYes_iff {answer : Except Fault Bool} : saysYes answer = true ↔ answer = .ok true := by
  cases answer <;> simp [saysYes]

theorem filterM_total {f : α → Except Fault Bool} {as : List α} (h : ∀ a ∈ as, ∃ b, f a = .ok b) :
    as.filterM f = .ok (as.filter fun a => saysYes (f a)) := by
  -- The loop behind it keeps what it has found in reverse.
  have haux (acc : List α) : ∃ bs, List.filterAuxM f as acc = .ok bs := by
    induction as generalizing acc with
    | nil => exact ⟨acc, rfl⟩
    | cons a rest ih =>
      obtain ⟨⟨keep, hkeep⟩, hrest⟩ := List.forall_mem_cons.1 h
      rw [List.filterAuxM, hkeep]
      exact ih hrest _
  obtain ⟨kept, hkept⟩ := haux []
  have hall : as.filterM f = .ok kept.reverse := by
    rw [List.filterM, hkept]
    rfl
  rw [hall, filterM_ok hall]

theorem ok_of_filterM {f : α → Except Fault Bool} {as bs : List α} (h : as.filterM f = .ok bs) :
    ∀ a ∈ as, ∃ b, f a = .ok b := by
  have haux : ∀ (as acc bs : List α), List.filterAuxM f as acc = .ok bs → ∀ a ∈ as, ∃ b, f a = .ok b := by
    intro as
    induction as with
    | nil => simp
    | cons a rest ih =>
      intro acc bs h
      rw [List.filterAuxM] at h
      obtain ⟨keep, hkeep, h⟩ := ok_of_bind h
      exact List.forall_mem_cons.2 ⟨⟨keep, hkeep⟩, ih _ _ h⟩
  rw [List.filterM] at h
  obtain ⟨kept, hkept, -⟩ := ok_of_bind h
  exact haux as [] kept hkept

end

namespace Path

/-- A key that a path can name: a quote would end the name, and a NUL the path. -/
def Nameable (key : String) : Prop := ∀ c ∈ key.toList, c ≠ '"' ∧ c.toNat ≠ 0

instance (key : String) : Decidable (Nameable key) := inferInstanceAs (Decidable (∀ c ∈ _, _))

/-- The first member of an object whose name is written as a key is. -/
def held? (key : String) : Document → Option Document
  | .object members => member? key.toList members
  | _ => none

variable {key : String} {d : Document}

theorem ofKey_nameable (hkey : Nameable key) : ofKey key = '.' :: '"' :: (key.toList ++ ['"']) := by
  refine List.takeWhile_eq_self_iff.2 fun c hc => ?_
  simp only [List.mem_cons, List.mem_append, List.not_mem_nil, or_false] at hc
  rcases hc with rfl | rfl | hc | rfl
  · decide
  · decide
  · simpa using (hkey c hc).2
  · decide

theorem name?_nameable (hkey : Nameable key) : name? ('"' :: (key.toList ++ ['"'])) =
    some (key.toList, []) := by
  have hspan : (key.toList ++ ['"']).span (· != '"') = (key.toList, ['"']) := by
    rw [List.span_eq_takeWhile_dropWhile, List.takeWhile_append_of_pos, List.dropWhile_append_of_pos]
    · simp
    all_goals
      intro c hc
      simpa using (hkey c hc).1
  simp only [name?, hspan]

theorem find_nameable (hkey : Nameable key) (hd : d.isPortable = true) : find key d = .ok (held? key d) := by
  have hlength : ∃ n, (ofKey key).length = n + 1 := ⟨_, congrArg List.length (ofKey_nameable hkey)⟩
  obtain ⟨n, hn⟩ := hlength
  rw [find, hd, hn, ofKey_nameable hkey]
  cases d with
  | object members =>
    simp only [follow, name?_nameable hkey, held?, Bool.not_true, Bool.false_eq_true, if_false]
    cases member? key.toList members <;> rfl
  | _ => rfl

end Path

namespace Cell

def seen (view : Document → Cell) : Option Document → Cell
  | some d => view d
  | none => .null

theorem field_nameable {key : String} {d : Document} (view : Document → Cell) (hkey : Path.Nameable key)
    (hd : d.isPortable = true) : field view key d = .ok (seen view (Path.held? key d)) := by
  rw [field, Path.find_nameable hkey hd]
  cases Path.held? key d <;> rfl

end Cell

namespace Widget

/-- A record that a query would take at some time: it is the tenant's and the entity's, and it passes every
filter. -/
def Predicate.Concerns (p : Predicate) (r : RecordRow) : Prop :=
  p.tenantId.isText r.tenantId = true ∧ p.entityId.isText r.entityId = true ∧
  Store.passes r.fields p.filters = .ok true

/-- A record that is looked at: it is the tenant's and the entity's, from the window. -/
def Predicate.Meets (p : Predicate) (r : RecordRow) : Prop :=
  p.tenantId.isText r.tenantId = true ∧ p.entityId.isText r.entityId = true ∧
  Store.inWindow p r.createdAt = true

variable {p : Predicate} {r : RecordRow}

theorem Predicate.takes_iff : p.takes r = true ↔ p.Meets r ∧ Store.passes r.fields p.filters = .ok true := by
  rw [takes, Bool.and_eq_true, Bool.and_eq_true, Bool.and_eq_true, saysYes_iff, Meets]
  tauto

theorem Predicate.takes_iff_concerns : p.takes r = true ↔
    p.Concerns r ∧ Store.inWindow p r.createdAt = true := by
  rw [takes_iff, Meets, Concerns]
  tauto

end Widget

namespace Store

open Widget

variable {s : Store} {p : Predicate} {rows : List RecordRow}

theorem select_ok_iff : (∃ rows, s.select p = .ok rows) ↔
    ∃ all, s.records.rows = some all ∧ ∀ r ∈ all, p.Meets r → ∃ b, passes r.fields p.filters = .ok b := by
  constructor
  · rintro ⟨rows, h⟩
    obtain ⟨found, hfound, h⟩ := ok_of_bind h
    obtain ⟨all, hall, hfound⟩ := ok_of_bind hfound
    cases hfound
    refine ⟨all, Table.rows_of_read hall, fun r hr hmeets => ok_of_filterM h r ?_⟩
    rw [List.mem_mergeSort, List.mem_filter]
    simpa [Predicate.Meets, and_assoc] using ⟨hr, hmeets⟩
  · rintro ⟨all, hall, htest⟩
    have hlooked : s.candidates p = .ok ((all.filter fun r => p.tenantId.isText r.tenantId &&
        p.entityId.isText r.entityId && inWindow p r.createdAt).mergeSort
          fun a b => a.createdAt.wall ≤ b.createdAt.wall) := by
      rw [candidates, Table.read_of_rows hall]
      rfl
    rw [select, hlooked]
    refine ⟨_, filterM_total fun r hr => ?_⟩
    rw [List.mem_mergeSort, List.mem_filter] at hr
    exact htest r hr.1 (by simpa [Predicate.Meets, and_assoc] using hr.2)

theorem passes_total {fields : Document} (hfields : fields.isPortable = true) {filters : List Filter}
    (h : ∀ f ∈ filters, Path.Nameable f.key ∧ ∃ c, wantedCell f = .ok c) :
    ∃ b, passes fields filters = .ok b := by
  induction filters with
  | nil => exact ⟨true, rfl⟩
  | cons f rest ih =>
    obtain ⟨⟨hkey, wanted, hwanted⟩, hrest⟩ := List.forall_mem_cons.1 h
    rw [passes, Cell.field_nameable Cell.of hkey hfields, hwanted]
    change ∃ b, (if (Cell.seen Cell.of (Path.held? f.key fields)).matches? wanted then passes fields rest
      else .ok false) = .ok b
    split
    · exact ih hrest
    · exact ⟨false, rfl⟩

end Store

end RecordDesk
