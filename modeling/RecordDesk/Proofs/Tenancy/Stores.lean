import RecordDesk.Desk
import RecordDesk.Proofs.Store.Rows
set_option autoImplicit false

/-!
Stores as one tenant sees them. Two stores that have a tenant's own rows in common answer its questions
alike, however the rows of others differ. The one exception is the name of a user, which is looked up
whoever it belongs to.
-/

namespace RecordDesk

def UserRow.ref (u : UserRow) : UserRef := ⟨u.id, u.name, u.email⟩

def Table.seen (t : Table UserRow) (id : String) : Except Fault (Option UserRef) :=
  t.read.map fun rows => (rows.find? (·.id == id)).map UserRow.ref

namespace Store

def owns (s : Store) (tenant entityId : String) : Bool :=
  ((s.entities.only (·.tenantId == tenant)).rows.getD []).any (·.id == entityId)

/-- The stores have all rows of a tenant in common, in their order: the tenant, its users, its entities with
their fields, its records, its rules and their executions. They give out the same names. -/
structure SameFor (tenant : String) (s s' : Store) : Prop where
  tenants : s.tenants.only (·.id == tenant) = s'.tenants.only (·.id == tenant)
  users : s.users.only (·.tenantId == tenant) = s'.users.only (·.tenantId == tenant)
  entities : s.entities.only (·.tenantId == tenant) = s'.entities.only (·.tenantId == tenant)
  fields : (s.fields.only fun f => s.owns tenant f.entityId) = s'.fields.only fun f =>
    s'.owns tenant f.entityId
  records : s.records.only (·.tenantId == tenant) = s'.records.only (·.tenantId == tenant)
  rules : s.rules.only (·.tenantId == tenant) = s'.rules.only (·.tenantId == tenant)
  logs : s.logs.only (·.tenantId == tenant) = s'.logs.only (·.tenantId == tenant)
  named : s.named = s'.named

/-- What is promised of every store: names are keys, and a name that is still to be given out is new, at
least where the rows of other tenants are concerned. -/
structure SoundFor (tenant : String) (s : Store) : Prop where
  entities : s.entities.KeyedBy (·.id)
  records : s.records.KeyedBy (·.id)
  newRecord : ∀ rows, s.records.rows = some rows → ∀ r ∈ rows, r.tenantId ≠ tenant → ∀ n, s.named < n →
    r.id ≠ rowName n
  newLog : ∀ rows, s.logs.rows = some rows → ∀ l ∈ rows, l.tenantId ≠ tenant → ∀ n, s.named < n →
    l.id ≠ rowName n

def MadeBy (tenant : String) (named : String → Prop) (s : Store) : Prop :=
  ∀ rows, s.records.rows = some rows → ∀ r ∈ rows, r.tenantId = tenant →
  ∀ id, r.createdBy = some id → named id

theorem user?_seen (s : Store) (id : String) : (s.user? id).map (·.map UserRow.ref) = s.users.seen id := by
  rw [user?, Table.seen]
  cases s.users.read <;> rfl

variable {tenant : String} {s s' : Store}

theorem owns_iff {id : String} : s.owns tenant id = true ↔
    ∃ rows, s.entities.rows = some rows ∧ ∃ e ∈ rows, e.id = id ∧ e.tenantId = tenant := by
  unfold owns Table.only
  cases s.entities.rows with
  | none => simp
  | some rows => simp [and_comm]

theorem id_of_entity? {id : String} {e : EntityRow} (h : s.entity? id = .ok (some e)) : e.id = id := by
  rw [entity?] at h
  cases hr : s.entities.read with
  | error fault => rw [hr] at h; cases h
  | ok rows =>
    rw [hr] at h
    have hfind : rows.find? (·.id == id) = some e := Except.ok.inj h
    simpa using List.find?_some hfind

theorem owns_of_entity? {id : String} {e : EntityRow} (h : s.entity? id = .ok (some e))
    (ht : e.tenantId = tenant) : s.owns tenant id = true := by
  rw [entity?] at h
  cases hr : s.entities.read with
  | error fault => rw [hr] at h; cases h
  | ok rows =>
    rw [hr] at h
    have hfind : rows.find? (·.id == id) = some e := Except.ok.inj h
    refine owns_iff.2 ⟨rows, Table.rows_of_read hr, e, List.mem_of_find?_eq_some hfind, ?_, ht⟩
    simpa using List.find?_some hfind

namespace SameFor

variable (h : SameFor tenant s s')
include h

theorem owns_eq : s.owns tenant = s'.owns tenant := by
  funext id
  rw [owns, owns, h.entities]

theorem tenant?_eq : s.tenant? tenant = s'.tenant? tenant := by
  have hhead (t : Store) : t.tenant? tenant = t.tenants.read >>= fun rows =>
      pure (rows.filter (·.id == tenant)).head? := by
    rw [tenant?]
    congr 1
    funext rows
    rw [List.head?_filter]
  rw [hhead, hhead]
  exact Table.bind_filter h.tenants (fun _ ht => ht) fun rows => pure rows.head?

theorem activeRules_eq (entityId operation : String) :
    s.activeRules tenant entityId operation = s'.activeRules tenant entityId operation := by
  have hnarrow (r : RuleRow) (hr : (r.tenantId == tenant && r.entityId == entityId && r.isActive
      && (r.runOn == operation || r.runOn == "both")) = true) : (r.tenantId == tenant) = true := by
    simp only [Bool.and_eq_true] at hr
    exact hr.1.1.1
  exact Table.bind_filter h.rules hnarrow fun rows =>
    (rows.mergeSort fun a b => earlier a.createdAt b.createdAt a.id b.id).mapM fun r => do
      let conditions ← (orEmpty r.conditions).sequence
      let actions ← (orEmpty r.actions).sequence
      return (⟨r.id, r.name, .list conditions, .list actions⟩ : Rule)

theorem latestLogs_eq {wanted : LogRow → Bool} (hw : ∀ l, wanted l = true → l.tenantId = tenant) :
    s.latestLogs wanted = s'.latestLogs wanted :=
  Table.bind_filter h.logs (fun l hl => beq_iff_eq.2 (hw l hl)) fun rows =>
    pure (rows.mergeSort fun a b => later a.createdAt b.createdAt a.id b.id)

theorem fields_eq : (s.fields.only fun f => s.owns tenant f.entityId) = s'.fields.only fun f =>
    s.owns tenant f.entityId := by
  have hfields := h.fields
  rw [← h.owns_eq] at hfields
  exact hfields

theorem entityFields_eq {entityId : String} (ho : s.owns tenant entityId = true) :
    s.entityFields entityId = s'.entityFields entityId := by
  have hnarrow (f : FieldRow) (hf : (f.entityId == entityId) = true) : s.owns tenant f.entityId = true := by
    rw [eq_of_beq hf]
    exact ho
  exact Table.bind_filter h.fields_eq hnarrow fun rows =>
    pure ((rows.mergeSort fun a b => a.position ≤ b.position).map fun f => f.field)

theorem requiredKeys_eq {entityId : String} (ho : s.owns tenant entityId = true) :
    s.requiredKeys entityId = s'.requiredKeys entityId := by
  have hnarrow (f : FieldRow) (hf : (f.entityId == entityId && f.isRequired) = true) :
      s.owns tenant f.entityId = true := by
    rw [eq_of_beq (Bool.and_eq_true_iff.1 hf).1]
    exact ho
  exact Table.bind_filter h.fields_eq hnarrow fun rows => pure (rows.map fun f => f.field.key)

theorem ownEntity_eq (hs : s.SoundFor tenant) (hs' : s'.SoundFor tenant) (id : String) :
    (s.entity? id).map (·.filter (·.tenantId == tenant)) =
      (s'.entity? id).map (·.filter (·.tenantId == tenant)) := by
  have hmap (t : Store) : (t.entity? id).map (·.filter (·.tenantId == tenant))
      = t.entities.read.map fun rows => (rows.find? (·.id == id)).filter (·.tenantId == tenant) := by
    rw [entity?]
    cases t.entities.read <;> rfl
  rw [hmap, hmap]
  exact Table.find?_same h.entities hs.entities hs'.entities id

theorem entity?_eq (hs : s.SoundFor tenant) (hs' : s'.SoundFor tenant) {id : String}
    (ho : s.owns tenant id = true) :
    ∃ e, e.tenantId = tenant ∧ s.entity? id = .ok (some e) ∧ s'.entity? id = .ok (some e) := by
  have hfound {t : Store} (ht : t.SoundFor tenant) (hown : t.owns tenant id = true) :
      ∃ e, e.tenantId = tenant ∧ t.entity? id = .ok (some e) := by
    obtain ⟨rows, hrows, e, he, rfl, howned⟩ := owns_iff.1 hown
    refine ⟨e, howned, ?_⟩
    rw [entity?, Table.read_of_rows hrows]
    refine congrArg Except.ok ?_
    cases hf : rows.find? (·.id == e.id) with
    | none => exact absurd (List.find?_eq_none.1 hf e he) (by simp)
    | some e' =>
      have hid : e'.id = e.id := by simpa using List.find?_some hf
      rw [List.inj_on_of_nodup_map (ht.entities rows hrows) (List.mem_of_find?_eq_some hf) he hid]
  obtain ⟨e, he, hentity⟩ := hfound hs ho
  obtain ⟨e', he', hentity'⟩ := hfound hs' (h.owns_eq ▸ ho)
  have hsame := h.ownEntity_eq hs hs' id
  rw [hentity, hentity'] at hsame
  have hfilter (x : EntityRow) (hx : x.tenantId = tenant) :
      (some x).filter (fun e : EntityRow => e.tenantId == tenant) = some x := by simp [Option.filter, hx]
  have heq : (some e : Option EntityRow) = some e' := by
    rw [← hfilter e he, ← hfilter e' he']
    exact Except.ok.inj hsame
  cases heq
  exact ⟨e, he, hentity, hentity'⟩

theorem ownRecord_eq (hs : s.SoundFor tenant) (hs' : s'.SoundFor tenant) (id : String) :
    (s.record? id).map (·.filter (·.tenantId == tenant)) =
      (s'.record? id).map (·.filter (·.tenantId == tenant)) := by
  have hmap (t : Store) : (t.record? id).map (·.filter (·.tenantId == tenant))
      = t.records.read.map fun rows => (rows.find? (·.id == id)).filter (·.tenantId == tenant) := by
    rw [record?]
    cases t.records.read <;> rfl
  rw [hmap, hmap]
  exact Table.find?_same h.records hs.records hs'.records id

end SameFor

end Store

end RecordDesk
