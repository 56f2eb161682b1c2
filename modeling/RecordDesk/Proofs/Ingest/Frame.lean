import RecordDesk.Ingest
import RecordDesk.Proofs.Rule.Frame
set_option autoImplicit false

namespace RecordDesk

theorem Table.insert_ok {α : Type} {t t' : Table α} {clash : α → α → Bool} {row : α}
    (h : t.insert clash row = .ok t') :
    ∃ rows, t.rows = some rows ∧ rows.any (clash · row) = false ∧
    t' = { t with rows := some (rows ++ [row]) } := by
  unfold Table.insert Table.read at h
  cases hr : t.rows with
  | none => rw [hr] at h; cases h
  | some rows =>
    rw [hr] at h
    change (if rows.any (clash · row) then _ else _) = _ at h
    split at h
    · cases h
    · rename_i hc
      cases h
      exact ⟨rows, rfl, by simpa using hc, rfl⟩

/-- A store that differs from another only by executions that were added, and names that were given out. -/
structure Store.LogsOnly (a b : Store) : Prop where
  tenants : b.tenants = a.tenants
  users : b.users = a.users
  entities : b.entities = a.entities
  fields : b.fields = a.fields
  records : b.records = a.records
  rules : b.rules = a.rules
  logs : ∃ more, b.logs.rows = a.logs.rows.map (· ++ more)

namespace Store.LogsOnly

theorem refl (a : Store) : a.LogsOnly a :=
  ⟨rfl, rfl, rfl, rfl, rfl, rfl, [], by simp⟩

theorem trans {a b c : Store} (h : a.LogsOnly b) (h' : b.LogsOnly c) : a.LogsOnly c := by
  obtain ⟨more, hm⟩ := h.logs
  obtain ⟨more', hm'⟩ := h'.logs
  refine ⟨h'.tenants.trans h.tenants, h'.users.trans h.users, h'.entities.trans h.entities,
    h'.fields.trans h.fields, h'.records.trans h.records, h'.rules.trans h.rules, more ++ more', ?_⟩
  rw [hm', hm, Option.map_map]
  congr 1
  funext rows
  simp

end Store.LogsOnly

namespace Desk

def LogsOnly (a b : Desk) : Prop := a.store.LogsOnly b.store

theorem frame_logsOnly : Frame LogsOnly := ⟨fun d => .refl d.store, fun h h' => h.trans h'⟩

theorem keeps_of_store {α : Type} {m : StateM Desk α} (h : ∀ d, (m d).2.store = d.store) :
    Keeps LogsOnly m := by
  intro d
  show d.store.LogsOnly (m d).2.store
  rw [h d]
  exact .refl _

theorem keeps_log (entry : Log.Entry) : Keeps LogsOnly (log entry) := keeps_of_store fun _ => rfl

theorem keeps_ask {α : Type} (question : Store → Except Fault α) : Keeps LogsOnly (ask question) :=
  keeps_of_store fun _ => rfl

theorem keep_outlets : outlets.All fun _ => Keeps LogsOnly where
  call _ := keeps_of_store fun _ => rfl
  notify _ := keeps_of_store fun _ => rfl
  log := keeps_log

theorem persist_store (x : Rule.Execution) (d : Desk) :
    (persist x d).2.store = { d.store with named := d.store.named + 1 } ∨
      ∃ row logs, d.store.logs.insert (·.id == ·.id) row = .ok logs ∧
        (persist x d).2.store = { d.store with named := d.store.named + 1, logs := logs } := by
  unfold persist
  simp only [bind, StateT.bind, get, getThe, MonadStateOf.get, StateT.get, pure, Store.withName]
  generalize hi : d.store.logs.insert _ _ = inserted
  cases inserted with
  | ok logs => exact .inr ⟨_, logs, hi, rfl⟩
  | error fault => exact .inl rfl

theorem keeps_persist (x : Rule.Execution) : Keeps LogsOnly (persist x) := by
  intro d
  rcases persist_store x d with h | ⟨row, logs, hi, h⟩
  · rw [LogsOnly, h]
    exact ⟨rfl, rfl, rfl, rfl, rfl, rfl, [], by simp⟩
  · obtain ⟨rows, hrows, -, rfl⟩ := Table.insert_ok hi
    rw [LogsOnly, h]
    exact ⟨rfl, rfl, rfl, rfl, rfl, rfl, [row], by simp [hrows]⟩

theorem keep_surroundings : surroundings.All fun _ => Keeps LogsOnly where
  activeRules _ _ _ := keeps_ask _
  tenant _ := keeps_ask _
  entity _ := keeps_ask _
  user _ := keeps_ask _
  persist := keeps_persist
  execute d c := by
    have hC := frame_logsOnly.closed
    refine hC.bind (keeps_of_store fun _ => rfl) fun _ => ?_
    exact hC.bind (Action.closed_execute hC keep_outlets _ c d) fun _ => hC.pure _
  log := keeps_log

end Desk

namespace Ingest

theorem keeps_standardEngine (e : Rule.Event) : Keeps Desk.LogsOnly (standardEngine e) :=
  Rule.closed_applyAll Desk.frame_logsOnly.closed Desk.keep_surroundings e

theorem keeps_applyRules {R : Desk → Desk → Prop} (hR : Frame R) {engine : Engine}
    (h : ∀ e, Keeps R (engine e)) (hlog : ∀ entry, Keeps R (Desk.log entry)) (r : RecordRow)
    (operation : String) (userId : Option String) :
    Keeps R (applyRules engine r operation userId) := by
  have hC := hR.closed
  have hask : Keeps R (askEngine engine r operation userId) := by
    unfold askEngine
    split
    · exact h _
    · exact hC.pure _
  refine hC.bind hask fun answer => ?_
  cases answer with
  | ok batch => exact hC.pure _
  | error fault => exact hC.bind (hlog _) fun _ => hC.pure _

end Ingest

end RecordDesk
