import RecordDesk.Desk
import RecordDesk.Proofs.Rule.SideBySide
set_option autoImplicit false

namespace RecordDesk

namespace Desk

variable {α β : Type}

/-- A run that neither looks at the store nor touches it. -/
def Storeless (m : StateM Desk α) : Prop := ∀ s : Store, Alike (fun w v => v = { w with store := s }) m m

theorem Storeless.store_eq {m : StateM Desk α} (h : Storeless m) (d : Desk) : (m d).2.store = d.store := by
  have hself : (m d).2 = { (m d).2 with store := d.store } := (h d.store d d rfl).2
  rw [hself]

theorem storeless_log (entry : Log.Entry) : Storeless (log entry) := by
  rintro s w v rfl
  exact ⟨rfl, rfl⟩

theorem storeless_call (codecs : Codecs) (c : HttpCall) : Storeless (callWith codecs c) := by
  rintro s w v rfl
  exact ⟨rfl, rfl⟩

theorem storeless_notify (n : Notice) : Storeless (notify n) := by
  rintro s w v rfl
  exact ⟨rfl, rfl⟩

theorem storeless_execute (document : Document) (c : Context) : Storeless (execute document c) := by
  rintro s w v rfl
  have hout : outlets.Alike (fun w v => v = { w with store := s }) outlets :=
    ⟨fun c => storeless_call _ c s, fun n => storeless_notify n s, fun entry => storeless_log entry s⟩
  obtain ⟨hanswer, hafter⟩ :=
    Action.alike_execute hout (actionOptions w.settings) c document w { w with store := s } rfl
  exact ⟨congrArg Except.ok hanswer, hafter⟩

/-- Desks that are the same but for their stores, which are related. -/
def Beside (P : Store → Store → Prop) (d d' : Desk) : Prop :=
  d' = { d with store := d'.store } ∧ P d.store d'.store

variable {P : Store → Store → Prop}

theorem Storeless.beside {m : StateM Desk α} (h : Storeless m) : Alike (Beside P) m m := by
  rintro w v ⟨hrest, hstores⟩
  obtain ⟨hanswer, hafter⟩ := h v.store w v hrest
  refine ⟨hanswer, ?_, ?_⟩
  · rw [hafter]
  · rw [h.store_eq w, h.store_eq v]
    exact hstores

theorem beside_ask {question : Store → Except Fault α} (h : ∀ s s', P s s' → question s = question s') :
    Alike (Beside P) (ask question) (ask question) :=
  fun _ _ hwv => ⟨h _ _ hwv.2, hwv⟩

theorem beside_query {question : Store → Except Fault α} (h : ∀ s s', P s s' → question s = question s') :
    Alike (Beside P) (query question).run (query question).run :=
  beside_ask h

def logRow (d : Desk) (x : Rule.Execution) : LogRow :=
  ⟨Store.rowName (d.store.named + 1), x.tenantId, x.ruleId, x.recordId, x.status.name,
    (Document.object x.output).writable.toDocument, d.now.naive⟩

theorem persist_eq (x : Rule.Execution) (d : Desk) :
    persist x d = match d.store.logs.insert (·.id == ·.id) (logRow d x) with
      | .ok logs => (.ok (), { d with store := { d.store with named := d.store.named + 1, logs := logs } })
      | .error fault => (.error fault, { d with store := { d.store with named := d.store.named + 1 } }) := by
  unfold persist
  simp only [bind, StateT.bind, get, getThe, MonadStateOf.get, StateT.get, pure, Store.withName]
  change (match d.store.logs.insert (·.id == ·.id) (logRow d x) with
    | .ok logs => _
    | .error fault => _ : StateM Desk (Except Fault Unit)) d = _
  cases d.store.logs.insert (·.id == ·.id) (logRow d x) <;> rfl

theorem persist_error {x : Rule.Execution} {d d' : Desk} {fault : Fault}
    (h : persist x d = (.error fault, d')) :
    d' = { d with store := { d.store with named := d.store.named + 1 } } := by
  rw [persist_eq] at h
  split at h <;> cases h
  rfl

end Desk

end RecordDesk
