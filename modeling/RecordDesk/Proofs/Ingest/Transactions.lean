import RecordDesk.Proofs.Desk.Sessions
import RecordDesk.Proofs.Ingest.Stored
set_option autoImplicit false

namespace RecordDesk

namespace Ingest

/-- An engine that works in a session of its own. What it did not commit is undone at the end, whether it
broke or not. -/
def transacted (g : Rule.Event → StateM Session (Except Fault Rule.Batch)) : Engine := fun e d =>
  let ended := (do
    let answer ← g e
    Session.rollback
    return answer : StateM Session (Except Fault Rule.Batch)) ⟨d, d.store⟩
  (ended.1, ended.2.desk)

variable {g : Rule.Event → StateM Session (Except Fault Rule.Batch)}

theorem keeps_transacted (hg : ∀ e, Session.Orderly (g e)) (e : Rule.Event) :
    Keeps Desk.LogsOnly (transacted g e) := by
  intro d
  have hbegin : Session.Upon d.store ⟨d, d.store⟩ := ⟨.refl d.store, .refl d.store⟩
  exact (hbegin.orderly (.bind (hg e) fun answer => .bind .rollback fun _ => .pure answer)).present

theorem transacted_settled {e : Rule.Event} {d : Desk}
    (h : Session.Settled (g e ⟨d, d.store⟩).2.desk (g e ⟨d, d.store⟩).2) :
    transacted g e d = ((g e ⟨d, d.store⟩).1, (g e ⟨d, d.store⟩).2.desk) := by
  have hrun : transacted g e d
    = ((g e ⟨d, d.store⟩).1, (Session.rollback (g e ⟨d, d.store⟩).2).2.desk) := rfl
  rw [hrun, h.rolledBack]

/-- Where nothing is refused, rules in a session do what they do without one. -/
theorem transacted_standard : transacted (Rule.applyAll (Session.surroundings fun _ => none)) =
    standardEngine := by
  funext e d
  obtain ⟨hanswer, hend⟩ := Session.alike_applyAll e d ⟨d, d.store⟩ ⟨rfl, rfl⟩
  rw [transacted_settled (hend.desk.symm ▸ hend), hend.desk, ← hanswer]
  rfl

/-- The row of a write is there, and of everything else executions at most are new. -/
structure Stands (row : RecordRow) (d d' : Desk) : Prop where
  found : d'.store.record? row.id = .ok (some row)
  others : d'.store.records.only (·.id != row.id) = d.store.records.only (·.id != row.id)
  rest : { d.store with records := d'.store.records }.LogsOnly d'.store

namespace Operation

variable {op : Operation} {tenantId entityId : String} {fields : Document} {userId : Option String}
  {row : RecordRow} {d d1 : Desk}

/-- The second half of a write cannot fail, and gives the row of the first. -/
theorem run_stored (engine : Engine) (h : (op.store tenantId entityId fields userId).run d = (.ok row, d1)) :
    (op.run engine tenantId entityId fields userId).run d
      = (.ok ⟨row, (applyRules engine row op.name userId d1).1⟩,
        (applyRules engine row op.name userId d1).2) := by
  rw [run_eq, Job.run_bind h]
  rfl

theorem Stores.stands {d' : Desk} (h : Stores op tenantId entityId d row d1)
    (hkeep : d1.store.LogsOnly d'.store) : Stands row d d' := by
  refine ⟨?_, ?_, ?_⟩
  · rw [Store.record?, hkeep.records]
    exact h.found
  · rw [hkeep.records, h.others]
  · rw [hkeep.records]
    rw [h.tables] at hkeep
    exact { hkeep with }

/-- Once its row is stored a write is answered with it, and whatever the rules come to, the row stands. -/
theorem write_stands (hg : ∀ e, Session.Orderly (g e))
    (h : (op.store tenantId entityId fields userId).run d = (.ok row, d1)) :
    ∃ n d', (op.run (transacted g) tenantId entityId fields userId).run d = (.ok ⟨row, n⟩, d') ∧
    Stands row d d' ∧
      d1.store.LogsOnly d'.store ∧
      ∀ fault, (askEngine (transacted g) row op.name userId d1).1 = .error fault → n = 0 := by
  have hkeep : d1.store.LogsOnly (applyRules (transacted g) row op.name userId d1).2.store :=
    keeps_applyRules Desk.frame_logsOnly (keeps_transacted hg) Desk.keeps_log row op.name userId d1
  exact ⟨_, _, run_stored _ h, (stores h).stands hkeep, hkeep, fun fault hbroken => applyRules_broken hbroken⟩

/-- Rules whose executions are all refused, and after them an engine that breaks with one more on its
hands. -/
def breakingLate (e : Rule.Event) : StateM Session (Except Fault Rule.Batch) := do
  let _ ← Rule.applyAll (Session.surroundings fun _ => some (.storage "disk full")) e
  let _ ← Session.stage ⟨e.tenantId, "q", e.record.id, .matched, []⟩
  return .error (.storage "engine down")

theorem replacement_stands : ∃ row d',
    (run (transacted breakingLate) "t" "e" (.object [("a", .boolean true)]) none (.update "r" .alike)).run
      (deskWith (.object [("a", .text "x")])) = (.ok ⟨row, 0⟩, d') ∧
      Stands row (deskWith (.object [("a", .text "x")])) d' ∧
        row.fields = .object [("a", .boolean true)] := by
  have hg (e : Rule.Event) : Session.Orderly (breakingLate e) :=
    .bind (.applyAll _ e) fun _ => .bind (.stage _) fun _ => .pure _
  obtain ⟨row, d1, hstore, hfields⟩ :
    ∃ row d1, (store "t" "e" (.object [("a", .boolean true)]) none (.update "r" .alike)).run
      (deskWith (.object [("a", .text "x")])) = (.ok row, d1) ∧ row.fields = .object [("a", .boolean true)] :=
    ⟨_, _, rfl, rfl⟩
  obtain ⟨n, d', hrun, hstands, -, hzero⟩ := write_stands hg hstore
  have hbroken : (askEngine (transacted breakingLate) row "update" none d1).1 =
      .error (.storage "engine down") := by
    cases hstore
    rfl
  cases hzero _ hbroken
  exact ⟨row, d', hrun, hstands, hfields⟩

end Operation

end Ingest

end RecordDesk
