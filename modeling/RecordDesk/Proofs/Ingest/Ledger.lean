import RecordDesk.Proofs.Desk.Ledger
import RecordDesk.Proofs.Ingest.Transactions
import RecordDesk.Proofs.Store.Selection
set_option autoImplicit false

namespace RecordDesk

namespace Ingest

open Rule (Event Batch Outcome Verdict Execution)

/-- The status that a rule has to have: what its conditions decide, or failed where the tenant is not
known. -/
def DueStatus (known : Prop) (fields : Fields) (r : RuleRow) (status : Rule.Status) : Prop :=
  known ∧ Verdict .alike fields r.toRule.conditions status ∨ ¬ known ∧ status = .failed

structure Reports (tenantId : String) (snapshot : Snapshot) (known : Prop) (r : RuleRow) (row : LogRow) :
    Prop where
  tenant : row.tenantId = tenantId
  rule : row.ruleId = r.id
  record : row.recordId = snapshot.id
  status : ∃ status, row.status = status.name ∧ DueStatus known snapshot.fields r status

/-- How the executions of a write are accounted for: the rules that it concerns, in their order, have a row
each under the next names, and the rows that the database takes are added. -/
structure Ledger (refuses : LogRow → Option Fault) (op : Operation) (tenantId entityId : String) (d d' : Desk)
    (w : Written) (snapshot : Snapshot) (rules : List RuleRow) (rows : List LogRow) : Prop where
  ordered : rules.Pairwise fun a b => a.before b = true
  concerned : rules.Perm ((d.store.rules.rows.getD []).filter (RuleRow.concerns tenantId entityId op.name))
  reported : List.Forall₂ (Reports tenantId snapshot (∃ t, d.store.tenant? tenantId = .ok (some t)))
    rules rows
  names : rows.map (·.id) = (List.range' (d.store.named + op.names + 1) rules.length).map Store.rowName
  added : d'.store.logs.rows = d.store.logs.rows.map (· ++ rows.filter (d.store.takes refuses))
  triggered : w.triggered = rows.countP (·.status == Rule.Status.matched.name)

variable {e : Event} {d : Desk}

/-- What a batch comes to where the rules are all lists and the entity is known: an outcome for each rule,
and a store that has gained what it takes of the executions. -/
structure Outcomes (refuses : LogRow → Option Fault) (e : Event) (d : Desk) (b : Batch) (d' : Desk) :
    Prop where
  store : d'.store = d.store.gained refuses d.now (b.outcomes.map (Outcome.execution e))
  triggered : b.triggered = b.outcomes.countP (·.status = .matched)
  due : List.Forall₂ (fun r o => o.ruleId = r.id ∧
      DueStatus (∃ t, d.store.tenant? e.tenantId = .ok (some t)) e.record.fields r o.status)
    (d.store.selected e.tenantId e.entityId e.operation) b.outcomes

theorem dueStatus_of_due {refuses : LogRow → Option Fault}
    (hentity : ∃ n, d.store.entity? e.entityId = .ok (some n))
    {r : RuleRow} {status : Rule.Status}
    (h : Rule.Due (Session.surroundings refuses) e ⟨d, d.store⟩ r.toRule status) :
    DueStatus (∃ t, d.store.tenant? e.tenantId = .ok (some t)) e.record.fields r status := by
  have hscoped : Rule.Scoped (Session.surroundings refuses) e ⟨d, d.store⟩ ↔ Rule.Located e d.store :=
    Rule.scoped_iff_located rfl rfl
  rcases h with ⟨hknown, hverdict⟩ | ⟨hunknown, hfailed⟩
  · exact .inl ⟨(hscoped.1 hknown).1, hverdict⟩
  · exact .inr ⟨fun ht => hunknown (hscoped.2 ⟨ht, hentity⟩), hfailed⟩

theorem transacted_outcomes (refuses : LogRow → Option Fault)
    (hentity : ∃ n, d.store.entity? e.entityId = .ok (some n))
    (hlists : ∀ r ∈ d.store.selected e.tenantId e.entityId e.operation, r.ListShaped) :
    ∃ b d', transacted (Rule.applyAll (Session.surroundings refuses)) e d = (.ok b, d') ∧
    Outcomes refuses e d b d' := by
  obtain ⟨xs, hgained, hsettled⟩ := Session.gained_applyAll (s := ⟨d, d.store⟩) refuses ⟨rfl, rfl⟩ e
  rw [transacted_settled hgained.settled]
  cases hrows : d.store.rules.rows with
  | none =>
    -- A table that is gone holds no rules, and none are fetched.
    have hfetch : ((Session.surroundings refuses).activeRules e.tenantId e.entityId e.operation
        ⟨d, d.store⟩).1 = .error (Table.noSuch d.store.rules.name) := by
      show d.store.activeRules e.tenantId e.entityId e.operation = _
      rw [Store.activeRules, Table.read, hrows]
      rfl
    rw [hfetch] at hsettled
    obtain ⟨hb, rfl⟩ := hsettled
    refine ⟨.empty, _, Prod.ext hb rfl, hgained.store, rfl, ?_⟩
    simp [Store.selected, hrows, Batch.empty]
  | some rows =>
    have hrules : (Session.surroundings refuses).activeRules e.tenantId e.entityId e.operation ⟨d, d.store⟩
        = (.ok ((d.store.selected e.tenantId e.entityId e.operation).map RuleRow.toRule), ⟨d, d.store⟩) :=
      Prod.ext (Store.activeRules_ok hrows fun r hr => (hlists r hr).fetchable) rfl
    obtain ⟨b, hb, htriggered, hdue⟩ := Rule.applyAll_due hrules (by simp [RuleRow.hasLists_toRule])
    rw [hrules] at hsettled
    rcases hsettled with ⟨b', hb', -, rfl⟩ | ⟨fault, hfault, -⟩
    · cases hb.symm.trans hb'
      refine ⟨b, _, Prod.ext hb rfl, hgained.store, htriggered, ?_⟩
      rw [List.forall₂_map_left_iff] at hdue
      exact hdue.imp fun r o ho => ⟨ho.1, dueStatus_of_due hentity ho.2⟩
    · rw [hb] at hfault
      cases hfault

namespace Operation

variable {op : Operation} {tenantId entityId : String} {fields : Document} {userId : Option String}
  {w : Written} {row : RecordRow} {refuses : LogRow → Option Fault} {d1 d' : Desk}

theorem Stores.selected (h : Stores op tenantId entityId d row d1) (operation : String) :
    d1.store.selected row.tenantId row.entityId operation = d.store.selected tenantId entityId operation := by
  rw [h.tenant, h.entity, h.tables]
  rfl

theorem Stores.applied (h : Stores op tenantId entityId d row d1) (refuses : LogRow → Option Fault)
    (userId : Option String) {snapshot : Snapshot} (hsnapshot : row.snapshot = .ok snapshot)
    (hlists : ∀ r ∈ d.store.selected tenantId entityId op.name, r.ListShaped) : ∃ b d',
    applyRules (transacted (Rule.applyAll (Session.surroundings refuses))) row op.name userId d1 =
      (b.triggered, d') ∧
      Outcomes refuses ⟨row.tenantId, row.entityId, snapshot, op.name, userId⟩ d1 b d' := by
  have hentity : ∃ n, d1.store.entity? row.entityId = .ok (some n) := by
    obtain ⟨n, hn, -⟩ := h.owned
    rw [h.entity, h.tables]
    exact ⟨n, hn⟩
  obtain ⟨b, d', hrun, houtcomes⟩ := transacted_outcomes refuses
    (e := ⟨row.tenantId, row.entityId, snapshot, op.name, userId⟩) hentity
      ((h.selected op.name).symm ▸ hlists)
  refine ⟨b, d', ?_, houtcomes⟩
  have hask : askEngine (transacted (Rule.applyAll (Session.surroundings refuses))) row op.name userId d1
      = (.ok b, d') := by
    unfold askEngine
    rw [hsnapshot]
    exact hrun
  rw [applyRules_eq, hask]
  rfl

theorem Stores.ledger (h : Stores op tenantId entityId d row d1) {snapshot : Snapshot} {b : Batch}
    (houtcomes : Outcomes refuses ⟨row.tenantId, row.entityId, snapshot, op.name, userId⟩ d1 b d') :
    ∃ rows, Ledger refuses op tenantId entityId d d' ⟨row, b.triggered⟩ snapshot
      (d.store.selected tenantId entityId op.name) rows := by
  have hlogs : d1.store.logs = d.store.logs := by
    rw [h.tables]
  have htakes : d1.store.takes refuses = d.store.takes refuses := by
    funext row'
    rw [Store.takes, Store.takes, hlogs]
  have htenants : d1.store.tenant? row.tenantId = d.store.tenant? tenantId := by
    rw [h.tenant, h.tables]
    rfl
  let e : Event := ⟨row.tenantId, row.entityId, snapshot, op.name, userId⟩
  refine ⟨Execution.rows d1.now d1.store.named (b.outcomes.map (Outcome.execution e)), {
    ordered := Store.pairwise_selected
    concerned := Store.perm_selected
    reported := ?_
    names := ?_
    added := ?_
    triggered := ?_ }⟩
  · rw [← h.selected, ← htenants]
    exact Execution.forall₂_rows (fun r o n ho => ⟨h.tenant, ho.1, rfl, o.status, rfl, ho.2⟩) houtcomes.due _
  · rw [Execution.map_id_rows, h.named, List.length_map, ← houtcomes.due.length_eq, ← h.selected]
  · rw [houtcomes.store, ← htakes, ← hlogs]
    rfl
  · rw [Execution.countP_rows, List.countP_map]
    exact houtcomes.triggered

/-- Every rule that a write concerns is accounted for, and no other; what is returned is how many of them
matched. -/
theorem run_ledger (hlists : ∀ rows, d.store.rules.rows = some rows → ∀ r ∈ rows, r.ListShaped)
    (h : (op.run (transacted (Rule.applyAll (Session.surroundings refuses)))
      tenantId entityId fields userId).run d
      = (.ok w, d')) :
    ∃ snapshot rules rows, w.record.snapshot = .ok snapshot ∧
      Ledger refuses op tenantId entityId d d' w snapshot rules rows ∧
      ((∀ row ∈ rows, d.store.takes refuses row = true) →
        w.triggered = (rows.filter (d.store.takes refuses)).countP
        (·.status == Rule.Status.matched.name)) := by
  rw [run_eq] at h
  -- Once the row is stored nothing can fail, and the rules that it concerns are those from before the write.
  obtain ⟨row, d1, hstore, -⟩ := Job.bind_ok h
  rw [← run_eq, run_stored _ hstore] at h
  have hst := stores hstore
  obtain ⟨snapshot, hsnapshot⟩ := hst.snapshot
  have hlists' : ∀ r ∈ d.store.selected tenantId entityId op.name, r.ListShaped := by
    intro r hr
    obtain ⟨rows, hrows, hmem, -⟩ := Store.mem_selected.1 hr
    exact hlists rows hrows r hmem
  obtain ⟨b, d2, happlied, houtcomes⟩ := hst.applied refuses userId hsnapshot hlists'
  obtain ⟨rows, hledger⟩ := hst.ledger houtcomes
  rw [happlied] at h
  cases h
  refine ⟨snapshot, _, rows, hsnapshot, hledger, fun hall => ?_⟩
  rw [List.filter_eq_self.2 hall]
  exact hledger.triggered

/-! A rule that decides against a record, one that decides for it, and one that cannot be read. -/

def stageIs (stage : String) : Document :=
  .list [.object [("field", .text "stage"), ("operator", .text "equals"), ("value", .text stage)]]

def deskWithPQR : Desk where
  store := .ofRules [.idle "p" (stageIs "lost"), .idle "q" (stageIs "won"), .idle "r" (.list [.text "x"])]
  now := ⟨0, none⟩

def wonFields : Fields := [("stage", .text "won")]

theorem won_skipped : Verdict .alike wonFields (stageIs "lost") .skipped := by
  have hread : Rule.readConditions (stageIs "lost") = .ok [⟨"stage", "equals", .text "lost"⟩] := rfl
  have hcheck : ∃ check, Condition.evaluate .alike ⟨"stage", "equals", .text "lost"⟩ wonFields = .ok check ∧
      check.matched = false := ⟨_, rfl, rfl⟩
  refine .skipped hread (fun c hc => ?_) ⟨_, List.mem_cons_self, hcheck⟩
  obtain ⟨check, hcheck, -⟩ := hcheck
  exact ⟨check, List.mem_singleton.1 hc ▸ hcheck⟩

def refusesQ (row : LogRow) : Option Fault := if row.ruleId == "q" then some (.storage "disk full") else none

def winning (refuses : LogRow → Option Fault) : Job Written :=
  run (transacted (Rule.applyAll (Session.surroundings refuses))) "t" "e"
    (.object [("stage", .text "won")]) none .create

theorem creation_ledger :
    (∃ w d' snapshot rules rows, (winning refusesQ).run deskWithPQR = (.ok w, d') ∧
      w.record.snapshot = .ok snapshot ∧
      Ledger refusesQ .create "t" "e" deskWithPQR d' w snapshot rules rows) ∧
    ∃ w d' snapshot rules rows, (winning fun _ => none).run deskWithPQR = (.ok w, d') ∧
      w.record.snapshot = .ok snapshot ∧
      Ledger (fun _ => none) .create "t" "e" deskWithPQR d' w snapshot rules rows ∧
      (∃ row ∈ rows, row.ruleId = "p" ∧ row.status = Rule.Status.skipped.name) ∧
      w.triggered = (rows.filter (deskWithPQR.store.takes fun _ => none)).countP
        (·.status == Rule.Status.matched.name) := by
  have hlists : ∀ rows, deskWithPQR.store.rules.rows = some rows → ∀ r ∈ rows, r.ListShaped := by
    rintro rows hrows
    cases hrows
    decide
  constructor
  · obtain ⟨w, d', hrun⟩ : ∃ w d', (winning refusesQ).run deskWithPQR = (.ok w, d') := ⟨_, _, rfl⟩
    obtain ⟨snapshot, rules, rows, hsnapshot, hledger, -⟩ := run_ledger hlists hrun
    exact ⟨w, d', snapshot, rules, rows, hrun, hsnapshot, hledger⟩
  · obtain ⟨w, d', hrun, hfields⟩ : ∃ w d', (winning fun _ => none).run deskWithPQR = (.ok w, d') ∧
        w.record.fields = .object [("stage", .text "won")] := ⟨_, _, rfl, rfl⟩
    obtain ⟨snapshot, rules, rows, hsnapshot, hledger, hcount⟩ := run_ledger hlists hrun
    refine ⟨w, d', snapshot, rules, rows, hrun, hsnapshot, hledger, ?_, hcount fun _ _ => rfl⟩
    have hwon : snapshot.fields = wonFields := by
      rw [RecordRow.snapshot, hfields] at hsnapshot
      cases hsnapshot
      rfl
    have hp : RuleRow.idle "p" (stageIs "lost") ∈ rules := hledger.concerned.mem_iff.2 List.mem_cons_self
    obtain ⟨row, hrow, hreports⟩ := Rule.mem_of_forall₂ hledger.reported.flip hp
    obtain ⟨status, hstatus, ⟨-, hverdict⟩ | ⟨hunknown, -⟩⟩ := hreports.status
    · rw [hwon] at hverdict
      exact ⟨row, hrow, hreports.rule, hverdict.unique won_skipped ▸ hstatus⟩
    · exact absurd ⟨_, rfl⟩ hunknown

end Operation

end Ingest

end RecordDesk
