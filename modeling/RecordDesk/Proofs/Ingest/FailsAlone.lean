import RecordDesk.Proofs.Desk.Aside
import RecordDesk.Proofs.Ingest.Replacement
set_option autoImplicit false

/-!
When a rule fails alone. A row that is fetched and whose conditions cannot be decided spoils nothing but
itself; a row that cannot be fetched takes all other rules with it, and a document that counts as empty
fails nothing.
-/

namespace RecordDesk

namespace Ingest

open Rule (Event Batch Outcome Verdict Located)

variable {d : Desk} {e : Event} {bad : RuleRow}

/-- A rule fails alone in an event: it has a failed outcome, and but for its own outcomes and executions the
event goes as it would without the rule. -/
def FailsAlone (ruleId : String) (e : Event) (d : Desk) : Prop :=
  ∃ b d1 b' d1', standardEngine e d = (.ok b, d1) ∧ standardEngine e (d.without ruleId) = (.ok b', d1') ∧
    (∃ o ∈ b.outcomes, o.ruleId = ruleId ∧ o.status = .failed) ∧
    b'.outcomes = b.outcomes.filter (·.ruleId != ruleId) ∧ b'.triggered = b.triggered ∧
      Desk.SameBut ruleId d1 d1'

theorem countP_others {os : List Outcome} {ruleId : String}
    (h : ∀ o ∈ os, o.ruleId = ruleId → o.status = .failed) :
    (os.filter (·.ruleId != ruleId)).countP (·.status = .matched) = os.countP (·.status = .matched) := by
  rw [List.countP_filter]
  refine List.countP_congr fun o ho => ?_
  by_cases hid : o.ruleId = ruleId
  · simp [hid, h o ho hid]
  · simp [hid]

variable (hkeys : d.store.rules.KeyedBy (·.id))
  (hbad : bad ∈ d.store.selected e.tenantId e.entityId e.operation)

include hkeys hbad

theorem eq_toRule {rule : Rule}
    (hrule : rule ∈ (d.store.selected e.tenantId e.entityId e.operation).map RuleRow.toRule)
    (hid : rule.id = bad.id) : rule = bad.toRule := by
  obtain ⟨r, hr, rfl⟩ := List.mem_map.1 hrule
  rw [Store.selected_unique hkeys hr hbad hid]

omit hkeys in
theorem activeRules_run (hall : ∀ r ∈ d.store.selected e.tenantId e.entityId e.operation, r.Fetchable) :
    Desk.surroundings.activeRules e.tenantId e.entityId e.operation d
      = (.ok ((d.store.selected e.tenantId e.entityId e.operation).map RuleRow.toRule), d) := by
  obtain ⟨rows, hrows, -⟩ := Store.mem_selected.1 hbad
  exact Prod.ext (Store.activeRules_ok hrows hall) rfl

theorem activeRules_without (hall : ∀ r ∈ d.store.selected e.tenantId e.entityId e.operation, r.Fetchable) :
    Desk.surroundings.activeRules e.tenantId e.entityId e.operation (d.without bad.id)
      = (.ok (((d.store.selected e.tenantId e.entityId e.operation).map RuleRow.toRule).filter
        (·.id != bad.id)), d.without bad.id) := by
  obtain ⟨rows, hrows, -⟩ := Store.mem_selected.1 hbad
  have hselected : (d.without bad.id).store.selected e.tenantId e.entityId e.operation
      = (d.store.selected e.tenantId e.entityId e.operation).filter (·.id != bad.id) :=
      Store.selected_only hkeys _
  have hrows' : (d.without bad.id).store.rules.rows = some (rows.filter (·.id != bad.id)) := by
    simp [Desk.without, Table.only, hrows]
  have hall' : ∀ r ∈ (d.without bad.id).store.selected e.tenantId e.entityId e.operation, r.Fetchable := by
    rw [hselected]
    exact fun r hr => hall r (List.mem_of_mem_filter hr)
  have hfetch := Store.activeRules_ok hrows' hall'
  rw [hselected] at hfetch
  rw [List.filter_map]
  exact Prod.ext hfetch rfl

/-- A rule with a failed outcome was fetched with all others, and has no verdict. -/
theorem fetched_of_failed {b : Batch} {o : Outcome} (hb : (standardEngine e d).1 = .ok b)
    (ho : o ∈ b.outcomes) (hid : o.ruleId = bad.id) (hfailed : o.status = .failed) :
    (∀ r ∈ d.store.selected e.tenantId e.entityId e.operation, r.Fetchable) ∧
      (Located e d.store → Verdict .alike e.record.fields bad.toRule.conditions .failed) := by
  cases hfetch : d.store.activeRules e.tenantId e.entityId e.operation with
  | error fault =>
    have hrules : Desk.surroundings.activeRules e.tenantId e.entityId e.operation d = (.error fault, d) :=
      Prod.ext hfetch rfl
    rw [standardEngine, Rule.applyAll_unfetched hrules] at hb
    cases hb
    cases ho
  | ok rules =>
    have hall := Store.fetchable_of_activeRules hfetch
    refine ⟨hall, fun hlocated => ?_⟩
    obtain ⟨b', hb', -, hdue⟩ :=
      Rule.applyAll_due (activeRules_run hbad hall) (by simp [RuleRow.hasLists_toRule])
    cases hb.symm.trans hb'
    obtain ⟨rule, hrule, hruleId, hdue⟩ := Rule.mem_of_forall₂ hdue ho
    rw [eq_toRule hkeys hbad hrule (hruleId.symm.trans hid), hfailed] at hdue
    rcases hdue with ⟨-, hverdict⟩ | ⟨hunknown, -⟩
    · exact hverdict
    · exact absurd ((Rule.scoped_iff_located rfl rfl).2 hlocated) hunknown

theorem due_failed (hverdict : Located e d.store →
    Verdict .alike e.record.fields bad.toRule.conditions .failed) :
    ∀ rule ∈ (d.store.selected e.tenantId e.entityId e.operation).map RuleRow.toRule, rule.id = bad.id →
      Rule.Due Desk.surroundings e d rule .failed := by
  intro rule hrule hid
  rw [eq_toRule hkeys hbad hrule hid]
  by_cases hlocated : Located e d.store
  · exact .inl ⟨(Rule.scoped_iff_located rfl rfl).2 hlocated, hverdict hlocated⟩
  · exact .inr ⟨fun hscoped => hlocated ((Rule.scoped_iff_located rfl rfl).1 hscoped), rfl⟩

theorem failsAlone_of_fetched (hfresh : d.store.Fresh)
    (hall : ∀ r ∈ d.store.selected e.tenantId e.entityId e.operation, r.Fetchable)
    (hverdict : Located e d.store → Verdict .alike e.record.fields bad.toRule.conditions .failed) :
    FailsAlone bad.id e d := by
  have hrules := activeRules_run hbad hall
  have hrules' := activeRules_without hkeys hbad hall
  have hfails := due_failed hkeys hbad hverdict
  -- Two batches side by side, and the account of each.
  obtain ⟨b, b', hb, hb', hothers, hend⟩ :=
    Rule.applyAll_aside (Desk.surroundings_beyond e) (Desk.surroundings_aside e)
    hrules hrules' (by simp [RuleRow.hasLists_toRule]) hfails (Desk.Beyond.start hfresh)
  obtain ⟨b1, hb1, hcount, hdue⟩ := Rule.applyAll_due hrules (by simp [RuleRow.hasLists_toRule])
  cases hb.symm.trans hb1
  obtain ⟨b1', hb1', hcount', -⟩ := Rule.applyAll_due hrules' (by simp [RuleRow.hasLists_toRule])
  cases hb'.symm.trans hb1'
  have hfailed : ∀ o ∈ b.outcomes, o.ruleId = bad.id → o.status = .failed := by
    intro o ho hid
    obtain ⟨rule, hrule, hruleId, hstatus⟩ := Rule.mem_of_forall₂ hdue ho
    exact hstatus.unique (hfails rule hrule (hruleId.symm.trans hid))
  obtain ⟨o, ho, hruleId, -⟩ := Rule.mem_of_forall₂ hdue.flip (List.mem_map_of_mem hbad)
  have hsameCount : b'.triggered = b.triggered := by
    rw [hcount', hcount, hothers, countP_others hfailed]
  exact ⟨b, _, b', _, Prod.ext hb rfl, Prod.ext hb' rfl, ⟨o, ho, hruleId, hfailed o ho hruleId⟩,
    hothers, hsameCount, hend.toSameBut⟩

/-- A rule fails alone just where every rule is fetched and its own conditions decide nothing. -/
theorem failsAlone_iff (hfresh : d.store.Fresh) :
    FailsAlone bad.id e d ↔ (∀ r ∈ d.store.selected e.tenantId e.entityId e.operation, r.Fetchable) ∧
      (Located e d.store → Verdict .alike e.record.fields bad.toRule.conditions .failed) := by
  constructor
  · rintro ⟨b, d1, b', d1', hrun, -, ⟨o, ho, hid, hfailed⟩, -⟩
    exact fetched_of_failed hkeys hbad (congrArg Prod.fst hrun) ho hid hfailed
  · rintro ⟨hall, hverdict⟩
    exact failsAlone_of_fetched hkeys hbad hfresh hall hverdict

omit hkeys hbad

/-! Malformed rows. -/

end Ingest

def RuleRow.MalformedConditions (r : RuleRow) : Prop :=
  ∀ ds cs, r.conditions.listed? = some ds → Rule.readConditions (.list ds) ≠ .ok cs

def RuleRow.Malformed (r : RuleRow) : Prop := r.MalformedConditions ∨ r.actions.listed? = none

theorem Rule.readConditions_text (s : String) (rest : List Document) :
    ∃ fault, readConditions (.list (.text s :: rest)) = .error fault := by
  unfold readConditions
  simp only [Document.sequence, Document.sequence?, bind, Except.bind, Condition.listForm,
    Form.list, Checked.items]
  cases Checked.items (Condition.form .modelType) 1 rest <;> exact ⟨_, rfl⟩

theorem RuleRow.verdict_of_malformed {r : RuleRow} {nans : NaNs} {fields : Fields}
    (hfetch : r.conditions.IsCollection) (hmalformed : r.MalformedConditions)
    (htruthy : r.conditions.isTruthy = true) : Rule.Verdict nans fields r.toRule.conditions .failed := by
  suffices hread : ∃ fault, Rule.readConditions (.list r.conditions.things) = .error fault by
    obtain ⟨fault, hread⟩ := hread
    exact .unread hread
  unfold Document.IsCollection at hfetch
  unfold Document.things
  rw [Store.orEmpty, if_pos htruthy] at hfetch ⊢
  cases hconditions : r.conditions with
  | list ds =>
    cases hread : Rule.readConditions (.list ds) with
    | ok cs => exact absurd hread (hmalformed ds cs (by rw [hconditions]; rfl))
    | error fault => exact ⟨fault, hread⟩
  | text s =>
    rw [hconditions] at htruthy
    cases hs : s.toList with
    | nil => simp_all [Document.isTruthy]
    | cons c rest =>
      simp only [Document.sequence?, hs, List.map_cons, Option.getD_some]
      exact Rule.readConditions_text _ _
  | object members =>
    rw [hconditions] at htruthy
    cases members with
    | nil => cases htruthy
    | cons m rest => exact Rule.readConditions_text m.1 _
  | _ => simp [hconditions, Document.sequence?] at hfetch

namespace Ingest

def deskOfRules (rules : List RuleRow) : Desk := { store := .ofRules rules, now := ⟨0, none⟩ }

theorem fresh_deskOfRules (rules : List RuleRow) : (deskOfRules rules).store.Fresh := by
  rintro rows hrows row hrow
  cases hrows
  cases hrow

theorem text_fails_alone :
    FailsAlone "p" Rule.creation
      (deskOfRules [RuleRow.idle "p" (.text "x"), RuleRow.idle "q" (.list [])]) := by
  have hkeys : (deskOfRules [RuleRow.idle "p" (.text "x"), RuleRow.idle "q" (.list [])]).store.rules.KeyedBy
      (·.id) := by
    rintro rows hrows
    cases hrows
    decide
  have hbad : RuleRow.idle "p" (.text "x") ∈
    (deskOfRules [RuleRow.idle "p" (.text "x"), RuleRow.idle "q" (.list [])]).store.selected
      "t" "e" "create" := Store.mem_selected_ofRules.2 ⟨List.mem_cons_self, by decide⟩
  have hmalformed : (RuleRow.idle "p" (.text "x")).MalformedConditions := fun ds cs hds => by cases hds
  refine (failsAlone_iff (e := Rule.creation) hkeys hbad (fresh_deskOfRules _)).2
    ⟨fun r hr => ?_, fun _ => ?_⟩
  · have hfetchable : ∀ r ∈ [RuleRow.idle "p" (.text "x"), RuleRow.idle "q" (.list [])],
      r.Fetchable := by decide
    exact hfetchable r (Store.mem_selected_ofRules.1 hr).1
  · exact RuleRow.verdict_of_malformed (by decide) hmalformed rfl

/-- A number for conditions takes all rules of the entity with it. -/
theorem number_takes_all : ¬ ∀ (d : Desk) (e : Rule.Event) (bad : RuleRow), d.store.rules.KeyedBy (·.id) →
    d.store.Fresh →
    bad ∈ d.store.selected e.tenantId e.entityId e.operation → bad.Malformed → FailsAlone bad.id e d := by
  intro hall
  have hkeys : (deskOfRules [RuleRow.idle "p" (.number (.int 5))]).store.rules.KeyedBy (·.id) := by
    rintro rows hrows
    cases hrows
    decide
  have hbad : RuleRow.idle "p" (.number (.int 5)) ∈
    (deskOfRules [RuleRow.idle "p" (.number (.int 5))]).store.selected
      "t" "e" "create" := Store.mem_selected_ofRules.2 ⟨List.mem_cons_self, by decide⟩
  have hmalformed : (RuleRow.idle "p" (.number (.int 5))).Malformed := .inl fun ds cs hds => by cases hds
  obtain ⟨b, d1, b', d1', hrun, -, ⟨o, ho, hid, hfailed⟩, -⟩ :=
    hall _ Rule.creation _ hkeys (fresh_deskOfRules _) hbad hmalformed
  have hfetchable := (fetched_of_failed hkeys hbad (congrArg Prod.fst hrun) ho hid hfailed).1 _ hbad
  -- The number is no collection.
  cases hfetchable.1

end Ingest

end RecordDesk
