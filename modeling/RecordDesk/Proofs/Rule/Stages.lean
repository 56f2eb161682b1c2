import RecordDesk.Rule
set_option autoImplicit false

namespace RecordDesk

namespace Rule

variable {σ : Type} {s : Surroundings σ} {e : Event} {w w1 w2 w3 : σ}

def contextOf (e : Event) (tenant : TenantRef) (entity : EntityRef) (user : UserRef) (rule : Rule) :
    Context :=
  ⟨e.record, entity, user, ⟨rule.id, rule.name⟩, tenant⟩

theorem applyAll_unfetched {fault : Fault}
    (hrules : s.activeRules e.tenantId e.entityId e.operation w = (.error fault, w1)) :
    applyAll s e w = (.ok .empty, (s.log (Log.failure loggerName "Failed to fetch rules for record"
      [("tenant", .text e.tenantId), ("entity", .text e.entityId), ("record", .text e.record.id),
        ("operation", .text e.operation)] (some fault.message)) w1).2) := by
  simp only [applyAll, bind, StateT.bind, hrules]
  rfl

theorem applyAll_none (hrules : s.activeRules e.tenantId e.entityId e.operation w = (.ok [], w1)) :
    applyAll s e w = (.ok .empty, w1) := by
  simp only [applyAll, bind, StateT.bind, hrules]
  rfl

theorem applyAll_aborted {rule : Rule} {rest : List Rule} {fault : Fault}
    (hrules : s.activeRules e.tenantId e.entityId e.operation w = (.ok (rule :: rest), w1))
    (hscope : scope s e w1 = (.error fault, w2)) :
    let aborted := abortAll s e fault.message (rule :: rest)
      (s.log (Log.failure loggerName "Rule evaluation aborted"
      [("tenant", .text e.tenantId), ("record", .text e.record.id)] (some fault.message)) w2).2
    applyAll s e w = (aborted.1.map fun outcomes => ⟨0, outcomes⟩, aborted.2) := by
  simp only [applyAll, bind, StateT.bind, hrules, hscope]
  rfl

theorem applyAll_scoped {rule : Rule} {rest : List Rule} {tenant : TenantRef} {entity : EntityRef}
    {user : UserRef}
    (hrules : s.activeRules e.tenantId e.entityId e.operation w = (.ok (rule :: rest), w1))
    (hscope : scope s e w1 = (.ok (tenant, entity), w2)) (hactor : actor s e.userId w2 = (user, w3)) :
    let applied := applyEach s e (contextOf e tenant entity user) (rule :: rest) w3
    applyAll s e w = (applied.1.map fun outcomes => ⟨triggeredCount outcomes, outcomes⟩, applied.2) := by
  simp only [applyAll, bind, StateT.bind, hrules, hscope, hactor]
  rfl

theorem scope_found {tenant : TenantRef} {entity : EntityRef}
    (ht : s.tenant e.tenantId w = (.ok (some tenant), w1))
    (hn : s.entity e.entityId w1 = (.ok (some entity), w2)) : scope s e w = (.ok (tenant, entity), w2) := by
  simp only [scope, bind, StateT.bind, ht, hn]
  rfl

theorem actor_known {userId : Option String} {id : String} {user : Option UserRef} (hu : userId = some id)
    (hid : id ≠ "") (h : s.user id w = (.ok user, w1)) : actor s userId w = (user.getD .system, w1) := by
  unfold actor
  split
  · cases hu
  · exact absurd (Option.some.inj hu).symm hid
  · cases hu
    simp only [bind, StateT.bind, h]
    rfl

theorem conclude_view {α : Type} (view : σ → α) (hlog : ∀ entry w, view (s.log entry w).2 = view w)
    (ruleId : String) (status : Status) (r : Evaluation) : view (conclude s e ruleId status r w).2
      = view (s.persist ⟨e.tenantId, ruleId, e.record.id, status, r.output⟩ w).2 := by
  simp only [conclude, persist, bind, StateT.bind]
  cases s.persist ⟨e.tenantId, ruleId, e.record.id, status, r.output⟩ w with
  | mk answer after =>
    cases answer with
    | ok u => exact hlog _ _
    | error fault => exact (hlog _ _).trans (hlog _ _)

section

variable {rule : Rule} {c : Context} {details : List Condition.Detail}

theorem evaluate_unread {fault : Fault} (hread : (readConditions rule.conditions >>= fun cs =>
    Condition.evaluateAll s.nans cs c.record.fields) = .error fault) :
    evaluate s rule c w = (.error fault, w) := by
  simp only [evaluate, hread]
  rfl

variable (hread : (readConditions rule.conditions >>= fun cs =>
  Condition.evaluateAll s.nans cs c.record.fields) = .ok details)

include hread

theorem evaluate_skipped (hnone : ¬ Condition.allMatched details = true) : evaluate s rule c w
    = (.ok ⟨false, Condition.met details, details.length, 0, 0, [detailsMember details]⟩, w) := by
  simp only [evaluate, hread, if_neg hnone]
  rfl

theorem evaluate_listless {fault : Fault} (hall : Condition.allMatched details = true)
    (hactions : rule.actions.sequence = .error fault) : evaluate s rule c w = (.error fault, w) := by
  simp only [evaluate, hread, if_pos hall, hactions]
  rfl

theorem evaluate_matched {actions : List Document} (hall : Condition.allMatched details = true)
    (hactions : rule.actions.sequence = .ok actions) :
    let ran := runActions s c actions w
    evaluate s rule c w = (.ok {
      matched := true
      conditionsMet := Condition.met details
      totalConditions := details.length
      actionsExecuted := ran.1.countP (·.success)
      actionsFailed := ran.1.countP (!·.success)
      output := [detailsMember details, ("action_results", .list (ran.1.map Action.Result.toDocument))] },
        ran.2) := by
  simp only [evaluate, hread, if_pos hall, hactions]
  rfl

end

theorem applyOne_decided {rule : Rule} {c : Context} {r : Evaluation}
    (h : evaluate s rule c w = (.ok r, w1)) :
    applyOne s e c rule w = (.ok ⟨rule.id, if r.matched then .matched else .skipped, r, none⟩,
      (conclude s e rule.id (if r.matched then .matched else .skipped) r w1).2) := by
  simp only [applyOne, bind, StateT.bind, h]
  rfl

theorem applyOne_broken {rule : Rule} {c : Context} {fault : Fault}
    (h : evaluate s rule c w = (.error fault, w1)) :
    applyOne s e c rule w = conclusionOfFailure s e rule fault.message (s.log (Log.failure loggerName
      "Rule execution failed" [("tenant", .text e.tenantId), ("rule", .text rule.id),
        ("record", .text e.record.id)] (some fault.message)) w1).2 := by
  simp only [applyOne, bind, StateT.bind, h]
  rfl

theorem applyEach_cons {rule : Rule} {rest : List Rule} {c : Rule → Context} {o : Outcome}
    (h : applyOne s e (c rule) rule w = (.ok o, w1)) : applyEach s e c (rule :: rest) w
      = ((applyEach s e c rest w1).1.map (o :: ·), (applyEach s e c rest w1).2) := by
  simp only [applyEach, bind, StateT.bind, h]
  rfl

theorem abortAll_cons {rule : Rule} {rest : List Rule} {error : String} {o : Outcome}
    (h : conclusionOfFailure s e rule error w = (.ok o, w1)) : abortAll s e error (rule :: rest) w
      = ((abortAll s e error rest w1).1.map (o :: ·), (abortAll s e error rest w1).2) := by
  simp only [abortAll, bind, StateT.bind, h]
  rfl

end Rule

end RecordDesk
