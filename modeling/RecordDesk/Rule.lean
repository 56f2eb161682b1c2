import RecordDesk.Action.Execution
import RecordDesk.Condition
set_option autoImplicit false

/-!
Rules of an entity and what one event makes of them. A rule matches when all its conditions hold; then its
actions run in order. Whatever fails is confined to one rule and recorded as a failed execution.
-/

namespace RecordDesk

/-- A stored rule. Its conditions and actions are documents that are read when the rule is applied. -/
structure Rule where
  id : String
  name : String
  conditions : Document
  actions : Document

namespace Rule

inductive Status where
  | matched | skipped | failed
  deriving DecidableEq, Repr

def Status.name : Status → String
  | .matched => "matched"
  | .skipped => "skipped"
  | .failed => "failed"

structure Evaluation where
  matched : Bool
  conditionsMet : Nat
  totalConditions : Nat
  actionsExecuted : Nat
  actionsFailed : Nat
  output : Members

structure Outcome where
  ruleId : String
  status : Status
  result : Evaluation
  error : Option String

structure Batch where
  triggered : Nat
  outcomes : List Outcome

def Batch.empty : Batch := ⟨0, []⟩

structure Execution where
  tenantId : String
  ruleId : String
  recordId : String
  status : Status
  output : Members

/-- What a record event needs from its surroundings, over a state of the outside world. -/
structure Surroundings (σ : Type) where
  nans : NaNs
  activeRules : (tenantId entityId operation : String) → StateM σ (Except Fault (List Rule))
  tenant : String → StateM σ (Except Fault (Option TenantRef))
  entity : String → StateM σ (Except Fault (Option EntityRef))
  user : String → StateM σ (Except Fault (Option UserRef))
  persist : Execution → StateM σ (Except Fault Unit)
  execute : Document → Context → StateM σ (Except Fault Action.Result)
  log : Log.Entry → StateM σ Unit

structure Event where
  tenantId : String
  entityId : String
  record : Snapshot
  operation : String
  userId : Option String

/-- Conditions are read as a whole: one malformed condition spoils its rule. -/
def readConditions (d : Document) : Except Fault (List Condition) := do
  (Condition.listForm .modelType (.list (← d.sequence))).toExcept "list[RuleCondition]"

/-- What a rule with such actions would do with fields. Nothing is run. -/
def preview (nans : NaNs) (conditions : List Condition) (actions : Document) (fields : Fields) :
    Except Fault Members := do
  let details ← Condition.evaluateAll nans conditions fields
  let matched := Condition.allMatched details
  let runnable ← if matched then actions.count else pure 0
  return [("matched", .boolean matched), ("conditions_met", .ofNat (Condition.met details)),
    ("total_conditions", .ofNat conditions.length),
    ("actions_would_execute", .ofNat runnable),
    ("evaluation_details", .list (details.map Condition.Detail.toDocument))]

def loggerName : String := "rule_engine"

variable {σ : Type} (s : Surroundings σ)

def detailsMember (details : List Condition.Detail) : String × Document :=
  ("condition_details", .list (details.map Condition.Detail.toDocument))

/-- Runs actions one after another; one that breaks counts as failed. -/
def runActions (c : Context) : List Document → StateM σ (List Action.Result)
  | [] => pure []
  | d :: rest => do
    let result := match ← s.execute d c with
      | .ok r => r
      | .error fault => .failed (Action.typeOf d) fault.message none
    return result :: (← runActions c rest)

def evaluate (rule : Rule) (c : Context) : StateM σ (Except Fault Evaluation) := do
  let read : Except Fault (List Condition.Detail) := do
    Condition.evaluateAll s.nans (← readConditions rule.conditions) c.record.fields
  match read with
  | .error fault => return .error fault
  | .ok details =>
    if Condition.allMatched details then
      match rule.actions.sequence with
      | .error fault => return .error fault
      | .ok actions =>
        let results ← runActions s c actions
        return .ok {
          matched := true
          conditionsMet := Condition.met details
          totalConditions := details.length
          actionsExecuted := results.countP (·.success)
          actionsFailed := results.countP (!·.success)
          output := [detailsMember details,
            ("action_results", .list (results.map Action.Result.toDocument))] }
    else
      return .ok ⟨false, Condition.met details, details.length, 0, 0, [detailsMember details]⟩

/-- Keeps an execution; a failure to keep it is only logged. -/
def persist (x : Execution) : StateM σ Unit := do
  match ← s.persist x with
  | .ok () => return
  | .error fault =>
    s.log (Log.failure loggerName "Persist rule log failed"
      [("tenant", .text x.tenantId), ("rule", .text x.ruleId), ("record", .text x.recordId),
        ("status", .text x.status.name)] (some fault.message))

/-- Keeps and logs how a rule went. Its duration is no part of this account. -/
def conclude (e : Event) (ruleId : String) (status : Status) (r : Evaluation) : StateM σ Unit := do
  persist s ⟨e.tenantId, ruleId, e.record.id, status, r.output⟩
  s.log ⟨loggerName, .info,
    s!"rule_execution tenant={e.tenantId} rule={ruleId} record={e.record.id} " ++
      s!"status={status.name} duration_ms=_ executed={r.actionsExecuted} failed={r.actionsFailed}"⟩

/-- Records a rule that could not be evaluated. Its conditions must be countable. -/
def conclusionOfFailure (e : Event) (rule : Rule) (error : String) : StateM σ (Except Fault Outcome) := do
  match rule.conditions.count with
  | .error fault => return .error fault
  | .ok total =>
    let result : Evaluation := ⟨false, 0, total, 0, 0, [("error", .text error)]⟩
    conclude s e rule.id .failed result
    return .ok ⟨rule.id, .failed, result, some error⟩

def abortAll (e : Event) (error : String) : List Rule → StateM σ (Except Fault (List Outcome))
  | [] => pure (.ok [])
  | rule :: rest => do
    match ← conclusionOfFailure s e rule error with
    | .error fault => return .error fault
    | .ok outcome => return (← abortAll e error rest).map (outcome :: ·)

def applyOne (e : Event) (c : Context) (rule : Rule) : StateM σ (Except Fault Outcome) := do
  match ← evaluate s rule c with
  | .error fault =>
    s.log (Log.failure loggerName "Rule execution failed"
      [("tenant", .text e.tenantId), ("rule", .text rule.id), ("record", .text e.record.id)]
      (some fault.message))
    conclusionOfFailure s e rule fault.message
  | .ok result =>
    let status : Status := if result.matched then .matched else .skipped
    conclude s e rule.id status result
    return .ok ⟨rule.id, status, result, none⟩

def applyEach (e : Event) (c : Rule → Context) : List Rule → StateM σ (Except Fault (List Outcome))
  | [] => pure (.ok [])
  | rule :: rest => do
    match ← applyOne s e (c rule) rule with
    | .error fault => return .error fault
    | .ok outcome => return (← applyEach e c rest).map (outcome :: ·)

def scope (e : Event) : StateM σ (Except Fault (TenantRef × EntityRef)) := do
  let lookupFailed (fault : Fault) : Fault := .collaborator ("Directory lookup failed: " ++ fault.message)
  match ← s.tenant e.tenantId with
  | .error fault => return .error (lookupFailed fault)
  | .ok tenant =>
    match ← s.entity e.entityId with
    | .error fault => return .error (lookupFailed fault)
    | .ok entity =>
      match tenant, entity with
      | none, _ => return .error (.notFound "Tenant")
      | _, none => return .error (.notFound "Entity")
      | some t, some n => return .ok (t, n)

/-- The acting user; the system acts where no user is named or known. -/
def actor (userId : Option String) : StateM σ UserRef := do
  match userId with
  | none | some "" => return .system
  | some id =>
    match ← s.user id with
    | .ok user => return user.getD .system
    | .error fault =>
      let tail := if fault.fillsEntry then "" else "; using system user"
      s.log ⟨loggerName, .warning, s!"User lookup failed user={id} err={fault.message}{tail}"⟩
      return .system

def triggeredCount (outcomes : List Outcome) : Nat := outcomes.countP (·.result.matched)

/-- Applies every active rule of an entity to one event; there is one outcome per rule, in order. -/
def applyAll (e : Event) : StateM σ (Except Fault Batch) := do
  match ← s.activeRules e.tenantId e.entityId e.operation with
  | .error fault =>
    s.log (Log.failure loggerName "Failed to fetch rules for record"
      [("tenant", .text e.tenantId), ("entity", .text e.entityId), ("record", .text e.record.id),
        ("operation", .text e.operation)] (some fault.message))
    return .ok .empty
  | .ok [] => return .ok .empty
  | .ok rules =>
    match ← scope s e with
    | .error fault =>
      s.log (Log.failure loggerName "Rule evaluation aborted"
        [("tenant", .text e.tenantId), ("record", .text e.record.id)] (some fault.message))
      return (← abortAll s e fault.message rules).map fun outcomes => ⟨0, outcomes⟩
    | .ok (tenant, entity) =>
      let user ← actor s e.userId
      let context (rule : Rule) : Context := ⟨e.record, entity, user, ⟨rule.id, rule.name⟩, tenant⟩
      return (← applyEach s e context rules).map fun outcomes => ⟨triggeredCount outcomes, outcomes⟩

end Rule

end RecordDesk
