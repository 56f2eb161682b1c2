import RecordDesk.Rule
set_option autoImplicit false

namespace RecordDesk

structure Rehearsal where
  replies : List (Except HttpFailure HttpReply) := []
  calls : List HttpCall := []
  notices : List Notice := []
  executions : List Rule.Execution := []
  logs : List Log.Entry := []
  actionsRun : Nat := 0

namespace Rehearsal

structure ScriptedRule where
  rule : Rule
  runOn : String
  isActive : Bool

/-- The surroundings that are played. A part that is named as broken raises its text. -/
structure Script where
  rules : List ScriptedRule := []
  options : Action.Options
  broken : List String := []
  refusedLogs : List String := []
  tenant : String → Option TenantRef := fun id => some ⟨id, "Acme"⟩
  entity : String → Option EntityRef := fun id => some ⟨id, "Deals", "deals"⟩
  users : List (String × UserRef) := []
  /-- Positions, from one, of the actions whose execution breaks. -/
  breaks : List Nat := []
  noticeFault : Option String := none
  /-- Notifications are logged instead of collected. -/
  noticesLogged : Bool := false

def standardReply : HttpReply := ⟨200, .object [("ok", .boolean true)]⟩

def log (entry : Log.Entry) : StateM Rehearsal Unit :=
  modify fun r => { r with logs := r.logs ++ [entry] }

def call (c : HttpCall) : StateM Rehearsal (Except HttpFailure HttpReply) := do
  let r ← get
  set { r with calls := r.calls ++ [c], replies := r.replies.tail }
  return r.replies.head?.getD (.ok standardReply)

def notify (script : Script) (n : Notice) : StateM Rehearsal (Except Fault Unit) := do
  match script.noticeFault with
  | some text => return .error (.external text)
  | none =>
    if script.noticesLogged then log n.entry
    else modify fun r => { r with notices := r.notices ++ [n] }
    return .ok ()

def outlets (script : Script) : Outlets Rehearsal := ⟨call, notify script, log⟩

def unlessBroken {α : Type} (script : Script) (part text : String) (answer : α) :
    StateM Rehearsal (Except Fault α) :=
  pure (if script.broken.contains part then .error (.external text) else .ok answer)

def activeRules (script : Script) (operation : String) : List Rule :=
  (script.rules.filter fun r => r.isActive && (r.runOn == operation || r.runOn == "both")).map (·.rule)

def persist (script : Script) (x : Rule.Execution) : StateM Rehearsal (Except Fault Unit) := do
  if script.broken.contains "persist" || script.refusedLogs.contains x.ruleId then
    return .error (.external "log table locked")
  modify fun r => { r with executions := r.executions ++ [x] }
  return .ok ()

def execute (script : Script) (d : Document) (c : Context) :
    StateM Rehearsal (Except Fault Action.Result) := do
  modify fun r => { r with actionsRun := r.actionsRun + 1 }
  if script.breaks.contains (← get).actionsRun then return .error (.external "boom")
  return .ok (← Action.execute (outlets script) script.options c d)

def surroundings (script : Script) : Rule.Surroundings Rehearsal where
  nans := .apart
  activeRules _ _ operation :=
    unlessBroken script "fetch" "database unavailable" (activeRules script operation)
  tenant id := unlessBroken script "tenant" "tenant service down" (script.tenant id)
  entity id := unlessBroken script "entity" "entity service down" (script.entity id)
  user id := unlessBroken script "user" "user service down" (script.users.lookup id)
  persist := persist script
  execute := execute script
  log := log

/-- Plays one event; what the one before it wrote down is forgotten. -/
def play (script : Script) (e : Rule.Event) : StateM Rehearsal (Except Fault Rule.Batch) := do
  modify fun r => { r with calls := [], notices := [], executions := [], logs := [] }
  Rule.applyAll (surroundings script) e

end Rehearsal

end RecordDesk
