import RecordDesk.Http
import RecordDesk.Settings
import RecordDesk.Store
set_option autoImplicit false

namespace RecordDesk

structure Desk where
  store : Store := {}
  now : Moment
  environment : Environment := []
  settings : Settings := Settings.default
  /-- What servers will do with the next calls. -/
  exchanges : List Http.Exchange := []
  /-- The requests that left, and the time on the clock that limits them. -/
  requests : List Http.Request := []
  clock : Binary64 := Binary64.zero
  logs : List Log.Entry := []

/-- Work that may fail; what was done before a failure stays done. -/
abbrev Job (α : Type) := ExceptT Fault (StateM Desk) α

namespace Desk

/-- What a server does when nothing else is foreseen. -/
def standardExchange : Http.Exchange :=
  .answered Binary64.zero 200 (some "utf-8")
    ("\x7b\"ok\": true\x7d".toUTF8.toList.foldr (.byte Binary64.zero) .done)

def log (entry : Log.Entry) : StateM Desk Unit :=
  modify fun d => { d with logs := d.logs ++ [entry] }

def ask {α : Type} (question : Store → Except Fault α) : StateM Desk (Except Fault α) := do
  return question (← get).store

def callWith (codecs : Codecs) (c : HttpCall) : StateM Desk (Except HttpFailure HttpReply) := do
  let d ← get
  let account := Http.callWith codecs d.clock c (d.exchanges.head?.getD standardExchange)
  set { d with
    exchanges := if account.request.isSome then d.exchanges.tail else d.exchanges
    requests := d.requests ++ account.request.toList
    clock := account.clock
    logs := d.logs ++ account.logs }
  return account.result

/-- Notifications are only logged; their delivery is another service's work. -/
def notify (n : Notice) : StateM Desk (Except Fault Unit) := do
  log n.entry
  return .ok ()

def outletsWith (codecs : Codecs) : Outlets Desk := ⟨callWith codecs, notify, log⟩

def outlets : Outlets Desk := outletsWith Encoding.codecs

def actionOptions (s : Settings) : Action.Options :=
  ⟨s.ruleHttpUserAgent, .ofInt s.ruleHttpTimeoutMs, .ofInt s.slackTimeoutMs⟩

/-- Keeps an execution under the next name; the name is used up even if the store refuses the row. -/
def persist (x : Rule.Execution) : StateM Desk (Except Fault Unit) := do
  let d ← get
  let (id, store) := d.store.withName
  let output := (Document.object x.output).writable.toDocument
  let row : LogRow := ⟨id, x.tenantId, x.ruleId, x.recordId, x.status.name, output, d.now.naive⟩
  match store.logs.insert (·.id == ·.id) row with
  | .ok logs =>
    set { d with store := { store with logs := logs } }
    return .ok ()
  | .error fault =>
    set { d with store := store }
    return .error fault

def execute (document : Document) (c : Context) : StateM Desk (Except Fault Action.Result) := do
  let options := actionOptions (← get).settings
  return .ok (← Action.execute outlets options c document)

/-- Rules see the tables of the store. A name is looked up whoever it belongs to. -/
def surroundings : Rule.Surroundings Desk where
  nans := .alike
  activeRules tenantId entityId operation := ask fun s => s.activeRules tenantId entityId operation
  tenant id := ask fun s => (s.tenant? id).map (·.map fun t => ⟨t.id, t.name⟩)
  entity id := ask fun s => (s.entity? id).map (·.map fun e => ⟨e.id, e.name, e.slug⟩)
  user id := ask fun s => (s.user? id).map (·.map fun u => ⟨u.id, u.name, u.email⟩)
  persist := persist
  execute := execute
  log := log

def query {α : Type} (question : Store → Except Fault α) : Job α := ask question

end Desk

end RecordDesk
