import RecordDesk.Api.Message
import RecordDesk.Api.Route
import RecordDesk.Condition
import RecordDesk.Ingest
import RecordDesk.Widget.Data
set_option autoImplicit false

namespace RecordDesk.Api

def version : String := "0.1.0"

def health : Handling Response := do
  let (stage, said) := Settings.stage (← get).environment
  said.forM fun entry => Desk.log entry
  return .ofDocument 200 [] (.object [("status", .text "ok"), ("database", .boolean true),
    ("env", .text stage.name), ("version", .text version)])

def recordForm : Form.Reader Members :=
  Form.record .modelAttributesType (Form.required "fields" Form.object)

def writtenDocument (w : Ingest.Written) : Document :=
  .object [("id", .text w.record.id), ("entity_id", .text w.record.entityId),
    ("fields", w.record.fields),
    ("created_at", .date (.moment w.record.createdAt)),
    ("updated_at", .ofOption (w.record.updatedAt.map fun m => .date (.moment m))),
    ("triggered_rules", .ofNat w.triggered)]

/-- What was not found, what is missing and what is no pair are the caller's faults; nothing else is. -/
def refuseWrite (fault : Fault) : Response :=
  match fault with
  | .notFound _ => .refusal 404 fault.message
  | .missingRequired _ | .unpaired .. => .refusal 400 fault.message
  | _ => .broken

def createRecord (r : Request) (entityId : String) : Handling Response := do
  let caller ← r.caller
  let fields ← r.form recordForm
  let written ← Handling.ofJob refuseWrite
    (Ingest.create Ingest.standardEngine caller.tenantId entityId (.object fields) caller.userId)
  return .ofDocument 201 [] (writtenDocument written)

def updateRecord (r : Request) (entityId recordId : String) : Handling Response := do
  let caller ← r.caller
  let fields ← r.form recordForm
  let written ← Handling.ofJob refuseWrite
    (Ingest.update Ingest.standardEngine caller.tenantId entityId recordId (.object fields)
      caller.userId .alike)
  return .ofDocument 200 [] (writtenDocument written)

/-- A rule that is tried on sample fields before it is stored. -/
structure Draft where
  conditions : List Condition
  actions : List Members
  fields : Members
  entityId : Option String

open Form in
def draftForm : Reader Draft :=
  record .modelAttributesType fun o =>
    Draft.mk <$> required "conditions" (Condition.listForm .modelAttributesType) o
      <*> optional "actions" [] (list object) o
      <*> optional "test_data" [] object o
      <*> optional "entity_id" none (nullable text) o

def entityOf (tenantId entityId : String) : Handling EntityRow := do
  match ← Handling.require (Desk.query (·.entity? entityId)) with
  | some e =>
    if e.tenantId == tenantId then return e else throw (.refusal 404 "Entity not found")
  | none => throw (.refusal 404 "Entity not found")

/-- What the fields of the entity have against the conditions of a draft that names one. -/
def draftProblems (caller : Request.Caller) (draft : Draft) : Handling (List String) := do
  match draft.entityId with
  | none | some "" => return []
  | some id =>
    let entity ← entityOf caller.tenantId id
    let fields ← Handling.require (Desk.query (·.entityFields entity.id))
    return draft.conditions.flatMap (Condition.problems fields)

def actionProblems (draft : Draft) : List String :=
  draft.actions.filterMap fun ms => match Action.read (.object ms) with
    | .ok _ => none
    | .error fault => some fault.message

def testRule (r : Request) : Handling Response := do
  let caller ← r.caller
  let draft ← r.form draftForm
  let warnings := (← draftProblems caller draft) ++ actionProblems draft
  let preview ← Handling.ofExcept
    (Rule.preview .alike draft.conditions (.list (draft.actions.map .object)) (Value.ofMembers draft.fields))
  return .ofDocument 200 [] (.object (preview ++ [("warnings", .list (warnings.map .text))]))

structure LogQuery where
  ruleId : Option String
  status : Option String
  page : Int
  limit : Int

open Form in
def logQueryForm (o : Members) : Checked LogQuery :=
  LogQuery.mk <$> optional "rule_id" none (nullable text) o
    <*> optional "status" none (nullable text) o
    <*> optional "page" 1 (between (some 1) none) o
    <*> optional "limit" Page.defaultSize (between (some 1) none) o

/-- Whether a text that may be wanted is the one that is there; the empty text wants nothing. -/
def wants (wanted : Option String) (found : String) : Bool :=
  match wanted with
  | none | some "" => true
  | some s => s == found

def logDocument (l : LogRow) : Document :=
  .object [("id", .text l.id), ("rule_id", .text l.ruleId), ("record_id", .text l.recordId),
    ("status", .text l.status), ("output", l.output), ("created_at", .date (.moment l.createdAt))]

def ruleLogs (r : Request) (query : Members) : Handling Response := do
  let caller ← r.caller
  let q ← Handling.ofChecked ((logQueryForm query).under (.key "query"))
  let statuses := [Rule.Status.matched, .skipped, .failed].map Rule.Status.name
  if !(statuses.any (wants q.status)) then
    throw (.refusal 400 ("Unsupported status: " ++ q.status.getD ""))
  let d ← get
  let size := Page.clampSize (Page.maxSize d.environment d.settings.apiMaxPageSize) q.limit
  let offset := Page.offset q.page size
  let rows ← Handling.require (Desk.query (·.latestLogs fun l =>
    l.tenantId == caller.tenantId && wants q.ruleId l.ruleId && wants q.status l.status))
  if !Cell.fitsWord offset || !Cell.fitsWord size then throw .broken
  let shown := (rows.drop offset.toNat).take size.toNat
  return .ofDocument 200 (Page.headers rows.length q.page size) (.list (shown.map logDocument))

def widgetLoggerName : String := "widgets_api"

/-- The data of a widget. A query that is refused is told to the caller and to the log. -/
def widgetData (r : Request) : Handling Response := do
  let caller ← r.caller
  let spec ← r.form (Widget.Spec.form .modelAttributesType)
  if spec.tenantId != caller.tenantId then throw (.refusal 403 "Forbidden")
  let _ ← entityOf caller.tenantId spec.entityId
  match ← (Widget.Data.ofSpec spec).run with
  | .ok data => return .ofDocument 200 [] data.toDocument
  | .error (.query cause) =>
    Desk.log ⟨widgetLoggerName, .info,
      s!"Widget query rejected tenant={caller.tenantId} entity={spec.entityId} err={cause.message}"⟩
    throw (.refusal 422 cause.message)
  | .error _ => throw .broken

def handle (r : Request) (a : Address) : Route → Handling Response
  | .health => health
  | .records entityId => createRecord r entityId
  | .record entityId recordId => updateRecord r entityId recordId
  | .ruleTest => testRule r
  | .ruleLogs => ruleLogs r a.parameters
  | .widgetData => widgetData r
  | .guide => return ⟨200, .text "", []⟩

def respond (r : Request) : Option (Route × Address) → StateM Desk Response
  | none => return .refusal 404 "Not Found"
  | some (route, a) => do
    if !route.methods.contains r.method then return .refusal 405 "Method Not Allowed"
    match ← (handle r a route).run with
    | .ok response | .error response => return response

/-- Sends a request and answers it; one that cannot be sent is a fault of its own. Where only the head of an
answer is asked for, its body stays out. -/
def answer (r : Request) : Job Response := do
  let a ← (Address.read r.address : Except Fault Address)
  let r ← (r.sent : Except Fault Request)
  let place ← (Route.ofAddress a : Except Fault (Option (Route × Address)))
  let response ← (respond r place : StateM Desk Response)
  return if r.method = "HEAD" then { response with body := .text "" } else response

end RecordDesk.Api
