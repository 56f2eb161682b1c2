import RecordDesk.Action
import RecordDesk.Log
import RecordDesk.Quantity
import RecordDesk.Template
set_option autoImplicit false

/-!
Carrying out an action. Whatever goes wrong becomes the action's result; nothing is raised.
-/

namespace RecordDesk

structure HttpCall where
  method : String
  url : String
  headers : List (String × String)
  body : Document
  timeoutMs : Quantity

structure HttpReply where
  status : Int
  body : Document

/-- A call without a usable answer; status and body are known when a response arrived. -/
inductive HttpFailure where
  | failed (message : String) (status : Option Int) (body : Document)
  /-- Something else broke. -/
  | broken (fault : Fault)

/-- A notification that a rule asked for. -/
structure Notice where
  tenantId : String
  ruleId : String
  recordId : String
  level : String
  message : String
  channels : List String
  deriving DecidableEq, Repr

/-- What an action can reach, over a state of the outside world. -/
structure Outlets (σ : Type) where
  call : HttpCall → StateM σ (Except HttpFailure HttpReply)
  notify : Notice → StateM σ (Except Fault Unit)
  log : Log.Entry → StateM σ Unit

/-- The entry that stands for a notification where no service takes it. -/
def Notice.entry (n : Notice) : Log.Entry :=
  ⟨"notifications", .info,
    s!"Rule notification tenant={n.tenantId} rule={n.ruleId} record={n.recordId} level={n.level} channels="
      ++ String.intercalate "," n.channels ++ " message=" ++ n.message⟩

namespace Action

structure Options where
  userAgent : String
  defaultTimeoutMs : Quantity
  slackTimeoutMs : Quantity
  deriving DecidableEq

structure Result where
  actionType : String
  success : Bool
  error : Option String
  output : Option Members

namespace Result

def ok (actionType : String) (output : Members) : Result := ⟨actionType, true, none, some output⟩
def failed (actionType error : String) (output : Option Members) : Result :=
  ⟨actionType, false, some error, output⟩

def toDocument (r : Result) : Document :=
  .object ([("action_type", .text r.actionType), ("success", .boolean r.success)]
    ++ (r.error.map fun e => ("error", .text e)).toList
    ++ (r.output.map fun o => ("output", .object o)).toList)

end Result

def setHeader (headers : List (String × String)) (h : String × String) : List (String × String) :=
  if headers.any (·.1 == h.1) then headers.map fun g => if g.1 == h.1 then h else g else headers ++ [h]

/-- The given headers over the two that every webhook carries. -/
def webhookHeaders (options : Options) (given : Option (List (String × String))) : List (String × String) :=
  (given.getD []).foldl setHeader
    [("Content-Type", "application/json"), ("User-Agent", options.userAgent)]

def loggerName : String := "rule_actions"

variable {σ : Type} (outlets : Outlets σ) (options : Options) (c : Context)

def about : String :=
  s!"tenant={c.tenant.id} rule={c.rule.id} record={c.record.id}"

/-- Any response counts; whoever reads the result looks at its status. -/
def runWebhook (w : Webhook) : StateM σ (Except Fault Result) := do
  let url := Template.interpolate c.scope w.url
  match Template.interpolatePayload c.scope (Document.ofOption (w.payload.map .object)) with
  | .error fault => return .error fault
  | .ok payload =>
    match ← outlets.call ⟨w.method, url, webhookHeaders options w.headers, payload,
        (w.timeoutMs.map Quantity.ofInt).getD options.defaultTimeoutMs⟩ with
    | .ok reply =>
      return .ok (.ok "webhook" [("status_code", .ofInt reply.status), ("response_data", reply.body)])
    | .error (.failed message status body) =>
      return .ok (.failed "webhook" message
        (some [("status_code", Document.ofOption (status.map .ofInt)), ("error_data", body)]))
    | .error (.broken fault) => return .error fault

def runNotify (n : Notify) : StateM σ (Except Fault Result) := do
  let message := Template.interpolate c.scope n.message
  match ← outlets.notify ⟨c.tenant.id, c.rule.id, c.record.id, n.level, message, n.channels⟩ with
  | .error fault => return .error fault
  | .ok () => return .ok (.ok "notify" [("message", .text message), ("level", .text n.level),
      ("channels", .list (n.channels.map .text))])

/-- The tag is only reported; the record stays as it is. -/
def runTag (t : Tag) : StateM σ (Except Fault Result) := do
  let value := Template.interpolate c.scope t.value
  outlets.log ⟨loggerName, .info,
    s!"Rule tag action {about c} field={t.field} value={value} operation={t.operation}"⟩
  return .ok (.ok "tag" [("field", .text t.field), ("value", .text value), ("operation", .text t.operation)])

/-- The rating is only reported; the record stays as it is. -/
def runRate (r : Rate) : StateM σ (Except Fault Result) := do
  let shown := r.value.text Number.shownNames
  outlets.log ⟨loggerName, .info, s!"Rule rate action {about c} field={r.field} value={shown}"⟩
  return .ok (.ok "rate" [("field", .text r.field), ("value", .number (.float r.value))])

/-- A text, or the one that stands in for an absent or empty text. -/
def textOr (default : String) : Option String → String
  | some "" | none => default
  | some s => s

def slackBody (s : Slack) (message : String) : Document :=
  .object [("text", .text message), ("channel", Document.ofText? s.channel),
    ("username", .text (textOr "SynkBoard" s.username)), ("icon_emoji", .text (textOr ":robot_face:" s.icon))]

/-- Only a status of the two hundreds is a delivery. -/
def runSlack (s : Slack) : StateM σ (Except Fault Result) := do
  let message := Template.interpolate c.scope s.message
  match ← outlets.call ⟨"POST", s.webhookUrl, [("Content-Type", "application/json")], slackBody s message,
      options.slackTimeoutMs⟩ with
  | .error (.failed error _ _) => return .ok (.failed "slack" error none)
  | .error (.broken fault) => return .error fault
  | .ok reply =>
    if reply.status.fdiv 100 = 2 then
      return .ok (.ok "slack" [("message", .text message), ("channel", Document.ofText? s.channel),
        ("response", reply.body)])
    else
      return .ok (.failed "slack" s!"Slack webhook returned status {reply.status}"
        (some [("status_code", .ofInt reply.status), ("response", reply.body)]))

def run : Action → StateM σ (Except Fault Result)
  | .webhook w => runWebhook outlets options c w
  | .notify n => runNotify outlets c n
  | .tag t => runTag outlets c t
  | .rate r => runRate outlets c r
  | .slack s => runSlack outlets options c s

/-- Runs an action that was read under a type name; a fault is logged and becomes the result. -/
def executeAs (typeName : String) (action : Except Fault Action) : StateM σ Result := do
  let outcome ← match action with
    | .ok a => run outlets options c a
    | .error fault => pure (.error fault)
  match outcome with
  | .ok result => return result
  | .error fault =>
    outlets.log ⟨loggerName, .warning,
      s!"Action failed type={typeName} rule={c.rule.id} record={c.record.id} err={fault.message}"⟩
    return .failed typeName fault.message none

def execute (d : Document) : StateM σ Result :=
  executeAs outlets options c (typeOf d) (read d)

end Action

end RecordDesk
