import RecordDesk.Document.Display
import RecordDesk.Form
set_option autoImplicit false

namespace RecordDesk

structure Webhook where
  url : String
  method : String
  headers : Option (List (String × String))
  payload : Option Members
  timeoutMs : Option Int

structure Notify where
  message : String
  level : String
  channels : List String
  deriving DecidableEq, Repr

structure Tag where
  field : String
  value : String
  operation : String
  deriving DecidableEq, Repr

structure Rate where
  field : String
  value : Binary64

structure Slack where
  webhookUrl : String
  message : String
  channel : Option String
  username : Option String
  icon : Option String
  deriving DecidableEq, Repr

inductive Action where
  | webhook (w : Webhook)
  | notify (n : Notify)
  | tag (t : Tag)
  | rate (r : Rate)
  | slack (s : Slack)

namespace Action

def type : Action → String
  | .webhook _ => "webhook"
  | .notify _ => "notify"
  | .tag _ => "tag"
  | .rate _ => "rate"
  | .slack _ => "slack"

open Form in
def webhookForm (o : Members) : Checked Webhook :=
  Webhook.mk <$> required "url" text o
    <*> optional "method" "POST" (choice ["GET", "POST", "PUT", "PATCH"]) o
    <*> optional "headers" none (nullable (mapping text)) o
    <*> optional "payload" none (nullable object) o
    <*> optional "timeout_ms" none (nullable (between (some 1000) (some 30000))) o

open Form in
def notifyForm (o : Members) : Checked Notify :=
  Notify.mk <$> required "message" text o
    <*> optional "level" "info" (choice ["info", "warning", "error"]) o
    <*> optional "channels" ["ui"] (list (choice ["ui", "email", "sms"])) o

open Form in
def tagForm (o : Members) : Checked Tag :=
  Tag.mk <$> required "field" text o <*> required "value" text o
    <*> optional "operation" "set" (choice ["set", "add", "remove"]) o

def rating (d : Document) : Checked Binary64 :=
  match Form.binary64 d with
  | .invalid issues => .invalid issues
  | .valid x =>
    if !x.lessOrSame (Binary64.ofInt 5) then Form.fail .lessThanEqual
    else if !(Binary64.ofInt 1).lessOrSame x then Form.fail .greaterThanEqual
    else .valid x

open Form in
def rateForm (o : Members) : Checked Rate :=
  Rate.mk <$> required "field" text o <*> required "value" rating o

open Form in
/-- The icon may go by either of two names; the older one counts first. -/
def slackForm (o : Members) : Checked Slack :=
  let iconKey := if (o.lookup "icon_emoji").isSome then "icon_emoji" else "icon"
  Slack.mk <$> required "webhook_url" text o <*> required "message" text o
    <*> optional "channel" none (nullable text) o <*> optional "username" none (nullable text) o
    <*> optional iconKey none (nullable text) o

/-- The type decides which form the other members must fit. -/
def form : Form.Reader Action :=
  Form.record .modelAttributesType fun o =>
    match o.lookup "type" with
    | none => Form.fail .unionTagNotFound
    | some (.text "webhook") => Action.webhook <$> webhookForm o
    | some (.text "notify") => Action.notify <$> notifyForm o
    | some (.text "tag") => Action.tag <$> tagForm o
    | some (.text "rate") => Action.rate <$> rateForm o
    | some (.text "slack") => Action.slack <$> slackForm o
    | some _ => Form.fail .unionTagInvalid

def typeOf (d : Document) : String :=
  match d.get? "type" with
  | some t => if t.isTruthy then t.shown else "unknown"
  | none => "unknown"

def read (d : Document) : Except Fault Action :=
  match form d with
  | .valid a => .ok a
  | .invalid issues => .error (.malformedAction (typeOf d) issues.length)

def toDocument : Action → Document
  | .webhook w => .object [("type", .text "webhook"), ("url", .text w.url), ("method", .text w.method),
      ("headers", Document.ofOption (w.headers.map fun hs => .object (hs.map fun (k, v) => (k, .text v)))),
      ("payload", Document.ofOption (w.payload.map .object)),
      ("timeout_ms", Document.ofOption (w.timeoutMs.map .ofInt))]
  | .notify n => .object [("type", .text "notify"), ("message", .text n.message), ("level", .text n.level),
      ("channels", .list (n.channels.map .text))]
  | .tag t => .object [("type", .text "tag"), ("field", .text t.field), ("value", .text t.value),
      ("operation", .text t.operation)]
  | .rate r => .object [("type", .text "rate"), ("field", .text r.field), ("value", .number (.float r.value))]
  | .slack s => .object [("type", .text "slack"), ("webhook_url", .text s.webhookUrl),
      ("message", .text s.message), ("channel", Document.ofText? s.channel),
      ("username", Document.ofText? s.username), ("icon", Document.ofText? s.icon)]

end Action

end RecordDesk
