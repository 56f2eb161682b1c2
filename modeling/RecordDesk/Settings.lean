import RecordDesk.Form
import RecordDesk.Log
set_option autoImplicit false

namespace RecordDesk

/-- Variables and their values; of several the last counts. -/
abbrev Environment := List (String × String)

namespace Environment

def get? (env : Environment) (name : String) : Option String := env.reverse.lookup name

def getAnyCase? (env : Environment) (name : String) : Option String :=
  (env.reverse.find? fun v => lower v.1 == name).map (·.2)

def integer (env : Environment) (name : String) (fallback : Int) : Int :=
  match env.get? name with
  | none => fallback
  | some s => (Numeral.integer? s).getD fallback

end Environment

structure Settings where
  databaseUrl : String
  ruleHttpTimeoutMs : Int
  ruleHttpUserAgent : String
  slackTimeoutMs : Int
  apiMaxPageSize : Int
  autoCreateDb : Bool
  logLevel : String
  deriving DecidableEq, Repr

namespace Settings

def default : Settings where
  databaseUrl := "sqlite+pysqlite:///./synkboard.db"
  ruleHttpTimeoutMs := 10000
  ruleHttpUserAgent := "SynkBoard-RuleEngine/1.0"
  slackTimeoutMs := 10000
  apiMaxPageSize := 100
  autoCreateDb := true
  logLevel := "INFO"

def setting {α : Type} (given : Members) (env : Environment) (key : String) (absent : α)
    (read : Form.Reader α) : Checked α :=
  match given.lookup key with
  | some d => (read d).under (.key key)
  | none => match env.getAnyCase? key with
    | some s => (read (.text s)).under (.key key)
    | none => .valid absent

open Form in
def read (given : Members) (env : Environment) : Checked Settings :=
  let of {α : Type} (key : String) (absent : α) (read : Reader α) := setting given env key absent read
  Settings.mk <$> of "database_url" default.databaseUrl text
    <*> of "rule_http_timeout_ms" default.ruleHttpTimeoutMs integer
    <*> of "rule_http_user_agent" default.ruleHttpUserAgent text
    <*> of "slack_timeout_ms" default.slackTimeoutMs integer
    <*> of "api_max_page_size" default.apiMaxPageSize integer
    <*> of "auto_create_db" default.autoCreateDb flag
    <*> of "log_level" default.logLevel text

inductive Stage where
  | dev | prod
  deriving DecidableEq, Repr

def Stage.name : Stage → String
  | .dev => "dev"
  | .prod => "prod"

def loggerName : String := "config"

def rawStage (env : Environment) : String :=
  let filled (name : String) := (env.get? name).filter (· != "")
  ((filled "SYNKBOARD_ENV").orElse fun _ => filled "APP_ENV").getD "dev"

/-- The stage, and an entry about a name that is no stage. -/
def stage (env : Environment) : Stage × List Log.Entry :=
  let raw := rawStage env
  match lower (strip raw) with
  | "dev" => (.dev, [])
  | "prod" => (.prod, [])
  | _ => (.dev, [⟨loggerName, .warning, s!"Unknown SYNKBOARD_ENV={raw}; defaulting to dev"⟩])

def isFileDatabase (url : String) : Bool := url.startsWith "sqlite"

def validate (s : Settings) (env : Environment) : Except Fault Unit × List Log.Entry :=
  let (at_, said) := stage env
  if s.ruleHttpTimeoutMs ≤ 0 then
    (.error (.configuration "RULE_HTTP_TIMEOUT_MS must be positive."), said)
  else if s.slackTimeoutMs ≤ 0 then
    (.error (.configuration "SLACK_TIMEOUT_MS must be positive."), said)
  else match at_ with
    | .prod =>
      if isFileDatabase s.databaseUrl then
        (.error (.configuration "DATABASE_URL must point at a server database in prod."), said)
      else if s.autoCreateDb then
        (.ok (), said ++ [⟨loggerName, .warning,
          "AUTO_CREATE_DB is enabled in prod. Consider setting it to false."⟩])
      else (.ok (), said)
    | .dev =>
      if 500 < s.apiMaxPageSize then
        (.ok (), said ++ [⟨loggerName, .warning,
          s!"API_MAX_PAGE_SIZE={s.apiMaxPageSize} is unusually large."⟩])
      else (.ok (), said)

def toDocument (s : Settings) : Document :=
  .object [("database_url", .text s.databaseUrl), ("rule_http_timeout_ms", .ofInt s.ruleHttpTimeoutMs),
    ("rule_http_user_agent", .text s.ruleHttpUserAgent), ("slack_timeout_ms", .ofInt s.slackTimeoutMs),
    ("api_max_page_size", .ofInt s.apiMaxPageSize), ("auto_create_db", .boolean s.autoCreateDb),
    ("log_level", .text s.logLevel)]

/-- How connections to a database are made; a file database is shared between threads. -/
def connectionOptions (url : String) (env : Environment) : Document :=
  if isFileDatabase url then
    .object [("connect_args", .object [("check_same_thread", .boolean false)])]
  else
    .object [("pool_pre_ping", .boolean true), ("pool_size", .ofInt (env.integer "DB_POOL_SIZE" 5)),
      ("max_overflow", .ofInt (env.integer "DB_MAX_OVERFLOW" 10)),
      ("pool_recycle", .ofInt (env.integer "DB_POOL_RECYCLE_SEC" 1800)),
      ("pool_timeout", .ofInt (env.integer "DB_POOL_TIMEOUT_SEC" 30))]

end Settings

end RecordDesk
