import RecordDesk.Document.Display
set_option autoImplicit false

namespace RecordDesk.Log

inductive Level where
  | debug | info | warning | error
  deriving DecidableEq, Repr

def Level.name : Level → String
  | .debug => "DEBUG"
  | .info => "INFO"
  | .warning => "WARNING"
  | .error => "ERROR"

structure Entry where
  logger : String
  level : Level
  message : String
  deriving DecidableEq, Repr

def isAbsent : Document → Bool
  | .null => true
  | _ => false

/-- What is known about a failure, as `key=value`; absent values are left out. -/
def details (extra : Members) : String :=
  String.join ((extra.filter fun m => !isAbsent m.2).map fun m => " " ++ m.1 ++ "=" ++ m.2.shown)

def failure (logger message : String) (extra : Members) (cause : Option String) : Entry :=
  let tail := match cause with
    | some c => ": " ++ c
    | none => ""
  ⟨logger, .error, message ++ details extra ++ tail⟩

/-- The result of a step that may fail; a failure is logged if there is a logger, and the fallback stands
in. -/
def guarded {α : Type} (name : String) (logger : Option String) (extra : Members) (fallback : α)
    (outcome : Except String α) : α × List Entry :=
  match outcome with
  | .ok a => (a, [])
  | .error cause =>
    (fallback, (logger.map fun l => failure l (name ++ " failed") extra (some cause)).toList)

def thresholds : List (String × Nat) :=
  [("CRITICAL", 50), ("FATAL", 50), ("ERROR", 40), ("WARN", 30), ("WARNING", 30), ("INFO", 20),
    ("DEBUG", 10), ("NOTSET", 0)]

def defaultThreshold : Nat := 20

/-- The threshold of a level name in any case; an unknown one logs from INFO. -/
def threshold (name : String) : Nat := (thresholds.lookup (upper name)).getD defaultThreshold

inductive Sink where
  | stream | file
  deriving DecidableEq, Repr

def Sink.name : Sink → String
  | .stream => "StreamHandler"
  | .file => "FileHandler"

def sinks (toFile : Bool) : List Sink := if toFile then [.stream, .file] else [.stream]

def lineFormat : String := "%(asctime)s [%(levelname)s] %(name)s: %(message)s"

end RecordDesk.Log
