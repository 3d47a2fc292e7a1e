import EventRetention.Store.Notice
import EventRetention.Text.LetterCase
import EventRetention.Text.Quoted

/-!
Log levels by name, and the levels that a configuration gives to the root
logger and to the loggers of the database layer.
-/

namespace EventRetention.Log

def levels : List (String × Nat) :=
  [("CRITICAL", 50), ("FATAL", 50), ("ERROR", 40), ("WARN", 30), ("WARNING", 30), ("INFO", 20),
    ("DEBUG", 10), ("NOTSET", 0)]

def levelOfName (name : String) : Except String Nat :=
  match levels.lookup (Text.upper name) with
  | some level => .ok level
  | none => .error ("Unknown log level: " ++ Text.quoted name)

/-- The level of the database layer: never looser than the root level, and
    never below warnings. -/
def databaseLevel (level : Nat) : Nat := max level Severity.warning.rank

def severityName : Severity → String
  | .debug => "debug"
  | .info => "info"
  | .warning => "warning"
  | .error => "error"
  | .critical => "critical"

def levelName : Nat → String
  | 50 => "CRITICAL"
  | 40 => "ERROR"
  | 30 => "WARNING"
  | 20 => "INFO"
  | 10 => "DEBUG"
  | 0 => "NOTSET"
  | level => "Level " ++ toString level

def severityOfMethod? : String → Option Severity
  | "debug" => some .debug
  | "info" => some .info
  | "warning" => some .warning
  | "warn" => some .warning
  | "error" => some .error
  | "critical" => some .critical
  | "fatal" => some .critical
  | _ => none

end EventRetention.Log
