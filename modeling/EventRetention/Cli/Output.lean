import EventRetention.Cli.Run
import EventRetention.Log.Report
import EventRetention.Text.Layout

/-!
What a run writes: its finding to the output, and its log and its trouble
beside it. Style sequences for terminals are cut out of both.
-/

namespace EventRetention

def Event.listed (e : Event) : String :=
  "[" ++ toString e.id ++ "] " ++ e.createTime.text ++ " -> " ++ e.updateTime.text ++ " " ++
    e.eventType ++ " " ++ e.reason ++ " key=" ++ e.eventKey ++ " count=" ++
    toString e.eventCount ++ ": " ++ e.message

def versionText : String := "autoscaler-events version 0.1.0"

def usageLines : List String :=
  ["Usage: autoscaler-events [--version] COMMAND [ARGUMENT]...", "",
    "Storage and retention for autoscaler events.", "",
    "  init                       Create the event table if it does not exist.",
    "  events JOB_KEY REASON      List stored events for a job and reason.",
    "    -k, --event-key TEXT     Show only the latest event of this series.",
    "  purge                      Delete expired events in bounded batches.",
    "    -t, --ttl-seconds N      Delete events created longer ago than this.",
    "    -b, --batch-size N       Maximum rows per delete statement.",
    "    --dry-run                Show what would be deleted without deleting.", "",
    "  -d, --database URL         Database address (default: from settings file).",
    "  -s, --settings PATH        Path to settings YAML file."]

namespace Finding

def lines (elapsed : String) : Finding → List String
  | .tableReady => ["Event table ready."]
  | .latest none => ["No matching event."]
  | .latest (some e) => [e.listed]
  | .events [] => ["No matching events."]
  | .events found => found.map Event.listed
  | .nothingExpired ttl => ["No events older than " ++ ttl.text ++ " found."]
  | .wouldDelete records target ttl =>
      ["Would delete " ++ toString records ++ " event(s) with id <= " ++
        target.elim "None" toString ++ " older than " ++ ttl.text ++ "."]
  | .purged records deleted batches =>
      ["Purge completed in " ++ elapsed ++ "s:", "  Expired: " ++ toString records,
        "  Deleted: " ++ toString deleted, "  Batches: " ++ toString batches]

end Finding

def Settings.Complaint.line (c : Settings.Complaint) : String :=
  "  " ++ String.intercalate "." c.place ++ ": " ++ c.problem.message

def Trouble.unexpected? : Trouble → Option String
  | .source fault => some fault.message
  | .store cause => if cause.databaseText?.isSome then none else some cause.message
  | _ => none

/-- What the user is told about trouble; nothing when it is not expected. -/
def Trouble.lines? : Trouble → Option (List String)
  | .settings origin complaints =>
      some (("Error: invalid settings in " ++ origin ++ ":") ::
        complaints.map Settings.Complaint.line)
  | .connection fault => some ["Error connecting to database: " ++ fault.message]
  | .store cause => cause.databaseText?.map fun text => ["Error: " ++ text]
  | .source _ => none

def LogLevel.severity : LogLevel → Severity
  | .debug => .debug
  | .info => .info
  | .warning => .warning
  | .error => .error

namespace Conclusion

def output (c : Conclusion) (elapsed : String) : String :=
  match c.answer with
  | .ok finding =>
      Text.unstyled (String.join ((finding.lines elapsed).map (· ++ "\n")))
  | .error _ => ""

def log (c : Conclusion) (measured : Measured) : List String :=
  let setup : Log.Setup := { level := c.logging.level.severity.rank }
  (Logger.lines ⟨setup, measured⟩ c.notices).filterMap
    (Log.Line.text? c.logging.jsonOutput (.untraced measured.timestamp))

def complaint (c : Conclusion) : List String :=
  match c.answer with
  | .ok _ => []
  | .error trouble => (trouble.lines?.getD []).map Text.unstyled

end Conclusion

end EventRetention
