import EventRetention.Log.Chain
import EventRetention.Text.Layout
import EventRetention.Value.JsonWriter

/-!
Lines as they reach the handler, and their two renderings: a JSON object, and
text for a console. A line that cannot be rendered is lost.
-/

namespace EventRetention.Log

structure Line where
  severity : Severity
  event : Entries
deriving Repr

namespace Line

def message (line : Line) : String := ((line.event.field? "event").bind Value.text?).getD ""

def object? (moment : Moment) (line : Line) : Option Entries :=
  (process (severityName line.severity) (render moment) line.event).toOption

def json? (moment : Moment) (line : Line) : Option String := do
  let object ← line.object? moment
  Json.text? (.map object)

def needsQuotes (c : Char) : Bool :=
  c = ' ' || c = '\t' || c = '=' || c = '\r' || c = '\n' || c = '"' || c = '\''

def consoleValue : Value → String
  | .text s => if s.toList.any needsQuotes then Text.quoted s else s
  | value => value.display

/-- The fields with a place of their own, and those of traces, which are not part
    of the line. -/
def placedNames : List String :=
  ["timestamp", "level", "event", "logger", "logger_name", "stack", "exception", "exc_info"]

def consoleFields (event : Entries) : List (String × Value) :=
  event.filterMap fun (key, value) =>
    match key with
    | .text name => if placedNames.contains name then none else some (name, value)
    | _ => none

def column (event : Entries) (name : String) (form : String → String) : List String :=
  ((event.field? name).map fun value => form value.plain).toList

def consoleText (event : Entries) : String :=
  let bracketed := fun s => "[" ++ s ++ "]"
  let fields := (consoleFields event).mergeSort fun a b => decide (a.1 ≤ b.1)
  let columns := column event "timestamp" id ++
    column event "level" (fun s => bracketed (Text.padRight 9 s)) ++
    column event "event" (Text.padRight 30) ++ column event "logger" bracketed ++
    column event "logger_name" bracketed ++
    fields.map fun (name, value) => name ++ "=" ++ consoleValue value
  let text := String.intercalate " " columns
  String.ofList (Text.trimEndBy (· = ' ') text.toList)

def console? (line : Line) : Option String := do
  let event ← (Processor.dropBookkeeping (severityName line.severity) line.event).toOption
  guard (event.all fun entry => entry.2.hasText)
  return consoleText event

def text? (json : Bool) (moment : Moment) (line : Line) : Option String :=
  if json then line.json? moment else line.console?

end Line

end EventRetention.Log
