import EventRetention.Log.Level
import EventRetention.Log.Template

/-!
The chain that events pass through. An event is a dictionary; each processor of
the chain takes it as the one before left it. The first part is shared by both
kinds of loggers, the second prepares an event for its rendering.
-/

namespace EventRetention

def Entries.complete (entries others : Entries) : Entries :=
  others.foldl (fun all entry =>
    if (Entries.get? all entry.1).isSome then all else Entries.insert all entry.1 entry.2) entries

namespace Log

inductive CallFault where
  | template (fault : TemplateFault)
  | repeatedParameter (name : String)
  | missingKey (key : String)
deriving DecidableEq, Repr

def CallFault.kind : CallFault → FaultKind
  | .template fault => fault.kind
  | .repeatedParameter _ => .type
  | .missingKey _ => .key

/-- What is around a call: the time, and the traces that the value of a field
    asks for. -/
structure Moment where
  timestamp : String
  stack : Value → Option String
  exception : Value → Option String

def Moment.untraced (timestamp : String) : Moment := ⟨timestamp, fun _ => none, fun _ => none⟩

abbrev Processor := String → Entries → Except CallFault Entries

def process (level : String) : List Processor → Entries → Except CallFault Entries
  | [], event => .ok event
  | first :: rest, event => do process level rest (← first level event)

namespace Processor

def addContext (context : Entries) : Processor := fun _ event => .ok (event.complete context)

def addLevel : Processor := fun level event => .ok (event.insert (.text "level") (.text level))

def addTimestamp (timestamp : String) : Processor := fun _ event =>
  .ok (event.insert (.text "timestamp") (.text timestamp))

/-- Fills the message with the positional arguments of a call, if it has any. -/
def fillMessage (arguments : List Value) : Processor := fun _ event =>
  match arguments, event.field? "event" with
  | _ :: _, some (.text template) => do
      let message ← (formatMessage template arguments).mapError .template
      return event.insert (.text "event") (.text message)
  | _, _ => .ok event

def showTrace (asked shown : String) (trace : Value → Option String) : Processor := fun _ event =>
  match (event.field? asked).bind trace with
  | some text => .ok ((event.erase (.text asked)).insert (.text shown) (.text text))
  | none => .ok (event.erase (.text asked))

def drop (name : String) : Processor := fun _ event =>
  match event.field? name with
  | some _ => .ok (event.erase (.text name))
  | none => .error (.missingKey name)

/-- Takes away what the formatter has put in: a missing field means that the
    wiring is broken. -/
def dropBookkeeping : Processor := fun level event =>
  process level [drop "_record", drop "_from_structlog"] event

def rename (name other : String) : Processor := fun _ event =>
  match event.field? name with
  | some value => .ok ((event.erase (.text name)).insert (.text other) value)
  | none => .error (.missingKey name)

end Processor

open Processor

def shared (context : Entries) (moment : Moment) (arguments : List Value) : List Processor :=
  [addContext context, addLevel, addTimestamp moment.timestamp, fillMessage arguments,
    showTrace "stack_info" "stack" moment.stack]

/-- What becomes of an event that is to be written as an object: the message
    stands under its own name then. -/
def render (moment : Moment) : List Processor :=
  [dropBookkeeping, showTrace "exc_info" "exception" moment.exception, rename "event" "msg"]

end Log

end EventRetention
