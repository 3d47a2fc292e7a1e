import EventRetention.Log.Line

/-!
Logging calls. A structured call runs the shared chain before it is known whether
its severity reaches the level, and raises what fails there. A plain call makes a
record, if its severity reaches the level; its message is filled and the chain
runs when the record is handled, and what fails then is lost with the record.
-/

namespace EventRetention.Log

structure Call where
  severity : Severity
  message : String
  arguments : List Value := []
  fields : Entries := []
  isPlain : Bool := false

/-- What a call meets: the level, the fields of the context, and the fields
    bound to the structured logger. -/
structure Setup where
  level : Nat
  context : Entries := []
  bound : Entries := []

def parameterNames : List String := ["self", "event", "method_name"]

def Call.repeatedParameter? (call : Call) : Option String :=
  parameterNames.find? fun name => (call.fields.field? name).isSome

/-- An event with the record that carries it; null stands for the record. -/
def attachRecord (event : Entries) (structured : Bool) : Entries :=
  (event.insert (.text "_record") .null).insert (.text "_from_structlog") (.bool structured)

namespace Setup

variable (setup : Setup) (moment : Moment)

def admits (severity : Severity) : Bool := setup.level ≤ severity.rank

def event (call : Call) : Entries :=
  (setup.bound.merge call.fields).insert (.text "event") (.text call.message)

def structured (call : Call) : Except CallFault (Option Line) := do
  if let some name := call.repeatedParameter? then throw (.repeatedParameter name)
  let event ← process (severityName call.severity) (shared setup.context moment call.arguments)
    (setup.event call)
  return if setup.admits call.severity then some ⟨call.severity, attachRecord event true⟩ else none

def plain (call : Call) : Option Line :=
  let handled : Except CallFault Line := do
    let message ← (formatMessage call.message call.arguments).mapError .template
    let event ← process (Text.lower (levelName call.severity.rank)) (shared setup.context moment [])
      (attachRecord [(.text "event", .text message)] false)
    return ⟨call.severity, event⟩
  if setup.admits call.severity then handled.toOption else none

def emit (call : Call) : Except CallFault (Option Line) :=
  if call.isPlain then .ok (setup.plain moment call) else setup.structured moment call

def log (call : Call) : Except CallFault (Option Entries) :=
  (setup.emit moment call).map fun line => line.bind (Line.object? moment)

end Setup

end EventRetention.Log
