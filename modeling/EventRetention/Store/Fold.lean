import EventRetention.Store.Operation

/-!
Folding occurrences: an occurrence of a series that has an event already is
counted there, the first one becomes an event. The lookup and the write are
two operations, and others may come between them.
-/

namespace EventRetention

inductive Folded where
  | created
  | updated (id count : Int)
deriving DecidableEq, Repr

namespace Fold

structure Occurrence where
  jobKey : Option String
  reason : Option String
  eventKey : Option String
  message : Option String
deriving DecidableEq

def answering (value : β) (op : Operation τ α) : Operation τ β where
  statement := op.statement
  conclude reply :=
    let outcome := op.conclude reply
    { answer := outcome.answer.map fun _ => value, notices := outcome.notices }

def lookup (o : Occurrence) : Operation τ (Option (EventOf τ)) :=
  Operation.latest o.jobKey o.reason o.eventKey

def write (clock : Clock) (o : Occurrence) (latest : Option (EventOf τ)) : Operation τ Folded :=
  match latest with
  | none =>
      answering .created (Operation.create clock o.jobKey o.reason (some EventType.normal.label)
        o.message o.eventKey none)
  | some e =>
      answering (.updated e.id (e.eventCount + 1))
        (Operation.update clock e.id o.message (e.eventCount + 1))

end Fold

def fold (execute : Executor σ τ) (clock : Clock) (o : Fold.Occurrence) (s : σ) :
    Outcome Folded × σ :=
  let (found, s) := (Fold.lookup o).perform execute s
  match found.answer with
  | .error cause => ({ answer := .error cause, notices := found.notices }, s)
  | .ok latest =>
      let (written, s) := (Fold.write clock o latest).perform execute s
      ({ written with notices := found.notices ++ written.notices }, s)

end EventRetention
