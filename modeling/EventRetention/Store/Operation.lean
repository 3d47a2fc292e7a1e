import EventRetention.Store.Database
import EventRetention.Store.Notice

/-!
Operations on the event store. Each is a single statement in a transaction of
its own: what happens before the statement may fail, and so may what is done
with the reply; then the statement is rolled back. Nothing is retried.
-/

namespace EventRetention

abbrev Executor (σ τ : Type) := σ → Statement → Except Failure (σ × Reply τ)

structure Operation (τ α : Type) where
  statement : Except Failure Statement
  conclude : Reply τ → Outcome α

namespace Operation

/-- Performs an operation; the state changes only if the operation succeeds. -/
def perform (execute : Executor σ τ) (op : Operation τ α) (s : σ) : Outcome α × σ :=
  match op.statement with
  | .error cause => ({ answer := .error cause }, s)
  | .ok statement =>
      match execute s statement with
      | .error cause => ({ answer := .error cause }, s)
      | .ok (after, reply) =>
          let outcome := op.conclude reply
          match outcome.answer with
          | .ok _ => (outcome, after)
          | .error _ => (outcome, s)

def latestOf (events : List (EventOf τ)) : Option (EventOf τ) :=
  events.foldl (fun latest current =>
    match latest with
    | none => some current
    | some e => if e.id < current.id then some current else some e) none

def latest (jobKey reason eventKey : Option String) : Operation τ (Option (EventOf τ)) where
  statement := .ok (.selectSeries jobKey reason eventKey)
  conclude reply := { answer := (reply.rows.mapM Record.load).map latestOf }

def byId (events : List (EventOf τ)) : List (EventOf τ) := events.mergeSort fun a b => a.id ≤ b.id

def events (jobKey reason : Option String) : Operation τ (List (EventOf τ)) where
  statement := .ok (.select jobKey reason)
  conclude reply := { answer := reply.rows.mapM Record.load }

/-- The text under which an event type is stored; a null type has one too. -/
def storedType (eventType : Option String) : String := eventType.getD "None"

def newEvent (time : Instant) (jobKey reason eventType message eventKey : Option String) :
    Draft where
  createTime := some (.ofInstant time)
  updateTime := some (.ofInstant time)
  jobKey := jobKey
  reason := reason
  eventType := some (storedType eventType)
  message := message
  eventCount := some 1
  eventKey := eventKey

def create (clock : Clock) (jobKey reason eventType message eventKey : Option String)
    (createTime : Option Reading) : Operation τ Unit where
  statement := do
    let time ← Clock.normalise (createTime.getD clock.now)
    return .insert (newEvent time jobKey reason eventType message eventKey)
  conclude _ := { answer := .ok (), notices := [.eventCreated jobKey reason eventKey] }

/-- Folds a repetition into an event. Anything but exactly one changed row is
    a violation. -/
def update (clock : Clock) (id : Int) (message : Option String) (count : Int) :
    Operation τ Unit where
  statement := do return .update id (← clock.instant) message count
  conclude reply :=
    if reply.affected = 1 then { answer := .ok (), notices := [.eventUpdated id count] }
    else {
      answer := .error (.stateViolation id reply.affected)
      notices := [.updateViolation id reply.affected] }

/-- Counts the expired events: those older than the time to live, below the
    first event that is not. -/
def expired (clock : Clock) (ttl : Duration) : Operation τ (Option Expiry) where
  statement := .ok (.expiry (clock.cutoff ttl))
  conclude reply := { answer := reply.summary.mapM ExpiryRecord.load }

def delete (target batch : Int) : Operation τ Int where
  statement := if batch ≤ 0 then .error (.batchNotPositive batch) else .ok (.delete target batch)
  conclude reply :=
    { answer := .ok reply.affected, notices := [.batchDeleted target batch reply.affected] }

end Operation

end EventRetention
