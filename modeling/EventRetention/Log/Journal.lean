import EventRetention.Log.Report
import EventRetention.Store.Session

/-!
Actions on the store together with the log lines that they write. A report of
success is written once its transaction is committed, a violation inside the
transaction that it rolls back; what is written stays written. A logging call
that raises something stops an action like a failure of the store.
-/

namespace EventRetention

open Log (CallFault Line Setup)

def Log.Setup.configure (setup : Setup) (name : String) : Except String Setup :=
  (Log.levelOfName name).map fun level => { setup with level }

inductive Interruption where
  | failure (cause : Failure)
  | call (fault : CallFault)
deriving DecidableEq

structure Journal (σ : Type) where
  store : σ
  lines : List Line := []

abbrev Logged (σ : Type) := ExceptT Interruption (StateM (Journal σ))

namespace Logged

def attempt : Except Failure α → Logged σ α
  | .ok value => pure value
  | .error cause => throw (.failure cause)

def query (execute : Executor σ τ) (statement : Statement) : Logged σ (Reply τ) := do
  let journal ← get
  let (store, reply) ← attempt (execute journal.store statement)
  set { journal with store }
  return reply

/-- Runs a body in a transaction: when it is stopped the store goes back to
    what it was, and the lines stay. -/
def transaction (body : Logged σ α) : Logged σ α := do
  let before ← get
  tryCatch body fun stop => do
    modify fun journal => { journal with store := before.store }
    throw stop

def note (logger : Logger) (notice : Notice) : Logged σ Unit := do
  match logger.emit notice with
  | .ok line => modify fun journal => { journal with lines := journal.lines ++ line.toList }
  | .error fault => throw (.call fault)

end Logged

open Logged

def Operation.logged (execute : Executor σ τ) (logger : Logger) (op : Operation τ α) :
    Logged σ α := do
  let statement ← attempt op.statement
  let outcome ← transaction do
    let outcome := op.conclude (← query execute statement)
    if let .error cause := outcome.answer then
      outcome.notices.forM (note logger)
      throw (.failure cause)
    return outcome
  outcome.notices.forM (note logger)
  attempt outcome.answer

def Cycle.logged (execute : Executor σ τ) (clock : Clock) (logger : Logger) :
    Cycle → Logged σ CleanResult
  | .finished answer => attempt answer
  | .report notice rest => do
      note logger notice
      logged execute clock logger rest
  | .query ttl resume => do
      let expiry ← (Operation.expired clock ttl).logged execute logger
      logged execute clock logger (resume expiry)
  | .delete target batch resume => do
      let deleted ← (Operation.delete target batch).logged execute logger
      logged execute clock logger (resume deleted)

def cleanLogged (execute : Executor σ τ) (clock : Clock) (logger : Logger) (ttl : Duration)
    (batchSize : Int) : Logged σ CleanResult := do
  let cleaner ← attempt (Cleaner.make ttl batchSize)
  cleaner.cycle.logged execute clock logger

def foldLogged (execute : Executor σ τ) (clock : Clock) (logger : Logger) (o : Fold.Occurrence) :
    Logged σ Folded := do
  let latest ← (Fold.lookup o).logged execute logger
  (Fold.write clock o latest).logged execute logger

namespace StoreAction

def logged (execute : Executor σ τ) (clock : Clock) (logger : Logger) :
    StoreAction → Logged σ (Answer τ)
  | .create jobKey reason eventType message eventKey createTime => do
      (Operation.create clock jobKey reason eventType message eventKey createTime).logged
        execute logger
      return .done
  | .latest jobKey reason eventKey =>
      return .event (← (Operation.latest jobKey reason eventKey).logged execute logger)
  | .events jobKey reason =>
      return .events (Operation.byId (← (Operation.events jobKey reason).logged execute logger))
  | .update eventId message count => do
      (Operation.update clock eventId message count).logged execute logger
      return .done
  | .delete target batch =>
      return .count (← (Operation.delete target batch).logged execute logger)
  | .expired ttl => return .expiry (← (Operation.expired clock ttl).logged execute logger)
  | .clean ttl batchSize =>
      return .cleaned (← cleanLogged execute clock logger ttl batchSize)
  | .fold occurrence => return .folded (← foldLogged execute clock logger occurrence)

end StoreAction

structure Stage where
  answer : Except Interruption (Answer String)
  lines : List Line
  after : Session

namespace Session

def stage (logger : Logger) (s : Session) (step : Step) : Stage :=
  match step.action with
  | .store action =>
      let logged := action.logged Database.run (s.clockOf step.who) logger
      let (answer, journal) := logged.run.run { store := s.database }
      ⟨answer, journal.lines, { s with database := journal.store }⟩
  | _ =>
      let (outcome, after) := s.step step
      ⟨outcome.answer.mapError .failure, [], after⟩

def stages (setup : Setup) (measured : Nat → Measured) (s : Session) : List Step → List Stage
  | [] => []
  | first :: rest =>
      let stage := s.stage ⟨setup, measured 0⟩ first
      stage :: stages setup (fun number => measured (number + 1)) stage.after rest

end Session

end EventRetention
