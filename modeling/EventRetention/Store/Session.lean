import EventRetention.Retention.Cleaner
import EventRetention.Store.Fold

/-!
Sessions: any number of clients, each with a clock of its own, that share one
database and take their steps one after another.
-/

namespace EventRetention

inductive StoreAction where
  | create (jobKey reason eventType message eventKey : Option String)
      (createTime : Option Reading)
  | latest (jobKey reason eventKey : Option String)
  | events (jobKey reason : Option String)
  | update (id : Int) (message : Option String) (count : Int)
  | delete (target batch : Int)
  | expired (ttl : Duration)
  | clean (ttl : Duration) (batchSize : Int)
  | fold (occurrence : Fold.Occurrence)

inductive ClockAction where
  | now
  | advance (span : Duration)
  | set (reading : Reading)
deriving DecidableEq

inductive DatabaseAction where
  | transaction (drafts : List Draft) (ids : List Int) (abort : Option String)
  | dump
  | schema
  | createTable
  | close

inductive Answer (τ : Type) where
  | done
  | event (found : Option (EventOf τ))
  | events (found : List (EventOf τ))
  | count (n : Int)
  | expiry (found : Option Expiry)
  | cleaned (result : CleanResult)
  | folded (result : Folded)
  | time (reading : Reading)
  | schema (tablePresent : Bool)

namespace Outcome

def map (f : α → β) (o : Outcome α) : Outcome β where
  answer := o.answer.map f
  notices := o.notices

end Outcome

namespace StoreAction

/-- Carries out an action on the store. Listed events come in order of their
    identifiers; equal identifiers keep the order of the result rows. -/
def perform (execute : Executor σ τ) (clock : Clock) (action : StoreAction) (s : σ) :
    Outcome (Answer τ) × σ :=
  match action with
  | .create jobKey reason eventType message eventKey createTime =>
      let op := Operation.create clock jobKey reason eventType message eventKey createTime
      (op.perform execute s).map (·.map fun _ => .done) id
  | .latest jobKey reason eventKey =>
      ((Operation.latest jobKey reason eventKey).perform execute s).map (·.map .event) id
  | .events jobKey reason =>
      ((Operation.events jobKey reason).perform execute s).map
        (·.map fun found => .events (Operation.byId found)) id
  | .update eventId message count =>
      ((Operation.update clock eventId message count).perform execute s).map
        (·.map fun _ => .done) id
  | .delete target batch =>
      ((Operation.delete target batch).perform execute s).map (·.map .count) id
  | .expired ttl => ((Operation.expired clock ttl).perform execute s).map (·.map .expiry) id
  | .clean ttl batchSize => (EventRetention.clean execute clock ttl batchSize s).map (·.map .cleaned) id
  | .fold occurrence => (EventRetention.fold execute clock occurrence s).map (·.map .folded) id

end StoreAction

namespace ClockAction

def perform (clock : Clock) : ClockAction → Except Failure Clock
  | .now => .ok clock
  | .advance span => clock.advance span
  | .set reading => clock.set reading

end ClockAction

namespace DatabaseAction

def perform (db : Database) : DatabaseAction → Except Failure (Answer String × Database)
  | .transaction drafts ids abort => do return (.done, ← db.transaction drafts ids abort)
  | .dump => do return (.events (← db.table).rows, db)
  | .schema =>
      match db with
      | .closed => .error .databaseClosed
      | .opened table => .ok (.schema table.isSome, db)
  | .createTable => do return (.done, ← db.createTable)
  | .close => .ok (.done, .closed)

end DatabaseAction

inductive Action where
  | store (action : StoreAction)
  | clock (action : ClockAction)
  | database (action : DatabaseAction)

structure Step where
  who : Nat
  action : Action

/-- The database and the clocks of the clients. A client beyond the last clock
    has a clock at the default start. -/
structure Session where
  database : Database
  clocks : List Clock

namespace Session

def clockOf (s : Session) (who : Nat) : Clock := s.clocks.getD who (.settable Clock.defaultStart)

def step (s : Session) (step : Step) : Outcome (Answer String) × Session :=
  match step.action with
  | .store action =>
      let (outcome, database) := action.perform Database.run (s.clockOf step.who) s.database
      (outcome, { s with database })
  | .clock action =>
      match action.perform (s.clockOf step.who) with
      | .error cause => ({ answer := .error cause }, s)
      | .ok clock =>
          ({ answer := .ok (.time clock.now) }, { s with clocks := s.clocks.set step.who clock })
  | .database action =>
      match action.perform s.database with
      | .error cause => ({ answer := .error cause }, s)
      | .ok (answer, database) => ({ answer := .ok answer }, { s with database })

def run (s : Session) : List Step → List (Outcome (Answer String)) × Session
  | [] => ([], s)
  | first :: rest =>
      let (outcome, s) := s.step first
      let (outcomes, s) := s.run rest
      (outcome :: outcomes, s)

end Session

def preparedReply (reply : Reply τ) : Executor Unit τ := fun s _ => .ok (s, reply)

end EventRetention
