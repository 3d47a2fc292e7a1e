import EventRetention.Store.Failure

/-!
What operations on the store report to the log, and how severe each report is.
-/

namespace EventRetention

inductive Severity where
  | debug
  | info
  | warning
  | error
  | critical
deriving DecidableEq, Repr

def Severity.rank : Severity → Nat
  | .debug => 10
  | .info => 20
  | .warning => 30
  | .error => 40
  | .critical => 50

inductive Notice where
  | eventCreated (jobKey reason eventKey : Option String)
  | eventUpdated (id count : Int)
  | updateViolation (id affected : Int)
  | batchDeleted (target batch deleted : Int)
  | nothingExpired (ttl : Duration)
  | cleaning (records target batches : Int)
  | cleaned (deleted : Int) (batches : Nat)
deriving DecidableEq

def Notice.severity : Notice → Severity
  | .eventCreated .. => .debug
  | .eventUpdated .. => .debug
  | .updateViolation .. => .error
  | .batchDeleted .. => .debug
  | .nothingExpired .. => .info
  | .cleaning .. => .info
  | .cleaned .. => .info

structure Outcome (α : Type) where
  answer : Except Failure α
  notices : List Notice := []

end EventRetention
