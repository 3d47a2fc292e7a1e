import EventRetention.Log.Call

/-!
The logging calls of the reports that operations make.
-/

namespace EventRetention

def Duration.totalSeconds (d : Duration) : Binary64 :=
  Binary64.ofQuotient (d.micros < 0) d.micros.natAbs 1000000

namespace Notice

def textField (s : Option String) : Value := s.elim .null .text

def name : Notice → String
  | .eventCreated .. => "event_created"
  | .eventUpdated .. => "event_updated"
  | .updateViolation .. => "event_update_state_violation"
  | .batchDeleted .. => "expired_events_deleted"
  | .nothingExpired .. => "no_expired_events"
  | .cleaning .. => "cleaning_expired_events"
  | .cleaned .. => "expired_events_cleaned"

def fields (elapsed : Value) : Notice → List (String × Value)
  | .eventCreated jobKey reason eventKey =>
      [("job_key", textField jobKey), ("reason", textField reason),
        ("event_key", textField eventKey)]
  | .eventUpdated id count => [("event_id", .int id), ("event_count", .int count)]
  | .updateViolation id affected => [("event_id", .int id), ("affected_rows", .int affected)]
  | .batchDeleted target batch deleted =>
      [("max_target_id", .int target), ("batch", .int batch), ("deleted", .int deleted)]
  | .nothingExpired ttl => [("ttl_seconds", .real ttl.totalSeconds)]
  | .cleaning records target batches =>
      [("expired_records", .int records), ("max_target_id", .int target),
        ("batches", .int batches)]
  | .cleaned deleted batches =>
      [("deleted_count", .int deleted), ("batches", .int batches), ("duration_seconds", elapsed)]

def call (elapsed : Value) (notice : Notice) : Log.Call where
  severity := notice.severity
  message := notice.name
  fields := (notice.fields elapsed).map fun (name, value) => (.text name, value)

end Notice

structure Measured where
  timestamp : String
  elapsed : Value

structure Logger where
  setup : Log.Setup
  measured : Measured

namespace Logger

def emit (logger : Logger) (notice : Notice) : Except Log.CallFault (Option Log.Line) :=
  logger.setup.emit (.untraced logger.measured.timestamp) (notice.call logger.measured.elapsed)

def lines (logger : Logger) (notices : List Notice) : List Log.Line :=
  notices.filterMap fun notice => (logger.emit notice).toOption.join

end Logger

end EventRetention
