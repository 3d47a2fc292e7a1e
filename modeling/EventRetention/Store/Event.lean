import EventRetention.Time.Instant

/-!
Events as the table stores them, and the columns of the table.
-/

namespace EventRetention

inductive Column where
  | id
  | createTime
  | updateTime
  | jobKey
  | reason
  | eventType
  | message
  | eventCount
  | eventKey
deriving DecidableEq, Repr

namespace Column

def name : Column → String
  | .id => "id"
  | .createTime => "create_time"
  | .updateTime => "update_time"
  | .jobKey => "job_key"
  | .reason => "reason"
  | .eventType => "event_type"
  | .message => "message"
  | .eventCount => "event_count"
  | .eventKey => "event_key"

def all : List Column :=
  [.id, .createTime, .updateTime, .jobKey, .reason, .eventType, .message, .eventCount, .eventKey]

end Column

def tableName : String := "t_flink_autoscaler_event_handler"

structure Index where
  name : String
  columns : List Column
deriving DecidableEq, Repr

def indexes : List Index :=
  [⟨"ix_autoscaler_events_create_time", [.createTime]⟩,
    ⟨"ix_autoscaler_events_series", [.jobKey, .reason, .eventKey, .id]⟩]

/-- One recorded occurrence of an event, folded over its repetitions. What the
    text columns hold is a parameter: they are passed through as they are. -/
structure EventOf (τ : Type) where
  id : Int
  createTime : Instant
  updateTime : Instant
  jobKey : τ
  reason : τ
  eventType : τ
  message : τ
  eventCount : Int
  eventKey : τ
deriving DecidableEq

abbrev Event := EventOf String

namespace Event

def concerns (e : Event) (jobKey reason : Option String) : Bool :=
  some e.jobKey == jobKey && some e.reason == reason

def inSeries (e : Event) (jobKey reason eventKey : Option String) : Bool :=
  e.concerns jobKey reason && some e.eventKey == eventKey

end Event

inductive EventType where
  | normal
  | warning
deriving DecidableEq, Repr

namespace EventType

def label : EventType → String
  | .normal => "Normal"
  | .warning => "Warning"

def ofName? : String → Option EventType
  | "NORMAL" => some .normal
  | "WARNING" => some .warning
  | _ => none

end EventType

end EventRetention
