import EventRetention.Clock

/-!
Result rows as a database hands them out, and loading them as events. Every
field may be missing; the identifier and the count may come as numbers or as
text. Loading reads the fields in table order and stops at the first fault.
-/

namespace EventRetention

structure Record (τ : Type) where
  id : Option Numeral
  createTime : Option (Option Reading)
  updateTime : Option (Option Reading)
  jobKey : Option τ
  reason : Option τ
  eventType : Option τ
  message : Option τ
  eventCount : Option Numeral
  eventKey : Option τ

namespace Record

def present (column : Column) : Option α → Except Failure α
  | some value => .ok value
  | none => .error (.missingField column)

def integer (column : Column) (field : Option Numeral) : Except Failure Int := do
  let numeral ← present column field
  numeral.toInt.mapError .unreadableNumeral

def instant (column : Column) (field : Option (Option Reading)) : Except Failure Instant := do
  let reading ← present column field
  Clock.normalise (← present column reading)

def load (r : Record τ) : Except Failure (EventOf τ) := do
  let id ← integer .id r.id
  let createTime ← instant .createTime r.createTime
  let updateTime ← instant .updateTime r.updateTime
  let jobKey ← present .jobKey r.jobKey
  let reason ← present .reason r.reason
  let eventType ← present .eventType r.eventType
  let message ← present .message r.message
  let eventCount ← integer .eventCount r.eventCount
  let eventKey ← present .eventKey r.eventKey
  return { id, createTime, updateTime, jobKey, reason, eventType, message, eventCount, eventKey }

/-- The row that the database hands out for a stored event: stored times come
    back without an offset. -/
def ofEvent (e : EventOf τ) : Record τ where
  id := some (.int e.id)
  createTime := some (some (Reading.ofInstant e.createTime).naive)
  updateTime := some (some (Reading.ofInstant e.updateTime).naive)
  jobKey := some e.jobKey
  reason := some e.reason
  eventType := some e.eventType
  message := some e.message
  eventCount := some (.int e.eventCount)
  eventKey := some e.eventKey

end Record

structure ExpiryRecord where
  records : Option Numeral
  maxId : Option (Option Numeral)

structure Expiry where
  records : Int
  maxId : Option Int
deriving DecidableEq, Repr

def ExpiryRecord.load (r : ExpiryRecord) : Except Failure Expiry := do
  let records ← Record.integer .id r.records
  match ← Record.present .id r.maxId with
  | none => return ⟨records, none⟩
  | some numeral => return ⟨records, some (← Record.integer .id (some numeral))⟩

end EventRetention
