import EventRetention.Store.Table
import EventRetention.Value.JsonReader
import EventRetention.Value.JsonWriter

/-!
Database files. A database without the event table is an empty file; one with
it is a JSON document with the table's name and its rows, each an array in the
order of the columns. A file that holds anything else is no database.
-/

namespace EventRetention.Archive

def row (e : Event) : Value :=
  .list [.int e.id, .text e.createTime.wallText, .text e.updateTime.wallText, .text e.jobKey,
    .text e.reason, .text e.eventType, .text e.message, .int e.eventCount, .text e.eventKey]

def event? : Value → Option Event
  | .list [.int id, .text createTime, .text updateTime, .text jobKey, .text reason,
      .text eventType, .text message, .int eventCount, .text eventKey] => do
      let createTime := (← Reading.ofText? createTime).wall
      let updateTime := (← Reading.ofText? updateTime).wall
      return { id, createTime, updateTime, jobKey, reason, eventType, message, eventCount, eventKey }
  | _ => none

def write : Option Table → String
  | none => ""
  | some t =>
      Json.write (.map [(.text "table", .text tableName), (.text "rows", .list (t.rows.map row))])

def table? (rows : List Value) : Option Table := do
  let events ← rows.mapM event?
  (events.foldlM Table.place Table.empty).toOption

def read? (text : String) : Option (Option Table) :=
  if text.isEmpty then some none
  else match Json.read text with
    | .ok (.map [(.text "table", .text name), (.text "rows", .list rows)]) =>
        if name = tableName then (table? rows).map some else none
    | _ => none

end EventRetention.Archive
