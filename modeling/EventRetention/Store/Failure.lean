import EventRetention.Number.Numeral
import EventRetention.Store.Event

/-!
Why an operation on clocks, events or the table fails, and the wording of each
cause.
-/

namespace EventRetention

inductive Failure where
  | instantOutOfRange
  /-- A span of too many days, after normalisation. -/
  | spanOutOfRange (days : Int)
  | negativeAdvance (span : Duration)
  /-- A clock that only shows what it was given. -/
  | clockNotAdvanceable
  | databaseClosed
  | tableMissing
  | tableFull
  | fileNotOpenable
  | fileNotDatabase
  | nullColumn (column : Column)
  | duplicateId
  | integerNotStorable
  | stateViolation (eventId affected : Int)
  | batchNotPositive (batch : Int)
  | ttlNotPositive (ttl : Duration)
  | batchSizeNotPositive (batchSize : Int)
  /-- A batch count beyond the largest finite binary64 number. -/
  | batchCountOverflow
  /-- A result row without a field, or with a null time. -/
  | missingField (column : Column)
  | unreadableNumeral (fault : Numeral.Fault)
  | raised (text : String)
deriving DecidableEq

namespace Failure

def qualified (column : Column) : String := tableName ++ "." ++ column.name

def message : Failure → String
  | .instantOutOfRange => "date value out of range"
  | .spanOutOfRange days => "days=" ++ toString days ++ "; must have magnitude <= 999999999"
  | .negativeAdvance d => "Cannot advance time by negative amount: " ++ d.text
  | .clockNotAdvanceable => "clock cannot be advanced"
  | .databaseClosed => "Database not initialized"
  | .tableMissing => "no such table: " ++ tableName
  | .tableFull => "database or disk is full"
  | .fileNotOpenable => "unable to open database file"
  | .fileNotDatabase => "file is not a database"
  | .nullColumn column => "NOT NULL constraint failed: " ++ qualified column
  | .duplicateId => "UNIQUE constraint failed: " ++ qualified .id
  | .integerNotStorable => "Python int too large to convert to SQLite INTEGER"
  | .stateViolation id affected =>
      "Update event id=[" ++ toString id ++ "] fails: expected exactly 1 affected row, got " ++
        toString affected
  | .batchNotPositive n => "batch must be positive, got " ++ toString n
  | .ttlNotPositive d => "ttl must be positive, got " ++ d.text
  | .batchSizeNotPositive n => "batch_size must be positive, got " ++ toString n
  | .batchCountOverflow => "integer division result too large for a float"
  | .missingField column => column.name
  | .unreadableNumeral fault => fault.message
  | .raised text => text

def databaseClass? : Failure → Option String
  | .tableMissing | .tableFull | .fileNotOpenable => some "OperationalError"
  | .fileNotDatabase => some "DatabaseError"
  | .nullColumn _ | .duplicateId => some "IntegrityError"
  | _ => none

end Failure

end EventRetention
