import EventRetention.Settings.Scalar
import EventRetention.Time.Duration

/-!
The settings: three sections of two fields each. A check of a document reports
every bad field, in the order of the fields; unknown keys do not matter.
-/

namespace EventRetention

def maxTtlSeconds : Nat := 86399999913600

structure DatabaseSettings where
  url : String := "sqlite:///./state/autoscaler_events.db"
  echo : Bool := false
deriving DecidableEq, Repr

structure RetentionSettings where
  ttlSeconds : Nat := 7776000
  batchSize : Nat := 4096
  ttlInRange : 0 < ttlSeconds ∧ ttlSeconds ≤ maxTtlSeconds := by decide
  batchPositive : 0 < batchSize := by decide
deriving DecidableEq

inductive LogLevel where
  | debug
  | info
  | warning
  | error
deriving DecidableEq, Repr

structure LoggingSettings where
  level : LogLevel := .info
  jsonOutput : Bool := false
deriving DecidableEq, Repr

structure Settings where
  database : DatabaseSettings := {}
  retention : RetentionSettings := {}
  logging : LoggingSettings := {}
deriving DecidableEq

namespace RetentionSettings

def ttl (s : RetentionSettings) : Duration := .ofSeconds s.ttlSeconds

end RetentionSettings

namespace LogLevel

def name : LogLevel → String
  | debug => "DEBUG"
  | info => "INFO"
  | warning => "WARNING"
  | error => "ERROR"

def ofName? : String → Option LogLevel
  | "DEBUG" => some debug
  | "INFO" => some info
  | "WARNING" => some warning
  | "ERROR" => some error
  | _ => none

def ofValue : Value → Except Settings.Problem LogLevel
  | .text s =>
      match ofName? (Text.upper s) with
      | some level => .ok level
      | none => .error .unknownLevel
  | _ => .error .unknownLevel

end LogLevel

namespace Settings

abbrev Checked (α : Type) := Except (List Complaint) α

namespace Checked

def both (first : Checked α) (second : Checked β) : Checked (α × β) :=
  match first, second with
  | .ok a, .ok b => .ok (a, b)
  | .ok _, .error later => .error later
  | .error early, .ok _ => .error early
  | .error early, .error later => .error (early ++ later)

end Checked

def field (place : List String) (name : String) (default : α) (read : Value → Except Problem α)
    (entries : Entries) : Checked α :=
  match entries.field? name with
  | none => .ok default
  | some value => (read value).mapError fun problem => [⟨place ++ [name], problem⟩]

def checkSection (name title : String) (default : α) (check : List String → Entries → Checked α)
    (entries : Entries) : Checked α :=
  match entries.field? name with
  | none => .ok default
  | some (.map inner) => check [name] inner
  | some _ => .error [⟨[name], .sectionKind title⟩]

end Settings

open Settings in
def DatabaseSettings.check (place : List String) (entries : Entries) : Checked DatabaseSettings :=
  (Checked.both (field place "url" ({} : DatabaseSettings).url text entries)
    (field place "echo" false boolean entries)).map fun (url, echo) => { url, echo }

open Settings in
def RetentionSettings.check (place : List String) (entries : Entries) : Checked RetentionSettings :=
  let default : RetentionSettings := {}
  (Checked.both
    (field place "ttl_seconds" ⟨default.ttlSeconds, default.ttlInRange⟩
      (positiveUpTo maxTtlSeconds) entries)
    (field place "batch_size" ⟨default.batchSize, default.batchPositive⟩ positive entries)).map
      fun (ttl, batch) =>
        { ttlSeconds := ttl.val, batchSize := batch.val, ttlInRange := ttl.property
          batchPositive := batch.property }

open Settings in
def LoggingSettings.check (place : List String) (entries : Entries) : Checked LoggingSettings :=
  (Checked.both (field place "level" .info LogLevel.ofValue entries)
    (field place "json_output" false boolean entries)).map
      fun (level, jsonOutput) => { level, jsonOutput }

namespace Settings

def check (entries : Entries) : Checked Settings :=
  (Checked.both (checkSection "database" "DatabaseSettings" {} DatabaseSettings.check entries)
    (Checked.both
      (checkSection "retention" "RetentionSettings" {} RetentionSettings.check entries)
      (checkSection "logging" "LoggingSettings" {} LoggingSettings.check entries))).map
        fun (database, retention, logging) => { database, retention, logging }

def assign (_ : Settings) (fieldName : String) (_ : Value) : Except Complaint Settings :=
  .error ⟨[fieldName], .frozen⟩

end Settings

end EventRetention
