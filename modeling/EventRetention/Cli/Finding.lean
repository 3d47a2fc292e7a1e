import EventRetention.Cli.Invocation
import EventRetention.Store.Session

/-!
What commands find out, and carrying them out on an open database. A dry run
asks only how much is expired; a purge hands its time to live and its batch
size to a cleaner.
-/

namespace EventRetention

inductive Finding where
  | tableReady
  | latest (found : Option Event)
  | events (found : List Event)
  | nothingExpired (ttl : Duration)
  | wouldDelete (records : Int) (target : Option Int) (ttl : Duration)
  | purged (records deleted : Int) (batches : Nat)

namespace Finding

def ofExpiry (ttl : Duration) : Option Expiry → Finding
  | none => .nothingExpired ttl
  | some expiry =>
      if expiry.records = 0 then .nothingExpired ttl
      else .wouldDelete expiry.records expiry.maxId ttl

def ofCleanResult (ttl : Duration) (result : CleanResult) : Finding :=
  if result.records = 0 then .nothingExpired ttl
  else .purged result.records result.deleted result.batches

def exitCode : Finding → Nat
  | .latest none => 1
  | _ => 0

end Finding

def Purge.perform (dryRun : Bool) (retention : RetentionSettings) (clock : Clock)
    (db : Database) : Outcome Finding × Database :=
  if dryRun then
    ((Operation.expired clock retention.ttl).perform Database.run db).map
      (·.map (Finding.ofExpiry retention.ttl)) id
  else
    (clean Database.run clock retention.ttl retention.batchSize db).map
      (·.map (Finding.ofCleanResult retention.ttl)) id

namespace Command

def perform (command : Command) (settings : RetentionSettings) (clock : Clock) (db : Database) :
    Outcome Finding × Database :=
  match command with
  | .init =>
      match db.createTable with
      | .ok db => ({ answer := .ok .tableReady }, db)
      | .error cause => ({ answer := .error cause }, db)
  | .events jobKey reason (some eventKey) =>
      ((Operation.latest (some jobKey) (some reason) (some eventKey)).perform Database.run db).map
        (·.map .latest) id
  | .events jobKey reason none =>
      ((Operation.events (some jobKey) (some reason)).perform Database.run db).map
        (·.map fun found => .events (Operation.byId found)) id
  | .purge options => Purge.perform options.dryRun (options.retention settings) clock db

end Command

end EventRetention
