import EventRetention.Store.Record
import EventRetention.Store.Table

/-!
Statements and the database that runs them. A statement reads or changes the
event table and answers with result rows, one summary row or a row count; a
failing statement changes nothing.
-/

namespace EventRetention

inductive Statement where
  | select (jobKey reason : Option String)
  | selectSeries (jobKey reason eventKey : Option String)
  | insert (draft : Draft)
  | update (id : Int) (time : Instant) (message : Option String) (count : Int)
  | expiry (cutoff : Instant)
  | delete (target batch : Int)

/-- What a statement answers: result rows, the row of an aggregate, and how
    many rows it changed (-1 when it does not count them). -/
structure Reply (τ : Type) where
  rows : List (Record τ) := []
  summary : Option ExpiryRecord := none
  affected : Int := -1

inductive Database where
  | closed
  | opened (table : Option Table)

namespace Table

def run (t : Table) : Statement → Except Failure (Table × Reply String)
  | .select jobKey reason =>
      .ok (t, { rows := (t.rows.filter (·.concerns jobKey reason)).map Record.ofEvent })
  | .selectSeries jobKey reason eventKey =>
      .ok (t, { rows := (t.rows.filter (·.inSeries jobKey reason eventKey)).map Record.ofEvent })
  | .insert draft => do return (← t.insert draft, { affected := 1 })
  | .update id time message count => do
      let (t, n) ← t.update id time message count
      return (t, { affected := n })
  | .expiry cutoff =>
      let (n, maxId) := t.expiry cutoff
      .ok (t, { summary := some ⟨some (.int n), some (maxId.map .int)⟩ })
  | .delete target batch => do
      let (t, n) ← t.deleteBatch target batch
      return (t, { affected := n })

end Table

namespace Database

def table (db : Database) : Except Failure Table :=
  match db with
  | .closed => .error .databaseClosed
  | .opened none => .error .tableMissing
  | .opened (some t) => .ok t

def run (db : Database) (s : Statement) : Except Failure (Database × Reply String) := do
  let (t, reply) ← (← db.table).run s
  return (.opened (some t), reply)

def createTable : Database → Except Failure Database
  | .closed => .error .databaseClosed
  | .opened t => .ok (.opened (some (t.getD .empty)))

/-- Inserts rows, deletes identifiers and then aborts if asked to, all in one
    transaction: any error leaves the table as it was. -/
def transaction (db : Database) (drafts : List Draft) (ids : List Int)
    (abort : Option String) : Except Failure Database := do
  if drafts.isEmpty && ids.isEmpty then
    if let .closed := db then throw .databaseClosed
    if let some text := abort then throw (.raised text)
    return db
  let t ← drafts.foldlM Table.insert (← db.table)
  let t ← t.deleteIds ids
  if let some text := abort then throw (.raised text)
  return .opened (some t)

end Database

end EventRetention
