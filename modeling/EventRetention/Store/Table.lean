import EventRetention.Store.Failure
import EventRetention.Time.Reading

/-!
The event table: its rows in ascending order of their identifiers, and the
effect of each statement on them. A new identifier is one more than the
largest; a bounded delete takes the lowest identifiers first.
-/

namespace EventRetention

def Storable (n : Int) : Prop := -9223372036854775808 ≤ n ∧ n ≤ 9223372036854775807

instance (n : Int) : Decidable (Storable n) :=
  inferInstanceAs (Decidable (_ ∧ _))

structure Table where
  rows : List Event
  ascending : rows.Pairwise fun a b => a.id < b.id
  storable : ∀ e ∈ rows, Storable e.id

/-- A row to insert. An absent identifier is assigned by the table; any other
    absent field is null. Times are stored as the wall clock shows them. -/
structure Draft where
  id : Option Int := none
  createTime : Option Reading := none
  updateTime : Option Reading := none
  jobKey : Option String := none
  reason : Option String := none
  eventType : Option String := none
  message : Option String := none
  eventCount : Option Int := none
  eventKey : Option String := none

namespace Table

def empty : Table := ⟨[], .nil, by simp⟩

def insertRow (e : Event) : List Event → List Event
  | [] => [e]
  | r :: rest => if e.id < r.id then e :: r :: rest else r :: insertRow e rest

theorem mem_insertRow {e x : Event} {rows : List Event} :
    x ∈ insertRow e rows ↔ x = e ∨ x ∈ rows := by
  induction rows with
  | nil => simp [insertRow]
  | cons r rest ih =>
      by_cases h : e.id < r.id
      · simp [insertRow, h]
      · simp only [insertRow, h, if_false, List.mem_cons, ih]
        exact or_left_comm

theorem insertRow_ascending {e : Event} {rows : List Event}
    (ascending : rows.Pairwise fun a b => a.id < b.id) (fresh : ∀ r ∈ rows, r.id ≠ e.id) :
    (insertRow e rows).Pairwise fun a b => a.id < b.id := by
  induction rows with
  | nil => simp [insertRow]
  | cons r rest ih =>
      obtain ⟨above, tail⟩ := List.pairwise_cons.1 ascending
      by_cases h : e.id < r.id
      · simp only [insertRow, h, if_true]
        refine List.pairwise_cons.2 ⟨fun x member => ?_, ascending⟩
        rcases List.mem_cons.1 member with rfl | member
        · exact h
        · exact Int.lt_trans h (above x member)
      · simp only [insertRow, h, if_false]
        refine List.pairwise_cons.2
          ⟨fun x member => ?_, ih tail fun x member => fresh x (List.mem_cons_of_mem r member)⟩
        rcases mem_insertRow.1 member with rfl | member
        · have := fresh r List.mem_cons_self
          omega
        · exact above x member

def add (t : Table) (e : Event) (fresh : ∀ r ∈ t.rows, r.id ≠ e.id) (fits : Storable e.id) :
    Table where
  rows := insertRow e t.rows
  ascending := insertRow_ascending t.ascending fresh
  storable := fun x member => by
    rcases mem_insertRow.1 member with rfl | member
    · exact fits
    · exact t.storable x member

def firstFree (candidate : Int) : List Event → Int
  | [] => candidate
  | r :: rest =>
      if r.id = candidate then firstFree (candidate + 1) rest
      else if r.id < candidate then firstFree candidate rest
      else candidate

/-- The identifier of the next row: one more than the largest, 1 in an empty
    table, and a free one when the largest cannot be exceeded. -/
def nextId (t : Table) : Int :=
  match t.rows.getLast? with
  | none => 1
  | some e => if e.id < 9223372036854775807 then e.id + 1 else firstFree 1 t.rows

def place (t : Table) (e : Event) : Except Failure Table :=
  if fits : Storable e.id then
    if fresh : ∀ r ∈ t.rows, r.id ≠ e.id then .ok (t.add e fresh fits)
    else .error .duplicateId
  else .error .tableFull

def required (column : Column) : Option α → Except Failure α
  | some value => .ok value
  | none => .error (.nullColumn column)

/-- The event of a draft; the first null field in table order is an error. -/
def event (t : Table) (d : Draft) : Except Failure Event := do
  let createTime ← required .createTime d.createTime
  let updateTime ← required .updateTime d.updateTime
  let jobKey ← required .jobKey d.jobKey
  let reason ← required .reason d.reason
  let eventType ← required .eventType d.eventType
  let message ← required .message d.message
  let eventCount ← required .eventCount d.eventCount
  let eventKey ← required .eventKey d.eventKey
  return {
    id := d.id.getD t.nextId, createTime := createTime.wall, updateTime := updateTime.wall
    jobKey, reason, eventType, message, eventCount, eventKey }

def fits (d : Draft) : Bool :=
  d.id.all (fun n => decide (Storable n)) && d.eventCount.all fun n => decide (Storable n)

def insert (t : Table) (d : Draft) : Except Failure Table := do
  if !fits d then throw .integerNotStorable
  t.place (← t.event d)

def mapRows (t : Table) (f : Event → Event) (keeps : ∀ e, (f e).id = e.id) : Table where
  rows := t.rows.map f
  ascending := by
    rw [List.pairwise_map]
    exact t.ascending.imp fun h => by simpa [keeps] using h
  storable := by
    intro e member
    obtain ⟨x, inside, rfl⟩ := List.mem_map.1 member
    simpa [keeps] using t.storable x inside

def keep (t : Table) (test : Event → Bool) : Table where
  rows := t.rows.filter test
  ascending := t.ascending.filter test
  storable := fun e member => t.storable e (List.mem_filter.1 member).1

def repeated (e : Event) (time : Instant) (message : String) (count : Int) : Event :=
  { e with updateTime := time, message, eventCount := count }

/-- Changes the row with an identifier, and says how many rows that were. A
    null message is an error only when there is such a row. -/
def update (t : Table) (id : Int) (time : Instant) (message : Option String) (count : Int) :
    Except Failure (Table × Nat) := do
  if !(decide (Storable id) && decide (Storable count)) then throw .integerNotStorable
  match t.rows.countP (·.id == id) with
  | 0 => return (t, 0)
  | n =>
      let text ← required .message message
      return (t.mapRows (fun e => if e.id = id then repeated e time text count else e)
        (fun e => by split <;> rfl), n)

def boundary? (t : Table) (cutoff : Instant) : Option Int :=
  (t.rows.find? fun e => cutoff ≤ e.createTime).map (·.id)

def expired (t : Table) (cutoff : Instant) : List Event :=
  t.rows.filter fun e =>
    decide (e.createTime < cutoff) && (t.boundary? cutoff).all fun b => decide (e.id < b)

def expiry (t : Table) (cutoff : Instant) : Nat × Option Int :=
  let old := t.expired cutoff
  (old.length, (old.map (·.id)).max?)

/-- The rows that a bounded delete takes: the lowest identifiers up to a
    target, as many as the batch allows. -/
def eligible (t : Table) (target : Int) (batch : Nat) : List Event :=
  (t.rows.filter fun e => decide (e.id ≤ target)).take batch

def deleteBatch (t : Table) (target : Int) (batch : Int) : Except Failure (Table × Nat) := do
  if !(decide (Storable target) && decide (Storable batch)) then throw .integerNotStorable
  let gone := t.eligible target batch.toNat
  return (t.keep fun e => !gone.contains e, gone.length)

def deleteIds (t : Table) (ids : List Int) : Except Failure Table :=
  if ids.all fun n => decide (Storable n) then .ok (t.keep fun e => !ids.contains e.id)
  else .error .integerNotStorable

def totalCount (t : Table) : Int := t.rows.foldr (fun e total => e.eventCount + total) 0

end Table

end EventRetention
