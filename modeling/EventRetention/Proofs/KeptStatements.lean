import EventRetention.Proofs.StatementEffects

/-!
Statements that are carried out and kept: which rows they put in, take out and
set, and which reports are due for them. A statement never fails with a state
violation; that is what an update makes of its row count.
-/

namespace EventRetention

def Statement.reads : Statement → Bool
  | .select .. | .selectSeries .. | .expiry .. => true
  | _ => false

def Failure.violation? : Failure → Option (Int × Int)
  | .stateViolation id affected => some (id, affected)
  | _ => none

def Ordinary (x : Except Failure α) : Prop := ∀ cause, x = .error cause → cause.violation? = none

namespace Ordinary

theorem ok (value : α) : Ordinary (.ok value) := fun _ fails => nomatch fails

theorem error (cause : Failure) (other : cause.violation? = none) :
    Ordinary (.error cause : Except Failure α) := by
  intro same fails
  cases fails
  exact other

theorem bind (x : Except Failure α) (next : α → Except Failure β) (first : Ordinary x)
    (rest : ∀ value, Ordinary (next value)) : Ordinary (x >>= next) := by
  cases x with
  | error cause => exact .error cause (first cause rfl)
  | ok value => exact rest value

theorem map (f : α → β) (x : Except Failure α) (ordinary : Ordinary x) : Ordinary (x.map f) := by
  cases x with
  | error cause => exact .error cause (ordinary cause rfl)
  | ok value => exact .ok (f value)

end Ordinary

namespace Clock

theorem normalise_ordinary (reading : Reading) : Ordinary (normalise reading) := by
  unfold normalise
  split
  · exact .ok _
  · exact .error _ rfl

end Clock

namespace Table

theorem lost_self (t : Table) : t.lost t = [] := t.lost_eq_nil t fun _ same => same

theorem required_ordinary (column : Column) (field : Option α) : Ordinary (required column field) := by
  cases field with
  | none => exact .error _ rfl
  | some value => exact .ok value

theorem event_ordinary (t : Table) (d : Draft) : Ordinary (t.event d) := by
  unfold event
  repeat
    refine .bind _ _ (required_ordinary _ _) fun _ => ?_
  exact .ok _

theorem place_ordinary (t : Table) (e : Event) : Ordinary (t.place e) := by
  unfold place
  split
  · split
    · exact .ok _
    · exact .error _ rfl
  · exact .error _ rfl

theorem insert_ordinary (t : Table) (d : Draft) : Ordinary (t.insert d) := by
  unfold insert
  cases fits d with
  | false => exact .error .integerNotStorable rfl
  | true => exact .bind _ _ (t.event_ordinary d) t.place_ordinary

theorem update_ordinary (t : Table) (id : Int) (time : Instant) (message : Option String)
    (count : Int) : Ordinary (t.update id time message count) := by
  by_cases inside : Storable id ∧ Storable count
  · rw [t.update_eq id time message count inside.1 inside.2]
    split
    · cases message with
      | none => exact .error _ rfl
      | some text => exact .ok _
    · exact .ok _
  · rw [t.update_unstorable id time message count inside]
    exact .error _ rfl

theorem deleteBatch_ordinary (t : Table) (target batch : Int) :
    Ordinary (t.deleteBatch target batch) := by
  by_cases inside : Storable target ∧ Storable batch
  · rw [t.deleteBatch_eq target batch inside.1 inside.2]
    exact .ok _
  · rw [t.deleteBatch_unstorable target batch inside]
    exact .error _ rfl

theorem run_ordinary (t : Table) (statement : Statement) : Ordinary (t.run statement) := by
  cases statement with
  | select _ _ | selectSeries _ _ _ | expiry _ => exact .ok _
  | insert draft => exact .bind _ _ (t.insert_ordinary draft) fun _ => .ok _
  | update id time message count =>
      exact .bind _ _ (t.update_ordinary id time message count) fun _ => .ok _
  | delete target batch => exact .bind _ _ (t.deleteBatch_ordinary target batch) fun _ => .ok _

/-- An identifier is there at most once, so an update sets one row. -/
theorem revise_single (t : Table) (id : Int) (time : Instant) (text : String) (count : Int)
    (present : id ∈ t.ids) :
    ∃ e, (t.revise id time text count).rows.filter (·.id == id) = [e] ∧ e.id = id ∧
      e.eventCount = count := by
  have single : ((t.revise id time text count).rows.filter (·.id == id)).length = 1 := by
    rw [← List.countP_eq_length_filter, countP_id, revise_ids, if_pos present]
  obtain ⟨e, only⟩ := List.length_eq_one_iff.mp single
  have member : e ∈ (t.revise id time text count).rows.filter (·.id == id) := by
    rw [only]
    exact List.mem_singleton_self e
  obtain ⟨inside, own⟩ := List.mem_filter.mp member
  refine ⟨e, only, eq_of_beq own, ?_⟩
  obtain ⟨r, -, rfl⟩ := List.mem_map.mp inside
  by_cases same : r.id = id
  · rw [if_pos same]
    rfl
  · simp [same] at own

/-! What the statements of each kind do when they succeed. -/

theorem run_insert (t after : Table) (draft : Draft) (reply : Reply String)
    (ran : t.run (.insert draft) = .ok (after, reply)) :
    ∃ e fresh fits, after = t.add e fresh fits ∧ t.event draft = .ok e := by
  simp only [run, bind, Except.bind, pure, Except.pure] at ran
  cases made : t.insert draft with
  | error cause => simp [made] at ran
  | ok next =>
      simp only [made, Except.ok.injEq, Prod.mk.injEq] at ran
      obtain ⟨rfl, -⟩ := ran
      exact t.insert_adds next draft made

theorem run_update (t after : Table) (id : Int) (time : Instant) (message : Option String)
    (count : Int) (reply : Reply String)
    (ran : t.run (.update id time message count) = .ok (after, reply)) :
    (id ∈ t.ids ∧ reply.affected = 1 ∧ ∃ text, after = t.revise id time text count) ∨
      (id ∉ t.ids ∧ reply.affected = 0 ∧ after = t) := by
  by_cases inside : Storable id ∧ Storable count
  · simp only [run, bind, Except.bind, pure, Except.pure,
      t.update_eq id time message count inside.1 inside.2] at ran
    by_cases present : id ∈ t.ids
    · cases message with
      | none => simp [present, required, Except.map] at ran
      | some text =>
          simp only [present, ↓reduceIte, required, Except.map, Except.ok.injEq, Prod.mk.injEq] at ran
          obtain ⟨rfl, rfl⟩ := ran
          exact Or.inl ⟨present, rfl, text, rfl⟩
    · simp only [present, ↓reduceIte, Except.ok.injEq, Prod.mk.injEq] at ran
      obtain ⟨rfl, rfl⟩ := ran
      exact Or.inr ⟨present, rfl, rfl⟩
  · simp [run, bind, Except.bind, t.update_unstorable id time message count inside] at ran

theorem run_delete (t after : Table) (target batch : Int) (reply : Reply String)
    (ran : t.run (.delete target batch) = .ok (after, reply)) :
    after = t.dropFirst (t.taken target batch) ∧ reply.affected = t.taken target batch := by
  by_cases inside : Storable target ∧ Storable batch
  · simp only [run, bind, Except.bind, pure, Except.pure,
      t.deleteBatch_eq target batch inside.1 inside.2, Except.ok.injEq, Prod.mk.injEq] at ran
    obtain ⟨rfl, rfl⟩ := ran
    exact ⟨rfl, rfl⟩
  · simp [run, bind, Except.bind, t.deleteBatch_unstorable target batch inside] at ran

end Table

namespace Database

theorem table_ordinary (db : Database) : Ordinary db.table := by
  rcases db with _ | _ | t
  · exact .error _ rfl
  · exact .error _ rfl
  · exact .ok t

theorem run_ordinary (db : Database) (statement : Statement) : Ordinary (db.run statement) :=
  .bind _ _ db.table_ordinary fun t => .bind _ _ (t.run_ordinary statement) fun _ => .ok _

theorem run_kept (db after : Database) (statement : Statement) (reply : Reply String)
    (ran : db.run statement = .ok (after, reply)) :
    ∃ t next, db = .opened (some t) ∧ after = .opened (some next) ∧
      t.run statement = .ok (next, reply) := by
  rcases db with _ | _ | t
  · cases ran
  · cases ran
  · simp only [run, table, bind, Except.bind, pure, Except.pure] at ran
    cases made : t.run statement with
    | error cause => simp [made] at ran
    | ok result =>
        simp only [made, Except.ok.injEq, Prod.mk.injEq] at ran
        obtain ⟨rfl, rfl⟩ := ran
        exact ⟨t, result.1, rfl, rfl, made⟩

end Database

/-! What a log should tell: the statements that were kept, and the rows that they
put in, took out or changed. -/

/-- A statement that was carried out and kept: it led from one table to another. -/
structure Commit where
  statement : Statement
  before : Table
  after : Table
  reply : Reply String
  ran : before.run statement = .ok (after, reply)

namespace Commit

def inserted (c : Commit) : List Event := c.after.lost c.before

def removed (c : Commit) : List Event := c.before.lost c.after

def modified (c : Commit) : List Event :=
  match c.statement with
  | .update id .. => c.after.rows.filter (·.id == id)
  | _ => []

def notices (c : Commit) : List Notice :=
  c.inserted.map (fun e => .eventCreated (some e.jobKey) (some e.reason) (some e.eventKey)) ++
    c.modified.map (fun e => .eventUpdated e.id e.eventCount) ++
    match c.statement with
    | .delete target batch => [.batchDeleted target batch c.removed.length]
    | _ => []

end Commit

inductive Leads : Database → List Commit → Database → Prop where
  | nothing (db : Database) : Leads db [] db
  | kept (c : Commit) (commits : List Commit) (last : Database)
      (rest : Leads (.opened (some c.after)) commits last) :
      Leads (.opened (some c.before)) (c :: commits) last

theorem Leads.append {first middle last : Database} {early late : List Commit}
    (before : Leads first early middle) (after : Leads middle late last) :
    Leads first (early ++ late) last := by
  induction before with
  | nothing db => exact after
  | kept c commits next rest ih => exact .kept c _ _ (ih after)

namespace Commit

theorem removed_eq_nil (c : Commit)
    (other : ∀ target batch, c.statement ≠ .delete target batch) : c.removed = [] := by
  obtain ⟨statement, before, after, reply, ran⟩ := c
  cases statement with
  | select _ _ | selectSeries _ _ _ | expiry _ =>
      cases ran
      exact before.lost_self
  | insert draft =>
      obtain ⟨e, fresh, fits, rfl, -⟩ := before.run_insert after draft reply ran
      apply before.lost_eq_nil
      intro id inside
      obtain ⟨r, member, rfl⟩ := List.mem_map.mp inside
      exact List.mem_map_of_mem (Table.mem_insertRow.mpr (Or.inr member))
  | update id time message count =>
      rcases before.run_update after id time message count reply ran with
        ⟨-, -, text, rfl⟩ | ⟨-, -, rfl⟩
      · exact before.lost_eq_nil _ fun other inside => by rwa [Table.revise_ids]
      · exact after.lost_self
  | delete target batch => exact absurd rfl (other target batch)

/-- A row that is neither removed nor modified stays as it was. -/
theorem untouched (c : Commit) (e : Event) (old : e ∈ c.before.rows) :
    e ∈ c.after.rows ∨ e ∈ c.removed ∨ e.id ∈ c.modified.map (·.id) := by
  obtain ⟨statement, before, after, reply, ran⟩ := c
  cases statement with
  | select _ _ | selectSeries _ _ _ | expiry _ =>
      cases ran
      exact Or.inl old
  | insert draft =>
      obtain ⟨new, fresh, fits, rfl, -⟩ := before.run_insert after draft reply ran
      exact Or.inl (Table.mem_insertRow.mpr (Or.inr old))
  | update id time message count =>
      rcases before.run_update after id time message count reply ran with
        ⟨-, -, text, rfl⟩ | ⟨-, -, rfl⟩
      · have changed := List.mem_map_of_mem (f := fun e =>
          if e.id = id then Table.repeated e time text count else e) old
        by_cases same : e.id = id
        · rw [if_pos same] at changed
          exact Or.inr (Or.inr (List.mem_map.mpr
            ⟨_, List.mem_filter.mpr ⟨changed, by simp [Table.repeated, same]⟩, rfl⟩))
        · rw [if_neg same] at changed
          exact Or.inl changed
      · exact Or.inl old
  | delete target batch =>
      by_cases there : e.id ∈ after.ids
      · obtain ⟨rfl, -⟩ := before.run_delete after target batch reply ran
        obtain ⟨r, left, same⟩ := List.mem_map.mp there
        have inside := List.mem_of_mem_drop left
        exact Or.inl (before.id_unique r e inside old same ▸ left)
      · exact Or.inr (Or.inl ((before.mem_lost after e).mpr ⟨old, there⟩))

theorem notices_reads (statement : Statement) (t after : Table) (reply : Reply String)
    (reads : statement.reads = true) (ran : t.run statement = .ok (after, reply)) :
    notices ⟨statement, t, after, reply, ran⟩ = [] := by
  cases statement with
  | select _ _ | selectSeries _ _ _ | expiry _ =>
      cases ran
      simp [notices, inserted, modified, t.lost_self]
  | _ => cases reads

theorem notices_insert (t after : Table) (draft : Draft) (reply : Reply String)
    (ran : t.run (.insert draft) = .ok (after, reply)) :
    notices ⟨.insert draft, t, after, reply, ran⟩ =
      [.eventCreated draft.jobKey draft.reason draft.eventKey] := by
  obtain ⟨e, fresh, fits, rfl, made⟩ := t.run_insert after draft reply ran
  obtain ⟨-, -, -, job, why, -, -, -, key⟩ := t.event_fields draft e made
  simp [notices, inserted, modified, t.lost_add e fresh fits, job, why, key]

/-- An update that counted one row: one that counted none is not kept. -/
theorem notices_update (t after : Table) (id : Int) (time : Instant) (message : Option String)
    (count : Int) (reply : Reply String) (one : reply.affected = 1)
    (ran : t.run (.update id time message count) = .ok (after, reply)) :
    notices ⟨.update id time message count, t, after, reply, ran⟩ = [.eventUpdated id count] := by
  rcases t.run_update after id time message count reply ran with
    ⟨present, -, text, rfl⟩ | ⟨-, none, -⟩
  · obtain ⟨e, only, own, counted⟩ := t.revise_single id time text count present
    have none : (t.revise id time text count).lost t = [] :=
      Table.lost_eq_nil _ _ fun other inside => by rwa [Table.revise_ids] at inside
    simp [notices, inserted, modified, none, only, own, counted]
  · rw [none] at one
    cases one

theorem notices_delete (t after : Table) (target batch : Int) (reply : Reply String)
    (ran : t.run (.delete target batch) = .ok (after, reply)) :
    notices ⟨.delete target batch, t, after, reply, ran⟩ =
      [.batchDeleted target batch reply.affected] := by
  obtain ⟨rfl, count⟩ := t.run_delete after target batch reply ran
  have none : (t.dropFirst (t.taken target batch)).lost t = [] := by
    apply Table.lost_eq_nil
    intro id inside
    obtain ⟨e, member, rfl⟩ := List.mem_map.mp inside
    exact List.mem_map_of_mem (List.mem_of_mem_drop member)
  simp [notices, inserted, modified, removed, none, t.lost_dropFirst, t.length_take_taken, count]

end Commit

end EventRetention
