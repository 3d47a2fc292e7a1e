import EventRetention.Proofs.FailedSteps
import EventRetention.Proofs.KeptStatements
import EventRetention.Proofs.LoggedActions

/-!
Actions accounted for by the statements that they keep. What an action reports
as a success is what is due for these statements, one after the other, and it
reports a violation just if it answers with one: shown for single operations,
and carried over folds and cleaning cycles. An action that fails reports no
success.
-/

namespace EventRetention

namespace Notice

def isSuccess : Notice → Bool
  | .eventCreated .. | .eventUpdated .. | .batchDeleted .. => true
  | _ => false

def violation? : Notice → Option (Int × Int)
  | .updateViolation id affected => some (id, affected)
  | _ => none

end Notice

namespace Outcome

def violations (o : Outcome α) : List (Int × Int) :=
  match o.answer with
  | .error cause => cause.violation?.toList
  | .ok _ => []

theorem succeeded_map (f : α → β) (o : Outcome α) : (o.map f).succeeded = o.succeeded := by
  rcases o with ⟨_ | _, _⟩ <;> rfl

theorem violations_map (f : α → β) (o : Outcome α) : (o.map f).violations = o.violations := by
  rcases o with ⟨_ | _, _⟩ <;> rfl

end Outcome

/-! Operations. -/

namespace Operation

/-- An operation that reports what its statement did: on success the reports that
    are due for it, and otherwise no success, but a violation where it is one. -/
structure Honest (op : Operation String α) : Prop where
  stated : Ordinary op.statement
  concluded (statement : Statement) (t after : Table) (reply : Reply String)
    (states : op.statement = .ok statement) (ran : t.run statement = .ok (after, reply)) :
    (op.conclude reply).notices.filter Notice.isSuccess =
        (if (op.conclude reply).succeeded then Commit.notices ⟨statement, t, after, reply, ran⟩ else []) ∧
      (op.conclude reply).notices.filterMap Notice.violation? = (op.conclude reply).violations

theorem query_honest (op : Operation String α) (statement : Statement)
    (states : op.statement = .ok statement) (reads : statement.reads = true)
    (silent : ∀ reply, (op.conclude reply).notices = [])
    (answers : ∀ (t after : Table) reply, t.run statement = .ok (after, reply) →
      ∃ value, (op.conclude reply).answer = .ok value) : Honest op where
  stated := by
    rw [states]
    exact .ok statement
  concluded stated t after reply same ran := by
    cases states.symm.trans same
    obtain ⟨value, answer⟩ := answers t after reply ran
    have due := Commit.notices_reads statement t after reply reads ran
    simp only [silent, due, Outcome.violations, answer, List.filter_nil, List.filterMap_nil, ite_self,
      and_self]

theorem latest_honest (jobKey reason eventKey : Option String) :
    Honest (latest jobKey reason eventKey) := by
  refine query_honest _ _ rfl rfl (fun _ => rfl) fun t after reply ran => ?_
  cases ran
  simp only [latest, Record.load_all, Except.map]
  exact ⟨_, rfl⟩

theorem events_honest (jobKey reason : Option String) : Honest (events jobKey reason) := by
  refine query_honest _ _ rfl rfl (fun _ => rfl) fun t after reply ran => ?_
  cases ran
  exact ⟨_, Record.load_all _⟩

theorem expired_honest (clock : Clock) (ttl : Duration) : Honest (expired clock ttl) := by
  refine query_honest _ _ rfl rfl (fun _ => rfl) fun t after reply ran => ?_
  cases ran
  unfold expired
  cases ((t.expired (clock.cutoff ttl)).map (·.id)).max? <;> exact ⟨_, rfl⟩

theorem create_honest (clock : Clock) (jobKey reason eventType message eventKey : Option String)
    (createTime : Option Reading) :
    Honest (create clock jobKey reason eventType message eventKey createTime) where
  stated := .bind _ _ (Clock.normalise_ordinary _) fun _ => .ok _
  concluded statement t after reply states ran := by
    cases read : Clock.normalise (createTime.getD clock.now) with
    | error cause => simp [create, read, bind, Except.bind] at states
    | ok time =>
        simp only [create, read, bind, Except.bind, pure, Except.pure, Except.ok.injEq] at states
        cases states
        have due := Commit.notices_insert t after _ reply ran
        exact ⟨due.symm, rfl⟩

theorem update_honest (clock : Clock) (id : Int) (message : Option String) (count : Int) :
    Honest (update clock id message count) where
  stated := .bind _ _ (Clock.normalise_ordinary _) fun _ => .ok _
  concluded statement t after reply states ran := by
    cases read : clock.instant with
    | error cause => simp [update, read, bind, Except.bind] at states
    | ok time =>
        simp only [update, read, bind, Except.bind, pure, Except.pure, Except.ok.injEq] at states
        cases states
        rcases t.run_update after id time message count reply ran with
          ⟨-, one, -⟩ | ⟨-, none, -⟩
        · have due := Commit.notices_update t after id time message count reply one ran
          simp only [update, one, ↓reduceIte]
          exact ⟨due.symm, rfl⟩
        · simp only [update, none]
          exact ⟨rfl, rfl⟩

theorem delete_honest (target batch : Int) : Honest (delete target batch) where
  stated := by
    unfold delete
    dsimp only
    split
    · exact .error _ rfl
    · exact .ok _
  concluded statement t after reply states ran := by
    by_cases stopped : batch ≤ 0
    · simp [delete, stopped] at states
    · simp only [delete, stopped, ↓reduceIte, Except.ok.injEq] at states
      cases states
      have due := Commit.notices_delete t after target batch reply ran
      exact ⟨due.symm, rfl⟩

end Operation

namespace Fold

theorem answering_honest (value : β) (op : Operation String α) (honest : op.Honest) :
    (answering value op).Honest where
  stated := honest.stated
  concluded statement t after reply states ran := by
    have same := honest.concluded statement t after reply states ran
    rwa [← Outcome.succeeded_map fun _ => value, ← Outcome.violations_map fun _ => value] at same

theorem write_honest (clock : Clock) (o : Occurrence) (latest : Option (EventOf String)) :
    (write clock o latest).Honest := by
  cases latest with
  | none => exact answering_honest _ _ (Operation.create_honest ..)
  | some e => exact answering_honest _ _ (Operation.update_honest ..)

end Fold

/-! Computations on the database. -/

/-- Between two databases an outcome is accounted for by kept statements that lead
    from one to the other: it reports the successes that are due for them, and
    a violation just if it is one. -/
structure Accounted (db : Database) (outcome : Outcome α) (commits : List Commit)
    (after : Database) : Prop where
  leads : Leads db commits after
  successes : outcome.notices.filter Notice.isSuccess = commits.flatMap Commit.notices
  violations : outcome.notices.filterMap Notice.violation? = outcome.violations

theorem accounted_failure (cause : Failure) (other : cause.violation? = none) (db : Database) :
    Accounted db ({ answer := .error cause } : Outcome α) [] db where
  leads := .nothing db
  successes := rfl
  violations := by simp [Outcome.violations, other]

def Audited (plain : Database → Outcome α × Database)
    (noted : Database × List Commit → Outcome α × (Database × List Commit)) : Prop :=
  ∀ db past, ∃ commits, noted (db, past) = ((plain db).1, ((plain db).2, past ++ commits)) ∧
    Accounted db (plain db).1 commits (plain db).2

def recording : Executor (Database × List Commit) String := fun (db, past) statement => do
  let before ← db.table
  match ran : before.run statement with
  | .error cause => .error cause
  | .ok (after, reply) =>
      .ok ((.opened (some after), past ++ [⟨statement, before, after, reply, ran⟩]), reply)

theorem recording_failed (db : Database) (past : List Commit) (statement : Statement)
    (cause : Failure) (fails : db.run statement = .error cause) :
    recording (db, past) statement = .error cause := by
  rcases db with _ | _ | t
  · cases fails
    rfl
  · cases fails
    rfl
  · simp only [Database.run, Database.table, recording, bind, Except.bind] at fails ⊢
    split
    · rename_i early ran
      rw [ran] at fails
      cases fails
      rfl
    · rename_i after reply ran
      rw [ran] at fails
      cases fails

theorem recording_kept (t next : Table) (past : List Commit) (statement : Statement)
    (reply : Reply String) (ran : t.run statement = .ok (next, reply)) :
    recording (.opened (some t), past) statement =
      .ok ((.opened (some next), past ++ [⟨statement, t, next, reply, ran⟩]), reply) := by
  simp only [recording, Database.table, bind, Except.bind]
  split
  · rename_i fails
    cases ran.symm.trans fails
  · rename_i same
    cases ran.symm.trans same
    rfl

/-- An operation keeps its one statement, or fails and keeps none. -/
theorem Operation.perform_accounted (op : Operation String α) (honest : op.Honest) (db : Database)
    (past : List Commit) :
    ∃ commits, op.perform recording (db, past) =
        ((op.perform Database.run db).1, ((op.perform Database.run db).2, past ++ commits)) ∧
      Accounted db (op.perform Database.run db).1 commits (op.perform Database.run db).2 ∧
      ((op.perform Database.run db).1.succeeded = false → commits = []) := by
  cases states : op.statement with
  | error cause =>
      have stopped := accounted_failure (α := α) cause (honest.stated cause states) db
      exact ⟨[], by simp [perform, states], by simpa [perform, states] using stopped, fun _ => rfl⟩
  | ok statement =>
      cases ran : db.run statement with
      | error cause =>
          have stopped := accounted_failure (α := α) cause (db.run_ordinary statement cause ran) db
          refine ⟨[], ?_, by simpa [perform, states, ran] using stopped, fun _ => rfl⟩
          simp [perform, states, ran, recording_failed db past statement cause ran]
      | ok made =>
          obtain ⟨after, reply⟩ := made
          obtain ⟨t, next, rfl, rfl, changed⟩ := db.run_kept after statement reply ran
          obtain ⟨successes, violations⟩ := honest.concluded statement t next reply states changed
          have noted := recording_kept t next past statement reply changed
          -- The statement was carried out; whether it is kept is up to the conclusion.
          cases answer : (op.conclude reply).answer with
          | error cause =>
              have failed : (op.conclude reply).succeeded = false := by
                simp [Outcome.succeeded, answer]
              rw [failed, if_neg Bool.false_ne_true] at successes
              simp only [perform, states, ran, noted, answer]
              exact ⟨[], by simp, ⟨.nothing _, successes, violations⟩, fun _ => rfl⟩
          | ok value =>
              have kept : (op.conclude reply).succeeded = true := by
                simp [Outcome.succeeded, answer]
              rw [kept, if_pos rfl] at successes
              simp only [perform, states, ran, noted, answer, kept]
              refine ⟨[⟨statement, t, next, reply, changed⟩], rfl, ⟨?_, ?_, violations⟩, fun failed => ?_⟩
              · exact .kept ⟨statement, t, next, reply, changed⟩ [] _ (.nothing _)
              · simpa using successes
              · cases failed

theorem Operation.perform_audited (op : Operation String α) (honest : op.Honest) :
    Audited (op.perform Database.run) (op.perform recording) := by
  intro db past
  obtain ⟨commits, same, accounted, -⟩ := op.perform_accounted honest db past
  exact ⟨commits, same, accounted⟩

/-- A failing operation reports no success. -/
theorem Operation.failed_silent (op : Operation String α) (honest : op.Honest) (db : Database)
    (fails : (op.perform Database.run db).1.succeeded = false) :
    (op.perform Database.run db).1.notices.filter Notice.isSuccess = [] := by
  obtain ⟨commits, -, accounted, none⟩ := op.perform_accounted honest db []
  rw [accounted.successes, none fails]
  rfl

namespace Audited

open Logged (chain)

theorem attempt (answer : Except Failure α) (ordinary : Ordinary answer) :
    Audited (fun db => ({ answer }, db)) fun noted => ({ answer }, noted) := by
  intro db past
  refine ⟨[], by simp, .nothing db, rfl, ?_⟩
  cases answer with
  | error cause => simp [Outcome.violations, ordinary cause rfl]
  | ok value => rfl

theorem chained (plain : Database → Outcome α × Database)
    (noted : Database × List Commit → Outcome α × (Database × List Commit))
    (next : α → Database → Outcome β × Database)
    (nextNoted : α → Database × List Commit → Outcome β × (Database × List Commit))
    (first : Audited plain noted) (rest : ∀ value, Audited (next value) (nextNoted value)) :
    Audited (chain plain next) (chain noted nextNoted) := by
  intro db past
  obtain ⟨early, same, start⟩ := first db past
  cases answer : (plain db).1.answer with
  | error cause =>
      refine ⟨early, ?_, ?_⟩
      · simp only [chain, same, answer]
      · have violations := start.violations
        simp only [Outcome.violations, answer] at violations
        simp only [chain, answer]
        exact ⟨start.leads, start.successes, violations⟩
  | ok value =>
      obtain ⟨late, same', finish⟩ := rest value (plain db).2 (past ++ early)
      -- The first part succeeded, so every violation is the second one's.
      have none := start.violations
      simp only [Outcome.violations, answer] at none
      refine ⟨early ++ late, ?_, ?_⟩
      · simp only [chain, same, answer, same', List.append_assoc]
      · simp only [chain, answer]
        refine ⟨start.leads.append finish.leads, ?_, ?_⟩
        · simp only [List.filter_append, List.flatMap_append, start.successes, finish.successes]
        · simp only [List.filterMap_append, none, List.nil_append, finish.violations]
          rfl

theorem mapped (f : α → β) (plain : Database → Outcome α × Database)
    (noted : Database × List Commit → Outcome α × (Database × List Commit))
    (audited : Audited plain noted) :
    Audited (fun db => (plain db).map (·.map f) id) fun db => (noted db).map (·.map f) id := by
  intro db past
  obtain ⟨commits, same, accounted⟩ := audited db past
  refine ⟨commits, by simp only [same, Prod.map, id], accounted.leads, accounted.successes, ?_⟩
  exact accounted.violations.trans (Outcome.violations_map f _).symm

theorem reported (notice : Notice) (quiet : notice.severity = .info)
    (plain : Database → Outcome α × Database)
    (noted : Database × List Commit → Outcome α × (Database × List Commit))
    (audited : Audited plain noted) :
    Audited
      (fun db => ({ (plain db).1 with notices := notice :: (plain db).1.notices }, (plain db).2))
      fun db => ({ (noted db).1 with notices := notice :: (noted db).1.notices }, (noted db).2) := by
  intro db past
  obtain ⟨commits, same, accounted⟩ := audited db past
  have other : notice.isSuccess = false ∧ notice.violation? = none := by
    cases notice with
    | nothingExpired ttl => exact ⟨rfl, rfl⟩
    | cleaning records target batches => exact ⟨rfl, rfl⟩
    | cleaned deleted batches => exact ⟨rfl, rfl⟩
    | _ => cases quiet
  refine ⟨commits, by simp only [same], accounted.leads, ?_, ?_⟩
  · simpa [other.1] using accounted.successes
  · simp only [List.filterMap_cons, other.2]
    exact accounted.violations

end Audited

namespace Cycle

/-- What a cycle reports by itself is of interest only, and where it fails by
    itself it is no state violation. -/
def Quiet : Cycle → Prop
  | .finished answer => Ordinary answer
  | .report notice rest => notice.severity = .info ∧ rest.Quiet
  | .query _ resume => ∀ expiry, (resume expiry).Quiet
  | .delete _ _ resume => ∀ deleted, (resume deleted).Quiet

theorem run_audited (clock : Clock) (cycle : Cycle) (quiet : cycle.Quiet) :
    Audited (cycle.run (.ofExecutor Database.run clock)) (cycle.run (.ofExecutor recording clock)) := by
  induction cycle with
  | finished answer => exact .attempt answer quiet
  | report notice rest ih => exact .reported notice quiet.1 _ _ (ih quiet.2)
  | query ttl resume ih =>
      rw [run_query, run_query]
      exact .chained _ _ _ _ (Operation.perform_audited _ (Operation.expired_honest clock ttl))
        fun expiry => ih expiry (quiet expiry)
  | delete target batch resume ih =>
      rw [run_delete, run_delete]
      exact .chained _ _ _ _ (Operation.perform_audited _ (Operation.delete_honest target batch))
        fun deleted => ih deleted (quiet deleted)

end Cycle

namespace Cleaner

theorem deletes_quiet (c : Cleaner) (records target : Int) (planned : Nat) (deleted : Int)
    (batches : Nat) : (c.deletes records target planned deleted batches).Quiet := by
  induction planned generalizing deleted batches with
  | zero => exact ⟨rfl, .ok _⟩
  | succ planned ih =>
      intro n
      dsimp only
      split
      · exact ⟨rfl, .ok _⟩
      · exact ih _ _

theorem cycle_quiet (c : Cleaner) : c.cycle.Quiet := by
  intro expiry
  unfold afterQuery
  split
  · split
    · exact ⟨rfl, .ok _⟩
    · split
      · exact .error _ rfl
      · exact ⟨rfl, c.deletes_quiet ..⟩
  · exact ⟨rfl, .ok _⟩

theorem make_ordinary (ttl : Duration) (batchSize : Int) : Ordinary (make ttl batchSize) := by
  unfold make
  split
  · exact .error _ rfl
  · split
    · exact .error _ rfl
    · exact .ok _

end Cleaner

theorem clean_audited (clock : Clock) (ttl : Duration) (batchSize : Int) :
    Audited (clean Database.run clock ttl batchSize) (clean recording clock ttl batchSize) := by
  unfold clean
  cases made : Cleaner.make ttl batchSize with
  | error cause => exact .attempt _ (.error cause (Cleaner.make_ordinary ttl batchSize cause made))
  | ok cleaner => exact cleaner.cycle.run_audited clock cleaner.cycle_quiet

theorem fold_audited (clock : Clock) (o : Fold.Occurrence) :
    Audited (fold Database.run clock o) (fold recording clock o) := by
  rw [fold_chain, fold_chain]
  exact .chained _ _ _ _ (Operation.perform_audited _ (Operation.latest_honest ..)) fun latest =>
    Operation.perform_audited _ (Fold.write_honest clock o latest)

namespace StoreAction

theorem perform_audited (clock : Clock) (action : StoreAction) :
    Audited (action.perform Database.run clock) (action.perform recording clock) := by
  have single {β : Type} (op : Operation String β) (f : β → Answer String) (honest : op.Honest) :
      Audited (fun db => (op.perform Database.run db).map (·.map f) id)
        fun noted => (op.perform recording noted).map (·.map f) id :=
    .mapped f _ _ (op.perform_audited honest)
  cases action with
  | create => exact single _ _ (Operation.create_honest ..)
  | latest => exact single _ _ (Operation.latest_honest ..)
  | events => exact single _ _ (Operation.events_honest ..)
  | update => exact single _ _ (Operation.update_honest ..)
  | delete => exact single _ _ (Operation.delete_honest ..)
  | expired => exact single _ _ (Operation.expired_honest ..)
  | clean ttl batchSize => exact .mapped _ _ _ (clean_audited clock ttl batchSize)
  | fold o => exact .mapped _ _ _ (fold_audited clock o)

end StoreAction

/-! Failing steps. -/

def Outcome.SilentFailure (o : Outcome α) : Prop :=
  o.succeeded = false → o.notices.filter Notice.isSuccess = []

theorem Outcome.SilentFailure.map (f : α → β) (o : Outcome α) (silent : o.SilentFailure) :
    (o.map f).SilentFailure := by
  intro fails
  exact silent (by rwa [succeeded_map] at fails)

namespace Cleaner

/-- A cycle cannot fail after a delete that succeeded: all its deletes have the
    same numbers. -/
theorem deletes_silent (c : Cleaner) (records target : Int) (clock : Clock)
    (positive : 0 < c.batchSize) (reach : Storable target) (planned : Nat) (t : Table) :
    ((c.deletes records target planned 0 0).run (.ofExecutor Table.run clock) t).1.SilentFailure := by
  intro fails
  by_cases fits : Storable c.batchSize
  · obtain ⟨answer, -⟩ := c.deletes_run records target clock positive fits reach planned 0 0 t
    simp [Outcome.succeeded, answer] at fails
  · -- The first delete is refused, before anything is removed.
    by_cases none : planned = 0
    · subst none
      simp [deletes, close, Cycle.run, Outcome.succeeded] at fails
    · obtain ⟨cause, refused⟩ := c.deletes_refused records target clock fits planned 0 0 t none
      rw [refused]
      rfl

theorem cycle_silent (c : Cleaner) (clock : Clock) (positive : 0 < c.batchSize) (t : Table) :
    (c.cycle.run (.ofExecutor Table.run clock) t).1.SilentFailure := by
  rw [c.cycle_query]
  intro fails
  cases read : (t.expiry (clock.cutoff c.ttl)).2 with
  | none =>
      rw [read] at fails
      cases fails
  | some target =>
      have present := t.expired_ne_nil (clock.cutoff c.ttl) target read
      have nonzero : ((t.expired (clock.cutoff c.ttl)).length : Int) ≠ 0 := by simpa using present
      simp only [read, afterQuery, nonzero, ↓reduceIte] at fails ⊢
      cases plan : plan? (t.expired (clock.cutoff c.ttl)).length c.batchSize with
      | none => rfl
      | some planned =>
          simp only [plan, Cycle.run] at fails ⊢
          exact c.deletes_silent _ target clock positive
            (t.target_storable (clock.cutoff c.ttl) target read) planned.toNat t fails

end Cleaner

theorem clean_silent (clock : Clock) (ttl : Duration) (batchSize : Int) (db : Database) :
    (clean Database.run clock ttl batchSize db).1.SilentFailure := by
  unfold clean
  cases made : Cleaner.make ttl batchSize with
  | error cause => exact fun _ => rfl
  | ok c =>
      rcases db with _ | _ | t
      · exact fun _ => rfl
      · exact fun _ => rfl
      · simp only [Cycle.run_opened]
        exact c.cycle_silent clock (make_positive ttl batchSize c made) t

theorem fold_silent (clock : Clock) (o : Fold.Occurrence) (db : Database) :
    (fold Database.run clock o db).1.SilentFailure := by
  rcases db with _ | _ | t
  · exact fun _ => rfl
  · exact fun _ => rfl
  · have write := Operation.failed_silent _ (Fold.write_honest clock o (Fold.found t o))
      (.opened (some t))
    rw [Operation.perform_opened] at write
    rw [fold_opened, Fold.fold_write]
    exact write

namespace StoreAction

theorem perform_silent (clock : Clock) (action : StoreAction) (db : Database) :
    (action.perform Database.run clock db).1.SilentFailure := by
  have single {β : Type} (op : Operation String β) (f : β → Answer String) (honest : op.Honest) :
      ((op.perform Database.run db).1.map f).SilentFailure :=
    .map f _ (op.failed_silent honest db)
  cases action with
  | create => exact single _ _ (Operation.create_honest ..)
  | latest => exact single _ _ (Operation.latest_honest ..)
  | events => exact single _ _ (Operation.events_honest ..)
  | update => exact single _ _ (Operation.update_honest ..)
  | delete => exact single _ _ (Operation.delete_honest ..)
  | expired => exact single _ _ (Operation.expired_honest ..)
  | clean ttl batchSize => exact .map _ _ (clean_silent clock ttl batchSize db)
  | fold o => exact .map _ _ (fold_silent clock o db)

end StoreAction

end EventRetention
