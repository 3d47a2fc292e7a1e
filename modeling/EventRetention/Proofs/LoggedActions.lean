import EventRetention.Log.Journal
import EventRetention.Proofs.EventFields

/-!
Logged actions do what the actions do, and write the lines of what these report:
shown for a single operation, and carried over whatever is made of operations.
-/

namespace EventRetention

open Log (Line Setup)

theorem Notice.unrepeated (notice : Notice) (elapsed : Value) :
    (notice.call elapsed).repeatedParameter? = none := by
  cases notice <;> rfl

theorem Log.Processor.showTrace_none (asked shown level : String) (event : Entries) :
    showTrace asked shown (fun _ => none) level event = .ok (event.erase (.text asked)) := by
  unfold showTrace
  cases event.field? asked <;> rfl

namespace Logger

variable (logger : Logger)

def event (notice : Notice) : Entries :=
  ((((logger.setup.event (notice.call logger.measured.elapsed)).complete logger.setup.context).insert
    (.text "level") (.text (Log.severityName notice.severity))).insert
    (.text "timestamp") (.text logger.measured.timestamp)).erase (.text "stack_info")

def line (notice : Notice) : Line := ⟨notice.severity, Log.attachRecord (logger.event notice) true⟩

theorem process_report (notice : Notice) :
    Log.process (Log.severityName notice.severity)
      (Log.shared logger.setup.context (.untraced logger.measured.timestamp) [])
      (logger.setup.event (notice.call logger.measured.elapsed)) = .ok (logger.event notice) := by
  simp only [Log.process, Log.shared, Log.Moment.untraced, Log.Processor.showTrace_none,
    Log.Processor.fillMessage]
  rfl

/-- No level stops a report: its call has no arguments to be filled in. -/
theorem emit_line (notice : Notice) : logger.emit notice =
    .ok (if logger.setup.admits notice.severity then some (logger.line notice) else none) := by
  change logger.setup.structured _ (notice.call logger.measured.elapsed) = _
  rw [Setup.structured, Notice.unrepeated]
  change (Log.process (Log.severityName notice.severity) (Log.shared _ _ []) _ >>= _) = _
  rw [process_report]
  rfl

theorem lines_map (notices : List Notice) : logger.lines notices =
    (notices.filter fun notice => logger.setup.admits notice.severity).map logger.line := by
  unfold lines
  rw [← List.filterMap_eq_map, List.filterMap_filter]
  refine List.filterMap_congr fun notice _ => ?_
  rw [emit_line]
  cases logger.setup.admits notice.severity <;> rfl

theorem lines_none : logger.lines [] = [] := rfl

theorem lines_append (front back : List Notice) :
    logger.lines (front ++ back) = logger.lines front ++ logger.lines back := List.filterMap_append

end Logger

namespace Logged

variable {σ τ α β : Type}

def result (logged : Logged σ α) (journal : Journal σ) : Except Interruption α × Journal σ :=
  logged.run.run journal

/-- A computation with log lines does what one with reports does: it answers and
    leaves the same, and writes the lines of the reports. -/
def Follows (logger : Logger) (logged : Logged σ α) (plain : σ → Outcome α × σ) : Prop :=
  ∀ journal, logged.result journal =
    ((plain journal.store).1.answer.mapError .failure,
      { store := (plain journal.store).2,
        lines := journal.lines ++ logger.lines (plain journal.store).1.notices })

theorem result_bind (logged : Logged σ α) (next : α → Logged σ β) (journal : Journal σ) :
    (logged >>= next).result journal =
      match logged.result journal with
      | (.ok value, after) => (next value).result after
      | (.error stop, after) => (.error stop, after) := by
  simp only [result, ExceptT.run_bind, StateT.run_bind]
  rcases logged.run.run journal with ⟨_ | _, _⟩ <;> rfl

theorem result_tryCatch (body : Logged σ α) (handle : Interruption → Logged σ α)
    (journal : Journal σ) :
    (tryCatch body handle).result journal =
      match body.result journal with
      | (.ok value, after) => (.ok value, after)
      | (.error stop, after) => (handle stop).result after := by
  simp only [result, ExceptT.run_tryCatch, StateT.run_bind]
  rcases body.run.run journal with ⟨_ | _, _⟩ <;> rfl

theorem result_pure (value : α) (journal : Journal σ) :
    (pure value : Logged σ α).result journal = (.ok value, journal) := rfl

theorem result_throw (stop : Interruption) (journal : Journal σ) :
    (throw stop : Logged σ α).result journal = (.error stop, journal) := rfl

theorem result_attempt (answer : Except Failure α) (journal : Journal σ) :
    (attempt answer).result journal =
      match answer with
      | .ok value => (.ok value, journal)
      | .error cause => (.error (.failure cause), journal) := by
  cases answer <;> rfl

theorem result_query (execute : Executor σ τ) (statement : Statement) (journal : Journal σ) :
    (query execute statement).result journal =
      match execute journal.store statement with
      | .ok (after, reply) => (.ok reply, { journal with store := after })
      | .error cause => (.error (.failure cause), journal) := by
  change (attempt (execute journal.store statement) >>= _).result journal = _
  rw [result_bind, result_attempt]
  rcases execute journal.store statement with cause | ⟨after, reply⟩ <;> rfl

theorem result_transaction (body : Logged σ α) (journal : Journal σ) :
    (transaction body).result journal =
      match body.result journal with
      | (.ok value, after) => (.ok value, after)
      | (.error stop, after) => (.error stop, { after with store := journal.store }) := by
  change (tryCatch body _).result journal = _
  rw [result_tryCatch]
  rfl

theorem result_note (logger : Logger) (notice : Notice) (journal : Journal σ) :
    (note logger notice).result journal =
      (.ok (), { journal with lines := journal.lines ++ logger.lines [notice] }) := by
  simp only [note, Logger.lines_map, Logger.emit_line]
  change (_, _) = _
  cases admitted : logger.setup.admits notice.severity <;> simp [admitted]

theorem result_notes (logger : Logger) (notices : List Notice) (journal : Journal σ) :
    (notices.forM (note logger)).result journal =
      (.ok (), { journal with lines := journal.lines ++ logger.lines notices }) := by
  induction notices generalizing journal with
  | nil =>
      change (Except.ok (), journal) = _
      rw [Logger.lines_none, List.append_nil]
  | cons first rest ih =>
      change (note logger first >>= fun _ => rest.forM (note logger)).result journal = _
      rw [result_bind, result_note]
      simp only [ih, List.append_assoc, ← Logger.lines_append, List.singleton_append]

/-! Computations that follow. -/

variable {logger : Logger}

def chain (first : σ → Outcome α × σ) (next : α → σ → Outcome β × σ) (s : σ) : Outcome β × σ :=
  let (outcome, s) := first s
  match outcome.answer with
  | .error cause => ({ answer := .error cause, notices := outcome.notices }, s)
  | .ok value =>
      let (rest, s) := next value s
      ({ rest with notices := outcome.notices ++ rest.notices }, s)

theorem follows_attempt (answer : Except Failure α) :
    Follows logger (attempt answer : Logged σ α) fun s => ({ answer }, s) := by
  intro journal
  rw [result_attempt, Logger.lines_none, List.append_nil]
  cases answer <;> rfl

theorem follows_note (notice : Notice) :
    Follows logger (note logger notice : Logged σ Unit) fun s =>
      ({ answer := .ok (), notices := [notice] }, s) :=
  fun journal => result_note logger notice journal

theorem follows_chain (logged : Logged σ α) (next : α → Logged σ β) (first : σ → Outcome α × σ)
    (second : α → σ → Outcome β × σ) (start : Follows logger logged first)
    (rest : ∀ value, Follows logger (next value) (second value)) :
    Follows logger (logged >>= next) (chain first second) := by
  intro journal
  rw [result_bind, start journal]
  unfold chain
  rcases first journal.store with ⟨⟨cause | value, notices⟩, s⟩
  · rfl
  · change (next value).result _ = _
    simp only [rest value _, Logger.lines_append, List.append_assoc]

theorem follows_map (f : α → β) (logged : Logged σ α) (plain : σ → Outcome α × σ)
    (start : Follows logger logged plain) :
    Follows logger (do return f (← logged)) fun s => (plain s).map (·.map f) id := by
  intro journal
  rw [result_bind, start journal]
  dsimp only
  rcases plain journal.store with ⟨⟨cause | value, notices⟩, s⟩ <;> rfl

end Logged

open Logged

variable {σ τ α : Type}

theorem Operation.logged_follows (execute : Executor σ τ) (logger : Logger)
    (op : Operation τ α) : Follows logger (op.logged execute logger) (op.perform execute) := by
  intro journal
  unfold logged perform
  rw [result_bind, result_attempt]
  cases op.statement with
  | error cause =>
      rw [Logger.lines_none, List.append_nil]
      rfl
  | ok statement =>
      dsimp only
      -- A statement that is refused leaves nothing for the transaction to undo.
      rw [result_bind, result_transaction, result_bind, result_query]
      rcases ran : execute journal.store statement with cause | ⟨after, reply⟩
      · rw [Logger.lines_none, List.append_nil]
        rfl
      · cases done : (op.conclude reply).answer with
        | ok value =>
            simp only [done, result_pure, result_bind, result_notes, result_attempt]
            rfl
        | error cause =>
            simp only [done, result_throw, result_bind, result_notes]
            rfl

namespace Cycle

theorem run_query (store : RetentionStore σ) (ttl : Duration) (resume : Option Expiry → Cycle) :
    (query ttl resume).run store = chain (store.query ttl) fun expiry => (resume expiry).run store := by
  funext s
  unfold run chain
  rcases store.query ttl s with ⟨⟨_ | _, _⟩, _⟩ <;> rfl

theorem run_delete (store : RetentionStore σ) (target batch : Int) (resume : Int → Cycle) :
    (delete target batch resume).run store =
      chain (store.delete target batch) fun deleted => (resume deleted).run store := by
  funext s
  unfold run chain
  rcases store.delete target batch s with ⟨⟨_ | _, _⟩, _⟩ <;> rfl

theorem logged_follows (execute : Executor σ τ) (clock : Clock) (logger : Logger) (cycle : Cycle) :
    Follows logger (cycle.logged execute clock logger) (cycle.run (.ofExecutor execute clock)) := by
  induction cycle with
  | finished answer => exact follows_attempt answer
  | report notice rest ih =>
      exact follows_chain _ _ _ _ (follows_note notice) fun _ => ih
  | query ttl resume ih =>
      rw [run_query]
      exact follows_chain _ _ _ _ ((Operation.expired clock ttl).logged_follows execute logger) ih
  | delete target batch resume ih =>
      rw [run_delete]
      exact follows_chain _ _ _ _ ((Operation.delete target batch).logged_follows execute logger) ih

end Cycle

theorem clean_follows (execute : Executor σ τ) (clock : Clock) (logger : Logger) (ttl : Duration)
    (batchSize : Int) :
    Follows logger (cleanLogged execute clock logger ttl batchSize)
      (clean execute clock ttl batchSize) := by
  unfold cleanLogged clean
  cases Cleaner.make ttl batchSize with
  | error cause => exact follows_attempt (.error cause)
  | ok cleaner => exact cleaner.cycle.logged_follows execute clock logger

theorem fold_chain (execute : Executor σ τ) (clock : Clock) (o : Fold.Occurrence) :
    fold execute clock o = chain ((Fold.lookup o).perform execute) fun latest =>
      (Fold.write clock o latest).perform execute := by
  funext s
  unfold fold chain
  rcases (Fold.lookup o).perform execute s with ⟨⟨_ | _, _⟩, _⟩ <;> rfl

theorem fold_follows (execute : Executor σ τ) (clock : Clock) (logger : Logger)
    (o : Fold.Occurrence) :
    Follows logger (foldLogged execute clock logger o) (fold execute clock o) := by
  rw [fold_chain]
  exact follows_chain _ _ _ _ ((Fold.lookup o).logged_follows execute logger) fun latest =>
    (Fold.write clock o latest).logged_follows execute logger

theorem StoreAction.logged_follows (execute : Executor σ τ) (clock : Clock) (logger : Logger)
    (action : StoreAction) :
    Follows logger (action.logged execute clock logger) (action.perform execute clock) := by
  cases action with
  | clean ttl batchSize => exact follows_map _ _ _ (clean_follows execute clock logger ttl batchSize)
  | fold o => exact follows_map _ _ _ (fold_follows execute clock logger o)
  | _ => exact follows_map _ _ _ (Operation.logged_follows execute logger _)

namespace Session

/-- A stage is the step with the lines of its reports. -/
theorem stage_step (logger : Logger) (s : Session) (step : Step) :
    s.stage logger step =
      ⟨(s.step step).1.answer.mapError .failure, logger.lines (s.step step).1.notices,
        (s.step step).2⟩ := by
  obtain ⟨who, action⟩ := step
  cases action with
  | store action =>
      have follows := action.logged_follows Database.run (s.clockOf who) logger ⟨s.database, []⟩
      unfold result at follows
      simp only [stage, follows, Session.step, List.nil_append]
  | clock action =>
      simp only [stage, Session.step]
      cases action.perform (s.clockOf who) <;> rfl
  | database action =>
      simp only [stage, Session.step]
      cases action.perform s.database <;> rfl

end Session

end EventRetention
