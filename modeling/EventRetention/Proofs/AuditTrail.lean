import EventRetention.Proofs.AuditedActions
import EventRetention.Proofs.LogTransparency

/-!
The log at the level of debugging is an audit trail: read line by line, it tells
which rows a session put in, took out and changed, and which steps ended in a
state violation.
-/

namespace EventRetention

open Log (Line Setup)

def Log.Line.int? (line : Line) (name : String) : Option Int :=
  match line.event.field? name with
  | some (.int n) => some n
  | _ => none

def successNames : List String := ["event_created", "event_updated", "expired_events_deleted"]

def Stage.violations (stage : Stage) : List (Int × Int) :=
  match stage.answer with
  | .error (.failure cause) => cause.violation?.toList
  | _ => []

/-- What some stages wrote to the log is what the kept statements did. -/
structure Faithful (history : List Commit) (stages : List Stage) : Prop where
  created : ((stages.flatMap Stage.lines).filter (·.message == "event_created")).length =
    (history.flatMap Commit.inserted).length
  deleted : ∃ counts : List Int,
    ((stages.flatMap Stage.lines).filter (·.message == "expired_events_deleted")).map
        (·.int? "deleted") = counts.map some ∧
      counts.sum = (history.flatMap Commit.removed).length
  updated : ((stages.flatMap Stage.lines).filter (·.message == "event_updated")).map
      (fun line => (line.int? "event_id", line.int? "event_count")) =
    (history.flatMap Commit.modified).map fun e => (some e.id, some e.eventCount)
  violations : ∀ stage ∈ stages,
    (stage.lines.filter (·.message == "event_update_state_violation")).map
        (fun line => (line.int? "event_id", line.int? "affected_rows")) =
      stage.violations.map fun (id, affected) => (some id, some affected)
  failed : ∀ stage ∈ stages, ∀ stop, stage.answer = .error stop → ∀ line ∈ stage.lines,
    line.message ∉ successNames
  rendered : ∀ stage ∈ stages, ∀ line ∈ stage.lines, ∀ moment, ∃ object : Entries,
    line.object? moment = some object ∧ object.field? "msg" = some (.text line.message)

namespace Faithful

theorem nothing : Faithful [] [] where
  created := rfl
  deleted := ⟨[], rfl, rfl⟩
  updated := rfl
  violations _ absent := nomatch absent
  failed _ absent := nomatch absent
  rendered _ absent := nomatch absent

theorem append (early late : List Commit) (stages later : List Stage)
    (before : Faithful early stages) (after : Faithful late later) :
    Faithful (early ++ late) (stages ++ later) where
  created := by
    simp only [List.flatMap_append, List.filter_append, List.length_append, before.created,
      after.created]
  deleted := by
    obtain ⟨counts, read, sum⟩ := before.deleted
    obtain ⟨counts', read', sum'⟩ := after.deleted
    refine ⟨counts ++ counts', ?_, ?_⟩
    · simp only [List.flatMap_append, List.filter_append, List.map_append, read, read']
    · simp only [List.flatMap_append, List.sum_append, List.length_append, sum, sum', Nat.cast_add]
  updated := by
    simp only [List.flatMap_append, List.filter_append, List.map_append, before.updated,
      after.updated]
  violations := List.forall_mem_append.mpr ⟨before.violations, after.violations⟩
  failed := List.forall_mem_append.mpr ⟨before.failed, after.failed⟩
  rendered := List.forall_mem_append.mpr ⟨before.rendered, after.rendered⟩

end Faithful

/-! Reports by their names. -/

namespace Notice

theorem isSuccess_iff (notice : Notice) :
    notice.isSuccess = true ↔ notice.name ∈ successNames := by
  cases notice <;> simp [isSuccess, name, successNames]

theorem filter_success (name : String) (notices : List Notice)
    (success : name ∈ successNames) :
    notices.filter (·.name == name) = (notices.filter isSuccess).filter (·.name == name) := by
  rw [List.filter_filter]
  apply List.filter_congr
  intro notice _
  by_cases same : notice.name = name
  · simp [same, notice.isSuccess_iff.mpr (same ▸ success)]
  · simp [same]

end Notice

theorem Notice.fields_once (notice : Notice) (elapsed : Value) :
    (notice.call elapsed).fields.keys.Nodup := by
  cases notice <;> simp [call, fields, Entries.keys]

namespace Logger

variable (logger : Logger)

/-- A line has the fields of its report. -/
theorem line_own (notice : Notice) (name : String) (value : Value)
    (own : name ∉ ["event", "level", "timestamp", "stack_info", "_record", "_from_structlog"])
    (held : (notice.call logger.measured.elapsed).fields.field? name = some value) :
    (logger.line notice).event.field? name = some value := by
  simp only [List.mem_cons, List.not_mem_nil, or_false, not_or, eq_comm (a := name)] at own
  unfold Entries.field? at held ⊢
  unfold line Log.attachRecord event Setup.event
  simp only [Entries.get?_insert, Entries.get?_erase, Entries.get?_complete, Value.text.injEq, own,
    Ne.symm own.2.2.2.1, if_false, Entries.get?_merge _ _ (notice.fields_once _), held, Option.some_or]

theorem event_name (notice : Notice) :
    (logger.event notice).field? "event" = some (.text notice.name) := by
  unfold Entries.field? event Setup.event
  simp only [Entries.get?_insert, Entries.get?_erase, Entries.get?_complete, Value.text.injEq]
  simp [Notice.call]

theorem line_message (notice : Notice) : (logger.line notice).message = notice.name := by
  have shown : (logger.line notice).event.field? "event" = some (.text notice.name) := by
    rw [← logger.event_name notice]
    simp [line, Log.attachRecord, Entries.field?, Entries.get?_insert]
  rw [Line.message, shown]
  rfl

theorem line_object (notice : Notice) (moment : Log.Moment) : ∃ object : Entries,
    (logger.line notice).object? moment = some object ∧
      object.field? "msg" = some (.text (logger.line notice).message) := by
  rw [line_message]
  exact Log.object?_attached notice.severity _ true moment _ (logger.event_name notice)

theorem lines_named (everything : logger.setup.level = Severity.debug.rank) (name : String)
    (notices : List Notice) :
    (logger.lines notices).filter (·.message == name) =
      (notices.filter (·.name == name)).map logger.line := by
  rw [logger.lines_debug everything, List.filter_map]
  simp only [Function.comp_def, line_message]

theorem mem_lines (everything : logger.setup.level = Severity.debug.rank) (notices : List Notice)
    (line : Line) (member : line ∈ logger.lines notices) :
    ∃ notice ∈ notices, logger.line notice = line := by
  rw [logger.lines_debug everything] at member
  exact List.mem_map.mp member

theorem int?_own (notice : Notice) (name : String) (n : Int)
    (own : name ∉ ["event", "level", "timestamp", "stack_info", "_record", "_from_structlog"])
    (held : (notice.call logger.measured.elapsed).fields.field? name = some (.int n)) :
    (logger.line notice).int? name = some n := by
  rw [Line.int?, logger.line_own notice name _ own held]

theorem int?_updated (id count : Int) :
    (logger.line (.eventUpdated id count)).int? "event_id" = some id ∧
      (logger.line (.eventUpdated id count)).int? "event_count" = some count :=
  ⟨logger.int?_own _ _ _ (by decide) rfl, logger.int?_own _ _ _ (by decide) rfl⟩

theorem int?_deleted (target batch deleted : Int) :
    (logger.line (.batchDeleted target batch deleted)).int? "deleted" = some deleted :=
  logger.int?_own _ _ _ (by decide) rfl

theorem int?_violation (id affected : Int) :
    (logger.line (.updateViolation id affected)).int? "event_id" = some id ∧
      (logger.line (.updateViolation id affected)).int? "affected_rows" = some affected :=
  ⟨logger.int?_own _ _ _ (by decide) rfl, logger.int?_own _ _ _ (by decide) rfl⟩

end Logger

namespace Commit

theorem named_created (c : Commit) :
    c.notices.filter (·.name == "event_created") =
      c.inserted.map fun e => .eventCreated (some e.jobKey) (some e.reason) (some e.eventKey) := by
  unfold notices
  rcases c.statement <;> simp [List.filter_map, Function.comp_def, Notice.name]

theorem named_updated (c : Commit) :
    c.notices.filter (·.name == "event_updated") =
      c.modified.map fun e => .eventUpdated e.id e.eventCount := by
  unfold notices
  rcases c.statement <;> simp [List.filter_map, Function.comp_def, Notice.name]

def deletions (c : Commit) : List Int :=
  match c.statement with
  | .delete .. => [c.removed.length]
  | _ => []

theorem named_deleted (c : Commit) (logger : Logger) :
    (c.notices.filter (·.name == "expired_events_deleted")).map
      (fun notice => (logger.line notice).int? "deleted") = c.deletions.map some := by
  unfold notices deletions
  rcases c.statement <;>
    simp [List.filter_map, Function.comp_def, Notice.name, logger.int?_deleted]

theorem deletions_sum (c : Commit) : c.deletions.sum = c.removed.length := by
  by_cases other : ∃ target batch, c.statement = .delete target batch
  · obtain ⟨target, batch, same⟩ := other
    simp [deletions, same]
  · have none := c.removed_eq_nil fun target batch same => other ⟨target, batch, same⟩
    unfold deletions
    split
    · rename_i same
      exact absurd ⟨_, _, same⟩ other
    · simp [none]

theorem deletions_total (commits : List Commit) :
    (commits.flatMap deletions).sum = (commits.flatMap removed).length := by
  induction commits with
  | nil => rfl
  | cons first rest ih =>
      rw [List.flatMap_cons, List.flatMap_cons, List.sum_append, List.length_append,
        first.deletions_sum, ih, Nat.cast_add]

end Commit

theorem violations_named (logger : Logger) (notices : List Notice) :
    (notices.filter (·.name == "event_update_state_violation")).map
        (fun notice => ((logger.line notice).int? "event_id",
          (logger.line notice).int? "affected_rows")) =
      (notices.filterMap Notice.violation?).map fun (id, affected) => (some id, some affected) := by
  induction notices with
  | nil => rfl
  | cons first rest ih =>
      rw [List.filter_cons, List.filterMap_cons]
      cases first with
      | updateViolation id affected =>
          obtain ⟨own, count⟩ := logger.int?_violation id affected
          refine Eq.trans ?_ (congrArg (List.cons (some id, some affected)) ih)
          rw [← own, ← count]
          rfl
      | _ => exact ih

namespace Accounted

variable (logger : Logger) (everything : logger.setup.level = Severity.debug.rank)
  (db after : Database) (outcome : Outcome (Answer String)) (commits : List Commit)
  (accounted : Accounted db outcome commits after)

include everything accounted

/-- The lines of a success are those that are due for the kept statements, in
    their order. -/
theorem lines_due (name : String) (success : name ∈ successNames) :
    (logger.lines outcome.notices).filter (·.message == name) =
      (commits.flatMap fun c => c.notices.filter (·.name == name)).map logger.line := by
  rw [logger.lines_named everything, Notice.filter_success name _ success, accounted.successes,
    List.filter_flatMap]

/-- What is read from the lines of a success is what each kept statement has due. -/
theorem lines_read (name : String) (success : name ∈ successNames) (read : Line → β)
    (due : Commit → List β)
    (own : ∀ c, (c.notices.filter (·.name == name)).map (fun notice => read (logger.line notice)) =
      due c) :
    ((logger.lines outcome.notices).filter (·.message == name)).map read = commits.flatMap due := by
  rw [lines_due logger everything db after outcome commits accounted name success, List.map_map,
    List.map_flatMap]
  exact List.flatMap_congr fun c _ => own c

/-- The lines of one stage, whose outcome is accounted for. -/
theorem faithful (silent : outcome.SilentFailure) (next : Session) :
    Faithful commits
      [⟨outcome.answer.mapError .failure, logger.lines outcome.notices, next⟩] where
  created := by
    rw [List.flatMap_singleton, lines_due logger everything db after outcome commits accounted _
      (by decide), List.length_map]
    simp only [Commit.named_created, List.length_flatMap, List.length_map]
  deleted := by
    refine ⟨commits.flatMap Commit.deletions, ?_, Commit.deletions_total commits⟩
    rw [List.flatMap_singleton, List.map_flatMap]
    exact lines_read logger everything db after outcome commits accounted _ (by decide) _ _
      fun c => c.named_deleted logger
  updated := by
    rw [List.flatMap_singleton, List.map_flatMap]
    refine lines_read logger everything db after outcome commits accounted _ (by decide) _ _
      fun c => ?_
    rw [c.named_updated, List.map_map]
    refine List.map_congr_left fun e _ => ?_
    obtain ⟨own, count⟩ := logger.int?_updated e.id e.eventCount
    exact Prod.ext own count
  violations := by
    rw [List.forall_mem_singleton, logger.lines_named everything, List.map_map]
    refine (violations_named logger outcome.notices).trans ?_
    rw [accounted.violations]
    unfold Outcome.violations Stage.violations
    cases outcome.answer <;> rfl
  failed := by
    rw [List.forall_mem_singleton]
    intro stop answer line member success
    have fails : outcome.succeeded = false := by
      cases shown : outcome.answer with
      | error cause => simp [Outcome.succeeded, shown]
      | ok value => simp [shown, Except.mapError] at answer
    obtain ⟨notice, made, rfl⟩ := logger.mem_lines everything outcome.notices line member
    rw [logger.line_message] at success
    -- A failing stage reports no success at all.
    have present : notice ∈ outcome.notices.filter Notice.isSuccess :=
      List.mem_filter.mpr ⟨made, notice.isSuccess_iff.mpr success⟩
    rw [silent fails] at present
    cases present
  rendered := by
    rw [List.forall_mem_singleton]
    intro line member
    obtain ⟨notice, -, rfl⟩ := logger.mem_lines everything outcome.notices line member
    exact logger.line_object notice

end Accounted

theorem ClockAction.perform_ordinary (clock : Clock) (action : ClockAction) :
    Ordinary (action.perform clock) := by
  cases action with
  | now => exact .ok clock
  | advance span =>
      cases clock with
      | settable time =>
          unfold perform Clock.advance
          dsimp only
          split
          · exact .error _ rfl
          · split
            · exact .ok _
            · exact .error _ rfl
      | fixed reading => exact .error _ rfl
  | set reading =>
      cases clock with
      | settable time => exact .map _ _ (Clock.normalise_ordinary reading)
      | fixed shown => exact .ok _

namespace Session

def commits (s : Session) (step : Step) : List Commit :=
  match step.action with
  | .store action => (action.perform recording (s.clockOf step.who) (s.database, [])).2.2
  | _ => []

def history (s : Session) : List Step → List Commit
  | [] => []
  | first :: rest => s.commits first ++ history (s.step first).2 rest

theorem step_accounted (s : Session) (step : Step) (client : step.action.isClient = true) :
    Accounted s.database (s.step step).1 (s.commits step) (s.step step).2.database ∧
      (s.step step).1.SilentFailure := by
  obtain ⟨who, action⟩ := step
  cases action with
  | database action => cases client
  | store action =>
      obtain ⟨commits, same, accounted⟩ :=
        action.perform_audited (s.clockOf who) s.database []
      have kept : s.commits ⟨who, .store action⟩ = commits := by
        simp only [Session.commits, same, List.nil_append]
      rw [kept]
      exact ⟨accounted, action.perform_silent (s.clockOf who) s.database⟩
  | clock action =>
      have ordinary := action.perform_ordinary (s.clockOf who)
      simp only [Session.step, Session.commits]
      cases moved : action.perform (s.clockOf who) with
      | error cause => exact ⟨accounted_failure cause (ordinary cause moved) _, fun _ => rfl⟩
      | ok clock => exact ⟨⟨.nothing _, rfl, rfl⟩, fun _ => rfl⟩

theorem run_faithful (full : Setup) (everything : full.level = Severity.debug.rank)
    (measured : Nat → Measured) (s : Session) (steps : List Step)
    (clients : ∀ step ∈ steps, step.action.isClient = true) :
    Leads s.database (s.history steps) (s.after steps).database ∧
      Faithful (s.history steps) (s.stages full measured steps) := by
  induction steps generalizing s measured with
  | nil => exact ⟨.nothing _, .nothing⟩
  | cons first rest ih =>
      -- The rest is accounted for from where the first step leaves the session.
      obtain ⟨own, others⟩ := List.forall_mem_cons.mp clients
      obtain ⟨accounted, silent⟩ := s.step_accounted first own
      obtain ⟨leads, faithful⟩ := ih (fun number => measured (number + 1)) (s.step first).2 others
      refine ⟨accounted.leads.append leads, ?_⟩
      simp only [history, stages, stage_step]
      exact .append _ _ [_] _
        (accounted.faithful ⟨full, measured 0⟩ everything _ _ _ _ silent _) faithful

/-- At the level of debugging the log of a session in which clients use the store
    and move clocks is faithful: it tells what the statements that were kept, one
    after the other, made of the database, and which steps were violations. -/
theorem debug_log_faithful (setup full : Setup) (debugging : setup.configure "DEBUG" = .ok full)
    (measured : Nat → Measured) (s : Session) (steps : List Step)
    (clients : ∀ step ∈ steps, step.action.isClient = true) :
    Leads s.database (s.history steps) (s.after steps).database ∧
      (∀ c ∈ s.history steps, ∀ e ∈ c.before.rows,
        e ∈ c.after.rows ∨ e ∈ c.removed ∨ e.id ∈ c.modified.map (·.id)) ∧
      Faithful (s.history steps) (s.stages full measured steps) := by
  cases setup.configure_debug full debugging
  obtain ⟨leads, faithful⟩ := s.run_faithful { setup with level := Severity.debug.rank } rfl measured
    steps clients
  exact ⟨leads, fun c _ => c.untouched, faithful⟩

/-! An event that is created, counted again and deleted, beside an update of a row
that is not there and a cleaning cycle that cannot start. -/

def audited : List Step :=
  let occurrence : Fold.Occurrence := ⟨some "job", some "reason", some "key", some "again"⟩
  [⟨0, .store (.create (some "job") (some "reason") (some "Normal") (some "text") (some "key") none)⟩,
    ⟨1, .store (.fold occurrence)⟩, ⟨0, .store (.update 7 (some "again") 2)⟩,
    ⟨1, .store (.delete 5 3)⟩, ⟨0, .store (.clean 0 3)⟩]

theorem debug_log_faithful_audited :
    let full : Setup := { level := 10 }
    let start := opened .empty []
    let stages := start.stages full (fun _ => ⟨"t", .null⟩) audited
    full.configure "DEBUG" = .ok full ∧ (∀ step ∈ audited, step.action.isClient = true) ∧
      Faithful (start.history audited) stages ∧
      stages.map (fun stage => stage.lines.map Line.message) =
        [["event_created"], ["event_updated"], ["event_update_state_violation"],
          ["expired_events_deleted"], []] ∧
      (start.history audited).map (fun c => (c.inserted.length, c.modified.length, c.removed.length)) =
        [(1, 0, 0), (0, 0, 0), (0, 1, 0), (0, 0, 1)] := by
  intro full start stages
  have debugging : full.configure "DEBUG" = .ok full := rfl
  have clients : ∀ step ∈ audited, step.action.isClient = true := by decide
  obtain ⟨-, -, faithful⟩ :=
    debug_log_faithful full full debugging (fun _ => ⟨"t", .null⟩) start audited clients
  exact ⟨debugging, clients, faithful, by decide, by decide⟩

end Session

end EventRetention
