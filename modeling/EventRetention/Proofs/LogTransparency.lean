import EventRetention.Proofs.LoggedActions
import EventRetention.Proofs.SessionStates

/-!
What a session writes to the log at one level and at another: nothing else
depends on the level, and the lines at a level are those of the lines at the
level of debugging that are severe enough.
-/

namespace EventRetention

open Log (Line Setup)

/-- A line without its time and without the run time that it may report. -/
def Log.Line.untimed (line : Line) : Line :=
  { line with event := (line.event.erase (.text "timestamp")).erase (.text "duration_seconds") }

def Log.Setup.admitted (setup : Setup) (lines : List Line) : List Line :=
  lines.filter fun line => setup.admits line.severity

def Stage.shown (stage : Stage) : Except Interruption (Answer String) × Session :=
  (stage.answer, stage.after)

theorem Log.Setup.configure_ok (setup configured : Setup) (name : String)
    (accepted : setup.configure name = .ok configured) :
    ∃ level, Log.levelOfName name = .ok level ∧ configured = { setup with level } := by
  unfold Log.Setup.configure at accepted
  cases named : Log.levelOfName name with
  | error message =>
      rw [named] at accepted
      cases accepted
  | ok level =>
      rw [named] at accepted
      exact ⟨level, rfl, (Except.ok.inj accepted).symm⟩

theorem Log.Setup.configure_debug (setup full : Setup)
    (debugging : setup.configure "DEBUG" = .ok full) :
    full = { setup with level := Severity.debug.rank } := by
  obtain ⟨level, named, rfl⟩ := setup.configure_ok full "DEBUG" debugging
  have known : Log.levelOfName "DEBUG" = .ok Severity.debug.rank := by decide
  cases named.symm.trans known
  rfl

theorem Severity.debug_le (severity : Severity) : Severity.debug.rank ≤ severity.rank := by
  cases severity <;> decide

/-- The fields of a report but for a run time, which is the last of them. -/
theorem Notice.fields_untimed (notice : Notice) (elapsed elapsed' : Value) :
    (notice.call elapsed).fields.erase (.text "duration_seconds") =
      (notice.call elapsed').fields.erase (.text "duration_seconds") := by
  cases notice <;> rfl

namespace Logger

-- The time is put in behind the fields, and is taken out first.
theorem erase_event (logger : Logger) (notice : Notice) :
    ((logger.event notice).erase (.text "timestamp")).erase (.text "duration_seconds") =
      (((((logger.setup.event (notice.call logger.measured.elapsed)).complete
        logger.setup.context).erase (.text "duration_seconds")).insert (.text "level")
        (.text (Log.severityName notice.severity))).erase (.text "timestamp")).erase
        (.text "stack_info") := by
  rw [event, Entries.erase_comm _ (.text "stack_info") (.text "timestamp"), Entries.erase_insert,
    Entries.erase_comm _ (.text "stack_info"), Entries.erase_comm _ (.text "timestamp"),
    Entries.erase_insert_other _ _ _ _ (by decide)]

variable (logger other : Logger) (context : logger.setup.context = other.setup.context)
  (bound : logger.setup.bound = other.setup.bound)
include context bound

theorem entering_untimed (notice : Notice) :
    ((logger.setup.event (notice.call logger.measured.elapsed)).complete logger.setup.context).erase
        (.text "duration_seconds") =
      ((other.setup.event (notice.call other.measured.elapsed)).complete other.setup.context).erase
        (.text "duration_seconds") := by
  have apart : Value.text "event" ≠ .text "duration_seconds" := by decide
  rw [Entries.erase_complete, Entries.erase_complete, Setup.event, Setup.event,
    Entries.erase_insert_other _ _ _ _ apart, Entries.erase_insert_other _ _ _ _ apart,
    Entries.erase_merge, Entries.erase_merge, context, bound,
    notice.fields_untimed _ other.measured.elapsed]
  rfl

theorem event_untimed (notice : Notice) :
    ((logger.event notice).erase (.text "timestamp")).erase (.text "duration_seconds") =
      ((other.event notice).erase (.text "timestamp")).erase (.text "duration_seconds") := by
  rw [erase_event, erase_event, logger.entering_untimed other context bound notice]

theorem line_untimed (notice : Notice) :
    (logger.line notice).untimed = (other.line notice).untimed := by
  have record (event : Entries) (name : String) (first : Value.text "_record" ≠ .text name)
      (second : Value.text "_from_structlog" ≠ .text name) :
      (Log.attachRecord event true).erase (.text name) =
        Log.attachRecord (event.erase (.text name)) true := by
    unfold Log.attachRecord
    rw [Entries.erase_insert_other _ _ _ _ second, Entries.erase_insert_other _ _ _ _ first]
  unfold Line.untimed line
  dsimp only
  rw [record _ _ (by decide) (by decide), record _ _ (by decide) (by decide),
    record _ _ (by decide) (by decide), record _ _ (by decide) (by decide),
    logger.event_untimed other context bound notice]

omit context bound in
/-- At the level of debugging every report has its line. -/
theorem lines_debug (everything : logger.setup.level = Severity.debug.rank) (notices : List Notice) :
    logger.lines notices = notices.map logger.line := by
  have all : notices.filter (fun notice => logger.setup.admits notice.severity) = notices := by
    refine List.filter_eq_self.mpr fun notice _ => decide_eq_true ?_
    rw [everything]
    exact notice.severity.debug_le
  rw [lines_map, all]

theorem lines_filtered (everything : other.setup.level = Severity.debug.rank)
    (notices : List Notice) : (logger.lines notices).map Line.untimed =
      logger.setup.admitted ((other.lines notices).map Line.untimed) := by
  rw [other.lines_debug everything, lines_map]
  simp only [Setup.admitted, List.filter_map, List.map_map]
  exact List.map_congr_left fun notice _ => logger.line_untimed other context bound notice

end Logger

namespace Session

def written (setup : Setup) (measured : Nat → Measured) (s : Session) (steps : List Step) :
    List (List Line) :=
  (s.stages setup measured steps).map fun stage => stage.lines.map Line.untimed

theorem stages_shown (low high : Setup) (measured measured' : Nat → Measured) (s : Session)
    (steps : List Step) :
    (s.stages low measured steps).map Stage.shown = (s.stages high measured' steps).map Stage.shown := by
  induction steps generalizing s measured measured' with
  | nil => rfl
  | cons first rest ih =>
      simp only [stages, stage_step, List.map_cons, Stage.shown]
      exact congrArg _ (ih _ _ _)

theorem stages_answers (setup : Setup) (measured : Nat → Measured) (s : Session) (steps : List Step) :
    (s.stages setup measured steps).map Stage.answer =
      (s.run steps).1.map fun outcome => outcome.answer.mapError .failure := by
  induction steps generalizing s measured with
  | nil => rfl
  | cons first rest ih =>
      simp only [stages, stage_step, run, List.map_cons, ih]

theorem written_admitted (low full : Setup) (context : low.context = full.context)
    (bound : low.bound = full.bound) (everything : full.level = Severity.debug.rank)
    (measured measured' : Nat → Measured) (s : Session) (steps : List Step) :
    s.written low measured steps = (s.written full measured' steps).map low.admitted := by
  unfold written
  induction steps generalizing s measured measured' with
  | nil => rfl
  | cons first rest ih =>
      simp only [stages, stage_step, List.map_cons, ih _ (fun number => measured' (number + 1))]
      rw [Logger.lines_filtered ⟨low, measured 0⟩ ⟨full, measured' 0⟩ context bound everything]

/-- Logging is not observed: at any two levels that have a name a session gives
    the same answers, those of its steps, and passes through the same tables
    and clocks. Each step writes the lines that it writes at the level of
    debugging and that are severe enough, whatever times are measured. -/
theorem logging_unobserved (setup low high full : Setup) (first second : String)
    (accepted : setup.configure first = .ok low) (accepted' : setup.configure second = .ok high)
    (debugging : setup.configure "DEBUG" = .ok full) (measured measured' measured'' : Nat → Measured)
    (s : Session) (steps : List Step) :
    (s.stages low measured steps).map Stage.answer =
        (s.run steps).1.map (fun outcome => outcome.answer.mapError .failure) ∧
      (s.stages low measured steps).map Stage.shown = (s.stages high measured' steps).map Stage.shown ∧
      s.written low measured steps = (s.written full measured'' steps).map low.admitted ∧
      s.written high measured' steps = (s.written full measured'' steps).map high.admitted := by
  obtain ⟨level, -, rfl⟩ := setup.configure_ok low first accepted
  obtain ⟨other, -, rfl⟩ := setup.configure_ok high second accepted'
  cases setup.configure_debug full debugging
  refine ⟨stages_answers _ measured s steps, stages_shown _ _ measured measured' s steps, ?_, ?_⟩
  · exact written_admitted { setup with level } { setup with level := Severity.debug.rank } rfl rfl rfl
      measured measured'' s steps
  · exact written_admitted { setup with level := other } { setup with level := Severity.debug.rank } rfl rfl rfl
      measured' measured'' s steps

/-! An update of a row that is not there, after one that is made: only the
violation is written at the level of warnings. -/

def scolded : List Step :=
  [⟨0, .store (.create (some "job") (some "reason") (some "Normal") (some "text") (some "key") none)⟩,
    ⟨1, .store (.update 7 (some "again") 2)⟩]

theorem logging_unobserved_warnings :
    let setup : Setup := { level := 0 }
    let quiet : Setup := { level := 30 }
    let full : Setup := { level := 10 }
    let start := opened .empty []
    let time (n : Int) (number : Nat) : Measured := ⟨toString number, .int n⟩
    setup.configure "Warning" = .ok quiet ∧ setup.configure "NOTSET" = .ok setup ∧
      setup.configure "DEBUG" = .ok full ∧
      (start.stages quiet (time 1) scolded).map Stage.shown =
        (start.stages setup (time 2) scolded).map Stage.shown ∧
      start.written quiet (time 1) scolded = (start.written full (time 3) scolded).map quiet.admitted ∧
      start.written setup (time 2) scolded = (start.written full (time 3) scolded).map setup.admitted ∧
      (start.written quiet (time 1) scolded).map (·.map Line.message) =
        [[], ["event_update_state_violation"]] := by
  intro setup quiet full start time
  have warnings : setup.configure "Warning" = .ok quiet := rfl
  have everything : setup.configure "NOTSET" = .ok setup := rfl
  have debugging : setup.configure "DEBUG" = .ok full := rfl
  obtain ⟨-, shown, low, high⟩ := logging_unobserved setup quiet setup full "Warning" "NOTSET" warnings
    everything debugging (time 1) (time 2) (time 3) start scolded
  exact ⟨warnings, everything, debugging, shown, low, high, by decide⟩

end Session

end EventRetention
