import EventRetention.Proofs.FailedSteps
import EventRetention.Proofs.UniversalTime

/-!
A settable clock over a run. Its instant follows the actions of its client that
succeed: it is where the clock was last set, or started, and the spans since
then. What fails, and whatever other clients and the store do meanwhile, moves
nothing.
-/

namespace EventRetention

namespace ClockAction

def target? : ClockAction → Option Reading
  | .set reading => some reading
  | _ => none

def shift : ClockAction → Int
  | .advance span => span.micros
  | _ => 0

def land (n : Int) : ClockAction → Int
  | .set reading => reading.micros
  | action => n + action.shift

def Unset (actions : List ClockAction) : Prop := ∀ action ∈ actions, action.target? = none

instance (actions : List ClockAction) : Decidable (Unset actions) :=
  inferInstanceAs (Decidable (∀ action ∈ actions, action.target? = none))

theorem land_shift (action : ClockAction) (n : Int) (unset : action.target? = none) :
    action.land n = n + action.shift := by
  cases action with
  | set reading => cases unset
  | _ => rfl

theorem foldl_unset (actions : List ClockAction) (n : Int) (unset : Unset actions) :
    actions.foldl land n = n + (actions.map shift).sum := by
  induction actions generalizing n with
  | nil => simp
  | cons first rest ih =>
      obtain ⟨here, later⟩ := List.forall_mem_cons.mp unset
      rw [List.foldl_cons, ih _ later, land_shift first n here, List.map_cons, List.sum_cons]
      omega

theorem foldl_set (front back : List ClockAction) (reading : Reading) (n : Int)
    (unset : Unset back) :
    (front ++ .set reading :: back).foldl land n = reading.micros + (back.map shift).sum := by
  rw [List.foldl_append, List.foldl_cons, foldl_unset back _ unset]
  rfl

end ClockAction

namespace Clock

/-- Advancing fails for a span below 0, and for one that leads out of the
    calendar; else it is addition. -/
theorem advance_settable (now : Instant) (span : Duration) :
    (span < 0 ∧ (settable now).advance span = .error (.negativeAdvance span)) ∨
    (0 ≤ span ∧ ¬ InCalendar (now.micros + span.micros) ∧
      (settable now).advance span = .error .instantOutOfRange) ∨
    (0 ≤ span ∧ ∃ next : Instant, next.micros = now.micros + span.micros ∧
      (settable now).advance span = .ok (settable next)) := by
  by_cases back : span < 0
  · exact Or.inl ⟨back, if_pos back⟩
  · have onward : 0 ≤ span := Int.not_lt.mp back
    by_cases inside : InCalendar (now.micros + span.micros)
    · have bounds := (inCalendar_iff _).mp inside
      have reached : now.add? span = some ⟨now.micros + span.micros, bounds⟩ := dif_pos bounds
      refine Or.inr (Or.inr ⟨onward, ⟨now.micros + span.micros, bounds⟩, rfl, ?_⟩)
      simp only [advance, back, ↓reduceIte, reached]
    · have missed : now.add? span = none := dif_neg (mt (inCalendar_iff _).mpr inside)
      refine Or.inr (Or.inl ⟨onward, inside, ?_⟩)
      simp only [advance, back, ↓reduceIte, missed]

theorem advance_inCalendar (now : Instant) (span : Duration) (onward : 0 ≤ span)
    (inside : InCalendar (now.micros + span.micros)) :
    ∃ next, (settable now).advance span = .ok (settable next) ∧
      next.micros = now.micros + span.micros := by
  rcases advance_settable now span with ⟨back, -⟩ | ⟨-, beyond, -⟩ | ⟨-, next, same, moved⟩
  · exact absurd onward (Int.not_le.mpr back)
  · exact absurd inside beyond
  · exact ⟨next, moved, same⟩

theorem advance_error_iff (now : Instant) (span : Duration) (cause : Failure) :
    (settable now).advance span = .error cause ↔
      (cause = .negativeAdvance span ∧ span < 0) ∨
      (cause = .instantOutOfRange ∧ 0 ≤ span ∧ ¬ InCalendar (now.micros + span.micros)) := by
  rcases advance_settable now span with ⟨back, failed⟩ | ⟨onward, beyond, failed⟩ |
    ⟨onward, next, same, moved⟩
  · have early : ¬ 0 ≤ span := Int.not_le.mpr back
    simp [failed, back, early, eq_comm]
  · have later : ¬ span < 0 := Int.not_lt.mpr onward
    simp [failed, onward, beyond, later, eq_comm]
  · have later : ¬ span < 0 := Int.not_lt.mpr onward
    have inside := same ▸ next.inCalendar
    simp [moved, later, inside]

theorem set_error_iff (now : Instant) (reading : Reading) (cause : Failure) :
    (settable now).set reading = .error cause ↔
      cause = .instantOutOfRange ∧ ¬ InCalendar reading.micros := by
  rw [← normalise_error_iff]
  simp only [set]
  cases normalise reading <;> simp [Except.map]

/-- An action that succeeds leaves a settable clock where it lands, and one that
    does not set it leaves it no earlier. -/
theorem perform_settable (now : Instant) (action : ClockAction) (clock : Clock)
    (done : action.perform (settable now) = .ok clock) :
    ∃ next, clock = settable next ∧ next.micros = action.land now.micros ∧
      (action.target? = none → now ≤ next) := by
  cases action with
  | now =>
      cases done
      exact ⟨now, rfl, (Int.add_zero _).symm, fun _ => Int.le_refl _⟩
  | advance span =>
      rcases advance_settable now span with ⟨-, failed⟩ | ⟨-, -, failed⟩ | ⟨onward, next, same, moved⟩
      · cases failed.symm.trans done
      · cases failed.symm.trans done
      · cases moved.symm.trans done
        refine ⟨next, rfl, same, fun _ => ?_⟩
        change 0 ≤ span.micros at onward
        change now.micros ≤ next.micros
        omega
  | set reading =>
      change (normalise reading).map settable = .ok clock at done
      cases read : normalise reading with
      | error cause =>
          rw [read] at done
          cases done
      | ok next =>
          rw [read] at done
          cases done
          exact ⟨next, rfl, (normalise_ok_iff reading next).mp read, nofun⟩

end Clock

namespace Session

def tick (who : Nat) (action : ClockAction) : Step := ⟨who, .clock action⟩

def move? (who : Nat) (s : Session) (step : Step) : Option ClockAction :=
  match step.action with
  | .clock action => if step.who = who ∧ (s.step step).1.succeeded then some action else none
  | _ => none

def moves (who : Nat) (s : Session) : List Step → List ClockAction
  | [] => []
  | first :: rest => (move? who s first).toList ++ moves who (s.step first).2 rest

theorem clockOf_owned (s : Session) (who : Nat) (clock : Clock) (owned : s.clocks[who]? = some clock) :
    s.clockOf who = clock := by
  simp [clockOf, List.getD_eq_getElem?_getD, owned]

theorem step_tick (s : Session) (who : Nat) (action : ClockAction) :
    s.step (tick who action) =
      match action.perform (s.clockOf who) with
      | .error cause => ({ answer := .error cause }, s)
      | .ok clock => ({ answer := .ok (.time clock.now) }, { s with clocks := s.clocks.set who clock }) :=
  rfl

theorem step_others (s : Session) (who : Nat) (step : Step) (quiet : move? who s step = none) :
    (s.step step).2.clocks[who]? = s.clocks[who]? := by
  obtain ⟨client, action⟩ := step
  cases action with
  | store action => rfl
  | database action =>
      simp only [Session.step]
      cases action.perform s.database <;> rfl
  | clock action =>
      simp only [move?, Session.step] at quiet ⊢
      cases moved : action.perform (s.clockOf client) with
      | error cause => rfl
      | ok clock =>
          have other : client ≠ who := by
            rintro rfl
            simp [moved, Outcome.succeeded] at quiet
          exact List.getElem?_set_ne other

theorem move?_own (s : Session) (who : Nat) (step : Step) (action : ClockAction)
    (own : move? who s step = some action) :
    step = tick who action ∧ (s.step step).1.succeeded = true := by
  obtain ⟨client, done⟩ := step
  unfold move? at own
  cases done with
  | clock taken =>
      simp only [Option.ite_none_right_eq_some, Option.some.injEq] at own
      obtain ⟨⟨rfl, succeeds⟩, rfl⟩ := own
      exact ⟨rfl, succeeds⟩
  | store action => cases own
  | database action => cases own

/-- A step moves the clock of a client by the action that counts as its move,
    and else leaves it alone. -/
theorem step_owned (s : Session) (who : Nat) (now : Instant)
    (owned : s.clocks[who]? = some (.settable now)) (step : Step) :
    ∃ next, (s.step step).2.clocks[who]? = some (.settable next) ∧
      next.micros = (move? who s step).toList.foldl ClockAction.land now.micros ∧
      (ClockAction.Unset (move? who s step).toList → now ≤ next) := by
  cases made : move? who s step with
  | none => exact ⟨now, (s.step_others who step made).trans owned, rfl, fun _ => Int.le_refl _⟩
  | some action =>
      obtain ⟨rfl, succeeds⟩ := s.move?_own who step action made
      rw [step_tick, s.clockOf_owned who _ owned] at succeeds ⊢
      cases moved : action.perform (.settable now) with
      | error cause => simp [moved, Outcome.succeeded] at succeeds
      | ok clock =>
          obtain ⟨next, rfl, landed, later⟩ := Clock.perform_settable now action clock moved
          obtain ⟨present, -⟩ := List.getElem?_eq_some_iff.mp owned
          refine ⟨next, List.getElem?_set_self present, landed, fun unset => later ?_⟩
          exact unset action (List.mem_singleton_self action)

theorem after_owned (s : Session) (who : Nat) (now : Instant)
    (owned : s.clocks[who]? = some (.settable now)) (steps : List Step) :
    ∃ next, (s.after steps).clocks[who]? = some (.settable next) ∧
      next.micros = (moves who s steps).foldl ClockAction.land now.micros ∧
      (ClockAction.Unset (moves who s steps) → now ≤ next) := by
  induction steps generalizing s now with
  | nil => exact ⟨now, owned, rfl, fun _ => Int.le_refl _⟩
  | cons first rest ih =>
      obtain ⟨next, owned', landed, later⟩ := step_owned s who now owned first
      obtain ⟨last, owned'', reached, onward⟩ := ih (s.step first).2 next owned'
      refine ⟨last, owned'', ?_, fun unset => ?_⟩
      · rw [moves, List.foldl_append, ← landed, reached]
      · obtain ⟨here, behind⟩ := List.forall_mem_append.mp unset
        exact Int.le_trans (later here) (onward behind)

structure Shows (s : Session) (who : Nat) (now : Instant) : Prop where
  settable : s.clockOf who = .settable now
  aware : (s.clockOf who).now = .ofInstant now
  dated : now.civil.isValid = true ∧ (now.civil.count : Int) = now.micros
  advance : ∀ span cause, (s.step (tick who (.advance span))).1.answer = .error cause ↔
    (cause = .negativeAdvance span ∧ span < 0) ∨
    (cause = .instantOutOfRange ∧ 0 ≤ span ∧ ¬ InCalendar (now.micros + span.micros))
  set : ∀ reading cause, (s.step (tick who (.set reading))).1.answer = .error cause ↔
    cause = .instantOutOfRange ∧ ¬ InCalendar reading.micros
  unmoved : ∀ action cause, (s.step (tick who action)).1.answer = .error cause →
    (s.step (tick who action)).2 = s
  onward : ∀ steps, ClockAction.Unset (moves who s steps) →
    ∃ later, (s.after steps).clockOf who = .settable later ∧ now ≤ later
  twice : ∀ a b : Duration, 0 ≤ a → 0 ≤ b → InCalendar (now.micros + (a + b).micros) →
    s.after [tick who (.advance a), tick who (.advance b)] = s.after [tick who (.advance (a + b))]

theorem answer_tick (s : Session) (who : Nat) (action : ClockAction) (cause : Failure) :
    (s.step (tick who action)).1.answer = .error cause ↔
      action.perform (s.clockOf who) = .error cause := by
  rw [step_tick]
  cases action.perform (s.clockOf who) <;> simp

theorem after_tick (s : Session) (who : Nat) (action : ClockAction) (clock moved : Clock)
    (shown : s.clockOf who = clock) (done : action.perform clock = .ok moved) (rest : List Step) :
    s.after (tick who action :: rest) =
      { s with clocks := s.clocks.set who moved }.after rest := by
  change ((s.step (tick who action)).2).after rest = _
  rw [step_tick, shown, done]

/-- Two spans one after the other are their sum. -/
theorem advance_twice (s : Session) (who : Nat) (now : Instant)
    (owned : s.clocks[who]? = some (.settable now)) (a b : Duration) (first : 0 ≤ a)
    (second : 0 ≤ b) (inside : InCalendar (now.micros + (a + b).micros)) :
    s.after [tick who (.advance a), tick who (.advance b)] =
      s.after [tick who (.advance (a + b))] := by
  have sum : (a + b).micros = a.micros + b.micros := rfl
  change 0 ≤ a.micros at first
  change 0 ≤ b.micros at second
  obtain ⟨-, bound⟩ := (inCalendar_iff _).mp inside
  have early := now.inRange.1
  have halfway : InCalendar (now.micros + a.micros) := (inCalendar_iff _).mpr (by omega)
  obtain ⟨middle, moved, same⟩ := Clock.advance_inCalendar now a first halfway
  have rest : InCalendar (middle.micros + b.micros) := by
    rwa [same, Int.add_assoc, ← sum]
  obtain ⟨last, moved', same'⟩ := Clock.advance_inCalendar middle b second rest
  obtain ⟨whole, moved'', same''⟩ := Clock.advance_inCalendar now (a + b)
    (Int.add_nonneg first second) inside
  have together : last = whole := Instant.eq_of_micros last whole (by omega)
  obtain ⟨present, -⟩ := List.getElem?_eq_some_iff.mp owned
  have shown := s.clockOf_owned who _ owned
  have shown' : ({ s with clocks := s.clocks.set who (.settable middle) } : Session).clockOf who =
      .settable middle := clockOf_owned _ who _ (List.getElem?_set_self present)
  rw [after_tick s who (.advance a) _ _ shown moved, after_tick _ who (.advance b) _ _ shown' moved',
    after_tick s who (.advance (a + b)) _ _ shown moved'', together]
  simp only [List.set_set]

theorem shows_owned (s : Session) (who : Nat) (now : Instant)
    (owned : s.clocks[who]? = some (.settable now)) : s.Shows who now := by
  have shown := s.clockOf_owned who _ owned
  refine ⟨shown, congrArg Clock.now shown, now.civil_count, fun span cause => ?_, fun reading cause => ?_,
    fun action cause fails => s.step_failed _ cause fails, fun steps unset => ?_,
    s.advance_twice who now owned⟩
  · rw [answer_tick, shown]
    exact Clock.advance_error_iff now span cause
  · rw [answer_tick, shown]
    exact Clock.set_error_iff now reading cause
  · obtain ⟨later, owned', -, onward⟩ := s.after_owned who now owned steps
    exact ⟨later, clockOf_owned _ who _ owned', onward unset⟩

/-- A settable clock that was started at a reading, in a session whose clients
    take any steps: it shows universal time, at the reading where its client last
    set it, or at the start, and the spans by which the client advanced it since.
    Each start within the calendar is a start. -/
theorem clock_exact (start : Reading) (inside : InCalendar start.micros) :
    ∃ first, Clock.starting (some start) = .ok (.settable first) ∧
      ∀ (s : Session) (who : Nat), s.clocks[who]? = some (.settable first) → ∀ steps,
        ∃ now, (s.after steps).Shows who now ∧
          (∀ front reading back, moves who s steps = front ++ .set reading :: back →
            ClockAction.Unset back →
            now.micros = reading.micros + (back.map ClockAction.shift).sum) ∧
          (ClockAction.Unset (moves who s steps) →
            now.micros = start.micros + ((moves who s steps).map ClockAction.shift).sum) := by
  obtain ⟨first, normal, same⟩ := Clock.normalise_inCalendar start inside
  refine ⟨first, congrArg (Except.map Clock.settable) normal, fun s who owned steps => ?_⟩
  obtain ⟨now, owned', landed, -⟩ := s.after_owned who first owned steps
  refine ⟨now, shows_owned _ who now owned', fun front reading back parts unset => ?_, fun unset => ?_⟩
  · rw [landed, parts, ClockAction.foldl_set front back reading _ unset]
  · rw [landed, ClockAction.foldl_unset _ _ unset, same]

/-! A clock that starts five and a half hours and fifteen seconds ahead, is set
as far behind, and fails to go back, to start before the first year and to pass
the last one. -/

def restarted : List Step :=
  [tick 0 (.advance ⟨3600000000⟩), tick 0 (.advance ⟨-1⟩), tick 1 (.set (.ofInstant Operation.noon)),
    tick 0 (.set ⟨.earliest, some ⟨3600, by decide⟩⟩),
    tick 0 (.set ⟨Operation.noon, some ⟨-19815, by decide⟩⟩), tick 0 (.advance ⟨1⟩),
    ⟨0, .store (.create (some "job") (some "reason") none (some "text") (some "key") none)⟩,
    tick 0 (.advance ⟨315537897600000000⟩), tick 0 (.advance ⟨23384999999⟩)]

theorem clock_exact_restarted :
    let start : Reading := ⟨Clock.defaultStart, some ⟨19815, by decide⟩⟩
    let first : Instant := ⟨63839644185000000, by decide⟩
    let s := opened .empty [.settable first, .settable .earliest]
    InCalendar start.micros ∧ s.clocks[0]? = some (.settable first) ∧
      Clock.starting (some start) = .ok (.settable first) ∧
      ∃ now, (s.after restarted).Shows 0 now ∧ now.civil = ⟨⟨1, 1, 2⟩, 0, 0, 0, 0⟩ := by
  intro start first s
  have inside : InCalendar start.micros := (inCalendar_iff _).mpr (by decide)
  obtain ⟨begun, starts, runs⟩ := clock_exact start inside
  have known : Clock.starting (some start) = .ok (.settable first) := rfl
  have same : begun = first := Clock.settable.inj (Except.ok.inj (starts.symm.trans known))
  subst same
  obtain ⟨now, shows, landed, -⟩ := runs s 0 rfl restarted
  have noon := landed [.advance ⟨3600000000⟩] ⟨Operation.noon, some ⟨-19815, by decide⟩⟩
    [.advance ⟨1⟩, .advance ⟨23384999999⟩] (by decide) (by decide)
  have passed : now.micros = 86400000000 := noon
  obtain ⟨valid, count⟩ := now.civil_count
  have midnight : (Civil.mk ⟨1, 1, 2⟩ 0 0 0 0).count = 86400000000 := rfl
  have day := Civil.count_injective now.civil ⟨⟨1, 1, 2⟩, 0, 0, 0, 0⟩ valid (by decide) (by omega)
  exact ⟨inside, rfl, known, now, shows, day⟩

end Session

end EventRetention
