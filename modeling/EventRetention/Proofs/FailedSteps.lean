import EventRetention.Proofs.SessionStates

/-!
Steps of a session that fail. An operation is rolled back when its statement or
its conclusion fails; a fold writes last; and a delete of a cleaning cycle can
fail as its first one only, for the later ones have the same numbers. So a step
that fails, whatever it is and wherever it fails, leaves the database and every
clock as they were, and a run goes on as if it had not been made.
-/

namespace EventRetention

namespace Outcome

def succeeded (o : Outcome α) : Bool :=
  match o.answer with
  | .ok _ => true
  | .error _ => false

theorem map_failed (f : α → β) (o : Outcome α) (cause : Failure)
    (fails : (o.map f).answer = .error cause) : o.answer = .error cause := by
  obtain ⟨answer, notices⟩ := o
  cases answer with
  | error early =>
      cases fails
      rfl
  | ok value => cases fails

end Outcome

namespace Fold

theorem lookup_same (o : Occurrence) (db : Database) :
    ((lookup o).perform Database.run db).2 = db := by
  cases db with
  | closed => rfl
  | opened table =>
      cases table with
      | none => rfl
      | some t => rw [Operation.perform_opened, perform_lookup]

end Fold

theorem fold_failed (clock : Clock) (o : Fold.Occurrence) (db : Database) (cause : Failure)
    (fails : (fold Database.run clock o db).1.answer = .error cause) :
    (fold Database.run clock o db).2 = db := by
  have same := Fold.lookup_same o db
  unfold fold at fails ⊢
  cases looked : ((Fold.lookup o).perform Database.run db).1.answer with
  | error early => simp only [looked, same]
  | ok latest =>
      simp only [looked, same] at fails ⊢
      exact Operation.perform_failed Database.run _ db cause fails

theorem Cleaned.failed (c : Cleaner) (cutoff : Instant) (t after : Table) (cause : Failure)
    (cleaned : Cleaned c cutoff t (.error cause) after) : after = t := by
  cases cleaned
  rfl

theorem clean_failed (clock : Clock) (ttl : Duration) (batchSize : Int) (db : Database)
    (cause : Failure) (fails : (clean Database.run clock ttl batchSize db).1.answer = .error cause) :
    (clean Database.run clock ttl batchSize db).2 = db := by
  unfold clean at fails ⊢
  cases made : Cleaner.make ttl batchSize with
  | error early => rfl
  | ok c =>
      simp only [made] at fails ⊢
      cases db with
      | closed => rfl
      | opened table =>
          cases table with
          | none => rfl
          | some t =>
              have cleaned := cycle_cleaned c t clock (make_positive ttl batchSize c made)
              simp only [Cycle.run_opened] at fails ⊢
              simp only [fails] at cleaned
              rw [cleaned.failed]

namespace StoreAction

theorem perform_failed (clock : Clock) (action : StoreAction) (db : Database) (cause : Failure)
    (fails : (action.perform Database.run clock db).1.answer = .error cause) :
    (action.perform Database.run clock db).2 = db := by
  cases action with
  | clean ttl batchSize =>
      exact clean_failed clock ttl batchSize db cause (Outcome.map_failed _ _ cause fails)
  | fold o => exact fold_failed clock o db cause (Outcome.map_failed _ _ cause fails)
  | _ =>
      simp only [perform, Prod.map, id] at fails ⊢
      exact Operation.perform_failed Database.run _ db cause (Outcome.map_failed _ _ cause fails)

end StoreAction

namespace Session

theorem step_failed (s : Session) (step : Step) (cause : Failure)
    (fails : (s.step step).1.answer = .error cause) : (s.step step).2 = s := by
  obtain ⟨who, action⟩ := step
  cases action with
  | store action =>
      have kept := action.perform_failed (s.clockOf who) s.database cause fails
      simp only [Session.step, kept]
  | clock action =>
      simp only [Session.step] at fails ⊢
      cases moved : action.perform (s.clockOf who) with
      | error early => rfl
      | ok clock => simp [moved] at fails
  | database action =>
      simp only [Session.step] at fails ⊢
      cases done : action.perform s.database with
      | error early => rfl
      | ok made => simp [done] at fails

theorem run_append (s : Session) (past later : List Step) :
    s.run (past ++ later) =
      ((s.run past).1 ++ ((s.after past).run later).1, ((s.after past).run later).2) := by
  induction past generalizing s with
  | nil => rfl
  | cons first rest ih =>
      simp only [List.cons_append, run, ih]
      rfl

def succeeding (s : Session) : List Step → List Step
  | [] => []
  | first :: rest =>
      let (outcome, next) := s.step first
      if outcome.succeeded then first :: next.succeeding rest else next.succeeding rest

/-- A run of those steps alone gives the same answers, and ends in the same
    state. -/
theorem run_succeeding (s : Session) (steps : List Step) :
    s.run (s.succeeding steps) =
      ((s.run steps).1.filter Outcome.succeeded, (s.run steps).2) := by
  induction steps generalizing s with
  | nil => rfl
  | cons first rest ih =>
      cases answer : (s.step first).1.answer with
      | ok value =>
          have kept : (s.step first).1.succeeded = true := by simp [Outcome.succeeded, answer]
          simp only [succeeding, kept, ↓reduceIte, run, ih, List.filter_cons]
      | error cause =>
          have gone : (s.step first).1.succeeded = false := by simp [Outcome.succeeded, answer]
          have same := s.step_failed first cause answer
          simp only [succeeding, gone, Bool.false_eq_true, ↓reduceIte, run, List.filter_cons]
          rw [same, ih]

/-- A failing step of any run leaves the database and all clocks as they were,
    and all later steps answer and end as they would without it. -/
theorem failures_traceless (s : Session) (past later : List Step) (step : Step) (cause : Failure)
    (fails : ((s.after past).step step).1.answer = .error cause) :
    let before := s.after past
    (before.step step).2 = before ∧
      s.run (past ++ step :: later) =
        ((s.run past).1 ++ (before.step step).1 :: (before.run later).1, (before.run later).2) ∧
      s.run (past ++ later) = ((s.run past).1 ++ (before.run later).1, (before.run later).2) := by
  intro before
  have same : (before.step step).2 = before := before.step_failed step cause fails
  refine ⟨same, ?_, s.run_append past later⟩
  rw [run_append]
  change (_ ++ (before.step step).1 :: ((before.step step).2.run later).1,
    ((before.step step).2.run later).2) = _
  rw [same]

/-! A transaction whose second row has an identifier that is taken: the first one
is not kept, and its identifier goes to the next event. -/

def recorded : Step :=
  ⟨0, .store (.create (some "job") (some "reason") (some "Normal") (some "text") (some "key") none)⟩

def clashing : Step :=
  let row (id : Option Int) : Draft :=
    { Operation.newEvent Clock.defaultStart (some "job") (some "reason") (some "Normal") (some "text")
        (some "key") with id := id }
  ⟨1, .database (.transaction [row none, row (some 1)] [] none)⟩

theorem failures_traceless_clashing :
    let start := opened .empty []
    ((start.after [recorded]).step clashing).1.answer = .error .duplicateId ∧
      ((start.after [recorded]).step clashing).2 = start.after [recorded] ∧
      start.after ([recorded] ++ clashing :: [recorded]) = start.after ([recorded] ++ [recorded]) ∧
      (start.after ([recorded] ++ clashing :: [recorded])).ids = [1, 2] := by
  intro start
  have fails : ((start.after [recorded]).step clashing).1.answer = .error .duplicateId := rfl
  obtain ⟨same, whole, without⟩ := failures_traceless start [recorded] [recorded] clashing _ fails
  refine ⟨fails, same, ?_, by decide⟩
  exact (congrArg Prod.snd whole).trans (congrArg Prod.snd without).symm

end Session

end EventRetention
