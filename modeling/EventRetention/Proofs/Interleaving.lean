import EventRetention.Proofs.BatchPlan
import EventRetention.Proofs.StatementEffects
import Mathlib.Data.List.Induction

/-!
Cleaners and other clients on one table, one statement at a time. A cycle asks
the store one question a turn, and between two questions of a cleaner anyone
else may take a turn. Beside its cycle each cleaner keeps what its query saw
and which rows its deletes removed; neither has any effect on the run.
-/

namespace EventRetention

namespace Cycle

def settle : Cycle → Cycle
  | .report _ rest => rest.settle
  | cycle => cycle

def resumed (answer : Except Failure α) (resume : α → Cycle) : Cycle :=
  match answer with
  | .error cause => .finished (.error cause)
  | .ok value => (resume value).settle

def ask (store : RetentionStore σ) : Cycle → σ → Cycle × σ
  | .finished answer, s => (.finished answer, s)
  | .report _ rest, s => ask store rest s
  | .query ttl resume, s =>
      let (outcome, s) := store.query ttl s
      (resumed outcome.answer resume, s)
  | .delete target batch resume, s =>
      let (outcome, s) := store.delete target batch s
      (resumed outcome.answer resume, s)

def answer? : Cycle → Option (Except Failure CleanResult)
  | .finished answer => some answer
  | .report _ rest => rest.answer?
  | _ => none

/-! Asking one question at a time gets the answer and the state of a run. -/

theorem run_settle (store : RetentionStore σ) (cycle : Cycle) (s : σ) :
    (cycle.settle.run store s).1.answer = (cycle.run store s).1.answer ∧
      (cycle.settle.run store s).2 = (cycle.run store s).2 := by
  induction cycle with
  | report notice rest ih => exact ih
  | finished answer => exact ⟨rfl, rfl⟩
  | query ttl resume _ => exact ⟨rfl, rfl⟩
  | delete target batch resume _ => exact ⟨rfl, rfl⟩

theorem run_ask (store : RetentionStore σ) (cycle : Cycle) (s : σ) :
    ((cycle.ask store s).1.run store (cycle.ask store s).2).1.answer =
        (cycle.run store s).1.answer ∧
      ((cycle.ask store s).1.run store (cycle.ask store s).2).2 = (cycle.run store s).2 := by
  induction cycle with
  | report notice rest ih => exact ih
  | finished answer => exact ⟨rfl, rfl⟩
  | query ttl resume _ =>
      cases answer : (store.query ttl s).1.answer with
      | error cause => simp only [ask, resumed, run, answer, and_self]
      | ok value =>
          simp only [ask, resumed, run, answer]
          -- The reports that follow are no questions.
          exact run_settle store (resume value) (store.query ttl s).2
  | delete target batch resume _ =>
      cases answer : (store.delete target batch s).1.answer with
      | error cause => simp only [ask, resumed, run, answer, and_self]
      | ok value =>
          simp only [ask, resumed, run, answer]
          exact run_settle store (resume value) (store.delete target batch s).2

end Cycle

structure Sighting where
  cutoff : Instant
  table : Table

namespace Sighting

def old (saw : Sighting) : List Event := saw.table.expired saw.cutoff

def target? (saw : Sighting) : Option Int := (saw.table.expiry saw.cutoff).2

theorem old_ne_nil (saw : Sighting) (target : Int) (read : saw.target? = some target) :
    saw.old ≠ [] :=
  saw.table.expired_ne_nil saw.cutoff target read

end Sighting

/-- A cleaner at work: its cycle, what its query saw, and the rows that each of
    its deletes removed. -/
structure Worker where
  cleaner : Cleaner
  cycle : Cycle
  sighting : Option Sighting := none
  batches : List (List Event) := []

namespace Worker

def start (c : Cleaner) : Worker := { cleaner := c, cycle := c.cycle }

def removed (w : Worker) : List Event := w.batches.flatten

def answer? (w : Worker) : Option (Except Failure CleanResult) := w.cycle.answer?

def target? (w : Worker) : Option Int := w.sighting.bind Sighting.target?

def idle (c : Cleaner) (saw : Sighting) : Worker where
  cleaner := c
  cycle := .finished (.ok ⟨0, none, 0, 0⟩)
  sighting := some saw

def deleting (c : Cleaner) (saw : Sighting) (target : Int) (left : Nat)
    (batches : List (List Event)) : Worker where
  cleaner := c
  cycle := (c.deletes saw.old.length target left batches.flatten.length batches.length).settle
  sighting := some saw
  batches := batches

def failed (c : Cleaner) (saw : Sighting) (cause : Failure) (batches : List (List Event)) :
    Worker where
  cleaner := c
  cycle := .finished (.error cause)
  sighting := some saw
  batches := batches

def begun (c : Cleaner) (saw : Sighting) : Worker :=
  match saw.target? with
  | none => idle c saw
  | some target =>
      match Cleaner.plan? saw.old.length c.batchSize with
      | none => failed c saw .batchCountOverflow []
      | some planned => deleting c saw target planned.toNat []

inductive Stage (c : Cleaner) : Worker → Prop where
  | fresh : Stage c (start c)
  | idle (saw : Sighting) (unread : saw.target? = none) : Stage c (idle c saw)
  | deleting (saw : Sighting) (target : Int) (left : Nat) (batches : List (List Event))
      (read : saw.target? = some target) : Stage c (deleting c saw target left batches)
  | failed (saw : Sighting) (cause : Failure) (batches : List (List Event)) :
      Stage c (failed c saw cause batches)

def ask (w : Worker) (clock : Clock) (t : Table) : Worker × Table :=
  let (cycle, after) := w.cycle.ask (.ofExecutor Table.run clock) t
  match w.cycle with
  | .query ttl _ => ({ w with cycle, sighting := some ⟨clock.cutoff ttl, t⟩ }, after)
  | .delete .. => ({ w with cycle, batches := w.batches ++ [t.lost after] }, after)
  | _ => ({ w with cycle }, after)

theorem ask_start (c : Cleaner) (clock : Clock) (t : Table) :
    (start c).ask clock t = (begun c ⟨clock.cutoff c.ttl, t⟩, t) := by
  let saw : Sighting := ⟨clock.cutoff c.ttl, t⟩
  have next : c.cycle.ask (.ofExecutor Table.run clock) t =
      ((c.afterQuery (some ⟨saw.old.length, saw.target?⟩)).settle, t) := by
    simp only [Cleaner.cycle, Cycle.ask, RetentionStore.ofExecutor, Operation.perform_expired]
    rfl
  have whole : (start c).ask clock t =
      ({ start c with
          cycle := (c.afterQuery (some ⟨saw.old.length, saw.target?⟩)).settle
          sighting := some saw }, t) := by
    change (let (cycle, after) := c.cycle.ask (.ofExecutor Table.run clock) t
      ({ start c with cycle := cycle, sighting := some saw }, after)) = _
    rw [next]
  rw [whole]
  change _ = (begun c saw, t)
  unfold begun
  cases read : saw.target? with
  | none => rfl
  | some target =>
      -- A target was read, so the count of the query is not zero.
      have some : (saw.old.length : Int) ≠ 0 := by
        have := saw.old_ne_nil target read
        simpa using this
      simp only [Cleaner.afterQuery, some, ↓reduceIte]
      cases Cleaner.plan? saw.old.length c.batchSize with
      | none => rfl
      | some planned => rfl

theorem ask_deleting (c : Cleaner) (saw : Sighting) (target : Int) (left : Nat)
    (batches : List (List Event)) (clock : Clock) (t : Table) (positive : 0 < c.batchSize)
    (reach : Storable target) (fits : Storable c.batchSize) :
    (deleting c saw target (left + 1) batches).ask clock t =
      (deleting c saw target (if t.taken target c.batchSize = 0 then 0 else left)
          (batches ++ [t.rows.take (t.taken target c.batchSize)]),
        t.dropFirst (t.taken target c.batchSize)) := by
  have size := t.length_take_taken target c.batchSize
  generalize same : t.taken target c.batchSize = count at size ⊢
  have next : (deleting c saw target (left + 1) batches).cycle.ask (.ofExecutor Table.run clock) t =
      ((if (count : Int) = 0 then
          Cleaner.close saw.old.length target batches.flatten.length (batches.length + 1)
        else c.deletes saw.old.length target left (batches.flatten.length + count)
          (batches.length + 1)).settle, t.dropFirst count) := by
    simp only [deleting, Cleaner.deletes, Cycle.settle, Cycle.ask, RetentionStore.ofExecutor,
      Operation.perform_delete t target c.batchSize positive reach fits, same]
    rfl
  have whole : (deleting c saw target (left + 1) batches).ask clock t =
      ({ deleting c saw target (left + 1) batches with
          cycle := (if (count : Int) = 0 then
              Cleaner.close saw.old.length target batches.flatten.length (batches.length + 1)
            else c.deletes saw.old.length target left (batches.flatten.length + count)
              (batches.length + 1)).settle
          batches := batches ++ [t.lost (t.dropFirst count)] }, t.dropFirst count) := by
    change (let (cycle, after) :=
        (deleting c saw target (left + 1) batches).cycle.ask (.ofExecutor Table.run clock) t
      ({ deleting c saw target (left + 1) batches with
          cycle := cycle, batches := batches ++ [t.lost after] }, after)) = _
    rw [next]
  rw [whole, t.lost_dropFirst]
  have removed : (batches ++ [t.rows.take count]).flatten.length = batches.flatten.length + count := by
    simp [size]
  have steps : (batches ++ [t.rows.take count]).length = batches.length + 1 := by simp
  change _ = ({ deleting c saw target (left + 1) batches with
    cycle := (c.deletes saw.old.length target (if count = 0 then 0 else left)
      (batches ++ [t.rows.take count]).flatten.length
      (batches ++ [t.rows.take count]).length).settle
    batches := batches ++ [t.rows.take count] }, t.dropFirst count)
  rw [removed, steps]
  -- A delete that removes nothing is the last one.
  by_cases empty : count = 0
  · subst empty
    rfl
  · have nonzero : ¬ (count : Int) = 0 := by omega
    simp only [empty, nonzero, ↓reduceIte, Int.natCast_add]

theorem ask_deleting_refused (c : Cleaner) (saw : Sighting) (target : Int) (left : Nat)
    (batches : List (List Event)) (clock : Clock) (t : Table)
    (refused : ¬ (0 < c.batchSize ∧ Storable target ∧ Storable c.batchSize)) :
    ∃ cause, (deleting c saw target (left + 1) batches).ask clock t =
      (failed c saw cause (batches ++ [[]]), t) := by
  obtain ⟨cause, answer⟩ := Operation.perform_delete_refused t target c.batchSize refused
  have next : (deleting c saw target (left + 1) batches).cycle.ask (.ofExecutor Table.run clock) t =
      (.finished (.error cause), t) := by
    simp only [deleting, Cleaner.deletes, Cycle.settle, Cycle.ask, RetentionStore.ofExecutor, answer]
    rfl
  have none : t.lost t = [] := t.lost_eq_nil t fun _ member => member
  refine ⟨cause, ?_⟩
  change (let (cycle, after) :=
      (deleting c saw target (left + 1) batches).cycle.ask (.ofExecutor Table.run clock) t
    ({ deleting c saw target (left + 1) batches with
        cycle := cycle, batches := batches ++ [t.lost after] }, after)) = _
  rw [next]
  simp only [none]
  rfl

theorem ask_over (w : Worker) (answer : Except Failure CleanResult) (clock : Clock) (t : Table)
    (ended : w.cycle = .finished answer) : w.ask clock t = (w, t) := by
  cases w
  cases ended
  rfl

theorem begun_stage (c : Cleaner) (saw : Sighting) : Stage c (begun c saw) := by
  unfold begun
  cases read : saw.target? with
  | none => exact .idle saw read
  | some target =>
      cases Cleaner.plan? saw.old.length c.batchSize with
      | none => exact .failed saw _ []
      | some planned => exact .deleting saw target _ [] read

theorem begun_sighting (c : Cleaner) (saw : Sighting) :
    (begun c saw).sighting = some saw ∧ (begun c saw).batches = [] := by
  unfold begun
  cases saw.target? with
  | none => exact ⟨rfl, rfl⟩
  | some target =>
      cases Cleaner.plan? saw.old.length c.batchSize with
      | none => exact ⟨rfl, rfl⟩
      | some planned => exact ⟨rfl, rfl⟩

theorem begun_idle (c : Cleaner) (saw : Sighting) (unread : saw.target? = none) :
    begun c saw = idle c saw := by
  simp only [begun, unread]

theorem begun_deleting (c : Cleaner) (saw : Sighting) (target : Int)
    (read : saw.target? = some target) (few : saw.old.length ≤ 2 ^ 53) (positive : 0 < c.batchSize)
    (fits : Storable c.batchSize) :
    begun c saw = deleting c saw target (c.needed saw.old.length) [] := by
  have present : 0 < saw.old.length := List.length_pos_iff.mpr (saw.old_ne_nil target read)
  simp only [begun, read, c.plan_needed _ present few positive fits, Int.toNat_natCast]

/-- What a question can do: the query is the first and removes nothing, and any
    later question removes first rows up to the target at most. -/
structure Asked (w : Worker) (clock : Clock) (t : Table) (after : Worker × Table) : Prop where
  sighting : after.1.sighting = some (w.sighting.getD ⟨clock.cutoff w.cleaner.ttl, t⟩)
  effect : ∃ count, after.2 = t.dropFirst count ∧
    after.1.removed = w.removed ++ t.rows.take count ∧
    (count = 0 ∨ ∃ target, w.target? = some target ∧ count ≤ (t.upTo target).length)

theorem ask_stage (c : Cleaner) (w : Worker) (clock : Clock) (t : Table) (stage : Stage c w) :
    Stage c (w.ask clock t).1 ∧ Asked w clock t (w.ask clock t) := by
  -- A turn after the end of the cycle.
  have still : ∀ (w : Worker) (saw : Sighting), w.sighting = some saw → Asked w clock t (w, t) := by
    intro w saw seen
    refine ⟨by simp [seen], 0, t.dropFirst_zero.symm, ?_, Or.inl rfl⟩
    simp
  cases stage with
  | fresh =>
      obtain ⟨seen, none⟩ := begun_sighting c ⟨clock.cutoff c.ttl, t⟩
      rw [ask_start]
      refine ⟨begun_stage c _, seen, 0, t.dropFirst_zero.symm, ?_, Or.inl rfl⟩
      simp [removed, none, start]
  | idle saw unread =>
      rw [ask_over _ _ clock t rfl]
      exact ⟨.idle saw unread, still _ saw rfl⟩
  | failed saw cause batches =>
      rw [ask_over _ _ clock t rfl]
      exact ⟨.failed saw cause batches, still _ saw rfl⟩
  | deleting saw target left batches read =>
      cases left with
      | zero =>
          rw [ask_over _ _ clock t rfl]
          exact ⟨.deleting saw target 0 batches read, still _ saw rfl⟩
      | succ left =>
          by_cases inside : 0 < c.batchSize ∧ Storable target ∧ Storable c.batchSize
          · rw [ask_deleting c saw target left batches clock t inside.1 inside.2.1 inside.2.2]
            refine ⟨.deleting saw target _ _ read, rfl, _, rfl, ?_,
              Or.inr ⟨target, read, t.taken_le target c.batchSize⟩⟩
            simp [removed, deleting]
          · obtain ⟨cause, same⟩ :=
              ask_deleting_refused c saw target left batches clock t inside
            rw [same]
            refine ⟨.failed saw cause _, rfl, 0, t.dropFirst_zero.symm, ?_, Or.inl rfl⟩
            simp [removed, deleting, failed]

end Worker

/-- Who takes a turn: a cleaner, or another client with one operation. The
    clock is the one who acts reads at that moment. -/
inductive Turn where
  | worker (index : Nat) (clock : Clock)
  | client (clock : Clock) (action : StoreAction)

namespace Turn

def among (admitted : StoreAction → Bool) : Turn → Bool
  | .worker .. => true
  | .client _ action => admitted action

theorem among_imp (few many : StoreAction → Bool) (wider : ∀ a, few a = true → many a = true)
    (turn : Turn) (admitted : turn.among few = true) : turn.among many = true := by
  cases turn with
  | worker index clock => rfl
  | client clock action => exact wider action admitted

def isOf (index : Nat) : Turn → Bool
  | .worker actor _ => actor == index
  | .client .. => false

end Turn

structure Crew where
  table : Table
  workers : List Worker

namespace Crew

def start (t : Table) (cleaners : List Cleaner) : Crew := ⟨t, cleaners.map Worker.start⟩

def take (s : Crew) : Turn → Crew
  | .worker index clock =>
      match s.workers[index]? with
      | none => s
      | some w =>
          let (w, table) := w.ask clock s.table
          ⟨table, s.workers.set index w⟩
  | .client clock action => { s with table := (action.perform Table.run clock s.table).2 }

def run (s : Crew) (turns : List Turn) : Crew := turns.foldl take s

def inserted (s : Crew) (turn : Turn) : List Event := (s.take turn).table.lost s.table

/-- A client inserted a row in the course of some turns. Its identifier was
    then above all others, as long as there are larger ones. -/
def Inserted (s : Crew) (turns : List Turn) (e : Event) : Prop :=
  ∃ past clock action rest, turns = past ++ .client clock action :: rest ∧
    e ∈ (s.run past).inserted (.client clock action) ∧
    ((s.run past).table.Roomy → ∀ r ∈ (s.run past).table.rows, r.id < e.id)

/-! Runs, turn by turn. -/

theorem run_append (s : Crew) (past later : List Turn) :
    s.run (past ++ later) = (s.run past).run later :=
  List.foldl_append

theorem run_snoc (s : Crew) (turns : List Turn) (turn : Turn) :
    s.run (turns ++ [turn]) = (s.run turns).take turn :=
  s.run_append turns [turn]

theorem take_worker (s : Crew) (index : Nat) (clock : Clock) (w : Worker)
    (here : s.workers[index]? = some w) :
    s.take (.worker index clock) =
      ⟨(w.ask clock s.table).2, s.workers.set index (w.ask clock s.table).1⟩ := by
  simp only [take, here]

theorem take_missing (s : Crew) (index : Nat) (clock : Clock) (gone : s.workers[index]? = none) :
    s.take (.worker index clock) = s := by
  simp only [take, gone]

theorem take_length (s : Crew) (turn : Turn) : (s.take turn).workers.length = s.workers.length := by
  cases turn with
  | client clock action => rfl
  | worker index clock =>
      cases here : s.workers[index]? with
      | none => rw [take_missing s index clock here]
      | some w => rw [take_worker s index clock w here, List.length_set]

theorem run_length (t : Table) (cleaners : List Cleaner) (turns : List Turn) :
    ((start t cleaners).run turns).workers.length = cleaners.length := by
  induction turns using List.reverseRecOn with
  | nil => exact List.length_map ..
  | append_singleton past turn ih => rw [run_snoc, take_length, ih]

/-- After a turn a cleaner is as it was, unless the turn was its own. -/
theorem worker_after (s : Crew) (turn : Turn) (index : Nat) (w : Worker)
    (after : (s.take turn).workers[index]? = some w) :
    (s.workers[index]? = some w ∧ ∀ clock, turn ≠ .worker index clock) ∨
      ∃ clock before, turn = .worker index clock ∧ s.workers[index]? = some before ∧
        w = (before.ask clock s.table).1 ∧ (s.take turn).table = (before.ask clock s.table).2 := by
  cases turn with
  | client clock action => exact Or.inl ⟨after, fun _ same => by cases same⟩
  | worker actor clock =>
      cases here : s.workers[actor]? with
      | none =>
          rw [take_missing s actor clock here] at after
          refine Or.inl ⟨after, fun other same => ?_⟩
          cases same
          rw [here] at after
          cases after
      | some before =>
          rw [take_worker s actor clock before here] at after ⊢
          have inside : actor < s.workers.length := (List.getElem?_eq_some_iff.mp here).1
          by_cases own : actor = index
          · subst own
            simp only [List.getElem?_set_self inside, Option.some.injEq] at after
            exact Or.inr ⟨clock, before, rfl, here, after.symm, rfl⟩
          · simp only [List.getElem?_set_ne own] at after
            exact Or.inl ⟨after, fun other same => own (by cases same; rfl)⟩

def Staged (s : Crew) : Prop :=
  ∀ (index : Nat) (w : Worker), s.workers[index]? = some w → ∃ c, Worker.Stage c w

theorem start_staged (t : Table) (cleaners : List Cleaner) : (start t cleaners).Staged := by
  intro index w here
  obtain ⟨c, -, rfl⟩ := List.mem_map.mp (List.mem_of_getElem? here)
  exact ⟨c, .fresh⟩

theorem last_turn (past turns : List Turn) (turn : Turn) (inside : past ++ [turn] <+: turns) :
    turn ∈ turns :=
  inside.subset (List.mem_append_right past (List.mem_singleton_self turn))

/-- What holds of a cleaner before its first turn, and is kept by its own turns
    and by those of the others, holds of it after every run. -/
theorem run_worker (s : Crew) (turns : List Turn) (index : Nat)
    (holds : List Turn → Worker → Prop)
    (first : ∀ w, s.workers[index]? = some w → holds [] w)
    (own : ∀ past clock w, past ++ [.worker index clock] <+: turns →
      (s.run past).workers[index]? = some w → holds past w →
      holds (past ++ [.worker index clock]) (w.ask clock (s.run past).table).1)
    (other : ∀ past turn w, past ++ [turn] <+: turns → (∀ clock, turn ≠ .worker index clock) →
      (s.run past).workers[index]? = some w → holds past w → holds (past ++ [turn]) w)
    (w : Worker) (here : (s.run turns).workers[index]? = some w) : holds turns w := by
  have every : ∀ past, past <+: turns → ∀ w, (s.run past).workers[index]? = some w → holds past w := by
    intro past
    induction past using List.reverseRecOn with
    | nil => exact fun _ w here => first w here
    | append_singleton past turn ih =>
        intro inside w here
        have before := ih ((List.prefix_append past [turn]).trans inside)
        rw [run_snoc] at here
        rcases (s.run past).worker_after turn index w here with
          ⟨same, apart⟩ | ⟨clock, mine, rfl, there, rfl, -⟩
        · exact other past turn w inside apart same (before w same)
        · exact own past clock mine inside there (before mine there)
  exact every turns List.prefix_rfl w here

theorem run_staged (s : Crew) (turns : List Turn) (staged : s.Staged) : (s.run turns).Staged := by
  intro index
  apply s.run_worker turns index fun _ w => ∃ c, Worker.Stage c w
  · exact staged index
  · rintro past clock w - - ⟨c, stage⟩
    exact ⟨c, (Worker.ask_stage c w clock _ stage).1⟩
  · exact fun _ _ _ _ _ _ known => known

theorem Inserted.later (s : Crew) (past turns : List Turn) (e : Event)
    (known : (s.run past).Inserted turns e) : s.Inserted (past ++ turns) e := by
  obtain ⟨before, clock, action, rest, rfl, new, next⟩ := known
  rw [← run_append] at new next
  exact ⟨past ++ before, clock, action, rest, (List.append_assoc ..).symm, new, next⟩

theorem Inserted.snoc (s : Crew) (turns : List Turn) (e : Event) (turn : Turn)
    (known : s.Inserted turns e) : s.Inserted (turns ++ [turn]) e := by
  obtain ⟨past, clock, action, rest, rfl, facts⟩ := known
  exact ⟨past, clock, action, rest ++ [turn], List.append_assoc .., facts⟩

/-- A row that is new after a turn of a cleaner, a create or a delete was
    inserted in that turn. -/
theorem take_rows (s : Crew) (turn : Turn) (staged : s.Staged)
    (admitted : turn.among (fun a => a.isCreate || a.isDelete) = true) (e : Event)
    (member : e ∈ (s.take turn).table.rows) : e ∈ s.table.rows ∨ s.Inserted [turn] e := by
  cases turn with
  | worker index clock =>
      cases here : s.workers[index]? with
      | none =>
          rw [take_missing s index clock here] at member
          exact Or.inl member
      | some w =>
          obtain ⟨c, stage⟩ := staged index w here
          obtain ⟨count, after, -⟩ := (Worker.ask_stage c w clock s.table stage).2.effect
          rw [take_worker s index clock w here] at member
          change e ∈ (w.ask clock s.table).2.rows at member
          rw [after] at member
          exact Or.inl (List.mem_of_mem_drop member)
  | client clock action =>
      have single : action.isSingle = true := by
        cases action <;> first | rfl | exact admitted
      have effect := StoreAction.perform_effect s.table clock action single
      change e ∈ (action.perform Table.run clock s.table).2.rows at member
      generalize same : (action.perform Table.run clock s.table).2 = after at effect member
      cases effect with
      | same => exact Or.inl member
      | revised => cases admitted
      | dropped target batch count reach => exact Or.inl (List.mem_of_mem_drop member)
      | added _ _ _ _ _ _ made fresh fits next series =>
          rcases Table.mem_insertRow.mp member with rfl | old
          · refine Or.inr ⟨[], clock, _, [], rfl, ?_, fun roomy r left => ?_⟩
            · change e ∈ ((StoreAction.perform Table.run clock _ s.table).2).lost s.table
              rw [same, Table.lost_add]
              exact List.mem_singleton_self e
            · rw [next]
              exact s.table.nextId_above roomy r left
          · exact Or.inl old

/-- Among cleaners, creates and deletes each row was there before or has been
    inserted since. -/
theorem run_rows (s : Crew) (turns : List Turn) (staged : s.Staged)
    (admitted : ∀ turn ∈ turns, turn.among (fun a => a.isCreate || a.isDelete) = true) (e : Event)
    (member : e ∈ (s.run turns).table.rows) : e ∈ s.table.rows ∨ s.Inserted turns e := by
  induction turns using List.reverseRecOn with
  | nil => exact Or.inl member
  | append_singleton past turn ih =>
      rw [run_snoc] at member
      have last := admitted turn (List.mem_append_right past (List.mem_singleton_self turn))
      rcases take_rows _ turn (s.run_staged past staged) last e member with before | new
      · rcases ih (fun old inside => admitted old (List.mem_append_left _ inside)) before with
          initial | known
        · exact Or.inl initial
        · exact Or.inr (known.snoc s past e turn)
      · exact Or.inr (new.later s past [turn] e)

/-- What a cleaner saw stays with it. -/
theorem sighting_kept (s : Crew) (turns : List Turn) (staged : s.Staged) (index : Nat)
    (before after : Worker) (saw : Sighting) (here : s.workers[index]? = some before)
    (seen : before.sighting = some saw) (there : (s.run turns).workers[index]? = some after) :
    after.sighting = some saw := by
  apply s.run_worker turns index (fun _ w => w.sighting = some saw) _ _ _ after there
  · intro w same
    rw [here] at same
    cases same
    exact seen
  · intro past clock w _ middle known
    obtain ⟨c, stage⟩ := run_staged s past staged index w middle
    rw [(Worker.ask_stage c w clock _ stage).2.sighting, known]
    rfl
  · exact fun _ _ _ _ _ _ known => known

end Crew

end EventRetention
