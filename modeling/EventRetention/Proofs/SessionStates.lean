import EventRetention.Proofs.WholeActions

/-!
The states that a session goes through on an open table. What a client does
through the database is what it does to the table; so a session in which
clients use the store and move clocks is a table and clocks that change step by
step, and a new identifier is always the next one.
-/

namespace EventRetention

/-! Through the database. -/

namespace Operation

theorem perform_opened (op : Operation String α) (t : Table) :
    op.perform Database.run (.opened (some t)) =
      ((op.perform Table.run t).1, .opened (some (op.perform Table.run t).2)) := by
  simp only [perform]
  cases op.statement with
  | error cause => rfl
  | ok statement =>
      simp only [Database.run, Database.table, bind, Except.bind, pure, Except.pure]
      cases t.run statement with
      | error cause => rfl
      | ok made =>
          simp only
          cases (op.conclude made.2).answer <;> rfl

end Operation

namespace Cycle

theorem run_opened (clock : Clock) (cycle : Cycle) (t : Table) :
    cycle.run (.ofExecutor Database.run clock) (.opened (some t)) =
      ((cycle.run (.ofExecutor Table.run clock) t).1,
        .opened (some (cycle.run (.ofExecutor Table.run clock) t).2)) := by
  induction cycle generalizing t with
  | finished answer => rfl
  | report notice rest ih => simp only [run, ih]
  | query ttl resume ih =>
      simp only [run, RetentionStore.ofExecutor, Operation.perform_opened]
      cases ((Operation.expired clock ttl).perform Table.run t).1.answer with
      | error cause => rfl
      | ok value =>
          simp only
          rw [← RetentionStore.ofExecutor, ← RetentionStore.ofExecutor, ih]
  | delete target batch resume ih =>
      simp only [run, RetentionStore.ofExecutor, Operation.perform_opened]
      cases ((Operation.delete target batch).perform Table.run t).1.answer with
      | error cause => rfl
      | ok value =>
          simp only
          rw [← RetentionStore.ofExecutor, ← RetentionStore.ofExecutor, ih]

end Cycle

theorem clean_opened (clock : Clock) (ttl : Duration) (batchSize : Int) (t : Table) :
    clean Database.run clock ttl batchSize (.opened (some t)) =
      ((clean Table.run clock ttl batchSize t).1,
        .opened (some (clean Table.run clock ttl batchSize t).2)) := by
  unfold clean
  cases Cleaner.make ttl batchSize with
  | error cause => rfl
  | ok cleaner => exact Cycle.run_opened clock cleaner.cycle t

theorem fold_opened (clock : Clock) (o : Fold.Occurrence) (t : Table) :
    fold Database.run clock o (.opened (some t)) =
      ((fold Table.run clock o t).1, .opened (some (fold Table.run clock o t).2)) := by
  simp only [fold, Operation.perform_opened]
  cases ((Fold.lookup o).perform Table.run t).1.answer <;> rfl

namespace StoreAction

theorem perform_opened (clock : Clock) (action : StoreAction) (t : Table) :
    action.perform Database.run clock (.opened (some t)) =
      ((action.perform Table.run clock t).1,
        .opened (some (action.perform Table.run clock t).2)) := by
  cases action with
  | clean ttl batchSize => simp only [perform, clean_opened, Prod.map, id]
  | fold o => simp only [perform, fold_opened, Prod.map, id]
  | _ => simp only [perform, Operation.perform_opened, Prod.map, id]

end StoreAction

/-! Steps on an open table. -/

namespace StoreAction

theorem Change.ids (clock : Clock) (action : StoreAction) (t after : Table)
    (change : Change clock action t after) (id : Int) (member : id ∈ after.ids) :
    id ∈ t.ids ∨ id = t.nextId := by
  obtain ⟨e, present, rfl⟩ := List.mem_map.mp member
  cases change with
  | same => exact Or.inl member
  | added new fresh fits next stamped untouched =>
      rcases Table.mem_insertRow.mp present with same | old
      · exact Or.inr (by rw [same, next])
      · exact Or.inl (List.mem_map_of_mem old)
  | revised id time text count read =>
      rw [Table.revise_ids] at member
      exact Or.inl member
  | dropped count => exact Or.inl (List.mem_map_of_mem (List.mem_of_mem_drop present))

end StoreAction

namespace Action

def isClient : Action → Bool
  | .database _ => false
  | _ => true

end Action

namespace Session

def opened (t : Table) (clocks : List Clock) : Session := ⟨.opened (some t), clocks⟩

def after (s : Session) (steps : List Step) : Session := (s.run steps).2

def rows (s : Session) : List Event :=
  match s.database with
  | .opened (some t) => t.rows
  | _ => []

def ids (s : Session) : List Int := s.rows.map (·.id)

def Roomy (s : Session) : Prop := ∀ id ∈ s.ids, id < 9223372036854775807

theorem after_append (s : Session) (past later : List Step) :
    s.after (past ++ later) = (s.after past).after later := by
  induction past generalizing s with
  | nil => rfl
  | cons first rest ih => exact ih (s.step first).2

theorem after_snoc (s : Session) (steps : List Step) (step : Step) :
    s.after (steps ++ [step]) = ((s.after steps).step step).2 :=
  s.after_append steps [step]

theorem opened_roomy (t : Table) (clocks : List Clock) (roomy : (opened t clocks).Roomy) :
    t.Roomy :=
  fun e member => roomy e.id (List.mem_map_of_mem member)

theorem step_store (t : Table) (clocks : List Clock) (who : Nat) (action : StoreAction) :
    (opened t clocks).step ⟨who, .store action⟩ =
      let done := action.perform Table.run ((opened t clocks).clockOf who) t
      (done.1, opened done.2 clocks) := by
  simp only [step, opened, StoreAction.perform_opened]

def lookup (jobKey reason eventKey : Option String) (who : Nat) : Step :=
  ⟨who, .store (.latest jobKey reason eventKey)⟩

theorem step_lookup (t : Table) (clocks : List Clock) (jobKey reason eventKey : Option String)
    (who : Nat) :
    (opened t clocks).step (lookup jobKey reason eventKey who) =
      ({ answer := .ok (.event (t.latest jobKey reason eventKey)) }, opened t clocks) := by
  rw [lookup, step_store]
  simp only [StoreAction.perform, Operation.perform_latest]
  rfl

/-- A step of a client leaves the table open, and brings in no identifier but
    the next one. -/
theorem step_opened (t : Table) (clocks : List Clock) (step : Step)
    (client : step.action.isClient = true) :
    ∃ after clocks', ((opened t clocks).step step).2 = opened after clocks' ∧
      ∀ id ∈ after.ids, id ∈ t.ids ∨ id = t.nextId := by
  obtain ⟨who, action⟩ := step
  cases action with
  | database action => cases client
  | store action =>
      rw [step_store]
      exact ⟨_, clocks, rfl, (action.perform_change t _).ids⟩
  | clock action =>
      simp only [Session.step]
      cases action.perform ((opened t clocks).clockOf who) with
      | error cause => exact ⟨t, clocks, rfl, fun id member => Or.inl member⟩
      | ok clock => exact ⟨t, clocks.set who clock, rfl, fun id member => Or.inl member⟩

theorem after_opened (t : Table) (clocks : List Clock) (steps : List Step)
    (clients : ∀ step ∈ steps, step.action.isClient = true) :
    ∃ last clocks', (opened t clocks).after steps = opened last clocks' := by
  induction steps generalizing t clocks with
  | nil => exact ⟨t, clocks, rfl⟩
  | cons first rest ih =>
      obtain ⟨next, clocks', same, -⟩ := step_opened t clocks first (clients first List.mem_cons_self)
      have tail := ih next clocks' fun step member => clients step (List.mem_cons_of_mem first member)
      rw [← same] at tail
      exact tail

/-- The tables before and after the last step of a session. -/
theorem snoc_opened (t : Table) (clocks : List Clock) (past : List Step) (step : Step)
    (clients : ∀ old ∈ past ++ [step], old.action.isClient = true) :
    ∃ before clocks' next clocks'', (opened t clocks).after past = opened before clocks' ∧
      (opened t clocks).after (past ++ [step]) = opened next clocks'' ∧
      ∀ id ∈ next.ids, id ∈ before.ids ∨ id = before.nextId := by
  obtain ⟨before, clocks', same⟩ := after_opened t clocks past
    fun old member => clients old (List.mem_append_left [step] member)
  obtain ⟨next, clocks'', last, new⟩ := step_opened before clocks' step
    (clients step (List.mem_append_right past (List.mem_singleton_self step)))
  refine ⟨before, clocks', next, clocks'', same, ?_, new⟩
  rw [after_snoc, same, last]

/-- From an empty table no identifier exceeds the number of steps. -/
theorem ids_short (clocks : List Clock) (steps : List Step)
    (clients : ∀ step ∈ steps, step.action.isClient = true)
    (short : steps.length < 9223372036854775807) :
    ∀ id ∈ ((opened .empty clocks).after steps).ids, id ≤ steps.length := by
  induction steps using List.reverseRecOn with
  | nil => exact List.forall_mem_nil _
  | append_singleton past step ih =>
      rw [List.length_append, List.length_singleton] at short ⊢
      have before := ih (fun old member => clients old (List.mem_append_left [step] member)) (by omega)
      obtain ⟨t, _, next, _, same, last, new⟩ := snoc_opened .empty clocks past step clients
      rw [same] at before
      rw [last]
      have roomy : t.Roomy := by
        intro e member
        have := before e.id (List.mem_map_of_mem member)
        omega
      intro id member
      rcases new id member with old | fresh
      · have := before id old
        omega
      · have := t.nextId_le past.length before roomy
        omega

/-- So there are identifiers left throughout every session that is not
    astronomically long. -/
theorem roomy_short (clocks : List Clock) (steps : List Step)
    (clients : ∀ step ∈ steps, step.action.isClient = true)
    (short : steps.length < 9223372036854775807) (past : List Step) (step : Step)
    (inside : past ++ [step] <+: steps) : ((opened .empty clocks).after past).Roomy := by
  have within : past <+: steps := (List.prefix_append past [step]).trans inside
  have length := within.length_le
  intro id member
  have := ids_short clocks past (fun old present => clients old (within.subset present)) (by omega)
    id member
  omega

end Session

end EventRetention
