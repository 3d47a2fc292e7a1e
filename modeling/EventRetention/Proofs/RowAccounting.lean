import EventRetention.Proofs.ExpiryPrefix
import EventRetention.Proofs.SessionStates
import EventRetention.Proofs.SoleCleaner

/-!
Row accounting. What clients are told adds up: the table has the rows it started
with, one more for every insert that was answered, and less by all that deletes
and cleaning cycles counted. A step that fails is told nothing and changes
nothing. A row that outlasts a step keeps all that updates leave alone.
-/

namespace EventRetention

namespace StoreAction

def inserted (action : StoreAction) (answer : Except Failure (Answer String)) : Int :=
  match action, answer with
  | .create .., .ok _ => 1
  | .fold _, .ok (.folded .created) => 1
  | _, _ => 0

def deleted (action : StoreAction) (answer : Except Failure (Answer String)) : Int :=
  match action, answer with
  | .delete .., .ok (.count n) => n
  | .clean .., .ok (.cleaned result) => result.deleted
  | _, _ => 0

end StoreAction

theorem Event.lasting_iff {a b : Event} :
    a.lasting = b.lasting ↔ a.id = b.id ∧ a.createTime = b.createTime ∧ a.jobKey = b.jobKey ∧
      a.reason = b.reason ∧ a.eventType = b.eventType ∧ a.eventKey = b.eventKey := by
  simp only [lasting, EventOf.mk.injEq]
  tauto

namespace Table

theorem length_add (t : Table) (e : Event) (fresh : ∀ r ∈ t.rows, r.id ≠ e.id)
    (fits : Storable e.id) : (t.add e fresh fits).rows.length = t.rows.length + 1 :=
  (insertRow_perm e t.rows).length_eq

theorem length_revise (t : Table) (id : Int) (time : Instant) (message : String) (count : Int) :
    (t.revise id time message count).rows.length = t.rows.length :=
  List.length_map _

theorem length_dropFirst (t : Table) (count : Nat) (within : count ≤ t.rows.length) :
    ((t.dropFirst count).rows.length : Int) = t.rows.length - count := by
  change ((t.rows.drop count).length : Int) = _
  rw [List.length_drop]
  omega

end Table

/-! One action. -/

/-- The rows after an action are those before it, and what its answer says was
    inserted, without what it says was deleted. -/
def Balanced (action : StoreAction) (t : Table) (answer : Except Failure (Answer String))
    (after : Table) : Prop :=
  (after.rows.length : Int) = t.rows.length + action.inserted answer - action.deleted answer

theorem balanced_failed (action : StoreAction) (t : Table) (cause : Failure) :
    Balanced action t (.error cause) t := by
  cases action <;> simp [Balanced, StoreAction.inserted, StoreAction.deleted]

theorem create_balanced (t : Table) (clock : Clock)
    (jobKey reason eventType message eventKey : Option String) (createTime : Option Reading) :
    let action := StoreAction.create jobKey reason eventType message eventKey createTime
    let done := action.perform Table.run clock t
    Balanced action t done.1.answer done.2 := by
  intro action done
  let created := (Operation.create clock jobKey reason eventType message eventKey
    createTime).perform Table.run t
  change Balanced action t (created.1.answer.map fun _ => .done) created.2
  rcases Operation.create_effect t clock jobKey reason eventType message eventKey createTime with
    ⟨cause, answer, same⟩ | ⟨e, fresh, fits, answer, added, -⟩
  · rw [answer, same]
    exact balanced_failed action t cause
  · rw [answer, added]
    simp [Balanced, StoreAction.inserted, StoreAction.deleted, action, Except.map, t.length_add]

theorem update_balanced (t : Table) (clock : Clock) (id : Int) (message : Option String)
    (count : Int) :
    let action := StoreAction.update id message count
    let done := action.perform Table.run clock t
    Balanced action t done.1.answer done.2 := by
  intro action done
  let updated := (Operation.update clock id message count).perform Table.run t
  change Balanced action t (updated.1.answer.map fun _ => .done) updated.2
  rcases Operation.update_effect t clock id message count with
    ⟨cause, answer, same⟩ | ⟨time, text, answer, after, -⟩
  · rw [answer, same]
    exact balanced_failed action t cause
  · rw [answer, after]
    simp [Balanced, StoreAction.inserted, StoreAction.deleted, action, t.length_revise]

theorem delete_balanced (t : Table) (clock : Clock) (target batch : Int) :
    let action := StoreAction.delete target batch
    let done := action.perform Table.run clock t
    Balanced action t done.1.answer done.2 := by
  intro action done
  let deleted := (Operation.delete target batch).perform Table.run t
  change Balanced action t (deleted.1.answer.map .count) deleted.2
  by_cases inside : 0 < batch ∧ Storable target ∧ Storable batch
  · have within : t.taken target batch ≤ t.rows.length :=
      Nat.le_trans (t.taken_le target batch) (List.length_filter_le _ t.rows)
    have whole : deleted = _ := Operation.perform_delete t target batch inside.1 inside.2.1 inside.2.2
    rw [whole]
    simp [Balanced, StoreAction.inserted, StoreAction.deleted, action, Except.map,
      t.length_dropFirst _ within]
  · obtain ⟨cause, whole⟩ := Operation.perform_delete_refused t target batch inside
    change deleted = _ at whole
    rw [whole]
    exact balanced_failed action t cause

/-- A cycle counts the rows that its deletes removed, also when it stops early. -/
theorem Cleaned.balanced (c : Cleaner) (cutoff : Instant) (t after : Table)
    (answer : Except Failure CleanResult) (ttl : Duration) (batchSize : Int)
    (cleaned : Cleaned c cutoff t answer after) :
    Balanced (.clean ttl batchSize) t (answer.map .cleaned) after := by
  cases cleaned with
  | idle _ => simp [Balanced, StoreAction.inserted, StoreAction.deleted, Except.map]
  | refused cause _ _ => exact balanced_failed _ t cause
  | batched old gone target planned count read plan range most =>
      have within : gone ≤ t.rows.length := by
        have old : (t.expired cutoff).length ≤ t.rows.length := List.length_filter_le ..
        omega
      simp [Balanced, StoreAction.inserted, StoreAction.deleted, Except.map,
        t.length_dropFirst gone within]

theorem clean_balanced (t : Table) (clock : Clock) (ttl : Duration) (batchSize : Int) :
    let action := StoreAction.clean ttl batchSize
    let done := action.perform Table.run clock t
    Balanced action t done.1.answer done.2 := by
  intro action done
  let cleaned := clean Table.run clock ttl batchSize t
  change Balanced action t (cleaned.1.answer.map .cleaned) cleaned.2
  have whole : cleaned = clean Table.run clock ttl batchSize t := rfl
  unfold clean at whole
  cases made : Cleaner.make ttl batchSize with
  | error cause =>
      rw [whole, made]
      exact balanced_failed action t cause
  | ok c =>
      rw [whole, made]
      exact (cycle_cleaned c t clock (make_positive ttl batchSize c made)).balanced c _ t _ _ _ _

theorem fold_balanced (t : Table) (clock : Clock) (o : Fold.Occurrence) :
    let action := StoreAction.fold o
    let done := action.perform Table.run clock t
    Balanced action t done.1.answer done.2 := by
  intro action done
  let folded := fold Table.run clock o t
  change Balanced action t (folded.1.answer.map .folded) folded.2
  have whole : folded = _ := Fold.fold_write t clock o
  rw [whole]
  cases Fold.found t o with
  | none =>
      rcases Fold.write_none t clock o with
        ⟨cause, answer, same⟩ | ⟨e, fresh, fits, answer, added, -⟩
      · rw [answer, same]
        exact balanced_failed action t cause
      · rw [answer, added]
        simp [Balanced, StoreAction.inserted, StoreAction.deleted, action, Except.map, t.length_add]
  | some e =>
      rcases Fold.write_some t clock o e with
        ⟨cause, answer, same⟩ | ⟨time, text, answer, after, -⟩
      · rw [answer, same]
        exact balanced_failed action t cause
      · rw [answer, after]
        simp [Balanced, StoreAction.inserted, StoreAction.deleted, action, Except.map,
          t.length_revise]

theorem query_balanced (action : StoreAction) (t : Table) (answer : Except Failure (Answer String))
    (after : Table) (query : action.isQuery = true) (same : after = t) :
    Balanced action t answer after := by
  subst same
  cases action with
  | latest jobKey reason eventKey => simp [Balanced, StoreAction.inserted, StoreAction.deleted]
  | events jobKey reason => simp [Balanced, StoreAction.inserted, StoreAction.deleted]
  | expired ttl => simp [Balanced, StoreAction.inserted, StoreAction.deleted]
  | _ => cases query

namespace StoreAction

theorem perform_balanced (t : Table) (clock : Clock) (action : StoreAction) :
    let done := action.perform Table.run clock t
    Balanced action t done.1.answer done.2 := by
  cases action with
  | create jobKey reason eventType message eventKey createTime =>
      exact create_balanced t clock jobKey reason eventType message eventKey createTime
  | update id message count => exact update_balanced t clock id message count
  | delete target batch => exact delete_balanced t clock target batch
  | clean ttl batchSize => exact clean_balanced t clock ttl batchSize
  | fold o => exact fold_balanced t clock o
  | latest jobKey reason eventKey =>
      exact query_balanced _ t _ _ rfl
        (congrArg Prod.snd (Operation.perform_latest t jobKey reason eventKey))
  | events jobKey reason =>
      exact query_balanced _ t _ _ rfl (Operation.perform_events t jobKey reason)
  | expired ttl =>
      exact query_balanced _ t _ _ rfl (congrArg Prod.snd (Operation.perform_expired t clock ttl))

/-- A row that is still there after an action keeps all that updates leave
    alone. -/
theorem Change.lasting (clock : Clock) (action : StoreAction) (t after : Table)
    (change : Change clock action t after) (row later : Event) (before : row ∈ t.rows)
    (still : later ∈ after.rows) (same : later.id = row.id) : later.lasting = row.lasting := by
  cases change with
  | same => rw [t.id_unique later row still before same]
  | added e fresh fits next stamped untouched =>
      rcases Table.mem_insertRow.mp still with new | old
      · exact absurd (same.symm.trans (congrArg EventOf.id new)) (fresh row before)
      · rw [t.id_unique later row old before same]
  | revised id time text count read =>
      obtain ⟨old, present, rfl⟩ := List.mem_map.mp still
      have kept : ∀ e : Event,
          (if e.id = id then Table.repeated e time text count else e).id = e.id ∧
            (if e.id = id then Table.repeated e time text count else e).lasting = e.lasting := by
        intro e
        split <;> exact ⟨rfl, rfl⟩
      rw [(kept old).2, t.id_unique old row present before ((kept old).1.symm.trans same)]
  | dropped count => rw [t.id_unique later row (List.mem_of_mem_drop still) before same]

end StoreAction

/-! Whole sessions. -/

namespace Session

def reported (count : StoreAction → Except Failure (Answer String) → Int) (s : Session)
    (steps : List Step) : Int :=
  ((steps.zip (s.run steps).1).map fun (step, outcome) =>
    match step.action with
    | .store action => count action outcome.answer
    | _ => 0).sum

/-- A step that moves a clock leaves the table alone. -/
theorem step_clock_opened (t : Table) (clocks : List Clock) (who : Nat) (action : ClockAction) :
    ∃ clocks', ((opened t clocks).step ⟨who, .clock action⟩).2 = opened t clocks' := by
  simp only [Session.step]
  cases action.perform ((opened t clocks).clockOf who) with
  | error cause => exact ⟨clocks, rfl⟩
  | ok clock => exact ⟨clocks.set who clock, rfl⟩

theorem run_balanced (t : Table) (clocks : List Clock) (steps : List Step)
    (clients : ∀ step ∈ steps, step.action.isClient = true) :
    let start := opened t clocks
    ((start.after steps).rows.length : Int) = t.rows.length +
      start.reported StoreAction.inserted steps - start.reported StoreAction.deleted steps := by
  intro start
  induction steps generalizing t clocks with
  | nil => simp [reported, run, start, after, rows, opened]
  | cons first rest ih =>
      have later := fun t clocks => ih t clocks fun step member =>
        clients step (List.mem_cons_of_mem first member)
      have both (count : StoreAction → Except Failure (Answer String) → Int) :
          start.reported count (first :: rest) =
            (match first.action with
              | .store own => count own (start.step first).1.answer
              | _ => 0) + (start.step first).2.reported count rest := rfl
      rw [both, both]
      change (((start.step first).2.after rest).rows.length : Int) = _
      obtain ⟨who, action⟩ := first
      cases action with
      | database action => cases clients _ List.mem_cons_self
      | clock action =>
          obtain ⟨clocks', same⟩ := step_clock_opened t clocks who action
          simp only [start, same]
          rw [later]
          omega
      | store action =>
          have balanced := action.perform_balanced t (start.clockOf who)
          unfold Balanced at balanced
          simp only [start, step_store] at balanced ⊢
          rw [later]
          omega

/-- The rows before and after the last step of a run. -/
theorem snoc_lasting (t : Table) (clocks : List Clock) (past : List Step) (step : Step)
    (clients : ∀ old ∈ past ++ [step], old.action.isClient = true) (row later : Event)
    (before : row ∈ ((opened t clocks).after past).rows)
    (still : later ∈ ((opened t clocks).after (past ++ [step])).rows) (same : later.id = row.id) :
    later.lasting = row.lasting := by
  obtain ⟨last, clocks', whole⟩ := after_opened t clocks past
    fun old member => clients old (List.mem_append_left [step] member)
  have client := clients step (List.mem_append_right past (List.mem_singleton_self step))
  rw [after_snoc, whole] at still
  rw [whole] at before
  obtain ⟨who, action⟩ := step
  cases action with
  | database action => cases client
  | clock action =>
      obtain ⟨clocks'', unchanged⟩ := step_clock_opened last clocks' who action
      rw [unchanged] at still
      rw [last.id_unique later row still before same]
  | store action =>
      rw [step_store] at still
      exact (action.perform_change last _).lasting _ _ _ _ row later before still same

/-- At any time in a run of clients, from any table, there are the rows of the
    start and those that were reported as inserted, less those that were
    reported as deleted; and in each step a row that stays keeps its identifier,
    creation time, type and keys. -/
theorem rows_accounted (t : Table) (clocks : List Clock) (steps : List Step)
    (clients : ∀ step ∈ steps, step.action.isClient = true) :
    let start := opened t clocks
    (∀ past, past <+: steps → ((start.after past).rows.length : Int) = t.rows.length +
      start.reported StoreAction.inserted past - start.reported StoreAction.deleted past) ∧
    ∀ past step, past ++ [step] <+: steps → ∀ row ∈ (start.after past).rows,
      ∀ later ∈ (start.after (past ++ [step])).rows, later.id = row.id →
        later.createTime = row.createTime ∧ later.jobKey = row.jobKey ∧
          later.reason = row.reason ∧ later.eventType = row.eventType ∧
          later.eventKey = row.eventKey := by
  intro start
  constructor
  · intro past inside
    exact run_balanced t clocks past fun step member => clients step (inside.subset member)
  · intro past step inside row before later still same
    have kept := snoc_lasting t clocks past step
      (fun old member => clients old (inside.subset member)) row later before still same
    exact (Event.lasting_iff.mp kept).2

/-! Two clients on four old rows: an event that is created, one that is refused,
a fold that creates and one that counts, a delete of two rows, and a cycle of
two batches. -/

def busy : List Step :=
  let occurrence (message : String) : Fold.Occurrence :=
    ⟨some "job", some "reason", some "other", some message⟩
  [⟨0, .store (.create (some "job") (some "reason") (some "Normal") (some "text") (some "own") none)⟩,
    ⟨1, .store (.create (some "job") (some "reason") (some "Normal") none (some "own") none)⟩,
    ⟨1, .store (.fold (occurrence "once"))⟩, ⟨0, .clock (.advance ⟨60000000⟩)⟩,
    ⟨0, .store (.fold (occurrence "twice"))⟩, ⟨1, .store (.delete 5 9)⟩,
    ⟨0, .store (.clean ⟨3600000000⟩ 1)⟩]

theorem rows_accounted_busy :
    let start := opened Operation.skewedTable [.settable Clock.defaultStart]
    (∀ step ∈ busy, step.action.isClient = true) ∧
      start.reported StoreAction.inserted busy = 2 ∧ start.reported StoreAction.deleted busy = 4 ∧
      (start.after busy).rows.length = 2 ∧
      ∀ row ∈ (start.after (busy.take 4)).rows, ∀ later ∈ (start.after (busy.take 5)).rows,
        later.id = row.id → later.createTime = row.createTime := by
  intro start
  have clients : ∀ step ∈ busy, step.action.isClient = true := by decide
  have inserted : start.reported StoreAction.inserted busy = 2 := by decide +kernel
  have deleted : start.reported StoreAction.deleted busy = 4 := by decide +kernel
  obtain ⟨counts, kept⟩ := rows_accounted Operation.skewedTable [.settable Clock.defaultStart] busy
    clients
  refine ⟨clients, inserted, deleted, ?_, fun row before later still same => ?_⟩
  · have whole := counts busy List.prefix_rfl
    change ((start.after busy).rows.length : Int) =
      4 + start.reported StoreAction.inserted busy - start.reported StoreAction.deleted busy at whole
    omega
  · exact (kept (busy.take 4) _ (List.take_prefix 5 busy) row before later still same).1

end Session

end EventRetention
