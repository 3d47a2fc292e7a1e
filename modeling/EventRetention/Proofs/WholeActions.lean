import EventRetention.Proofs.BatchPlan
import EventRetention.Proofs.StatementEffects

/-!
Actions run to their end on a table that nobody else uses meanwhile. A fold
comes down to its write, and a cleaning cycle drops a prefix of the table: in
the working range exactly the expired rows, in as many batches as they need.
-/

namespace EventRetention

/-! Folds. -/

namespace Fold

theorem perform_answering (execute : Executor σ τ) (value : β) (op : Operation τ α) (s : σ) :
    (answering value op).perform execute s =
      ((op.perform execute s).1.map fun _ => value, (op.perform execute s).2) := by
  simp only [Operation.perform, answering]
  cases op.statement with
  | error cause => rfl
  | ok statement =>
      cases ran : execute s statement with
      | error cause => simp only [ran]; rfl
      | ok made =>
          simp only [ran]
          cases done : (op.conclude made.2).answer with
          | error cause => simp only [Except.map, Outcome.map, done]
          | ok _ => simp only [Except.map, Outcome.map, done]

def found (t : Table) (o : Occurrence) : Option Event :=
  (t.rows.filter (·.inSeries o.jobKey o.reason o.eventKey)).getLast?

theorem found_iff (t : Table) (o : Occurrence) (e : Event) :
    found t o = some e ↔ e ∈ t.rows ∧ e.inSeries o.jobKey o.reason o.eventKey = true ∧
      ∀ r ∈ t.rows, r.inSeries o.jobKey o.reason o.eventKey = true → r.id ≤ e.id :=
  t.latest_iff o.jobKey o.reason o.eventKey e

theorem found_none (t : Table) (o : Occurrence) :
    found t o = none ↔ ∀ r ∈ t.rows, r.inSeries o.jobKey o.reason o.eventKey = false :=
  t.latest_none o.jobKey o.reason o.eventKey

theorem perform_lookup (t : Table) (o : Occurrence) :
    (lookup o).perform Table.run t = ({ answer := .ok (found t o) }, t) :=
  Operation.perform_latest t o.jobKey o.reason o.eventKey

/-- A fold is the write that follows from what its lookup finds. -/
theorem fold_write (t : Table) (clock : Clock) (o : Occurrence) :
    fold Table.run clock o t = (write clock o (found t o)).perform Table.run t := by
  simp only [fold, perform_lookup, List.nil_append]

/-- The write of a fold that found nothing creates a row or fails. -/
theorem write_none (t : Table) (clock : Clock) (o : Occurrence) :
    let done := (write clock o none).perform Table.run t
    (∃ cause, done.1.answer = .error cause ∧ done.2 = t) ∨
      ∃ e fresh fits, done.1.answer = .ok .created ∧ done.2 = t.add e fresh fits ∧
        Operation.Created t clock o.jobKey o.reason (some EventType.normal.label) o.message
          o.eventKey none e := by
  intro done
  have whole : done = _ := perform_answering Table.run Folded.created _ t
  rcases Operation.create_effect t clock o.jobKey o.reason (some EventType.normal.label) o.message
    o.eventKey none with ⟨cause, answer, same⟩ | ⟨e, fresh, fits, answer, added, made⟩
  · exact Or.inl ⟨cause, by rw [whole]; simp only [Outcome.map, answer]; rfl, by rw [whole]; exact same⟩
  · exact Or.inr ⟨e, fresh, fits, by rw [whole]; simp only [Outcome.map, answer]; rfl,
      by rw [whole]; exact added, made⟩

/-- The write of a fold that found an event counts one more in its row, if the
    row is still there, or fails. -/
theorem write_some (t : Table) (clock : Clock) (o : Occurrence) (e : Event) :
    let done := (write clock o (some e)).perform Table.run t
    (∃ cause, done.1.answer = .error cause ∧ done.2 = t) ∨
      ∃ time text, done.1.answer = .ok (.updated e.id (e.eventCount + 1)) ∧
        done.2 = t.revise e.id time text (e.eventCount + 1) ∧ e.id ∈ t.ids ∧
        clock.instant = .ok time ∧ o.message = some text := by
  intro done
  have whole : done = _ := perform_answering Table.run (Folded.updated e.id (e.eventCount + 1)) _ t
  rcases Operation.update_effect t clock e.id o.message (e.eventCount + 1) with
    ⟨cause, answer, same⟩ | ⟨time, text, answer, after, facts⟩
  · exact Or.inl ⟨cause, by rw [whole]; simp only [Outcome.map, answer]; rfl, by rw [whole]; exact same⟩
  · exact Or.inr ⟨time, text, by rw [whole]; simp only [Outcome.map, answer]; rfl,
      by rw [whole]; exact after, facts⟩

end Fold

/-! Cleaning cycles. -/

namespace Cycle

/-- Whatever a cycle asks and however it ends, it only drops first rows. -/
theorem run_drops (clock : Clock) (cycle : Cycle) (t : Table) :
    ∃ count, (cycle.run (.ofExecutor Table.run clock) t).2 = t.dropFirst count := by
  induction cycle generalizing t with
  | finished answer => exact ⟨0, t.dropFirst_zero.symm⟩
  | report notice rest ih => exact ih t
  | query ttl resume ih =>
      simp only [run, RetentionStore.ofExecutor, Operation.perform_expired]
      exact ih _ t
  | delete target batch resume ih =>
      obtain ⟨count, -, dropped⟩ := Operation.delete_effect t target batch
      simp only [run, RetentionStore.ofExecutor]
      cases (Operation.perform Table.run (Operation.delete target batch) t).1.answer with
      | error cause => exact ⟨count, dropped⟩
      | ok n =>
          obtain ⟨more, after⟩ := ih n (t.dropFirst count)
          refine ⟨count + more, ?_⟩
          rw [← t.dropFirst_dropFirst, ← after, dropped]
          rfl

end Cycle

namespace Cleaner

/-- Planned deletes remove as many of the rows up to the target as they hold, and
    all are made unless one before the last finds nothing left. -/
theorem deletes_run (c : Cleaner) (records target : Int) (clock : Clock)
    (positive : 0 < c.batchSize) (fits : Storable c.batchSize) (reach : Storable target)
    (planned : Nat) (deleted : Int) (batches : Nat) (t : Table) :
    let gone := min (planned * c.width) (t.upTo target).length
    let done := (c.deletes records target planned deleted batches).run
      (.ofExecutor Table.run clock) t
    done.1.answer = .ok ⟨records, some target, deleted + gone,
        batches + min planned (c.needed (t.upTo target).length + 1)⟩ ∧
      done.2 = t.dropFirst gone := by
  have width := c.width_pos positive
  induction planned generalizing deleted batches t with
  | zero =>
      simp only [Nat.zero_mul, Nat.zero_min, t.dropFirst_zero]
      simp [deletes, close, Cycle.run]
  | succ planned ih =>
      have size := t.upTo_length_dropFirst target (t.taken target c.batchSize)
      have count : t.taken target c.batchSize = min c.width (t.upTo target).length := rfl
      simp only [deletes, Cycle.run, RetentionStore.ofExecutor,
        Operation.perform_delete t target c.batchSize positive reach fits]
      -- A delete that finds nothing is the last, even if more are planned.
      by_cases empty : (t.upTo target).length = 0
      · have nothing : t.taken target c.batchSize = 0 := by omega
        simp only [nothing, empty, Int.natCast_zero, ↓reduceIte, Nat.min_zero, c.needed_zero positive]
        simp [close, Cycle.run]
      · have some : (t.taken target c.batchSize : Int) ≠ 0 := by omega
        have step := c.needed_step (t.upTo target).length (by omega) positive
        have left : (t.upTo target).length - t.taken target c.batchSize =
            (t.upTo target).length - c.width := by omega
        obtain ⟨answer, after⟩ := ih (deleted + t.taken target c.batchSize) (batches + 1)
          (t.dropFirst (t.taken target c.batchSize))
        rw [size, left] at answer after
        rw [Nat.succ_mul]
        simp only [some, ↓reduceIte]
        constructor
        · refine answer.trans ?_
          rw [step]
          congr 2
          · omega
          · omega
        · refine after.trans ?_
          rw [t.dropFirst_dropFirst]
          congr 1
          omega

/-- Planned deletes of a size that no delete accepts: the first one fails. -/
theorem deletes_refused (c : Cleaner) (records target : Int) (clock : Clock)
    (refused : ¬ Storable c.batchSize) (planned : Nat) (deleted : Int) (batches : Nat) (t : Table)
    (some : planned ≠ 0) :
    ∃ cause, (c.deletes records target planned deleted batches).run
      (.ofExecutor Table.run clock) t = ({ answer := .error cause }, t) := by
  cases planned with
  | zero => exact absurd rfl some
  | succ planned =>
      obtain ⟨cause, same⟩ := Operation.perform_delete_refused t target c.batchSize
        fun inside => refused inside.2.2
      refine ⟨cause, ?_⟩
      simp only [deletes, Cycle.run, RetentionStore.ofExecutor, same]

/-- A cycle on an open table goes on with what the expiry query reads there. -/
theorem cycle_query (c : Cleaner) (t : Table) (clock : Clock) :
    c.cycle.run (.ofExecutor Table.run clock) t =
      (c.afterQuery (some ⟨(t.expired (clock.cutoff c.ttl)).length,
        (t.expiry (clock.cutoff c.ttl)).2⟩)).run (.ofExecutor Table.run clock) t := by
  simp only [Cleaner.cycle, Cycle.run, RetentionStore.ofExecutor, Operation.perform_expired,
    List.nil_append]
  rfl

end Cleaner

theorem make_ok (ttl : Duration) (batchSize : Int) (later : 0 < ttl) (positive : 0 < batchSize) :
    Cleaner.make ttl batchSize = .ok ⟨ttl, batchSize⟩ := by
  have ttlOk : ¬ ttl ≤ 0 := Int.not_le.mpr later
  have sizeOk : ¬ batchSize ≤ 0 := Int.not_le.mpr positive
  simp only [Cleaner.make, ttlOk, sizeOk, ↓reduceIte]

theorem make_positive (ttl : Duration) (batchSize : Int) (c : Cleaner)
    (made : Cleaner.make ttl batchSize = .ok c) : 0 < c.batchSize := by
  unfold Cleaner.make at made
  split at made
  · cases made
  · split at made
    · cases made
    · rename_i size
      cases made
      exact Int.not_le.mp size

theorem clean_drops (t : Table) (clock : Clock) (ttl : Duration) (batchSize : Int) :
    ∃ count, (clean Table.run clock ttl batchSize t).2 = t.dropFirst count := by
  unfold clean
  cases Cleaner.make ttl batchSize with
  | error cause => exact ⟨0, t.dropFirst_zero.symm⟩
  | ok cleaner => exact Cycle.run_drops clock cleaner.cycle t

/-- What a cycle with nobody else at work can come to: nothing is expired, or a
    number is out of range, or planned batches are deleted. -/
inductive Cleaned (c : Cleaner) (cutoff : Instant) (t : Table) :
    Except Failure CleanResult → Table → Prop where
  | idle (fresh : t.expired cutoff = []) : Cleaned c cutoff t (.ok ⟨0, none, 0, 0⟩) t
  | refused (cause : Failure) (present : t.expired cutoff ≠ [])
      (range : Cleaner.plan? (t.expired cutoff).length c.batchSize = none ∨ ¬ Storable c.batchSize) :
      Cleaned c cutoff t (.error cause) t
  | batched (old gone : Nat) (target planned : Int) (count : (t.expired cutoff).length = old)
      (read : (t.expiry cutoff).2 = some target)
      (plan : Cleaner.plan? old c.batchSize = some planned)
      (range : planned.toNat = 0 ∨ Storable c.batchSize)
      (most : gone = min (planned.toNat * c.width) old) :
      Cleaned c cutoff t
        (.ok ⟨old, some target, gone, min planned.toNat (c.needed old + 1)⟩) (t.dropFirst gone)

theorem cycle_cleaned (c : Cleaner) (t : Table) (clock : Clock) (positive : 0 < c.batchSize) :
    let done := c.cycle.run (.ofExecutor Table.run clock) t
    Cleaned c (clock.cutoff c.ttl) t done.1.answer done.2 := by
  intro done
  let old := t.expired (clock.cutoff c.ttl)
  have query : done = (c.afterQuery (some ⟨old.length, (t.expiry (clock.cutoff c.ttl)).2⟩)).run
      (.ofExecutor Table.run clock) t := c.cycle_query t clock
  rw [query]
  cases read : (t.expiry (clock.cutoff c.ttl)).2 with
  | none => exact .idle ((t.target_none (clock.cutoff c.ttl)).mp read)
  | some target =>
      have rows : t.upTo target = old := t.upTo_target (clock.cutoff c.ttl) target read
      have present : old ≠ [] := t.expired_ne_nil (clock.cutoff c.ttl) target read
      have nonzero : (old.length : Int) ≠ 0 := by simpa using present
      simp only [Cleaner.afterQuery, nonzero, ↓reduceIte]
      cases plan : Cleaner.plan? old.length c.batchSize with
      | none => exact .refused _ present (Or.inl plan)
      | some planned =>
          simp only [Cycle.run]
          by_cases fits : Storable c.batchSize
          · obtain ⟨answer, after⟩ := c.deletes_run old.length target clock positive fits
              (t.target_storable (clock.cutoff c.ttl) target read) planned.toNat 0 0 t
            rw [rows, Int.zero_add, Nat.zero_add] at answer
            rw [answer, after, rows]
            exact .batched old.length _ target planned rfl read plan (Or.inr fits) rfl
          -- Without a planned delete nobody looks at the batch size.
          · by_cases none : planned.toNat = 0
            · have whole := Cleaned.batched (c := c) old.length 0 target planned rfl read plan
                (Or.inl none) (by simp [none])
              rw [none, Nat.zero_min, t.dropFirst_zero] at whole
              rw [none]
              exact whole
            · obtain ⟨cause, refused⟩ := c.deletes_refused old.length target clock fits
                planned.toNat 0 0 t none
              rw [refused]
              exact .refused cause present (Or.inr fits)

theorem clean_cleaned (t : Table) (clock : Clock) (ttl : Duration) (batchSize : Int)
    (later : 0 < ttl) (positive : 0 < batchSize) :
    let done := clean Table.run clock ttl batchSize t
    Cleaned ⟨ttl, batchSize⟩ (clock.cutoff ttl) t done.1.answer done.2 := by
  simp only [clean, make_ok ttl batchSize later positive]
  exact cycle_cleaned ⟨ttl, batchSize⟩ t clock positive

/-- Where nothing is expired a cycle does nothing, whatever its batch size. -/
theorem Cleaned.nothing (c : Cleaner) (cutoff : Instant) (t after : Table)
    (answer : Except Failure CleanResult) (fresh : t.expired cutoff = [])
    (cleaned : Cleaned c cutoff t answer after) : answer = .ok ⟨0, none, 0, 0⟩ ∧ after = t := by
  cases cleaned with
  | idle _ => exact ⟨rfl, rfl⟩
  | refused _ present _ => exact absurd fresh present
  | batched _ _ target _ _ read _ _ _ => exact absurd fresh (t.expired_ne_nil cutoff target read)

/-- In the working range exactly the expired rows go. -/
theorem Cleaned.exact (c : Cleaner) (cutoff : Instant) (t after : Table)
    (answer : Except Failure CleanResult) (positive : 0 < c.batchSize) (fits : Storable c.batchSize)
    (few : (t.expired cutoff).length ≤ 2 ^ 53) (cleaned : Cleaned c cutoff t answer after) :
    let old := (t.expired cutoff).length
    answer = .ok ⟨old, (t.expiry cutoff).2, old, c.needed old⟩ ∧ after = t.dropFirst old := by
  cases cleaned with
  | idle fresh =>
      simp [fresh, (t.target_none cutoff).mpr fresh, c.needed_zero positive, t.dropFirst_zero]
  | refused cause present range =>
      have plan := c.plan_needed _ (List.length_pos_iff.mpr present) few positive fits
      rcases range with none | outside
      · cases none.symm.trans plan
      · exact absurd fits outside
  | batched old gone target planned count read plan range most =>
      subst count
      have present : 0 < (t.expired cutoff).length :=
        List.length_pos_iff.mpr (t.expired_ne_nil cutoff target read)
      cases plan.symm.trans (c.plan_needed _ present few positive fits)
      have covered := c.needed_covers (t.expired cutoff).length positive
      have all : gone = (t.expired cutoff).length := by
        rw [Int.toNat_natCast] at most
        omega
      simp [all, read]

/-- A cycle with nobody else at work removes the expired rows and no others,
    and counts them and its batches exactly. -/
theorem clean_exact (t : Table) (clock : Clock) (ttl : Duration) (batchSize : Int) (later : 0 < ttl)
    (positive : 0 < batchSize) (fits : Storable batchSize)
    (few : (t.expired (clock.cutoff ttl)).length ≤ 2 ^ 53) :
    let old := t.expired (clock.cutoff ttl)
    let done := clean Table.run clock ttl batchSize t
    done.1.answer = .ok ⟨old.length, (t.expiry (clock.cutoff ttl)).2, old.length,
        Cleaner.needed ⟨ttl, batchSize⟩ old.length⟩ ∧
      done.2 = t.dropFirst old.length :=
  (clean_cleaned t clock ttl batchSize later positive).exact _ _ t _ _ positive fits few

/-! What any whole action can make of a table. -/

namespace StoreAction

def stamp (clock : Clock) : StoreAction → Reading
  | .create _ _ _ _ _ createTime => createTime.getD clock.now
  | _ => clock.now

inductive Change (clock : Clock) (action : StoreAction) (t : Table) : Table → Prop where
  | same : Change clock action t t
  | added (e : Event) (fresh : ∀ r ∈ t.rows, r.id ≠ e.id) (fits : Storable e.id)
      (next : e.id = t.nextId) (stamped : Clock.normalise (action.stamp clock) = .ok e.createTime)
      (untouched : e.updateTime = e.createTime) : Change clock action t (t.add e fresh fits)
  | revised (id : Int) (time : Instant) (text : String) (count : Int)
      (read : clock.instant = .ok time) : Change clock action t (t.revise id time text count)
  | dropped (count : Nat) : Change clock action t (t.dropFirst count)

theorem create_change (t : Table) (clock : Clock) (action : StoreAction)
    (jobKey reason eventType message eventKey : Option String) (createTime : Option Reading)
    (stamp : action.stamp clock = createTime.getD clock.now) :
    Change clock action t ((Operation.create clock jobKey reason eventType message eventKey
      createTime).perform Table.run t).2 := by
  rcases Operation.create_effect t clock jobKey reason eventType message eventKey createTime with
    ⟨cause, -, same⟩ | ⟨e, fresh, fits, -, added, made⟩
  · rw [same]
    exact .same
  · rw [added]
    exact .added e fresh fits made.id (by rw [stamp]; exact made.time) made.untouched

theorem update_change (t : Table) (clock : Clock) (action : StoreAction) (id : Int)
    (message : Option String) (count : Int) :
    Change clock action t ((Operation.update clock id message count).perform Table.run t).2 := by
  rcases Operation.update_effect t clock id message count with
    ⟨cause, -, same⟩ | ⟨time, text, -, same, -, read, -⟩
  · rw [same]
    exact .same
  · rw [same]
    exact .revised id time text count read

theorem perform_change (t : Table) (clock : Clock) (action : StoreAction) :
    Change clock action t (action.perform Table.run clock t).2 := by
  cases action with
  | create jobKey reason eventType message eventKey createTime =>
      exact create_change t clock _ jobKey reason eventType message eventKey createTime rfl
  | update id message count => exact update_change t clock _ id message count
  | delete target batch =>
      obtain ⟨count, -, same⟩ := Operation.delete_effect t target batch
      change Change _ _ _ ((Operation.delete target batch).perform Table.run t).2
      rw [same]
      exact .dropped count
  | latest jobKey reason eventKey =>
      change Change _ _ _ ((Operation.latest jobKey reason eventKey).perform Table.run t).2
      rw [Operation.perform_latest]
      exact .same
  | events jobKey reason =>
      change Change _ _ _ ((Operation.events jobKey reason).perform Table.run t).2
      rw [Operation.perform_events]
      exact .same
  | expired ttl =>
      change Change _ _ _ ((Operation.expired clock ttl).perform Table.run t).2
      rw [Operation.perform_expired]
      exact .same
  | clean ttl batchSize =>
      obtain ⟨count, same⟩ := clean_drops t clock ttl batchSize
      change Change _ _ _ (EventRetention.clean Table.run clock ttl batchSize t).2
      rw [same]
      exact .dropped count
  | fold o =>
      change Change _ _ _ (EventRetention.fold Table.run clock o t).2
      rw [Fold.fold_write]
      cases Fold.found t o with
      | none =>
          simp only [Fold.write, Fold.perform_answering]
          exact create_change t clock _ _ _ _ _ _ none rfl
      | some e =>
          simp only [Fold.write, Fold.perform_answering]
          exact update_change t clock _ e.id o.message (e.eventCount + 1)

end StoreAction

end EventRetention
