import EventRetention.Proofs.ExpiryPrefix
import EventRetention.Proofs.SessionStates

/-!
The law of bounded deletes. A delete takes, of the rows up to its target, those
with the lowest identifiers, as many as its batch allows, and leaves the others
as they are. What one delete leaves the next one goes on with, so that deletes
in a row, whoever makes them, take what a single one takes whose batch is as
large as theirs together.
-/

namespace EventRetention

/-- Of some rows the lowest are gone and the others kept: as many are gone as
    the batch allows and identifiers reach up to the target. -/
structure LowestGone (rows gone kept : List Event) (target batch : Int) : Prop where
  parted : rows = gone ++ kept
  reached : ∀ e ∈ gone, e.id ≤ target
  lowest : ∀ e ∈ gone, ∀ r ∈ kept, e.id < r.id
  count : (gone.length : Int) = min batch (rows.countP fun e => decide (e.id ≤ target))

namespace Table

theorem lowest_gone (t : Table) (target batch : Int) (positive : 0 < batch) :
    LowestGone t.rows (t.rows.take (t.taken target batch)) (t.rows.drop (t.taken target batch))
      target batch where
  parted := (List.take_append_drop _ t.rows).symm
  reached := by
    intro e member
    have early := List.take_subset_take_left t.rows (t.taken_le target batch) member
    rw [← upTo_eq_take] at early
    exact ((t.mem_upTo target e).mp early).2
  lowest := early_below_late t.rows t.ascending _
  count := by
    rw [length_take_taken, List.countP_eq_length_filter]
    change ((min batch.toNat (t.upTo target).length : Nat) : Int) = min batch (t.upTo target).length
    omega

/-- Two batches one after the other take as many rows as one of their sum. -/
theorem taken_add (t : Table) (target first second : Int) (nonneg : 0 ≤ first)
    (further : 0 ≤ second) :
    t.taken target first + (t.dropFirst (t.taken target first)).taken target second =
      t.taken target (first + second) := by
  unfold taken
  rw [upTo_length_dropFirst]
  omega

end Table

namespace Session

def deletion (target batch : Int) (who : Nat) : Step := ⟨who, .store (.delete target batch)⟩

theorem step_deletion (t : Table) (clocks : List Clock) (target batch : Int) (who : Nat)
    (positive : 0 < batch) (reach : Storable target) (fits : Storable batch) :
    (opened t clocks).step (deletion target batch who) =
      ({ answer := .ok (.count (t.taken target batch))
         notices := [.batchDeleted target batch (t.taken target batch)] },
        opened (t.dropFirst (t.taken target batch)) clocks) := by
  rw [deletion, step_store]
  simp only [StoreAction.perform, Operation.perform_delete t target batch positive reach fits]
  rfl

/-- Deletes in a row all succeed, and count together and leave behind what one
    delete does whose batch is the sum of theirs. -/
theorem run_deletions (t : Table) (clocks : List Clock) (target batch : Int) (callers : List Nat)
    (positive : 0 < batch) (reach : Storable target) (fits : Storable batch) :
    ∃ counts : List Int,
      ((opened t clocks).run (callers.map (deletion target batch))).1.map (·.answer) =
        counts.map (fun n => .ok (.count n)) ∧
      counts.sum = t.taken target (callers.length * batch) ∧
      (opened t clocks).after (callers.map (deletion target batch)) =
        opened (t.dropFirst (t.taken target (callers.length * batch))) clocks := by
  induction callers generalizing t with
  | nil =>
      have nothing : t.taken target ((([] : List Nat).length : Int) * batch) = 0 := by
        simp [Table.taken]
      exact ⟨[], rfl, by rw [nothing]; rfl, by rw [nothing, t.dropFirst_zero]; rfl⟩
  | cons who rest ih =>
      let next := t.dropFirst (t.taken target batch)
      obtain ⟨counts, answers, total, last⟩ := ih next
      have first := step_deletion t clocks target batch who positive reach fits
      have nonneg : 0 ≤ (rest.length : Int) * batch := by positivity
      have whole : t.taken target batch + next.taken target (rest.length * batch) =
          t.taken target ((who :: rest).length * batch) := by
        rw [t.taken_add target batch _ (Int.le_of_lt positive) nonneg, List.length_cons,
          Int.natCast_succ, Int.add_mul, Int.one_mul, Int.add_comm]
      refine ⟨t.taken target batch :: counts, ?_, ?_, ?_⟩
      · simp only [List.map_cons, run, first]
        rw [answers]
      · rw [List.sum_cons, total, ← whole, Int.natCast_add]
      · change ((opened t clocks).step (deletion target batch who)).2.after
          (rest.map (deletion target batch)) = _
        rw [first, last, t.dropFirst_dropFirst, whole]

/-- A delete takes the lowest rows that its bounds allow, and counts them. Any
    number of deletes count together and leave behind what one delete does with
    as many times their batch. Without a batch to delete nothing happens. -/
theorem deletes_bounded (t : Table) (clocks : List Clock) (target batch : Int) :
    let start := opened t clocks
    (0 < batch → Storable target → Storable batch → ∀ who, ∃ gone kept,
      start.step (deletion target batch who) =
        ({ answer := .ok (.count gone.length)
           notices := [.batchDeleted target batch gone.length] }, opened kept clocks) ∧
      LowestGone t.rows gone kept.rows target batch) ∧
    (0 < batch → Storable target → ∀ callers : List Nat, 1 ≤ callers.length →
      callers.length * batch < 2 ^ 63 → ∀ who, ∃ counts : List Int,
        (start.run (callers.map (deletion target batch))).1.map (·.answer) =
          counts.map (fun n => .ok (.count n)) ∧
        (start.step (deletion target (callers.length * batch) who)).1.answer =
          .ok (.count counts.sum) ∧
        (start.run (callers.map (deletion target batch))).2 =
          (start.step (deletion target (callers.length * batch) who)).2) ∧
    (batch ≤ 0 → ∀ who, start.step (deletion target batch who) =
      ({ answer := .error (.batchNotPositive batch) }, start)) := by
  intro start
  refine ⟨fun positive reach fits who => ?_, fun positive reach callers some short who => ?_,
    fun stopped who => ?_⟩
  · refine ⟨t.rows.take (t.taken target batch), t.dropFirst (t.taken target batch), ?_,
      t.lowest_gone target batch positive⟩
    rw [t.length_take_taken]
    exact step_deletion t clocks target batch who positive reach fits
  · have many : 1 ≤ (callers.length : Int) := by omega
    have larger : batch ≤ callers.length * batch := le_mul_of_one_le_left (by omega) many
    -- One batch is no larger than all of them together, which are in range.
    have fits : Storable batch := by
      unfold Storable
      omega
    have within : Storable (callers.length * batch) := by
      unfold Storable
      omega
    obtain ⟨counts, answers, total, last⟩ :=
      run_deletions t clocks target batch callers positive reach fits
    have once := step_deletion t clocks target (callers.length * batch) who (by omega) reach within
    refine ⟨counts, answers, ?_, ?_⟩
    · rw [once, total]
    · rw [once]
      exact last
  · simp only [start, deletion, step_store, StoreAction.perform,
      Operation.perform_delete_nonpositive t target batch stopped]
    rfl

/-! Rows with the identifiers -4, 5, 6 and 9, and deletes up to 7 by two clients:
three of two rows each, of which the last finds none. -/

theorem deletes_bounded_skewed :
    let start := opened Operation.skewedTable []
    (∃ gone kept, start.step (deletion 7 2 0) =
        ({ answer := .ok (.count 2), notices := [.batchDeleted 7 2 2] }, opened kept []) ∧
      LowestGone Operation.skewedTable.rows gone kept.rows 7 2) ∧
    (start.run ([0, 1, 0].map (deletion 7 2))).1.map (·.answer) =
      [.ok (.count 2), .ok (.count 1), .ok (.count 0)] ∧
    (start.run ([0, 1, 0].map (deletion 7 2))).2 = (start.step (deletion 7 6 1)).2 ∧
    start.step (deletion 7 0 1) = ({ answer := .error (.batchNotPositive 0) }, start) := by
  intro start
  obtain ⟨one, many, -⟩ := deletes_bounded Operation.skewedTable [] 7 2
  obtain ⟨-, -, none⟩ := deletes_bounded Operation.skewedTable [] 7 0
  obtain ⟨gone, kept, answer, lowest⟩ := one (by decide) (by decide) (by decide) 0
  obtain ⟨counts, answers, total, last⟩ := many (by decide) (by decide) [0, 1, 0] (by decide)
    (by decide) 1
  have two : (gone.length : Int) = 2 := lowest.count.trans (by decide)
  refine ⟨⟨gone, kept, ?_, lowest⟩, rfl, last, none (by decide) 1⟩
  rw [two] at answer
  exact answer

end Session

end EventRetention
