import EventRetention.Proofs.ExpiryPrefix
import EventRetention.Proofs.Interleaving
import EventRetention.Proofs.WholeActions

/-!
A cleaner that is stopped after some of its deletes, and a whole cycle that
comes after it at the same time. The deletes that were made have dropped the
front of the expired rows, and what is left of them is what the next cycle
finds, however the batches are cut. So the two together come to one cycle that
was not interrupted, and a cycle after that has nothing to do.
-/

namespace EventRetention

namespace Worker

def stopped (c : Cleaner) (clock : Clock) (t : Table) : Nat → Worker × Table
  | 0 => (start c).ask clock t
  | deletes + 1 => (stopped c clock t deletes).1.ask clock (stopped c clock t deletes).2

section

variable (c : Cleaner) (clock : Clock) (t : Table)

theorem stopped_idle (unread : (t.expiry (clock.cutoff c.ttl)).2 = none) (deletes : Nat) :
    stopped c clock t deletes = (idle c ⟨clock.cutoff c.ttl, t⟩, t) := by
  induction deletes with
  | zero => rw [stopped, ask_start, begun_idle c ⟨clock.cutoff c.ttl, t⟩ unread]
  | succ deletes ih =>
      rw [stopped, ih]
      exact ask_over _ _ clock t rfl

variable (positive : 0 < c.batchSize) (fits : Storable c.batchSize)
  (few : (t.expired (clock.cutoff c.ttl)).length ≤ 2 ^ 53)

/-- A cleaner that read a target, and what its deletes have left: each one takes
    a whole batch from the front, until the expired rows end. -/
inductive Midway (target : Int) (old deletes : Nat) : Worker × Table → Prop where
  | intro (batches : List (List Event))
      (flat : batches.flatten = t.rows.take (min (deletes * c.width) old))
      (length : batches.length = min deletes (c.needed old)) :
      Midway target old deletes
        (deleting c ⟨clock.cutoff c.ttl, t⟩ target (c.needed old - deletes) batches,
          t.dropFirst (min (deletes * c.width) old))

include positive fits

theorem Midway.ask (target : Int) (read : (t.expiry (clock.cutoff c.ttl)).2 = some target)
    (old deletes : Nat) (count : (t.expired (clock.cutoff c.ttl)).length = old) (w : Worker × Table)
    (midway : Midway c clock t target old deletes w) :
    Midway c clock t target old (deletes + 1) (w.1.ask clock w.2) := by
  have rows := t.upTo_target (clock.cutoff c.ttl) target read
  have covers := c.needed_covers old positive
  obtain ⟨batches, flat, length⟩ := midway
  by_cases complete : c.needed old ≤ deletes
  · -- All planned deletes were made, and no question is left.
    have covered : c.needed old * c.width ≤ deletes * c.width := Nat.mul_le_mul_right _ complete
    have all : min ((deletes + 1) * c.width) old = min (deletes * c.width) old := by
      rw [Nat.succ_mul]
      omega
    have none : c.needed old - deletes = 0 := by omega
    have still : c.needed old - (deletes + 1) = c.needed old - deletes := by omega
    rw [none, ask_over _ _ clock _ rfl, ← none, ← still, ← all]
    constructor
    · rw [all, flat]
    · omega
  · -- Fewer rows than are old were taken, so the next batch has some.
    have more := c.needed_more old deletes positive (by omega)
    have width := c.width_pos positive
    have gone : min (deletes * c.width) old = deletes * c.width := by omega
    have left : c.needed old - deletes = c.needed old - (deletes + 1) + 1 := by omega
    rw [gone] at flat ⊢
    have taken : (t.dropFirst (deletes * c.width)).taken target c.batchSize =
        min c.width (old - deletes * c.width) := by
      rw [Table.taken, t.upTo_length_dropFirst, rows, count]
      rfl
    have some : ¬ (t.dropFirst (deletes * c.width)).taken target c.batchSize = 0 := by omega
    have next : deletes * c.width + (t.dropFirst (deletes * c.width)).taken target c.batchSize =
        min ((deletes + 1) * c.width) old := by
      rw [Nat.succ_mul]
      omega
    rw [left, ask_deleting c _ target _ batches clock _ positive
      (t.target_storable (clock.cutoff c.ttl) target read) fits, if_neg some,
      t.dropFirst_dropFirst, next]
    constructor
    · rw [List.flatten_append, List.flatten_singleton, flat, ← next, List.take_add]
      rfl
    · rw [List.length_append, List.length_singleton]
      omega

include few

theorem stopped_midway (target : Int) (read : (t.expiry (clock.cutoff c.ttl)).2 = some target)
    (old : Nat) (count : (t.expired (clock.cutoff c.ttl)).length = old) (deletes : Nat) :
    Midway c clock t target old deletes (stopped c clock t deletes) := by
  induction deletes with
  | zero =>
      rw [stopped, ask_start,
        begun_deleting c ⟨clock.cutoff c.ttl, t⟩ target read few positive fits]
      have first : Midway c clock t target old 0 _ := .intro [] (by simp) (by simp)
      rw [Nat.zero_mul, Nat.zero_min, t.dropFirst_zero, ← count] at first
      rw [← count]
      exact first
  | succ deletes ih => exact ih.ask c clock t positive fits target read old deletes count _

/-- After a number of deletes the front of the expired rows is gone. -/
theorem stopped_removed (deletes : Nat) :
    let old := (t.expired (clock.cutoff c.ttl)).length
    let gone := min (deletes * c.width) old
    let stopped := stopped c clock t deletes
    stopped.2 = t.dropFirst gone ∧ stopped.1.removed = t.rows.take gone ∧
      stopped.1.batches.length = min deletes (c.needed old) := by
  intro old gone stopped
  cases read : (t.expiry (clock.cutoff c.ttl)).2 with
  | none =>
      have fresh := (t.target_none (clock.cutoff c.ttl)).mp read
      have same : stopped = _ := stopped_idle c clock t read deletes
      rw [same]
      simp [gone, old, fresh, t.dropFirst_zero, c.needed_zero positive, idle, removed]
  | some target =>
      have midway : Midway c clock t target old deletes stopped :=
        stopped_midway c clock t positive fits few target read old rfl deletes
      clear_value stopped
      obtain ⟨batches, flat, length⟩ := midway
      exact ⟨rfl, flat, length⟩

end

end Worker

section

variable (t : Table) (clock : Clock) (ttl : Duration) (later : 0 < ttl)
include later

/-- A cycle ends at the same table when some of the expired rows are gone before. -/
theorem clean_rest (batchSize : Int) (positive : 0 < batchSize) (fits : Storable batchSize)
    (gone : Nat) (within : gone ≤ (t.expired (clock.cutoff ttl)).length)
    (few : (t.expired (clock.cutoff ttl)).length ≤ 2 ^ 53) :
    let old := (t.expired (clock.cutoff ttl)).length
    let done := clean Table.run clock ttl batchSize (t.dropFirst gone)
    (∃ target, done.1.answer = .ok ⟨(old - gone : Nat), target, (old - gone : Nat),
        Cleaner.needed ⟨ttl, batchSize⟩ (old - gone)⟩) ∧
      done.2 = t.dropFirst old := by
  intro old done
  have count : ((t.dropFirst gone).expired (clock.cutoff ttl)).length = old - gone := by
    rw [t.expired_dropFirst _ gone within, List.length_drop]
  obtain ⟨answer, after⟩ :=
    clean_exact (t.dropFirst gone) clock ttl batchSize later positive fits (by omega)
  rw [count] at answer after
  refine ⟨⟨_, answer⟩, after.trans ?_⟩
  rw [t.dropFirst_dropFirst, Nat.add_sub_cancel' within]

theorem clean_again (batchSize : Int) (positive : 0 < batchSize) :
    let kept := t.dropFirst (t.expired (clock.cutoff ttl)).length
    (clean Table.run clock ttl batchSize kept).1.answer = .ok ⟨0, none, 0, 0⟩ ∧
      (clean Table.run clock ttl batchSize kept).2 = kept := by
  intro kept
  have fresh : kept.expired (clock.cutoff ttl) = [] := by
    rw [t.expired_dropFirst _ _ (Nat.le_refl _), List.drop_length]
  exact (clean_cleaned kept clock ttl batchSize later positive).nothing _ _ kept _ _ fresh

end

/-- A cycle that is stopped after any of its deletes and a whole cycle after it
    lose the rows of one cycle that was not stopped and leave the same table,
    whatever the batch sizes, and a third cycle finds nothing. -/
theorem stopped_then_cleaned (t : Table) (clock : Clock) (ttl : Duration) (first second : Int)
    (stop : Nat) (later : 0 < ttl) (firstSome : 0 < first) (firstFits : Storable first)
    (secondSome : 0 < second) (secondFits : Storable second) (few : t.rows.length < 2 ^ 53) :
    let stopped := Worker.stopped ⟨ttl, first⟩ clock t stop
    let resumed := clean Table.run clock ttl second stopped.2
    let planned := Cleaner.needed ⟨ttl, first⟩ (t.expired (clock.cutoff ttl)).length
    stopped.1.removed = t.lost stopped.2 ∧ stopped.1.batches.length = min stop planned ∧
      (∃ rest, resumed.1.answer = .ok rest ∧ rest.deleted = (stopped.2.lost resumed.2).length ∧
        ∀ size, 0 < size → Storable size →
          ∃ whole, (clean Table.run clock ttl size t).1.answer = .ok whole ∧
            (clean Table.run clock ttl size t).2 = resumed.2 ∧
            stopped.1.removed.length + rest.deleted = whole.records ∧
            whole.batches = Cleaner.needed ⟨ttl, size⟩ (t.expired (clock.cutoff ttl)).length) ∧
      ∀ size, 0 < size →
        (clean Table.run clock ttl size resumed.2).1.answer = .ok ⟨0, none, 0, 0⟩ ∧
        (clean Table.run clock ttl size resumed.2).2 = resumed.2 := by
  intro stopped resumed planned
  -- Both cycles take first rows of the table, so all depends on how many are gone.
  let old := (t.expired (clock.cutoff ttl)).length
  let gone := min (stop * Cleaner.width ⟨ttl, first⟩) old
  have part : old ≤ t.rows.length := List.length_filter_le _ _
  have within : gone ≤ old := Nat.min_le_right _ _
  have range : old ≤ 2 ^ 53 := by omega
  obtain ⟨after, removed, made⟩ : stopped.2 = t.dropFirst gone ∧
      stopped.1.removed = t.rows.take gone ∧ stopped.1.batches.length = min stop planned :=
    Worker.stopped_removed ⟨ttl, first⟩ clock t firstSome firstFits range stop
  obtain ⟨⟨target, answer⟩, final⟩ :=
    clean_rest t clock ttl later second secondSome secondFits gone within range
  rw [← after] at answer final
  have ended : resumed.2 = t.dropFirst old := final
  have rows : (t.rows.take gone).length = gone := by
    rw [List.length_take]
    omega
  constructor
  · rw [removed, after, t.lost_dropFirst]
  · refine ⟨made, ⟨_, answer, ?_, ?_⟩, ?_⟩
    · have split : t.dropFirst old = (t.dropFirst gone).dropFirst (old - gone) := by
        rw [t.dropFirst_dropFirst, Nat.add_sub_cancel' within]
      rw [ended, after, split, Table.lost_dropFirst, List.length_take]
      change ((old - gone : Nat) : Int) = (min (old - gone) (t.rows.drop gone).length : Nat)
      rw [List.length_drop]
      omega
    · intro size positive fits
      obtain ⟨whole, same⟩ := clean_exact t clock ttl size later positive fits range
      refine ⟨_, whole, same.trans ended.symm, ?_, rfl⟩
      rw [removed, rows]
      change (gone : Int) + (old - gone : Nat) = (old : Nat)
      omega
    · intro size positive
      rw [ended]
      exact clean_again t clock ttl later size positive

def morningTable : Table where
  rows := [Operation.hourMark 1 2 (by decide), Operation.hourMark 2 4 (by decide),
    Operation.hourMark 4 5 (by decide), Operation.hourMark 7 6 (by decide),
    Operation.hourMark 9 11 (by decide)]
  ascending := by decide
  storable := by decide

theorem stopped_then_cleaned_morning :
    let clock := Clock.settable Operation.noon
    let ttl : Duration := ⟨10800000000⟩
    let stopped := Worker.stopped ⟨ttl, 3⟩ clock morningTable 1
    let resumed := clean Table.run clock ttl 1 stopped.2
    stopped.2.ids = [7, 9] ∧ resumed.2.ids = [9] ∧
      (clean Table.run clock ttl 2 morningTable).2 = resumed.2 ∧
      (clean Table.run clock ttl 4 resumed.2).1.answer = .ok ⟨0, none, 0, 0⟩ := by
  -- Without the abbreviations the theorem's parts meet the goal as they stand.
  dsimp only
  obtain ⟨-, -, ⟨_, -, -, uninterrupted⟩, again⟩ :=
    stopped_then_cleaned morningTable (.settable Operation.noon) ⟨10800000000⟩ 3 1 1 (by decide)
      (by decide) (by decide) (by decide) (by decide) (by decide)
  obtain ⟨_, -, same, -⟩ := uninterrupted 2 (by decide) (by decide)
  refine ⟨by decide +kernel, by decide +kernel, same, ?_⟩
  exact (again 4 (by decide)).1

end EventRetention
