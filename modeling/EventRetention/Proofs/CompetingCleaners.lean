import EventRetention.Proofs.Interleaving
import Mathlib.Algebra.BigOperators.Ring.Finset

/-!
Cleaners that share a table with nobody else. Every delete takes a prefix of
what is left, so that the rows that are gone are a prefix of the table at the
start. The batches that a cleaner has left always cover what is left up to its
target; so after the last cycle nothing is left up to the largest target.
-/

namespace EventRetention

theorem flatMap_set_perm {α β : Type} (items : List α) (index : Nat) (old new : α) (f : α → List β)
    (more : List β) (here : items[index]? = some old) (grown : f new = f old ++ more) :
    ((items.set index new).flatMap f).Perm (items.flatMap f ++ more) := by
  induction items generalizing index with
  | nil => cases here
  | cons item rest ih =>
      cases index with
      | zero =>
          cases here
          simp only [List.set_cons_zero, List.flatMap_cons, grown, List.append_assoc]
          exact List.perm_append_comm.append_left (f old)
      | succ index =>
          simp only [List.set_cons_succ, List.flatMap_cons, List.append_assoc]
          exact (ih index here).append_left (f item)

namespace Worker

def deleted (w : Worker) : Int :=
  match w.answer? with
  | some (.ok result) => result.deleted
  | _ => 0

/-- The batches that a cleaner has left cover the rows up to its target, and
    there are no more of them than `limit` allows. -/
inductive Pace (c : Cleaner) (limit : Nat) : Nat → Worker → Table → Prop where
  | fresh (t : Table) : Pace c limit 0 (start c) t
  | idle (turns : Nat) (t : Table) (saw : Sighting) (unread : saw.target? = none) :
      Pace c limit turns (idle c saw) t
  | deleting (turns : Nat) (t : Table) (saw : Sighting) (target : Int) (left : Nat)
      (batches : List (List Event)) (read : saw.target? = some target)
      (covered : (t.upTo target).length ≤ left * c.width)
      (soon : left = 0 ∨ turns + left ≤ limit + 1) :
      Pace c limit turns (deleting c saw target left batches) t

theorem Pace.stage (c : Cleaner) (limit turns : Nat) (w : Worker) (t : Table)
    (pace : Pace c limit turns w t) : Stage c w := by
  cases pace with
  | fresh => exact .fresh
  | idle _ _ saw unread => exact .idle saw unread
  | deleting _ _ saw target left batches read => exact .deleting saw target left batches read

theorem Pace.other (c : Cleaner) (limit turns : Nat) (w : Worker) (t : Table) (count : Nat)
    (pace : Pace c limit turns w t) : Pace c limit turns w (t.dropFirst count) := by
  cases pace with
  | fresh => exact .fresh _
  | idle _ _ saw unread => exact .idle turns _ saw unread
  | deleting _ _ saw target left batches read covered soon =>
      refine .deleting turns _ saw target left batches read ?_ soon
      rw [t.upTo_length_dropFirst]
      omega

theorem Pace.own (c : Cleaner) (limit turns : Nat) (w : Worker) (clock : Clock) (t : Table)
    (positive : 0 < c.batchSize) (fits : Storable c.batchSize) (small : t.rows.length ≤ limit)
    (few : limit ≤ 2 ^ 53) (pace : Pace c limit turns w t) :
    Pace c limit (turns + 1) (w.ask clock t).1 (w.ask clock t).2 := by
  cases pace with
  | fresh =>
      rw [ask_start]
      let saw : Sighting := ⟨clock.cutoff c.ttl, t⟩
      have size : saw.old.length ≤ limit :=
        Nat.le_trans (List.length_filter_le _ t.rows) small
      cases read : saw.target? with
      | none =>
          rw [begun_idle c saw read]
          exact .idle 1 t saw read
      | some target =>
          rw [begun_deleting c saw target read (Nat.le_trans size few) positive fits]
          refine .deleting 1 t saw target _ [] read ?_ (Or.inr ?_)
          · rw [t.upTo_target saw.cutoff target read]
            exact c.needed_covers saw.old.length positive
          · have := c.needed_le saw.old.length positive
            omega
  | idle _ _ saw unread =>
      rw [ask_over _ _ clock t rfl]
      exact .idle (turns + 1) t saw unread
  | deleting _ _ saw target left batches read covered soon =>
      cases left with
      | zero =>
          rw [ask_over _ _ clock t rfl]
          exact .deleting (turns + 1) t saw target 0 batches read covered (Or.inl rfl)
      | succ left =>
          rw [ask_deleting c saw target left batches clock t positive
            (saw.table.target_storable saw.cutoff target read) fits]
          have width := c.width_pos positive
          have count : t.taken target c.batchSize = min c.width (t.upTo target).length := rfl
          rw [Nat.succ_mul] at covered
          -- An empty batch means that nothing is left up to the target; any other
          -- batch is full or takes all that is left.
          by_cases empty : t.taken target c.batchSize = 0
          · rw [if_pos empty]
            refine .deleting _ _ saw target 0 _ read ?_ (Or.inl rfl)
            rw [t.upTo_length_dropFirst]
            omega
          · rw [if_neg empty]
            refine .deleting _ _ saw target left _ read ?_ (Or.inr (by omega))
            rw [t.upTo_length_dropFirst]
            omega

/-- A cleaner that has taken more turns than the limit is over, and a cleaner
    that is over has left no row up to its target. -/
theorem Pace.late (c : Cleaner) (limit turns : Nat) (w : Worker) (t : Table)
    (pace : Pace c limit turns w t) (late : limit < turns) : w.answer?.isSome := by
  cases pace with
  | fresh => omega
  | idle => rfl
  | deleting _ _ saw target left batches read covered soon =>
      obtain rfl : left = 0 := by omega
      rfl

theorem Pace.ended (c : Cleaner) (limit turns : Nat) (w : Worker) (t : Table)
    (pace : Pace c limit turns w t) (ended : w.answer?.isSome) :
    (∃ records, w.answer? =
      some (.ok ⟨records, w.target?, w.removed.length, w.batches.length⟩)) ∧
      ∀ target, w.target? = some target → t.upTo target = [] := by
  cases pace with
  | fresh => cases ended
  | idle _ _ saw unread =>
      have none : (Worker.idle c saw).target? = none := unread
      rw [none]
      exact ⟨⟨0, rfl⟩, fun target read => by cases read⟩
  | deleting _ _ saw target left batches read covered soon =>
      cases left with
      | succ left => cases ended
      | zero =>
          have own : (Worker.deleting c saw target 0 batches).target? = some target := read
          rw [own]
          refine ⟨⟨saw.old.length, rfl⟩, fun other same => ?_⟩
          cases same
          exact List.eq_nil_of_length_eq_zero (by omega)

theorem target_kept (w : Worker) (clock : Clock) (t : Table) (after : Worker × Table)
    (asked : Asked w clock t after) (target : Int) (read : w.target? = some target) :
    after.1.target? = some target := by
  unfold target? at read ⊢
  rw [asked.sighting]
  cases seen : w.sighting with
  | none =>
      rw [seen] at read
      cases read
  | some saw =>
      rw [seen] at read
      exact read

end Worker

namespace Crew

/-- What cleaners have made of a table: so many first rows are gone, each was
    removed by one of them, and they lie up to a target that one has read. -/
structure Shared (t : Table) (cleaners : List Cleaner) (turns : List Turn) (s : Crew)
    (gone : Nat) : Prop where
  table : s.table = t.dropFirst gone
  removed : (s.workers.flatMap Worker.removed).Perm (t.rows.take gone)
  reach : gone = 0 ∨ ∃ (index : Nat) (w : Worker) (target : Int), s.workers[index]? = some w ∧
    w.target? = some target ∧ gone ≤ (t.upTo target).length
  paced : ∀ (index : Nat) (w : Worker), s.workers[index]? = some w →
    ∃ c ∈ cleaners, Worker.Pace c t.rows.length (turns.countP (Turn.isOf index)) w s.table

theorem start_shared (t : Table) (cleaners : List Cleaner) :
    Shared t cleaners [] (start t cleaners) 0 where
  table := t.dropFirst_zero.symm
  removed := by
    have none : (start t cleaners).workers.flatMap Worker.removed = [] := by
      simp [start, Worker.removed, Worker.start, List.flatMap_eq_nil_iff]
    rw [none, List.take_zero]
  reach := Or.inl rfl
  paced := by
    intro index w here
    obtain ⟨c, member, rfl⟩ := List.mem_map.mp (List.mem_of_getElem? here)
    exact ⟨c, member, .fresh t⟩

theorem Shared.ask (t : Table) (cleaners : List Cleaner) (turns : List Turn) (s : Crew) (gone : Nat)
    (index : Nat) (clock : Clock) (w : Worker) (few : t.rows.length ≤ 2 ^ 53)
    (sizes : ∀ c ∈ cleaners, 0 < c.batchSize ∧ Storable c.batchSize)
    (here : s.workers[index]? = some w) (shared : Shared t cleaners turns s gone) :
    ∃ more, Shared t cleaners (turns ++ [.worker index clock]) (s.take (.worker index clock))
      (gone + more) := by
  obtain ⟨c, -, pace⟩ := shared.paced index w here
  have asked := (Worker.ask_stage c w clock s.table (pace.stage c _ _ w s.table)).2
  obtain ⟨more, after, grown, reach⟩ := asked.effect
  have inside : index < s.workers.length := (List.getElem?_eq_some_iff.mp here).1
  have table : (s.take (.worker index clock)).table = t.dropFirst (gone + more) := by
    rw [take_worker s index clock w here, after, shared.table, Table.dropFirst_dropFirst]
  have workers : (s.take (.worker index clock)).workers =
      s.workers.set index (w.ask clock s.table).1 := by
    rw [take_worker s index clock w here]
  refine ⟨more, table, ?_, ?_, ?_⟩
  · rw [workers, List.take_add]
    have taken : s.table.rows.take more = (t.rows.drop gone).take more := by rw [shared.table]; rfl
    rw [taken] at grown
    exact (flatMap_set_perm s.workers index w _ Worker.removed _ here grown).trans
      (shared.removed.append_right _)
  -- Only a batch with rows in it extends the reach, and then up to a target
  -- of this cleaner.
  · by_cases none : more = 0
    · rcases shared.reach with zero | ⟨reader, other, target, there, read, bound⟩
      · exact Or.inl (by omega)
      · refine Or.inr ⟨reader, ?_⟩
        rw [workers]
        by_cases own : index = reader
        · subst own
          rw [here] at there
          cases there
          exact ⟨_, target, List.getElem?_set_self inside,
            Worker.target_kept w clock s.table _ asked target read, by omega⟩
        · exact ⟨other, target, (List.getElem?_set_ne own).trans there, read, by omega⟩
    · rcases reach with zero | ⟨target, read, bound⟩
      · exact absurd zero none
      · rw [shared.table, t.upTo_length_dropFirst] at bound
        rw [workers]
        exact Or.inr ⟨index, _, target, List.getElem?_set_self inside,
          Worker.target_kept w clock s.table _ asked target read, by omega⟩
  · intro other later there
    rw [List.countP_append]
    rcases s.worker_after _ other later there with ⟨same, apart⟩ | ⟨_, before, own, mine, rfl, last⟩
    · obtain ⟨c, member, pace⟩ := shared.paced other later same
      have different : index ≠ other := fun equal => apart clock (by rw [equal])
      rw [table, ← Table.dropFirst_dropFirst, ← shared.table]
      refine ⟨c, member, ?_⟩
      simpa [Turn.isOf, different] using pace.other c _ _ later s.table more
    · cases own
      obtain ⟨c, member, pace⟩ := shared.paced index before mine
      have small : s.table.rows.length ≤ t.rows.length := by
        rw [shared.table]
        exact (List.length_drop ..).trans_le (Nat.sub_le ..)
      rw [last]
      refine ⟨c, member, ?_⟩
      simpa [Turn.isOf] using pace.own c _ _ before clock s.table (sizes c member).1
        (sizes c member).2 small few

theorem run_shared (t : Table) (cleaners : List Cleaner) (turns : List Turn)
    (alone : ∀ turn ∈ turns, turn.among (fun _ => false) = true) (few : t.rows.length ≤ 2 ^ 53)
    (sizes : ∀ c ∈ cleaners, 0 < c.batchSize ∧ Storable c.batchSize) :
    ∃ gone, Shared t cleaners turns ((start t cleaners).run turns) gone := by
  induction turns using List.reverseRecOn with
  | nil => exact ⟨0, start_shared t cleaners⟩
  | append_singleton past turn ih =>
      obtain ⟨gone, shared⟩ := ih fun old member => alone old (List.mem_append_left _ member)
      have last := alone turn (List.mem_append_right _ (List.mem_singleton_self turn))
      rw [run_snoc]
      cases turn with
      | client clock action => cases last
      | worker index clock =>
          cases here : ((start t cleaners).run past).workers[index]? with
          | some w =>
              obtain ⟨more, next⟩ := shared.ask t cleaners past _ gone index clock w few sizes here
              exact ⟨gone + more, next⟩
          | none =>
              rw [take_missing _ index clock here]
              refine ⟨gone, shared.table, shared.removed, shared.reach, fun other w there => ?_⟩
              have different : index ≠ other := by
                rintro rfl
                rw [here] at there
                cases there
              rw [List.countP_append]
              simpa [Turn.isOf, different] using shared.paced other w there

def largest? (s : Crew) : Option Int := (s.workers.filterMap Worker.target?).max?

theorem Shared.extent (t : Table) (cleaners : List Cleaner) (turns : List Turn) (s : Crew)
    (gone : Nat) (shared : Shared t cleaners turns s gone)
    (ended : ∀ w ∈ s.workers, ∀ target, w.target? = some target → s.table.upTo target = []) :
    t.rows.take gone = s.largest?.elim [] t.upTo ∧ t.rows.drop gone = s.largest?.elim t.rows t.above := by
  cases most : s.largest? with
  | none =>
      have unread := List.filterMap_eq_nil_iff.mp (List.max?_eq_none_iff.mp most)
      have untouched : gone = 0 := by
        rcases shared.reach with zero | ⟨index, w, target, here, read, -⟩
        · exact zero
        · rw [unread w (List.mem_of_getElem? here)] at read
          cases read
      subst untouched
      exact ⟨List.take_zero, List.drop_zero⟩
  | some target =>
      obtain ⟨member, largest⟩ := List.max?_eq_some_iff.mp most
      obtain ⟨w, present, read⟩ := List.mem_filterMap.mp member
      -- The cleaner with the largest target has left nothing up to it, and no
      -- cleaner has gone beyond it.
      have low : (t.upTo target).length ≤ gone := by
        have none := congrArg List.length (ended w present target read)
        rw [shared.table, t.upTo_length_dropFirst, List.length_nil] at none
        omega
      have high : gone ≤ (t.upTo target).length := by
        rcases shared.reach with zero | ⟨index, other, lower, here, known, bound⟩
        · omega
        · have below := largest lower (List.mem_filterMap.mpr ⟨other, List.mem_of_getElem? here, known⟩)
          exact Nat.le_trans bound (t.upTo_mono lower target below)
      obtain rfl : gone = (t.upTo target).length := Nat.le_antisymm high low
      exact ⟨(t.upTo_eq_take target).symm, t.dropFirst_upTo target⟩

/-- Cleaners beside nobody else. A cleaner is over after as many turns as the
    table has rows, and one more. Once all of them are over, each has answered,
    the rows up to the largest target are gone, no others are, and the answers
    count each of them once. -/
theorem competing_cleaners_exact (t : Table) (cleaners : List Cleaner) (turns : List Turn)
    (alone : ∀ turn ∈ turns, turn.among (fun _ => false) = true) (few : t.rows.length ≤ 2 ^ 53)
    (sizes : ∀ c ∈ cleaners, 0 < c.batchSize ∧ Storable c.batchSize) :
    let s := (start t cleaners).run turns
    (∀ (index : Nat) (w : Worker), s.workers[index]? = some w →
        t.rows.length + 1 ≤ turns.countP (Turn.isOf index) → w.answer?.isSome) ∧
      ((∀ w ∈ s.workers, w.answer?.isSome) →
        (∀ w ∈ s.workers, ∃ result, w.answer? = some (.ok result) ∧ result.target = w.target?) ∧
        t.lost s.table = (s.largest?.elim [] t.upTo) ∧
        s.table.rows = (s.largest?.elim t.rows t.above) ∧
        (s.workers.flatMap Worker.removed).Perm (t.lost s.table) ∧
        (s.workers.map Worker.deleted).sum = (t.lost s.table).length) := by
  intro s
  obtain ⟨gone, shared⟩ := run_shared t cleaners turns alone few sizes
  have lost : t.lost s.table = t.rows.take gone := by
    rw [shared.table, t.lost_dropFirst]
  constructor
  · intro index w here enough
    obtain ⟨c, -, pace⟩ := shared.paced index w here
    exact pace.late c _ _ w _ enough
  · intro ended
    have finished : ∀ w ∈ s.workers, (∃ records, w.answer? =
        some (.ok ⟨records, w.target?, w.removed.length, w.batches.length⟩)) ∧
        ∀ target, w.target? = some target → s.table.upTo target = [] := by
      intro w member
      obtain ⟨index, here⟩ := List.mem_iff_getElem?.mp member
      obtain ⟨c, -, pace⟩ := shared.paced index w here
      exact pace.ended c _ _ w _ (ended w member)
    -- Every cleaner that has ended says how many rows it removed itself.
    have counted : s.workers.map Worker.deleted =
        s.workers.map fun w => (w.removed.length : Int) := by
      apply List.map_congr_left
      intro w member
      obtain ⟨⟨records, answer⟩, -⟩ := finished w member
      simp only [Worker.deleted, answer]
    have total : (s.workers.map fun w => (w.removed.length : Int)).sum = (t.rows.take gone).length := by
      rw [← shared.removed.length_eq, List.length_flatMap, Nat.cast_list_sum, List.map_map]
      rfl
    have extent := shared.extent t cleaners turns s gone fun w member => (finished w member).2
    rw [lost]
    refine ⟨?_, extent.1, ?_, shared.removed, counted ▸ total⟩
    · intro w member
      obtain ⟨⟨records, answer⟩, -⟩ := finished w member
      exact ⟨_, answer, rfl⟩
    · rw [← extent.2, shared.table]
      rfl

def agedRow (id : Int) : Event where
  id := id
  createTime := Instant.earliest
  updateTime := Instant.earliest
  jobKey := "job"
  reason := "reason"
  eventType := "Normal"
  message := "text"
  eventCount := 1
  eventKey := "key"

def agedTable : Table := ⟨[agedRow 1, agedRow 2, agedRow 5], by decide, by decide⟩

def rivals : List Cleaner := [⟨⟨Duration.microsPerDay⟩, 2⟩, ⟨⟨Duration.microsPerDay⟩, 1⟩]

def rivalry : List Turn :=
  let clock := Clock.settable Clock.defaultStart
  [.worker 0 clock, .worker 1 clock, .worker 1 clock, .worker 0 clock, .worker 1 clock,
    .worker 0 clock]

theorem competing_cleaners_exact_rivalry :
    let s := (start agedTable rivals).run rivalry
    agedTable.lost s.table = (s.largest?.elim [] agedTable.upTo) ∧
      (s.workers.map Worker.deleted).sum = (agedTable.lost s.table).length := by
  have done := (competing_cleaners_exact agedTable rivals rivalry (by decide) (by decide)
    (by decide)).2 (by decide)
  exact ⟨done.2.1, done.2.2.2.2⟩

end Crew

end EventRetention
