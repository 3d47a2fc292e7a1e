import EventRetention.Proofs.Interleaving

/-!
Cleaners beside clients that create events. A delete looks at identifiers and
not at creation times, so it is safe as long as no identifier up to a target
that was read is handed out again. That happens once other cleaners have
removed all rows up to the target: the next identifier follows the largest one
that is left.
-/

namespace EventRetention

namespace Worker

theorem Stage.unseen (c : Cleaner) (w : Worker) (stage : Stage c w) (none : w.sighting = none) :
    w.removed = [] := by
  cases stage with
  | fresh => rfl
  | idle saw unread => cases none
  | deleting saw target left batches read => cases none
  | failed saw cause batches => cases none

end Worker

namespace Crew

def OnlyExpired (s : Crew) : Prop :=
  ∀ w ∈ s.workers, ∀ e ∈ w.removed, ∃ saw ∈ w.sighting, e.createTime < saw.cutoff

/-- A client inserted a live row up to the target that a cleaner had read
    before. No row from the target on was left at that moment, as long as there
    are larger identifiers. -/
def Reissued (s : Crew) (turns : List Turn) (index : Nat) (e : Event) : Prop :=
  ∃ past later w saw target, turns = past ++ later ∧
    (s.run past).workers[index]? = some w ∧ w.sighting = some saw ∧
    saw.target? = some target ∧ (s.run past).Inserted later e ∧ e.id ≤ target ∧
    saw.cutoff ≤ e.createTime

theorem Reissued.snoc (s : Crew) (turns : List Turn) (index : Nat) (e : Event) (turn : Turn)
    (known : s.Reissued turns index e) : s.Reissued (turns ++ [turn]) index e := by
  obtain ⟨past, later, w, saw, target, rfl, here, seen, read, new, facts⟩ := known
  exact ⟨past, later ++ [turn], w, saw, target, List.append_assoc .., here, seen, read,
    new.snoc _ later e turn, facts⟩

structure Traced (s : Crew) (turns : List Turn) (index : Nat) (w : Worker) (saw : Sighting) :
    Prop where
  removed : ∀ e ∈ w.removed, saw.cutoff ≤ e.createTime → s.Reissued turns index e
  within : ∀ target, saw.target? = some target → ∀ e ∈ (s.run turns).table.upTo target,
    saw.cutoff ≤ e.createTime → s.Reissued turns index e

theorem Traced.other (s : Crew) (turns : List Turn) (turn : Turn) (index : Nat) (w : Worker)
    (saw : Sighting) (staged : s.Staged) (creates : turn.among StoreAction.isCreate = true)
    (here : (s.run turns).workers[index]? = some w) (seen : w.sighting = some saw)
    (traced : s.Traced turns index w saw) : s.Traced (turns ++ [turn]) index w saw := by
  refine ⟨fun e gone live => (traced.removed e gone live).snoc s turns index e turn, ?_⟩
  intro target read e member live
  obtain ⟨present, bound⟩ := (Table.mem_upTo _ target e).mp member
  rw [run_snoc] at present
  have admitted : turn.among (fun a => a.isCreate || a.isDelete) = true :=
    turn.among_imp _ _ (fun a create => by simp [create]) creates
  -- Only a create can bring a row up to the target into the table.
  rcases take_rows _ turn (s.run_staged turns staged) admitted e present with old | new
  · have inside := (Table.mem_upTo _ target e).mpr ⟨old, bound⟩
    exact (traced.within target read e inside live).snoc s turns index e turn
  · exact ⟨turns, [turn], w, saw, target, rfl, here, seen, read, new, bound, live⟩

theorem Traced.own (s : Crew) (turns : List Turn) (index : Nat) (clock : Clock)
    (before : Worker) (saw : Sighting) (staged : s.Staged)
    (here : (s.run turns).workers[index]? = some before)
    (seen : (before.ask clock (s.run turns).table).1.sighting = some saw)
    (traced : ∀ saw, before.sighting = some saw → s.Traced turns index before saw) :
    s.Traced (turns ++ [.worker index clock]) index (before.ask clock (s.run turns).table).1 saw := by
  obtain ⟨c, stage⟩ := s.run_staged turns staged index before here
  obtain ⟨kept, count, after, gone, reach⟩ := (Worker.ask_stage c before clock _ stage).2
  have table : (s.run (turns ++ [.worker index clock])).table = (s.run turns).table.dropFirst count := by
    rw [run_snoc, take_worker _ index clock before here, ← after]
  cases first : before.sighting with
  | none =>
      -- The query: the rows up to the target are the expired ones.
      have untouched : count = 0 := by
        rcases reach with zero | ⟨target, read, -⟩
        · exact zero
        · simp [Worker.target?, first] at read
      subst untouched
      rw [kept, first] at seen
      cases seen
      refine ⟨fun e member => ?_, fun target read e member live => ?_⟩
      · rw [gone, Worker.Stage.unseen c before stage first] at member
        cases member
      · rw [table, Table.dropFirst_zero] at member
        have old : e ∈ Table.expired _ _ := Table.upTo_target _ _ target read ▸ member
        exact absurd (Table.expired_older _ _ e old) (Int.not_lt.mpr live)
  | some earlier =>
      rw [kept, first] at seen
      obtain rfl : earlier = saw := Option.some.inj seen
      -- A delete takes rows up to the target, and those are traced already.
      obtain ⟨removed, within⟩ := traced earlier first
      refine ⟨fun e member live => ?_, fun target read e member live => ?_⟩
      · rw [gone] at member
        rcases List.mem_append.mp member with old | taken
        · exact (removed e old live).snoc s turns index e _
        · rcases reach with zero | ⟨target, read, bound⟩
          · subst zero
            simp at taken
          · have inside : e ∈ (s.run turns).table.upTo target := by
              rw [Table.upTo_eq_take]
              exact List.take_subset_take_left _ bound taken
            rw [Worker.target?, first] at read
            exact (within target read e inside live).snoc s turns index e _
      · rw [table, Table.upTo_dropFirst] at member
        have kept := within target read e (List.mem_of_mem_drop member) live
        exact kept.snoc s turns index e _

theorem run_traced (t : Table) (cleaners : List Cleaner) (turns : List Turn)
    (creates : ∀ turn ∈ turns, turn.among StoreAction.isCreate = true) (index : Nat) (w : Worker)
    (saw : Sighting) (here : ((start t cleaners).run turns).workers[index]? = some w)
    (seen : w.sighting = some saw) : (start t cleaners).Traced turns index w saw := by
  have staged := start_staged t cleaners
  revert saw
  apply run_worker (start t cleaners) turns index (fun past w =>
    ∀ saw, w.sighting = some saw → (start t cleaners).Traced past index w saw) _ _ _ w here
  · intro w same saw seen
    obtain ⟨c, -, rfl⟩ := List.mem_map.mp (List.mem_of_getElem? same)
    cases seen
  · intro past clock mine _ there known saw seen
    exact Traced.own _ past index clock mine saw staged there seen known
  · intro past turn w inside _ there known saw seen
    have last := creates turn (last_turn past turns turn inside)
    exact (known saw seen).other _ past turn index w saw staged last there seen

/-- Cleaners remove expired rows only, unless one removes a row that was
    reissued under its target. -/
theorem only_expired_iff (t : Table) (cleaners : List Cleaner) (turns : List Turn)
    (creates : ∀ turn ∈ turns, turn.among StoreAction.isCreate = true) :
    ((start t cleaners).run turns).OnlyExpired ↔
      ∀ index w e, ((start t cleaners).run turns).workers[index]? = some w → e ∈ w.removed →
        ¬ (start t cleaners).Reissued turns index e := by
  constructor
  · rintro expired index w e here member
      ⟨past, later, earlier, saw, target, same, there, seen, -, -, -, live⟩
    obtain ⟨kept, known, old⟩ := expired w (List.mem_of_getElem? here) e member
    rw [same, run_append] at here
    have staged := run_staged _ past (start_staged t cleaners)
    have still := sighting_kept _ _ staged index earlier w saw there seen here
    rw [still] at known
    cases known
    exact absurd old (Int.not_lt.mpr live)
  · intro apart w present e member
    obtain ⟨index, here⟩ := List.mem_iff_getElem?.mp present
    have staged := run_staged _ turns (start_staged t cleaners)
    obtain ⟨c, stage⟩ := staged index w here
    cases seen : w.sighting with
    | none =>
        rw [stage.unseen c w seen] at member
        cases member
    | some saw =>
        refine ⟨saw, rfl, Int.not_le.mp fun live => apart index w e here member ?_⟩
        exact (run_traced t cleaners turns creates index w saw here seen).removed e member live

/-! Two cleaners read the target 1. One of them empties the table, so that the
next event gets the identifier 1 again, and the other one deletes it. -/

def raceClock : Clock := .settable Clock.defaultStart

def raceEvent (createTime : Option Reading) : Turn :=
  .client raceClock
    (.create (some "job") (some "reason") (some "Normal") (some "text") (some "key") createTime)

def raceCleaner : Cleaner := ⟨⟨Duration.microsPerDay⟩, 10⟩

def race : List Turn :=
  [raceEvent (some (.ofInstant ⟨63836985600000000, by decide⟩)),
    .worker 0 raceClock, .worker 1 raceClock, .worker 1 raceClock, raceEvent none,
    .worker 0 raceClock]

instance (s : Crew) : Decidable s.OnlyExpired :=
  inferInstanceAs (Decidable (∀ w ∈ s.workers, ∀ e ∈ w.removed, ∃ saw ∈ w.sighting,
    e.createTime < saw.cutoff))

theorem live_row_removed :
    ¬ ∀ (t : Table) (cleaners : List Cleaner) (turns : List Turn),
      (∀ c ∈ cleaners, Cleaner.make c.ttl c.batchSize = .ok c) →
      (∀ turn ∈ turns, turn.among StoreAction.isCreate = true) →
      ((start t cleaners).run turns).OnlyExpired := by
  intro safe
  have made : ∀ c ∈ [raceCleaner, raceCleaner], Cleaner.make c.ttl c.batchSize = .ok c := by
    decide
  have broken : ¬ ((start .empty [raceCleaner, raceCleaner]).run race).OnlyExpired := by decide
  exact broken (safe .empty _ race made (by decide))

theorem only_expired_iff_race :
    ¬ ((start .empty [raceCleaner, raceCleaner]).run race).OnlyExpired ∧
      ∃ index w e, ((start .empty [raceCleaner, raceCleaner]).run race).workers[index]? = some w ∧
        e ∈ w.removed ∧ (start .empty [raceCleaner, raceCleaner]).Reissued race index e := by
  have law := only_expired_iff .empty [raceCleaner, raceCleaner] race (by decide)
  have broken : ¬ ((start .empty [raceCleaner, raceCleaner]).run race).OnlyExpired := by decide
  refine ⟨broken, ?_⟩
  by_contra none
  exact broken (law.mpr fun index w e here member known => none ⟨index, w, e, here, member, known⟩)

end Crew

end EventRetention
