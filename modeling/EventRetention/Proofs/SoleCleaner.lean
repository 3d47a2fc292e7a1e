import EventRetention.Proofs.Interleaving
import Mathlib.Data.List.Infix

/-!
One cleaner beside clients that create, update and query. Until its last batch
the row with the target is still there, so that new rows get identifiers above
the target: the rows that were expired at the query stay a prefix of the table,
and each batch takes the next of them.
-/

namespace EventRetention

namespace Event

def lasting (e : Event) : Event := { e with updateTime := e.createTime, message := "", eventCount := 0 }

end Event

namespace Table

def lasting (t : Table) : List Event := t.rows.map Event.lasting

theorem revise_lasting (t : Table) (id : Int) (time : Instant) (message : String) (count : Int) :
    (t.revise id time message count).lasting = t.lasting := by
  unfold lasting revise mapRows
  rw [List.map_map]
  apply List.map_congr_left
  intro e _
  simp only [Function.comp_apply]
  split <;> rfl

theorem add_lasting (t : Table) (e : Event) (fresh : ∀ r ∈ t.rows, r.id ≠ e.id)
    (fits : Storable e.id) (below : ∀ r ∈ t.rows, r.id < e.id) :
    (t.add e fresh fits).lasting = t.lasting ++ [e.lasting] := by
  change (insertRow e t.rows).map Event.lasting = _
  rw [insertRow_last e t.rows below, List.map_append]
  rfl

theorem take_lasting (t : Table) (early : List Event) (stays : early <+: t.lasting) :
    (t.rows.take early.length).map Event.lasting = early := by
  rw [List.map_take]
  exact (List.prefix_iff_eq_take.mp stays).symm

theorem upTo_front (t : Table) (target : Int) (front rest : List Event)
    (split : t.rows = front ++ rest) (bound : ∀ e ∈ front, e.id ≤ target)
    (reached : ∃ e ∈ front, e.id = target) : t.upTo target = front := by
  obtain ⟨last, member, same⟩ := reached
  have order := t.ascending
  rw [split] at order
  have across := (List.pairwise_append.mp order).2.2 last member
  have beyond : ∀ e ∈ rest, ¬ decide (e.id ≤ target) = true := by
    intro e later
    have := across e later
    simp only [decide_eq_true_eq]
    omega
  have below : ∀ e ∈ front, decide (e.id ≤ target) = true := fun e early => decide_eq_true (bound e early)
  rw [upTo, split, List.filter_append, List.filter_eq_self.mpr below,
    List.filter_eq_nil_iff.mpr beyond, List.append_nil]

end Table

namespace Sighting

/-- The row with the target is the last of the expired ones. -/
theorem target_late (saw : Sighting) (target : Int) (read : saw.target? = some target) (count : Nat)
    (more : count < saw.old.length) : ∃ e ∈ saw.old.drop count, e.id = target := by
  obtain ⟨member, largest⟩ := List.max?_eq_some_iff.mp read
  obtain ⟨last, present, same⟩ := List.mem_map.mp member
  change last ∈ saw.old at present
  rw [← List.take_append_drop count saw.old] at present
  rcases List.mem_append.mp present with early | late
  · have order : saw.old.Pairwise fun a b => a.id < b.id := saw.table.ascending.filter _
    have tail : 0 < (saw.old.drop count).length := by
      rw [List.length_drop]
      omega
    obtain ⟨next, later⟩ := List.exists_mem_of_length_pos tail
    have above := early_below_late saw.old order count last early next later
    have below := largest next.id (List.mem_map_of_mem (List.mem_of_mem_drop later))
    omega
  · exact ⟨last, late, same⟩

end Sighting

namespace Worker

/-- The course of a cleaner that nobody else deletes beside, after a number of
    its turns. -/
inductive Course (c : Cleaner) : Nat → Worker → Table → Prop where
  | fresh (t : Table) : Course c 0 (start c) t
  | idle (turns : Nat) (t : Table) (saw : Sighting) (asked : 0 < turns)
      (unread : saw.target? = none) : Course c turns (idle c saw) t
  | busy (t : Table) (saw : Sighting) (target : Int) (left : Nat) (batches : List (List Event))
      (read : saw.target? = some target)
      (planned : batches.length + (left + 1) = c.needed saw.old.length)
      (filled : ∀ batch ∈ batches, batch ≠ [])
      (gone : batches.flatten.map Event.lasting =
        (saw.old.map Event.lasting).take (batches.length * c.width))
      (stays : (saw.old.map Event.lasting).drop (batches.length * c.width) <+: t.lasting) :
      Course c (batches.length + 1) (deleting c saw target (left + 1) batches) t
  | done (turns : Nat) (t : Table) (saw : Sighting) (target : Int) (batches : List (List Event))
      (read : saw.target? = some target) (planned : batches.length = c.needed saw.old.length)
      (late : batches.length < turns) (filled : ∀ batch ∈ batches, batch ≠ [])
      (gone : batches.flatten.map Event.lasting = saw.old.map Event.lasting) :
      Course c turns (deleting c saw target 0 batches) t

theorem Course.extend (c : Cleaner) (turns : Nat) (w : Worker) (t after : Table)
    (grows : t.lasting <+: after.lasting) (course : Course c turns w t) :
    Course c turns w after := by
  cases course with
  | fresh => exact .fresh after
  | idle _ _ saw asked unread => exact .idle turns after saw asked unread
  | busy _ saw target left batches read planned filled gone stays =>
      exact .busy after saw target left batches read planned filled gone (stays.trans grows)
  | done _ _ saw target batches read planned late filled gone =>
      exact .done turns after saw target batches read planned late filled gone

theorem begun_course (c : Cleaner) (saw : Sighting) (positive : 0 < c.batchSize)
    (fits : Storable c.batchSize) (few : saw.old.length ≤ 2 ^ 53) :
    Course c 1 (begun c saw) saw.table := by
  cases read : saw.target? with
  | none =>
      rw [begun_idle c saw read]
      exact .idle 1 saw.table saw Nat.one_pos read
  | some target =>
      have present : 0 < saw.old.length := List.length_pos_iff.mpr (saw.old_ne_nil target read)
      obtain ⟨left, planned⟩ : ∃ left, c.needed saw.old.length = left + 1 := by
        have covered := c.needed_covers saw.old.length positive
        refine Nat.exists_eq_succ_of_ne_zero fun none => ?_
        rw [none] at covered
        omega
      rw [begun_deleting c saw target read few positive fits, planned]
      refine .busy saw.table saw target left [] read (by simp [planned]) (by simp) (by simp) ?_
      rw [List.length_nil, Nat.zero_mul, List.drop_zero]
      refine ⟨(saw.table.above target).map Event.lasting, ?_⟩
      rw [← List.map_append, Sighting.old, ← saw.table.upTo_target saw.cutoff target read,
        saw.table.upTo_append_above]
      rfl

/-- As long as a cleaner plans another batch, the rows up to its target are
    what its batches have left of the expired ones. -/
theorem upTo_left (saw : Sighting) (target : Int) (read : saw.target? = some target) (count : Nat)
    (more : count < saw.old.length) (t : Table)
    (stays : (saw.old.map Event.lasting).drop count <+: t.lasting) :
    (t.upTo target).map Event.lasting = (saw.old.map Event.lasting).drop count := by
  have front := t.take_lasting _ stays
  generalize ((saw.old.map Event.lasting).drop count).length = size at front
  -- Identifiers last, so the target still ends the rows in front.
  have ids : (t.rows.take size).map (·.id) = (saw.old.drop count).map (·.id) := by
    rw [← List.map_drop] at front
    have same := congrArg (List.map (·.id)) front
    rw [List.map_map, List.map_map] at same
    exact same
  rw [← front, t.upTo_front target (t.rows.take size) (t.rows.drop size)]
  · exact (List.take_append_drop size t.rows).symm
  · intro e member
    obtain ⟨seen, present, same⟩ := List.mem_map.mp (ids ▸ List.mem_map_of_mem member)
    have below := (List.max?_eq_some_iff.mp read).2 seen.id
      (List.mem_map_of_mem (List.mem_of_mem_drop present))
    omega
  · obtain ⟨last, present, same⟩ := saw.target_late target read count more
    obtain ⟨e, member, own⟩ := List.mem_map.mp (ids.symm ▸ List.mem_map_of_mem present)
    exact ⟨e, member, own.trans same⟩

/-- The next batch of such a cleaner, and how many rows it has. -/
theorem next_batch (c : Cleaner) (saw : Sighting) (target : Int) (read : saw.target? = some target)
    (count : Nat) (more : count < saw.old.length) (t : Table)
    (stays : (saw.old.map Event.lasting).drop count <+: t.lasting) :
    t.taken target c.batchSize = min c.width (saw.old.length - count) ∧
      (t.rows.take (t.taken target c.batchSize)).map Event.lasting =
        ((saw.old.map Event.lasting).drop count).take c.width := by
  have rows := upTo_left saw target read count more t stays
  have size : (t.upTo target).length = saw.old.length - count := by
    simpa using congrArg List.length rows
  constructor
  · rw [← size]
    rfl
  · rw [← t.eligible_eq_take, ← rows, ← List.map_take]
    rfl

theorem ask_course (c : Cleaner) (turns : Nat) (w : Worker) (clock : Clock) (t : Table)
    (positive : 0 < c.batchSize) (fits : Storable c.batchSize)
    (few : ∀ saw, (w.ask clock t).1.sighting = some saw → saw.old.length ≤ 2 ^ 53)
    (course : Course c turns w t) :
    Course c (turns + 1) (w.ask clock t).1 (w.ask clock t).2 := by
  cases course with
  | fresh =>
      rw [ask_start] at few ⊢
      exact begun_course c ⟨clock.cutoff c.ttl, t⟩ positive fits (few _ (begun_sighting c _).1)
  | idle _ _ saw asked unread =>
      rw [ask_over _ _ clock t rfl]
      exact .idle (turns + 1) t saw (Nat.lt_succ_of_lt asked) unread
  | done _ _ saw target batches read planned late filled gone =>
      rw [ask_over _ _ clock t rfl]
      exact .done (turns + 1) t saw target batches read planned (Nat.lt_succ_of_lt late) filled gone
  | busy _ saw target left batches read planned filled gone stays =>
      have width := c.width_pos positive
      have more := c.needed_more saw.old.length batches.length positive (by omega)
      obtain ⟨count, batch⟩ := next_batch c saw target read _ more t stays
      have some : t.taken target c.batchSize ≠ 0 := by omega
      have next : (batches.length + 1) * c.width = batches.length * c.width + c.width :=
        Nat.succ_mul ..
      have gone' : (batches ++ [t.rows.take (t.taken target c.batchSize)]).flatten.map Event.lasting =
          (saw.old.map Event.lasting).take ((batches.length + 1) * c.width) := by
        rw [List.flatten_append, List.map_append, gone, next, List.take_add, ← batch]
        simp
      have filled' : ∀ b ∈ batches ++ [t.rows.take (t.taken target c.batchSize)], b ≠ [] := by
        intro b member
        rcases List.mem_append.mp member with old | new
        · exact filled b old
        · rw [List.mem_singleton.mp new, ← List.length_pos_iff, t.length_take_taken]
          omega
      rw [ask_deleting c saw target left batches clock t positive
        (saw.table.target_storable saw.cutoff target read) fits, if_neg some]
      cases left with
      | zero =>
          -- With the last batch the planned batches cover all expired rows.
          have covered := c.needed_covers saw.old.length positive
          have last : batches.length + 1 = c.needed saw.old.length := planned
          refine .done _ _ saw target _ read (by simpa using planned) (by simp) filled' ?_
          rw [gone', last]
          exact List.take_of_length_le (by simpa using covered)
      | succ left =>
          have length : (batches ++ [t.rows.take (t.taken target c.batchSize)]).length =
              batches.length + 1 := by simp
          rw [← length]
          refine .busy _ saw target left _ read (by omega) filled' (by rw [gone', length]) ?_
          rw [length, next, ← List.drop_drop]
          -- A batch before the last one is full.
          have full : t.taken target c.batchSize = c.width := by
            have := c.needed_more saw.old.length (batches.length + 1) positive (by omega)
            omega
          have kept := List.IsPrefix.drop stays c.width
          change _ <+: (t.rows.drop (t.taken target c.batchSize)).map Event.lasting
          rw [full, List.map_drop]
          exact kept

theorem course_exact (c : Cleaner) (turns : Nat) (w : Worker) (t : Table) (saw : Sighting)
    (positive : 0 < c.batchSize) (course : Course c turns w t) (seen : w.sighting = some saw) :
    (∀ batch ∈ w.batches, batch ≠ []) ∧
      w.removed.map Event.lasting <+: saw.old.map Event.lasting ∧
      (w.answer?.isSome ↔ c.needed saw.old.length < turns) ∧
      ∀ answer, w.answer? = some answer →
        answer = .ok ⟨saw.old.length, saw.target?, saw.old.length, c.needed saw.old.length⟩ ∧
        w.batches.length = c.needed saw.old.length ∧
        w.removed.map Event.lasting = saw.old.map Event.lasting := by
  cases course with
  | fresh => cases seen
  | idle _ _ _ asked unread =>
      cases seen
      have none : saw.old = [] := (saw.table.target_none saw.cutoff).mp unread
      rw [none, unread, List.length_nil, c.needed_zero positive]
      refine ⟨List.forall_mem_nil _, List.prefix_rfl, ⟨fun _ => asked, fun _ => rfl⟩, ?_⟩
      intro answer ended
      exact ⟨(Option.some.inj ended).symm, rfl, rfl⟩
  | busy _ _ target left batches read planned filled gone stays =>
      cases seen
      refine ⟨filled, ?_, ?_, fun answer ended => by cases ended⟩
      · change batches.flatten.map Event.lasting <+: _
        rw [gone]
        exact List.take_prefix ..
      · constructor
        · intro ended
          cases ended
        · intro late
          omega
  | done _ _ _ target batches read planned late filled gone =>
      cases seen
      have size : batches.flatten.length = saw.old.length := by
        rw [← List.length_map Event.lasting, gone, List.length_map]
      refine ⟨filled, gone ▸ List.prefix_rfl, ?_, ?_⟩
      · rw [← planned]
        exact ⟨fun _ => late, fun _ => rfl⟩
      · intro answer ended
        have same : answer = .ok ⟨saw.old.length, some target, batches.flatten.length,
          batches.length⟩ := (Option.some.inj ended).symm
        rw [same, size, planned, read]
        exact ⟨rfl, planned, gone⟩

end Worker

namespace Crew

/-- Clients that do not delete only add rows behind the others, as long as
    there are larger identifiers. -/
theorem take_grows (s : Crew) (clock : Clock) (action : StoreAction) (roomy : s.table.Roomy)
    (admitted : (action.isCreate || action.isUpdate || action.isQuery) = true) :
    s.table.lasting <+: (s.take (.client clock action)).table.lasting := by
  have single : action.isSingle = true := by
    cases action <;> first | rfl | exact admitted
  have effect := StoreAction.perform_effect s.table clock action single
  change s.table.lasting <+: (action.perform Table.run clock s.table).2.lasting
  generalize (action.perform Table.run clock s.table).2 = after at effect
  cases effect with
  | same => exact List.prefix_rfl
  | dropped => cases admitted
  | revised id message count time text => rw [Table.revise_lasting]
  | added _ _ _ _ _ _ e fresh fits next series =>
      have below : ∀ r ∈ s.table.rows, r.id < e.id := by
        intro r member
        rw [next]
        exact s.table.nextId_above roomy r member
      rw [Table.add_lasting s.table e fresh fits below]
      exact List.prefix_append ..

def RoomyFor : Crew → List Turn → Prop
  | _, [] => True
  | s, .worker index clock :: rest => (s.take (.worker index clock)).RoomyFor rest
  | s, .client clock action :: rest =>
      s.table.Roomy ∧ (s.take (.client clock action)).RoomyFor rest

instance roomyForDecidable : (s : Crew) → (turns : List Turn) → Decidable (s.RoomyFor turns)
  | _, [] => inferInstanceAs (Decidable True)
  | s, .worker index clock :: rest => roomyForDecidable (s.take (.worker index clock)) rest
  | s, .client clock action :: rest =>
      have := roomyForDecidable (s.take (.client clock action)) rest
      inferInstanceAs (Decidable (s.table.Roomy ∧ (s.take (.client clock action)).RoomyFor rest))

theorem roomyFor_append (s : Crew) (past later : List Turn) (roomy : s.RoomyFor (past ++ later)) :
    s.RoomyFor past ∧ (s.run past).RoomyFor later := by
  induction past generalizing s with
  | nil => exact ⟨trivial, roomy⟩
  | cons turn rest ih =>
      cases turn with
      | worker index clock => exact ih _ roomy
      | client clock action => exact ⟨⟨roomy.1, (ih _ roomy.2).1⟩, (ih _ roomy.2).2⟩

theorem run_course (t : Table) (c : Cleaner) (turns : List Turn)
    (admitted : ∀ turn ∈ turns,
      turn.among (fun a => a.isCreate || a.isUpdate || a.isQuery) = true)
    (roomy : (start t [c]).RoomyFor turns) (positive : 0 < c.batchSize)
    (fits : Storable c.batchSize) (w : Worker)
    (here : ((start t [c]).run turns).workers[0]? = some w)
    (few : ∀ saw, w.sighting = some saw → saw.old.length ≤ 2 ^ 53) :
    Worker.Course c (turns.countP (Turn.isOf 0)) w ((start t [c]).run turns).table := by
  revert few
  apply run_worker (start t [c]) turns 0 (fun past w =>
    (∀ saw, w.sighting = some saw → saw.old.length ≤ 2 ^ 53) →
      Worker.Course c (past.countP (Turn.isOf 0)) w ((start t [c]).run past).table) _ _ _ w here
  · intro w same _
    cases same
    exact .fresh t
  · intro past clock mine _ there course few
    obtain ⟨c', stage⟩ := run_staged _ past (start_staged t [c]) 0 mine there
    have seen := (Worker.ask_stage c' mine clock ((start t [c]).run past).table stage).2.sighting
    have before := course fun saw known => few saw (by rw [seen, known]; rfl)
    rw [run_snoc, take_worker _ 0 clock mine there, List.countP_append]
    simpa [Turn.isOf] using Worker.ask_course c _ mine clock _ positive fits few before
  · intro past turn w inside apart there course few
    rw [run_snoc, List.countP_append]
    cases turn with
    | client clock action =>
        have last := admitted _ (last_turn past turns _ inside)
        obtain ⟨later, same⟩ := inside
        rw [← same, List.append_assoc] at roomy
        have room := (roomyFor_append _ past _ roomy).2.1
        exact (course few).extend c _ w _ _ (take_grows _ clock action room last)
    | worker index clock =>
        have different : index ≠ 0 := fun zero => apart clock (by rw [zero])
        -- There is no other cleaner.
        have gone : ((start t [c]).run past).workers[index]? = none := by
          rw [List.getElem?_eq_none_iff, run_length]
          simp only [List.length_singleton]
          omega
        rw [take_missing _ index clock gone]
        simpa [Turn.isOf, different] using course few

/-- One cleaner beside clients that create, update and query: once it has asked
    anything, it removes the rows that were expired at its query in order, no
    batch is empty, and after the planned batches it answers that it removed
    them all. -/
theorem sole_cleaner_exact (t : Table) (c : Cleaner) (turns : List Turn)
    (admitted : ∀ turn ∈ turns,
      turn.among (fun a => a.isCreate || a.isUpdate || a.isQuery) = true)
    (roomy : (start t [c]).RoomyFor turns) (positive : 0 < c.batchSize)
    (fits : Storable c.batchSize) (asked : 0 < turns.countP (Turn.isOf 0)) :
    ∃ w saw, ((start t [c]).run turns).workers = [w] ∧ w.sighting = some saw ∧
      (saw.old.length ≤ 2 ^ 53 →
        (∀ batch ∈ w.batches, batch ≠ []) ∧
        w.removed.map Event.lasting <+: saw.old.map Event.lasting ∧
        (w.answer?.isSome ↔ c.needed saw.old.length < turns.countP (Turn.isOf 0)) ∧
        ∀ answer, w.answer? = some answer →
          answer = .ok ⟨saw.old.length, saw.target?, saw.old.length, c.needed saw.old.length⟩ ∧
          w.batches.length = c.needed saw.old.length ∧
          w.removed.map Event.lasting = saw.old.map Event.lasting) := by
  obtain ⟨w, alone⟩ : ∃ w, ((start t [c]).run turns).workers = [w] :=
    List.length_eq_one_iff.mp (run_length t [c] turns)
  have here : ((start t [c]).run turns).workers[0]? = some w := by rw [alone]; rfl
  have course := run_course t c turns admitted roomy positive fits w here
  cases seen : w.sighting with
  | none =>
      have unasked := course fun saw known => by rw [seen] at known; cases known
      generalize turns.countP (Turn.isOf 0) = own at unasked asked
      cases unasked with
      | fresh => cases asked
      | _ => cases seen
  | some saw =>
      refine ⟨w, saw, alone, seen, fun few => ?_⟩
      have known := course fun other same => by
        rw [seen] at same
        cases same
        exact few
      exact Worker.course_exact c _ w _ saw positive known seen

def fewClock : Clock := .settable Clock.defaultStart

def late : Turn :=
  .client fewClock
    (.create (some "job") (some "reason") (some "Normal") (some "text") (some "key")
      (some (.ofInstant Instant.earliest)))

def cycleBetween : List Turn :=
  [late, late, late, .worker 0 fewClock, .worker 0 fewClock, late,
    .client fewClock (.update 3 (some "again") 2), .worker 0 fewClock,
    .client fewClock (.latest (some "job") (some "reason") (some "key"))]

theorem sole_cleaner_exact_between :
    ∃ w saw, ((start .empty [⟨⟨Duration.microsPerDay⟩, 2⟩]).run cycleBetween).workers = [w] ∧
      w.sighting = some saw ∧ (saw.old.length ≤ 2 ^ 53 →
        (∀ batch ∈ w.batches, batch ≠ []) ∧
        ∀ answer, w.answer? = some answer → answer =
          .ok ⟨saw.old.length, saw.target?, saw.old.length, (saw.old.length + 2 - 1) / 2⟩) := by
  obtain ⟨w, saw, alone, seen, facts⟩ := sole_cleaner_exact .empty ⟨⟨Duration.microsPerDay⟩, 2⟩
    cycleBetween (by decide) (by decide) (by decide) (by decide) (by decide)
  exact ⟨w, saw, alone, seen, fun few => ⟨(facts few).1, fun answer ended =>
    ((facts few).2.2.2 answer ended).1⟩⟩

end Crew

end EventRetention
