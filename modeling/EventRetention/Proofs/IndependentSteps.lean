import EventRetention.Proofs.BoundedDelete
import EventRetention.Proofs.ExpiryMonotone
import EventRetention.Proofs.SoleCleaner
import EventRetention.Proofs.WrittenRows

/-!
Steps whose order does not matter. An update writes three fields of one row. The
expiry query, the choice of the rows to delete and the test for an identifier
read none of them, so an update goes before or after an update of another row,
an expiry query or a delete up to a smaller identifier alike: both answer the
same, failures included, and leave the same table.
-/

namespace EventRetention

namespace Table

/-! What updates leave alone is all that expiry and deletes read. -/

theorem ids_lasting (t : Table) : t.lasting.map (·.id) = t.ids := by
  unfold lasting ids
  rw [List.map_map]
  rfl

theorem expired_lasting (t : Table) (cutoff : Instant) :
    (t.expired cutoff).map Event.lasting =
      t.lasting.takeWhile fun e => decide (e.createTime < cutoff) := by
  rw [expired_eq_takeWhile, lasting, List.takeWhile_map]
  rfl

theorem expiry_same (s t : Table) (same : s.lasting = t.lasting) (cutoff : Instant) :
    s.expiry cutoff = t.expiry cutoff := by
  have rows : (s.expired cutoff).map Event.lasting = (t.expired cutoff).map Event.lasting := by
    rw [expired_lasting, expired_lasting, same]
  have count := congrArg List.length rows
  have ids := congrArg (List.map (·.id)) rows
  rw [List.length_map, List.length_map] at count
  rw [List.map_map, List.map_map] at ids
  exact Prod.ext count (congrArg List.max? ids)

theorem taken_same (s t : Table) (same : s.lasting = t.lasting) (target batch : Int) :
    s.taken target batch = t.taken target batch := by
  have counted (r : Table) : (r.upTo target).length =
      r.lasting.countP fun e => decide (e.id ≤ target) := by
    rw [lasting, List.countP_map, List.countP_eq_length_filter]
    rfl
  unfold taken
  rw [counted, counted, same]

inductive Revision (id : Int) : (Table → Table) → Prop where
  | kept : Revision id fun t => t
  | revised (time : Instant) (text : String) (count : Int) :
      Revision id fun t => t.revise id time text count

namespace Revision

variable {id : Int} {change : Table → Table}

theorem lasting (revision : Revision id change) (t : Table) : (change t).lasting = t.lasting := by
  cases revision with
  | kept => rfl
  | revised time text count => exact t.revise_lasting id time text count

theorem ids (revision : Revision id change) (t : Table) : (change t).ids = t.ids := by
  rw [← ids_lasting, revision.lasting, ids_lasting]

theorem dropFirst (revision : Revision id change) (t : Table) (count : Nat) :
    (change t).dropFirst count = change (t.dropFirst count) := by
  cases revision with
  | kept => rfl
  | revised time text number => exact ext_rows _ _ List.map_drop.symm

end Revision

theorem revise_comm (t : Table) (i j : Int) (distinct : i ≠ j) (early late : Instant)
    (first second : String) (m n : Int) :
    (t.revise j late second n).revise i early first m =
      (t.revise i early first m).revise j late second n := by
  apply ext_rows
  change (t.rows.map _).map _ = (t.rows.map _).map _
  rw [List.map_map, List.map_map]
  apply List.map_congr_left
  intro e _
  by_cases own : e.id = i
  · simp [own, repeated, distinct]
  · by_cases other : e.id = j <;> simp [own, other, repeated, Ne.symm distinct]

theorem Revision.comm {i j : Int} {f g : Table → Table} (distinct : i ≠ j) (own : Revision i f)
    (other : Revision j g) (t : Table) : f (g t) = g (f t) := by
  cases own with
  | kept => rfl
  | revised early first m =>
      cases other with
      | kept => rfl
      | revised late second n => exact t.revise_comm i j distinct early late first second m n

/-- A drop of rows up to a target takes no larger identifier away. -/
theorem dropFirst_ids (t : Table) (target id : Int) (count : Nat)
    (within : count ≤ (t.upTo target).length) (beyond : target < id) :
    id ∈ (t.dropFirst count).ids ↔ id ∈ t.ids := by
  constructor
  · intro present
    obtain ⟨e, member, rfl⟩ := List.mem_map.mp present
    exact List.mem_map_of_mem (List.mem_of_mem_drop member)
  · intro present
    obtain ⟨e, member, rfl⟩ := List.mem_map.mp present
    have late : e ∈ t.rows.drop (t.upTo target).length := by
      rw [show t.rows.drop _ = t.above target from t.dropFirst_upTo target]
      exact (t.mem_above target e).mpr ⟨member, beyond⟩
    rw [← Nat.add_sub_cancel' within, ← List.drop_drop] at late
    exact List.mem_map_of_mem (List.mem_of_mem_drop late)

end Table

namespace Operation

/-- An update does the same to all tables that agree on whether they have its
    identifier. -/
theorem update_uniform (t : Table) (clock : Clock) (id : Int) (message : Option String)
    (count : Int) :
    ∃ outcome change, Table.Revision id change ∧ ∀ s : Table, (id ∈ s.ids ↔ id ∈ t.ids) →
      (update clock id message count).perform Table.run s = (outcome, change s) := by
  cases read : clock.instant with
  | error cause =>
      exact ⟨_, _, .kept, fun s _ => perform_update_unreadable s clock id message count cause read⟩
  | ok time =>
      by_cases inside : Storable id ∧ Storable count
      · have whole := fun s => perform_update s clock id message count time read inside.1 inside.2
        by_cases present : id ∈ t.ids
        · have held := fun s (same : id ∈ s.ids ↔ id ∈ t.ids) =>
            (whole s).trans (if_pos (same.mpr present))
          cases message with
          | none => exact ⟨_, _, .kept, held⟩
          | some text => exact ⟨_, _, .revised time text count, held⟩
        · exact ⟨_, _, .kept, fun s same => (whole s).trans (if_neg fun held => present (same.mp held))⟩
      · exact ⟨_, _, .kept,
          fun s _ => perform_update_unstorable s clock id message count time read inside⟩

/-- A delete is refused by every table, or takes rows of every table. -/
theorem delete_uniform (target batch : Int) :
    (∃ outcome, ∀ s : Table, (delete target batch).perform Table.run s = (outcome, s)) ∨
      ∀ s : Table, (delete target batch).perform Table.run s =
        ({ answer := .ok (s.taken target batch : Int)
           notices := [.batchDeleted target batch (s.taken target batch)] },
          s.dropFirst (s.taken target batch)) := by
  by_cases positive : 0 < batch
  · by_cases inside : Storable target ∧ Storable batch
    · exact Or.inr fun s => perform_delete s target batch positive inside.1 inside.2
    · exact Or.inl ⟨_, fun s => perform_delete_unstorable s target batch positive inside⟩
  · exact Or.inl ⟨_, fun s => perform_delete_nonpositive s target batch (by omega)⟩

end Operation

namespace StoreAction

theorem update_uniform (t : Table) (clock : Clock) (id : Int) (message : Option String)
    (count : Int) :
    ∃ outcome change, Table.Revision id change ∧ ∀ s : Table, (id ∈ s.ids ↔ id ∈ t.ids) →
      (update id message count).perform Table.run clock s = (outcome, change s) := by
  obtain ⟨outcome, change, revision, uniform⟩ := Operation.update_uniform t clock id message count
  refine ⟨outcome.map fun _ => .done, change, revision, fun s same => ?_⟩
  simp only [perform, uniform s same]
  rfl

end StoreAction

namespace Session

/-- Of two steps each answers the same before and after the other, and both
    orders lead to the same session. -/
structure Commute (s : Session) (a b : Step) : Prop where
  first : ((s.step b).2.step a).1 = (s.step a).1
  second : ((s.step a).2.step b).1 = (s.step b).1
  joined : ((s.step a).2.step b).2 = ((s.step b).2.step a).2

def expiring (ttl : Duration) (who : Nat) : Step := ⟨who, .store (.expired ttl)⟩

section

variable (t : Table) (clocks : List Clock) (who other : Nat)

/-- Two actions commute that answer the same and change the table in the same
    way before and after each other, if their changes commute. -/
theorem commute_opened (a b : StoreAction) (x y : Outcome (Answer String)) (f g : Table → Table)
    (joined : f (g t) = g (f t))
    (own : ∀ s, s = t ∨ s = g t → a.perform Table.run ((opened t clocks).clockOf who) s = (x, f s))
    (others : ∀ s, s = t ∨ s = f t →
      b.perform Table.run ((opened t clocks).clockOf other) s = (y, g s)) :
    (opened t clocks).Commute ⟨who, .store a⟩ ⟨other, .store b⟩ := by
  have here : ∀ s, s = t ∨ s = g t →
      (opened s clocks).step ⟨who, .store a⟩ = (x, opened (f s) clocks) := by
    intro s case
    rw [step_store, show a.perform Table.run ((opened s clocks).clockOf who) s = _ from own s case]
  have there : ∀ s, s = t ∨ s = f t →
      (opened s clocks).step ⟨other, .store b⟩ = (y, opened (g s) clocks) := by
    intro s case
    rw [step_store,
      show b.perform Table.run ((opened s clocks).clockOf other) s = _ from others s case]
  constructor
  · rw [there t (Or.inl rfl), here t (Or.inl rfl), here (g t) (Or.inr rfl)]
  · rw [here t (Or.inl rfl), there t (Or.inl rfl), there (f t) (Or.inr rfl)]
  · rw [here t (Or.inl rfl), there t (Or.inl rfl), there (f t) (Or.inr rfl),
      here (g t) (Or.inr rfl), joined]

theorem updates_commute (i j : Int) (distinct : i ≠ j) (first second : Option String) (m n : Int) :
    (opened t clocks).Commute (updating i first m who) (updating j second n other) := by
  obtain ⟨x, f, own, here⟩ :=
    StoreAction.update_uniform t ((opened t clocks).clockOf who) i first m
  obtain ⟨y, g, others, there⟩ :=
    StoreAction.update_uniform t ((opened t clocks).clockOf other) j second n
  refine commute_opened t clocks who other _ _ x y f g (own.comm distinct others t) ?_ ?_
  · rintro s (rfl | rfl)
    · exact here s Iff.rfl
    · exact here (g t) (by rw [others.ids])
  · rintro s (rfl | rfl)
    · exact there s Iff.rfl
    · exact there (f t) (by rw [own.ids])

theorem update_expiry_commute (id : Int) (message : Option String) (count : Int) (ttl : Duration) :
    (opened t clocks).Commute (updating id message count who) (expiring ttl other) := by
  obtain ⟨x, f, revision, here⟩ :=
    StoreAction.update_uniform t ((opened t clocks).clockOf who) id message count
  let clock := (opened t clocks).clockOf other
  let answer (s : Table) : Outcome (Answer String) :=
    { answer := .ok (.expiry (some (s.expiryAnswer (clock.cutoff ttl)))) }
  have query : ∀ s, (StoreAction.expired ttl).perform Table.run clock s = (answer s, s) := by
    intro s
    simp only [StoreAction.perform, Operation.perform_expired]
    rfl
  refine commute_opened t clocks who other _ _ x (answer t) f (fun s => s) rfl ?_ ?_
  · rintro s (rfl | rfl) <;> exact here _ Iff.rfl
  · rintro s (rfl | rfl)
    · exact query s
    · have same : (f t).expiry (clock.cutoff ttl) = t.expiry (clock.cutoff ttl) :=
        Table.expiry_same (f t) t (revision.lasting t) _
      rw [query]
      simp only [answer, Table.expiryAnswer, same]

theorem update_delete_commute (id : Int) (message : Option String) (count : Int)
    (target batch : Int) (beyond : target < id) :
    (opened t clocks).Commute (updating id message count who) (deletion target batch other) := by
  obtain ⟨x, f, revision, here⟩ :=
    StoreAction.update_uniform t ((opened t clocks).clockOf who) id message count
  have taken := Table.taken_same (f t) t (revision.lasting t) target batch
  rcases Operation.delete_uniform target batch with ⟨outcome, refused⟩ | accepted
  · refine commute_opened t clocks who other _ _ x (outcome.map .count) f (fun s => s) rfl ?_ ?_
    · rintro s (rfl | rfl) <;> exact here _ Iff.rfl
    · intro s _
      simp only [StoreAction.perform, refused s]
      rfl
  · let gone := t.taken target batch
    have within : gone ≤ (t.upTo target).length := t.taken_le target batch
    refine commute_opened t clocks who other _ _ x
      { answer := .ok (.count gone), notices := [.batchDeleted target batch gone] } f
      (fun s => s.dropFirst gone) (revision.dropFirst t gone).symm ?_ ?_
    · rintro s (rfl | rfl)
      · exact here s Iff.rfl
      · exact here _ (t.dropFirst_ids target id gone within beyond)
    · rintro s (rfl | rfl)
      · simp only [StoreAction.perform, accepted s]
        rfl
      · simp only [StoreAction.perform, accepted (f t), taken]
        rfl

/-- An update commutes with an update of another row, whoever makes them and
    whether or not they succeed, with an expiry query at any instant, which
    answers the same before and after it, and with a delete up to a smaller
    identifier. -/
theorem updates_independent (id : Int) (message : Option String) (count : Int) :
    let start := opened t clocks
    let update := updating id message count who
    (∀ j text number, id ≠ j → start.Commute update (updating j text number other)) ∧
    (∀ ttl, start.Commute update (expiring ttl other)) ∧
    ∀ target batch, target < id → start.Commute update (deletion target batch other) :=
  ⟨fun j text number distinct =>
      updates_commute t clocks who other id j distinct message text count number,
    update_expiry_commute t clocks who other id message count,
    update_delete_commute t clocks who other id message count⟩

end

/-! A client at noon updates the row 6, and another, whose clock is an hour ahead
of universal time, updates the row 5, fails to update one that is not there, asks
what is expired and deletes up to 5. -/

theorem updates_independent_skewed :
    let start := opened Operation.skewedTable
      [.settable Operation.noon, .fixed ⟨Operation.noon, some ⟨3600, by decide⟩⟩]
    let update := updating 6 (some "again") 2 0
    start.Commute update (updating 5 (some "other") 3 1) ∧
      start.Commute update (updating 7 none 3 1) ∧
      ((start.step update).2.step (expiring ⟨3600000000⟩ 1)).1.answer =
        .ok (.expiry (some ⟨4, some 9⟩)) ∧
      (((start.step (deletion 5 9 1)).2.step update).2).ids = [6, 9] := by
  intro start update
  obtain ⟨others, expiry, deletes⟩ := updates_independent Operation.skewedTable start.clocks 0 1 6
    (some "again") 2
  refine ⟨others 5 _ 3 (by decide), others 7 _ 3 (by decide), ?_, ?_⟩
  · exact congrArg (·.answer) (expiry ⟨3600000000⟩).second
  · have either := (deletes 5 9 (by decide)).joined
    exact (congrArg ids either).symm.trans (by decide)

end Session

end EventRetention
