import EventRetention.Proofs.StatementEffects

/-!
The expiry query against its plain reading. With the rows in order of their
identifiers it counts the longest prefix whose rows are all older than the
cutoff, and its target is the identifier of the last of them. The cutoff is the
exact difference of clock and time to live, and never before the first instant.
-/

namespace EventRetention

theorem ascending_max (rows : List Event) (order : rows.Pairwise fun a b => a.id < b.id) :
    (rows.map (·.id)).max? = rows.getLast?.map (·.id) := by
  cases last : rows.getLast? with
  | none => rw [List.getLast?_eq_none_iff.mp last]; rfl
  | some e =>
      obtain ⟨member, largest⟩ := (ascending_last rows order e).mp last
      refine List.max?_eq_some_iff.mpr ⟨List.mem_map_of_mem member, ?_⟩
      intro id present
      obtain ⟨r, inside, rfl⟩ := List.mem_map.mp present
      exact largest r inside

/-- Of a prefix all of whose rows pass a test `takeWhile` gives no less. -/
theorem passing_short {α : Type} (test : α → Bool) (rows front : List α) (starts : front <+: rows)
    (pass : ∀ a ∈ front, test a = true) : front <+: rows.takeWhile test := by
  obtain ⟨rest, rfl⟩ := starts
  rw [List.takeWhile_append_of_pos pass]
  exact List.prefix_append front _

namespace Reading

/-- Going back from a reading of universal time is subtraction of integers. -/
theorem back_inside (now : Instant) (d : Duration)
    (inside : 0 ≤ now.micros - d.micros ∧ now.micros - d.micros < 315537897600000000) :
    ((ofInstant now).sub? d).bind toUtc? = some ⟨now.micros - d.micros, inside⟩ := by
  have wall : now.sub? d = some ⟨now.micros - d.micros, inside⟩ := dif_pos inside
  simp only [sub?, ofInstant, wall, Option.map_some, Option.bind_some, toUtc?, micros,
    Option.elim_some, Seconds.micros_zero, Int.sub_zero]
  exact dif_pos inside

theorem back_outside (now : Instant) (d : Duration)
    (outside : ¬ (0 ≤ now.micros - d.micros ∧ now.micros - d.micros < 315537897600000000)) :
    ((ofInstant now).sub? d).bind toUtc? = none := by
  have wall : now.sub? d = none := dif_neg outside
  simp only [sub?, ofInstant, wall, Option.map_none, Option.bind_none]

end Reading

def Instant.latest : Instant := ⟨315537897599999999, by decide⟩

namespace Clock

/-- The cutoff of a clock in universal time. A difference beyond the year 9999,
    for a time to live below 0, is taken for the first instant. -/
theorem cutoff_reached (clock : Clock) (now : Instant) (ttl : Duration)
    (reads : clock.now = .ofInstant now) :
    (clock.cutoff ttl).micros =
      if now.micros - ttl.micros ≤ Instant.latest.micros
      then max (now.micros - ttl.micros) Instant.earliest.micros
      else Instant.earliest.micros := by
  have last : Instant.latest.micros = 315537897599999999 := rfl
  have first : Instant.earliest.micros = 0 := rfl
  unfold cutoff
  rw [reads]
  by_cases inside : 0 ≤ now.micros - ttl.micros ∧ now.micros - ttl.micros < 315537897600000000
  · have within : now.micros - ttl.micros ≤ Instant.latest.micros := by omega
    rw [Reading.back_inside now ttl inside, if_pos within]
    exact (Int.max_eq_left inside.1).symm
  · rw [Reading.back_outside now ttl inside]
    change Instant.earliest.micros = _
    split <;> omega

/-- With a time to live that is not below 0 it is the exact difference, and
    never before the first instant. -/
theorem cutoff_exact (clock : Clock) (now : Instant) (ttl : Duration)
    (reads : clock.now = .ofInstant now) (nonneg : 0 ≤ ttl) :
    (clock.cutoff ttl).micros = max (now.micros - ttl.micros) Instant.earliest.micros := by
  have forward : 0 ≤ ttl.micros := nonneg
  have bound := now.inRange
  have last : Instant.latest.micros = 315537897599999999 := rfl
  have reached : now.micros - ttl.micros ≤ Instant.latest.micros := by omega
  rw [clock.cutoff_reached now ttl reads, if_pos reached]

end Clock

/-- The longest prefix of some rows that are all older than a number of
    microseconds. -/
structure OldFront (rows : List Event) (cutoff : Int) (front : List Event) : Prop where
  starts : front <+: rows
  old : ∀ e ∈ front, e.createTime.micros < cutoff
  longest : ∀ other, other <+: rows → (∀ e ∈ other, e.createTime.micros < cutoff) →
    other.length ≤ front.length

namespace Table

theorem expired_front (t : Table) (cutoff : Instant) :
    OldFront t.rows cutoff.micros (t.expired cutoff) where
  starts := by
    rw [expired_eq_takeWhile]
    exact List.takeWhile_prefix _
  old := t.expired_older cutoff
  longest := by
    intro other starts old
    rw [expired_eq_takeWhile]
    refine (passing_short _ t.rows other starts ?_).length_le
    intro e member
    exact decide_eq_true (old e member)

theorem expiry_target (t : Table) (cutoff : Instant) :
    (t.expiry cutoff).2 = (t.expired cutoff).getLast?.map (·.id) :=
  ascending_max _ (t.ascending.filter _)

end Table

namespace Operation

/-- At any instant and for any time to live the query succeeds, leaves the
    table alone and answers with the length of the longest old prefix and the
    identifier of its last row; the rows up to that identifier are its rows. -/
theorem expiry_longest_front (t : Table) (clock : Clock) (now : Instant) (ttl : Duration)
    (reads : clock.now = .ofInstant now) (nonneg : 0 ≤ ttl) :
    ∃ front maxId,
      (expired clock ttl).perform Table.run t =
        ({ answer := .ok (some ⟨(front.length : Int), maxId⟩) }, t) ∧
      OldFront t.rows (max (now.micros - ttl.micros) Instant.earliest.micros) front ∧
      maxId = front.getLast?.map (·.id) ∧
      (maxId = none ↔ front.length = 0) ∧
      ∀ target, maxId = some target → t.upTo target = front := by
  have exact := clock.cutoff_exact now ttl reads nonneg
  have last := t.expiry_target (clock.cutoff ttl)
  refine ⟨t.expired (clock.cutoff ttl), (t.expiry (clock.cutoff ttl)).2,
    perform_expired t clock ttl, ?_, last, ?_, t.upTo_target (clock.cutoff ttl)⟩
  · rw [← exact]
    exact t.expired_front (clock.cutoff ttl)
  · rw [t.target_none, List.length_eq_zero_iff]

def hourMark (id : Int) (hour : Nat) (inside : hour ≤ 24) : Event where
  id := id
  createTime := ⟨hour * 3600000000, by omega⟩
  updateTime := ⟨hour * 3600000000, by omega⟩
  jobKey := "job"
  reason := "reason"
  eventType := "Normal"
  message := "text"
  eventCount := 1
  eventKey := "key"

def skewedTable : Table where
  rows := [hourMark (-4) 8 (by decide), hourMark 5 3 (by decide), hourMark 6 9 (by decide),
    hourMark 9 1 (by decide)]
  ascending := by decide
  storable := by decide

def noon : Instant := ⟨43200000000, by decide⟩

theorem expiry_longest_front_skewed :
    ((expired (.settable noon) ⟨10800000000⟩).perform Table.run skewedTable).1.answer =
        .ok (some ⟨2, some 5⟩) ∧
      ∃ front, front.length = 2 ∧ skewedTable.upTo 5 = front ∧
        OldFront skewedTable.rows (max (43200000000 - 10800000000) 0) front := by
  have answer : ((expired (.settable noon) ⟨10800000000⟩).perform Table.run skewedTable).1.answer =
      .ok (some ⟨2, some 5⟩) := by decide
  refine ⟨answer, ?_⟩
  obtain ⟨front, maxId, whole, longest, -, -, rows⟩ :=
    expiry_longest_front skewedTable (.settable noon) noon ⟨10800000000⟩ rfl (by decide)
  rw [whole] at answer
  obtain ⟨length, target⟩ := Expiry.mk.inj (Option.some.inj (Except.ok.inj answer))
  exact ⟨front, Int.ofNat.inj length, rows 5 target, longest⟩

end Operation

end EventRetention
