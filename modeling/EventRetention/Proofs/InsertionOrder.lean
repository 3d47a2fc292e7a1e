import EventRetention.Proofs.SessionStates

/-!
Identifiers as a record of recency. Deletes give the identifiers of the newest
rows free again, so that over a whole session identifiers are not handed out in
order. Those of the rows that are left always are: their order is the order in
which these rows were inserted, and a lookup finds the row inserted last.
-/

namespace EventRetention

namespace Session

/-- The step at an index inserted the row that has an identifier now: the
    identifier was not in the table before it and has been since. -/
def Arrived (s : Session) (steps : List Step) (index : Nat) (id : Int) : Prop :=
  index < steps.length ∧ id ∉ (s.after (steps.take index)).ids ∧
    ∀ later, index < later → later ≤ steps.length → id ∈ (s.after (steps.take later)).ids

theorem Arrived.snoc (s : Session) (steps : List Step) (step : Step) (index : Nat) (id : Int)
    (arrived : s.Arrived steps index id) (stays : id ∈ (s.after (steps ++ [step])).ids) :
    s.Arrived (steps ++ [step]) index id := by
  obtain ⟨inside, absent, since⟩ := arrived
  refine ⟨?_, ?_, fun later after bound => ?_⟩
  · rw [List.length_append]
    omega
  · rwa [List.take_append_of_le_length (Nat.le_of_lt inside)]
  · rw [List.length_append, List.length_singleton] at bound
    rcases Nat.lt_or_eq_of_le bound with early | last
    · rw [List.take_append_of_le_length (by omega)]
      exact since later after (by omega)
    · rwa [List.take_of_length_le (by simp [last])]

theorem Arrived.new (s : Session) (steps : List Step) (step : Step) (id : Int)
    (absent : id ∉ (s.after steps).ids) (present : id ∈ (s.after (steps ++ [step])).ids) :
    s.Arrived (steps ++ [step]) steps.length id := by
  refine ⟨by simp, ?_, fun later after bound => ?_⟩
  · rwa [List.take_left]
  · rw [List.length_append, List.length_singleton] at bound
    rwa [List.take_of_length_le (by simp; omega)]

section

variable (t : Table) (clocks : List Clock) (steps : List Step)
  (clients : ∀ step ∈ steps, step.action.isClient = true)
  (roomy : ∀ past step, past ++ [step] <+: steps → ((opened t clocks).after past).Roomy)

include clients roomy

/-- The row of a step that inserts one has the next identifier. -/
theorem arrived_next (index : Nat) (id : Int) (arrived : (opened t clocks).Arrived steps index id) :
    ∃ before clocks', (opened t clocks).after (steps.take index) = opened before clocks' ∧
      before.Roomy ∧ id = before.nextId := by
  obtain ⟨inside, absent, since⟩ := arrived
  have split : steps.take (index + 1) = steps.take index ++ [steps[index]] :=
    List.take_succ_eq_append_getElem inside
  have room := roomy (steps.take index) steps[index] (split ▸ List.take_prefix (index + 1) steps)
  obtain ⟨before, clocks', next, _, same, last, new⟩ := snoc_opened t clocks (steps.take index)
    steps[index] fun step member => clients step (List.mem_of_mem_take (split ▸ member))
  have present := since (index + 1) (Nat.lt_succ_self index) inside
  rw [same] at absent room
  rw [split, last] at present
  refine ⟨before, clocks', same, opened_roomy before clocks' room, ?_⟩
  rcases new id present with old | fresh
  · exact absurd old absent
  · exact fresh

theorem arrived_later (first second : Nat) (a b : Int)
    (early : (opened t clocks).Arrived steps first a)
    (late : (opened t clocks).Arrived steps second b) (order : first < second) : a < b := by
  obtain ⟨before, clocks', same, room, rfl⟩ := arrived_next t clocks steps clients roomy second b late
  have present := early.2.2 second order (Nat.le_of_lt late.1)
  rw [same] at present
  obtain ⟨e, member, rfl⟩ := List.mem_map.mp present
  exact before.nextId_above room e member

/-- The order of the identifiers that are left is that of their arrival. -/
theorem arrived_order (first second : Nat) (a b : Int)
    (early : (opened t clocks).Arrived steps first a)
    (late : (opened t clocks).Arrived steps second b) : a < b ↔ first < second := by
  refine ⟨fun less => ?_, arrived_later t clocks steps clients roomy first second a b early late⟩
  rcases Nat.lt_trichotomy first second with before | same | behind
  · exact before
  · subst same
    -- A step inserts one row at most.
    obtain ⟨before, _, here, -, rfl⟩ := arrived_next t clocks steps clients roomy first a early
    obtain ⟨again, _, there, -, rfl⟩ := arrived_next t clocks steps clients roomy first b late
    rw [here] at there
    cases there
    exact absurd less (Int.lt_irrefl _)
  · have := arrived_later t clocks steps clients roomy second first b a late early behind
    omega

end

/-- In a session that began with an empty table all identifiers are positive,
    and each row was inserted by one of the steps. -/
theorem ids_arrived (clocks : List Clock) (steps : List Step)
    (clients : ∀ step ∈ steps, step.action.isClient = true)
    (roomy : ∀ past step, past ++ [step] <+: steps → ((opened .empty clocks).after past).Roomy)
    (id : Int) (member : id ∈ ((opened .empty clocks).after steps).ids) :
    1 ≤ id ∧ ∃ index, (opened .empty clocks).Arrived steps index id := by
  induction steps using List.reverseRecOn generalizing id with
  | nil => cases member
  | append_singleton past step ih =>
      have before := ih (fun old inside => clients old (List.mem_append_left [step] inside))
        fun older last inside => roomy older last (inside.trans (List.prefix_append past [step]))
      obtain ⟨t, clocks', next, _, same, last, new⟩ := snoc_opened .empty clocks past step clients
      by_cases old : id ∈ ((opened .empty clocks).after past).ids
      · obtain ⟨positive, index, arrived⟩ := before id old
        exact ⟨positive, index, arrived.snoc _ past step index id member⟩
      · refine ⟨?_, past.length, Arrived.new _ past step id old member⟩
        have room := roomy past step List.prefix_rfl
        rw [last] at member
        rw [same] at before old room
        rcases new id member with present | fresh
        · exact absurd present old
        · rw [fresh]
          exact t.nextId_pos (fun other inside => (before other inside).1)
            (opened_roomy t clocks' room)

/-- After any session of clients that began with an empty table, while there
    were larger identifiers: the identifiers are distinct, positive and in the
    order of arrival, and a lookup finds the row of its series that arrived
    last, as it is now, or nothing if the series has no row. -/
theorem latest_arrived_last (clocks : List Clock) (steps : List Step)
    (clients : ∀ step ∈ steps, step.action.isClient = true)
    (roomy : ∀ past step, past ++ [step] <+: steps → ((opened .empty clocks).after past).Roomy) :
    let Arrived := (opened .empty clocks).Arrived steps
    ∃ t clocks', (opened .empty clocks).after steps = opened t clocks' ∧ t.ids.Nodup ∧
      (∀ e ∈ t.rows, 1 ≤ e.id ∧ ∃ index, Arrived index e.id) ∧
      (∀ a ∈ t.rows, ∀ b ∈ t.rows, ∀ first second, Arrived first a.id → Arrived second b.id →
        (a.id < b.id ↔ first < second)) ∧
      ∀ (who : Nat) (jobKey reason eventKey : Option String), ∃ found,
        (opened t clocks').step ⟨who, .store (.latest jobKey reason eventKey)⟩ =
          ({ answer := .ok (.event found) }, opened t clocks') ∧
        (found = none ↔ ∀ r ∈ t.rows, r.inSeries jobKey reason eventKey = false) ∧
        ∀ e : Event, found = some e ↔ e ∈ t.rows ∧ e.inSeries jobKey reason eventKey = true ∧
          ∀ r ∈ t.rows, r.inSeries jobKey reason eventKey = true →
            ∀ first second, Arrived first r.id → Arrived second e.id → first ≤ second := by
  intro Arrived
  obtain ⟨t, clocks', same⟩ := after_opened .empty clocks steps clients
  have arrived : ∀ e ∈ t.rows, 1 ≤ e.id ∧ ∃ index, Arrived index e.id := by
    intro e member
    have present : e.id ∈ ((opened .empty clocks).after steps).ids := by
      rw [same]
      exact List.mem_map_of_mem member
    exact ids_arrived clocks steps clients roomy e.id present
  have order : ∀ a ∈ t.rows, ∀ b ∈ t.rows, ∀ first second, Arrived first a.id →
      Arrived second b.id → (a.id < b.id ↔ first < second) :=
    fun a _ b _ first second => arrived_order .empty clocks steps clients roomy first second a.id b.id
  refine ⟨t, clocks', same, t.ids_nodup, arrived, order, fun who jobKey reason eventKey => ?_⟩
  refine ⟨t.latest jobKey reason eventKey, step_lookup t clocks' jobKey reason eventKey who,
    t.latest_none jobKey reason eventKey, fun e => ?_⟩
  rw [t.latest_iff jobKey reason eventKey e]
  constructor
  · rintro ⟨member, series, largest⟩
    refine ⟨member, series, fun r present own first second there here => ?_⟩
    have bound := largest r present own
    have := order e member r present second first here there
    omega
  · rintro ⟨member, series, last⟩
    -- Every row has arrived at some step, so arrival orders all of them.
    refine ⟨member, series, fun r present own => ?_⟩
    obtain ⟨first, there⟩ := (arrived r present).2
    obtain ⟨second, here⟩ := (arrived e member).2
    have bound := last r present own first second there here
    have := order e member r present second first here there
    omega

/-! All events are deleted, and the identifiers 1 and 2 go to later events of
the series, the second of them created at an earlier time. -/

def recordAt (eventKey : String) (time : Option Reading) : Step :=
  ⟨0, .store (.create (some "job") (some "reason") (some "Normal") (some "text") (some eventKey) time)⟩

def reuse : List Step :=
  [recordAt "key" none, recordAt "other" none, ⟨1, .store (.delete 2 5)⟩, recordAt "key" none,
    ⟨1, .store (.fold ⟨some "job", some "reason", some "key", some "again"⟩)⟩,
    recordAt "key" (some (.ofInstant Instant.earliest))]

theorem latest_arrived_last_reused :
    ((opened .empty []).after reuse).ids = [1, 2] ∧
      ∃ t clocks', (opened .empty []).after reuse = opened t clocks' ∧ ∃ e ∈ t.rows, e.id = 2 ∧
        (opened t clocks').step ⟨1, .store (.latest (some "job") (some "reason") (some "key"))⟩ =
          ({ answer := .ok (.event (some e)) }, opened t clocks') := by
  have clients : ∀ step ∈ reuse, step.action.isClient = true := by decide
  have ids : ((opened .empty []).after reuse).ids = [1, 2] := by decide
  refine ⟨ids, ?_⟩
  obtain ⟨t, clocks', same, -, -, order, lookup⟩ := latest_arrived_last [] reuse clients
    (roomy_short [] reuse clients (by decide))
  obtain ⟨found, answer, -, exact⟩ := lookup 1 (some "job") (some "reason") (some "key")
  have series : ∀ e ∈ ((opened .empty []).after reuse).rows,
      e.inSeries (some "job") (some "reason") (some "key") = true := by decide
  rw [same] at ids series
  change t.ids = [1, 2] at ids
  obtain ⟨e, member, two⟩ := List.mem_map.mp (show (2 : Int) ∈ t.ids by simp [ids])
  have chosen : found = some e := by
    refine (exact e).mpr ⟨member, series e member, fun r present _ first second there here => ?_⟩
    have bound : r.id ∈ [1, 2] := ids ▸ List.mem_map_of_mem present
    have behind := order e member r present second first here there
    simp only [List.mem_cons, List.not_mem_nil, or_false] at bound
    omega
  rw [chosen] at answer
  exact ⟨t, clocks', same, e, member, two, answer⟩

end Session

end EventRetention
