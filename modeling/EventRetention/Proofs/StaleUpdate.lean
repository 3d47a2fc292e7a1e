import EventRetention.Proofs.Interleaving

/-!
A client looks up a series and later updates the event that it found, while
cleaners, creates and deletes take turns. The update changes exactly one row or
nothing, but the row is the one that has the identifier by then: after deletes
it may be a later event of another series.
-/

namespace EventRetention

namespace Operation

theorem latest_found (t : Table) (jobKey reason eventKey : Option String) (e : Event)
    (found : ((latest jobKey reason eventKey).perform Table.run t).1.answer = .ok (some e)) :
    e ∈ t.rows ∧ e.inSeries jobKey reason eventKey = true := by
  rw [perform_latest] at found
  obtain ⟨member, own, -⟩ := (t.latest_iff jobKey reason eventKey e).mp (Except.ok.inj found)
  exact ⟨member, own⟩

end Operation

namespace Crew

/-- An update changed a row of the series that its client had looked up, or
    was a violation and left the table as it was. -/
def Detected (t : Table) (id : Int) (jobKey reason eventKey : Option String)
    (update : Outcome Unit × Table) : Prop :=
  (update.1.answer = .ok () ∧ ∃ r ∈ t.rows, r.id = id ∧
    r.inSeries jobKey reason eventKey = true ∧
    ∃ time text count, update.2 = t.revise id time text count) ∨
  (∃ affected, update.1.answer = .error (.stateViolation id affected)) ∧ update.2 = t

theorem detected_done (t : Table) (row : Event) (member : row ∈ t.rows)
    (jobKey reason eventKey : Option String) (notices : List Notice) (time : Instant)
    (text : String) (count : Int) :
    Detected t row.id jobKey reason eventKey
        ({ answer := .ok (), notices }, t.revise row.id time text count) ↔
      row.inSeries jobKey reason eventKey = true := by
  constructor
  · rintro (⟨-, r, present, same, series, -⟩ | ⟨⟨affected, violation⟩, -⟩)
    · rw [t.id_unique row r member present same.symm]
      exact series
    · cases violation
  · intro series
    exact Or.inl ⟨rfl, row, member, rfl, series, time, text, count, rfl⟩

theorem detected_failed (t : Table) (id : Int) (jobKey reason eventKey : Option String)
    (notices : List Notice) (cause : Failure) :
    Detected t id jobKey reason eventKey ({ answer := .error cause, notices }, t) ↔
      ∃ affected, cause = .stateViolation id affected := by
  constructor
  · rintro (⟨done, -⟩ | ⟨⟨affected, violation⟩, -⟩)
    · cases done
    · exact ⟨affected, Except.error.inj violation⟩
  · rintro ⟨affected, rfl⟩
    exact Or.inr ⟨⟨affected, rfl⟩, rfl⟩

theorem looked_up (s : Crew) (turns : List Turn) (staged : s.Staged)
    (others : ∀ turn ∈ turns, turn.among (fun a => a.isCreate || a.isDelete) = true)
    (jobKey reason eventKey : Option String) (e r : Event)
    (found : ((Operation.latest jobKey reason eventKey).perform Table.run s.table).1.answer =
      .ok (some e))
    (present : r ∈ (s.run turns).table.rows) (same : r.id = e.id) :
    r.inSeries jobKey reason eventKey = true ∨ s.Inserted turns r := by
  obtain ⟨member, series⟩ := Operation.latest_found s.table jobKey reason eventKey e found
  rcases s.run_rows turns staged others r present with before | new
  · rw [s.table.id_unique r e before member same]
    exact Or.inl series
  · exact Or.inr new

/-- A stale update is detected unless its identifier has gone to an event of
    another series. What cannot be written at all fails on its own account. -/
theorem stale_update_exact (s : Crew) (turns : List Turn) (staged : s.Staged)
    (others : ∀ turn ∈ turns, turn.among (fun a => a.isCreate || a.isDelete) = true)
    (jobKey reason eventKey : Option String) (e : Event)
    (found : ((Operation.latest jobKey reason eventKey).perform Table.run s.table).1.answer =
      .ok (some e))
    (clock : Clock) (message : Option String) (count : Int) :
    let t := (s.run turns).table
    let update := (Operation.update clock e.id message count).perform Table.run t
    (Detected t e.id jobKey reason eventKey update ↔
      (∃ time, clock.instant = .ok time) ∧ Storable count ∧
        (e.id ∈ t.ids → message ≠ none ∧ ∀ r ∈ t.rows, r.id = e.id → s.Inserted turns r →
          r.inSeries jobKey reason eventKey = true)) ∧
      ∀ cause, update.1.answer = .error cause → update.2 = t := by
  intro t update
  have reach : Storable e.id :=
    s.table.storable e (Operation.latest_found s.table jobKey reason eventKey e found).1
  refine ⟨?_, Operation.perform_failed Table.run _ t⟩
  by_cases inside : (∃ time, clock.instant = .ok time) ∧ Storable e.id ∧ Storable count
  · obtain ⟨⟨time, read⟩, -, fits⟩ := inside
    have whole : update = _ := Operation.perform_update t clock e.id message count time read reach fits
    by_cases present : e.id ∈ t.ids
    · obtain ⟨row, member, same⟩ := List.mem_map.mp present
      rw [whole, if_pos present]
      cases message with
      | none =>
          rw [detected_failed]
          constructor
          · rintro ⟨affected, other⟩
            cases other
          · rintro ⟨-, -, sound⟩
            exact absurd rfl (sound present).1
      | some text =>
          dsimp only
          rw [← same, detected_done t row member]
          constructor
          · intro series
            refine ⟨⟨time, read⟩, fits, fun _ => ⟨Option.some_ne_none text, ?_⟩⟩
            intro r other own _
            rw [t.id_unique r row other member own]
            exact series
          · rintro ⟨-, -, sound⟩
            rcases s.looked_up turns staged others jobKey reason eventKey e row found member same
              with series | new
            · exact series
            · exact (sound (same ▸ present)).2 row member rfl new
    -- The row is gone: the one case that the count of changed rows shows.
    · rw [whole, if_neg present, detected_failed]
      constructor
      · intro _
        exact ⟨⟨time, read⟩, fits, fun held => absurd held present⟩
      · intro _
        exact ⟨0, rfl⟩
  · obtain ⟨cause, whole, other⟩ := Operation.update_refused t clock e.id message count inside
    rw [show update = _ from whole, detected_failed]
    constructor
    · rintro ⟨affected, violation⟩
      exact absurd violation (other affected)
    · rintro ⟨reads, fits, -⟩
      exact absurd ⟨reads, reach, fits⟩ inside

/-! The event that was looked up is deleted, and an event of another series
gets its identifier. -/

def midnight : Clock := .settable Clock.defaultStart

def recorded (eventKey : String) : Turn :=
  .client midnight
    (.create (some "job") (some "reason") (some "Normal") (some "text") (some eventKey) none)

def firstEvent : Event where
  id := 1
  createTime := Clock.defaultStart
  updateTime := Clock.defaultStart
  jobKey := "job"
  reason := "reason"
  eventType := "Normal"
  message := "text"
  eventCount := 1
  eventKey := "first"

def replaced : List Turn := [.client midnight (.delete 1 1), recorded "second"]

def lookedUp : Crew := (start .empty []).run [recorded "first"]

theorem lookedUp_staged : lookedUp.Staged := run_staged _ _ (start_staged .empty [])

theorem first_found :
    ((Operation.latest (some "job") (some "reason") (some "first")).perform Table.run
      lookedUp.table).1.answer = .ok (some firstEvent) := by
  decide

theorem replaced_undetected :
    ¬ Detected (lookedUp.run replaced).table 1 (some "job") (some "reason") (some "first")
      ((Operation.update midnight 1 (some "again") 2).perform Table.run
        (lookedUp.run replaced).table) := by
  rintro (⟨-, r, present, -, series, -⟩ | ⟨⟨affected, violation⟩, -⟩)
  · have other : ∀ r ∈ (lookedUp.run replaced).table.rows,
        r.inSeries (some "job") (some "reason") (some "first") = false := by decide
    rw [other r present] at series
    cases series
  · cases violation

theorem other_series_updated :
    ¬ ∀ (s : Crew) (turns : List Turn) (jobKey reason eventKey : Option String) (e : Event)
      (clock : Clock) (text : String) (count : Int), s.Staged →
      (∀ turn ∈ turns, turn.among (fun a => a.isCreate || a.isDelete) = true) →
      ((Operation.latest jobKey reason eventKey).perform Table.run s.table).1.answer =
        .ok (some e) →
      (∃ time, clock.instant = .ok time) → Storable count →
      Detected (s.run turns).table e.id jobKey reason eventKey
        ((Operation.update clock e.id (some text) count).perform Table.run (s.run turns).table) :=
  fun detects => replaced_undetected
    (detects lookedUp replaced _ _ _ firstEvent midnight "again" 2 lookedUp_staged (by decide)
      first_found ⟨Clock.defaultStart, rfl⟩ (by decide))

theorem stale_update_exact_replaced :
    ∃ r ∈ (lookedUp.run replaced).table.rows, r.id = 1 ∧ lookedUp.Inserted replaced r ∧
      r.inSeries (some "job") (some "reason") (some "first") = false := by
  have law := (stale_update_exact lookedUp replaced lookedUp_staged (by decide) _ _ _ firstEvent
    first_found midnight (some "again") 2).1
  by_contra none
  refine replaced_undetected (law.mpr ⟨⟨Clock.defaultStart, rfl⟩, by decide, fun _ => ⟨by decide, ?_⟩⟩)
  intro r present same new
  by_contra other
  exact none ⟨r, present, same, new, eq_false_of_ne_true other⟩

end Crew

end EventRetention
