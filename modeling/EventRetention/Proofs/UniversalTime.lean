import EventRetention.Proofs.CalendarTime
import EventRetention.Proofs.ForwardClock
import EventRetention.Proofs.WrittenRows

/-!
Readings in universal time. A reading has one exactly when its count of
microseconds, less its offset, falls on a day of the calendar; it stands for the
same instant, and is what clocks show and what loading a row gives back.
-/

namespace EventRetention

namespace Clock

theorem normalise_inCalendar (r : Reading) (inside : InCalendar r.micros) :
    ∃ t, normalise r = .ok t ∧ t.micros = r.micros :=
  ⟨⟨r.micros, (inCalendar_iff r.micros).mp inside⟩, normalise_within r _ rfl, rfl⟩

theorem normalise_beyond (r : Reading) (beyond : ¬ InCalendar r.micros) :
    normalise r = .error .instantOutOfRange :=
  normalise_outside r fun t same => beyond (same ▸ t.inCalendar)

theorem normalise_ok_iff (r : Reading) (t : Instant) :
    normalise r = .ok t ↔ t.micros = r.micros := by
  constructor
  · intro read
    by_cases inside : InCalendar r.micros
    · obtain ⟨u, read', same⟩ := normalise_inCalendar r inside
      cases read.symm.trans read'
      exact same
    · cases read.symm.trans (normalise_beyond r inside)
  · exact normalise_within r t

theorem normalise_error_iff (r : Reading) (cause : Failure) :
    normalise r = .error cause ↔ cause = .instantOutOfRange ∧ ¬ InCalendar r.micros := by
  constructor
  · intro failed
    by_cases inside : InCalendar r.micros
    · obtain ⟨t, read, -⟩ := normalise_inCalendar r inside
      cases failed.symm.trans read
    · cases failed.symm.trans (normalise_beyond r inside)
      exact ⟨rfl, inside⟩
  · rintro ⟨rfl, beyond⟩
    exact normalise_beyond r beyond

end Clock

namespace Reading

/-- A reading of universal time is that of its instant. -/
theorem micros_ofInstant (t : Instant) : (ofInstant t).micros = t.micros := by
  simp [micros, ofInstant]

theorem micros_naive (r : Reading) : r.naive.micros = r.wall.micros := by
  simp [micros, naive]

theorem universal_ok_iff (r u : Reading) :
    r.universal = .ok u ↔ ∃ t, t.micros = r.micros ∧ u = ofInstant t := by
  unfold universal
  constructor
  · intro read
    cases normal : Clock.normalise r with
    | error cause =>
        rw [normal] at read
        cases read
    | ok t =>
        rw [normal] at read
        exact ⟨t, (Clock.normalise_ok_iff r t).mp normal, (Except.ok.inj read).symm⟩
  · rintro ⟨t, same, rfl⟩
    rw [(Clock.normalise_ok_iff r t).mpr same]
    rfl

/-- A reading of universal time, and what is left of it without its offset, are
    already in universal time. -/
theorem universal_settled (t : Instant) (r : Reading) (same : r.micros = t.micros) :
    r.universal = .ok (ofInstant t) :=
  (universal_ok_iff r _).mpr ⟨t, same.symm, rfl⟩

/-- Reading in universal time, over all readings: those with or without an offset
    at every time of every day of the years 1 to 9999. It fails exactly when the
    instant falls on no such day, and else gives the same instant with the offset
    of universal time; what it gives it leaves as it is, with that offset or
    without. It orders readings as their instants are ordered. A clock that is
    started or set shows it, and a row is loaded with it. -/
theorem universal_exact (r s : Reading) (column : Column) (now : Instant) :
    ((∀ c : Civil, c.isValid = true → ∃ wall : Instant, wall.civil = c) ∧
      r.wall.civil.isValid = true ∧
      r.micros = r.wall.civil.count - (r.offset.elim 0 Offset.seconds).micros) ∧
    (∀ cause, r.universal = .error cause ↔
      cause = .instantOutOfRange ∧ ¬ InCalendar r.micros) ∧
    (InCalendar r.micros → ∃ u, r.universal = .ok u ∧ u.offset = some ⟨0, by decide⟩ ∧
      u.micros = r.micros ∧ u.universal = .ok u ∧ u.naive.universal = .ok u) ∧
    (∀ u v, r.universal = .ok u → s.universal = .ok v →
      (u.wall < v.wall ↔ r.micros < s.micros)) ∧
    (Clock.starting (some r)).map Clock.now = r.universal ∧
    ((Clock.settable now).set r).map Clock.now = r.universal ∧
    (Record.instant column (some (some r))).map ofInstant = r.universal := by
  obtain ⟨valid, count⟩ := r.wall.civil_count
  have shown : ((Clock.normalise r).map Clock.settable).map Clock.now = r.universal := by
    unfold universal
    cases Clock.normalise r <;> rfl
  refine ⟨⟨fun c real => ?_, valid, ?_⟩, fun cause => ?_, fun inside => ?_, ?_, shown, shown, rfl⟩
  · obtain ⟨wall, -, same⟩ := Instant.ofCivil?_valid c real
    exact ⟨wall, same⟩
  · rw [count]
    rfl
  · rw [← Clock.normalise_error_iff]
    unfold universal
    cases Clock.normalise r <;> simp [Except.map]
  · obtain ⟨t, normal, same⟩ := Clock.normalise_inCalendar r inside
    refine ⟨ofInstant t, universal_settled t r same.symm, rfl, ?_, ?_, ?_⟩
    · rw [micros_ofInstant, same]
    · exact universal_settled t _ (micros_ofInstant t)
    · exact universal_settled t _ (micros_naive (ofInstant t))
  -- Two readings of universal time are ordered as their instants.
  · intro u v first second
    obtain ⟨t, same, rfl⟩ := (universal_ok_iff r u).mp first
    obtain ⟨t', same', rfl⟩ := (universal_ok_iff s v).mp second
    rw [← same, ← same']
    exact Iff.rfl

end Reading

end EventRetention
