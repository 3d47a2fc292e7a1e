import EventRetention.Proofs.ExpiryPrefix

/-!
Two expiry queries on one table. What the earlier cutoff counts the later one
counts too, and the cutoff is the exact difference of clock and time to live as
long as that is not beyond the year 9999. A difference that lies beyond it, for
a negative time to live, is taken for the first instant of all instead, and
nothing is counted.
-/

namespace EventRetention

namespace Table

theorem expired_mono (t : Table) (earlier later : Instant) (order : earlier ≤ later) :
    t.expired earlier <+: t.expired later := by
  rw [t.expired_eq_takeWhile later]
  refine passing_short _ t.rows _ (t.expired_front earlier).starts ?_
  intro e member
  exact decide_eq_true (Int.lt_of_lt_of_le (t.expired_older earlier e member) order)

theorem expired_earliest (t : Table) : t.expired .earliest = [] := by
  apply List.eq_nil_iff_forall_not_mem.mpr
  intro e member
  have older : e.createTime.micros < 0 := t.expired_older .earliest e member
  have inside := e.createTime.inRange
  omega

/-- The largest of the first identifiers is no larger than that of more. -/
theorem target_mono (t : Table) (earlier later : Instant) (few : t.expired earlier <+: t.expired later)
    (target : Int) (read : (t.expiry earlier).2 = some target) :
    ∃ larger, (t.expiry later).2 = some larger ∧ target ≤ larger := by
  obtain ⟨last, old, rfl⟩ := List.mem_map.mp (List.max?_eq_some_iff.mp read).1
  have counted : last ∈ t.expired later := few.subset old
  cases found : (t.expiry later).2 with
  | none =>
      rw [(t.target_none later).mp found] at counted
      cases counted
  | some larger =>
      refine ⟨larger, rfl, ?_⟩
      exact (List.max?_eq_some_iff.mp found).2 last.id (List.mem_map_of_mem counted)

end Table

namespace Expiry

def counted (x : Expiry) (t : Table) : List Event := x.maxId.elim [] t.upTo

/-- Every row that one answer counts the other counts too, and so it has no
    fewer and an identifier at least as large. -/
structure Within (t : Table) (few many : Expiry) : Prop where
  rows : ∀ e ∈ few.counted t, e ∈ many.counted t
  records : few.records ≤ many.records
  target : ∀ id, few.maxId = some id → ∃ larger, many.maxId = some larger ∧ id ≤ larger

end Expiry

namespace Table

def expiryAnswer (t : Table) (cutoff : Instant) : Expiry := ⟨(t.expiry cutoff).1, (t.expiry cutoff).2⟩

theorem counted_expiryAnswer (t : Table) (cutoff : Instant) :
    (t.expiryAnswer cutoff).counted t = t.expired cutoff := by
  unfold expiryAnswer Expiry.counted
  cases read : (t.expiry cutoff).2 with
  | none => exact ((t.target_none cutoff).mp read).symm
  | some target => exact t.upTo_target cutoff target read

theorem counted_length (t : Table) (cutoff : Instant) :
    (((t.expiryAnswer cutoff).counted t).length : Int) = (t.expiryAnswer cutoff).records := by
  rw [counted_expiryAnswer]
  rfl

theorem expiryAnswer_within (t : Table) (earlier later : Instant) (order : earlier ≤ later) :
    (t.expiryAnswer earlier).Within t (t.expiryAnswer later) := by
  have few := t.expired_mono earlier later order
  refine ⟨?_, Int.ofNat_le.mpr few.length_le, t.target_mono earlier later few⟩
  rw [counted_expiryAnswer, counted_expiryAnswer]
  exact few.subset

end Table

namespace Operation

/-- Of two queries whose differences of clock and time to live are in order, both
    succeed and leave the table alone, and what the first counts the second
    counts too, exactly if the second difference is not beyond the year 9999 or
    the first counts nothing. -/
theorem expiry_monotone_iff (t : Table) (first second : Clock) (firstNow secondNow : Instant)
    (firstTtl secondTtl : Duration) (firstReads : first.now = .ofInstant firstNow)
    (secondReads : second.now = .ofInstant secondNow)
    (order : firstNow.micros - firstTtl.micros ≤ secondNow.micros - secondTtl.micros) :
    ∃ few many : Expiry,
      (expired first firstTtl).perform Table.run t = ({ answer := .ok (some few) }, t) ∧
      (expired second secondTtl).perform Table.run t = ({ answer := .ok (some many) }, t) ∧
      ((few.counted t).length : Int) = few.records ∧
      ((many.counted t).length : Int) = many.records ∧
      (few.Within t many ↔
        secondNow.micros - secondTtl.micros ≤ Instant.latest.micros ∨ few.records = 0) := by
  have firstCutoff := first.cutoff_reached firstNow firstTtl firstReads
  have secondCutoff := second.cutoff_reached secondNow secondTtl secondReads
  refine ⟨t.expiryAnswer (first.cutoff firstTtl), t.expiryAnswer (second.cutoff secondTtl),
    perform_expired t first firstTtl, perform_expired t second secondTtl,
    t.counted_length _, t.counted_length _, ?_⟩
  constructor
  · intro within
    by_cases reached : secondNow.micros - secondTtl.micros ≤ Instant.latest.micros
    · exact Or.inl reached
    · -- The second cutoff is the first instant of all, before which nothing was created.
      rw [if_neg reached] at secondCutoff
      have none : (t.expiryAnswer (second.cutoff secondTtl)).records = 0 := by
        have same : second.cutoff secondTtl = .earliest := (Instant.mk.injEq ..).mpr secondCutoff
        rw [same]
        exact congrArg (fun rows => (rows.length : Int)) t.expired_earliest
      have fewer := within.records
      rw [none] at fewer
      exact Or.inr (Int.le_antisymm fewer (Int.natCast_nonneg _))
  · rintro (reached | none)
    · apply t.expiryAnswer_within
      change (first.cutoff firstTtl).micros ≤ (second.cutoff secondTtl).micros
      rw [firstCutoff, secondCutoff, if_pos reached, if_pos (Int.le_trans order reached)]
      omega
    · have empty : t.expired (first.cutoff firstTtl) = [] :=
        List.length_eq_zero_iff.mp (Int.natCast_eq_zero.mp none)
      have nothing : (t.expiry (first.cutoff firstTtl)).2 = Option.none :=
        (t.target_none _).mpr empty
      refine ⟨?_, ?_, ?_⟩
      · rw [t.counted_expiryAnswer, empty]
        exact List.forall_mem_nil _
      · rw [none]
        exact Int.natCast_nonneg _
      · intro id read
        cases nothing.symm.trans read

/-! At noon a cutoff three hours back and one an hour ahead. -/

theorem expiry_monotone_iff_noon :
    ∃ few many : Expiry, few = ⟨2, some 5⟩ ∧ many = ⟨4, some 9⟩ ∧ few.Within skewedTable many := by
  have back : ((expired (.settable noon) ⟨10800000000⟩).perform Table.run skewedTable).1.answer =
      .ok (some ⟨2, some 5⟩) := by decide
  have ahead : ((expired (.settable noon) ⟨-3600000000⟩).perform Table.run skewedTable).1.answer =
      .ok (some ⟨4, some 9⟩) := by decide
  obtain ⟨few, many, fewer, more, -, -, within⟩ := expiry_monotone_iff skewedTable (.settable noon)
    (.settable noon) noon noon ⟨10800000000⟩ ⟨-3600000000⟩ rfl rfl (by decide)
  rw [fewer] at back
  rw [more] at ahead
  exact ⟨few, many, Option.some.inj (Except.ok.inj back), Option.some.inj (Except.ok.inj ahead),
    within.mpr (Or.inl (by decide))⟩

/-! A row of December 2023, and two queries at the start of 2024: one with the
time to live 0, and one with a time to live that many days below 0 that the
difference lies beyond the year 9999. -/

theorem december_inRange :
    (0 : Int) ≤ 63836985600000000 ∧ (63836985600000000 : Int) < 315537897600000000 := by
  decide

def datedTable : Table where
  rows := [{ hourMark 1 0 (by decide) with createTime := ⟨63836985600000000, december_inRange⟩ }]
  ascending := by decide
  storable := by decide

theorem expiry_shrinks :
    let clock := Clock.settable Clock.defaultStart
    let ahead : Duration := ⟨-259200000000000000⟩
    Clock.defaultStart.micros - 0 ≤ Clock.defaultStart.micros - ahead.micros ∧
      ((expired clock 0).perform Table.run datedTable).1.answer = .ok (some ⟨1, some 1⟩) ∧
      ((expired clock ahead).perform Table.run datedTable).1.answer = .ok (some ⟨0, none⟩) ∧
      ¬ Expiry.Within datedTable ⟨1, some 1⟩ ⟨0, none⟩ := by
  refine ⟨by decide, by decide, by decide, ?_⟩
  intro within
  exact absurd within.records (by decide)

end Operation

end EventRetention
