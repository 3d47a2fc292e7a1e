import EventRetention.Proofs.ExpiryPrefix
import EventRetention.Proofs.SessionStates
import EventRetention.Settings.Basic

/-!
What a check of the settings promises a cleaner. Any time to live that is
accepted is a span of time, and a cleaner can be made. But a batch size has no
upper bound, and a delete binds it to a 64-bit integer. So a cycle with accepted
settings comes through and leaves nothing expired exactly when nothing was
expired, or the batch size fits and the batches that were planned reach all.
-/

namespace EventRetention

def Cleaner.Reaches (c : Cleaner) (records : Nat) : Prop :=
  ∃ planned, Cleaner.plan? records c.batchSize = some planned ∧
    records ≤ planned.toNat * c.width

theorem Cleaner.reaches_few (c : Cleaner) (records : Nat) (present : 0 < records)
    (few : records ≤ 2 ^ 53) (positive : 0 < c.batchSize) (fits : Storable c.batchSize) :
    c.Reaches records :=
  ⟨_, c.plan_needed records present few positive fits, c.needed_covers records positive⟩

namespace Cleaned

variable (c : Cleaner) (cutoff : Instant) (t after : Table)
  (answer : Except Failure CleanResult) (cleaned : Cleaned c cutoff t answer after)
include cleaned

/-- A cycle comes through and leaves nothing expired exactly when there is
    nothing to do or its deletes are accepted and reach all expired rows. -/
theorem clears_iff :
    ((∃ result, answer = .ok result) ∧ after.expired cutoff = []) ↔
      t.expired cutoff = [] ∨ Storable c.batchSize ∧ c.Reaches (t.expired cutoff).length := by
  cases cleaned with
  | idle fresh => simp [fresh]
  | refused cause present range =>
      constructor
      · rintro ⟨⟨_, same⟩, -⟩
        cases same
      · rintro (none | ⟨fits, planned, plan, -⟩)
        · exact absurd none present
        · rcases range with unplanned | outside
          · cases unplanned.symm.trans plan
          · exact absurd fits outside
  | batched old gone target planned count read plan range most =>
      have present := t.expired_ne_nil cutoff target read
      have some : 0 < old := by
        rw [← count]
        exact List.length_pos_iff.mpr present
      have left : ((t.dropFirst gone).expired cutoff).length = old - gone := by
        rw [t.expired_dropFirst cutoff gone (by omega), List.length_drop, count]
      rw [← List.length_eq_zero_iff, left, count]
      constructor
      · rintro ⟨-, cleared⟩
        -- Old rows went, so deletes were made, and their size was accepted.
        have made : planned.toNat ≠ 0 := by
          intro none
          rw [none, Nat.zero_mul] at most
          omega
        exact Or.inr ⟨range.resolve_left made, planned, plan, by omega⟩
      · rintro (none | ⟨-, reached, same, all⟩)
        · exact absurd none present
        · cases plan.symm.trans same
          exact ⟨⟨_, rfl⟩, by omega⟩

/-- With a batch size that no delete accepts, nothing is deleted. -/
theorem kept (outside : ¬ Storable c.batchSize) : after = t := by
  cases cleaned with
  | idle _ => rfl
  | refused _ _ _ => rfl
  | batched old gone target planned count read plan range most =>
      have none : planned.toNat = 0 := range.resolve_right outside
      rw [none, Nat.zero_mul, Nat.zero_min] at most
      rw [most, t.dropFirst_zero]

end Cleaned

/-- A value that is read as a positive number is one. -/
theorem Settings.positive_read (value : Value) (n : Nat) (some : 0 < n)
    (read : Settings.integer value = .ok n) : Settings.positive value = .ok ⟨n, some⟩ := by
  have above : (0 : Int) < n := Int.natCast_pos.mpr some
  simp only [positive, read, bind, Except.bind, above, ↓reduceDIte, Int.toNat_natCast]
  rfl

theorem Settings.positiveUpTo_read (bound : Nat) (value : Value) (n : Nat) (some : 0 < n)
    (within : n ≤ bound) (read : Settings.integer value = .ok n) :
    Settings.positiveUpTo bound value = .ok ⟨n, some, within⟩ := by
  simp only [positiveUpTo, positive_read value n some read, bind, Except.bind, within, ↓reduceDIte]
  rfl

structure CleanedUp (clock : Clock) (ttl : Duration) (done : Outcome CleanResult × Database) :
    Prop where
  returned : ∃ result, done.1.answer = .ok result
  cleared : ((Operation.expired clock ttl).perform Database.run done.2).1.answer =
    .ok (some ⟨0, none⟩)

theorem cleanedUp_opened (clock : Clock) (ttl : Duration) (outcome : Outcome CleanResult)
    (t : Table) : CleanedUp clock ttl (outcome, .opened (some t)) ↔
      (∃ result, outcome.answer = .ok result) ∧ t.expired (clock.cutoff ttl) = [] := by
  have query : ((Operation.expired clock ttl).perform Database.run (.opened (some t))).1.answer =
      .ok (some ⟨(t.expiry (clock.cutoff ttl)).1, (t.expiry (clock.cutoff ttl)).2⟩) := by
    rw [Operation.perform_opened, Operation.perform_expired]
  constructor
  · rintro ⟨returned, cleared⟩
    have none := (Expiry.mk.inj (Option.some.inj (Except.ok.inj (query.symm.trans cleared)))).2
    exact ⟨returned, (t.target_none (clock.cutoff ttl)).mp none⟩
  · rintro ⟨returned, fresh⟩
    refine ⟨returned, query.trans ?_⟩
    simp [Table.expiry, fresh]

namespace RetentionSettings

def written (s : RetentionSettings) : Entries :=
  [(.text "ttl_seconds", .int s.ttlSeconds), (.text "batch_size", .int s.batchSize)]

/-- All settings are accepted: their own bounds are all that the check asks for. -/
theorem check_written (s : RetentionSettings) (place : List String) :
    check place s.written = .ok s := by
  obtain ⟨ttlSeconds, batchSize, ⟨later, bounded⟩, positive⟩ := s
  have ttlField : Entries.field? [(.text "ttl_seconds", .int ttlSeconds),
      (.text "batch_size", .int batchSize)] "ttl_seconds" = some (.int ttlSeconds) := rfl
  have batchField : Entries.field? [(.text "ttl_seconds", .int ttlSeconds),
      (.text "batch_size", .int batchSize)] "batch_size" = some (.int batchSize) := rfl
  simp only [check, written, Settings.field, ttlField, batchField,
    Settings.positiveUpTo_read maxTtlSeconds (.int ttlSeconds) ttlSeconds later bounded rfl,
    Settings.positive_read (.int batchSize) batchSize positive rfl]
  rfl

def cleaner (s : RetentionSettings) : Cleaner := ⟨s.ttl, s.batchSize⟩

theorem ttl_positive (s : RetentionSettings) : 0 < s.ttl := by
  have := s.ttlInRange.1
  change (0 : Int) < s.ttlSeconds * 1000000
  omega

theorem ttl_ofParts (s : RetentionSettings) : Duration.ofParts 0 s.ttlSeconds 0 = .ok s.ttl := by
  obtain ⟨low, high⟩ := s.ttlInRange
  unfold maxTtlSeconds at high
  -- The bound in seconds is the largest number of whole days.
  have days : s.ttl.days.natAbs ≤ Duration.maxDays.natAbs := by
    change ((s.ttlSeconds * 1000000 : Int) / 86400000000).natAbs ≤ 999999999
    omega
  simp only [Duration.ofParts, Int.zero_mul, Int.zero_add, Int.add_zero]
  exact if_pos days

theorem batchSize_storable (s : RetentionSettings) :
    Storable s.cleaner.batchSize ↔ s.batchSize < 2 ^ 63 := by
  unfold Storable cleaner
  dsimp only
  omega

theorem make_accepted (s : RetentionSettings) : Cleaner.make s.ttl s.batchSize = .ok s.cleaner :=
  make_ok s.ttl s.batchSize s.ttl_positive (Int.natCast_pos.mpr s.batchPositive)

def CleansUp (s : RetentionSettings) (clock : Clock) (t : Table) : Prop :=
  CleanedUp clock s.ttl (clean Database.run clock s.ttl s.batchSize (.opened (some t)))

theorem cleaned (s : RetentionSettings) (clock : Clock) (t : Table) :
    let done := clean Table.run clock s.ttl s.batchSize t
    Cleaned s.cleaner (clock.cutoff s.ttl) t done.1.answer done.2 :=
  clean_cleaned t clock s.ttl s.batchSize s.ttl_positive (Int.natCast_pos.mpr s.batchPositive)

theorem cleansUp_iff (s : RetentionSettings) (clock : Clock) (t : Table) :
    s.CleansUp clock t ↔ t.expired (clock.cutoff s.ttl) = [] ∨
      s.batchSize < 2 ^ 63 ∧ s.cleaner.Reaches (t.expired (clock.cutoff s.ttl)).length := by
  rw [CleansUp, clean_opened, cleanedUp_opened, (s.cleaned clock t).clears_iff,
    s.batchSize_storable]

/-- Settings that the check accepts have a span as time to live and make a cleaner.
    Its cycle cleans up exactly when nothing is expired, or the batch size fits
    in 64 bits and the planned batches reach all expired rows, as they do up to
    `2 ^ 53` rows; with any larger batch size no row is deleted. -/
theorem accepted_cleaning (s : RetentionSettings) (clock : Clock) (t : Table) :
    let old := t.expired (clock.cutoff s.ttl)
    (∀ place, check place s.written = .ok s) ∧ Duration.ofParts 0 s.ttlSeconds 0 = .ok s.ttl ∧
      Cleaner.make s.ttl s.batchSize = .ok s.cleaner ∧
      (s.CleansUp clock t ↔ old = [] ∨ s.batchSize < 2 ^ 63 ∧ s.cleaner.Reaches old.length) ∧
      (old.length ≤ 2 ^ 53 → (s.CleansUp clock t ↔ old = [] ∨ s.batchSize < 2 ^ 63)) ∧
      (2 ^ 63 ≤ s.batchSize → (clean Database.run clock s.ttl s.batchSize (.opened (some t))).2 =
        .opened (some t)) := by
  intro old
  have exact := s.cleansUp_iff clock t
  refine ⟨s.check_written, s.ttl_ofParts, s.make_accepted, exact, fun few => ?_, fun large => ?_⟩
  · rw [exact]
    constructor
    · rintro (none | ⟨fits, -⟩)
      · exact Or.inl none
      · exact Or.inr fits
    · rintro (none | fits)
      · exact Or.inl none
      · by_cases none : old = []
        · exact Or.inl none
        · exact Or.inr ⟨fits, s.cleaner.reaches_few _ (List.length_pos_iff.mpr none) few
            (Int.natCast_pos.mpr s.batchPositive) (s.batchSize_storable.mpr fits)⟩
  · have outside : ¬ Storable s.cleaner.batchSize := by
      rw [s.batchSize_storable]
      omega
    rw [clean_opened, (s.cleaned clock t).kept _ _ t _ _ outside]

def pastWord : RetentionSettings := { ttlSeconds := 86400, batchSize := 9223372036854775808 }

def oldRow : Table where
  rows := [Operation.hourMark 1 7 (by decide)]
  ascending := by decide
  storable := by decide

/-- A document that is accepted, and a cycle that fails with what it says. -/
theorem accepted_cleaning_failed :
    check ["retention"] [(.text "ttl_seconds", .int 86400),
        (.text "batch_size", .int 9223372036854775808)] = .ok pastWord ∧
      (clean Database.run (.settable Clock.defaultStart) pastWord.ttl pastWord.batchSize
        (.opened (some oldRow))).1.answer = .error .integerNotStorable ∧
      ¬ pastWord.CleansUp (.settable Clock.defaultStart) oldRow := by
  have fails : (clean Database.run (.settable Clock.defaultStart) pastWord.ttl pastWord.batchSize
      (.opened (some oldRow))).1.answer = .error .integerNotStorable := by decide +kernel
  refine ⟨rfl, fails, fun cleaned => ?_⟩
  obtain ⟨result, answer⟩ := cleaned.returned
  cases fails.symm.trans answer

theorem accepted_cleaning_defaults :
    ({} : RetentionSettings).CleansUp (.settable Clock.defaultStart) oldRow ∧
      (clean Database.run (.settable Clock.defaultStart) pastWord.ttl pastWord.batchSize
        (.opened (some oldRow))).2 = .opened (some oldRow) := by
  obtain ⟨-, -, -, -, usual, -⟩ := accepted_cleaning {} (.settable Clock.defaultStart) oldRow
  obtain ⟨-, -, -, -, -, large⟩ := accepted_cleaning pastWord (.settable Clock.defaultStart) oldRow
  exact ⟨(usual (by decide +kernel)).mpr (Or.inr (by decide)), large (by decide)⟩

end RetentionSettings

end EventRetention
