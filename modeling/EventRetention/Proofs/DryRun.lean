import EventRetention.Cli.Output
import EventRetention.Proofs.AcceptedSettings

/-!
A dry run against the purge that it stands for. It only asks the expiry query;
the purge has a cleaner ask it, plan batches and delete. On the same table, at
the same instant, the query foretells the purge: how many rows go, up to which
identifier, and whether there is anything to do.
-/

namespace EventRetention

theorem Table.above_unique (t : Table) (low high : Int) (lowest : low ∈ t.ids) (highest : high ∈ t.ids)
    (same : t.above low = t.above high) : low = high := by
  -- The row with the larger identifier would be above the smaller one only.
  have apart (a b : Int) (member : b ∈ t.ids) (same : t.above a = t.above b) : ¬ a < b := by
    intro less
    obtain ⟨e, present, rfl⟩ := List.mem_map.mp member
    have above := (t.mem_above a e).mpr ⟨present, less⟩
    rw [same, t.mem_above] at above
    exact Int.lt_irrefl _ above.2
  have := apart low high highest same
  have := apart high low lowest same.symm
  omega

inductive Forecast (s : RetentionSettings) (t : Table) : (dry real : Finding) → Table → Prop where
  | idle : Forecast s t (.nothingExpired s.ttl) (.nothingExpired s.ttl) t
  | due (records : Nat) (target : Int) (after : Table) (present : 0 < records)
      (reach : (t.upTo target).length = records) (member : target ∈ t.ids)
      (rows : after.rows = t.above target) :
      Forecast s t (.wouldDelete records (some target) s.ttl)
        (.purged records records (s.cleaner.needed records)) after

namespace Purge

theorem perform_dry (s : RetentionSettings) (clock : Clock) (t : Table) :
    Purge.perform true s clock (.opened (some t)) =
      ({ answer := .ok (Finding.ofExpiry s.ttl (some
          ⟨(t.expired (clock.cutoff s.ttl)).length, (t.expiry (clock.cutoff s.ttl)).2⟩)) },
        .opened (some t)) := by
  unfold Purge.perform
  rw [if_pos rfl, Operation.perform_opened, Operation.perform_expired]
  rfl

theorem perform_real (s : RetentionSettings) (clock : Clock) (t : Table) :
    Purge.perform false s clock (.opened (some t)) =
      ((clean Table.run clock s.ttl s.batchSize t).1.map (Finding.ofCleanResult s.ttl),
        .opened (some (clean Table.run clock s.ttl s.batchSize t).2)) := by
  unfold Purge.perform
  rw [if_neg Bool.false_ne_true, clean_opened]
  rfl

theorem forecast (s : RetentionSettings) (clock : Clock) (t : Table)
    (fits : s.batchSize < 2 ^ 63) (few : t.rows.length < 2 ^ 53) :
    ∃ dry real after, Purge.perform true s clock (.opened (some t)) =
        ({ answer := .ok dry }, .opened (some t)) ∧
      (Purge.perform false s clock (.opened (some t))).1.answer = .ok real ∧
      (Purge.perform false s clock (.opened (some t))).2 = .opened (some after) ∧
      Forecast s t dry real after := by
  have within : (t.expired (clock.cutoff s.ttl)).length ≤ t.rows.length := List.length_filter_le ..
  obtain ⟨answer, after⟩ := (s.cleaned clock t).exact _ _ t _ _ (Int.natCast_pos.mpr s.batchPositive)
    (s.batchSize_storable.mpr fits) (by omega)
  rw [perform_real, after, Outcome.map, answer]
  refine ⟨_, _, _, perform_dry s clock t, rfl, rfl, ?_⟩
  cases read : (t.expiry (clock.cutoff s.ttl)).2 with
  | none =>
      have fresh := (t.target_none (clock.cutoff s.ttl)).mp read
      simp only [fresh, List.length_nil, t.dropFirst_zero]
      exact .idle
  | some target =>
      have rows := t.upTo_target (clock.cutoff s.ttl) target read
      have present : 0 < (t.expired (clock.cutoff s.ttl)).length :=
        List.length_pos_iff.mpr (t.expired_ne_nil (clock.cutoff s.ttl) target read)
      have nonzero : ((t.expired (clock.cutoff s.ttl)).length : Int) ≠ 0 := by omega
      have kept := t.dropFirst_upTo target
      rw [rows] at kept
      simp only [Finding.ofExpiry, Finding.ofCleanResult, nonzero, ↓reduceIte]
      exact .due _ target _ present (congrArg List.length rows)
        (t.target_member (clock.cutoff s.ttl) target read) kept

end Purge

namespace Finding

def nothingLine (ttl : Duration) : String := "No events older than " ++ ttl.text ++ " found."

theorem lines_wouldDelete (records : Int) (target : Option Int) (ttl other : Duration) (elapsed : String) :
    (wouldDelete records target ttl).lines elapsed ≠ [nothingLine other] := by
  intro same
  unfold lines at same
  dsimp only at same
  have first := (List.cons.inj same).1
  unfold nothingLine at first
  simp only [String.append_assoc] at first
  have heads := congrArg (fun line : String => line.toList.head?) first
  simp only [String.toList_append, List.head?_append] at heads
  simp at heads

theorem lines_purged (records deleted : Int) (batches : Nat) (other : Duration) (elapsed : String) :
    (purged records deleted batches).lines elapsed ≠ [nothingLine other] := by
  intro same
  cases (List.cons.inj same).2

end Finding

/-- A dry run foretells a purge of the same table. It leaves the table alone and
    finds something or nothing. It says that so many rows would go, up to an
    identifier, exactly when that is the identifier of a row and the purge finds
    and deletes so many, in the batches they need, and leaves exactly the rows
    above it. It shows the line for nothing exactly when the purge does so and
    deletes nothing. -/
structure Foretells (s : RetentionSettings) (t : Table) (elapsed : String)
    (dry real : Outcome Finding × Database) : Prop where
  untouched : dry.2 = .opened (some t)
  decided : dry.1.answer = .ok (.nothingExpired s.ttl) ∨
    ∃ records target, dry.1.answer = .ok (.wouldDelete records (some target) s.ttl)
  rows : ∀ (records : Nat) (target : Int),
    dry.1.answer = .ok (.wouldDelete records (some target) s.ttl) ↔
      target ∈ t.ids ∧ real.1.answer = .ok (.purged records records (s.cleaner.needed records)) ∧
        ∃ after, real.2 = .opened (some after) ∧ after.rows = t.above target
  nothing : dry.1.answer.map (Finding.lines elapsed) = .ok [Finding.nothingLine s.ttl] ↔
    real.1.answer.map (Finding.lines elapsed) = .ok [Finding.nothingLine s.ttl] ∧
      real.2 = .opened (some t)

theorem Forecast.foretells (s : RetentionSettings) (t after : Table) (found purged : Finding)
    (elapsed : String) (dry real : Outcome Finding × Database)
    (dried : dry = ({ answer := .ok found }, .opened (some t)))
    (answer : real.1.answer = .ok purged) (left : real.2 = .opened (some after))
    (forecast : Forecast s t found purged after) : Foretells s t elapsed dry real := by
  subst dried
  cases forecast with
  | idle =>
      refine ⟨rfl, Or.inl rfl, fun records target => ?_, ?_⟩
      · rw [answer]
        constructor
        · rintro ⟨⟩
        · rintro ⟨-, ⟨⟩, -⟩
      · rw [answer, left]
        exact iff_of_true rfl ⟨rfl, rfl⟩
  | due records target after present reach member rows =>
      refine ⟨rfl, Or.inr ⟨records, target, rfl⟩, fun others other => ?_, ?_⟩
      · rw [answer, left]
        constructor
        · intro same
          cases same
          exact ⟨member, rfl, after, rfl, rows⟩
        · rintro ⟨inside, same, kept, ⟨⟩, rest⟩
          cases same
          rw [t.above_unique target other member inside (rows.symm.trans rest)]
      · rw [answer]
        constructor
        · intro same
          exact absurd (Except.ok.inj same) (Finding.lines_wouldDelete _ _ _ _ _)
        · rintro ⟨same, -⟩
          exact absurd (Except.ok.inj same) (Finding.lines_purged _ _ _ _ _)

namespace Command

theorem perform_purge (options : Purge) (dryRun : Bool) (settings : RetentionSettings)
    (clock : Clock) (db : Database) :
    perform (.purge { options with dryRun }) settings clock db =
      Purge.perform dryRun (options.retention settings) clock db := rfl

/-- With settings and options whose batch size fits in 64 bits, on any table of
    fewer than `2 ^ 53` rows and at any instant, the purge with the dry run
    option foretells the one without. -/
theorem dry_run_foretells (options : Purge) (settings : RetentionSettings) (clock : Clock)
    (t : Table) (elapsed : String) (fits : (options.retention settings).batchSize < 2 ^ 63)
    (few : t.rows.length < 2 ^ 53) :
    Foretells (options.retention settings) t elapsed
      (perform (.purge { options with dryRun := true }) settings clock (.opened (some t)))
      (perform (.purge { options with dryRun := false }) settings clock (.opened (some t))) := by
  obtain ⟨found, purged, after, dried, answer, left, forecast⟩ :=
    Purge.forecast (options.retention settings) clock t fits few
  rw [← perform_purge] at dried answer left
  exact forecast.foretells _ t after found purged elapsed _ _ dried answer left

/-- Three hours from the command line and batches of the settings, at noon. -/
theorem dry_run_foretells_noon :
    let options : Purge := { ttlSeconds := some ⟨10800, by decide⟩ }
    let settings : RetentionSettings := { batchSize := 1 }
    let clock := Clock.settable Operation.noon
    (perform (.purge { options with dryRun := true }) settings clock
        (.opened (some Operation.skewedTable))).1.answer = .ok (.wouldDelete 2 (some 5) ⟨10800000000⟩) ∧
      (perform (.purge { options with dryRun := false }) settings clock
        (.opened (some Operation.skewedTable))).1.answer = .ok (.purged 2 2 2) ∧
      ∃ after, (perform (.purge { options with dryRun := false }) settings clock
        (.opened (some Operation.skewedTable))).2 = .opened (some after) ∧
          after.rows = Operation.skewedTable.above 5 := by
  intro options settings clock
  have foretold := dry_run_foretells options settings clock Operation.skewedTable "0.00" (by decide)
    (by decide)
  have old : (Operation.skewedTable.expired
      (clock.cutoff (options.retention settings).ttl)).length = 2 := by decide +kernel
  have target : (Operation.skewedTable.expiry
      (clock.cutoff (options.retention settings).ttl)).2 = some 5 := by decide +kernel
  have dry : (perform (.purge { options with dryRun := true }) settings clock
      (.opened (some Operation.skewedTable))).1.answer =
        .ok (.wouldDelete (2 : Nat) (some 5) (options.retention settings).ttl) := by
    rw [perform_purge, Purge.perform_dry, old, target]
    rfl
  have batches : (options.retention settings).cleaner.needed 2 = 2 := by decide
  obtain ⟨-, purged, left⟩ := (foretold.rows 2 5).mp dry
  have span : (options.retention settings).ttl = ⟨10800000000⟩ := by decide
  rw [batches] at purged
  rw [span] at dry
  exact ⟨dry, purged, left⟩

end Command

end EventRetention
