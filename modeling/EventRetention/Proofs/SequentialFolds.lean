import EventRetention.Proofs.InterleavedFolds
import EventRetention.Proofs.SessionStates

/-!
Sessions that fold occurrences one after another, while the clocks of their
clients move as they like. In a table that began empty every series has one row.
The rows stand in the order of first occurrence, under the identifiers from 1
on, and each counts the occurrences of its series and shows when the first and
the last of them were folded.
-/

namespace EventRetention

/-! Lists without repetitions, as they grow at the end. -/

section

variable {α : Type} [DecidableEq α]

theorem eraseDups_snoc (items : List α) (item : α) :
    (items ++ [item]).eraseDups =
      if item ∈ items then items.eraseDups else items.eraseDups ++ [item] := by
  rw [List.eraseDups_append]
  by_cases known : item ∈ items
  · simp [List.removeAll, known]
  · simp [List.removeAll, known, List.eraseDups_cons]

theorem eraseDups_nodup (items : List α) : items.eraseDups.Nodup := by
  induction items using List.reverseRecOn with
  | nil => simp
  | append_singleton front item ih =>
      rw [eraseDups_snoc]
      by_cases known : item ∈ front
      · simp [known, ih]
      · simp [known, List.nodup_append, ih]
        rintro other member rfl
        exact known member

theorem eraseDups_short (items : List α) : items.eraseDups.length ≤ items.length := by
  induction items using List.reverseRecOn with
  | nil => simp
  | append_singleton front item ih =>
      rw [eraseDups_snoc]
      by_cases known : item ∈ front
      · simp [known]
        omega
      · simp [known, ih]

end

namespace Event

def series (e : Event) : Series := ⟨e.jobKey, e.reason, e.eventKey⟩

end Event

theorem Series.holds_iff (series : Series) (e : Event) : series.holds e = true ↔ e.series = series := by
  cases series
  simp [holds, Event.inSeries, Event.concerns, Event.series, and_assoc]

namespace Fold

structure Dated where
  series : Series
  message : String
  time : Instant

namespace Dated

def occurrence (f : Dated) : Occurrence := f.series.occurrence f.message

def ofSeries (folds : List Dated) (series : Series) : List Dated :=
  folds.filter fun f => f.series = series

theorem ofSeries_own (folds : List Dated) (f : Dated) :
    ofSeries (folds ++ [f]) f.series = ofSeries folds f.series ++ [f] := by
  simp [ofSeries]

theorem ofSeries_other (folds : List Dated) (f : Dated) (series : Series)
    (other : series ≠ f.series) : ofSeries (folds ++ [f]) series = ofSeries folds series := by
  simp [ofSeries, other.symm]

end Dated

open Dated

/-- A row counts some folds, and was written by the first and the last of
    them. -/
structure Counts (own : List Dated) (e : Event) : Prop where
  eventCount : e.eventCount = own.length
  created : own.head?.map (·.time) = some e.createTime
  updated : own.getLast?.map (·.time) = some e.updateTime
  message : own.getLast?.map (·.message) = some e.message
  eventType : e.eventType = EventType.normal.label

/-- Some folds in a table: one row for each series, in the order of their first
    occurrence, numbered from 1 on. -/
structure Tally (folds : List Dated) (t : Table) : Prop where
  series : t.rows.map Event.series = (folds.map (·.series)).eraseDups
  ids : t.ids = (List.range t.rows.length).map fun (index : Nat) => (index : Int) + 1
  counts : ∀ e ∈ t.rows, Counts (ofSeries folds e.series) e

theorem Tally.empty : Tally [] .empty := ⟨rfl, rfl, List.forall_mem_nil _⟩

theorem Counts.again (own : List Dated) (f : Dated) (e : Event) (counts : Counts own e) :
    Counts (own ++ [f]) (Table.repeated e f.time f.message (e.eventCount + 1)) := by
  constructor
  · simp [Table.repeated, counts.eventCount]
  · cases own with
    | nil => cases counts.created
    | cons first rest => exact counts.created
  · simp [Table.repeated]
  · simp [Table.repeated]
  · exact counts.eventType

namespace Tally

variable {folds : List Dated} {t : Table} (tally : Tally folds t)

include tally

theorem series_unique (a b : Event) (am : a ∈ t.rows) (bm : b ∈ t.rows)
    (same : a.series = b.series) : a = b := by
  apply List.inj_on_of_nodup_map _ am bm same
  rw [tally.series]
  exact eraseDups_nodup _

theorem series_folded (e : Event) (member : e ∈ t.rows) : e.series ∈ folds.map (·.series) := by
  have present : e.series ∈ t.rows.map Event.series := List.mem_map_of_mem member
  rwa [tally.series, List.mem_eraseDups] at present

theorem length_le : t.rows.length ≤ folds.length := by
  have short := eraseDups_short (folds.map (·.series))
  rwa [← tally.series, List.length_map, List.length_map] at short

theorem id_le (e : Event) (member : e ∈ t.rows) : e.id ≤ t.rows.length := by
  have present : e.id ∈ t.ids := List.mem_map_of_mem member
  rw [tally.ids] at present
  obtain ⟨index, inside, same⟩ := List.mem_map.mp present
  have := List.mem_range.mp inside
  omega

theorem roomy (short : folds.length + 1 < 2 ^ 63) : t.Roomy := by
  intro e member
  have := tally.id_le e member
  have := tally.length_le
  omega

theorem nextId_eq (short : folds.length + 1 < 2 ^ 63) : t.nextId = t.rows.length + 1 := by
  have above := t.nextId_above (tally.roomy short)
  have most := t.nextId_le t.rows.length ?_ (tally.roomy short)
  · cases size : t.rows.length with
    | zero =>
        rw [List.length_eq_zero_iff] at size
        simp [Table.nextId, size]
    | succ length =>
        have last : (length : Int) + 1 ∈ t.ids := by
          rw [tally.ids, size]
          exact List.mem_map_of_mem (List.mem_range.mpr (Nat.lt_succ_self length))
        obtain ⟨e, member, same⟩ := List.mem_map.mp last
        have := above e member
        omega
  · intro id present
    obtain ⟨e, member, rfl⟩ := List.mem_map.mp present
    exact tally.id_le e member

/-- The first occurrence of a series makes a row of its own. -/
theorem created (f : Dated) (e : Event) (fresh : ∀ r ∈ t.rows, r.id ≠ e.id) (fits : Storable e.id)
    (next : e.id = t.rows.length + 1) (unseen : ∀ r ∈ t.rows, r.series ≠ f.series)
    (own : e.series = f.series) (once : Counts [f] e) : Tally (folds ++ [f]) (t.add e fresh fits) := by
  -- The new identifier is above all others, so the row comes last.
  have rows : (t.add e fresh fits).rows = t.rows ++ [e] := by
    apply Table.insertRow_last
    intro r member
    have := tally.id_le r member
    omega
  have new : f.series ∉ folds.map (·.series) := by
    intro known
    rw [← List.mem_eraseDups, ← tally.series] at known
    obtain ⟨r, member, same⟩ := List.mem_map.mp known
    exact unseen r member same
  constructor
  · rw [rows, List.map_append, List.map_append, List.map_singleton, List.map_singleton,
      eraseDups_snoc, if_neg new, tally.series, own]
  · have before := tally.ids
    unfold Table.ids at before ⊢
    simp [rows, List.range_succ, before, next]
  · rw [rows]
    intro r member
    rcases List.mem_append.mp member with old | last
    · rw [ofSeries_other folds f r.series (unseen r old)]
      exact tally.counts r old
    · have none : ofSeries folds f.series = [] := by
        apply List.filter_eq_nil_iff.mpr
        intro g member same
        exact new (of_decide_eq_true same ▸ List.mem_map_of_mem member)
      rw [List.mem_singleton.mp last, own, ofSeries_own, none]
      exact once

/-- A repetition is counted in the row of its series, and nowhere else. -/
theorem counted (f : Dated) (e : Event) (member : e ∈ t.rows) (own : e.series = f.series) :
    Tally (folds ++ [f]) (t.revise e.id f.time f.message (e.eventCount + 1)) := by
  have known : f.series ∈ folds.map (·.series) := own ▸ tally.series_folded e member
  constructor
  · have kept : (t.revise e.id f.time f.message (e.eventCount + 1)).rows.map Event.series =
        t.rows.map Event.series := by
      change (t.rows.map _).map _ = _
      rw [List.map_map]
      apply List.map_congr_left
      intro r _
      simp only [Function.comp_apply]
      split <;> rfl
    rw [kept, List.map_append, List.map_singleton, eraseDups_snoc, if_pos known, tally.series]
  · rw [Table.revise_ids, tally.ids]
    change _ = (List.range (t.rows.map _).length).map _
    rw [List.length_map]
  · intro changed inside
    obtain ⟨r, present, rfl⟩ := List.mem_map.mp inside
    -- No other row is of this series, so the counts of the others stay.
    by_cases hit : r.id = e.id
    · have same : r = e := t.id_unique r e present member hit
      subst same
      simp only [↓reduceIte]
      change Counts (ofSeries (folds ++ [f]) r.series) _
      rw [own, ofSeries_own, ← own]
      exact (tally.counts r present).again _ f r
    · simp only [hit, ↓reduceIte]
      have other : r.series ≠ f.series := by
        intro same
        exact hit (congrArg EventOf.id (tally.series_unique r e present member (same.trans own.symm)))
      rw [ofSeries_other folds f r.series other]
      exact tally.counts r present

/-- A fold takes its occurrence into the tally. -/
theorem folded (f : Dated) (clock : Clock) (read : clock.instant = .ok f.time)
    (short : folds.length + 1 < 2 ^ 63) :
    Tally (folds ++ [f]) (fold Table.run clock f.occurrence t).2 := by
  have roomy := tally.roomy short
  rw [fold_write]
  cases looked : found t f.occurrence with
  | none =>
      have unseen : ∀ r ∈ t.rows, r.series ≠ f.series := by
        intro r member same
        have absent := (found_none t f.occurrence).mp looked r member
        rw [← f.series.holds_iff] at same
        exact Bool.false_ne_true (absent.symm.trans same)
      obtain ⟨answer, done⟩ := write_succeeds t clock f.series f.message none ⟨f.time, read⟩ roomy
        (by simp) (by simp)
      -- A write that succeeds has added the row.
      rcases write_none t clock f.occurrence with
        ⟨cause, failed, -⟩ | ⟨e, fresh, fits, -, added, made⟩
      · cases failed.symm.trans done
      · have now : f.time = e.createTime := Except.ok.inj (read.symm.trans made.time)
        rw [added]
        apply tally.created f e fresh fits (made.id.trans (tally.nextId_eq short)) unseen
        · exact (f.series.holds_iff e).mp made.inSeries
        · constructor
          · exact made.eventCount
          · exact congrArg some now
          · exact congrArg some (now.trans made.untouched.symm)
          · exact made.message
          · exact made.eventType.symm
  | some e =>
      obtain ⟨member, own, -⟩ := (found_iff t f.occurrence e).mp looked
      have counted := (tally.counts e member).eventCount
      have few : (ofSeries folds e.series).length ≤ folds.length := List.length_filter_le _ _
      have fits : Storable (e.eventCount + 1) := by
        unfold Storable
        omega
      obtain ⟨answer, done⟩ := write_succeeds t clock f.series f.message (some e) ⟨f.time, read⟩ roomy
        (by rintro r ⟨⟩; exact List.mem_map_of_mem member) (by rintro r ⟨⟩; exact fits)
      -- A write that succeeds has counted one more on the row that was found.
      rcases write_some t clock f.occurrence e with
        ⟨cause, failed, -⟩ | ⟨time, text, -, revised, -, shown, message⟩
      · cases failed.symm.trans done
      · cases read.symm.trans shown
        cases message
        rw [revised]
        exact tally.counted f e member ((f.series.holds_iff e).mp own)

end Tally

end Fold

namespace Action

def isClock : Action → Bool
  | .clock _ => true
  | _ => false

end Action

namespace Session

open Fold (Dated Tally)

def folding? (s : Session) (step : Step) : Option Dated :=
  match step.action with
  | .store (.fold ⟨some jobKey, some reason, some eventKey, some message⟩) =>
      (s.clockOf step.who).instant.toOption.map fun time =>
        ⟨⟨jobKey, reason, eventKey⟩, message, time⟩
  | _ => none

def foldings (s : Session) : List Step → List Dated
  | [] => []
  | first :: rest => (s.folding? first).toList ++ (s.step first).2.foldings rest

def OnlyFolds (s : Session) : List Step → Prop
  | [] => True
  | first :: rest =>
      (first.action.isClock = true ∨ (s.folding? first).isSome = true) ∧
        (s.step first).2.OnlyFolds rest

instance decidableOnlyFolds : (s : Session) → (steps : List Step) → Decidable (s.OnlyFolds steps)
  | _, [] => .isTrue trivial
  | s, first :: rest =>
      have := decidableOnlyFolds (s.step first).2 rest
      inferInstanceAs (Decidable (_ ∧ _))

theorem foldings_snoc (s : Session) (steps : List Step) (step : Step) :
    s.foldings (steps ++ [step]) = s.foldings steps ++ ((s.after steps).folding? step).toList := by
  induction steps generalizing s with
  | nil => simp [foldings, after, run]
  | cons first rest ih =>
      simp only [List.cons_append, foldings, ih, List.append_assoc]
      rfl

theorem onlyFolds_snoc (s : Session) (steps : List Step) (step : Step) :
    s.OnlyFolds (steps ++ [step]) ↔ s.OnlyFolds steps ∧
      (step.action.isClock = true ∨ ((s.after steps).folding? step).isSome = true) := by
  induction steps generalizing s with
  | nil => simp [OnlyFolds, after, run]
  | cons first rest ih =>
      simp only [List.cons_append, OnlyFolds, ih, and_assoc]
      rfl

theorem folding_clock (s : Session) (step : Step) (clock : step.action.isClock = true) :
    s.folding? step = none := by
  obtain ⟨who, action⟩ := step
  cases action with
  | clock action => rfl
  | store action => cases clock
  | database action => cases clock

theorem folding_made (s : Session) (step : Step) (f : Dated) (made : s.folding? step = some f) :
    step.action = .store (.fold f.occurrence) ∧ (s.clockOf step.who).instant = .ok f.time := by
  unfold folding? at made
  split at made
  · rename_i jobKey reason eventKey message same
    cases read : (s.clockOf step.who).instant with
    | error cause => simp [read, Except.toOption] at made
    | ok time =>
        simp only [read, Except.toOption, Option.map_some, Option.some.injEq] at made
        cases made
        exact ⟨same, rfl⟩
  · cases made

theorem step_clock (t : Table) (clocks : List Clock) (step : Step)
    (clock : step.action.isClock = true) :
    ∃ clocks', ((opened t clocks).step step).2 = opened t clocks' := by
  obtain ⟨who, action⟩ := step
  cases action with
  | clock action =>
      simp only [Session.step]
      cases action.perform ((opened t clocks).clockOf who) with
      | error cause => exact ⟨clocks, rfl⟩
      | ok moved => exact ⟨clocks.set who moved, rfl⟩
  | store action => cases clock
  | database action => cases clock

/-- Clients that fold occurrences one after another into a table that is empty
    at first, while their clocks move forward and back: the table is the tally of
    the folds. -/
theorem folds_tallied (clocks : List Clock) (steps : List Step)
    (only : (opened .empty clocks).OnlyFolds steps)
    (short : ((opened .empty clocks).foldings steps).length < 2 ^ 63) :
    ∃ t clocks', (opened .empty clocks).after steps = opened t clocks' ∧
      Tally ((opened .empty clocks).foldings steps) t := by
  induction steps using List.reverseRecOn with
  | nil => exact ⟨.empty, clocks, rfl, .empty⟩
  | append_singleton past step ih =>
      obtain ⟨before, kind⟩ := (onlyFolds_snoc _ past step).mp only
      rw [foldings_snoc, List.length_append] at short
      obtain ⟨t, clocks', same, tally⟩ := ih before (by omega)
      rw [foldings_snoc, after_snoc]
      rcases kind with clock | fold
      · obtain ⟨moved, last⟩ := step_clock t clocks' step clock
        rw [folding_clock _ step clock, Option.toList_none, List.append_nil, same]
        exact ⟨t, moved, last, tally⟩
      · obtain ⟨f, made⟩ := Option.isSome_iff_exists.mp fold
        obtain ⟨action, read⟩ := folding_made _ step f made
        rw [made] at short ⊢
        rw [same] at read ⊢
        obtain ⟨who, _⟩ := step
        cases action
        rw [step_store]
        exact ⟨_, clocks', rfl, tally.folded f _ read short⟩

/-! Two series that share a job and a reason; the last fold is made at an
earlier time than the first. -/

def setBack : List Step :=
  let folding (who : Nat) (eventKey message : String) : Step :=
    ⟨who, .store (.fold ⟨some "job", some "reason", some eventKey, some message⟩)⟩
  [folding 0 "key" "first", ⟨0, .clock (.advance ⟨3600000000⟩)⟩, folding 1 "other" "second",
    ⟨0, .clock (.advance ⟨-1⟩)⟩, ⟨0, .clock (.set (.ofInstant Instant.earliest))⟩,
    folding 0 "key" "third"]

def twoClocks : List Clock := [.settable Clock.defaultStart, .fixed (.ofInstant Clock.defaultStart)]

theorem folds_tallied_setBack :
    ∃ t clocks', (opened .empty twoClocks).after setBack = opened t clocks' ∧
      t.rows.map (fun e => (e.id, e.eventKey, e.message, e.eventCount)) =
        [(1, "key", "third", 2), (2, "other", "second", 1)] ∧
      Tally ((opened .empty twoClocks).foldings setBack) t := by
  obtain ⟨t, clocks', same, tally⟩ := folds_tallied twoClocks setBack (by decide) (by decide)
  have rows : ((opened .empty twoClocks).after setBack).rows.map
      (fun e => (e.id, e.eventKey, e.message, e.eventCount)) =
      [(1, "key", "third", 2), (2, "other", "second", 1)] := by decide
  rw [same] at rows
  exact ⟨t, clocks', same, rows, tally⟩

end Session

end EventRetention
