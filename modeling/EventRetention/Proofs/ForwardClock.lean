import EventRetention.Proofs.ExpiryPrefix
import EventRetention.Proofs.SessionStates

/-!
Sessions whose clients share one clock that is never set back. A client is no
more than its clock, so they all take the place of the first. New rows come last
and are stamped with the present, so the rows stand in order of creation. Then
no old row hides behind a live one, and a cleaning cycle leaves no row older
than its time to live.
-/

namespace EventRetention

namespace Clock

theorem normalise_ofInstant (t : Instant) : normalise (.ofInstant t) = .ok t := by
  have read : (Reading.ofInstant t).toUtc? = some t := by
    simp [Reading.toUtc?, Reading.ofInstant, Reading.micros, Instant.ofMicros?, t.inRange]
  simp only [normalise, read]

theorem advance_later (now : Instant) (span : Duration) (clock : Clock)
    (moved : (settable now).advance span = .ok clock) :
    ∃ later, clock = .settable later ∧ now ≤ later := by
  unfold advance at moved
  by_cases back : span < 0
  · simp only [back, ↓reduceIte] at moved
    cases moved
  · have forward : 0 ≤ span.micros := Int.not_lt.mp back
    simp only [back, ↓reduceIte] at moved
    cases reached : now.add? span with
    | none => simp only [reached] at moved; cases moved
    | some later =>
        simp only [reached] at moved
        cases moved
        refine ⟨later, rfl, ?_⟩
        unfold Instant.add? Instant.ofMicros? at reached
        split at reached
        · cases reached
          change now.micros ≤ now.micros + span.micros
          omega
        · cases reached

end Clock

/-- The rows stand in order of creation, and none was updated before it was
    created or will be after now. -/
structure Settled (now : Instant) (t : Table) : Prop where
  ordered : t.rows.Pairwise fun a b => a.createTime ≤ b.createTime
  dated : ∀ e ∈ t.rows, e.createTime ≤ e.updateTime ∧ e.updateTime ≤ now

namespace Settled

theorem empty (now : Instant) : Settled now .empty := ⟨.nil, List.forall_mem_nil _⟩

theorem later (now next : Instant) (t : Table) (forward : now ≤ next) (settled : Settled now t) :
    Settled next t :=
  ⟨settled.ordered, fun e member =>
    ⟨(settled.dated e member).1, Int.le_trans (settled.dated e member).2 forward⟩⟩

theorem added (now : Instant) (t : Table) (e : Event) (fresh : ∀ r ∈ t.rows, r.id ≠ e.id)
    (fits : Storable e.id) (below : ∀ r ∈ t.rows, r.id < e.id) (created : e.createTime = now)
    (updated : e.updateTime = now) (settled : Settled now t) : Settled now (t.add e fresh fits) := by
  have rows : (t.add e fresh fits).rows = t.rows ++ [e] := Table.insertRow_last e t.rows below
  constructor
  · rw [rows, List.pairwise_append]
    refine ⟨settled.ordered, List.pairwise_singleton .., fun a member b last => ?_⟩
    rw [List.mem_singleton.mp last, created]
    exact Int.le_trans (settled.dated a member).1 (settled.dated a member).2
  · rw [rows]
    intro a member
    rcases List.mem_append.mp member with old | new
    · exact settled.dated a old
    · rw [List.mem_singleton.mp new, created, updated]
      exact ⟨Int.le_refl _, Int.le_refl _⟩

theorem revised (now : Instant) (t : Table) (id : Int) (text : String) (count : Int)
    (settled : Settled now t) : Settled now (t.revise id now text count) := by
  constructor
  · change (t.rows.map _).Pairwise _
    rw [List.pairwise_map]
    refine settled.ordered.imp fun {a b} order => ?_
    have kept : ∀ e : Event,
        (if e.id = id then Table.repeated e now text count else e).createTime = e.createTime := by
      intro e
      split <;> rfl
    rw [kept, kept]
    exact order
  · intro e member
    obtain ⟨before, present, rfl⟩ := List.mem_map.mp member
    have known := settled.dated before present
    split
    · exact ⟨Int.le_trans known.1 known.2, Int.le_refl _⟩
    · exact known

theorem dropped (now : Instant) (t : Table) (count : Nat) (settled : Settled now t) :
    Settled now (t.dropFirst count) :=
  ⟨settled.ordered.sublist (List.drop_sublist count t.rows),
    fun e member => settled.dated e (List.mem_of_mem_drop member)⟩

/-- Behind the expired prefix of rows in order of creation all rows are live. -/
theorem rest_live (rows : List Event) (cutoff : Instant)
    (ordered : rows.Pairwise fun a b => a.createTime ≤ b.createTime) :
    ∀ e ∈ rows.dropWhile (fun e => decide (e.createTime < cutoff)), cutoff ≤ e.createTime := by
  induction rows with
  | nil => exact List.forall_mem_nil _
  | cons row rest ih =>
      obtain ⟨later, tail⟩ := List.pairwise_cons.mp ordered
      by_cases old : row.createTime < cutoff
      · simp only [List.dropWhile_cons, old, decide_true, ↓reduceIte]
        exact ih tail
      · simp only [List.dropWhile_cons, old, decide_false, Bool.false_eq_true, ↓reduceIte]
        have live : cutoff ≤ row.createTime := Int.not_lt.mp old
        intro e member
        rcases List.mem_cons.mp member with same | inside
        · exact same ▸ live
        · exact Int.le_trans live (later e inside)

theorem kept_live (now : Instant) (t : Table) (cutoff : Instant) (settled : Settled now t) :
    ∀ e ∈ (t.dropFirst (t.expired cutoff).length).rows, cutoff ≤ e.createTime := by
  have rest : (t.dropFirst (t.expired cutoff).length).rows =
      t.rows.dropWhile fun e => decide (e.createTime < cutoff) := by
    have split := List.takeWhile_append_dropWhile (l := t.rows)
      (p := fun e => decide (e.createTime < cutoff))
    change t.rows.drop _ = _
    rw [t.expired_eq_takeWhile]
    conv_lhs => arg 2; rw [← split]
    exact List.drop_left
  rw [rest]
  exact rest_live t.rows cutoff settled.ordered

end Settled

namespace Action

/-- Whether an action dates rows by the clock only, and does not set it. -/
def isForward : Action → Bool
  | .store (.create _ _ _ _ _ createTime) => createTime.isNone
  | .store _ => true
  | .clock (.set _) => false
  | .clock _ => true
  | .database _ => false

theorem isForward_client (action : Action) (forward : action.isForward = true) :
    action.isClient = true := by
  cases action with
  | database action => cases forward
  | _ => rfl

end Action

namespace StoreAction

theorem forward_stamp (clock : Clock) (action : StoreAction)
    (forward : (Action.store action).isForward = true) : action.stamp clock = clock.now := by
  cases action with
  | create _ _ _ _ _ createTime =>
      have none : createTime = none := Option.isNone_iff_eq_none.mp forward
      rw [none]
      rfl
  | _ => rfl

theorem Change.settled (now : Instant) (action : StoreAction) (t after : Table)
    (forward : (Action.store action).isForward = true) (roomy : t.Roomy)
    (change : Change (.settable now) action t after) (settled : Settled now t) :
    Settled now after := by
  cases change with
  | same => exact settled
  | added e fresh fits next stamped untouched =>
      rw [forward_stamp _ action forward] at stamped
      change Clock.normalise (.ofInstant now) = _ at stamped
      rw [Clock.normalise_ofInstant] at stamped
      have created := (Except.ok.inj stamped).symm
      exact settled.added now t e fresh fits (fun r member => next ▸ t.nextId_above roomy r member)
        created (untouched.trans created)
  | revised id time text count read =>
      change Clock.normalise (.ofInstant now) = _ at read
      rw [Clock.normalise_ofInstant] at read
      cases read
      exact settled.revised now t id text count
  | dropped count => exact settled.dropped now t count

end StoreAction

namespace Session

/-- A step of the one client, with the clock at an instant. -/
theorem step_settled (now : Instant) (t : Table) (action : Action)
    (forward : action.isForward = true) (roomy : t.Roomy) (settled : Settled now t) :
    ∃ after next, ((opened t [.settable now]).step ⟨0, action⟩).2 = opened after [.settable next] ∧
      Settled next after := by
  cases action with
  | database action => cases forward
  | store action =>
      rw [step_store]
      exact ⟨_, now, rfl, (action.perform_change t _).settled now action t _ forward roomy settled⟩
  | clock action =>
      cases action with
      | set reading => cases forward
      | now => exact ⟨t, now, rfl, settled⟩
      | advance span =>
          have here : (ClockAction.advance span).perform ((opened t [.settable now]).clockOf 0) =
              (Clock.settable now).advance span := rfl
          simp only [Session.step, here]
          cases moved : (Clock.settable now).advance span with
          | error cause => exact ⟨t, now, rfl, settled⟩
          | ok clock =>
              obtain ⟨next, rfl, order⟩ := Clock.advance_later now span clock moved
              exact ⟨t, next, rfl, settled.later now next t order⟩

theorem after_settled (start : Instant) (steps : List Step)
    (shared : ∀ step ∈ steps, step.who = 0 ∧ step.action.isForward = true)
    (roomy : ∀ past step, past ++ [step] <+: steps →
      ((opened .empty [.settable start]).after past).Roomy) :
    ∃ t now, (opened .empty [.settable start]).after steps = opened t [.settable now] ∧
      Settled now t := by
  induction steps using List.reverseRecOn with
  | nil => exact ⟨.empty, start, rfl, .empty start⟩
  | append_singleton past step ih =>
      obtain ⟨t, now, same, settled⟩ := ih
        (fun old member => shared old (List.mem_append_left [step] member))
        (fun older last inside => roomy older last (inside.trans (List.prefix_append past [step])))
      obtain ⟨own, forward⟩ := shared step (List.mem_append_right past (List.mem_singleton_self step))
      have room := roomy past step List.prefix_rfl
      obtain ⟨who, action⟩ := step
      cases own
      rw [same] at room
      rw [after_snoc, same]
      exact step_settled now t action forward (opened_roomy t _ room) settled

/-- Clients that share a clock that is never set back, from an empty table and
    while there are larger identifiers: at any time the rows stand in order of
    creation, none was updated before its creation or after now, and a cleaning
    cycle succeeds and leaves no row older than the time to live. -/
theorem forward_clock_retention (start : Instant) (steps : List Step)
    (shared : ∀ step ∈ steps, step.who = 0 ∧ step.action.isForward = true)
    (roomy : ∀ past step, past ++ [step] <+: steps →
      ((opened .empty [.settable start]).after past).Roomy) :
    ∃ t now, (opened .empty [.settable start]).after steps = opened t [.settable now] ∧
      t.rows.Pairwise (fun a b => a.id < b.id ∧ a.createTime ≤ b.createTime) ∧
      (∀ e ∈ t.rows, e.createTime ≤ e.updateTime ∧ e.updateTime ≤ now) ∧
      ∀ (ttl : Duration) (batchSize : Int), 0 < ttl → 0 < batchSize → Storable batchSize →
        t.rows.length ≤ 2 ^ 53 → ∃ result notices cleaned,
          (opened t [.settable now]).step ⟨0, .store (.clean ttl batchSize)⟩ =
            (⟨.ok (.cleaned result), notices⟩, opened cleaned [.settable now]) ∧
          ∀ e ∈ cleaned.rows, now.micros - ttl.micros ≤ e.createTime.micros := by
  obtain ⟨t, now, same, settled⟩ := after_settled start steps shared roomy
  refine ⟨t, now, same, t.ascending.and settled.ordered, settled.dated, ?_⟩
  intro ttl batchSize later positive fits few
  let clock := Clock.settable now
  let old := t.expired (clock.cutoff ttl)
  have size : old.length ≤ 2 ^ 53 := Nat.le_trans (List.length_filter_le _ t.rows) few
  obtain ⟨answer, after⟩ := clean_exact t clock ttl batchSize later positive fits size
  refine ⟨⟨old.length, (t.expiry (clock.cutoff ttl)).2, old.length,
      Cleaner.needed ⟨ttl, batchSize⟩ old.length⟩,
    (clean Table.run clock ttl batchSize t).1.notices, t.dropFirst old.length, ?_, fun e member => ?_⟩
  · rw [step_store]
    change ((clean Table.run clock ttl batchSize t).1.map Answer.cleaned,
      opened (clean Table.run clock ttl batchSize t).2 _) = _
    rw [after]
    unfold Outcome.map
    rw [answer]
    rfl
  -- The rows are in order of creation, so from the first live one on all are live.
  · have live := settled.kept_live now t (clock.cutoff ttl) e member
    have exact := clock.cutoff_exact now ttl rfl (Int.le_of_lt later)
    change (clock.cutoff ttl).micros ≤ e.createTime.micros at live
    omega

def halfHour : Duration := ⟨1800000000⟩

def shift : List Step :=
  let record (eventKey : String) : Step :=
    ⟨0, .store (.create (some "job") (some "reason") (some "Normal") (some "text")
      (some eventKey) none)⟩
  [record "first", ⟨0, .clock (.advance ⟨3600000000⟩)⟩, record "second", ⟨0, .clock (.advance ⟨-1⟩)⟩,
    ⟨0, .store (.delete 1 1)⟩, ⟨0, .clock (.advance ⟨3600000000⟩)⟩, record "third",
    ⟨0, .store (.fold ⟨some "job", some "reason", some "second", some "again"⟩)⟩]

theorem forward_clock_retention_shift :
    ∃ t now, (opened .empty [.settable Clock.defaultStart]).after shift =
        opened t [.settable now] ∧ t.ids = [2, 3] ∧
      ∃ result notices cleaned,
        (opened t [.settable now]).step ⟨0, .store (.clean halfHour 1)⟩ =
          (⟨.ok (.cleaned result), notices⟩, opened cleaned [.settable now]) ∧
        ∀ e ∈ cleaned.rows, now.micros - halfHour.micros ≤ e.createTime.micros := by
  have shared : ∀ step ∈ shift, step.who = 0 ∧ step.action.isForward = true := by decide
  have clients : ∀ step ∈ shift, step.action.isClient = true :=
    fun step member => step.action.isForward_client (shared step member).2
  have ids : ((opened .empty [.settable Clock.defaultStart]).after shift).ids = [2, 3] := by decide
  obtain ⟨t, now, same, -, -, cleans⟩ := forward_clock_retention Clock.defaultStart shift shared
    (roomy_short _ shift clients (by decide))
  rw [same] at ids
  have few : t.rows.length ≤ 2 ^ 53 := by
    rw [← List.length_map EventOf.id, show t.rows.map EventOf.id = [2, 3] from ids]
    decide
  exact ⟨t, now, same, ids, cleans halfHour 1 (by decide) (by decide) (by decide) few⟩

end Session

end EventRetention
