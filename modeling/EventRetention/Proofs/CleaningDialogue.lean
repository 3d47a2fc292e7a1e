import EventRetention.Proofs.WholeActions
import EventRetention.Retention.Script

/-!
A cleaning cycle as a dialogue with a store that may answer whatever it likes. The
cycle asks one query. If that tells of records and a target, it plans a number of
deletes, all with the same target and batch size, and makes them until the plan
ends, or one deletes nothing, or one fails. What it reports then is read off the
answers to the deletes that it made.
-/

namespace EventRetention

namespace Binary64

/-- The quotient of a number up to `2 ^ 53` is finite, however large the divisor. -/
theorem ofQuotient_finite (num den : Nat) (few : num ≤ 2 ^ 53) :
    ∃ significand exponent, ofQuotient false num den = .finite false significand exponent := by
  by_cases none : num = 0
  · exact ⟨0, -1074, by rw [ofQuotient, if_pos none]⟩
  have bits : num.log2 ≤ 53 := by
    by_contra large
    have low := Nat.log2_self_le none
    have : 2 ^ 54 ≤ 2 ^ num.log2 := Nat.pow_le_pow_right (by decide) (by omega)
    omega
  have small : exponentFor num den ≤ 1 := by
    unfold exponentFor
    dsimp only
    split <;> omega
  have finite : ¬ 971 < exponentFor num den := by omega
  have carried : ¬ 971 < exponentFor num den + 1 := by omega
  unfold ofQuotient
  simp only [none, ↓reduceIte]
  generalize scaled num den (exponentFor num den) = pair
  by_cases carry : roundHalfEven pair.1 pair.2 = Nat.pow 2 53
  · simp only [carry, ↓reduceIte, carried]
    exact ⟨_, _, rfl⟩
  · simp only [carry, ↓reduceIte, finite]
    exact ⟨_, _, rfl⟩

end Binary64

namespace Cleaner

/-- Up to `2 ^ 53` records there is a plan for every batch size, and up to the largest
    integer of the store it is the quotient, rounded up. -/
theorem plan_few (records : Nat) (batchSize : Int) (present : 0 < records) (few : records ≤ 2 ^ 53)
    (positive : 0 < batchSize) :
    ∃ planned : Nat, plan? records batchSize = some (planned : Int) ∧
      (batchSize < 2 ^ 63 →
        ((planned : Int) - 1) * batchSize < records ∧ records ≤ planned * batchSize) := by
  obtain ⟨size, rfl⟩ := Int.eq_ofNat_of_zero_le (Int.le_of_lt positive)
  obtain ⟨significand, exponent, finite⟩ := Binary64.ofQuotient_finite records size few
  have ceiling : ∃ planned : Nat, Binary64.ceil? (.finite false significand exponent) =
      some (planned : Int) := ⟨_, rfl⟩
  obtain ⟨planned, whole⟩ := ceiling
  rw [← finite] at whole
  have plan : plan? records size = some (planned : Int) := by
    unfold plan?
    rw [Binary64.quotient_nonneg records size _ whole]
    exact whole
  refine ⟨planned, plan, ?_⟩
  intro fits
  have exact := plan_exact records size present few (by omega) (by omega)
  rw [plan, Option.some.injEq, Int.natCast_inj] at exact
  obtain ⟨covered, needed⟩ := ceiling_bounds records size (by omega)
  rw [← exact] at covered needed
  zify at covered needed
  constructor
  · linarith
  · exact covered

end Cleaner

def Outcome.stops (reply : Outcome Int) : Bool :=
  match reply.answer with
  | .ok n => n = 0
  | .error _ => true

namespace RetentionStore

def clean (store : RetentionStore σ) (ttl : Duration) (batchSize : Int) (s : σ) :
    Outcome CleanResult × σ :=
  match Cleaner.make ttl batchSize with
  | .error cause => ({ answer := .error cause }, s)
  | .ok cleaner => cleaner.cycle.run store s

theorem clean_ofExecutor (execute : Executor σ τ) (clock : Clock) (ttl : Duration) (batchSize : Int)
    (s : σ) : (ofExecutor execute clock).clean ttl batchSize s =
      EventRetention.clean execute clock ttl batchSize s := rfl

theorem clean_script (script : Script) (ttl : Duration) (batchSize : Int) :
    Script.store.clean ttl batchSize script = script.clean ttl batchSize := rfl

def recorded (store : RetentionStore σ) : RetentionStore (σ × List Question) where
  query ttl s :=
    ((store.query ttl s.1).1, (store.query ttl s.1).2, s.2 ++ [.query ttl])
  delete target batch s :=
    ((store.delete target batch s.1).1, (store.delete target batch s.1).2,
      s.2 ++ [.delete target batch])

theorem run_recorded (store : RetentionStore σ) (cycle : Cycle) (s : σ) (asked : List Question) :
    (cycle.run store.recorded (s, asked)).1 = (cycle.run store s).1 ∧
      (cycle.run store.recorded (s, asked)).2.1 = (cycle.run store s).2 := by
  induction cycle generalizing s asked with
  | finished answer => exact ⟨rfl, rfl⟩
  | report notice rest ih =>
      obtain ⟨same, state⟩ := ih s asked
      simp only [Cycle.run, same, state, and_self]
  | query ttl resume ih =>
      simp only [Cycle.run, recorded]
      cases (store.query ttl s).1.answer with
      | error cause => exact ⟨rfl, rfl⟩
      | ok expiry =>
          obtain ⟨same, state⟩ := ih expiry (store.query ttl s).2 (asked ++ [.query ttl])
          simp only [← same, ← state]
          exact ⟨rfl, rfl⟩
  | delete target batch resume ih =>
      simp only [Cycle.run, recorded]
      cases (store.delete target batch s).1.answer with
      | error cause => exact ⟨rfl, rfl⟩
      | ok n =>
          obtain ⟨same, state⟩ := ih n (store.delete target batch s).2 (asked ++ [.delete target batch])
          simp only [← same, ← state]
          exact ⟨rfl, rfl⟩

theorem clean_recorded (store : RetentionStore σ) (ttl : Duration) (batchSize : Int) (s : σ) :
    (store.recorded.clean ttl batchSize (s, [])).1 = (store.clean ttl batchSize s).1 ∧
      (store.recorded.clean ttl batchSize (s, [])).2.1 = (store.clean ttl batchSize s).2 := by
  unfold clean
  cases Cleaner.make ttl batchSize with
  | error cause => exact ⟨rfl, rfl⟩
  | ok cleaner => exact store.run_recorded cleaner.cycle s []

/-- A cycle whose query is answered goes on with that answer. -/
theorem clean_answered (store : RetentionStore σ) (ttl : Duration) (batchSize : Int) (s : σ)
    (expiry : Option Expiry) (longLived : 0 < ttl) (positive : 0 < batchSize)
    (read : (store.query ttl s).1.answer = .ok expiry) :
    let rest := Cycle.run store (Cleaner.afterQuery ⟨ttl, batchSize⟩ expiry) (store.query ttl s).2
    store.clean ttl batchSize s =
      ({ rest.1 with notices := (store.query ttl s).1.notices ++ rest.1.notices }, rest.2) := by
  simp only [clean, make_ok ttl batchSize longLived positive, Cleaner.cycle, Cycle.run, read]

def replies (store : RetentionStore σ) (target batch : Int) : Nat → σ → List (Outcome Int)
  | 0, _ => []
  | planned + 1, s =>
      (store.delete target batch s).1 ::
        store.replies target batch planned (store.delete target batch s).2

def afterDeletes (store : RetentionStore σ) (target batch : Int) : Nat → σ → σ
  | 0, s => s
  | made + 1, s => store.afterDeletes target batch made (store.delete target batch s).2

theorem replies_recorded (store : RetentionStore σ) (target batch : Int) (planned : Nat) (s : σ)
    (asked : List Question) :
    store.recorded.replies target batch planned (s, asked) = store.replies target batch planned s := by
  induction planned generalizing s asked with
  | zero => rfl
  | succ planned ih => exact congrArg (List.cons _) (ih _ _)

theorem afterDeletes_recorded (store : RetentionStore σ) (target batch : Int) (made : Nat) (s : σ)
    (asked : List Question) :
    store.recorded.afterDeletes target batch made (s, asked) =
      (store.afterDeletes target batch made s, asked ++ List.replicate made (.delete target batch)) := by
  induction made generalizing s asked with
  | zero => simp [afterDeletes]
  | succ made ih =>
      refine (ih _ _).trans ?_
      rw [afterDeletes, List.append_assoc, List.replicate_succ]
      rfl

/-- How many deletes a cycle makes: those that are planned, up to the first that is
    the last. -/
def issued (replies : List (Outcome Int)) : Nat :=
  min replies.length (replies.findIdx Outcome.stops + 1)

theorem issued_stop (first : Outcome Int) (rest : List (Outcome Int)) (last : first.stops = true) :
    issued (first :: rest) = 1 := by
  simp [issued, List.findIdx_cons, last]

theorem issued_go (first : Outcome Int) (rest : List (Outcome Int)) (more : first.stops = false) :
    issued (first :: rest) = issued rest + 1 := by
  simp only [issued, List.findIdx_cons, more, List.length_cons, cond_false]
  omega

inductive Ended (records target deleted : Int) (batches : Nat) (made : List (Outcome Int)) :
    Outcome CleanResult → Prop where
  | finished (counts : List Int) (all : made.map (·.answer) = counts.map .ok) :
      Ended records target deleted batches made
        { answer := .ok ⟨records, some target, deleted + counts.sum, batches + made.length⟩
          notices := made.flatMap (·.notices) ++
            [.cleaned (deleted + counts.sum) (batches + made.length)] }
  | failed (counts : List Int) (cause : Failure)
      (last : made.map (·.answer) = counts.map .ok ++ [.error cause]) :
      Ended records target deleted batches made
        { answer := .error cause, notices := made.flatMap (·.notices) }

namespace Ended

variable {records target deleted : Int} {batches : Nat} {made : List (Outcome Int)}

theorem finished_as (counts : List Int) (total : Int) (count : Nat) (notices : List Notice)
    (all : made.map (·.answer) = counts.map .ok) (sum : deleted + counts.sum = total)
    (length : batches + made.length = count) (told : made.flatMap (·.notices) = notices) :
    Ended records target deleted batches made
      { answer := .ok ⟨records, some target, total, count⟩
        notices := notices ++ [.cleaned total count] } := by
  subst sum length told
  exact .finished counts all

/-- A delete that is not the last is followed by an end of the rest. -/
theorem after {n : Int} {outcome : Outcome CleanResult} (first : Outcome Int)
    (answer : first.answer = .ok n)
    (rest : Ended records target (deleted + n) (batches + 1) made outcome) :
    Ended records target deleted batches (first :: made)
      { outcome with notices := first.notices ++ outcome.notices } := by
  cases rest with
  | finished counts all =>
      rw [← List.append_assoc]
      refine finished_as (n :: counts) _ _ _ (by simp [answer, all]) ?_ ?_ List.flatMap_cons
      · rw [List.sum_cons, Int.add_assoc]
      · rw [List.length_cons]
        omega
  | failed counts cause last =>
      exact .failed (n :: counts) cause (by simp [answer, last])

/-- A delete that deletes nothing is the last. -/
theorem last (only : Outcome Int) (answer : only.answer = .ok 0) :
    Ended records target deleted batches [only]
      { answer := .ok ⟨records, some target, deleted, batches + 1⟩
        notices := only.notices ++ [.cleaned deleted (batches + 1)] } :=
  finished_as [0] _ _ _ (by simp [answer]) (by simp) rfl (List.flatMap_singleton _ _)

end Ended

/-- The deletes of a cycle, from any point on: the store is asked for no more than
    the issued ones, and the cycle ends with what their replies say. -/
theorem run_deletes (store : RetentionStore σ) (c : Cleaner) (records target : Int) (planned : Nat)
    (deleted : Int) (batches : Nat) (s : σ) :
    let replies := store.replies target c.batchSize planned s
    let done := (c.deletes records target planned deleted batches).run store s
    done.2 = store.afterDeletes target c.batchSize (issued replies) s ∧
      Ended records target deleted batches (replies.take (issued replies)) done.1 := by
  induction planned generalizing deleted batches s with
  | zero => exact ⟨rfl, Ended.finished_as [] _ _ [] rfl (Int.add_zero _) rfl rfl⟩
  | succ planned ih =>
      intro replies done
      cases answer : (store.delete target c.batchSize s).1.answer with
      | error cause =>
          have one : issued replies = 1 := issued_stop _ _ (by simp [Outcome.stops, answer])
          have whole : done = ({ answer := .error cause
                                 notices := (store.delete target c.batchSize s).1.notices },
              (store.delete target c.batchSize s).2) := by
            simp only [done, Cleaner.deletes, Cycle.run, answer]
          rw [one, whole, ← List.append_nil (store.delete target c.batchSize s).1.notices]
          exact ⟨rfl, .failed [] cause (congrArg (fun first => [first]) answer)⟩
      | ok n =>
          by_cases last : n = 0
          · have one : issued replies = 1 := issued_stop _ _ (by simp [Outcome.stops, answer, last])
            have whole : done = ({ answer := .ok ⟨records, some target, deleted, batches + 1⟩
                                   notices := (store.delete target c.batchSize s).1.notices ++
                                     [.cleaned deleted (batches + 1)] },
                (store.delete target c.batchSize s).2) := by
              simp only [done, Cleaner.deletes, Cycle.run, answer, last, ↓reduceIte, Cleaner.close]
            rw [one, whole]
            exact ⟨rfl, Ended.last _ (last ▸ answer)⟩
          -- The rest of the deletes runs on what this one made of the store.
          · obtain ⟨state, ended⟩ := ih (deleted + n) (batches + 1) (store.delete target c.batchSize s).2
            have more : issued replies = issued (store.replies target c.batchSize planned
                (store.delete target c.batchSize s).2) + 1 :=
              issued_go _ _ (by simp [Outcome.stops, answer, last])
            rw [more]
            simp only [done, Cleaner.deletes, Cycle.run, answer, last, ↓reduceIte]
            exact ⟨state, ended.after _ answer⟩

def Idle (expiry : Option Expiry) : Prop :=
  ∀ records target, expiry = some ⟨records, some target⟩ → records = 0

theorem afterQuery_idle (c : Cleaner) (expiry : Option Expiry) (idle : Idle expiry) :
    c.afterQuery expiry =
      .report (.nothingExpired c.ttl) (.finished (.ok ⟨0, none, 0, 0⟩)) := by
  cases expiry with
  | none => rfl
  | some found =>
      obtain ⟨records, target⟩ := found
      cases target with
      | none => rfl
      | some target =>
          simp only [Cleaner.afterQuery, idle records target rfl, ↓reduceIte]
          rfl

theorem afterQuery_planned (c : Cleaner) (records target : Int) (planned : Nat)
    (present : records ≠ 0) (plan : Cleaner.plan? records c.batchSize = some (planned : Int)) :
    c.afterQuery (some ⟨records, some target⟩) =
      .report (.cleaning records target planned) (c.deletes records target planned 0 0) := by
  simp only [Cleaner.afterQuery, present, ↓reduceIte, plan, Int.toNat_natCast]

/-- A planned cycle: its deletes, and what it reports of them. -/
theorem clean_planned (store : RetentionStore σ) (ttl : Duration) (batchSize : Int) (s : σ)
    (records target : Int) (planned : Nat) (longLived : 0 < ttl) (positive : 0 < batchSize)
    (read : (store.query ttl s).1.answer = .ok (some ⟨records, some target⟩))
    (present : records ≠ 0) (plan : Cleaner.plan? records batchSize = some (planned : Int)) :
    let asked := store.query ttl s
    let replies := store.replies target batchSize planned asked.2
    (store.clean ttl batchSize s).2 = store.afterDeletes target batchSize (issued replies) asked.2 ∧
      ∃ outcome, Ended records target 0 0 (replies.take (issued replies)) outcome ∧
        (store.clean ttl batchSize s).1 = { outcome with
          notices := asked.1.notices ++ .cleaning records target planned :: outcome.notices } := by
  intro asked replies
  obtain ⟨state, ended⟩ :=
    store.run_deletes ⟨ttl, batchSize⟩ records target planned 0 0 (store.query ttl s).2
  rw [store.clean_answered ttl batchSize s _ longLived positive read,
    afterQuery_planned ⟨ttl, batchSize⟩ records target planned present plan]
  exact ⟨state, _, ended, rfl⟩

/-- A cycle against any store, where the query tells of at most `2 ^ 53` records. If
    there is nothing to delete, no delete is made. Otherwise the deletes all have the
    same target and batch size; as many are made as are planned, or up to the first
    that deletes nothing or fails, and the result counts them and what they deleted.
    A failing delete ends the cycle without a last line. -/
theorem clean_dialogue (store : RetentionStore σ) (ttl : Duration) (batchSize : Int) (s : σ)
    (expiry : Option Expiry) (longLived : 0 < ttl) (positive : 0 < batchSize)
    (read : (store.query ttl s).1.answer = .ok expiry)
    (few : ∀ found, expiry = some found → 0 ≤ found.records ∧ found.records ≤ 2 ^ 53) :
    let asked := store.query ttl s
    let done := store.recorded.clean ttl batchSize (s, [])
    store.clean ttl batchSize s = (done.1, done.2.1) ∧
      (Idle expiry → done =
        ({ answer := .ok ⟨0, none, 0, 0⟩, notices := asked.1.notices ++ [.nothingExpired ttl] },
          asked.2, [.query ttl])) ∧
      ∀ records target, expiry = some ⟨records, some target⟩ → records ≠ 0 →
        ∃ planned : Nat, Cleaner.plan? records batchSize = some (planned : Int) ∧
          (batchSize < 2 ^ 63 →
            ((planned : Int) - 1) * batchSize < records ∧ records ≤ planned * batchSize) ∧
          let replies := store.replies target batchSize planned asked.2
          let made := issued replies
          done.2 = (store.afterDeletes target batchSize made asked.2,
            .query ttl :: List.replicate made (.delete target batchSize)) ∧
          ∃ outcome, Ended records target 0 0 (replies.take made) outcome ∧
            done.1 = { outcome with
              notices := asked.1.notices ++ .cleaning records target planned :: outcome.notices } := by
  obtain ⟨same, state⟩ := store.clean_recorded ttl batchSize s
  have opened := store.recorded.clean_answered ttl batchSize (s, []) expiry longLived positive read
  refine ⟨by rw [same, state], ?_, ?_⟩
  · intro idle
    rw [opened, afterQuery_idle _ _ idle]
    rfl
  · rintro records target rfl present
    have count : 0 ≤ records ∧ records ≤ 2 ^ 53 := few _ rfl
    obtain ⟨records, rfl⟩ := Int.eq_ofNat_of_zero_le count.1
    obtain ⟨planned, plan, bounds⟩ :=
      Cleaner.plan_few records batchSize (by omega) (by omega) positive
    obtain ⟨state, ended⟩ := store.recorded.clean_planned ttl batchSize (s, []) records target planned
      longLived positive read present plan
    -- The recording store replies as the store does.
    have question : store.recorded.query ttl (s, []) =
        ((store.query ttl s).1, (store.query ttl s).2, [.query ttl]) := rfl
    rw [question, store.replies_recorded] at state ended
    rw [store.afterDeletes_recorded] at state
    exact ⟨planned, plan, bounds, state, ended⟩

/-- Three deletes are planned: the first removes more than a batch, the second a negative
    number, and the third fails. -/
theorem clean_dialogue_failing :
    let script : Script := ⟨some ⟨5, some 9⟩, [.ok 3, .ok (-1), .error "gone"], []⟩
    let done := Script.store.recorded.clean (.ofSeconds 86400) 2 (script, [])
    done.1 = { answer := .error (.raised "gone"), notices := [.cleaning 5 9 3] } ∧
      done.2.2 = .query (.ofSeconds 86400) :: List.replicate 3 (.delete 9 2) := by
  intro script done
  have few : ∀ found, some (⟨5, some 9⟩ : Expiry) = some found →
      0 ≤ found.records ∧ found.records ≤ 2 ^ 53 := by
    intro found same
    obtain rfl := Option.some.inj same
    decide
  obtain ⟨planned, plan, -, state, outcome, ended, whole⟩ :=
    (clean_dialogue Script.store (.ofSeconds 86400) 2 script _ (by decide) (by decide) rfl few).2.2 5 9 rfl
      (by decide)
  have three : Cleaner.plan? 5 2 = some 3 := by decide +kernel
  obtain rfl : planned = 3 := by
    rw [three, Option.some.injEq] at plan
    omega
  refine ⟨?_, congrArg Prod.snd state⟩
  rw [whole]
  cases ended with
  | finished counts all =>
      have same : [.ok 3, .ok (-1), .error (.raised "gone")] =
        counts.map (Except.ok : Int → Except Failure Int) := all
      match counts, same with
      | [_, _, _], same => cases same
  | failed counts cause last =>
      have same : [.ok 3, .ok (-1), .error (.raised "gone")] =
        counts.map (Except.ok : Int → Except Failure Int) ++ [.error cause] := last
      match counts, same with
      | [_, _], same =>
          cases same
          rfl

end RetentionStore

end EventRetention
