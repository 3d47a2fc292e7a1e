import EventRetention.Number.Binary64
import EventRetention.Store.Operation

/-!
Cleaning: one expiry query, then bounded deletes up to the identifier that it
read, as many as the query's count needs, or until one deletes nothing. A
cycle is a tree of questions to the store, so that it can be run against the
table, against scripted answers, or a single question at a time.
-/

namespace EventRetention

structure CleanResult where
  records : Int
  target : Option Int
  deleted : Int
  batches : Nat
deriving DecidableEq, Repr

inductive Cycle where
  | finished (answer : Except Failure CleanResult)
  | report (notice : Notice) (rest : Cycle)
  | query (ttl : Duration) (resume : Option Expiry → Cycle)
  | delete (target batch : Int) (resume : Int → Cycle)

structure Cleaner where
  ttl : Duration
  batchSize : Int
deriving DecidableEq

namespace Cleaner

/-- A cleaner for a positive time to live and a positive batch size; the time
    to live is checked first. -/
def make (ttl : Duration) (batchSize : Int) : Except Failure Cleaner :=
  if ttl ≤ 0 then .error (.ttlNotPositive ttl)
  else if batchSize ≤ 0 then .error (.batchSizeNotPositive batchSize)
  else .ok ⟨ttl, batchSize⟩

/-- How many batches a number of records needs: the binary64 quotient, rounded
    up. -/
def plan? (records batchSize : Int) : Option Int :=
  (Binary64.quotient? records batchSize).bind Binary64.ceil?

def close (records target deleted : Int) (batches : Nat) : Cycle :=
  .report (.cleaned deleted batches) (.finished (.ok ⟨records, some target, deleted, batches⟩))

def deletes (c : Cleaner) (records target : Int) :
    (planned : Nat) → (deleted : Int) → (batches : Nat) → Cycle
  | 0, deleted, batches => close records target deleted batches
  | planned + 1, deleted, batches =>
      .delete target c.batchSize fun n =>
        if n = 0 then close records target deleted (batches + 1)
        else c.deletes records target planned (deleted + n) (batches + 1)

def afterQuery (c : Cleaner) (expiry : Option Expiry) : Cycle :=
  match expiry with
  | some ⟨records, some target⟩ =>
      if records = 0 then nothing c
      else match plan? records c.batchSize with
        | none => .finished (.error .batchCountOverflow)
        | some planned =>
            .report (.cleaning records target planned)
              (c.deletes records target planned.toNat 0 0)
  | _ => nothing c
where
  nothing (c : Cleaner) : Cycle :=
    .report (.nothingExpired c.ttl) (.finished (.ok ⟨0, none, 0, 0⟩))

def cycle (c : Cleaner) : Cycle := .query c.ttl c.afterQuery

end Cleaner

structure RetentionStore (σ : Type) where
  query : Duration → σ → Outcome (Option Expiry) × σ
  delete : (target batch : Int) → σ → Outcome Int × σ

namespace Cycle

def run (store : RetentionStore σ) : Cycle → σ → Outcome CleanResult × σ
  | .finished answer, s => ({ answer }, s)
  | .report notice rest, s =>
      let (outcome, s) := run store rest s
      ({ outcome with notices := notice :: outcome.notices }, s)
  | .query ttl resume, s =>
      let (outcome, s) := store.query ttl s
      match outcome.answer with
      | .error cause => ({ answer := .error cause, notices := outcome.notices }, s)
      | .ok value =>
          let (rest, s) := run store (resume value) s
          ({ rest with notices := outcome.notices ++ rest.notices }, s)
  | .delete target batch resume, s =>
      let (outcome, s) := store.delete target batch s
      match outcome.answer with
      | .error cause => ({ answer := .error cause, notices := outcome.notices }, s)
      | .ok value =>
          let (rest, s) := run store (resume value) s
          ({ rest with notices := outcome.notices ++ rest.notices }, s)

end Cycle

def RetentionStore.ofExecutor (execute : Executor σ τ) (clock : Clock) : RetentionStore σ where
  query ttl := (Operation.expired clock ttl).perform execute
  delete target batch := (Operation.delete target batch).perform execute

def clean (execute : Executor σ τ) (clock : Clock) (ttl : Duration) (batchSize : Int) (s : σ) :
    Outcome CleanResult × σ :=
  match Cleaner.make ttl batchSize with
  | .error cause => ({ answer := .error cause }, s)
  | .ok cleaner => cleaner.cycle.run (.ofExecutor execute clock) s

end EventRetention
