import EventRetention.Retention.Cleaner

/-!
A scripted store: it gives prepared answers to a cleaner and keeps the
questions it was asked.
-/

namespace EventRetention

inductive Question where
  | query (ttl : Duration)
  | delete (target batch : Int)
deriving DecidableEq

/-- The answers that are left, and the questions asked so far in order. After
    the last answer a delete removes nothing. -/
structure Script where
  expiry : Option Expiry
  deletes : List (Except String Int)
  asked : List Question := []

namespace Script

def query (ttl : Duration) (s : Script) : Outcome (Option Expiry) × Script :=
  ({ answer := .ok s.expiry }, { s with asked := s.asked ++ [.query ttl] })

def delete (target batch : Int) (s : Script) : Outcome Int × Script :=
  let asked := s.asked ++ [.delete target batch]
  match s.deletes with
  | [] => ({ answer := .ok 0 }, { s with asked })
  | .ok n :: rest => ({ answer := .ok n }, { s with deletes := rest, asked })
  | .error text :: rest => ({ answer := .error (.raised text) }, { s with deletes := rest, asked })

def store : RetentionStore Script := ⟨query, delete⟩

def clean (s : Script) (ttl : Duration) (batchSize : Int) : Outcome CleanResult × Script :=
  match Cleaner.make ttl batchSize with
  | .error cause => ({ answer := .error cause }, s)
  | .ok cleaner => cleaner.cycle.run store s

end Script

end EventRetention
