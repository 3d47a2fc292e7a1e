import EventRetention.Text.Digits

/-!
Spans of time to the microsecond, their day and second parts, and their text.
-/

namespace EventRetention

structure Duration where
  micros : Int
deriving DecidableEq, Repr

namespace Duration

def microsPerSecond : Int := 1000000

def secondsPerDay : Int := 86400

def microsPerDay : Int := secondsPerDay * microsPerSecond

def maxDays : Int := 999999999

/-- Whole days, rounded down, so that the other two parts are not negative. -/
def days (d : Duration) : Int := d.micros / microsPerDay

def seconds (d : Duration) : Int := d.micros % microsPerDay / microsPerSecond

def subseconds (d : Duration) : Int := d.micros % microsPerSecond

instance : LT Duration := ⟨fun a b => a.micros < b.micros⟩
instance : LE Duration := ⟨fun a b => a.micros ≤ b.micros⟩
instance : Zero Duration := ⟨⟨0⟩⟩
instance : Add Duration := ⟨fun a b => ⟨a.micros + b.micros⟩⟩

instance (a b : Duration) : Decidable (a < b) :=
  inferInstanceAs (Decidable (a.micros < b.micros))

instance (a b : Duration) : Decidable (a ≤ b) :=
  inferInstanceAs (Decidable (a.micros ≤ b.micros))

def ofSeconds (n : Int) : Duration := ⟨n * microsPerSecond⟩

/-- The span with the given parts, or the number of whole days that is too
    large. The parts need not be normalised. -/
def ofParts (days seconds micros : Int) : Except Int Duration :=
  let d : Duration := ⟨(days * secondsPerDay + seconds) * microsPerSecond + micros⟩
  if d.days.natAbs ≤ maxDays.natAbs then .ok d else .error d.days

def text (d : Duration) : String :=
  let s := d.seconds.toNat
  let clock := toString (s / 3600) ++ ":" ++ Text.zeroPadded 2 (s % 3600 / 60) ++ ":" ++
    Text.zeroPadded 2 (s % 60) ++ Text.fraction d.subseconds.toNat
  if d.days = 0 then clock
  else toString d.days ++ (if d.days.natAbs = 1 then " day, " else " days, ") ++ clock

end Duration

end EventRetention
