import EventRetention.Time.Calendar
import EventRetention.Time.Duration

/-!
Instants of the years 1 to 9999, counted in microseconds. Shifting an instant
is exact integer addition; it fails exactly when the sum leaves those years.
-/

namespace EventRetention

structure Civil where
  date : Date
  hour : Nat
  minute : Nat
  second : Nat
  micros : Nat
deriving DecidableEq, Repr

namespace Civil

def isValid (c : Civil) : Bool :=
  c.date.isValid && c.hour < 24 && c.minute < 60 && c.second < 60 && c.micros < 1000000

def count (c : Civil) : Nat :=
  (((c.date.dayNumber * 24 + c.hour) * 60 + c.minute) * 60 + c.second) * 1000000 + c.micros

def text (c : Civil) : String :=
  Text.zeroPadded 4 c.date.year ++ "-" ++ Text.zeroPadded 2 c.date.month ++ "-" ++
    Text.zeroPadded 2 c.date.day ++ "T" ++ Text.zeroPadded 2 c.hour ++ ":" ++
    Text.zeroPadded 2 c.minute ++ ":" ++ Text.zeroPadded 2 c.second ++ Text.fraction c.micros

end Civil

structure Instant where
  micros : Int
  inRange : 0 ≤ micros ∧ micros < 315537897600000000
deriving DecidableEq

namespace Instant

instance : LT Instant := ⟨fun a b => a.micros < b.micros⟩
instance : LE Instant := ⟨fun a b => a.micros ≤ b.micros⟩

instance (a b : Instant) : Decidable (a < b) :=
  inferInstanceAs (Decidable (a.micros < b.micros))

instance (a b : Instant) : Decidable (a ≤ b) :=
  inferInstanceAs (Decidable (a.micros ≤ b.micros))

def earliest : Instant := ⟨0, by decide⟩

def ofMicros? (n : Int) : Option Instant :=
  if h : 0 ≤ n ∧ n < 315537897600000000 then some ⟨n, h⟩ else none

def add? (t : Instant) (d : Duration) : Option Instant := ofMicros? (t.micros + d.micros)

def sub? (t : Instant) (d : Duration) : Option Instant := ofMicros? (t.micros - d.micros)

def date (t : Instant) : Date := Date.ofDayNumber (t.micros / Duration.microsPerDay).toNat

def ofCivil? (c : Civil) : Option Instant := if c.isValid then ofMicros? c.count else none

def civil (t : Instant) : Civil :=
  let s := (t.micros % Duration.microsPerDay / Duration.microsPerSecond).toNat
  ⟨t.date, s / 3600, s % 3600 / 60, s % 60, (t.micros % Duration.microsPerSecond).toNat⟩

def wallText (t : Instant) : String := t.civil.text

def text (t : Instant) : String := t.wallText ++ "+00:00"

end Instant

end EventRetention
