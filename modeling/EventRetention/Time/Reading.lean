import EventRetention.Time.Instant

/-!
Clock readings: a wall-clock time with a fixed offset from universal time, or
without one. A reading without an offset counts as universal time.
-/

namespace EventRetention

structure Seconds where
  micros : Int
deriving DecidableEq

namespace Seconds

instance (n : Nat) : OfNat Seconds n := ⟨⟨n * 1000000⟩⟩
instance : Neg Seconds := ⟨fun s => ⟨-s.micros⟩⟩
instance : LT Seconds := ⟨fun a b => a.micros < b.micros⟩

instance (a b : Seconds) : Decidable (a < b) :=
  inferInstanceAs (Decidable (a.micros < b.micros))

@[simp] theorem micros_zero : (0 : Seconds).micros = 0 := rfl

end Seconds

structure Offset where
  seconds : Seconds
  withinDay : -86400 < seconds ∧ seconds < 86400
deriving DecidableEq

structure Reading where
  wall : Instant
  offset : Option Offset
deriving DecidableEq

namespace Reading

def ofInstant (t : Instant) : Reading := ⟨t, some ⟨0, by decide⟩⟩

def naive (r : Reading) : Reading := ⟨r.wall, none⟩

/-- Microseconds since the start of year 1 in universal time; before the
    first or after the last instant for readings near the ends. -/
def micros (r : Reading) : Int :=
  r.wall.micros - (r.offset.elim 0 Offset.seconds).micros

def toUtc? (r : Reading) : Option Instant := Instant.ofMicros? r.micros

def sub? (r : Reading) (d : Duration) : Option Reading :=
  (r.wall.sub? d).map fun wall => ⟨wall, r.offset⟩

def offsetText (offset : Offset) : String :=
  let micros := offset.seconds.micros.natAbs
  let s := micros / 1000000
  (if offset.seconds < 0 then "-" else "+") ++ Text.zeroPadded 2 (s / 3600) ++ ":" ++
    Text.zeroPadded 2 (s % 3600 / 60) ++
    (if micros % 60000000 = 0 then ""
      else ":" ++ Text.zeroPadded 2 (s % 60) ++ Text.fraction (micros % 1000000))

def text (r : Reading) : String :=
  r.wall.wallText ++ (r.offset.elim "" offsetText)

def twoDigits? : List Char → Option (Nat × List Char)
  | a :: b :: rest => (Text.natural? [a, b]).map fun n => (n, rest)
  | _ => none

def marked? (mark : Char) : List Char → Option (Nat × List Char)
  | c :: rest => if c = mark then twoDigits? rest else none
  | [] => none

def fraction? (text : List Char) : Option (Nat × List Char) :=
  match text with
  | '.' :: rest =>
      if (rest.take 6).length = 6 then
        (Text.natural? (rest.take 6)).map fun n => (n, rest.drop 6)
      else none
  | _ => some (0, text)

def offset? : List Char → Option (Option Offset)
  | [] => some none
  | c :: rest => do
      let negative ← if c = '-' then some true else if c = '+' then some false else none
      let (hours, rest) ← twoDigits? rest
      let (minutes, rest) ← marked? ':' rest
      let (seconds, rest) ← match rest with
        | [] => some (0, [])
        | _ => marked? ':' rest
      let (fraction, rest) ← fraction? rest
      let total : Int := ((hours * 60 + minutes) * 60 + seconds) * 1000000 + fraction
      let signed : Seconds := ⟨if negative then -total else total⟩
      if h : rest = [] ∧ -86400 < signed ∧ signed < 86400 then some (some ⟨signed, h.2⟩) else none

def ofText? (text : String) : Option Reading := do
  let text := text.toList
  let year ← if (text.take 4).length = 4 then Text.natural? (text.take 4) else none
  let (month, rest) ← marked? '-' (text.drop 4)
  let (day, rest) ← marked? '-' rest
  let (hour, rest) ← marked? 'T' rest
  let (minute, rest) ← marked? ':' rest
  let (second, rest) ← marked? ':' rest
  let (micros, rest) ← fraction? rest
  let offset ← offset? rest
  let wall ← Instant.ofCivil? ⟨⟨year, month, day⟩, hour, minute, second, micros⟩
  return ⟨wall, offset⟩

end Reading

end EventRetention
