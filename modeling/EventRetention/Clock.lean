import EventRetention.Store.Failure
import EventRetention.Time.Reading

/-!
Clocks that are told the time: a settable clock holds an instant and may be
advanced or set; a fixed clock shows a reading exactly as it was given.
-/

namespace EventRetention

inductive Clock where
  | settable (current : Instant)
  | fixed (reading : Reading)
deriving DecidableEq

namespace Clock

def normalise (r : Reading) : Except Failure Instant :=
  match r.toUtc? with
  | some t => .ok t
  | none => .error .instantOutOfRange

def defaultStart : Instant := ⟨63839664000000000, by decide⟩

def starting (start : Option Reading) : Except Failure Clock :=
  match start with
  | none => .ok (.settable defaultStart)
  | some r => (normalise r).map .settable

def now : Clock → Reading
  | .settable t => .ofInstant t
  | .fixed r => r

def instant (c : Clock) : Except Failure Instant := normalise c.now

def advance (c : Clock) (d : Duration) : Except Failure Clock :=
  match c with
  | .settable t =>
      if d < 0 then .error (.negativeAdvance d)
      else match t.add? d with
        | some t => .ok (.settable t)
        | none => .error .instantOutOfRange
  | .fixed _ => .error .clockNotAdvanceable

def set (c : Clock) (r : Reading) : Except Failure Clock :=
  match c with
  | .settable _ => (normalise r).map .settable
  | .fixed _ => .ok (.fixed r)

/-- The instant a span before now, or the earliest instant when that lies
    outside the years 1 to 9999. -/
def cutoff (c : Clock) (ttl : Duration) : Instant :=
  ((c.now.sub? ttl).bind Reading.toUtc?).getD Instant.earliest

end Clock

def Reading.universal (r : Reading) : Except Failure Reading := (Clock.normalise r).map ofInstant

end EventRetention
