/-!
The proleptic Gregorian calendar: days are numbered from 0, which is the first
of January of year 1.
-/

namespace EventRetention

structure Date where
  year : Nat
  month : Nat
  day : Nat
deriving DecidableEq, Repr

namespace Date

def isLeapYear (year : Nat) : Bool :=
  year % 4 == 0 && (year % 100 != 0 || year % 400 == 0)

def monthLengths (year : Nat) : List Nat :=
  [31, if isLeapYear year then 29 else 28, 31, 30, 31, 30, 31, 31, 30, 31, 30, 31]

def daysBeforeYear (year : Nat) : Nat :=
  let y := year - 1
  y * 365 + y / 4 - y / 100 + y / 400

def isValid (d : Date) : Bool :=
  1 ≤ d.year && d.year ≤ 9999 && 1 ≤ d.month && d.month ≤ 12 && 1 ≤ d.day &&
    d.day ≤ (monthLengths d.year).getD (d.month - 1) 0

def dayNumber (d : Date) : Nat :=
  daysBeforeYear d.year + ((monthLengths d.year).take (d.month - 1)).foldr (· + ·) 0 + (d.day - 1)

/-- Month and day, both from 1, of a day counted from 0 within the given
    months; the last month takes whatever remains. -/
def monthAndDay : List Nat → (month dayOfYear : Nat) → Nat × Nat
  | length :: rest@(_ :: _), month, n =>
      if n < length then (month, n + 1) else monthAndDay rest (month + 1) (n - length)
  | _, month, n => (month, n + 1)

def ofDayNumber (n : Nat) : Date :=
  let quadricentury := n / 146097
  let r := n % 146097
  let century := min 3 (r / 36524)
  let r := r - century * 36524
  let olympiad := r / 1461
  let r := r % 1461
  let y := min 3 (r / 365)
  let r := r - y * 365
  let year := quadricentury * 400 + century * 100 + olympiad * 4 + y + 1
  let (month, day) := monthAndDay (monthLengths year) 1 r
  ⟨year, month, day⟩

end Date

end EventRetention
