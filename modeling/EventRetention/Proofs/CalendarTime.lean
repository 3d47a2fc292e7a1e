import EventRetention.Time.Reading
import Mathlib.Algebra.Order.Ring.Nat
import Mathlib.Tactic.SplitIfs

/-!
The calendar behind the counts of microseconds. Every number of a day belongs to
exactly one day, every count to exactly one time of one day, and the counts that
stand for instants are those that fall on a day of the years 1 to 9999.
-/

namespace EventRetention

namespace Date

theorem isLeapYear_iff (year : Nat) :
    isLeapYear year = true ↔ year % 4 = 0 ∧ (year % 100 ≠ 0 ∨ year % 400 = 0) := by
  simp [isLeapYear]

theorem monthLengths_sum (year : Nat) :
    (monthLengths year).sum = if isLeapYear year then 366 else 365 := by
  unfold monthLengths
  cases isLeapYear year <;> rfl

theorem monthLengths_length (year : Nat) : (monthLengths year).length = 12 := rfl

theorem daysBeforeYear_succ (year : Nat) (positive : 1 ≤ year) :
    daysBeforeYear (year + 1) = daysBeforeYear year + (monthLengths year).sum := by
  obtain ⟨y, rfl⟩ : ∃ y, year = y + 1 := ⟨year - 1, by omega⟩
  have leap := isLeapYear_iff (y + 1)
  have small : y / 100 ≤ y := Nat.div_le_self y 100
  have century : (y + 1) % 100 = 0 → (y + 1) % 4 = 0 := by omega
  have cycle : (y + 1) % 400 = 0 → (y + 1) % 100 = 0 := by omega
  rw [monthLengths_sum]
  simp only [daysBeforeYear, Nat.add_sub_cancel, Nat.succ_div, Nat.dvd_iff_mod_eq_zero]
  split_ifs <;> grind

theorem daysBeforeYear_mono (year later : Nat) (order : year ≤ later) :
    daysBeforeYear year ≤ daysBeforeYear later := by
  induction later, order using Nat.le_induction with
  | base => exact Nat.le_refl _
  | succ later order ih =>
      rcases Nat.eq_zero_or_pos later with rfl | positive
      · exact ih
      · rw [daysBeforeYear_succ later positive]
        omega

theorem month_within (lengths : List Nat) (k : Nat) :
    (lengths.take k).sum + lengths.getD k 0 ≤ lengths.sum := by
  induction lengths generalizing k with
  | nil => simp
  | cons length rest ih =>
      cases k with
      | zero => simp
      | succ k =>
          have later := ih k
          simp only [List.take_succ_cons, List.sum_cons, List.getD_cons_succ]
          omega

/-- A number of days within some months falls into one of them. -/
theorem monthAndDay_within (lengths : List Nat) (month n : Nat) (inside : n < lengths.sum) :
    ∃ k d, d < lengths.getD k 0 ∧ n = (lengths.take k).sum + d ∧
      monthAndDay lengths month n = (month + k, d + 1) := by
  induction lengths generalizing month n with
  | nil => simp at inside
  | cons length rest ih =>
      cases rest with
      | nil => exact ⟨0, n, by simpa using inside, by simp, by simp [monthAndDay]⟩
      | cons next more =>
          by_cases early : n < length
          · exact ⟨0, n, early, by simp, by simp [monthAndDay, early]⟩
          · have left : n - length < (next :: more).sum := by
              rw [List.sum_cons] at inside
              omega
            obtain ⟨k, d, fits, total, read⟩ := ih (month + 1) (n - length) left
            refine ⟨k + 1, d, fits, ?_, ?_⟩
            · rw [List.take_succ_cons, List.sum_cons]
              omega
            · simp only [monthAndDay, early, ↓reduceIte, read, Prod.mk.injEq, and_true]
              omega

theorem month_unique (lengths : List Nat) (i j a b : Nat) (first : a < lengths.getD i 0)
    (second : b < lengths.getD j 0)
    (same : (lengths.take i).sum + a = (lengths.take j).sum + b) : i = j ∧ a = b := by
  induction lengths generalizing i j with
  | nil => simp at first
  | cons length rest ih =>
      cases i with
      | zero =>
          cases j with
          | zero => simpa using same
          | succ j =>
              simp only [List.getD_cons_zero, List.take_zero, List.sum_nil, List.take_succ_cons,
                List.sum_cons] at first same
              omega
      | succ i =>
          cases j with
          | zero =>
              simp only [List.getD_cons_zero, List.take_zero, List.sum_nil, List.take_succ_cons,
                List.sum_cons] at second same
              omega
          | succ j =>
              simp only [List.take_succ_cons, List.sum_cons, Nat.add_assoc] at same
              obtain ⟨place, day⟩ := ih i j first second (Nat.add_left_cancel same)
              exact ⟨congrArg (· + 1) place, day⟩

theorem isValid_iff (d : Date) :
    d.isValid = true ↔ (1 ≤ d.year ∧ d.year ≤ 9999) ∧ 1 ≤ d.month ∧ 1 ≤ d.day ∧
      d.day - 1 < (monthLengths d.year).getD (d.month - 1) 0 := by
  simp only [isValid, Bool.and_eq_true, decide_eq_true_eq]
  constructor
  · rintro ⟨⟨⟨⟨⟨early, late⟩, month⟩, -⟩, day⟩, short⟩
    exact ⟨⟨early, late⟩, month, day, by omega⟩
  · rintro ⟨⟨early, late⟩, month, day, short⟩
    have known : d.month - 1 < (monthLengths d.year).length := by
      refine Nat.lt_of_not_le fun beyond => ?_
      rw [List.getD_eq_getElem?_getD, List.getElem?_eq_none beyond] at short
      exact Nat.not_lt_zero _ short
    rw [monthLengths_length] at known
    exact ⟨⟨⟨⟨⟨early, late⟩, month⟩, by omega⟩, day⟩, by omega⟩

theorem dayNumber_eq (d : Date) :
    d.dayNumber = daysBeforeYear d.year + ((monthLengths d.year).take (d.month - 1)).sum +
      (d.day - 1) := rfl

theorem dayNumber_within (d : Date) (valid : d.isValid = true) :
    daysBeforeYear d.year ≤ d.dayNumber ∧ d.dayNumber < daysBeforeYear (d.year + 1) := by
  obtain ⟨⟨early, -⟩, -, -, short⟩ := d.isValid_iff.mp valid
  have month := month_within (monthLengths d.year) (d.month - 1)
  rw [daysBeforeYear_succ _ early, dayNumber_eq]
  omega

/-- Days with one number are one day. -/
theorem dayNumber_injective (d e : Date) (valid : d.isValid = true) (valid' : e.isValid = true)
    (same : d.dayNumber = e.dayNumber) : d = e := by
  have first := d.dayNumber_within valid
  have second := e.dayNumber_within valid'
  have year : d.year = e.year := by
    rcases Nat.lt_trichotomy d.year e.year with before | equal | after
    · have := daysBeforeYear_mono (d.year + 1) e.year before
      omega
    · exact equal
    · have := daysBeforeYear_mono (e.year + 1) d.year after
      omega
  obtain ⟨-, month, day, short⟩ := d.isValid_iff.mp valid
  obtain ⟨-, month', day', short'⟩ := e.isValid_iff.mp valid'
  rw [dayNumber_eq, dayNumber_eq, year] at same
  rw [year] at short
  obtain ⟨place, fraction⟩ := month_unique _ _ _ _ _ short short' (by omega)
  have months : d.month = e.month := by omega
  have days : d.day = e.day := by omega
  calc d = ⟨d.year, d.month, d.day⟩ := rfl
    _ = ⟨e.year, e.month, e.day⟩ := by rw [year, months, days]
    _ = e := rfl

/-! A year by its place in a cycle of four hundred years: the century, the span
of four years and the year in that. -/

theorem daysBeforeYear_parts (cycle century span y : Nat) (centuries : century ≤ 3)
    (spans : span ≤ 24) (years : y ≤ 3) :
    daysBeforeYear (cycle * 400 + century * 100 + span * 4 + y + 1) =
      cycle * 146097 + century * 36524 + span * 1461 + y * 365 := by
  simp only [daysBeforeYear, Nat.add_sub_cancel]
  omega

theorem isLeapYear_parts (cycle century span y : Nat) (centuries : century ≤ 3)
    (spans : span ≤ 24) (years : y ≤ 3) :
    isLeapYear (cycle * 400 + century * 100 + span * 4 + y + 1) = true ↔
      y = 3 ∧ (span ≠ 24 ∨ century = 3) := by
  rw [isLeapYear_iff]
  omega

/-- The year of a number, and the days that are left within it. -/
theorem ofDayNumber_year (n : Nat) :
    ∃ year r, 1 ≤ year ∧ daysBeforeYear year + r = n ∧ r < (monthLengths year).sum ∧
      ofDayNumber n = ⟨year, (monthAndDay (monthLengths year) 1 r).1,
        (monthAndDay (monthLengths year) 1 r).2⟩ := by
  let century := min 3 (n % 146097 / 36524)
  let left := n % 146097 - century * 36524
  let y := min 3 (left % 1461 / 365)
  have centuries : century ≤ 3 := Nat.min_le_left ..
  have years : y ≤ 3 := Nat.min_le_left ..
  have spans : left / 1461 ≤ 24 := by omega
  have start := daysBeforeYear_parts (n / 146097) century (left / 1461) y centuries spans years
  have leap := isLeapYear_parts (n / 146097) century (left / 1461) y centuries spans years
  refine ⟨_, left % 1461 - y * 365, Nat.le_add_left 1 _, ?_, ?_, rfl⟩
  · rw [start]
    omega
  · rw [monthLengths_sum]
    split_ifs with long
    · omega
    · have short := mt leap.mpr long
      omega

/-- A number before the year 10000 is that of a day of the years 1 to 9999. -/
theorem dayNumber_ofDayNumber (n : Nat) (inside : n < daysBeforeYear 10000) :
    (ofDayNumber n).isValid = true ∧ (ofDayNumber n).dayNumber = n := by
  obtain ⟨year, r, early, total, left, read⟩ := ofDayNumber_year n
  obtain ⟨k, d, fits, place, found⟩ := monthAndDay_within (monthLengths year) 1 r left
  have late : year ≤ 9999 := by
    refine Nat.le_of_not_lt fun beyond => ?_
    have := daysBeforeYear_mono 10000 year beyond
    omega
  rw [read, found, isValid_iff, dayNumber_eq]
  simp only [Nat.add_sub_cancel, Nat.add_sub_cancel_left]
  exact ⟨⟨⟨early, late⟩, by omega, by omega, fits⟩, by omega⟩

end Date

def InCalendar (n : Int) : Prop :=
  ∃ d : Date, d.isValid = true ∧ (d.dayNumber : Int) = n / Duration.microsPerDay

theorem daysBeforeYear_end : Date.daysBeforeYear 10000 = 3652059 := rfl

theorem microsPerDay_eq : Duration.microsPerDay = 86400000000 := rfl

/-- The bounds of an instant are those of the calendar. -/
theorem inCalendar_iff (n : Int) : InCalendar n ↔ 0 ≤ n ∧ n < 315537897600000000 := by
  unfold InCalendar
  rw [microsPerDay_eq]
  constructor
  · rintro ⟨d, valid, day⟩
    have within := (d.dayNumber_within valid).2
    have late := Date.daysBeforeYear_mono (d.year + 1) 10000 (by
      have := (d.isValid_iff.mp valid).1.2
      omega)
    rw [daysBeforeYear_end] at late
    omega
  · rintro ⟨early, late⟩
    have inside : (n / 86400000000).toNat < Date.daysBeforeYear 10000 := by
      rw [daysBeforeYear_end]
      omega
    obtain ⟨valid, number⟩ := Date.dayNumber_ofDayNumber _ inside
    refine ⟨Date.ofDayNumber (n / 86400000000).toNat, valid, ?_⟩
    rw [number]
    omega

namespace Civil

theorem isValid_iff (c : Civil) :
    c.isValid = true ↔ c.date.isValid = true ∧ c.hour < 24 ∧ c.minute < 60 ∧ c.second < 60 ∧
      c.micros < 1000000 := by
  simp only [isValid, Bool.and_eq_true, decide_eq_true_eq, and_assoc]

/-- Times with one count are one time of one day. -/
theorem count_injective (c d : Civil) (valid : c.isValid = true) (valid' : d.isValid = true)
    (same : c.count = d.count) : c = d := by
  obtain ⟨day, hour, minute, second, micros⟩ := c.isValid_iff.mp valid
  obtain ⟨day', hour', minute', second', micros'⟩ := d.isValid_iff.mp valid'
  simp only [count] at same
  have dates : c.date = d.date := Date.dayNumber_injective _ _ day day' (by omega)
  have hours : c.hour = d.hour := by omega
  have minutes : c.minute = d.minute := by omega
  have seconds : c.second = d.second := by omega
  have fractions : c.micros = d.micros := by omega
  calc c = ⟨c.date, c.hour, c.minute, c.second, c.micros⟩ := rfl
    _ = ⟨d.date, d.hour, d.minute, d.second, d.micros⟩ := by
      rw [dates, hours, minutes, seconds, fractions]
    _ = d := rfl

theorem count_inCalendar (c : Civil) (valid : c.isValid = true) : InCalendar c.count := by
  obtain ⟨day, hour, minute, second, micros⟩ := c.isValid_iff.mp valid
  refine ⟨c.date, day, ?_⟩
  rw [microsPerDay_eq]
  simp only [count]
  omega

end Civil

namespace Instant

theorem inCalendar (t : Instant) : InCalendar t.micros := (inCalendar_iff t.micros).mpr t.inRange

/-- An instant is a time of a day, the one with its count of microseconds. -/
theorem civil_count (t : Instant) :
    t.civil.isValid = true ∧ (t.civil.count : Int) = t.micros := by
  obtain ⟨early, late⟩ := t.inRange
  have inside : (t.micros / 86400000000).toNat < Date.daysBeforeYear 10000 := by
    rw [daysBeforeYear_end]
    omega
  obtain ⟨valid, number⟩ := Date.dayNumber_ofDayNumber _ inside
  rw [Civil.isValid_iff]
  simp only [Civil.count, civil, date, microsPerDay_eq, Duration.microsPerSecond, number]
  exact ⟨⟨valid, by omega, by omega, by omega, by omega⟩, by omega⟩

/-- Each time of each day is that of an instant, the one with its count. -/
theorem ofCivil?_valid (c : Civil) (valid : c.isValid = true) :
    ∃ t, ofCivil? c = some t ∧ t.civil = c := by
  have inside := (inCalendar_iff c.count).mp (c.count_inCalendar valid)
  refine ⟨⟨c.count, inside⟩, ?_, ?_⟩
  · simp only [ofCivil?, valid, ↓reduceIte, ofMicros?]
    exact dif_pos inside
  · obtain ⟨valid', count⟩ := civil_count ⟨c.count, inside⟩
    exact Civil.count_injective _ _ valid' valid (Int.ofNat_inj.mp count)

theorem eq_of_micros (t u : Instant) (same : t.micros = u.micros) : t = u := by
  cases t
  cases u
  cases same
  rfl

end Instant

end EventRetention
