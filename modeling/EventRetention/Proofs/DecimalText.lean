import EventRetention.Number.Numeral
import EventRetention.Proofs.SectionFields
import EventRetention.Settings.Scalar
import Mathlib.Data.List.TakeWhile

/-!
The decimal text of a number, and what the readers of numbers make of it: each gives
the number back.
-/

namespace EventRetention

namespace Text

structure Decimal (digits : List Char) (n : Nat) : Prop where
  present : digits ≠ []
  all : ∀ c ∈ digits, c.isDigit = true
  leading : digits.head? ≠ some '0'
  value : Nat.ofDigitChars 10 digits 0 = n
  short : digits.length ≤ 4300

theorem toDigits_leading (n : Nat) (positive : 0 < n) : (Nat.toDigits 10 n).head? ≠ some '0' := by
  induction n using Nat.strongRecOn with
  | ind n ih =>
      by_cases single : n < 10
      · rw [Nat.toDigits_of_lt_base single]
        have digits : ∀ digit : Fin 10, 0 < digit.val → [digit.val.digitChar].head? ≠ some '0' := by
          decide
        exact digits ⟨n, single⟩ positive
      · have shorter := ih (n / 10) (by omega) (by omega)
        rw [Nat.toDigits_of_base_le (by decide) (by omega),
          List.head?_append_of_ne_nil _ Nat.toDigits_ne_nil]
        exact shorter

theorem decimal_toString (n : Nat) (positive : 0 < n) (small : n < 100000000000000000000) :
    Decimal (toString n).toList n := by
  have digits : (toString n).toList = Nat.toDigits 10 n := Nat.toList_repr
  rw [digits]
  refine ⟨Nat.toDigits_ne_nil, fun c here => ?_, toDigits_leading n positive, ?_, ?_⟩
  · exact Nat.isDigit_of_mem_toDigits (by decide) (by decide) here
  · exact Nat.ofDigitChars_toDigits (by decide) (by decide)
  · have short := (Nat.length_toDigits_le_iff (b := 10) (n := n) (k := 20) (by decide)
      (by decide)).mpr small
    omega

theorem isDigit_range (c : Char) : c.isDigit = true ↔ 48 ≤ c.toNat ∧ c.toNat ≤ 57 := by
  simp only [Char.isDigit, Bool.and_eq_true, decide_eq_true_eq]
  rfl

theorem digit_ne (c other : Char) (digit : c.isDigit = true) (mark : other.isDigit = false) :
    c ≠ other := by
  rintro rfl
  rw [digit] at mark
  cases mark

theorem digit_notBlank (c : Char) (digit : c.isDigit = true) :
    isBlank c = false ∧ isSpacing c = false := by
  obtain ⟨low, high⟩ := (isDigit_range c).mp digit
  have blank : isBlank c = false := by
    simp only [isBlank, Bool.or_eq_false_iff, Bool.and_eq_false_iff, decide_eq_false_iff_not]
    omega
  refine ⟨blank, ?_⟩
  simp only [isSpacing, blank, Bool.false_or, Bool.and_eq_false_iff, decide_eq_false_iff_not]
  omega

def ReadsDigits (read : Char → Option Nat) : Prop :=
  ∀ c, c.isDigit = true → read c = some (c.toNat - 48)

theorem digitValue_reads : ReadsDigits digitValue? := fun c digit => by
  rw [digitValue?, if_pos digit]
  rfl

theorem unicodeDigit_reads : ReadsDigits unicodeDigit? := by
  intro c digit
  obtain ⟨low, high⟩ := (isDigit_range c).mp digit
  have first : (decide (48 ≤ c.toNat) && decide (c.toNat < 48 + 10)) = true := by
    rw [Bool.and_eq_true, decide_eq_true_iff, decide_eq_true_iff]
    omega
  obtain ⟨others, zeros⟩ : ∃ others, zeroDigits = 48 :: others := ⟨_, rfl⟩
  rw [unicodeDigit?, zeros, List.find?_cons_of_pos (by exact first)]
  rfl

theorem separated_plain (read : Char → Option Nat) (run : List Char) (present : run ≠ [])
    (plain : '_' ∉ run) : Numeral.separatedDigits? read run = run.mapM read := by
  induction run using Numeral.separatedDigits?.induct with
  | case1 => exact absurd rfl present
  | case2 c =>
      rw [Numeral.separatedDigits?, List.mapM_cons, List.mapM_nil]
      cases read c <;> rfl
  | case3 c rest ih => simp at plain
  | case4 c rest single underscore ih =>
      obtain ⟨-, later⟩ := List.ne_and_not_mem_of_not_mem_cons plain
      rw [Numeral.separatedDigits?, List.mapM_cons, ih single later]
      · exact single
      · exact underscore

namespace Decimal

variable {digits : List Char} {n : Nat} (decimal : Decimal digits n)
include decimal

def values (digits : List Char) : List Nat := digits.map fun c => c.toNat - 48

theorem mapM_values (read : Char → Option Nat) (reads : ReadsDigits read) :
    digits.mapM read = some (values digits) :=
  Sections.mapM_some read _ digits fun c here => reads c (decimal.all c here)

theorem ofDigitValues_values : ofDigitValues 10 (values digits) = n := by
  rw [← decimal.value, ofDigitValues, values, List.foldl_map, Nat.ofDigitChars]
  simp only [Nat.mul_comm]
  rfl

theorem natural : natural? digits = some n := by
  have read := decimal.mapM_values digitValue? digitValue_reads
  have value := decimal.ofDigitValues_values
  cases digits with
  | nil => exact absurd rfl decimal.present
  | cons c rest =>
      unfold natural?
      rw [read, Option.map_some, value]

theorem ne_mark (mark : Char) (other : mark.isDigit = false) : mark ∉ digits := fun here =>
  digit_ne mark mark (decimal.all mark here) other rfl

/-- A mark that is no first digit does not come first. -/
theorem ne_cons (mark : Char) (first : digits.head? ≠ some mark) (rest more : List Char) :
    digits ++ rest ≠ mark :: more := fun same => by
  have head := congrArg List.head? same
  rw [List.head?_append_of_ne_nil _ decimal.present] at head
  exact first head

theorem head_mark (mark : Char) (other : mark.isDigit = false) : digits.head? ≠ some mark :=
  fun same => decimal.ne_mark mark other (List.mem_of_mem_head? same)

theorem separated (read : Char → Option Nat) (reads : ReadsDigits read) :
    Numeral.separatedDigits? read digits = some (values digits) := by
  rw [separated_plain read digits decimal.present (decimal.ne_mark '_' rfl)]
  exact decimal.mapM_values read reads

theorem splitSign : Numeral.splitSign digits = (false, digits) := by
  have plus := decimal.ne_mark '+' rfl
  have minus := decimal.ne_mark '-' rfl
  unfold Numeral.splitSign
  split
  · simp at minus
  · simp at plus
  · rfl

theorem trimmed : trimBy isBlank digits = digits :=
  trimBy_clean isBlank digits fun c here => (digit_notBlank c (decimal.all c here)).1

/-- The text is read as an explicit integer. -/
theorem ofText : Numeral.ofText (String.ofList digits) = .ok n := by
  have short : ¬ 4300 < (values digits).length := by
    rw [values, List.length_map]
    exact Nat.not_lt.mpr decimal.short
  simp only [Numeral.ofText, String.toList_ofList, decimal.trimmed, decimal.splitSign,
    decimal.separated unicodeDigit? unicodeDigit_reads, short, if_false,
    decimal.ofDigitValues_values, Bool.false_eq_true]

/-- The text stands for its number in settings. -/
theorem integer : Settings.integer (.text (String.ofList digits)) = .ok n := by
  have whole : digits.takeWhile (· ≠ '.') = digits :=
    List.takeWhile_eq_self_iff.mpr fun c here =>
      decide_eq_true (digit_ne c '.' (decimal.all c here) rfl)
  have text : Settings.integerOfText? (String.ofList digits) = some (n : Int) := by
    simp only [Settings.integerOfText?, String.toList_ofList, decimal.trimmed, decimal.splitSign, whole,
      List.drop_length, decimal.separated digitValue? digitValue_reads,
      decimal.ofDigitValues_values, if_true, Option.map_some, Bool.false_eq_true, if_false]
  have short := Nat.not_lt.mpr decimal.short
  simp only [Settings.integer, String.toList_ofList, decimal.trimmed, short, if_false, text]

end Decimal

end Text

end EventRetention
