import EventRetention.Proofs.BatchPlan
import Mathlib.Algebra.Order.Field.Power
import Mathlib.Data.Rat.Floor
import Mathlib.Tactic.FieldSimp
import Mathlib.Tactic.Positivity

/-!
The quotient in a batch plan is the binary64 number nearest to the exact one,
and of two equally near the even one. A number with an exponent no less than
that of the quotient is a whole multiple of its unit, and among those rounding
picks the nearest; a number with a lesser exponent lies below every quotient of
53 bits. So rounding up the nearest number rounds up the quotient itself.
-/

namespace EventRetention

namespace Binary64

def value : Binary64 → ℚ
  | .finite negative m e => (if negative then -(m : ℚ) else m) * 2 ^ e
  | _ => 0

def significand : Binary64 → Nat
  | .finite _ m _ => m
  | _ => 0

def IsNumber : Binary64 → Prop
  | .finite _ m e => m < 2 ^ 53 ∧ -1074 ≤ e ∧ e ≤ 971 ∧ (2 ^ 52 ≤ m ∨ e = -1074)
  | _ => False

/-- The number nearest to a rational; of two equally near the even one. -/
structure Nearest (x : ℚ) (q : Binary64) : Prop where
  number : q.IsNumber
  near : ∀ other : Binary64, other.IsNumber → |x - q.value| ≤ |x - other.value|
  even : ∀ other : Binary64, other.IsNumber → |x - other.value| = |x - q.value| →
    other.value = q.value ∨ q.significand % 2 = 0

/-! Rounding to whole numbers. -/

theorem roundHalfEven_tie (num den : Nat) (positive : 0 < den)
    (tie : 2 * num = 2 * (roundHalfEven num den * den) + den ∨
      2 * num + den = 2 * (roundHalfEven num den * den)) : roundHalfEven num den % 2 = 0 := by
  have whole := Nat.div_add_mod num den
  have rest := Nat.mod_lt num positive
  have next : (num / den + 1) * den = den * (num / den) + den := by ring
  have same : num / den * den = den * (num / den) := by ring
  unfold roundHalfEven at tie ⊢
  dsimp only at tie ⊢
  split_ifs at tie ⊢ with below above even
  · omega
  · omega
  · exact even
  · omega

theorem roundHalfEven_error (num den : Nat) (positive : 0 < den) :
    |(num : ℚ) / den - roundHalfEven num den| ≤ 1 / 2 := by
  obtain ⟨high, low⟩ := roundHalfEven_near num den positive
  have wide : (0 : ℚ) < den := by exact_mod_cast positive
  have above : 2 * ((roundHalfEven num den : ℚ) * den) ≤ 2 * num + den := by exact_mod_cast high
  have below : 2 * (num : ℚ) ≤ 2 * (roundHalfEven num den * den) + den := by exact_mod_cast low
  rw [abs_le]
  constructor
  · rw [le_sub_iff_add_le, ← sub_le_iff_le_add', le_div_iff₀ wide] at *
    linarith
  · rw [sub_le_iff_le_add, div_le_iff₀ wide]
    linarith

theorem apart_whole (m k : Int) (other : k ≠ m) : (1 : ℚ) ≤ |(m : ℚ) - k| := by
  have gap : (1 : Int) ≤ |m - k| := Int.one_le_abs (sub_ne_zero.mpr (Ne.symm other))
  exact_mod_cast gap

/-- No whole number is nearer to a quotient than the rounded one, and where
    another one is as near the rounded one is even. -/
theorem roundHalfEven_nearest (num den : Nat) (positive : 0 < den) (k : Int) :
    |(num : ℚ) / den - roundHalfEven num den| ≤ |(num : ℚ) / den - k| ∧
      (|(num : ℚ) / den - k| = |(num : ℚ) / den - roundHalfEven num den| →
        k = roundHalfEven num den ∨ roundHalfEven num den % 2 = 0) := by
  have error := roundHalfEven_error num den positive
  have wide : (0 : ℚ) < den := by exact_mod_cast positive
  by_cases same : k = roundHalfEven num den
  · subst same
    exact ⟨le_of_eq (by push_cast; rfl), fun _ => Or.inl rfl⟩
  · have gap := apart_whole (roundHalfEven num den) k same
    have split := abs_sub_le (roundHalfEven num den : ℚ) ((num : ℚ) / den) k
    rw [abs_sub_comm (roundHalfEven num den : ℚ) ((num : ℚ) / den)] at split
    push_cast at gap
    refine ⟨by linarith, fun tie => Or.inr ?_⟩
    -- Both lie half a unit away, one on each side.
    have half : |(num : ℚ) / den - roundHalfEven num den| = 1 / 2 := by linarith
    apply roundHalfEven_tie num den positive
    rcases abs_eq (by norm_num : (0 : ℚ) ≤ 1 / 2) |>.mp half with above | below
    · left
      rw [sub_eq_iff_eq_add, div_eq_iff (ne_of_gt wide)] at above
      have exact : 2 * (num : ℚ) = 2 * (roundHalfEven num den * den) + den := by linarith
      exact_mod_cast exact
    · right
      rw [sub_eq_iff_eq_add, div_eq_iff (ne_of_gt wide)] at below
      have exact : 2 * (num : ℚ) + den = 2 * (roundHalfEven num den * den) := by linarith
      exact_mod_cast exact

/-! The other numbers of the format. -/

theorem two_pow_split (e : Int) (shift : Nat) (above : -(shift : Int) ≤ e) :
    (2 : ℚ) ^ e = ((2 ^ (e + shift).toNat : Nat) : ℚ) * (2 ^ shift)⁻¹ := by
  have whole : ((e + shift).toNat : Int) = e + shift := Int.toNat_of_nonneg (by omega)
  rw [Nat.cast_pow, Nat.cast_ofNat, ← zpow_natCast (2 : ℚ) (e + shift).toNat, whole,
    zpow_add₀ two_ne_zero, zpow_natCast, mul_inv_cancel_right₀ (pow_ne_zero shift two_ne_zero)]

/-- A number is a whole multiple of a unit, or below all multiples of 53 bits. -/
theorem multiple_or_below (other : Binary64) (number : other.IsNumber) (shift : Nat) :
    (∃ k : Int, other.value = k * (2 ^ shift : ℚ)⁻¹) ∨
      other.value < 2 ^ 52 * (2 ^ shift : ℚ)⁻¹ := by
  cases other with
  | infinite negative => cases number
  | nan => cases number
  | finite negative m e =>
      obtain ⟨bits, -, -, -⟩ := number
      by_cases above : -(shift : Int) ≤ e
      · left
        refine ⟨(if negative then -(m : Int) else m) * (2 ^ (e + shift).toNat : Nat), ?_⟩
        rw [value, two_pow_split e shift above, ← mul_assoc]
        cases negative <;> push_cast <;> rfl
      · right
        have small : (m : ℚ) < 2 ^ 53 := by exact_mod_cast bits
        -- With a smaller exponent even 53 bits stay below the multiples.
        have less : (2 : ℚ) ^ e ≤ 2 ^ (-(shift : Int) - 1) :=
          zpow_le_zpow_right₀ (by norm_num) (by omega)
        have unit : (2 : ℚ) ^ (-(shift : Int) - 1) = (2 ^ shift : ℚ)⁻¹ / 2 := by
          rw [zpow_sub_one₀ two_ne_zero, zpow_neg, zpow_natCast]
          rfl
        have power : (0 : ℚ) < 2 ^ e := by positivity
        have size : (if negative then -(m : ℚ) else m) * 2 ^ e ≤ m * 2 ^ e := by
          apply mul_le_mul_of_nonneg_right _ power.le
          cases negative
          · exact le_refl _
          · exact neg_le_self (Nat.cast_nonneg m)
        calc
          value (.finite negative m e) ≤ m * 2 ^ e := size
          _ < 2 ^ 53 * 2 ^ e := mul_lt_mul_of_pos_right small power
          _ ≤ 2 ^ 53 * ((2 ^ shift : ℚ)⁻¹ / 2) := by
            rw [← unit]
            exact mul_le_mul_of_nonneg_left less (by norm_num)
          _ = 2 ^ 52 * (2 ^ shift : ℚ)⁻¹ := by ring

/-- A multiple of the unit that is nearest among all multiples is nearest among
    all numbers, when the quotient has 53 bits in that unit. -/
theorem nearest_multiple (num den : Nat) (positive : 0 < den) (shift : Nat)
    (normal : 2 ^ 52 * den ≤ num * 2 ^ shift) (q : Binary64) (number : q.IsNumber)
    (rounded : q.value = roundHalfEven (num * 2 ^ shift) den * (2 ^ shift : ℚ)⁻¹)
    (parity : roundHalfEven (num * 2 ^ shift) den % 2 = 0 → q.significand % 2 = 0) :
    Nearest (num / den) q := by
  have wide : (0 : ℚ) < den := by exact_mod_cast positive
  have power : (0 : ℚ) < 2 ^ shift := by positivity
  have unit : (0 : ℚ) < (2 ^ shift)⁻¹ := inv_pos.mpr power
  -- Distances in units.
  have scale : (num : ℚ) / den = ((num * 2 ^ shift : Nat) : ℚ) / den * (2 ^ shift)⁻¹ := by
    push_cast
    field_simp
  have distance : ∀ y : ℚ, |(num : ℚ) / den - y * (2 ^ shift)⁻¹| =
      |((num * 2 ^ shift : Nat) : ℚ) / den - y| * (2 ^ shift)⁻¹ := by
    intro y
    rw [scale, ← sub_mul, abs_mul, abs_of_pos unit]
  have low : (2 : ℚ) ^ 52 ≤ ((num * 2 ^ shift : Nat) : ℚ) / den := by
    rw [le_div_iff₀ wide]
    exact_mod_cast normal
  have nearer : ∀ k : Int, |(num : ℚ) / den - q.value| ≤ |(num : ℚ) / den - k * (2 ^ shift)⁻¹| := by
    intro k
    rw [rounded, distance, distance]
    exact mul_le_mul_of_nonneg_right (roundHalfEven_nearest _ den positive k).1 unit.le
  have farther : ∀ y : ℚ, y < 2 ^ 52 * (2 ^ shift)⁻¹ →
      |(num : ℚ) / den - q.value| < |(num : ℚ) / den - y| := by
    intro y below
    have reach : (2 : ℚ) ^ 52 * (2 ^ shift)⁻¹ ≤ num / den := by
      rw [scale]
      exact mul_le_mul_of_nonneg_right low unit.le
    have least := nearer (2 ^ 52)
    simp only [Int.cast_pow, Int.cast_ofNat] at least
    rw [abs_of_nonneg (sub_nonneg.mpr reach)] at least
    rw [abs_of_nonneg (by linarith : 0 ≤ (num : ℚ) / den - y)]
    linarith
  refine ⟨number, fun other present => ?_, fun other present tie => ?_⟩
  · rcases multiple_or_below other present shift with ⟨k, same⟩ | below
    · rw [same]
      exact nearer k
    · exact (farther _ below).le
  · rcases multiple_or_below other present shift with ⟨k, same⟩ | below
    · rw [same, rounded, distance, distance] at tie
      rcases (roundHalfEven_nearest _ den positive k).2
        (mul_right_cancel₀ (ne_of_gt unit) tie) with here | even
      · left
        rw [same, rounded, here, Int.cast_natCast]
      · exact Or.inr (parity even)
    · exact absurd tie (ne_of_gt (farther _ below))

/-- A quotient of 53 bits keeps them, or is rounded up to the next power of two. -/
theorem roundHalfEven_bits (num den : Nat) (positive : 0 < den) (normal : 2 ^ 52 * den ≤ num)
    (bits : num < 2 ^ 53 * den) :
    2 ^ 52 ≤ roundHalfEven num den ∧ roundHalfEven num den ≤ 2 ^ 53 := by
  obtain ⟨high, low⟩ := roundHalfEven_near num den positive
  constructor
  · by_contra below
    have step : (roundHalfEven num den + 1) * den ≤ 2 ^ 52 * den :=
      Nat.mul_le_mul_right den (by omega)
    rw [Nat.succ_mul] at step
    omega
  · by_contra above
    have step : (2 ^ 53 + 1) * den ≤ roundHalfEven num den * den :=
      Nat.mul_le_mul_right den (by omega)
    rw [Nat.succ_mul] at step
    omega

theorem exponentFor_least (num den : Nat) : -1074 ≤ exponentFor num den := Int.le_max_left _ _

theorem nearest_ofQuotient (num den : Nat) (present : 0 < num) (few : num ≤ 2 ^ 53)
    (positive : 0 < den) (fits : den < 2 ^ 63) :
    Nearest (num / den) (ofQuotient false num den) := by
  -- The only quotient of 54 bits is a power of two.
  by_cases edge : num = 2 ^ 53 ∧ den = 1
  · obtain ⟨rfl, rfl⟩ := edge
    have whole : ofQuotient false (2 ^ 53) 1 = .finite false (2 ^ 52) 1 := by decide +kernel
    have exact : ((2 ^ 53 : Nat) : ℚ) / (1 : Nat) - value (.finite false (2 ^ 52) 1) = 0 := by
      norm_num [value]
    rw [whole]
    refine ⟨by unfold IsNumber; omega, fun other _ => ?_, fun _ _ _ => Or.inr (by decide)⟩
    rw [exact, abs_zero]
    exact abs_nonneg _
  · have inside : num = 2 ^ 53 → den ≠ 1 := fun full one => edge ⟨full, one⟩
    have least := exponentFor_least num den
    obtain ⟨shift, exponent, normal, bits⟩ :=
      exponentFor_normal num den present few positive fits inside
    rw [exponent] at least
    obtain ⟨fewest, most⟩ := roundHalfEven_bits (num * 2 ^ shift) den positive normal bits
    have power : (2 : ℚ) ^ (-(shift : Int)) = (2 ^ shift : ℚ)⁻¹ := by rw [zpow_neg, zpow_natCast]
    rw [ofQuotient_normal num den shift present exponent]
    by_cases carry : roundHalfEven (num * 2 ^ shift) den = 2 ^ 53
    · rw [if_pos carry]
      apply nearest_multiple num den positive shift normal
      · unfold IsNumber
        omega
      · simp only [value, Bool.false_eq_true, ↓reduceIte, carry]
        rw [zpow_add_one₀ two_ne_zero, power]
        push_cast
        ring
      · exact fun _ => (rfl : 2 ^ 52 % 2 = 0)
    · rw [if_neg carry]
      apply nearest_multiple num den positive shift normal
      · unfold IsNumber
        omega
      · simp only [value, Bool.false_eq_true, ↓reduceIte, power]
      · exact id

end Binary64

namespace Cleaner

/-- In its working range a plan is the exact quotient of records and batch size
    rounded up, although it is the nearest binary64 number that is rounded up:
    its batches hold all records, and one batch less does not. -/
theorem plan_ceiling (records batchSize : Int) (present : 1 ≤ records) (few : records ≤ 2 ^ 53)
    (positive : 1 ≤ batchSize) (fits : batchSize < 2 ^ 63) :
    ∃ quotient planned, Binary64.quotient? records batchSize = some quotient ∧
      quotient.Nearest ((records : ℚ) / batchSize) ∧ quotient.ceil? = some planned ∧
      plan? records batchSize = some planned ∧ planned = ⌈(records : ℚ) / batchSize⌉ ∧
      records ≤ planned * batchSize ∧ (planned - 1) * batchSize < records := by
  obtain ⟨num, rfl⟩ := Int.eq_ofNat_of_zero_le (show 0 ≤ records by omega)
  obtain ⟨den, rfl⟩ := Int.eq_ofNat_of_zero_le (show 0 ≤ batchSize by omega)
  have some : 0 < num := by omega
  have wide : 0 < den := by omega
  have nearest := Binary64.nearest_ofQuotient num den some (by omega) wide (by omega)
  have ceiling := Binary64.ceil_ofQuotient num den some (by omega) wide (by omega)
  have plan := plan_exact num den some (by omega) wide (by omega)
  obtain ⟨covers, least⟩ := ceiling_bounds num den wide
  generalize (num + den - 1) / den = planned at ceiling plan covers least
  have covered : (num : Int) ≤ (planned : Int) * den := by exact_mod_cast covers
  have needed : ((planned : Int) - 1) * den < num := by
    rw [Int.sub_mul, Int.one_mul]
    have fewer : (planned : Int) * den < num + den := by exact_mod_cast least
    omega
  refine ⟨_, planned, Binary64.quotient_nonneg num den _ ceiling, by simpa using nearest,
    ceiling, plan, ?_, covered, needed⟩
  have divisor : (0 : ℚ) < ((den : Int) : ℚ) := by exact_mod_cast wide
  symm
  rw [Int.ceil_eq_iff, lt_div_iff₀ divisor, div_le_iff₀ divisor]
  exact ⟨by exact_mod_cast needed, by exact_mod_cast covered⟩

/-! The quotient just above 1 that lies closest to it, and past the working range
one that is rounded down to 1. -/

theorem plan_ceiling_above_one :
    ∃ quotient, Binary64.quotient? (2 ^ 53) (2 ^ 53 - 1) = some quotient ∧
      quotient.Nearest ((2 ^ 53 : Int) / (2 ^ 53 - 1 : Int) : ℚ) ∧ quotient.ceil? = some 2 := by
  obtain ⟨quotient, planned, found, nearest, ceiling, plan, -⟩ :=
    plan_ceiling (2 ^ 53) (2 ^ 53 - 1) (by decide) (by decide) (by decide) (by decide)
  have two : plan? (2 ^ 53) (2 ^ 53 - 1) = some 2 := by decide +kernel
  cases plan.symm.trans two
  exact ⟨quotient, found, nearest, ceiling⟩

example : plan? (2 ^ 53 + 1) (2 ^ 53) = some 1 := by decide +kernel

end Cleaner

end EventRetention
