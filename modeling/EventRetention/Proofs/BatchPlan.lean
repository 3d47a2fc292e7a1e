import EventRetention.Retention.Cleaner
import Mathlib.Tactic.Linarith
import Mathlib.Tactic.Ring

/-!
The batch plan of a cleaner in its working range. The quotient of records and
batch size is rounded to 53 significant bits before it is rounded up. Up to
`2 ^ 53` records no quotient above an integer is rounded down to it: it stays
at least one part in the batch size above, and half a unit in the last place
is less than that, except where the quotient is a power of two and exact.
-/

namespace EventRetention

theorem ceiling_unique (num den quotient : Nat) (positive : 0 < den)
    (high : num ≤ quotient * den) (low : quotient * den < num + den) :
    (num + den - 1) / den = quotient := by
  apply Nat.div_eq_of_lt_le
  · omega
  · rw [Nat.succ_mul]
    omega

theorem ceiling_bounds (num den : Nat) (positive : 0 < den) :
    num ≤ (num + den - 1) / den * den ∧ (num + den - 1) / den * den < num + den := by
  have whole := Nat.div_add_mod (num + den - 1) den
  have rest := Nat.mod_lt (num + den - 1) positive
  rw [Nat.mul_comm] at whole
  omega

namespace Binary64

theorem roundHalfEven_near (num den : Nat) (positive : 0 < den) :
    2 * (roundHalfEven num den * den) ≤ 2 * num + den ∧
      2 * num ≤ 2 * (roundHalfEven num den * den) + den := by
  have whole := Nat.div_add_mod num den
  have rest := Nat.mod_lt num positive
  have next : (num / den + 1) * den = den * (num / den) + den := by ring
  have same : num / den * den = den * (num / den) := by ring
  unfold roundHalfEven
  dsimp only
  split_ifs
  all_goals
    first
    | rw [next]
    | rw [same]
    omega

theorem roundHalfEven_exact (quotient den : Nat) (positive : 0 < den) :
    roundHalfEven (quotient * den) den = quotient := by
  simp [roundHalfEven, positive]

theorem scaled_down (num den shift : Nat) :
    scaled num den (-(shift : Int)) = (num * 2 ^ shift, den) := by
  cases shift with
  | zero => simp [scaled]
  | succ shift =>
      have negative : -((shift + 1 : Nat) : Int) < 0 := by omega
      simp only [scaled, negative, ↓reduceIte, Int.natAbs_neg, Int.natAbs_natCast]
      rfl

theorem magnitude_down (significand shift : Nat) :
    magnitude significand (-(shift : Int)) = (significand, 2 ^ shift) := by
  cases shift with
  | zero => simp [magnitude]
  | succ shift =>
      have negative : -((shift + 1 : Nat) : Int) < 0 := by omega
      simp only [magnitude, negative, ↓reduceIte, Int.natAbs_neg, Int.natAbs_natCast]
      rfl

theorem ceil_down (significand shift : Nat) :
    ceil? (.finite false significand (-(shift : Int))) =
      some (((significand + 2 ^ shift - 1) / 2 ^ shift : Nat) : Int) := by
  simp only [ceil?, magnitude_down, Bool.false_eq_true, ↓reduceIte]

/-- In the working range the exponent is not positive, and the scaled quotient
    has 53 bits; the one quotient beyond it is `2 ^ 53` itself. -/
theorem exponentFor_normal (num den : Nat) (present : 0 < num) (few : num ≤ 2 ^ 53)
    (positive : 0 < den) (fits : den < 2 ^ 63) (inside : num = 2 ^ 53 → den ≠ 1) :
    ∃ shift : Nat, exponentFor num den = -(shift : Int) ∧
      2 ^ 52 * den ≤ num * 2 ^ shift ∧ num * 2 ^ shift < 2 ^ 53 * den := by
  have numLow : 2 ^ num.log2 ≤ num := Nat.log2_self_le (Nat.ne_of_gt present)
  have numHigh : num < 2 ^ (num.log2 + 1) := Nat.lt_log2_self
  have denLow : 2 ^ den.log2 ≤ den := Nat.log2_self_le (Nat.ne_of_gt positive)
  have denHigh : den < 2 ^ (den.log2 + 1) := Nat.lt_log2_self
  have numBits : num.log2 ≤ 53 := by
    by_contra large
    have : 2 ^ 54 ≤ 2 ^ num.log2 := Nat.pow_le_pow_right (by decide) (by omega)
    omega
  have denBits : den.log2 < 63 := (Nat.log2_lt (Nat.ne_of_gt positive)).mpr fits
  obtain ⟨shift, width⟩ : ∃ shift, shift + num.log2 = 53 + den.log2 :=
    ⟨53 + den.log2 - num.log2, by omega⟩
  have guess : (num.log2 : Int) - den.log2 - 53 = -(shift : Int) := by omega
  have scale : 2 ^ 53 * 2 ^ den.log2 ≤ num * 2 ^ shift := by
    calc
      2 ^ 53 * 2 ^ den.log2 = 2 ^ num.log2 * 2 ^ shift := by
        rw [← Nat.pow_add, ← Nat.pow_add, Nat.add_comm num.log2, width]
      _ ≤ num * 2 ^ shift := Nat.mul_le_mul_right _ numLow
  -- The first guess gives 53 bits or one more, and then the shift is one less.
  unfold exponentFor
  simp only [guess, scaled_down, Nat.pow_eq]
  by_cases small : num * 2 ^ shift / den < 2 ^ 53
  · refine ⟨shift, ?_, ?_, (Nat.div_lt_iff_lt_mul positive).mp small⟩
    · rw [if_pos small]
      omega
    · rw [Nat.pow_succ] at denHigh
      omega
  · have large : 2 ^ 53 * den ≤ num * 2 ^ shift :=
      (Nat.le_div_iff_mul_le positive).mp (Nat.le_of_not_lt small)
    cases shift with
    | zero =>
        exfalso
        have one : den = 1 := by omega
        exact inside (by omega) one
    | succ shift =>
        refine ⟨shift, ?_, ?_, ?_⟩
        · rw [if_neg small]
          omega
        · rw [Nat.pow_succ 2 shift, ← Nat.mul_assoc] at large
          omega
        · calc
            num * 2 ^ shift < 2 ^ (num.log2 + 1) * 2 ^ shift :=
              Nat.mul_lt_mul_of_pos_right numHigh (Nat.two_pow_pos shift)
            _ = 2 ^ 53 * 2 ^ den.log2 := by
              rw [← Nat.pow_add, ← Nat.pow_add, Nat.add_assoc, Nat.add_comm 1 shift,
                Nat.add_comm num.log2, width]
            _ ≤ 2 ^ 53 * den := Nat.mul_le_mul_left _ denLow

/-- With an exponent that is not positive only the carry to a power of two is
    left: no overflow. -/
theorem ofQuotient_normal (num den shift : Nat) (present : 0 < num)
    (exponent : exponentFor num den = -(shift : Int)) :
    ofQuotient false num den =
      if roundHalfEven (num * 2 ^ shift) den = 2 ^ 53 then .finite false (2 ^ 52) (-(shift : Int) + 1)
      else .finite false (roundHalfEven (num * 2 ^ shift) den) (-(shift : Int)) := by
  have nonzero : num ≠ 0 := Nat.ne_of_gt present
  have finite : ¬ (971 : Int) < -(shift : Int) := by omega
  have carried : ¬ (971 : Int) < -(shift : Int) + 1 := by omega
  unfold ofQuotient
  simp only [nonzero, ↓reduceIte, exponent, scaled_down, Nat.pow_eq]
  by_cases carry : roundHalfEven (num * 2 ^ shift) den = 2 ^ 53
  · simp only [carry, ↓reduceIte, carried]
  · simp only [carry, ↓reduceIte, finite]

theorem rounded_ceiling (num den unit : Nat) (few : num ≤ 2 ^ 53)
    (positive : 0 < den) (unitPositive : 0 < unit) (normal : 2 ^ 52 * den ≤ num * unit) :
    roundHalfEven (num * unit) den ≤ (num + den - 1) / den * unit ∧
      (num + den - 1) / den * unit < roundHalfEven (num * unit) den + unit := by
  obtain ⟨high, low⟩ := ceiling_bounds num den positive
  obtain ⟨down, up⟩ := roundHalfEven_near (num * unit) den positive
  generalize quotient : (num + den - 1) / den = ceiling at high low ⊢
  have exact : num * unit = 2 ^ 52 * den → roundHalfEven (num * unit) den = 2 ^ 52 := by
    intro same
    rw [same]
    exact roundHalfEven_exact _ _ positive
  generalize roundHalfEven (num * unit) den = nearest at down up exact ⊢
  have scaledHigh : num * unit ≤ ceiling * unit * den := by
    calc
      num * unit ≤ ceiling * den * unit := Nat.mul_le_mul_right unit high
      _ = ceiling * unit * den := by ring
  have scaledLow : ceiling * unit * den + unit ≤ num * unit + unit * den := by
    calc
      ceiling * unit * den + unit = (ceiling * den + 1) * unit := by ring
      _ ≤ (num + den) * unit := Nat.mul_le_mul_right unit low
      _ = num * unit + unit * den := by ring
  constructor
  · by_contra above
    have step : (ceiling * unit + 1) * den ≤ nearest * den :=
      Nat.mul_le_mul_right den (by omega)
    rw [Nat.succ_mul] at step
    omega
  · by_contra below
    have step : (nearest + unit) * den ≤ ceiling * unit * den :=
      Nat.mul_le_mul_right den (by omega)
    rw [Nat.add_mul] at step
    -- Half a unit in the last place spans the gap to the integer below only when
    -- both bounds meet, and then the quotient needs no rounding.
    have whole : num * unit ≤ 2 ^ 53 * unit := Nat.mul_le_mul_right unit few
    have met : num * unit = 2 ^ 52 * den := by omega
    have kept := exact met
    rw [kept] at step
    omega

theorem ceil_ofQuotient (num den : Nat) (present : 0 < num) (few : num ≤ 2 ^ 53)
    (positive : 0 < den) (fits : den < 2 ^ 63) :
    ceil? (ofQuotient false num den) = some (((num + den - 1) / den : Nat) : Int) := by
  by_cases edge : num = 2 ^ 53 ∧ den = 1
  · obtain ⟨rfl, rfl⟩ := edge
    decide +kernel
  · have inside : num = 2 ^ 53 → den ≠ 1 := fun full one => edge ⟨full, one⟩
    obtain ⟨shift, exponent, normal, -⟩ :=
      exponentFor_normal num den present few positive fits inside
    have unitPositive : 0 < 2 ^ shift := Nat.two_pow_pos shift
    obtain ⟨high, low⟩ :=
      rounded_ceiling num den (2 ^ shift) few positive unitPositive normal
    rw [ofQuotient_normal num den shift present exponent]
    generalize (num + den - 1) / den = quotient at high low ⊢
    -- A significand that is rounded up to 54 bits is halved.
    by_cases carry : roundHalfEven (num * 2 ^ shift) den = 2 ^ 53
    · rw [carry] at high low
      rw [if_pos carry]
      cases shift with
      | zero =>
          have value : quotient = 2 ^ 53 := by omega
          rw [value]
          decide +kernel
      | succ shift =>
          have lowered : -((shift + 1 : Nat) : Int) + 1 = -(shift : Int) := by omega
          rw [Nat.pow_succ 2 shift, ← Nat.mul_assoc] at high low
          rw [lowered, ceil_down]
          rw [ceiling_unique (2 ^ 52) (2 ^ shift) quotient (Nat.two_pow_pos shift) (by omega)
            (by omega)]
    · rw [if_neg carry, ceil_down]
      rw [ceiling_unique _ (2 ^ shift) quotient unitPositive high low]

/-- A quotient of numbers that are not negative is the rounded one, if that is
    finite. -/
theorem quotient_nonneg (num den : Nat) (ceiling : Int)
    (finite : ceil? (ofQuotient false num den) = some ceiling) :
    quotient? num den = some (ofQuotient false num den) := by
  have signs : ((num : Int) < 0) = False ∧ ((den : Int) < 0) = False := by
    constructor <;> simp
  unfold quotient?
  simp only [signs.1, signs.2, decide_false, bne_self_eq_false, Int.natAbs_natCast]
  cases value : ofQuotient false num den with
  | infinite negative => simp [value, ceil?] at finite
  | nan => rfl
  | finite negative significand exponent => rfl

end Binary64

namespace Cleaner

/-- In its working range the planned number of batches is the quotient of
    records and batch size, rounded up exactly. -/
theorem plan_exact (records batchSize : Nat) (present : 0 < records) (few : records ≤ 2 ^ 53)
    (positive : 0 < batchSize) (fits : batchSize < 2 ^ 63) :
    plan? records batchSize =
      some (((records + batchSize - 1) / batchSize : Nat) : Int) := by
  have ceiling := Binary64.ceil_ofQuotient records batchSize present few positive fits
  unfold plan?
  rw [Binary64.quotient_nonneg records batchSize _ ceiling]
  exact ceiling

def width (c : Cleaner) : Nat := c.batchSize.toNat

def needed (c : Cleaner) (records : Nat) : Nat := (records + c.width - 1) / c.width

theorem width_pos (c : Cleaner) (positive : 0 < c.batchSize) : 0 < c.width := by
  unfold width
  omega

theorem plan_needed (c : Cleaner) (records : Nat) (present : 0 < records) (few : records ≤ 2 ^ 53)
    (positive : 0 < c.batchSize) (fits : Storable c.batchSize) :
    plan? records c.batchSize = some (c.needed records : Int) := by
  have size : c.batchSize = (c.width : Int) := by
    unfold width
    omega
  have bound := fits.2
  rw [size]
  exact plan_exact records c.width present few (by omega) (by omega)

theorem needed_zero (c : Cleaner) (positive : 0 < c.batchSize) : c.needed 0 = 0 := by
  have width := c.width_pos positive
  apply Nat.div_eq_of_lt
  omega

/-- A batch less is needed once one of them is gone. -/
theorem needed_step (c : Cleaner) (records : Nat) (present : 0 < records)
    (positive : 0 < c.batchSize) : c.needed records = c.needed (records - c.width) + 1 := by
  have width := c.width_pos positive
  by_cases more : c.width ≤ records
  · have split : records + c.width - 1 = records - c.width + c.width - 1 + c.width := by omega
    unfold needed
    rw [split, Nat.add_div_right _ width]
  · have last : records - c.width = 0 := by omega
    rw [last, c.needed_zero positive]
    apply Nat.div_eq_of_lt_le <;> omega

theorem needed_covers (c : Cleaner) (records : Nat) (positive : 0 < c.batchSize) :
    records ≤ c.needed records * c.width :=
  (ceiling_bounds records c.width (c.width_pos positive)).1

theorem needed_more (c : Cleaner) (records batches : Nat) (positive : 0 < c.batchSize)
    (planned : batches < c.needed records) : batches * c.width < records := by
  have covered := (ceiling_bounds records c.width (c.width_pos positive)).2
  have whole : (batches + 1) * c.width ≤ c.needed records * c.width :=
    Nat.mul_le_mul_right c.width planned
  unfold needed at whole
  rw [Nat.succ_mul] at whole
  omega

theorem needed_le (c : Cleaner) (records : Nat) (positive : 0 < c.batchSize) :
    c.needed records ≤ records := by
  cases plan : c.needed records with
  | zero => exact Nat.zero_le records
  | succ batches =>
      have more := c.needed_more records batches positive (by omega)
      have width : batches * 1 ≤ batches * c.width :=
        Nat.mul_le_mul_left batches (c.width_pos positive)
      omega

end Cleaner

end EventRetention
