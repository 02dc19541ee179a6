import Mathlib.Order.Monotone.Basic
import Mathlib.Tactic.Ring
import QueryTypes.Number.Basic

/-!
Rounding to the magnitudes of numbers.

Codes ascend with the magnitudes that they stand for, and between two magnitudes there is at least
one unit. So what lies nearer than half a unit to a magnitude is rounded to its code.
-/

set_option autoImplicit false

namespace QueryTypes.Number

/-! ### Magnitudes -/

def fractions : Nat := Nat.pow 2 52

private theorem fractions_pos : 0 < fractions := by decide

theorem units_eq (code : Nat) :
    units code = if code < fractions then code
      else (code % fractions + fractions) * 2 ^ (code / fractions - 1) := rfl

/-- The magnitude of a code put together from a power of two and a number of its multiples. -/
theorem units_compose {power multiple : Nat} (low : power = 0 ∨ fractions ≤ multiple)
    (high : multiple ≤ 2 * fractions) :
    units (power * fractions + multiple) = multiple * 2 ^ power := by
  have some := fractions_pos
  rw [units_eq]
  by_cases small : multiple < fractions
  · have none : power = 0 := low.resolve_right (Nat.not_le.mpr small)
    subst none
    rw [Nat.zero_mul, Nat.zero_add, if_pos small, pow_zero, Nat.mul_one]
  · have large : ¬ power * fractions + multiple < fractions :=
      fun less => small (Nat.lt_of_le_of_lt (Nat.le_add_left ..) less)
    rw [if_neg large]
    rcases Nat.lt_or_eq_of_le high with less | last
    · have parts : power * fractions + multiple =
          (multiple - fractions) + fractions * (power + 1) := by
        rw [Nat.mul_add, Nat.mul_comm fractions power]
        omega
      have rest : multiple - fractions < fractions := by omega
      rw [parts, Nat.add_mul_mod_self_left, Nat.mod_eq_of_lt rest, Nat.add_mul_div_left _ _ some,
        Nat.div_eq_of_lt rest, Nat.sub_add_cancel (Nat.not_lt.mp small), Nat.zero_add,
        Nat.add_sub_cancel]
    · have parts : power * fractions + multiple = fractions * (power + 2) := by
        rw [last, Nat.mul_add, Nat.mul_comm fractions power]
        omega
      have lower : power + 2 - 1 = power + 1 := rfl
      rw [parts, Nat.mul_mod_right, Nat.mul_div_cancel_left _ some, last, Nat.zero_add, lower,
        pow_succ]
      ring

private theorem exists_compose (code : Nat) :
    ∃ power multiple, code = power * fractions + multiple ∧
      (power = 0 ∨ fractions ≤ multiple) ∧ multiple < 2 * fractions := by
  have some := fractions_pos
  by_cases small : code < fractions
  · exact ⟨0, code, by omega, .inl rfl, by omega⟩
  · have whole := Nat.div_add_mod code fractions
    have rest := Nat.mod_lt code some
    have atLeast : 1 ≤ code / fractions :=
      (Nat.one_le_div_iff some).mpr (Nat.not_lt.mp small)
    refine ⟨code / fractions - 1, code % fractions + fractions, ?_, .inr (by omega), by omega⟩
    obtain ⟨before, same⟩ := Nat.exists_eq_add_of_le' atLeast
    rw [same, Nat.mul_add] at whole
    rw [same, Nat.add_sub_cancel, Nat.mul_comm before]
    omega

theorem units_strictMono : StrictMono units := by
  refine strictMono_nat_of_lt_succ fun code => ?_
  obtain ⟨power, multiple, rfl, low, high⟩ := exists_compose code
  have next : fractions ≤ multiple + 1 ∨ power = 0 := by omega
  rw [Nat.add_assoc, units_compose low high.le, units_compose next.symm high]
  exact Nat.mul_lt_mul_of_pos_right (Nat.lt_succ_self multiple) (Nat.two_pow_pos power)

/-- Large magnitudes are multiples of large powers of two. -/
theorem pow_dvd_units {power code : Nat} (large : fractions * 2 ^ power ≤ units code) :
    2 ^ power ∣ units code := by
  obtain ⟨actual, multiple, rfl, low, high⟩ := exists_compose code
  rw [units_compose low high.le] at large ⊢
  have enough : power ≤ actual := by
    by_contra less
    have smaller : 2 ^ (actual + 1) ≤ 2 ^ power := Nat.pow_le_pow_right Nat.two_pos (by omega)
    have bound : multiple * 2 ^ actual < 2 * fractions * 2 ^ actual :=
      Nat.mul_lt_mul_of_pos_right high (Nat.two_pow_pos actual)
    have reached : fractions * 2 ^ (actual + 1) ≤ fractions * 2 ^ power :=
      Nat.mul_le_mul_left fractions smaller
    rw [pow_succ, Nat.mul_comm _ 2, ← Nat.mul_assoc, Nat.mul_comm fractions 2] at reached
    omega
  exact Dvd.dvd.mul_left (pow_dvd_pow 2 enough) multiple

/-! ### Rounding -/

/-- The power of two that a ratio is rounded to multiples of. -/
def roundingPower (numerator denominator : Nat) : Nat :=
  (numerator * one / denominator).log2 - 52

/-- The multiple nearest to a value, a tie going to the even one. -/
def nearestMultiple (value divisor : Nat) : Nat :=
  if divisor < 2 * (value % divisor) ∨ (divisor = 2 * (value % divisor) ∧ value / divisor % 2 = 1)
  then value / divisor + 1 else value / divisor

theorem nearestCode_eq (numerator denominator : Nat) :
    nearestCode numerator denominator =
      roundingPower numerator denominator * fractions +
        nearestMultiple (numerator * one)
          (denominator * 2 ^ roundingPower numerator denominator) := rfl

/-- A multiple that is nearer than half a step is the nearest one. -/
theorem nearestMultiple_eq {value divisor : Nat} (multiple : Nat)
    (below : 2 * (multiple * divisor) < 2 * value + divisor)
    (above : 2 * value < 2 * (multiple * divisor) + divisor) :
    nearestMultiple value divisor = multiple := by
  have whole := Nat.div_add_mod value divisor
  have rest : value % divisor < divisor := Nat.mod_lt _ (by omega)
  unfold nearestMultiple
  generalize value / divisor = kept at whole ⊢
  generalize value % divisor = remainder at whole rest ⊢
  rcases Nat.lt_trichotomy kept multiple with less | same | more
  · obtain ⟨distance, rfl⟩ := Nat.exists_eq_add_of_lt less
    have single : distance = 0 := by
      rcases Nat.eq_zero_or_pos distance with none | some
      · exact none
      · have far := Nat.mul_le_mul_right divisor some
        rw [Nat.add_mul, Nat.add_mul, Nat.mul_comm kept] at below
        omega
    subst single
    rw [Nat.add_mul, Nat.add_mul, Nat.mul_comm kept] at below
    rw [if_pos (.inl (by omega))]
  · subst same
    rw [Nat.mul_comm kept] at above
    rw [if_neg (by omega)]
  · have far := Nat.mul_le_mul_right divisor more
    rw [Nat.succ_mul, Nat.mul_comm kept] at far
    omega

section Ratio

variable {numerator denominator : Nat}

/-- The whole part of a ratio lies between two powers of two, unless it is a small one. -/
theorem roundingPower_bounds (numerator denominator : Nat) :
    (roundingPower numerator denominator = 0 ∨
        fractions * 2 ^ roundingPower numerator denominator ≤ numerator * one / denominator) ∧
      numerator * one / denominator <
        2 * fractions * 2 ^ roundingPower numerator denominator := by
  unfold roundingPower
  generalize numerator * one / denominator = whole
  have upper := Nat.lt_log2_self (n := whole)
  have split (power : Nat) : fractions * 2 ^ power = 2 ^ (52 + power) := (pow_add 2 52 power).symm
  rw [Nat.mul_assoc, split]
  constructor
  · by_cases small : whole.log2 ≤ 52
    · exact .inl (Nat.sub_eq_zero_of_le small)
    · refine .inr ?_
      rw [Nat.add_sub_cancel' (by omega)]
      refine Nat.log2_self_le fun none => ?_
      rw [none] at small
      exact small (by decide)
  · rw [← Nat.pow_succ']
    exact Nat.lt_of_lt_of_le upper (Nat.pow_le_pow_right Nat.two_pos (by omega))

/-- The multiple of the power below a ratio takes the place of a code's multiple. -/
theorem multiple_bounds (numerator denominator : Nat) :
    (roundingPower numerator denominator = 0 ∨ fractions ≤
        numerator * one / (denominator * 2 ^ roundingPower numerator denominator)) ∧
      numerator * one / (denominator * 2 ^ roundingPower numerator denominator) <
        2 * fractions := by
  obtain ⟨low, high⟩ := roundingPower_bounds numerator denominator
  generalize roundingPower numerator denominator = power at low high ⊢
  have step := Nat.two_pow_pos power
  rw [← Nat.div_div_eq_div_mul]
  exact ⟨low.imp_right (Nat.le_div_iff_mul_le step).mpr, (Nat.div_lt_iff_lt_mul step).mpr high⟩

/-- Small ratios are rounded to multiples of small powers of two. -/
theorem roundingPower_le {top : Nat}
    (small : numerator * one / denominator < 2 * fractions * 2 ^ top) :
    roundingPower numerator denominator ≤ top := by
  obtain ⟨low, _⟩ := roundingPower_bounds numerator denominator
  generalize roundingPower numerator denominator = power at low ⊢
  generalize numerator * one / denominator = whole at small low
  by_contra coarse
  have least : 2 ^ (top + 1) ≤ 2 ^ power := Nat.pow_le_pow_right Nat.two_pos (by omega)
  have reached := Nat.mul_le_mul_left fractions least
  rw [pow_succ, Nat.mul_comm _ 2, ← Nat.mul_assoc, Nat.mul_comm fractions 2] at reached
  omega

/-- The magnitude that a ratio is rounded to. -/
theorem units_nearestCode (numerator denominator : Nat) :
    units (nearestCode numerator denominator) =
      nearestMultiple (numerator * one)
          (denominator * 2 ^ roundingPower numerator denominator) *
        2 ^ roundingPower numerator denominator := by
  obtain ⟨lower, upper⟩ := multiple_bounds numerator denominator
  rw [nearestCode_eq]
  generalize roundingPower numerator denominator = power at lower upper ⊢
  refine units_compose ?_ ?_ <;> unfold nearestMultiple <;> split <;> omega

/-- What is nearer than half a unit to a magnitude is rounded to its code. -/
theorem nearestCode_of_close {code : Nat}
    (below : 2 * (units code * denominator) < 2 * (numerator * one) + denominator)
    (above : 2 * (numerator * one) < 2 * (units code * denominator) + denominator) :
    nearestCode numerator denominator = code := by
  have some : 0 < denominator := by omega
  refine units_strictMono.injective ?_
  rw [units_nearestCode]
  obtain ⟨low, high⟩ := roundingPower_bounds numerator denominator
  generalize roundingPower numerator denominator = power at low high ⊢
  have atMost : numerator * one / denominator ≤ units code := by
    refine Nat.le_of_lt_succ ((Nat.div_lt_iff_lt_mul some).mpr ?_)
    rw [Nat.succ_mul]
    omega
  have divides : 2 ^ power ∣ units code := by
    rcases low with rfl | large
    · exact one_dvd _
    · exact pow_dvd_units (large.trans atMost)
  obtain ⟨multiple, same⟩ := divides
  have magnitude : units code = multiple * 2 ^ power := same.trans (Nat.mul_comm ..)
  have scaled : multiple * (denominator * 2 ^ power) = units code * denominator := by
    rw [magnitude, Nat.mul_comm denominator, Nat.mul_assoc]
  have wide : denominator ≤ denominator * 2 ^ power :=
    Nat.le_mul_of_pos_right _ (Nat.two_pow_pos power)
  rw [magnitude, nearestMultiple_eq multiple (by omega) (by omega)]

theorem nearestCode_zero (denominator : Nat) : nearestCode 0 denominator = 0 := by
  rw [nearestCode_eq]
  have flat : roundingPower 0 denominator = 0 := by
    unfold roundingPower
    rw [Nat.zero_mul, Nat.zero_div]
    rfl
  rw [flat, Nat.zero_mul, Nat.zero_mul, Nat.zero_add]
  unfold nearestMultiple
  rw [Nat.zero_mod, Nat.zero_div, if_neg (by omega)]

theorem exists_one_eq_pow : ∃ top, one = 2 ^ top := by
  unfold one
  -- The power itself must not be computed.
  generalize 1074 = top
  exact ⟨top, rfl⟩

/-- An integer that is rounded to a multiple of a fraction keeps its value. -/
theorem units_nearestCode_whole {whole top : Nat} (some : 0 < denominator) (single : one = 2 ^ top)
    (fine : roundingPower (whole * denominator) denominator ≤ top) :
    units (nearestCode (whole * denominator) denominator) = whole * one := by
  rw [units_nearestCode]
  generalize roundingPower (whole * denominator) denominator = power at fine ⊢
  obtain ⟨rest, sum⟩ := Nat.exists_eq_add_of_le' fine
  have split : one = 2 ^ rest * 2 ^ power := by rw [single, sum, pow_add]
  have exact : whole * 2 ^ rest * (denominator * 2 ^ power) = whole * denominator * one := by
    rw [split]
    ring
  have step : 0 < denominator * 2 ^ power := Nat.mul_pos some (Nat.two_pow_pos power)
  rw [nearestMultiple_eq (whole * 2 ^ rest) (by omega) (by omega), Nat.mul_assoc, ← split]

/-- Integers are rounded to integers. -/
theorem one_dvd_units_nearestCode (whole : Nat) (some : 0 < denominator) :
    one ∣ units (nearestCode (whole * denominator) denominator) := by
  obtain ⟨top, single⟩ := exists_one_eq_pow
  by_cases fine : roundingPower (whole * denominator) denominator ≤ top
  · rw [units_nearestCode_whole some single fine]
    exact Nat.dvd_mul_left one whole
  · rw [units_nearestCode, single]
    exact Dvd.dvd.mul_left (pow_dvd_pow 2 (Nat.le_of_not_le fine)) _

end Ratio

end QueryTypes.Number
