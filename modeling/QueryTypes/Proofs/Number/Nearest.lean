import Mathlib.Algebra.Order.Field.Basic
import Mathlib.Data.Rat.Cast.Order
import Mathlib.Tactic.FieldSimp
import Mathlib.Tactic.Linarith
import QueryTypes.Proofs.Number.ShortestDigits

/-!
Correct rounding, in exact values.

Of all magnitudes the nearest one is taken, and of two that are equally near the one with the even
code. The code that does not stand for a finite magnitude any more counts as the next power of two,
so what is rounded to it or beyond is out of range. There is one such code for every value, and
codes ascend with the values that are rounded to them.
-/

set_option autoImplicit false

namespace QueryTypes.Number

/-! ### Exact values -/

def magnitude (code : Nat) : ℚ := units code / one

theorem one_cast_pos : (0 : ℚ) < one := Nat.cast_pos.mpr one_pos

theorem magnitude_strictMono : StrictMono magnitude := by
  intro first second less
  have ascends : (units first : ℚ) < units second := Nat.cast_lt.mpr (units_strictMono less)
  exact div_lt_div_of_pos_right ascends one_cast_pos

theorem magnitude_zero : magnitude 0 = 0 := by
  have none : units 0 = 0 := rfl
  rw [magnitude, none, Nat.cast_zero, zero_div]

/-- The code of the magnitude nearest to a value, the even one of two. -/
structure Nearest (value : ℚ) (code : Nat) : Prop where
  closest : ∀ other, |value - magnitude code| ≤ |value - magnitude other|
  tie : ∀ other, other ≠ code → |value - magnitude code| = |value - magnitude other| →
    code % 2 = 0

section Distances

variable {value low high : ℚ}

private theorem abs_sub_le_of_lt (less : low < high) :
    |value - low| ≤ |value - high| ↔ 2 * value ≤ low + high := by
  rw [← sq_le_sq]
  constructor
  · intro closer
    nlinarith
  · intro below
    nlinarith

private theorem abs_sub_ge_of_lt (less : low < high) :
    |value - high| ≤ |value - low| ↔ low + high ≤ 2 * value := by
  rw [← sq_le_sq]
  constructor
  · intro closer
    nlinarith
  · intro above
    nlinarith

end Distances

namespace Nearest

variable {value greater : ℚ} {code other : Nat}

private theorem below_half (nearest : Nearest value code) (less : code < other) :
    2 * value ≤ magnitude code + magnitude other :=
  (abs_sub_le_of_lt (magnitude_strictMono less)).mp (nearest.closest other)

private theorem above_half (nearest : Nearest value code) (less : other < code) :
    magnitude other + magnitude code ≤ 2 * value :=
  (abs_sub_ge_of_lt (magnitude_strictMono less)).mp (nearest.closest other)

private theorem unique_of_lt (nearest : Nearest value code) (also : Nearest value other) :
    ¬ code < other := by
  intro less
  have below := nearest.below_half less
  have above := also.above_half less
  have equally : |value - magnitude code| = |value - magnitude other| :=
    le_antisymm (nearest.closest other) (also.closest code)
  have even := nearest.tie other (Nat.ne_of_gt less) equally
  have evenToo := also.tie code (Nat.ne_of_lt less) equally.symm
  -- Two even codes have one between them, which would be nearer.
  have between : code + 1 < other := by omega
  have nearer := nearest.below_half (Nat.lt_succ_self code)
  have further := magnitude_strictMono between
  linarith

theorem unique (nearest : Nearest value code) (also : Nearest value other) : code = other := by
  rcases Nat.lt_trichotomy code other with less | same | more
  · exact absurd less (nearest.unique_of_lt also)
  · exact same
  · exact absurd more (also.unique_of_lt nearest)

theorem mono (le : value ≤ greater) (nearest : Nearest value code) (also : Nearest greater other) :
    code ≤ other := by
  by_contra more
  have less : other < code := Nat.lt_of_not_le more
  have above := nearest.above_half less
  have below := also.below_half less
  have same : value = greater := by linarith
  subst same
  exact also.unique_of_lt nearest less

end Nearest

theorem magnitude_nearest (code : Nat) : Nearest (magnitude code) code := by
  constructor
  · intro other
    rw [sub_self, abs_zero]
    exact abs_nonneg _
  · intro other different same
    rw [sub_self, abs_zero, eq_comm, abs_eq_zero, sub_eq_zero] at same
    exact absurd (magnitude_strictMono.injective same).symm different

theorem zero_nearest : Nearest 0 0 := by
  have nearest := magnitude_nearest 0
  rwa [magnitude_zero] at nearest

/-- Between the magnitudes of two codes the nearer one counts, here the lower. -/
theorem nearest_of_between {value : ℚ} {code : Nat} (low : magnitude code ≤ value)
    (closer : 2 * value ≤ magnitude code + magnitude (code + 1))
    (even : 2 * value = magnitude code + magnitude (code + 1) → code % 2 = 0) :
    Nearest value code := by
  constructor
  · intro other
    rcases Nat.lt_trichotomy other code with less | rfl | more
    · have before := magnitude_strictMono less
      exact (abs_sub_ge_of_lt before).mpr (by linarith)
    · exact le_refl _
    · have behind := magnitude_strictMono.monotone (Nat.succ_le_of_lt more)
      exact (abs_sub_le_of_lt (magnitude_strictMono more)).mpr (by linarith)
  · intro other different equally
    rcases Nat.lt_or_gt_of_ne different with less | more
    · have before := magnitude_strictMono less
      have half := (abs_sub_le_of_lt before).mp equally.ge
      linarith
    · have behind := magnitude_strictMono.monotone (Nat.succ_le_of_lt more)
      have half := (abs_sub_ge_of_lt (magnitude_strictMono more)).mp equally.ge
      exact even (by linarith)

/-- Between the magnitudes of two codes the nearer one counts, here the upper. -/
theorem nearest_succ_of_between {value : ℚ} {code : Nat} (high : value ≤ magnitude (code + 1))
    (closer : magnitude code + magnitude (code + 1) ≤ 2 * value)
    (even : magnitude code + magnitude (code + 1) = 2 * value → (code + 1) % 2 = 0) :
    Nearest value (code + 1) := by
  constructor
  · intro other
    rcases Nat.lt_trichotomy other (code + 1) with less | rfl | more
    · have before := magnitude_strictMono.monotone (Nat.le_of_lt_succ less)
      exact (abs_sub_ge_of_lt (magnitude_strictMono less)).mpr (by linarith)
    · exact le_refl _
    · have behind := magnitude_strictMono more
      exact (abs_sub_le_of_lt behind).mpr (by linarith)
  · intro other different equally
    rcases Nat.lt_or_gt_of_ne different with less | more
    · have before := magnitude_strictMono.monotone (Nat.le_of_lt_succ less)
      have half := (abs_sub_le_of_lt (magnitude_strictMono less)).mp equally.ge
      exact even (by linarith)
    · have behind := magnitude_strictMono more
      have half := (abs_sub_ge_of_lt behind).mp equally.ge
      linarith

/-! ### Ratios -/

private theorem fractions_even : fractions % 2 = 0 := by decide

/-- The distance of a ratio to the magnitude below it, and of that to the next magnitude, are whole
numbers of small parts. -/
theorem exists_part {numerator denominator power multiple rest code : Nat} (some : 0 < denominator)
    (parts : denominator * 2 ^ power * multiple + rest = numerator * one)
    (here : units code = multiple * 2 ^ power)
    (next : units (code + 1) = (multiple + 1) * 2 ^ power) :
    ∃ part : ℚ, 0 < part ∧
      (numerator / denominator : ℚ) = magnitude code + rest * part ∧
      magnitude (code + 1) = magnitude code + (denominator * 2 ^ power : Nat) * part := by
  have nonzero : (denominator : ℚ) ≠ 0 := Nat.cast_ne_zero.mpr some.ne'
  have oneNonzero := one_cast_pos.ne'
  refine ⟨1 / (denominator * one), ?_, ?_, ?_⟩
  · exact one_div_pos.mpr (mul_pos (Nat.cast_pos.mpr some) one_cast_pos)
  · rw [magnitude, here]
    generalize one = single at parts oneNonzero ⊢
    have exact : (denominator : ℚ) * 2 ^ power * multiple + rest = numerator * single := by
      exact_mod_cast parts
    field_simp
    push_cast
    linarith
  · rw [magnitude, magnitude, here, next]
    generalize one = single at oneNonzero ⊢
    field_simp
    push_cast
    ring

/-- Less than half a step is rounded down, more than half a step up, and half a step to the even
code. -/
theorem nearest_of_parts {value part : ℚ} {code rest step : Nat} (positive : 0 < part)
    (within : rest ≤ step) (place : value = magnitude code + rest * part)
    (gap : magnitude (code + 1) = magnitude code + step * part) :
    Nearest value
      (if step < 2 * rest ∨ (step = 2 * rest ∧ code % 2 = 1) then code + 1 else code) := by
  have scaled (first second : Nat) : (first : ℚ) * part ≤ second * part ↔ first ≤ second := by
    rw [mul_le_mul_iff_of_pos_right positive, Nat.cast_le]
  have whole := (scaled rest step).mpr within
  have atLeast := (scaled 0 rest).mpr (Nat.zero_le rest)
  have double : ((2 * rest : Nat) : ℚ) = 2 * rest := by rw [Nat.cast_mul, Nat.cast_two]
  have up := scaled step (2 * rest)
  have down := scaled (2 * rest) step
  rw [double] at up down
  rw [Nat.cast_zero, zero_mul] at atLeast
  by_cases more : step < 2 * rest ∨ (step = 2 * rest ∧ code % 2 = 1)
  · rw [if_pos more]
    have half := up.mpr (by omega)
    refine nearest_succ_of_between (by linarith) (by linarith) fun equally => ?_
    have exact := down.mp (by linarith)
    omega
  · rw [if_neg more]
    have half := down.mpr (by omega)
    refine nearest_of_between (by linarith) (by linarith) fun equally => ?_
    have exact := up.mp (by linarith)
    omega

/-- The code that a ratio is rounded to is the nearest one. -/
theorem nearestCode_nearest (numerator : Nat) {denominator : Nat} (some : 0 < denominator) :
    Nearest (numerator / denominator) (nearestCode numerator denominator) := by
  obtain ⟨lower, upper⟩ := multiple_bounds numerator denominator
  rw [nearestCode_eq]
  generalize roundingPower numerator denominator = power at lower upper ⊢
  have step : 0 < denominator * 2 ^ power := Nat.mul_pos some (Nat.two_pow_pos power)
  have parts := Nat.div_add_mod (numerator * one) (denominator * 2 ^ power)
  have rest := Nat.mod_lt (numerator * one) step
  unfold nearestMultiple
  generalize numerator * one / (denominator * 2 ^ power) = multiple at parts lower upper ⊢
  generalize numerator * one % (denominator * 2 ^ power) = remainder at parts rest ⊢
  have here : units (power * fractions + multiple) = multiple * 2 ^ power :=
    units_compose lower upper.le
  have next : units (power * fractions + multiple + 1) = (multiple + 1) * 2 ^ power := by
    rw [Nat.add_assoc]
    exact units_compose (lower.imp_right Nat.le_succ_of_le) upper
  obtain ⟨part, positive, place, gap⟩ := exists_part some parts here next
  have nearest := nearest_of_parts positive rest.le place gap
  have parity : (power * fractions + multiple) % 2 = multiple % 2 := by
    rw [Nat.add_mod, Nat.mul_mod, fractions_even, Nat.mul_zero]
    omega
  rwa [parity, Nat.add_assoc, ← apply_ite (power * fractions + ·)] at nearest

end QueryTypes.Number
