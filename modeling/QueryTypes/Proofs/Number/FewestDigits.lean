import QueryTypes.Proofs.Number.CorrectReading

/-!
The shortest digits of a magnitude are as few as possible.

On every grid the points around a magnitude are rounded to it if any point is. So no coarser grid
than the one where the search stops has such a point. Fewer digits on a finer grid would have a
power of ten between them and the shortest ones, which lies on a coarser grid.
-/

set_option autoImplicit false

namespace QueryTypes.Number

/-! ### Points of grids -/

private theorem gridCode_nearest (grid point : Nat) :
    Nearest (Decimal.value ⟨point, (grid : Int) - finestGrid⟩) (gridCode grid point) :=
  Decimal.RoundsTo.nearest ⟨grid, rfl, rfl⟩

private theorem gridValue_eq (grid point : Nat) :
    Decimal.value ⟨point, (grid : Int) - finestGrid⟩ =
      point * Nat.pow 10 grid / Nat.pow 10 finestGrid := by
  rw [Decimal.value]
  generalize finestGrid = finest
  rw [zpow_sub₀ (by norm_num), zpow_natCast, zpow_natCast, cast_pow_ten, cast_pow_ten,
    mul_div_assoc]

private theorem cast_pow_ten_pos (count : Nat) : (0 : ℚ) < (Nat.pow 10 count : Nat) :=
  Nat.cast_pos.mpr (pow_ten_pos count)

private theorem gridValue_mono (grid : Nat) {first second : Nat} (le : first ≤ second) :
    Decimal.value ⟨first, (grid : Int) - finestGrid⟩ ≤
      Decimal.value ⟨second, (grid : Int) - finestGrid⟩ := by
  have cast : (first : ℚ) ≤ second := Nat.cast_le.mpr le
  exact mul_le_mul_of_nonneg_right cast (by positivity)

/-- A magnitude lies between the point below it and the next one. -/
theorem pointBelow_bounds (grid code : Nat) :
    Decimal.value ⟨pointBelow grid code, (grid : Int) - finestGrid⟩ ≤ magnitude code ∧
      magnitude code < Decimal.value ⟨pointBelow grid code + 1, (grid : Int) - finestGrid⟩ := by
  have some : 0 < one * Nat.pow 10 grid := Nat.mul_pos one_pos (pow_ten_pos grid)
  have below := Nat.div_mul_le_self (units code * Nat.pow 10 finestGrid) (one * Nat.pow 10 grid)
  have above := Nat.lt_div_mul_add some (a := units code * Nat.pow 10 finestGrid)
  rw [← Nat.succ_mul] at above
  have finePos := cast_pow_ten_pos finestGrid
  have onePos := one_cast_pos
  rw [gridValue_eq, gridValue_eq, magnitude]
  unfold pointBelow
  generalize units code * Nat.pow 10 finestGrid / (one * Nat.pow 10 grid) = point at below above ⊢
  generalize Nat.pow 10 finestGrid = fine at finePos below above ⊢
  generalize Nat.pow 10 grid = step at below above ⊢
  generalize one = single at onePos below above ⊢
  generalize units code = amount at below above ⊢
  constructor
  · rw [div_le_div_iff₀ finePos onePos]
    exact_mod_cast (by linarith : point * step * single ≤ amount * fine)
  · rw [div_lt_div_iff₀ onePos finePos]
    exact_mod_cast (by linarith : amount * fine < (point + 1) * step * single)

/-- What lies between two values that are rounded to one magnitude is rounded to it too. -/
theorem Nearest.between {low value high : ℚ} {code : Nat} (lower : Nearest low code)
    (upper : Nearest high code) (aboveLow : low ≤ value) (belowHigh : value ≤ high)
    (atLeast : 0 ≤ value) : Nearest value code := by
  obtain ⟨other, nearest⟩ := exists_nearest atLeast
  have same : code = other :=
    Nat.le_antisymm (lower.mono aboveLow nearest) (nearest.mono belowHigh upper)
  rw [same]
  exact nearest

private theorem decimal_value_nonneg (decimal : Decimal) : 0 ≤ decimal.value := by
  unfold Decimal.value
  positivity

/-- Without a point next to the magnitude that is rounded to it the grid has none at all. -/
theorem gridCode_ne_of_none {grid code : Nat} (none : gridPoint? grid code = none) (point : Nat) :
    gridCode grid point ≠ code := by
  intro rounded
  have nearest := gridCode_nearest grid point
  rw [rounded] at nearest
  obtain ⟨below, above⟩ := pointBelow_bounds grid code
  unfold gridPoint? at none
  dsimp only at none
  rcases Nat.lt_or_ge (pointBelow grid code) point with more | less
  · have next :
        Nearest (Decimal.value ⟨pointBelow grid code + 1, (grid : Int) - finestGrid⟩) code :=
      (magnitude_nearest code).between nearest above.le (gridValue_mono grid more)
        (decimal_value_nonneg _)
    have reads := (gridCode_nearest grid (pointBelow grid code + 1)).unique next
    rw [reads, beq_self_eq_true, Bool.and_true] at none
    split at none
    · cases none
    · simp at none
  · have next : Nearest (Decimal.value ⟨pointBelow grid code, (grid : Int) - finestGrid⟩) code :=
      nearest.between (magnitude_nearest code) (gridValue_mono grid less) below
        (decimal_value_nonneg _)
    have reads := (gridCode_nearest grid (pointBelow grid code)).unique next
    rw [reads, beq_self_eq_true, Bool.true_and] at none
    split at none <;> simp at none

/-! ### The search -/

/-- The search passes over the grids without a point. -/
theorem searchFrom_coarsest (point? : Nat → Option Nat) (last grid : Nat) :
    ∃ stopped ≤ grid,
      (searchFrom point? last grid).exponent = (stopped : Int) - finestGrid ∧
        ∀ other, stopped < other → other ≤ grid → point? other = none := by
  induction grid with
  | zero => exact ⟨0, Nat.le_refl 0, rfl, fun other more less => by omega⟩
  | succ grid ih =>
      rw [searchFrom]
      split
      · exact ⟨grid + 1, Nat.le_refl _, rfl, fun other more less => by omega⟩
      · rename_i none
        obtain ⟨stopped, within, exponent, passed⟩ := ih
        refine ⟨stopped, by omega, exponent, fun other more less => ?_⟩
        rcases Nat.lt_or_eq_of_le less with earlier | here
        · exact passed other more (Nat.le_of_lt_succ earlier)
        · rw [here]
          exact none

section Shortest

variable {code : Nat}

/-- No coarser grid has a point that is rounded to the magnitude. -/
theorem shortest_coarsest (inRange : code < codeLimit) {digits : Nat} (some : digits ≠ 0)
    {exponent : Int} (coarser : (shortest code).exponent < exponent) :
    ¬ Nearest (Decimal.value ⟨digits, exponent⟩) code := by
  intro nearest
  obtain ⟨stopped, _, stops, passed⟩ :=
    searchFrom_coarsest (fun grid => gridPoint? grid code) (pointBelow 0 code) 632
  rw [← shortest] at stops
  have finest := finestGrid_cast
  by_cases within : exponent ≤ 308
  · obtain ⟨grid, same⟩ := Int.eq_ofNat_of_zero_le (a := exponent + finestGrid) (by omega)
    have place : exponent = (grid : Int) - finestGrid := by omega
    have none := passed grid (by omega) (by omega)
    rw [place] at nearest
    exact gridCode_ne_of_none none digits ((gridCode_nearest grid digits).unique nearest)
  · have large : magnitude codeLimit ≤ Decimal.value ⟨digits, exponent⟩ := by
      have one : (1 : ℚ) ≤ digits := Nat.one_le_cast.mpr (Nat.one_le_iff_ne_zero.mpr some)
      calc magnitude codeLimit
          ≤ 10 ^ 309 := magnitude_codeLimit_le
        _ = (10 : ℚ) ^ (309 : Int) := (zpow_natCast 10 309).symm
        _ ≤ 10 ^ exponent := zpow_le_zpow_right₀ (by norm_num) (by omega)
        _ ≤ digits * 10 ^ exponent := le_mul_of_one_le_left (by positivity) one
    have beyond := (magnitude_nearest codeLimit).mono large nearest
    omega

private theorem shortest_nearest (code : Nat) : Nearest (shortest code).value code :=
  (shortest_roundsTo code).nearest

private theorem shortest_digits_ne_zero (some : code ≠ 0) : (shortest code).digits ≠ 0 := by
  intro none
  have nearest := shortest_nearest code
  rw [Decimal.value, none, Nat.cast_zero, zero_mul] at nearest
  exact some (nearest.unique zero_nearest)

end Shortest

/-! ### As few digits as possible -/

/-- So many digits, of which so many stand before the point, that are rounded to a magnitude. -/
structure Written (code : Nat) (point : Int) (length digits : Nat) : Prop where
  some : 1 ≤ length
  low : 10 ^ (length - 1) ≤ digits
  high : digits < 10 ^ length
  rounds : Nearest (digits * 10 ^ (point - length)) code

structure Fewest (code : Nat) (point : Int) (length digits : Nat) : Prop
    extends Written code point length digits where
  fewest : ∀ {otherPoint : Int} {otherLength otherDigits : Nat},
    Written code otherPoint otherLength otherDigits → length ≤ otherLength

namespace Written

variable {code length digits : Nat} {point : Int}

theorem digits_ne_zero (written : Written code point length digits) : digits ≠ 0 := by
  have low := written.low
  have positive : 0 < 10 ^ (length - 1) := pow_ten_pos (length - 1)
  omega

theorem value_lt (written : Written code point length digits) :
    (digits * 10 ^ (point - length) : ℚ) < 10 ^ point := by
  have less := decimal_lt_pow (point - length) written.high
  rwa [add_sub_cancel] at less

theorem le_value (written : Written code point length digits) :
    (10 ^ (point - 1) : ℚ) ≤ digits * 10 ^ (point - length) := by
  have atLeast := pow_le_decimal (point - length) written.some written.low
  rwa [add_sub_cancel] at atLeast

end Written

theorem shortest_fewest {code : Nat} (some : code ≠ 0) (inRange : code < codeLimit) :
    Fewest code ((decimalLength (shortest code).digits : Int) + (shortest code).exponent)
      (decimalLength (shortest code).digits) (shortest code).digits := by
  have given := shortest_digits_ne_zero some
  have nearest := shortest_nearest code
  have coarsest := @shortest_coarsest code inRange
  generalize shortest code = decimal at given nearest coarsest ⊢
  obtain ⟨digits, exponent⟩ := decimal
  dsimp only at given coarsest ⊢
  have positive := decimalLength_pos given
  have place : (decimalLength digits : Int) + exponent - decimalLength digits = exponent := by omega
  have written : Written code ((decimalLength digits : Int) + exponent) (decimalLength digits)
      digits := by
    refine ⟨positive, pow_decimalLength_le given, lt_pow_decimalLength digits, ?_⟩
    rw [place]
    exact nearest
  refine ⟨written, ?_⟩
  intro otherPoint otherLength otherDigits other
  by_contra fewer
  rcases Int.lt_or_le exponent (otherPoint - otherLength) with coarser | finer
  · exact coarsest other.digits_ne_zero coarser other.rounds
  · -- The power of ten between the two is a single digit on a coarser grid.
    have otherSome := other.some
    have between : Nearest (10 ^ ((decimalLength digits : Int) + exponent - 1)) code := by
      refine other.rounds.between written.rounds ?_ written.le_value (by positivity)
      refine other.value_lt.le.trans (zpow_le_zpow_right₀ (by norm_num) ?_)
      omega
    have single : Decimal.value ⟨1, (decimalLength digits : Int) + exponent - 1⟩ =
        10 ^ ((decimalLength digits : Int) + exponent - 1) := by
      rw [Decimal.value, Nat.cast_one, one_mul]
    rw [← single] at between
    exact coarsest Nat.one_ne_zero (by omega) between

end QueryTypes.Number
