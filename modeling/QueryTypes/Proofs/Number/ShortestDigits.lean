import QueryTypes.Number.Shortest
import QueryTypes.Proofs.Number.Rounding

/-!
The shortest digits of a magnitude are rounded to it.

The search goes through points that are, and on the finest grid the point below a magnitude is
nearer to it than half a unit.
-/

set_option autoImplicit false

namespace QueryTypes.Number

/-- A decimal that is rounded to a magnitude. -/
def Decimal.RoundsTo (decimal : Decimal) (code : Nat) : Prop :=
  ∃ grid : Nat, decimal.exponent = (grid : Int) - finestGrid ∧ gridCode grid decimal.digits = code

theorem Decimal.RoundsTo.unique {decimal : Decimal} {first second : Nat}
    (toFirst : decimal.RoundsTo first) (toSecond : decimal.RoundsTo second) : first = second := by
  obtain ⟨grid, exponent, same⟩ := toFirst
  obtain ⟨other, sameExponent, alike⟩ := toSecond
  have equal : grid = other := by omega
  subst equal
  exact same.symm.trans alike

private theorem gridCode_of_gridPoint? {grid code point : Nat}
    (found : gridPoint? grid code = some point) :
    gridCode grid point = code := by
  unfold gridPoint? at found
  dsimp only at found
  generalize pointBelow grid code = below, nearerAbove grid code = nearer at found
  split at found
  · rename_i both
    obtain ⟨belowReads, aboveReads⟩ := Bool.and_eq_true_iff.mp both
    rw [← Option.some.inj found]
    split
    · exact eq_of_beq aboveReads
    · exact eq_of_beq belowReads
  · split at found
    · rename_i belowReads
      rw [← Option.some.inj found]
      exact eq_of_beq belowReads
    · split at found
      · rename_i aboveReads
        rw [← Option.some.inj found]
        exact eq_of_beq aboveReads
      · cases found

theorem one_pos : 0 < one := by decide +kernel

theorem two_mul_one_le : 2 * one ≤ Nat.pow 10 finestGrid := by decide +kernel

theorem fine_pos : 0 < Nat.pow 10 finestGrid := by decide +kernel

/-- On the finest grid the point below is nearer than half a unit. -/
theorem gridCode_finest (code : Nat) : gridCode 0 (pointBelow 0 code) = code := by
  have some := one_pos
  have coarse := two_mul_one_le
  unfold gridCode pointBelow
  have single : Nat.pow 10 0 = 1 := rfl
  rw [single, Nat.mul_one, Nat.mul_one]
  generalize Nat.pow 10 finestGrid = fine at coarse ⊢
  have below := Nat.div_mul_le_self (units code * fine) one
  have above := Nat.lt_div_mul_add some (a := units code * fine)
  refine nearestCode_of_close ?_ ?_
  · omega
  · omega

theorem finestGrid_cast : (finestGrid : Int) = 324 := rfl

private theorem searchFrom_roundsTo {point? : Nat → Option Nat} {last code : Nat}
    (points : ∀ {grid point}, point? grid = some point → gridCode grid point = code)
    (finest : gridCode 0 last = code) (grid : Nat) :
    (searchFrom point? last grid).RoundsTo code := by
  induction grid with
  | zero =>
      rw [searchFrom]
      refine ⟨0, ?_, ?_⟩
      · rw [finestGrid_cast, Nat.cast_zero, zero_sub]
      · cases found : point? 0 with
        | none => exact finest
        | some point => exact points found
  | succ grid ih =>
      rw [searchFrom]
      split
      · rename_i point found
        refine ⟨grid + 1, ?_, points found⟩
        rw [finestGrid_cast, Nat.cast_succ]
      · exact ih

theorem shortest_roundsTo (code : Nat) : (shortest code).RoundsTo code :=
  searchFrom_roundsTo gridCode_of_gridPoint? (gridCode_finest code) 632

private theorem pow_above_finest (above : Nat) :
    Nat.pow 10 (above + finestGrid) = Nat.pow 10 above * Nat.pow 10 finestGrid := by
  generalize finestGrid = finest
  exact Nat.pow_add 10 above finest

/-- Only integers have shortest digits without a fraction. -/
theorem shortest_exponent_neg {code : Nat} (fraction : units code % one ≠ 0) :
    (shortest code).exponent < 0 := by
  obtain ⟨grid, exponent, rounded⟩ := shortest_roundsTo code
  by_contra whole
  obtain ⟨above, rfl⟩ : ∃ above, grid = above + finestGrid :=
    Nat.exists_eq_add_of_le' (by omega)
  have divides := one_dvd_units_nearestCode ((shortest code).digits * Nat.pow 10 above) fine_pos
  rw [Nat.mul_assoc, ← pow_above_finest] at divides
  unfold gridCode at rounded
  rw [rounded] at divides
  exact fraction (Nat.mod_eq_zero_of_dvd divides)

theorem whole_roundsTo {code : Nat} (whole : units code % one = 0) :
    Decimal.RoundsTo ⟨units code / one, 0⟩ code := by
  refine ⟨finestGrid, (sub_self _).symm, ?_⟩
  dsimp only
  unfold gridCode
  have some := fine_pos
  generalize Nat.pow 10 finestGrid = fine at some ⊢
  have exact : units code / one * fine * one = units code * fine := by
    rw [Nat.mul_right_comm, Nat.div_mul_cancel (Nat.dvd_of_mod_eq_zero whole)]
  refine nearestCode_of_close ?_ ?_
  · omega
  · omega

theorem zero_roundsTo : Decimal.RoundsTo ⟨0, 0⟩ 0 := by
  refine ⟨finestGrid, (sub_self _).symm, ?_⟩
  dsimp only
  unfold gridCode
  rw [Nat.zero_mul, nearestCode_zero]

end QueryTypes.Number
