import Mathlib.Algebra.Order.Field.Power
import Mathlib.Tactic.NormNum
import Mathlib.Tactic.Positivity
import QueryTypes.Proofs.Number.Nearest
import QueryTypes.Proofs.Number.ReadBack

/-!
Numbers are written so that correct rounding gives them back.

A decimal stands for an exact value, and reading one takes the nearest magnitude, also where the
size alone settles which one that is. The decimal that the text of a number holds is rounded to the
number, so two numbers with one text are the same.
-/

set_option autoImplicit false

namespace QueryTypes.Number

/-! ### Decimals -/

def Decimal.value (decimal : Decimal) : ℚ := decimal.digits * 10 ^ decimal.exponent

theorem cast_pow_ten (count : Nat) : ((Nat.pow 10 count : Nat) : ℚ) = 10 ^ count := by
  rw [Nat.pow_eq, Nat.cast_pow, Nat.cast_ofNat]

theorem pow_ten_pos (count : Nat) : 0 < Nat.pow 10 count := Nat.pow_pos (Nat.zero_lt_succ 9)

theorem Decimal.RoundsTo.nearest {decimal : Decimal} {code : Nat} (rounds : decimal.RoundsTo code) :
    Nearest decimal.value code := by
  obtain ⟨grid, exponent, rounded⟩ := rounds
  have nearest : Nearest _ (gridCode grid decimal.digits) :=
    nearestCode_nearest (decimal.digits * Nat.pow 10 grid) fine_pos
  rw [rounded] at nearest
  have same : decimal.value =
      (decimal.digits * Nat.pow 10 grid : Nat) / (Nat.pow 10 finestGrid : Nat) := by
    rw [Decimal.value, exponent]
    generalize finestGrid = finest
    rw [zpow_sub₀ (by norm_num), zpow_natCast, zpow_natCast, Nat.cast_mul, mul_div_assoc,
      cast_pow_ten, cast_pow_ten]
  rw [same]
  exact nearest

theorem exists_nearest {value : ℚ} (atLeast : 0 ≤ value) : ∃ code, Nearest value code := by
  have numerator : ((value.num.toNat : Int) : ℚ) = value.num := by
    rw [Int.toNat_of_nonneg (Rat.num_nonneg.mpr atLeast)]
  have nearest := nearestCode_nearest value.num.toNat value.den_pos
  rw [← Int.cast_natCast value.num.toNat, numerator, Rat.num_div_den] at nearest
  exact ⟨_, nearest⟩

theorem lt_pow_decimalLength (value : Nat) : value < 10 ^ decimalLength value := by
  induction value using decimalLength.induct with
  | case1 =>
      rw [decimalLength, if_pos rfl]
      exact Nat.one_pos
  | case2 value some ih =>
      rw [decimalLength, if_neg some, pow_succ]
      omega

theorem pow_decimalLength_le {value : Nat} (some : value ≠ 0) :
    10 ^ (decimalLength value - 1) ≤ value := by
  induction value using decimalLength.induct with
  | case1 => exact absurd rfl some
  | case2 value _ ih =>
      rw [decimalLength, if_neg some, Nat.add_sub_cancel]
      by_cases single : value / 10 = 0
      · rw [single, decimalLength, if_pos rfl]
        omega
      · have before := ih single
        have longer : decimalLength (value / 10) ≠ 0 := by
          rw [decimalLength, if_neg single]
          omega
        obtain ⟨less, same⟩ := Nat.exists_eq_succ_of_ne_zero longer
        rw [same, Nat.succ_sub_one] at before
        rw [same, pow_succ]
        omega

theorem decimalLength_pos {value : Nat} (some : value ≠ 0) : 1 ≤ decimalLength value := by
  rw [decimalLength, if_neg some]
  omega

section Sizes

variable {digits length : Nat} (exponent : Int)

theorem decimal_lt_pow (high : digits < 10 ^ length) :
    (digits * 10 ^ exponent : ℚ) < 10 ^ ((length : Int) + exponent) := by
  rw [zpow_add₀ (by norm_num), zpow_natCast]
  refine mul_lt_mul_of_pos_right ?_ (by positivity)
  exact_mod_cast high

theorem pow_le_decimal (some : 1 ≤ length) (low : 10 ^ (length - 1) ≤ digits) :
    (10 ^ ((length : Int) + exponent - 1) : ℚ) ≤ digits * 10 ^ exponent := by
  have split : (length : Int) + exponent - 1 = (length - 1 : Nat) + exponent := by omega
  rw [split, zpow_add₀ (by norm_num), zpow_natCast]
  refine mul_le_mul_of_nonneg_right ?_ (by positivity)
  exact_mod_cast low

end Sizes

/-! ### Reading -/

private theorem nearest_zero_of_small {value : ℚ} (atLeast : 0 ≤ value)
    (small : value * 10 ^ finestGrid < 1) : Nearest value 0 := by
  have bound : (2 * one : ℚ) ≤ 10 ^ finestGrid := by
    rw [← cast_pow_ten]
    exact_mod_cast two_mul_one_le
  have first : magnitude 1 = 1 / one := by
    have single : units 1 = 1 := rfl
    rw [magnitude, single, Nat.cast_one]
  have half : 2 * value ≤ magnitude 1 := by
    rw [first, le_div_iff₀ one_cast_pos]
    nlinarith
  have none := magnitude_zero
  refine nearest_of_between ?_ ?_ fun _ => rfl
  · rw [none]
    exact atLeast
  · rw [none, zero_add, zero_add]
    exact half

theorem magnitude_codeLimit_le : magnitude codeLimit ≤ 10 ^ 309 := by
  have bound : units codeLimit ≤ 10 ^ 309 * one := by decide +kernel
  rw [magnitude, div_le_iff₀ one_cast_pos]
  exact_mod_cast bound

private theorem ofCode_of_large {negative : Bool} {code : Nat} (large : codeLimit ≤ code) :
    ofCode negative code = .infinite negative :=
  dif_neg (Nat.not_lt.mpr large)

private theorem nearest_zero_of_size {digits : Nat} {exponent : Int}
    (small : (decimalLength digits : Int) + exponent < -400) :
    Nearest (digits * 10 ^ exponent) 0 := by
  refine nearest_zero_of_small (by positivity) ?_
  calc (digits * 10 ^ exponent : ℚ) * 10 ^ finestGrid
      < 10 ^ ((decimalLength digits : Int) + exponent) * 10 ^ finestGrid :=
        mul_lt_mul_of_pos_right (decimal_lt_pow exponent (lt_pow_decimalLength digits))
          (by positivity)
    _ = 10 ^ ((decimalLength digits : Int) + exponent + finestGrid) := by
        rw [← zpow_natCast, ← zpow_add₀ (by norm_num)]
    _ ≤ 10 ^ (0 : Int) := by
        refine zpow_le_zpow_right₀ (by norm_num) ?_
        rw [finestGrid_cast]
        omega
    _ = 1 := zpow_zero 10

private theorem exists_large_of_size {digits : Nat} {exponent : Int} (some : digits ≠ 0)
    (large : 400 < (decimalLength digits : Int) + exponent) :
    ∃ code, Nearest (digits * 10 ^ exponent) code ∧ codeLimit ≤ code := by
  have atLeast : (0 : ℚ) ≤ digits * 10 ^ exponent := by positivity
  obtain ⟨code, nearest⟩ := exists_nearest atLeast
  refine ⟨code, nearest, (magnitude_nearest codeLimit).mono ?_ nearest⟩
  calc magnitude codeLimit
      ≤ 10 ^ 309 := magnitude_codeLimit_le
    _ = (10 : ℚ) ^ (309 : Int) := (zpow_natCast 10 309).symm
    _ ≤ 10 ^ ((decimalLength digits : Int) + exponent - 1) :=
        zpow_le_zpow_right₀ (by norm_num) (by omega)
    _ ≤ digits * 10 ^ exponent :=
        pow_le_decimal exponent (decimalLength_pos some) (pow_decimalLength_le some)

/-- A decimal is read with correct rounding. -/
theorem ofDecimal_nearest (negative : Bool) (digits : Nat) (exponent : Int) :
    ∃ code, Nearest (Decimal.value ⟨digits, exponent⟩) code ∧
      ofDecimal negative digits exponent = ofCode negative code := by
  unfold ofDecimal Decimal.value
  dsimp only
  split
  · rename_i tiny
    refine ⟨0, ?_, rfl⟩
    rcases tiny with rfl | small
    · rw [Nat.cast_zero, zero_mul]
      exact zero_nearest
    · exact nearest_zero_of_size small
  · rename_i sized
    obtain ⟨some, _⟩ := not_or.mp sized
    split
    · rename_i large
      obtain ⟨code, nearest, beyond⟩ := exists_large_of_size some large
      exact ⟨code, nearest, (ofCode_of_large beyond).symm⟩
    · split
      · rename_i fraction
        have nearest := nearestCode_nearest digits (pow_ten_pos (-exponent).toNat)
        have value : (digits * 10 ^ exponent : ℚ) = digits / 10 ^ (-exponent).toNat := by
          rw [← zpow_natCast, Int.toNat_of_nonneg (by omega), zpow_neg, div_inv_eq_mul]
        rw [cast_pow_ten, ← value] at nearest
        exact ⟨_, nearest, rfl⟩
      · rename_i whole
        have nearest := nearestCode_nearest (digits * Nat.pow 10 exponent.toNat) Nat.one_pos
        have value : (digits * 10 ^ exponent : ℚ) = digits * 10 ^ exponent.toNat := by
          rw [← zpow_natCast, Int.toNat_of_nonneg (by omega)]
        rw [Nat.cast_mul, cast_pow_ten, Nat.cast_one, div_one, ← value] at nearest
        exact ⟨_, nearest, rfl⟩

/-- A text read with correct rounding: the decimal that it holds stands for an exact value, and the
number is nearest to it, or infinite if the value is out of range. -/
def CorrectlyRead (text : String) (number : Number) : Prop :=
  ∃ decimal code, readDecimal? (readSign text.toList).2 = some decimal ∧
    Nearest decimal.value code ∧ number = ofCode (readSign text.toList).1 code

theorem CorrectlyRead.unique {text : String} {first second : Number}
    (reads : CorrectlyRead text first) (also : CorrectlyRead text second) : first = second := by
  obtain ⟨decimal, code, held, nearest, rfl⟩ := reads
  obtain ⟨other, otherCode, alsoHeld, alsoNearest, rfl⟩ := also
  rw [held, Option.some.injEq] at alsoHeld
  subst alsoHeld
  rw [nearest.unique alsoNearest]

private theorem read?_of_decimal {text : String} {decimal : Decimal}
    (held : readDecimal? (readSign text.toList).2 = some decimal) :
    read? text = some (ofDecimal (readSign text.toList).1 decimal.digits decimal.exponent) := by
  unfold read?
  generalize readSign text.toList = signed at held ⊢
  obtain ⟨negative, unsigned⟩ := signed
  dsimp only at held ⊢
  have word {name : String} (same : String.ofList unsigned = name) :
      readDecimal? name.toList = some decimal := by
    rw [← same, String.toList_ofList, held]
  split
  · rename_i same
    cases word same
  · rename_i same
    cases word same
  · rw [held]
    rfl

/-- Reading rounds correctly. -/
theorem read?_correctlyRead {text : String} {decimal : Decimal}
    (held : readDecimal? (readSign text.toList).2 = some decimal) :
    ∃ number, read? text = some number ∧ CorrectlyRead text number := by
  obtain ⟨code, nearest, read⟩ :=
    ofDecimal_nearest (readSign text.toList).1 decimal.digits decimal.exponent
  exact ⟨_, read?_of_decimal held, decimal, code, held, nearest, read⟩

/-! ### Texts -/

inductive Meaning where
  | undefined
  | infinite (negative : Bool)
  | exact (value : ℚ)

def meaning : Number → Meaning
  | .nan => .undefined
  | .infinite negative => .infinite negative
  | .finite negative code =>
      .exact (if negative then -magnitude code.val else magnitude code.val)

private theorem neg_magnitude_eq_iff (first second : Nat) :
    -magnitude first = magnitude second ↔ first = 0 ∧ second = 0 := by
  have injective := magnitude_strictMono.injective
  constructor
  · intro same
    have firstLow := magnitude_strictMono.monotone (Nat.zero_le first)
    have secondLow := magnitude_strictMono.monotone (Nat.zero_le second)
    rw [magnitude_zero] at firstLow secondLow
    have firstZero : magnitude first = magnitude 0 := by rw [magnitude_zero]; linarith
    have secondZero : magnitude second = magnitude 0 := by rw [magnitude_zero]; linarith
    exact ⟨injective firstZero, injective secondZero⟩
  · rintro ⟨rfl, rfl⟩
    rw [magnitude_zero, neg_zero]

private theorem signed_eq_iff (negative otherNegative : Bool) (code other : Nat) :
    (if negative then -magnitude code else magnitude code) =
        (if otherNegative then -magnitude other else magnitude other) ↔
      code = other ∧ (negative = otherNegative ∨ code = 0) := by
  have injective := magnitude_strictMono.injective
  cases negative <;> cases otherNegative
  · simp [injective.eq_iff]
  · rw [if_neg Bool.false_ne_true, if_pos rfl, eq_comm, neg_magnitude_eq_iff,
      or_iff_right Bool.false_ne_true]
    omega
  · rw [if_neg Bool.false_ne_true, if_pos rfl, neg_magnitude_eq_iff,
      or_iff_right Bool.false_ne_true.symm]
    omega
  · simp [injective.eq_iff]

/-- Numbers are the same if they stand for the same, whatever the sign of a zero is. -/
theorem same_iff_meaning_eq (first second : Number) :
    first.same second = true ↔ first.meaning = second.meaning := by
  cases first <;> cases second <;> simp [same, meaning, signed_eq_iff, Fin.ext_iff]

/-- No number that is not finite is written with the characters of finite ones. -/
theorem isFinite_of_numeral {number : Number} (numeral : Numeral number.text.toList) :
    number.isFinite = true := by
  cases number with
  | nan => exact absurd (numeral 'N' (by decide)) (by decide)
  | infinite negative =>
      cases negative with
      | false => exact absurd (numeral 'I' (by decide)) (by decide)
      | true => exact absurd (numeral 'I' (by decide)) (by decide)
  | finite negative code => rfl

private theorem isFinite_congr_text {first second : Number} (texts : first.text = second.text)
    (finiteFirst : first.isFinite = true) : second.isFinite = true := by
  refine isFinite_of_numeral ?_
  rw [← texts]
  exact text_numeral finiteFirst

private theorem text_eq_of_same {first second : Number} (alike : first.same second = true) :
    first.text = second.text := by
  cases first with
  | nan => cases second <;> first | rfl | cases alike
  | infinite negative =>
      cases second with
      | infinite other => rw [eq_of_beq (show (negative == other) = true from alike)]
      | nan => cases alike
      | finite _ _ => cases alike
  | finite negative code =>
      cases second with
      | nan => cases alike
      | infinite _ => cases alike
      | finite other otherCode =>
          obtain ⟨codes, signs⟩ := Bool.and_eq_true_iff.mp alike
          rw [← eq_of_beq codes]
          rcases Bool.or_eq_true_iff.mp signs with sign | zero
          · rw [eq_of_beq sign]
          · unfold text
            dsimp only
            rw [if_pos (eq_of_beq zero), if_pos (eq_of_beq zero)]

private theorem text_eq_iff_same (first second : Number) :
    first.text = second.text ↔ first.same second = true := by
  refine ⟨fun texts => ?_, text_eq_of_same⟩
  by_cases finiteFirst : first.isFinite = true
  · exact same_of_text_eq finiteFirst (isFinite_congr_text texts finiteFirst) texts
  · have finiteSecond : ¬ second.isFinite = true := fun finiteSecond =>
      finiteFirst (isFinite_congr_text texts.symm finiteSecond)
    cases first with
    | finite _ _ => exact absurd rfl finiteFirst
    | nan =>
        cases second with
        | nan => rfl
        | infinite negative => cases negative <;> exact absurd texts (by decide)
        | finite _ _ => exact absurd rfl finiteSecond
    | infinite negative =>
        cases second with
        | nan => cases negative <;> exact absurd texts (by decide)
        | infinite other =>
            cases negative <;> cases other <;> first | rfl | exact absurd texts (by decide)
        | finite _ _ => exact absurd rfl finiteSecond

/-- The text of a number tells the number. Two numbers have one text if and only if they are the
same, which is to stand for the same. The text of a finite number is a decimal, and reading it with
correct rounding gives the same number. -/
theorem text_faithful :
    (∀ first second : Number, (first.text = second.text ↔ first.same second = true) ∧
      (first.same second = true ↔ first.meaning = second.meaning)) ∧
    ∀ (negative : Bool) (code : Fin codeLimit),
      ∃ back, read? (finite negative code).text = some back ∧
        (∀ number, CorrectlyRead (finite negative code).text number ↔ number = back) ∧
        back.same (finite negative code) = true := by
  refine ⟨fun first second => ⟨text_eq_iff_same first second, same_iff_meaning_eq first second⟩, ?_⟩
  intro negative code
  obtain ⟨unsigned, decimal, signed, held, rounds⟩ := text_reads negative code
  have stands : readDecimal? (readSign (finite negative code).text.toList).2 = some decimal := by
    rw [signed]
    exact held
  obtain ⟨back, read, correct⟩ := read?_correctlyRead stands
  refine ⟨back, read, fun number => ⟨fun also => also.unique correct, ?_⟩, ?_⟩
  · rintro rfl
    exact correct
  · have exact : CorrectlyRead (finite negative code).text
        (finite (negative && code.val != 0) code) :=
      ⟨decimal, code.val, stands, rounds.nearest, by rw [signed, ofCode, dif_pos code.isLt]⟩
    rw [correct.unique exact]
    unfold same
    dsimp only
    cases negative <;> cases zero : code.val == 0 <;> simp [bne, zero]

end QueryTypes.Number
