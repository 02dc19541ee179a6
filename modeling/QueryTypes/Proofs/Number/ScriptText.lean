import QueryTypes.Proofs.Number.FewestDigits

/-!
The texts of numbers against the ones that a script's own conversion gives.

The conversion lays out as few digits as are rounded to the number: padded with zeros up to the
units, with a point among or before them, or with an exponent. Texts with a point or an exponent
are laid out just so. An integer is written out exactly, which is the same only if its digits are
zeros from where the fewest digits end.
-/

set_option autoImplicit false

namespace QueryTypes.Number

/-! ### The conversion -/

def layout (point : Int) (digits : List Char) : List Char :=
  if -6 < point ∧ point ≤ 21 then
    if digits.length ≤ point then digits ++ List.replicate (point - digits.length).toNat '0'
    else if 0 < point then digits.take point.toNat ++ '.' :: digits.drop point.toNat
    else '0' :: '.' :: (List.replicate (-point).toNat '0' ++ digits)
  else
    digits.take 1 ++ (if digits.length = 1 then [] else '.' :: digits.drop 1) ++
      'e' :: (if point < 0 then '-' else '+') :: Nat.toDigits 10 (point - 1).natAbs

/-- The characters are a layout of as few digits as are rounded to the magnitude. -/
def LaidOut (code : Nat) (text : List Char) : Prop :=
  ∃ point length digits,
    Fewest code point length digits ∧ text = layout point (Nat.toDigits 10 digits)

/-- The text is one that the conversion of the number to a string may give. -/
def ScriptText : Number → String → Prop
  | .nan, text => text = "NaN"
  | .infinite negative, text => text = if negative then "-Infinity" else "Infinity"
  | .finite negative code, text =>
      if code.val = 0 then text = "0"
      else ∃ unsigned, LaidOut code.val unsigned ∧
        text.toList = if negative then '-' :: unsigned else unsigned

/-- An integer below `10 ^ 21` that takes more digits than are needed to be rounded to it. -/
structure Overlong (code whole : Nat) : Prop where
  value : magnitude code = whole
  some : 0 < whole
  small : whole < 10 ^ 21
  longer : ∀ {point : Int} {length digits : Nat}, Fewest code point length digits →
    (digits * 10 ^ (point - length) : ℚ) ≠ whole

/-! ### Counting digits -/

section Digits

variable {code length digits : Nat} {point : Int}

private theorem Written.length_toDigits (written : Written code point length digits) :
    (Nat.toDigits 10 digits).length = length := by
  have some := written.some
  have atMost := (Nat.length_toDigits_le_iff (b := 10) (by omega) some).mpr written.high
  refine Nat.le_antisymm atMost ?_
  by_contra less
  have low := written.low
  by_cases single : length - 1 = 0
  · have given := List.length_pos_iff.mpr (Nat.toDigits_ne_nil (n := digits) (b := 10))
    omega
  · have high := (Nat.length_toDigits_le_iff (b := 10) (n := digits) (by omega)
      (Nat.pos_of_ne_zero single)).mp (by omega)
    omega

private theorem toDigits_shift (some : 0 < digits) (zeros : Nat) :
    Nat.toDigits 10 digits ++ List.replicate zeros '0' = Nat.toDigits 10 (digits * 10 ^ zeros) := by
  induction zeros with
  | zero => simp
  | succ zeros ih =>
      have positive : 0 < digits * 10 ^ zeros := Nat.mul_pos some (pow_ten_pos zeros)
      have last := Nat.toDigits_append_toDigits (b := 10) (d := 0) (by omega) positive (by omega)
      rw [List.replicate_succ', ← List.append_assoc, ih, ← Nat.toDigits_zero 10, last, pow_succ]
      congr 1
      ring

private theorem toDigits_injective : Function.Injective (Nat.toDigits 10) := by
  intro first second same
  rw [← digitsValue_toDigits first, same, digitsValue_toDigits]

/-! ### Boundaries -/

/-- Whether so many digits stand before the point can be told from the code, since the power of
ten itself is a single digit. -/
theorem Fewest.lt_point_iff {place : Int} {limit before : Nat}
    (fewest : Fewest code point length digits) (atLimit : Nearest (10 ^ place) limit)
    (nine : Nearest (9 * 10 ^ (place - 1)) before) (less : before < limit) :
    place < point ↔ limit ≤ code := by
  constructor
  · intro beyond
    refine atLimit.mono ?_ fewest.rounds
    exact (zpow_le_zpow_right₀ (by norm_num) (by omega)).trans fewest.le_value
  · intro reached
    by_contra within
    -- Then the power of ten is rounded to the same magnitude, and no single digit below it is.
    have value := fewest.value_lt.le.trans
      (zpow_le_zpow_right₀ (by norm_num : (1 : ℚ) ≤ 10) (Int.not_lt.mp within))
    have here : limit = code := Nat.le_antisymm reached (fewest.rounds.mono value atLimit)
    subst here
    have power : Written limit (place + 1) 1 1 := by
      refine ⟨le_rfl, le_rfl, by omega, ?_⟩
      rw [Nat.cast_one, one_mul, Nat.cast_one, add_sub_cancel_right]
      exact atLimit
    have single : length = 1 := Nat.le_antisymm (fewest.fewest power) fewest.some
    subst single
    have nines : (digits : ℚ) ≤ 9 := by
      have high := fewest.high
      exact_mod_cast (by omega : digits ≤ 9)
    have below : limit ≤ before := by
      refine fewest.rounds.mono ?_ nine
      rw [Nat.cast_one]
      exact mul_le_mul nines (zpow_le_zpow_right₀ (by norm_num) (by omega)) (by positivity)
        (by norm_num)
    omega

private theorem magnitude_exponentFrom : magnitude exponentFrom = 10 ^ 21 := by
  have exact : units exponentFrom = 10 ^ 21 * one := by decide +kernel
  rw [magnitude, exact, Nat.cast_mul, mul_div_cancel_right₀ _ one_cast_pos.ne']
  norm_num

private theorem Fewest.exponentFrom_le_iff (fewest : Fewest code point length digits) :
    21 < point ↔ exponentFrom ≤ code := by
  have power : (10 ^ (21 : Int) : ℚ) = (Nat.pow 10 21 : Nat) / (1 : Nat) := by norm_num
  have nines : (9 * 10 ^ (21 - 1 : Int) : ℚ) = (9 * Nat.pow 10 20 : Nat) / (1 : Nat) := by norm_num
  have less : nearestCode (9 * Nat.pow 10 20) 1 < exponentFrom := by decide +kernel
  refine fewest.lt_point_iff ?_ ?_ less
  · rw [power]
    exact nearestCode_nearest (Nat.pow 10 21) Nat.one_pos
  · rw [nines]
    exact nearestCode_nearest (9 * Nat.pow 10 20) Nat.one_pos

private theorem Fewest.exponentBelow_le_iff (fewest : Fewest code point length digits) :
    -6 < point ↔ exponentBelow ≤ code := by
  have power : (10 ^ (-6 : Int) : ℚ) = (1 : Nat) / (Nat.pow 10 6 : Nat) := by norm_num
  have nines : (9 * 10 ^ (-6 - 1 : Int) : ℚ) = (9 : Nat) / (Nat.pow 10 7 : Nat) := by norm_num
  have less : nearestCode 9 (Nat.pow 10 7) < exponentBelow := by decide +kernel
  refine fewest.lt_point_iff ?_ ?_ less
  · rw [power]
    exact nearestCode_nearest 1 (pow_ten_pos 6)
  · rw [nines]
    exact nearestCode_nearest 9 (pow_ten_pos 7)

end Digits

/-! ### Layouts -/

private theorem signed_toList (power : Int) :
    (if power < 0 then toString power else "+" ++ toString power).toList =
      (if power < 0 then '-' else '+') :: Nat.toDigits 10 power.natAbs := by
  cases power with
  | ofNat value =>
      have positive : ¬ Int.ofNat value < 0 := Int.not_lt.mpr (Int.natCast_nonneg value)
      rw [if_neg positive, if_neg positive, String.toList_append, toString_ofNat]
      rfl
  | negSucc value =>
      rw [if_pos (Int.negSucc_lt_zero value), if_pos (Int.negSucc_lt_zero value), toString_negSucc]
      rfl

private theorem scientific_layout (decimal : Decimal) {point : Int}
    (place : point = (Nat.toDigits 10 decimal.digits).length + decimal.exponent)
    (outside : ¬ (-6 < point ∧ point ≤ 21)) :
    decimal.scientific.toList = layout point (Nat.toDigits 10 decimal.digits) := by
  have given : Nat.toDigits 10 decimal.digits ≠ [] := Nat.toDigits_ne_nil
  unfold Decimal.scientific layout
  dsimp only
  rw [toList_toString, if_neg outside]
  generalize Nat.toDigits 10 decimal.digits = laid at place given ⊢
  have power : decimal.exponent + (laid.length : Int) - 1 = point - 1 := by omega
  have sign : point < 0 ↔ point - 1 < 0 := by omega
  rw [power, String.toList_append, String.toList_append, signed_toList]
  simp only [sign]
  have mark : "e".toList = ['e'] := rfl
  cases laid with
  | nil => exact absurd rfl given
  | cons first others =>
      cases others with
      | nil => simp [mark]
      | cons second more => simp [mark]

private theorem positional_layout {decimal : Decimal} {point : Int}
    (place : point = (Nat.toDigits 10 decimal.digits).length + decimal.exponent)
    (fraction : decimal.exponent < 0) (inside : -6 < point ∧ point ≤ 21) :
    decimal.positional.toList = layout point (Nat.toDigits 10 decimal.digits) := by
  have short : ¬ (Nat.toDigits 10 decimal.digits).length ≤ point := by omega
  unfold Decimal.positional layout
  dsimp only
  rw [toList_toString, if_pos inside, if_neg short, ← place]
  split <;> rw [String.toList_ofList]

section Written

variable {code length digits whole : Nat} {point : Int}

private theorem layout_padded (written : Written code point length digits) (inside : point ≤ 21)
    {zeros : Nat} (place : point = length + zeros) :
    layout point (Nat.toDigits 10 digits) = Nat.toDigits 10 (digits * 10 ^ zeros) := by
  have some := written.some
  have positive := Nat.pos_of_ne_zero written.digits_ne_zero
  have padding : (point - length).toNat = zeros := by omega
  unfold layout
  rw [written.length_toDigits, if_pos (by omega), if_pos (by omega), padding,
    toDigits_shift positive]

/-- Every other layout has a character that is no digit. -/
theorem mark_mem_layout (written : Written code point length digits)
    (other : ¬ (point ≤ 21 ∧ length ≤ point)) :
    ∃ mark ∈ layout point (Nat.toDigits 10 digits), mark.isDigit = false := by
  unfold layout
  rw [written.length_toDigits]
  split
  · rw [if_neg (by omega)]
    split
    · exact ⟨'.', by simp, rfl⟩
    · exact ⟨'.', by simp, rfl⟩
  · exact ⟨'e', by simp, rfl⟩

/-! ### Integers -/

private theorem magnitude_eq_iff : magnitude code = whole ↔ units code = whole * one := by
  rw [magnitude, div_eq_iff one_cast_pos.ne', ← Nat.cast_mul, Nat.cast_inj]

private theorem written_whole (some : 0 < whole) (exact : magnitude code = whole) :
    Written code (decimalLength whole) (decimalLength whole) whole := by
  refine ⟨decimalLength_pos some.ne', pow_decimalLength_le some.ne', lt_pow_decimalLength whole, ?_⟩
  rw [sub_self, zpow_zero, mul_one, ← exact]
  exact magnitude_nearest code

/-- The digits of an integer that is rounded to a magnitude all stand before the point. -/
theorem Written.decimalLength_le (written : Written code point length digits) (some : 0 < whole)
    (value : (digits * 10 ^ (point - length) : ℚ) = whole) : decimalLength whole ≤ point := by
  have given := decimalLength_pos some.ne'
  have low : (10 ^ (decimalLength whole - 1) : ℚ) ≤ whole := by
    exact_mod_cast pow_decimalLength_le some.ne'
  have high := low.trans_lt (value.symm.trans_lt written.value_lt)
  rw [← zpow_natCast, zpow_lt_zpow_iff_right₀ (by norm_num)] at high
  omega

private theorem padded_value (digits zeros : Nat) (place : point = length + zeros) :
    (digits * 10 ^ (point - length) : ℚ) = (digits * 10 ^ zeros : Nat) := by
  have power : point - length = zeros := by omega
  rw [power, zpow_natCast]
  push_cast
  rfl

private theorem Fewest.layout_eq_iff (fewest : Fewest code point length digits) (some : 0 < whole)
    (small : whole < 10 ^ 21) (exact : magnitude code = whole) :
    layout point (Nat.toDigits 10 digits) = Nat.toDigits 10 whole ↔
      (digits * 10 ^ (point - length) : ℚ) = whole := by
  constructor
  · intro same
    by_cases padded : point ≤ 21 ∧ length ≤ point
    · obtain ⟨zeros, place⟩ := Int.le.dest padded.2
      rw [layout_padded fewest.toWritten padded.1 place.symm] at same
      rw [padded_value digits zeros place.symm, toDigits_injective same]
    · obtain ⟨mark, present, other⟩ := mark_mem_layout fewest.toWritten padded
      rw [same] at present
      rw [isDigit_of_mem_toDigits whole mark present] at other
      cases other
  · intro value
    have inside : point ≤ 21 := by
      have low := fewest.le_value.trans_lt
        (value.trans_lt (by exact_mod_cast small : (whole : ℚ) < 10 ^ 21))
      rw [← zpow_natCast, zpow_lt_zpow_iff_right₀ (by norm_num)] at low
      omega
    have before := fewest.decimalLength_le some value
    have shorter := fewest.fewest (written_whole some exact)
    obtain ⟨zeros, place⟩ := Int.le.dest ((Nat.cast_le.mpr shorter).trans before)
    rw [layout_padded fewest.toWritten inside place.symm]
    rw [padded_value digits zeros place.symm, Nat.cast_inj] at value
    rw [value]

/-- An integer is laid out as it is written, unless it is overlong. -/
theorem laidOut_toDigits_iff (some : 0 < whole) (small : whole < 10 ^ 21)
    (exact : magnitude code = whole) :
    LaidOut code (Nat.toDigits 10 whole) ↔ ¬ Overlong code whole := by
  constructor
  · rintro ⟨point, length, digits, fewest, same⟩ overlong
    exact overlong.longer fewest ((fewest.layout_eq_iff some small exact).mp same.symm)
  · intro short
    by_contra other
    refine short ⟨exact, some, small, fun {point length digits} fewest value => other ?_⟩
    exact ⟨point, length, digits, fewest, ((fewest.layout_eq_iff some small exact).mpr value).symm⟩

/-- An integer that is no multiple of ten is overlong if fewer digits are rounded to it. -/
theorem overlong_of_shorter (exact : magnitude code = whole) (small : whole < 10 ^ 21)
    (last : whole % 10 ≠ 0) (shorter : Written code point length digits)
    (fewer : length < decimalLength whole) : Overlong code whole := by
  have some : 0 < whole := by omega
  refine ⟨exact, some, small, fun {otherPoint otherLength otherDigits} fewest value => last ?_⟩
  have before := fewest.decimalLength_le some value
  have atMost := fewest.fewest shorter
  obtain ⟨zeros, place⟩ : ∃ zeros : Nat, otherPoint = otherLength + (zeros + 1 : Nat) := by
    obtain ⟨zeros, place⟩ := Int.le.dest (by omega : (otherLength + 1 : Int) ≤ otherPoint)
    exact ⟨zeros, by omega⟩
  rw [padded_value otherDigits (zeros + 1) place, Nat.cast_inj] at value
  rw [← value, pow_succ, ← Nat.mul_assoc, Nat.mul_mod_left]

end Written

namespace Overlong

variable {code whole : Nat}

theorem units_eq (overlong : Overlong code whole) : units code = whole * one :=
  magnitude_eq_iff.mp overlong.value

private theorem code_ne_zero (overlong : Overlong code whole) : code ≠ 0 := by
  rintro rfl
  have value := overlong.value
  have positive := overlong.some
  rw [magnitude_zero, eq_comm, Nat.cast_eq_zero] at value
  omega

theorem plain (overlong : Overlong code whole) :
    ¬ (exponentFrom ≤ code ∨ code < exponentBelow) := by
  have positive := overlong.some
  have below : code < exponentFrom := by
    refine magnitude_strictMono.lt_iff_lt.mp ?_
    rw [overlong.value, magnitude_exponentFrom]
    exact_mod_cast overlong.small
  have above : exponentBelow ≤ code := by
    refine (nearestCode_nearest 1 (pow_ten_pos 6)).mono ?_ (magnitude_nearest code)
    have atLeast : (1 : ℚ) ≤ whole := Nat.one_le_cast.mpr positive
    rw [overlong.value]
    refine le_trans ?_ atLeast
    norm_num
  omega

/-- An overlong integer is written out. -/
theorem magnitudeText_eq (overlong : Overlong code whole) :
    magnitudeText code = toString whole := by
  unfold magnitudeText
  rw [if_neg overlong.plain, overlong.units_eq, Nat.mul_mod_left, if_pos rfl,
    Nat.mul_div_cancel _ one_pos]

end Overlong

/-! ### Small integers -/

private theorem magnitude_nearestCode_whole {whole : Nat} (small : whole < 2 ^ 53) :
    magnitude (nearestCode whole 1) = whole := by
  obtain ⟨top, single⟩ := exists_one_eq_pow
  have fine : roundingPower (whole * 1) 1 ≤ top := by
    refine roundingPower_le ?_
    rw [Nat.div_one, Nat.mul_one, single]
    exact Nat.mul_lt_mul_of_pos_right small (Nat.two_pow_pos top)
  have exact := units_nearestCode_whole Nat.one_pos single fine
  rw [Nat.mul_one] at exact
  exact magnitude_eq_iff.mpr exact

/-- No other integer is rounded to an integer below `2 ^ 53`. -/
theorem whole_eq_of_nearest {code whole other : Nat} (exact : magnitude code = whole)
    (small : whole < 2 ^ 53) (nearest : Nearest other code) : other = whole := by
  rcases Nat.lt_or_ge other (2 ^ 53) with less | more
  · have same := magnitude_nearest (nearestCode other 1)
    rw [magnitude_nearestCode_whole less] at same
    rw [nearest.unique same, magnitude_nearestCode_whole less, Nat.cast_inj] at exact
    exact exact
  · have limit : magnitude (nearestCode (2 ^ 53) 1) = (2 ^ 53 : Nat) :=
      magnitude_eq_iff.mpr (by decide +kernel)
    have atLimit := magnitude_nearest (nearestCode (2 ^ 53) 1)
    rw [limit] at atLimit
    have beyond := magnitude_strictMono.monotone (atLimit.mono (Nat.cast_le.mpr more) nearest)
    rw [limit, exact, Nat.cast_le] at beyond
    omega

/-- The shortest digits of an integer have no fraction. -/
theorem shortest_exponent_nonneg {code whole : Nat} (inRange : code < codeLimit)
    (some : 0 < whole) (exact : magnitude code = whole) : 0 ≤ (shortest code).exponent := by
  by_contra fraction
  refine shortest_coarsest inRange some.ne' (Int.not_le.mp fraction) ?_
  rw [Decimal.value, zpow_zero, mul_one, ← exact]
  exact magnitude_nearest code

theorem Overlong.large {code whole : Nat} (overlong : Overlong code whole)
    (inRange : code < codeLimit) : 2 ^ 53 ≤ whole := by
  by_contra small
  have positive := overlong.some
  have fewest := shortest_fewest overlong.code_ne_zero inRange
  have nearest := fewest.rounds
  obtain ⟨zeros, power⟩ := Int.eq_ofNat_of_zero_le
    (shortest_exponent_nonneg inRange positive overlong.value)
  have value := padded_value (shortest code).digits zeros
    (congrArg ((decimalLength (shortest code).digits : Int) + ·) power)
  rw [value] at nearest
  refine overlong.longer fewest ?_
  rw [value, whole_eq_of_nearest overlong.value (Nat.not_le.mp small) nearest]

/-! ### Texts -/

section Texts

variable {code : Nat}

private theorem exists_laidOut (some : code ≠ 0) (inRange : code < codeLimit) :
    ∃ text, LaidOut code text :=
  ⟨_, _, _, _, shortest_fewest some inRange, rfl⟩

private theorem magnitude_of_integer (integer : units code % one = 0) :
    magnitude code = (units code / one : Nat) :=
  magnitude_eq_iff.mpr (Nat.div_mul_cancel (Nat.dvd_of_mod_eq_zero integer)).symm

private theorem laidOut_integer_iff (some : code ≠ 0) (below : code < exponentFrom)
    (integer : units code % one = 0) :
    LaidOut code (Nat.toDigits 10 (units code / one)) ↔ ∀ whole, ¬ Overlong code whole := by
  have value := magnitude_of_integer integer
  generalize units code / one = whole at value ⊢
  have positive : 0 < whole := by
    refine Nat.pos_of_ne_zero fun none => ?_
    rw [none, Nat.cast_zero, ← magnitude_zero] at value
    exact some (magnitude_strictMono.injective value)
  have small : whole < 10 ^ 21 := by
    have less := magnitude_strictMono below
    rw [value, magnitude_exponentFrom] at less
    exact_mod_cast less
  rw [laidOut_toDigits_iff positive small value]
  constructor
  · intro short other overlong
    have same := overlong.value
    rw [value, Nat.cast_inj] at same
    rw [same] at short
    exact short overlong
  · intro short
    exact short whole

/-- A magnitude has the text of a layout, unless it is an overlong integer. -/
theorem magnitudeText_laidOut_iff (some : code ≠ 0) (inRange : code < codeLimit) :
    LaidOut code (magnitudeText code).toList ↔ ∀ whole, ¬ Overlong code whole := by
  have fewest := shortest_fewest some inRange
  have place : (decimalLength (shortest code).digits : Int) + (shortest code).exponent =
      (Nat.toDigits 10 (shortest code).digits).length + (shortest code).exponent := by
    rw [fewest.length_toDigits]
  have upper := fewest.exponentFrom_le_iff
  have lower := fewest.exponentBelow_le_iff
  unfold magnitudeText
  by_cases outside : exponentFrom ≤ code ∨ code < exponentBelow
  · rw [if_pos outside]
    refine iff_of_true ?_ fun whole overlong => overlong.plain outside
    exact ⟨_, _, _, fewest, scientific_layout _ place (by omega)⟩
  · rw [if_neg outside]
    by_cases integer : units code % one = 0
    · rw [if_pos integer, toList_toString]
      exact laidOut_integer_iff some (by omega) integer
    · rw [if_neg integer]
      refine iff_of_true ?_ fun whole overlong => integer ?_
      · have fraction := shortest_exponent_neg integer
        exact ⟨_, _, _, fewest, positional_layout place fraction (by omega)⟩
      · rw [overlong.units_eq, Nat.mul_mod_left]

private theorem scriptText_finite_iff {negative : Bool} {code : Fin codeLimit} (some : code.val ≠ 0)
    (unsigned : String) :
    ScriptText (finite negative code) (if negative then "-" ++ unsigned else unsigned) ↔
      LaidOut code.val unsigned.toList := by
  have minus : ("-" ++ unsigned).toList = '-' :: unsigned.toList := String.toList_append
  unfold ScriptText
  dsimp only
  rw [if_neg some]
  cases negative <;> simp [minus]

end Texts

private theorem text_script_iff (negative : Bool) (code : Fin codeLimit) :
    ScriptText (finite negative code) (finite negative code).text ↔
      ∀ whole, ¬ Overlong code.val whole := by
  by_cases zero : code.val = 0
  · refine iff_of_true ?_ fun whole overlong => overlong.code_ne_zero zero
    unfold ScriptText text
    dsimp only
    rw [if_pos zero, if_pos zero]
  · rw [← magnitudeText_laidOut_iff zero code.isLt, ← scriptText_finite_iff zero]
    unfold text
    dsimp only
    rw [if_neg zero]

/-- The text of a number is the one that a script's conversion gives, unless the number is an
overlong integer. Those begin at `2 ^ 53` and are written out in full. -/
theorem text_script_iff_not_overlong (number : Number) :
    (number.ScriptText number.text ↔
      ∀ negative code whole, number = .finite negative code → ¬ Overlong code.val whole) ∧
    ∀ negative code whole, number = .finite negative code → Overlong code.val whole →
      2 ^ 53 ≤ whole ∧
      number.text = (if negative then "-" else "") ++ toString whole ∧
      ∃ other, number.ScriptText other := by
  constructor
  · cases number with
    | nan => exact iff_of_true rfl nofun
    | infinite negative => exact iff_of_true rfl nofun
    | finite negative code =>
        rw [text_script_iff]
        constructor
        · rintro short _ _ whole ⟨⟩
          exact short whole
        · intro short whole
          exact short negative code whole rfl
  · rintro negative code whole rfl overlong
    have some := overlong.code_ne_zero
    refine ⟨overlong.large code.isLt, ?_, ?_⟩
    · unfold text
      dsimp only
      rw [if_neg some, overlong.magnitudeText_eq]
      cases negative <;> rfl
    · obtain ⟨unsigned, laidOut⟩ := exists_laidOut some code.isLt
      refine ⟨if negative then "-" ++ String.ofList unsigned else String.ofList unsigned, ?_⟩
      rw [scriptText_finite_iff some, String.toList_ofList]
      exact laidOut

/-- A power of two with nineteen digits, of which sixteen are enough. -/
theorem nineteen_digits_overlong :
    (ofRatio false (2 ^ 60) 1).text = "1152921504606846976" ∧
      ¬ ScriptText (ofRatio false (2 ^ 60) 1) "1152921504606846976" := by
  have code : ofRatio false (2 ^ 60) 1 =
      .finite false ⟨1083 * Nat.pow 2 52, by decide +kernel⟩ := by decide +kernel
  have exact : magnitude (1083 * Nat.pow 2 52) = (2 ^ 60 : Nat) :=
    magnitude_eq_iff.mpr (by decide +kernel)
  have sixteen : Written (1083 * Nat.pow 2 52) 19 16 1152921504606847 := by
    have rounds := nearestCode_nearest 1152921504606847000 Nat.one_pos
    have same : nearestCode 1152921504606847000 1 = 1083 * Nat.pow 2 52 := by decide +kernel
    refine ⟨by decide, by decide, by decide, ?_⟩
    rw [← same]
    convert rounds using 1
    norm_num
  have overlong : Overlong (1083 * Nat.pow 2 52) (2 ^ 60) :=
    overlong_of_shorter exact (by decide) (by decide) sixteen (by decide +kernel)
  have written : (ofRatio false (2 ^ 60) 1).text = "1152921504606846976" := by decide +kernel
  refine ⟨written, ?_⟩
  rw [← written, code]
  intro script
  exact (text_script_iff false _).mp script _ overlong

end QueryTypes.Number
