import QueryTypes.Number.Text

/-!
Numerals of a JSON text and the numbers they stand for.

A numeral keeps its digits, so that an integer of any size can be told from a fraction. Its
value as a number is *not* always the nearest one: digits are gathered while they fit into 64
bits and the result is scaled once by a power of ten, each of the two steps being rounded.
-/

set_option autoImplicit false

namespace QueryTypes

/-- A numeral without superfluous zeros before the point. An exponent that is written as zero
is still an exponent: the numeral is then no integer. -/
structure Numeral where
  negative : Bool
  whole : Nat
  fraction : List (Fin 10)
  exponent : Option Int
deriving DecidableEq

namespace Numeral

def ofNat (value : Nat) : Numeral := ⟨false, value, [], none⟩

def chars (numeral : Numeral) : List Char :=
  let sign := if numeral.negative then ['-'] else []
  let fraction := match numeral.fraction with
    | [] => []
    | digits => '.' :: digits.map fun digit => Nat.digitChar digit.val
  let exponent := match numeral.exponent with
    | none => []
    | some power => 'e' :: (toString power).toList
  sign ++ (toString numeral.whole).toList ++ fraction ++ exponent

def largestSignificand : Nat := Nat.pow 2 64 - 1

/-- An integer's leading digits that fit, and how many digits were left out after them. -/
def leadingDigits (value : Nat) : Nat × Nat :=
  if value ≤ largestSignificand then (value, 0)
  else
    let (significand, dropped) := leadingDigits (value / 10)
    (significand, dropped + 1)
termination_by value
decreasing_by simp only [largestSignificand] at *; omega

def appendDigits (significand : Nat) : List (Fin 10) → Nat × Nat
  | [] => (significand, 0)
  | digit :: digits =>
      let longer := 10 * significand + digit.val
      if longer ≤ largestSignificand then
        let (result, appended) := appendDigits longer digits
        (result, appended + 1)
      else (significand, 0)

def largestPower : Nat := 308

def powerCode (exponent : Nat) : Nat := Number.nearestCode (Nat.pow 10 exponent) 1

def scaleDown (code exponent : Nat) : Nat :=
  if exponent ≤ largestPower then
    Number.nearestCode (Number.units code) (Number.units (powerCode exponent))
  else if code = 0 then 0
  else
    scaleDown (Number.nearestCode (Number.units code) (Number.units (powerCode largestPower)))
      (exponent - largestPower)
termination_by exponent
decreasing_by simp only [largestPower] at *; omega

/-- Multiplies by a power of ten; a power past the largest takes any magnitude but zero out of
range. -/
def scaleUp (code exponent : Nat) : Nat :=
  if exponent ≤ largestPower then
    Number.nearestCode (Number.units code * Number.units (powerCode exponent))
      (Number.one * Number.one)
  else if code = 0 then 0
  else Number.codeLimit

def toNumber? (numeral : Numeral) : Option Number :=
  let (leading, dropped) := leadingDigits numeral.whole
  let (significand, appended) := appendDigits leading numeral.fraction
  let exponent : Int := numeral.exponent.getD 0 + dropped - appended
  let code := Number.nearestCode significand 1
  let scaled :=
    if exponent < 0 then scaleDown code (-exponent).toNat else scaleUp code exponent.toNat
  if scaled < Number.codeLimit then some (Number.ofCode numeral.negative scaled) else none

/-- The value of a numeral that is an integer of at most 64 bits without a sign. -/
def toNat? (numeral : Numeral) : Option Nat :=
  if numeral.negative || !numeral.fraction.isEmpty || numeral.exponent.isSome
      || decide (largestSignificand < numeral.whole) then none
  else some numeral.whole

end Numeral

end QueryTypes
