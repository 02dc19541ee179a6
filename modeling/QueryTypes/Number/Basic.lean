/-!
Numbers of a script: signed binary fractions with 53 significant bits, two infinities and one
undefined value.

A finite magnitude is held by its code. Codes ascend with the magnitudes they stand for, the
low 52 bits are the fraction field and the rest is the exponent field, so rounding up past a
power of two needs no case of its own. Nothing here goes through machine arithmetic: every
operation is stated on exact integers and rounded once.
-/

set_option autoImplicit false

namespace QueryTypes

def Number.codeLimit : Nat := 2047 * Nat.pow 2 52

/-- A number literal's value; both zeros are kept apart, as their bits are. -/
inductive Number where
  | nan
  | infinite (negative : Bool)
  | finite (negative : Bool) (code : Fin Number.codeLimit)
deriving DecidableEq

namespace Number

/-- The magnitude of a code as a multiple of the smallest positive magnitude, `2 ^ -1074`. -/
def units (code : Nat) : Nat :=
  if code < Nat.pow 2 52 then code
  else (code % Nat.pow 2 52 + Nat.pow 2 52) * Nat.pow 2 (code / Nat.pow 2 52 - 1)

/-- How many units make one. -/
def one : Nat := Nat.pow 2 1074

/-- The code nearest to `numerator / denominator`, a tie going to the even code. A result from
`codeLimit` upwards stands for an overflow. -/
def nearestCode (numerator denominator : Nat) : Nat :=
  let scaled := numerator * one
  let dropped := (scaled / denominator).log2 - 52
  let divisor := denominator * Nat.pow 2 dropped
  let kept := scaled / divisor
  let twiceRest := 2 * (scaled % divisor)
  let rounded :=
    if divisor < twiceRest ∨ (divisor = twiceRest ∧ kept % 2 = 1) then kept + 1 else kept
  dropped * Nat.pow 2 52 + rounded

def ofCode (negative : Bool) (code : Nat) : Number :=
  if inRange : code < codeLimit then .finite negative ⟨code, inRange⟩ else .infinite negative

def ofRatio (negative : Bool) (numerator denominator : Nat) : Number :=
  ofCode negative (nearestCode numerator denominator)

def isFinite : Number → Bool
  | .finite _ _ => true
  | _ => false

/-- The undefined value equals itself and the two zeros are equal. -/
def same : Number → Number → Bool
  | .nan, .nan => true
  | .infinite left, .infinite right => left == right
  | .finite leftSign left, .finite rightSign right =>
      left == right && (leftSign == rightSign || left.val == 0)
  | _, _ => false

def bits : Number → Nat
  | .nan => codeLimit + Nat.pow 2 51
  | .infinite negative => (if negative then Nat.pow 2 63 else 0) + codeLimit
  | .finite negative code => (if negative then Nat.pow 2 63 else 0) + code.val

end Number

end QueryTypes
