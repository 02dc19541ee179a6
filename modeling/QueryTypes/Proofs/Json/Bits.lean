import Mathlib.Data.List.Basic
import QueryTypes.Proofs.Json.Quoted

/-!
A finite number is told by the text of its bits.

The digits are read back from the left, each one after those before it have been multiplied by
sixteen. Zeros in front then leave nothing behind, so the padding need not be found.
-/

set_option autoImplicit false

namespace QueryTypes

/-- The bit of the sign stands above the codes of all magnitudes. -/
theorem Number.codeLimit_le_signBit : codeLimit ≤ Nat.pow 2 63 := by decide

/-- Finite numbers with the same bits are the same; this includes the sign of a zero. -/
theorem Number.eq_of_bits_eq {first second : Number} (finite : first.isFinite = true)
    (finiteToo : second.isFinite = true) (same : first.bits = second.bits) : first = second := by
  cases first with
  | nan => cases finite
  | infinite negative => cases finite
  | finite negative code =>
      cases second with
      | nan => cases finiteToo
      | infinite other => cases finiteToo
      | finite other codeToo =>
          have bound := code.isLt
          have boundToo := codeToo.isLt
          have sign := codeLimit_le_signBit
          unfold bits at same
          generalize Nat.pow 2 63 = signBit at sign same
          have signs : negative = other := by
            cases negative <;> cases other <;> simp at same ⊢ <;> omega
          subst signs
          rw [Fin.ext (Nat.add_left_cancel same)]

namespace Json

def hexadecimal (digits : List Char) : Nat :=
  digits.foldl (fun value digit => value * 16 + (hexValue? digit).getD 0) 0

private theorem hexadecimal_concat (digits : List Char) {digit : Nat} (bound : digit < 16) :
    hexadecimal (digits ++ [Nat.digitChar digit]) = hexadecimal digits * 16 + digit := by
  rw [hexadecimal, List.foldl_concat, hexValue?_digitChar digit bound]
  rfl

private theorem hexadecimal_toDigits (value : Nat) :
    hexadecimal (Nat.toDigits 16 value) = value := by
  induction value using Nat.strongRecOn with
  | ind value ih =>
      by_cases single : value < 16
      · rw [Nat.toDigits_of_lt_base single]
        exact (hexadecimal_concat [] single).trans (Nat.zero_add value)
      · have several : 16 ≤ value := Nat.le_of_not_lt single
        rw [Nat.toDigits_of_base_le (by omega) several,
          hexadecimal_concat _ (Nat.mod_lt _ (by omega)), ih (value / 16) (by omega)]
        omega

private theorem hexadecimal_padded (count : Nat) (digits : List Char) :
    hexadecimal (List.replicate count '0' ++ digits) = hexadecimal digits := by
  induction count with
  | zero => rfl
  | succ count ih => exact ih

/-- A number that is finite has a text, and no other number has the same one. -/
theorem bits_eq_iff {first : Number} (finite : first.isFinite = true) (second : Number) :
    bits first = bits second ↔ first = second := by
  refine ⟨fun same => ?_, congrArg bits⟩
  unfold bits at same
  rw [if_pos finite] at same
  by_cases finiteToo : second.isFinite = true
  · rw [if_pos finiteToo] at same
    have digits := String.ofList_injective (Json.text.inj same)
    rw [List.append_assoc, List.append_assoc] at digits
    have value := congrArg hexadecimal (List.append_cancel_left digits)
    rw [hexadecimal_padded, hexadecimal_padded, hexadecimal_toDigits, hexadecimal_toDigits] at value
    exact Number.eq_of_bits_eq finite finiteToo value
  · rw [if_neg finiteToo] at same
    cases same

end Json

end QueryTypes
