import Mathlib.Data.List.Basic
import QueryTypes.Json.Reader

/-!
Quoted strings are told by their text, whatever follows.

Every character has its own escape and no escape starts another one or with a quote, so the quote
that ends a string is found and what stands before it is read in one way only.
-/

set_option autoImplicit false

namespace QueryTypes.Json

/-- The forms of an escape: a letter that names the character, its number for other control
characters, and the character itself. -/
inductive Escape (char : Char) : List Char → Prop where
  | named {letter : Char} (other : letter ≠ 'u') (means : simpleEscape? letter = some char) :
      Escape char ['\\', letter]
  | numbered (control : char.toNat < 32) :
      Escape char ['\\', 'u', '0', '0', Nat.digitChar (char.toNat / 16),
        Nat.digitChar (char.toNat % 16)]
  | plain (noEscape : char ≠ '\\') (noQuote : char ≠ '"') : Escape char [char]

private theorem escape_escapeChar (char : Char) : Escape char (escapeChar char) := by
  unfold escapeChar
  split
  · exact .named (by decide) rfl
  · exact .named (by decide) rfl
  · exact .named (by decide) rfl
  · exact .named (by decide) rfl
  · exact .named (by decide) rfl
  · exact .named (by decide) rfl
  · exact .named (by decide) rfl
  · rename_i noQuote noEscape _ _ _ _ _
    split
    · rename_i control
      exact .numbered control
    · exact .plain noEscape noQuote

theorem hexValue?_digitChar : ∀ digit < 16, hexValue? (Nat.digitChar digit) = some digit := by
  decide

theorem digitChar_inj {first second : Nat} (boundFirst : first < 16) (boundSecond : second < 16)
    (same : Nat.digitChar first = Nat.digitChar second) : first = second := by
  have read := hexValue?_digitChar first boundFirst
  rw [same, hexValue?_digitChar second boundSecond] at read
  exact (Option.some.inj read).symm

/-- An escape is told by its text, whatever follows. -/
theorem Escape.prefix_eq {first second : Char} {firstText secondText rest others : List Char}
    (ofFirst : Escape first firstText) (ofSecond : Escape second secondText)
    (same : firstText ++ rest = secondText ++ others) : first = second ∧ rest = others := by
  cases ofFirst with
  | named other means =>
      cases ofSecond with
      | named _ meansToo =>
          obtain ⟨rfl, further⟩ := List.cons.inj (List.cons.inj same).2
          exact ⟨Option.some.inj (means.symm.trans meansToo), further⟩
      | numbered _ => exact absurd (List.cons.inj (List.cons.inj same).2).1 other
      | plain noEscape _ => exact absurd (List.cons.inj same).1.symm noEscape
  | numbered control =>
      cases ofSecond with
      | named other _ => exact absurd (List.cons.inj (List.cons.inj same).2).1.symm other
      | numbered controlToo =>
          obtain ⟨high, low, further⟩ : _ ∧ _ ∧ _ := by simpa using same
          have sameHigh := digitChar_inj (by omega) (by omega) high
          have sameLow := digitChar_inj (by omega) (by omega) low
          refine ⟨Char.toNat_inj.mp ?_, further⟩
          omega
      | plain noEscape _ => exact absurd (List.cons.inj same).1.symm noEscape
  | plain noEscape _ =>
      cases ofSecond with
      | named _ _ => exact absurd (List.cons.inj same).1 noEscape
      | numbered _ => exact absurd (List.cons.inj same).1 noEscape
      | plain _ _ => exact List.cons.inj same

private theorem Escape.not_quote {char : Char} {text rest others : List Char}
    (escape : Escape char text) :
    text ++ rest ≠ '"' :: others := by
  intro same
  cases escape with
  | named _ _ => cases same
  | numbered _ => cases same
  | plain _ noQuote => exact noQuote (List.cons.inj same).1

/-- A quoted string is told by its text, whatever follows. -/
theorem quotedChars_prefix {first second rest others : List Char}
    (same : quotedChars first ++ rest = quotedChars second ++ others) :
    first = second ∧ rest = others := by
  unfold quotedChars at same
  simp only [List.cons_append, List.append_assoc, List.nil_append, List.cons.injEq,
    true_and] at same
  induction first generalizing second with
  | nil =>
      cases second with
      | nil => exact ⟨rfl, (List.cons.inj same).2⟩
      | cons start more =>
          rw [List.flatMap_cons, List.append_assoc] at same
          exact absurd same.symm (escape_escapeChar start).not_quote
  | cons start more ih =>
      rw [List.flatMap_cons, List.append_assoc] at same
      cases second with
      | nil => exact absurd same (escape_escapeChar start).not_quote
      | cons other further =>
          rw [List.flatMap_cons, List.append_assoc] at same
          obtain ⟨rfl, next⟩ :=
            (escape_escapeChar start).prefix_eq (escape_escapeChar other) same
          obtain ⟨rfl, last⟩ := ih next
          exact ⟨rfl, last⟩

end QueryTypes.Json
