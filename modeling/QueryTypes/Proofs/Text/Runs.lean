import Mathlib.Data.List.TakeWhile

/-!
Runs of characters of one kind, and what may follow them.
-/

set_option autoImplicit false

namespace QueryTypes

def EndsRun (kind : Char → Bool) (text : List Char) : Prop :=
  ∀ start ∈ text.head?, kind start = false

section Runs

variable {kind : Char → Bool} {first second rest others : List Char}

theorem endsRun_nil : EndsRun kind [] := nofun

theorem takeWhile_run (all : ∀ char ∈ first, kind char = true) (ends : EndsRun kind rest) :
    (first ++ rest).takeWhile kind = first := by
  rw [List.takeWhile_append_of_pos all]
  cases rest with
  | nil => rw [List.takeWhile_nil, List.append_nil]
  | cons start more => simp [ends start rfl]

theorem dropWhile_run (all : ∀ char ∈ first, kind char = true) (ends : EndsRun kind rest) :
    (first ++ rest).dropWhile kind = rest := by
  rw [List.dropWhile_append_of_pos all]
  cases rest with
  | nil => rfl
  | cons start more => simp [ends start rfl]

theorem run_prefix (allFirst : ∀ char ∈ first, kind char = true)
    (allSecond : ∀ char ∈ second, kind char = true) (endsRest : EndsRun kind rest)
    (endsOthers : EndsRun kind others) (same : first ++ rest = second ++ others) :
    first = second ∧ rest = others := by
  have run := congrArg (List.takeWhile kind) same
  rw [takeWhile_run allFirst endsRest, takeWhile_run allSecond endsOthers] at run
  subst run
  exact ⟨rfl, List.append_cancel_left same⟩

end Runs

end QueryTypes
