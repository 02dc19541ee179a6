import QueryTypes.Proofs.Typing.FreshNames
import QueryTypes.Typing.Generation

/-!
What identifiers look like at their two ends.

An identifier made from a name never starts with a small letter, and a word at the end of the name
is still there at its end. So the types of results, which end in a word of their own or in a number,
meet none of the names that a generated file declares itself.
-/

set_option autoImplicit false

namespace QueryTypes.Identifier

/-! ### The first character -/

theorem isLower_iff (char : Char) :
    char.isLower = true ↔ 97 ≤ char.val.toNat ∧ char.val.toNat ≤ 122 := by
  change (decide (97 ≤ char.val) && decide (char.val ≤ 122)) = true ↔ _
  rw [Bool.and_eq_true, decide_eq_true_iff, decide_eq_true_iff]
  exact Iff.rfl

private theorem toUpper_not_isLower (char : Char) : char.toUpper.isLower = false := by
  apply Bool.eq_false_iff.mpr
  intro still
  unfold Char.toUpper at still
  split at still
  · rename_i lower
    have bounds : 97 ≤ char.val.toNat ∧ char.val.toNat ≤ 122 := lower
    obtain ⟨least, most⟩ := (isLower_iff _).mp still
    simp only [UInt32.toNat_add] at least most
    change 97 ≤ (char.val.toNat + 4294967264) % 4294967296 at least
    change (char.val.toNat + 4294967264) % 4294967296 ≤ 122 at most
    omega
  · rename_i other
    exact other ((isLower_iff char).mp still)

private theorem upperCase_first (char : Char) :
    ∃ first rest, upperCase char = first :: rest ∧ first.isLower = false := by
  unfold upperCase
  split
  all_goals first
    | exact ⟨_, _, rfl, toUpper_not_isLower char⟩
    | exact ⟨_, _, rfl, rfl⟩

private theorem normalize_first {name : String} {first : Char}
    (here : (normalize name).toList.head? = some first) : first.isLower = false := by
  unfold normalize at here
  split at here
  · rename_i char others _
    obtain ⟨upper, rest, same, notLower⟩ := upperCase_first char
    rw [String.toList_ofList, same, List.cons_append, List.head?_cons] at here
    cases here
    exact notLower
  · cases here

theorem unique_first {taken : List String} {name : String} {first : Char}
    (here : (unique taken (normalize name)).toList.head? = some first) :
    first.isLower = false := by
  rcases unique_eq taken (normalize name) with same | ⟨number, same⟩
  · rw [same] at here
    exact normalize_first here
  · rw [same, numbered_toList, List.head?_append] at here
    cases start : (normalize name).toList.head? with
    | none =>
        rw [start] at here
        cases here
        rfl
    | some char =>
        rw [start] at here
        cases here
        exact normalize_first start

/-! ### The last characters -/

/-- A word that stays as it is at the end of a name: it needs no change at its start, and none of
its characters is dropped. -/
structure Lasting (word : List Char) : Prop where
  starts : ∃ first rest, word = first :: rest ∧ upperCase first = [first] ∧ first.isDigit = false
  valid : ∀ char ∈ word, isValid char = true

theorem joinRuns_of_valid {source : List Char} (valid : ∀ char ∈ source, isValid char = true) :
    joinRuns source = source := by
  induction source with
  | nil => rw [joinRuns]
  | cons first rest ih =>
      rw [joinRuns, if_pos (valid first List.mem_cons_self),
        ih fun char present => valid char (List.mem_cons_of_mem _ present)]

theorem joinRuns_cons_valid {first : Char} (valid : isValid first = true) (rest : List Char) :
    joinRuns (first :: rest) = first :: joinRuns rest := by
  rw [joinRuns, if_pos valid]

theorem joinRuns_cons_invalid {first : Char} (invalid : isValid first = false) {rest : List Char}
    {next : Char} {later : List Char}
    (after : rest.dropWhile (fun char => !isValid char) = next :: later) :
    joinRuns (first :: rest) = upperCase next ++ joinRuns later := by
  rw [joinRuns, if_neg (by rw [invalid]; exact Bool.false_ne_true)]
  split
  · rename_i found
    rw [after] at found
    cases found
    rfl
  · rename_i found
    rw [after] at found
    cases found

theorem Lasting.dropWhile {word : List Char} (lasting : Lasting word) :
    word.dropWhile (fun char => !isValid char) = word := by
  obtain ⟨first, rest, rfl, _, _⟩ := lasting.starts
  rw [List.dropWhile_cons_of_neg]
  simp [lasting.valid first List.mem_cons_self]

theorem Lasting.joinRuns {word : List Char} (lasting : Lasting word) (source : List Char) :
    word <:+ joinRuns (source ++ word) := by
  induction source using joinRuns.induct with
  | case1 =>
      exact ⟨[], (joinRuns_of_valid lasting.valid).symm⟩
  | case2 first rest valid ih =>
      rw [List.cons_append, joinRuns_cons_valid valid]
      exact ih.trans (List.suffix_cons _ _)
  | case3 first rest invalid next later after ih =>
      have reached : (rest ++ word).dropWhile (fun char => !isValid char) =
          next :: (later ++ word) := by
        rw [List.dropWhile_append, after]
        rfl
      rw [List.cons_append, joinRuns_cons_invalid (Bool.eq_false_iff.mpr invalid) reached]
      exact ih.trans (List.suffix_append _ _)
  | case4 first rest invalid after =>
      -- The run goes up to the word, whose first character is its own upper case.
      obtain ⟨start, others, same, upper, _⟩ := lasting.starts
      have reached : (rest ++ word).dropWhile (fun char => !isValid char) = start :: others := by
        rw [List.dropWhile_append, after, List.isEmpty_nil, if_pos rfl, lasting.dropWhile, same]
      have kept : ∀ char ∈ others, isValid char = true := by
        intro char present
        apply lasting.valid
        rw [same]
        exact List.mem_cons_of_mem _ present
      rw [List.cons_append, joinRuns_cons_invalid (Bool.eq_false_iff.mpr invalid) reached, upper,
        joinRuns_of_valid kept, same]
      exact List.suffix_refl _

theorem Lasting.withoutLeadingDigit {word : List Char} (lasting : Lasting word)
    (source : List Char) :
    ∃ before, withoutLeadingDigit (source ++ word) = before ++ word := by
  cases source with
  | nil =>
      obtain ⟨first, rest, rfl, _, noDigit⟩ := lasting.starts
      refine ⟨[], ?_⟩
      rw [List.nil_append, Identifier.withoutLeadingDigit,
        if_neg (by rw [noDigit]; exact Bool.false_ne_true)]
  | cons first rest =>
      rw [List.cons_append, Identifier.withoutLeadingDigit]
      split
      · exact ⟨'_' :: rest, rfl⟩
      · exact ⟨first :: rest, rfl⟩

theorem Lasting.trimEnd {word before : List Char} (lasting : Lasting word) :
    trimEnd (before ++ word) = before ++ word := by
  obtain ⟨first, rest, same, _, _⟩ := lasting.starts
  rcases List.eq_nil_or_concat' word with empty | ⟨others, last, split⟩
  · rw [same] at empty
    cases empty
  · have valid : isValid last = true := by
      apply lasting.valid
      rw [split]
      exact List.mem_append_right _ List.mem_cons_self
    unfold Identifier.trimEnd
    rw [split, ← List.append_assoc, List.reverse_append, List.reverse_singleton,
      List.singleton_append, List.dropWhile_cons_of_neg (by simp [valid]), List.reverse_cons,
      List.reverse_reverse]

theorem Lasting.normalize {word : List Char} (lasting : Lasting word) (name : String) :
    word <:+ (normalize (name ++ String.ofList word)).toList := by
  obtain ⟨before, start⟩ := lasting.withoutLeadingDigit name.toList
  obtain ⟨kept, joined⟩ := lasting.joinRuns before
  have clean : (sanitize (name ++ String.ofList word)).toList = kept ++ word := by
    unfold sanitize
    rw [String.toList_ofList, String.toList_append, String.toList_ofList, start, ← joined,
      lasting.trimEnd]
  unfold Identifier.normalize
  rw [clean]
  cases kept with
  | nil =>
      obtain ⟨first, rest, rfl, upper, _⟩ := lasting.starts
      dsimp only [List.nil_append]
      rw [String.toList_ofList, upper]
      exact List.suffix_refl _
  | cons first rest =>
      dsimp only [List.cons_append]
      rw [String.toList_ofList, ← List.append_assoc]
      exact List.suffix_append _ _

end QueryTypes.Identifier

namespace QueryTypes.Typing

open QueryTypes.Resolution

private theorem result_lasting : Identifier.Lasting "Result".toList where
  starts := ⟨'R', "esult".toList, rfl, rfl, rfl⟩
  valid := List.all_eq_true.mp rfl

private theorem resultName_suffix (declared : QueryVariable) :
    "Result".toList <:+ (resultName declared).toList := result_lasting.normalize declared.name

def IsResultName (name : String) : Prop :=
  ∃ taken declared, name = Identifier.unique taken (resultName declared)

/-- It ends in the last letter of the word for results, or in a digit. -/
theorem IsResultName.last {name : String} (given : IsResultName name) :
    ∃ last, name.toList.getLast? = some last ∧ (last = 't' ∨ last.isDigit = true) := by
  obtain ⟨taken, declared, rfl⟩ := given
  rcases Identifier.unique_eq taken (resultName declared) with same | ⟨number, same⟩
  · obtain ⟨before, split⟩ := resultName_suffix declared
    refine ⟨'t', ?_, .inl rfl⟩
    rw [same, ← split, List.getLast?_append]
    rfl
  · rw [same, Identifier.numbered_toList, List.getLast?_append, List.getLast?_cons]
    refine ⟨_, rfl, .inr ?_⟩
    have digits : Nat.toDigits 10 number ≠ [] := Nat.toDigits_ne_nil
    rw [List.getLast?_eq_some_getLast digits]
    exact Nat.isDigit_of_mem_toDigits (Nat.zero_lt_succ 9) (Nat.le_refl 10)
      (List.getLast_mem digits)

end QueryTypes.Typing
