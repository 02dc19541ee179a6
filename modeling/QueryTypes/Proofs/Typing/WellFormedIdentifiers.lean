import QueryTypes.Proofs.Typing.IdentifierPass

/-!
Which names become identifiers.

What is made of a name is an identifier unless one of three things happens: nothing is left, a digit
that stood behind invalid characters comes first, or the name ends in the character whose upper case
has an apostrophe before its letter.
-/

set_option autoImplicit false

namespace QueryTypes.Identifier

/-- An identifier of ASCII characters. -/
structure WellFormed (name : String) : Prop where
  nonempty : name.toList ≠ []
  valid : ∀ char ∈ name.toList, isValid char = true
  start : ∀ first ∈ name.toList.head?, first.isDigit = false

private theorem wellFormed_iff_of_cons {name : String} {first : Char} {rest : List Char}
    (chars : name.toList = first :: rest) :
    WellFormed name ↔
      isValid first = true ∧ first.isDigit = false ∧ ∀ char ∈ rest, isValid char = true := by
  constructor
  · rintro ⟨_, valid, start⟩
    rw [chars] at valid start
    obtain ⟨validFirst, validRest⟩ := List.forall_mem_cons.mp valid
    exact ⟨validFirst, start first rfl, validRest⟩
  · rintro ⟨validFirst, noDigit, validRest⟩
    refine ⟨?_, ?_, ?_⟩
    · rw [chars]
      exact List.cons_ne_nil _ _
    · rw [chars]
      exact List.forall_mem_cons.mpr ⟨validFirst, validRest⟩
    · rw [chars]
      rintro _ ⟨⟩
      exact noDigit

private theorem trimEnd_of_valid {source : List Char}
    (valid : ∀ char ∈ source, isValid char = true) :
    trimEnd source = source := by
  refine List.rdropWhile_eq_self_iff.mpr fun some invalid => ?_
  rw [valid _ (List.getLast_mem some)] at invalid
  cases invalid

/-- What is an identifier already stays as it is. -/
theorem sanitize_of_wellFormed {name : String} (formed : WellFormed name) :
    sanitize name = name := by
  have start : withoutLeadingDigit name.toList = name.toList := by
    cases chars : name.toList with
    | nil => rfl
    | cons first rest =>
        obtain ⟨_, noDigit, _⟩ := (wellFormed_iff_of_cons chars).mp formed
        rw [withoutLeadingDigit, noDigit, if_neg Bool.false_ne_true]
  rw [sanitize, start, joinRuns_of_valid formed.valid, trimEnd_of_valid formed.valid,
    String.ofList_toList]

/-! ### What stands at the two ends of a name -/

/-- The first valid character is a digit, and invalid ones stand before it. -/
def DigitFirst (source : List Char) : Prop :=
  ∃ run digit rest, source = run ++ digit :: rest ∧ run ≠ [] ∧
    (∀ char ∈ run, isValid char = false) ∧ digit.isDigit = true

/-- The last character but for line feeds is invalid, and so is the one before it. -/
def EndsRaised (source : List Char) (last : Char) : Prop :=
  ∃ before char feeds, source = before ++ char :: last :: feeds ∧ isValid char = false ∧
    isValid last = false ∧ last ≠ '\n' ∧ ∀ feed ∈ feeds, feed = '\n'

section Ends

variable {source : List Char} {last : Char}

private theorem raisedLast?_eq_some_iff :
    raisedLast? source = some last ↔ EndsRaised source last := by
  constructor
  · intro found
    unfold raisedLast? at found
    split at found
    · rename_i raised char more after
      cases found
      have feeds := List.takeWhile_append_dropWhile (p := (· == '\n')) (l := endRun source)
      have stops := List.head?_dropWhile_not (· == '\n') (endRun source)
      rw [after] at feeds stops
      have inside : ∀ char ∈ endRun source, isValid char = false := by
        intro char present
        simpa using List.mem_takeWhile_imp present
      rw [← feeds] at inside
      simp only [List.forall_mem_append, List.forall_mem_cons] at inside
      obtain ⟨_, lastInvalid, charInvalid, _⟩ := inside
      obtain ⟨earlier, whole⟩ : endRun source <+: source.reverse := List.takeWhile_prefix _
      have mirrored := congrArg List.reverse whole
      rw [← feeds, List.reverse_reverse, List.append_assoc] at mirrored
      refine ⟨earlier.reverse ++ more.reverse, char,
        ((endRun source).takeWhile (· == '\n')).reverse, ?_, charInvalid, lastInvalid, ?_, ?_⟩
      · exact mirrored.symm.trans (by simp)
      · simpa using stops
      · intro feed present
        simpa using List.mem_takeWhile_imp (List.mem_reverse.mp present)
    · cases found
  · rintro ⟨before, char, feeds, rfl, invalid, lastInvalid, other, allFeeds⟩
    have feedsInvalid : ∀ feed ∈ feeds.reverse, (!isValid feed) = true := by
      intro feed present
      rw [allFeeds feed (List.mem_reverse.mp present)]
      rfl
    have run : endRun (before ++ char :: last :: feeds) =
        feeds.reverse ++ last :: char :: endRun before := by
      unfold endRun
      rw [List.reverse_append, List.reverse_cons, List.reverse_cons, List.append_assoc,
        List.append_assoc, List.takeWhile_append_of_pos feedsInvalid]
      simp [invalid, lastInvalid]
    unfold raisedLast?
    rw [run, List.dropWhile_append_of_pos fun feed present => by
      rw [allFeeds feed (List.mem_reverse.mp present)]; rfl,
      List.dropWhile_cons_of_neg (by simpa using other)]

theorem DigitFirst.append (first : DigitFirst source) {rest : List Char} :
    DigitFirst (source ++ rest) := by
  obtain ⟨run, digit, later, rfl, nonempty, invalid, isDigit⟩ := first
  exact ⟨run, digit, later ++ rest, by rw [List.append_assoc]; rfl, nonempty, invalid, isDigit⟩

/-- A valid character that is no digit is not passed over. -/
theorem DigitFirst.of_append {char : Char} {rest : List Char} (valid : isValid char = true)
    (noDigit : char.isDigit = false) (first : DigitFirst (source ++ char :: rest)) :
    DigitFirst source := by
  obtain ⟨run, digit, later, whole, nonempty, invalid, isDigit⟩ := first
  rcases List.append_eq_append_iff.mp whole with ⟨more, rfl, same⟩ | ⟨more, rfl, same⟩
  · cases more with
    | nil =>
        cases same
        rw [noDigit] at isDigit
        cases isDigit
    | cons start others =>
        cases same
        have refused := invalid char (List.mem_append_right _ List.mem_cons_self)
        rw [valid] at refused
        cases refused
  · cases more with
    | nil =>
        cases same
        rw [noDigit] at isDigit
        cases isDigit
    | cons start others =>
        cases same
        exact ⟨run, digit, others, rfl, nonempty, invalid, isDigit⟩

private theorem not_endsRaised_of_valid_last {char : Char} (valid : isValid char = true)
    (before : List Char) : ¬ EndsRaised (before ++ [char]) last := by
  rw [← raisedLast?_eq_some_iff, raisedLast?_append valid]
  exact nofun

/-- The first valid character of a text whose leading digit is replaced is a digit only if it is
not the first character. -/
theorem digitFirst_iff :
    (∃ first ∈ (withoutLeadingDigit source).find? isValid, first.isDigit = true) ↔
      DigitFirst source := by
  constructor
  · rintro ⟨digit, found, isDigit⟩
    cases source with
    | nil => cases found
    | cons first rest =>
        rw [withoutLeadingDigit] at found
        split at found
        · cases found
          cases isDigit
        · rename_i noDigit
          obtain ⟨_, run, later, whole, invalid⟩ := List.find?_eq_some_iff_append.mp found
          refine ⟨run, digit, later, whole, ?_, fun char present => ?_, isDigit⟩
          · rintro rfl
            cases whole
            exact noDigit isDigit
          · simpa using invalid char present
  · rintro ⟨run, digit, rest, rfl, nonempty, invalid, isDigit⟩
    obtain ⟨first, others, rfl⟩ := List.exists_cons_of_ne_nil nonempty
    have noDigit : ¬ first.isDigit = true := by
      intro isDigit
      have valid := isValid_of_isDigit isDigit
      rw [invalid first List.mem_cons_self] at valid
      cases valid
    refine ⟨digit, List.find?_eq_some_iff_append.mpr
      ⟨isValid_of_isDigit isDigit, first :: others, rest, ?_, fun char present => ?_⟩, isDigit⟩
    · rw [List.cons_append, withoutLeadingDigit, if_neg noDigit]
    · rw [invalid char present]
      rfl

private theorem valid_withoutLeadingDigit_iff :
    (∃ char ∈ withoutLeadingDigit source, isValid char = true) ↔
      ∃ char ∈ source, isValid char = true := by
  cases source with
  | nil => rfl
  | cons first rest =>
      rw [withoutLeadingDigit]
      split
      · rename_i digit
        exact iff_of_true ⟨'_', List.mem_cons_self, rfl⟩
          ⟨first, List.mem_cons_self, isValid_of_isDigit digit⟩
      · rfl

/-- The upper case of an invalid character has letters only, or it has none, or an apostrophe before
its letter. -/
theorem trimEnd_upperCase (invalid : isValid last = false) :
    last = 'ŉ' ∨ ∀ char ∈ trimEnd (upperCase last), char.isUpper = true := by
  unfold upperCase
  split
  case h_18 =>
    refine .inr ?_
    rw [toUpper_of_invalid invalid, trimEnd_eq_nil_iff.mpr (List.forall_mem_singleton.mpr invalid)]
    exact List.forall_mem_nil _
  case h_3 => exact .inl rfl
  all_goals exact .inr (List.all_eq_true.mp (by decide))

theorem EndsRaised.invalid (ends : EndsRaised source last) : isValid last = false := by
  obtain ⟨_, _, _, _, _, invalid, _⟩ := ends
  exact invalid

private theorem ending_eq_of_endsRaised (ends : EndsRaised source last) :
    ending source = trimEnd (upperCase last) := by
  rw [ending, raisedLast?_eq_some_iff.mpr ends]

private theorem endsRaised_of_ending_ne_nil (left : ending source ≠ []) :
    ∃ last, EndsRaised source last := by
  unfold ending at left
  split at left
  · rename_i last found
    exact ⟨last, raisedLast?_eq_some_iff.mp found⟩
  · exact absurd rfl left

end Ends

/-! ### Names that become identifiers -/

structure Usable (name : String) : Prop where
  left : (∃ char ∈ name.toList, isValid char = true) ∨
    ∃ last, EndsRaised name.toList last ∧ ∃ char ∈ upperCase last, isValid char = true
  start : ¬ DigitFirst name.toList
  apostrophe : ¬ EndsRaised name.toList 'ŉ'

section Names

variable {name : String}

private theorem joined_ne_nil_iff :
    joined false (withoutLeadingDigit name.toList) ≠ [] ↔
      ∃ char ∈ name.toList, isValid char = true := by
  rw [ne_eq, joined_eq_nil_iff, ← valid_withoutLeadingDigit_iff]
  simp

private theorem ending_ne_nil_iff :
    ending name.toList ≠ [] ↔
      ∃ last, EndsRaised name.toList last ∧ ∃ char ∈ upperCase last, isValid char = true := by
  have letters (last : Char) : trimEnd (upperCase last) ≠ [] ↔
      ∃ char ∈ upperCase last, isValid char = true := by
    rw [ne_eq, trimEnd_eq_nil_iff]
    simp
  constructor
  · intro left
    obtain ⟨last, ends⟩ := endsRaised_of_ending_ne_nil left
    rw [ending_eq_of_endsRaised ends] at left
    exact ⟨last, ends, (letters last).mp left⟩
  · rintro ⟨last, ends, spelled⟩
    rw [ending_eq_of_endsRaised ends]
    exact (letters last).mpr spelled

/-- What the end of a name leaves are capital letters, unless it leaves an apostrophe. -/
theorem ending_isUpper (plain : ¬ EndsRaised name.toList 'ŉ') :
    ∀ char ∈ ending name.toList, char.isUpper = true := by
  intro char present
  obtain ⟨last, ends⟩ := endsRaised_of_ending_ne_nil (List.ne_nil_of_mem present)
  rw [ending_eq_of_endsRaised ends] at present
  rcases trimEnd_upperCase ends.invalid with same | capitals
  · subst same
    exact absurd ends plain
  · exact capitals char present

private theorem ending_of_apostrophe (ends : EndsRaised name.toList 'ŉ') :
    ending name.toList = ['ʼ', 'N'] := by
  rw [ending_eq_of_endsRaised ends]
  decide

/-- An apostrophe is the only invalid character that stays. -/
theorem mem_sanitize {char : Char} (present : char ∈ (sanitize name).toList) :
    isValid char = true ∨ char = 'ʼ' := by
  rw [sanitize_toList, List.mem_append] at present
  rcases present with passed | last
  · exact .inl (joined_valid _ char passed)
  · by_cases apostrophe : EndsRaised name.toList 'ŉ'
    · rw [ending_of_apostrophe apostrophe] at last
      rcases List.mem_cons.mp last with same | letter
      · exact .inr same
      · rw [List.mem_singleton.mp letter]
        exact .inl rfl
    · exact .inl (isValid_of_isUpper (ending_isUpper apostrophe char last))

private theorem sanitize_ne_nil_iff :
    (sanitize name).toList ≠ [] ↔
      (∃ char ∈ name.toList, isValid char = true) ∨
        ∃ last, EndsRaised name.toList last ∧ ∃ char ∈ upperCase last, isValid char = true := by
  rw [← joined_ne_nil_iff, ← ending_ne_nil_iff, sanitize_toList, ne_eq, List.append_eq_nil_iff,
    not_and_or]

/-- A digit at the start was the first valid character and not the first one. -/
theorem sanitize_starts_with_digit_iff (plain : ¬ EndsRaised name.toList 'ŉ') :
    (∃ first ∈ (sanitize name).toList.head?, first.isDigit = true) ↔ DigitFirst name.toList := by
  have passed := joined_start (withoutLeadingDigit name.toList) false
  rw [← digitFirst_iff, sanitize_toList, List.head?_append]
  cases starts : (joined false (withoutLeadingDigit name.toList)).head? with
  | some char =>
      rw [starts, Option.map_some] at passed
      obtain ⟨first, found, same⟩ := Option.map_eq_some_iff.mp passed.symm
      simp [found, same]
  | none =>
      rw [starts, Option.map_none] at passed
      have nothing := Option.map_eq_none_iff.mp passed.symm
      rw [nothing, Option.none_or]
      refine iff_of_false ?_ (by simp)
      rintro ⟨first, here, digit⟩
      have capital := ending_isUpper plain first (List.mem_of_mem_head? here)
      have upper := (isUpper_iff first).mp capital
      have number := (isDigit_iff first).mp digit
      omega

private theorem sanitize_wellFormed_iff (name : String) :
    WellFormed (sanitize name) ↔ Usable name := by
  constructor
  · rintro ⟨nonempty, valid, start⟩
    have plain : ¬ EndsRaised name.toList 'ŉ' := by
      intro apostrophe
      have kept : 'ʼ' ∈ (sanitize name).toList := by
        rw [sanitize_toList, ending_of_apostrophe apostrophe]
        exact List.mem_append_right _ List.mem_cons_self
      cases valid 'ʼ' kept
    refine ⟨sanitize_ne_nil_iff.mp nonempty, fun digitFirst => ?_, plain⟩
    obtain ⟨first, here, digit⟩ := (sanitize_starts_with_digit_iff plain).mpr digitFirst
    rw [start first here] at digit
    cases digit
  · rintro ⟨left, start, plain⟩
    refine ⟨sanitize_ne_nil_iff.mpr left, fun char present => ?_, fun first here => ?_⟩
    · rw [sanitize_toList, List.mem_append] at present
      rcases present with passed | last
      · exact joined_valid _ char passed
      · exact isValid_of_isUpper (ending_isUpper plain char last)
    · apply Bool.eq_false_iff.mpr
      exact fun digit => start ((sanitize_starts_with_digit_iff plain).mp ⟨first, here, digit⟩)

/-- With its first letter in upper case an identifier stays one, and nothing else becomes one. -/
theorem normalize_wellFormed_iff (name : String) :
    WellFormed (normalize name) ↔ WellFormed (sanitize name) := by
  cases chars : (sanitize name).toList with
  | nil =>
      have same : normalize name = "" := by rw [normalize, chars]
      refine iff_of_false (fun formed => formed.nonempty ?_) (fun formed => formed.nonempty chars)
      rw [same]
      rfl
  | cons first rest =>
      have text : (normalize name).toList = upperCase first ++ rest := by
        rw [normalize, chars]
        exact String.toList_ofList
      have present : first ∈ (sanitize name).toList := by
        rw [chars]
        exact List.mem_cons_self
      rcases mem_sanitize present with valid | rfl
      · rw [upperCase_of_valid valid, List.singleton_append] at text
        rw [wellFormed_iff_of_cons text, wellFormed_iff_of_cons chars, isDigit_toUpper,
          iff_true_intro valid, iff_true_intro (isValid_toUpper valid)]
      · have kept : 'ʼ' ∈ (normalize name).toList := by
          rw [text]
          exact List.mem_append_left _ (by decide)
        exact iff_of_false (fun formed => nomatch formed.valid 'ʼ' kept)
          (fun formed => nomatch formed.valid 'ʼ' present)

/-- A name becomes an identifier, with a capital letter first or not, if and only if it has a
character to keep, no digit comes first once what stands before it is dropped, and no apostrophe
comes from its end. -/
theorem identifiers_wellFormed_iff (name : String) :
    (WellFormed (sanitize name) ↔ Usable name) ∧ (WellFormed (normalize name) ↔ Usable name) :=
  ⟨sanitize_wellFormed_iff name,
    (normalize_wellFormed_iff name).trans (sanitize_wellFormed_iff name)⟩

/-- Each of the three conditions is needed. -/
theorem unusable_names :
    ¬ WellFormed (normalize "é1Result") ∧ ¬ WellFormed (sanitize "!") ∧
      ¬ WellFormed (sanitize "a!ŉ") := by
  refine ⟨?_, ?_, ?_⟩
  · rw [normalize_wellFormed_iff, sanitize_wellFormed_iff]
    exact fun usable => usable.start
      ⟨['é'], '1', "Result".toList, rfl, List.cons_ne_nil _ _,
        List.forall_mem_singleton.mpr rfl, rfl⟩
  · exact fun formed => formed.nonempty (by rw [sanitize_toList]; rfl)
  · rw [sanitize_wellFormed_iff]
    exact fun usable => usable.apostrophe
      ⟨['a'], '!', [], rfl, rfl, by decide, by decide, nofun⟩

end Names

end QueryTypes.Identifier

namespace QueryTypes.Typing

open QueryTypes.Resolution

/-- The word at the end of the name of a result is something to keep. All that can go wrong with it
is a digit of the variable's name that comes first. -/
theorem resultName_wellFormed_iff (declared : QueryVariable) :
    Identifier.WellFormed (resultName declared) ↔ ¬ Identifier.DigitFirst declared.name.toList := by
  have text : (declared.name ++ "Result").toList = declared.name.toList ++ "Result".toList :=
    String.toList_append
  unfold resultName
  rw [Identifier.normalize_wellFormed_iff, Identifier.sanitize_wellFormed_iff]
  constructor
  · rintro ⟨_, start, _⟩ digitFirst
    rw [text] at start
    exact start digitFirst.append
  · intro start
    refine ⟨.inl ⟨'R', ?_, rfl⟩, fun digitFirst => start ?_, fun apostrophe => ?_⟩
    · rw [text]
      exact List.mem_append_right _ List.mem_cons_self
    · rw [text] at digitFirst
      exact digitFirst.of_append (by decide) rfl
    · rw [text] at apostrophe
      exact Identifier.not_endsRaised_of_valid_last rfl
        (declared.name.toList ++ "Resul".toList) (by rwa [List.append_assoc])

end QueryTypes.Typing
