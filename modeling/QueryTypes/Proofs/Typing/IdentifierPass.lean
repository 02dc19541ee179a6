import Mathlib.Data.List.DropRight
import QueryTypes.Proofs.Typing.ResultNames

/-!
Identifiers read off names in one pass.

Runs of invalid characters are joined and the result is trimmed, but all that comes of a name is its
valid characters, those behind invalid ones in upper case, and then whatever the upper case of one
invalid character at the very end leaves.
-/

set_option autoImplicit false

namespace QueryTypes.Identifier

/-! ### Characters in upper case -/

private theorem toUpper_of_not_isLower {char : Char} (other : char.isLower = false) :
    char.toUpper = char := by
  unfold Char.toUpper
  split
  · rename_i lower
    exact absurd ((isLower_iff char).mpr lower) (by rw [other]; exact Bool.false_ne_true)
  · rfl

theorem isUpper_iff (char : Char) :
    char.isUpper = true ↔ 65 ≤ char.val.toNat ∧ char.val.toNat ≤ 90 := by
  change decide (65 ≤ char.val ∧ char.val ≤ 90) = true ↔ _
  rw [decide_eq_true_iff, UInt32.le_iff_toNat_le, UInt32.le_iff_toNat_le]
  exact Iff.rfl

theorem isDigit_iff (char : Char) :
    char.isDigit = true ↔ 48 ≤ char.val.toNat ∧ char.val.toNat ≤ 57 := by
  simp only [Char.isDigit, Bool.and_eq_true, decide_eq_true_iff, UInt32.le_iff_toNat_le, ge_iff_le]
  exact Iff.rfl

private theorem toUpper_isUpper {char : Char} (lower : char.isLower = true) :
    char.toUpper.isUpper = true := by
  have bounds := (isLower_iff char).mp lower
  rw [isUpper_iff]
  unfold Char.toUpper
  split
  · simp only [UInt32.toNat_add]
    change 65 ≤ (char.val.toNat + 4294967264) % 4294967296 ∧
      (char.val.toNat + 4294967264) % 4294967296 ≤ 90
    omega
  · rename_i other
    exact absurd bounds other

theorem isDigit_toUpper (char : Char) : char.toUpper.isDigit = char.isDigit := by
  cases lower : char.isLower with
  | false => rw [toUpper_of_not_isLower lower]
  | true =>
      have before := (isLower_iff char).mp lower
      have after := (isUpper_iff _).mp (toUpper_isUpper lower)
      rw [Bool.eq_iff_iff, isDigit_iff, isDigit_iff]
      omega

private theorem isValid_eq (char : Char) :
    isValid char =
      (char == '$' || char == '_' || (char.isUpper || char.isLower || char.isDigit)) := rfl

theorem isValid_of_isDigit {char : Char} (digit : char.isDigit = true) : isValid char = true := by
  rw [isValid_eq, digit, Bool.or_true, Bool.or_true]

theorem isValid_of_isUpper {char : Char} (upper : char.isUpper = true) : isValid char = true := by
  rw [isValid_eq, upper, Bool.true_or, Bool.true_or, Bool.or_true]

private theorem isValid_of_isLower {char : Char} (lower : char.isLower = true) :
    isValid char = true := by
  rw [isValid_eq, lower, Bool.or_true, Bool.true_or, Bool.or_true]

theorem isValid_toUpper {char : Char} (valid : isValid char = true) :
    isValid char.toUpper = true := by
  cases lower : char.isLower with
  | false => rwa [toUpper_of_not_isLower lower]
  | true => exact isValid_of_isUpper (toUpper_isUpper lower)

theorem toUpper_of_invalid {char : Char} (invalid : isValid char = false) :
    char.toUpper = char := by
  apply toUpper_of_not_isLower
  apply Bool.eq_false_iff.mpr
  intro lower
  rw [isValid_of_isLower lower] at invalid
  cases invalid

theorem upperCase_of_valid {char : Char} (valid : isValid char = true) :
    upperCase char = [char.toUpper] := by
  unfold upperCase
  split
  all_goals first
    | rfl
    | exact absurd valid (by decide)

/-! ### One pass over a name -/

/-- The valid characters of a text, those behind invalid ones in upper case. So is the first one if
an invalid one stood before the text. -/
def joined (raised : Bool) : List Char → List Char
  | [] => []
  | first :: rest =>
      if isValid first then (if raised then first.toUpper else first) :: joined false rest
      else joined true rest

def endRun (source : List Char) : List Char := source.reverse.takeWhile fun char => !isValid char

/-- The character that is put into upper case at the end of a text although it is invalid: the last
one but for line feeds, if an invalid one stands before it. -/
def raisedLast? (source : List Char) : Option Char :=
  match (endRun source).dropWhile (· == '\n') with
  | last :: _ :: _ => some last
  | _ => none

def ending (source : List Char) : List Char :=
  match raisedLast? source with
  | some last => trimEnd (upperCase last)
  | none => []

section Pass

variable {source : List Char}

theorem joined_valid (raised : Bool) : ∀ char ∈ joined raised source, isValid char = true := by
  induction source generalizing raised with
  | nil => exact nofun
  | cons first rest ih =>
      rw [joined]
      split
      · rename_i valid
        refine List.forall_mem_cons.mpr ⟨?_, ih false⟩
        split
        · exact isValid_toUpper valid
        · exact valid
      · exact ih true

/-- The first character is the first valid one, perhaps in upper case. -/
theorem joined_start (source : List Char) (raised : Bool) :
    (joined raised source).head?.map (·.isDigit) = (source.find? isValid).map (·.isDigit) := by
  induction source generalizing raised with
  | nil => rfl
  | cons first rest ih =>
      rw [joined]
      split
      · rename_i valid
        rw [List.find?_cons_of_pos valid]
        cases raised with
        | true => exact congrArg some (isDigit_toUpper first)
        | false => rfl
      · rename_i invalid
        rw [List.find?_cons_of_neg invalid]
        exact ih true

theorem joined_eq_nil_iff {raised : Bool} :
    joined raised source = [] ↔ ∀ char ∈ source, isValid char = false := by
  have start := congrArg Option.isNone (joined_start source raised)
  rw [Option.isNone_map, Option.isNone_map] at start
  rw [← List.head?_eq_none_iff, ← Option.isNone_iff_eq_none, start, Option.isNone_iff_eq_none,
    List.find?_eq_none]
  exact forall₂_congr fun char _ => iff_of_eq (Bool.not_eq_true _)

private theorem trimEnd_cons {first : Char} (valid : isValid first = true) (rest : List Char) :
    trimEnd (first :: rest) = first :: trimEnd rest := by
  have stays : [first].dropWhile (fun char => !isValid char) = [first] :=
    List.dropWhile_cons_of_neg (by simp [valid])
  unfold trimEnd
  rw [List.reverse_cons, List.dropWhile_append]
  split
  · rename_i nothing
    rw [stays, List.isEmpty_iff.mp nothing]
    rfl
  · rw [List.reverse_append]
    rfl

private theorem trimEnd_append {rest : List Char} (invalid : ∀ char ∈ rest, isValid char = false) :
    trimEnd (source ++ rest) = trimEnd source := by
  unfold trimEnd
  rw [List.reverse_append, List.dropWhile_append_of_pos]
  intro char present
  rw [invalid char (List.mem_reverse.mp present), Bool.not_false]

theorem trimEnd_eq_nil_iff : trimEnd source = [] ↔ ∀ char ∈ source, isValid char = false := by
  refine List.rdropWhile_eq_nil_iff.trans (forall₂_congr fun char _ => ?_)
  rw [Bool.not_eq_true']

private theorem endRun_append {first : Char} (valid : isValid first = true)
    (before rest : List Char) :
    endRun (before ++ first :: rest) = endRun rest := by
  have stops : (first :: before.reverse).takeWhile (fun char => !isValid char) = [] :=
    List.takeWhile_cons_of_neg (by simp [valid])
  unfold endRun
  rw [List.reverse_append, List.reverse_cons, List.append_assoc, List.singleton_append,
    List.takeWhile_append, stops, List.append_nil]
  split
  · rename_i all
    exact ((List.takeWhile_prefix _).eq_of_length all).symm
  · rfl

private theorem endRun_of_invalid (invalid : ∀ char ∈ source, isValid char = false) :
    endRun source = source.reverse := by
  refine List.takeWhile_eq_self_iff.mpr fun char present => ?_
  rw [invalid char (List.mem_reverse.mp present), Bool.not_false]

theorem mem_endRun_of_raisedLast? {last : Char} (found : raisedLast? source = some last) :
    last ∈ endRun source := by
  unfold raisedLast? at found
  split at found
  · rename_i after
    cases found
    apply (List.dropWhile_suffix (· == '\n')).subset
    rw [after]
    exact List.mem_cons_self
  · cases found

theorem raisedLast?_append {first : Char} (valid : isValid first = true)
    (before rest : List Char) : raisedLast? (before ++ first :: rest) = raisedLast? rest := by
  rw [raisedLast?, raisedLast?, endRun_append valid]

private theorem ending_append {first : Char} (valid : isValid first = true)
    (before rest : List Char) :
    ending (before ++ first :: rest) = ending rest := by
  rw [ending, ending, raisedLast?_append valid]

private theorem trimEnd_finalRun (invalid : ∀ char ∈ source, isValid char = false) :
    trimEnd (finalRun source) = ending source := by
  have feeds : ∀ char ∈ (source.reverse.takeWhile (· == '\n')).reverse, isValid char = false := by
    intro char present
    refine invalid char (List.mem_reverse.mp ?_)
    exact (List.takeWhile_prefix _).subset (List.mem_reverse.mp present)
  unfold finalRun ending raisedLast?
  rw [endRun_of_invalid invalid]
  cases source.reverse.dropWhile (· == '\n') with
  | nil => exact trimEnd_eq_nil_iff.mpr invalid
  | cons last earlier =>
      cases earlier with
      | nil => exact trimEnd_eq_nil_iff.mpr invalid
      | cons char rest => exact trimEnd_append feeds

theorem joinRuns_of_invalid (invalid : ∀ char ∈ source, isValid char = false) :
    joinRuns source = finalRun source := by
  cases source with
  | nil => rw [joinRuns]; rfl
  | cons first rest =>
      obtain ⟨start, others⟩ := List.forall_mem_cons.mp invalid
      have after : rest.dropWhile (fun char => !isValid char) = [] :=
        List.dropWhile_eq_nil_iff.mpr fun char present => by rw [others char present]; rfl
      rw [joinRuns, if_neg (by rw [start]; exact Bool.false_ne_true)]
      split
      · rename_i found
        rw [after] at found
        cases found
      · rfl

theorem joinRuns_run {run later : List Char} {next : Char} (some : run ≠ [])
    (invalid : ∀ char ∈ run, isValid char = false) (valid : isValid next = true) :
    joinRuns (run ++ next :: later) = upperCase next ++ joinRuns later := by
  obtain ⟨first, more, rfl⟩ := List.exists_cons_of_ne_nil some
  obtain ⟨invalidFirst, invalidMore⟩ := List.forall_mem_cons.mp invalid
  have reached : (more ++ next :: later).dropWhile (fun char => !isValid char) = next :: later := by
    rw [List.dropWhile_append_of_pos fun char present => by rw [invalidMore char present]; rfl,
      List.dropWhile_cons_of_neg (by simp [valid])]
  exact joinRuns_cons_invalid invalidFirst reached

private theorem joined_run {run later : List Char} {next : Char} (some : run ≠ [])
    (invalid : ∀ char ∈ run, isValid char = false) (valid : isValid next = true) (raised : Bool) :
    joined raised (run ++ next :: later) = next.toUpper :: joined false later := by
  induction run generalizing raised with
  | nil => exact absurd rfl some
  | cons first more ih =>
      obtain ⟨invalidFirst, invalidMore⟩ := List.forall_mem_cons.mp invalid
      rw [List.cons_append, joined, invalidFirst, if_neg Bool.false_ne_true]
      by_cases alone : more = []
      · subst alone
        rw [List.nil_append, joined, if_pos valid]
        rfl
      · exact ih alone invalidMore true

/-- A text has invalid characters only, starts with a valid one, or has a run before its first valid
one. -/
theorem runs_induction {motive : List Char → Prop} (source : List Char)
    (ended : ∀ source, (∀ char ∈ source, isValid char = false) → motive source)
    (kept : ∀ first rest, isValid first = true → motive rest → motive (first :: rest))
    (behind : ∀ run next later, run ≠ [] → (∀ char ∈ run, isValid char = false) →
      isValid next = true → motive later → motive (run ++ next :: later)) :
    motive source := by
  induction source using joinRuns.induct with
  | case1 => exact ended [] (List.forall_mem_nil _)
  | case2 first rest valid ih => exact kept first rest valid ih
  | case3 first rest invalid next later after ih =>
      have split := List.takeWhile_append_dropWhile (p := fun char => !isValid char) (l := rest)
      have stops := List.head?_dropWhile_not (fun char => !isValid char) rest
      rw [after] at split stops
      have run : ∀ char ∈ first :: rest.takeWhile (fun char => !isValid char),
          isValid char = false := by
        refine List.forall_mem_cons.mpr ⟨Bool.eq_false_iff.mpr invalid, fun char present => ?_⟩
        simpa using List.mem_takeWhile_imp present
      have whole := behind _ next later (List.cons_ne_nil _ _) run (by simpa using stops) ih
      rwa [List.cons_append, split] at whole
  | case4 first rest invalid after =>
      refine ended _ (List.forall_mem_cons.mpr ⟨Bool.eq_false_iff.mpr invalid, ?_⟩)
      intro char present
      simpa using List.dropWhile_eq_nil_iff.mp after char present

/-- Once trimmed, a name with its runs joined is what one pass over it gives. -/
theorem trimEnd_joinRuns (source : List Char) :
    trimEnd (joinRuns source) = joined false source ++ ending source := by
  induction source using runs_induction with
  | ended source invalid =>
      rw [joinRuns_of_invalid invalid, joined_eq_nil_iff.mpr invalid]
      exact trimEnd_finalRun invalid
  | kept first rest valid ih =>
      have skip := ending_append valid [] rest
      rw [List.nil_append] at skip
      rw [joinRuns_cons_valid valid, trimEnd_cons valid, ih, joined, if_pos valid, skip]
      rfl
  | behind run next later some invalid valid ih =>
      rw [joinRuns_run some invalid valid, upperCase_of_valid valid, List.singleton_append,
        trimEnd_cons (isValid_toUpper valid), ih, joined_run some invalid valid,
        ending_append valid]
      rfl

private theorem ending_withoutLeadingDigit (source : List Char) :
    ending (withoutLeadingDigit source) = ending source := by
  cases source with
  | nil => rfl
  | cons first rest =>
      rw [withoutLeadingDigit]
      split
      · rename_i digit
        exact (ending_append rfl [] rest).trans
          (ending_append (isValid_of_isDigit digit) [] rest).symm
      · rfl

end Pass

/-- The pass over a name and what is left at its end. -/
theorem sanitize_toList (name : String) :
    (sanitize name).toList =
      joined false (withoutLeadingDigit name.toList) ++ ending name.toList := by
  rw [sanitize, String.toList_ofList, trimEnd_joinRuns, ending_withoutLeadingDigit]

end QueryTypes.Identifier
