import QueryTypes.Proofs.Text.Pattern
import QueryTypes.Proofs.Typing.IdentifierPass

/-!
Identifiers as the outcome of a replacement.

Joining the runs of a name is replacing, from the left, each match of a run and the character behind
it. At the end of a name no character is behind the run, so the match gives up characters until its
own last one will do. One pass over the name gives the same identifier if no character there has a
letter in its upper case.
-/

set_option autoImplicit false

namespace QueryTypes.Identifier

open QueryTypes.Text

/-- A run of invalid characters, longer ones preferred, and one character that is no line feed. -/
def runPattern : Pattern := .both (.run fun char => !isValid char) (.group 1 (.one (· != '\n')))

def raised (groups : Groups) : List Char := ((groups.lookup 1).getD []).flatMap upperCase

section Matches

private theorem next_ways {next : Char} (noFeed : next ≠ '\n') (later : List Char) :
    (Pattern.group 1 (.one (· != '\n'))).ways (next :: later) = [([next], [(1, [next])])] := by
  simp [Pattern.ways, noFeed]

private theorem runPattern_ways_valid {first : Char} (valid : isValid first = true)
    (rest : List Char) :
    runPattern.ways (first :: rest) = [] := by
  rw [runPattern, Pattern.ways_both, Pattern.ways_run_of_not (by rw [valid, Bool.not_true])]
  rfl

private theorem runPattern_ways_invalid {first : Char} (invalid : isValid first = false)
    (rest : List Char) :
    runPattern.ways (first :: rest) =
      (runPattern.ways rest ++ (Pattern.group 1 (.one (· != '\n'))).ways rest).map fun way =>
        (first :: way.1, way.2) :=
  Pattern.ways_both_run_cons (by rw [invalid, Bool.not_false]) _ rest

private theorem runPattern_preferred {run later : List Char} {next : Char} (some : run ≠ [])
    (invalid : ∀ char ∈ run, isValid char = false) (noFeed : next ≠ '\n')
    (last : runPattern.ways (next :: later) = []) :
    (runPattern.ways (run ++ next :: later)).head? =
      .some (run ++ [next], [(1, [next])]) := by
  induction run with
  | nil => exact absurd rfl some
  | cons first more ih =>
      obtain ⟨invalidFirst, invalidMore⟩ := List.forall_mem_cons.mp invalid
      -- What goes on through the rest of the run is preferred to what ends here.
      rw [List.cons_append, runPattern_ways_invalid invalidFirst, List.head?_map,
        List.head?_append]
      by_cases alone : more = []
      · subst alone
        rw [List.nil_append, last, next_ways noFeed]
        rfl
      · rw [ih alone invalidMore]
        rfl

private theorem runPattern_ways_feeds {feeds : List Char} (all : ∀ feed ∈ feeds, feed = '\n')
    (first : Char) : runPattern.ways (first :: feeds) = [] := by
  by_cases valid : isValid first = true
  · exact runPattern_ways_valid valid feeds
  · rw [runPattern_ways_invalid (Bool.eq_false_iff.mpr valid)]
    -- Behind the run stands its own line feed or nothing, and no match ends in either.
    induction feeds generalizing first with
    | nil => rfl
    | cons feed more ih =>
        obtain ⟨rfl, allMore⟩ := List.forall_mem_cons.mp all
        rw [runPattern_ways_invalid rfl, ih allMore '\n' (by decide)]
        rfl

private theorem replaceAll_feeds {feeds : List Char} (all : ∀ feed ∈ feeds, feed = '\n') :
    runPattern.replaceAll raised feeds = feeds := by
  induction feeds with
  | nil => rw [Pattern.replaceAll]
  | cons feed more ih =>
      have allMore := (List.forall_mem_cons.mp all).2
      rw [Pattern.replaceAll_of_none raised (runPattern_ways_feeds allMore feed), ih allMore]

private theorem replaceAll_run {run later : List Char} {next : Char} (some : run ≠ [])
    (invalid : ∀ char ∈ run, isValid char = false) (noFeed : next ≠ '\n')
    (last : runPattern.ways (next :: later) = []) :
    runPattern.replaceAll raised (run ++ next :: later) =
      upperCase next ++ runPattern.replaceAll raised later := by
  have preferred := runPattern_preferred some invalid noFeed last
  rw [List.append_cons] at preferred ⊢
  rw [Pattern.replaceAll_of_some raised (by simp) preferred]
  simp [raised]

/-- At the end of a name the match gives up the line feeds and one more character. -/
theorem replaceAll_finalRun {run : List Char} (invalid : ∀ char ∈ run, isValid char = false) :
    runPattern.replaceAll raised run = finalRun run := by
  have stops := List.head?_dropWhile_not (· == '\n') run.reverse
  have whole := congrArg List.reverse
    (List.takeWhile_append_dropWhile (p := (· == '\n')) (l := run.reverse))
  rw [List.reverse_append, List.reverse_reverse] at whole
  have allFeeds : ∀ feed ∈ (run.reverse.takeWhile (· == '\n')).reverse, feed = '\n' := by
    intro feed present
    simpa using List.mem_takeWhile_imp (List.mem_reverse.mp present)
  unfold finalRun
  generalize (run.reverse.takeWhile (· == '\n')).reverse = feeds at whole allFeeds ⊢
  generalize run.reverse.dropWhile (· == '\n') = others at stops whole ⊢
  subst whole
  -- Before the line feeds at the end stands nothing, one character that has no run before it, or a
  -- character with a run.
  cases others with
  | nil => exact replaceAll_feeds allFeeds
  | cons last earlier =>
      have noFeed : last ≠ '\n' := by simpa using stops
      have unmatched := runPattern_ways_feeds allFeeds last
      cases earlier with
      | nil =>
          rw [List.reverse_singleton, List.singleton_append,
            Pattern.replaceAll_of_none raised unmatched, replaceAll_feeds allFeeds]
      | cons previous more =>
          have before : ∀ char ∈ (previous :: more).reverse, isValid char = false := by
            intro char present
            apply invalid
            rw [List.reverse_cons, List.append_assoc]
            exact List.mem_append_left _ present
          rw [List.reverse_cons, List.append_assoc, List.singleton_append,
            replaceAll_run (by simp) before noFeed unmatched, replaceAll_feeds allFeeds]

end Matches

/-- Joining the runs is replacing all matches, from the left. -/
theorem joinRuns_eq_replaceAll (source : List Char) :
    joinRuns source = runPattern.replaceAll raised source := by
  induction source using runs_induction with
  | ended source invalid => rw [joinRuns_of_invalid invalid, replaceAll_finalRun invalid]
  | kept first rest valid ih =>
      rw [joinRuns_cons_valid valid, ih,
        Pattern.replaceAll_of_none raised (runPattern_ways_valid valid rest)]
  | behind run next later some invalid valid ih =>
      have noFeed : next ≠ '\n' := by
        rintro rfl
        cases valid
      rw [joinRuns_run some invalid valid, ih,
        replaceAll_run some invalid noFeed (runPattern_ways_valid valid later)]

/-! ### Names that one pass reads -/

/-- No character of the invalid run at the end has a valid one in its upper case. -/
def EndsPlain (source : List Char) : Prop :=
  ∀ char ∈ endRun source, ∀ upper ∈ upperCase char, isValid upper = false

instance : DecidablePred EndsPlain := fun source =>
  decidable_of_iff
    ((endRun source).all fun char => (upperCase char).all fun upper => !isValid upper)
    (by simp only [EndsPlain, List.all_eq_true, Bool.not_eq_true'])

private theorem upperCase_of_ascii {char : Char} (ascii : char.toNat < 128) :
    upperCase char = [char.toUpper] := by
  unfold upperCase
  split
  all_goals first
    | rfl
    | exact absurd ascii (by decide)

private theorem endsPlain_of_ascii {source : List Char}
    (ascii : ∀ char ∈ source, char.toNat < 128) :
    EndsPlain source := by
  intro char inRun upper present
  have inSource : char ∈ source :=
    List.mem_reverse.mp ((List.takeWhile_prefix _).subset inRun)
  have invalid : isValid char = false := by simpa using List.mem_takeWhile_imp inRun
  rw [upperCase_of_ascii (ascii char inSource), toUpper_of_invalid invalid] at present
  rwa [List.mem_singleton.mp present]

private theorem ending_of_endsPlain {source : List Char} (plain : EndsPlain source) :
    ending source = [] := by
  unfold ending
  split
  · rename_i last found
    exact trimEnd_eq_nil_iff.mpr (plain last (mem_endRun_of_raisedLast? found))
  · rfl

/-- An identifier is what the replacement of all runs leaves once it is trimmed. It is also what one
pass reads off the name: a digit at the start becomes an underscore, invalid characters are dropped,
and valid ones behind them are put into upper case. For that the upper case of the characters at the
end must have none to keep, as is so in any name of ASCII characters. -/
theorem sanitize_one_pass (name : String) :
    sanitize name = String.ofList
        (trimEnd (runPattern.replaceAll raised (withoutLeadingDigit name.toList))) ∧
      (EndsPlain name.toList →
        sanitize name = String.ofList (joined false (withoutLeadingDigit name.toList))) ∧
      ((∀ char ∈ name.toList, char.toNat < 128) → EndsPlain name.toList) := by
  refine ⟨?_, fun plain => ?_, endsPlain_of_ascii⟩
  · rw [← joinRuns_eq_replaceAll]
    rfl
  · rw [← String.ofList_toList (s := sanitize name), sanitize_toList, ending_of_endsPlain plain,
      List.append_nil]

/-- A sharp s in the middle is dropped, although its upper case has letters. -/
theorem names_read_in_one_pass :
    EndsPlain "1st place\n-winner ß2é !é\n".toList ∧
      sanitize "1st place\n-winner ß2é !é\n" = "_stPlaceWinner2" ∧
      (∀ char ∈ "9 lives_of.a-cat--\n".toList, char.toNat < 128) ∧
      sanitize "9 lives_of.a-cat--\n" = "_Lives_ofACat" := by
  have plain : EndsPlain "1st place\n-winner ß2é !é\n".toList := by decide +kernel
  have ascii : ∀ char ∈ "9 lives_of.a-cat--\n".toList, char.toNat < 128 := by
    have checked : ("9 lives_of.a-cat--\n".toList.all fun char => char.toNat < 128) = true := rfl
    simpa only [List.all_eq_true, decide_eq_true_eq] using checked
  refine ⟨plain, ?_, ascii, ?_⟩
  · rw [(sanitize_one_pass _).2.1 plain]
    decide +kernel
  · rw [(sanitize_one_pass _).2.1 ((sanitize_one_pass _).2.2 ascii)]
    decide +kernel

end QueryTypes.Identifier
