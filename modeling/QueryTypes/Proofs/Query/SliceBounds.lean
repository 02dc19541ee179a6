import QueryTypes.Proofs.Repetitions
import QueryTypes.Proofs.Text.Pattern
import QueryTypes.Proofs.Text.Runs
import QueryTypes.Query.Slice

/-!
All slices of a query are found.

What a slice is made of is told apart from the left, since no bound goes on with a dot or a bracket.
No slice holds an opening bracket but its first character, so a search that goes on behind each
slice misses none.
-/

set_option autoImplicit false

namespace QueryTypes.Query

open QueryTypes.Text

/-! ### Slices -/

def IsBound (text : List Char) : Prop :=
  (text ≠ [] ∧ ∀ char ∈ text, isDecimalDigit char = true) ∨
    ∃ name, text = '$' :: name ∧ name ≠ [] ∧ ∀ char ∈ name, isWord char = true

def IsDots (text : List Char) : Prop := text = ['.', '.'] ∨ text = ['.', '.', '.']

/-- The parts of `[first..last]` or `[first...last]`. -/
@[ext] structure Slice where
  first : List Char
  dots : List Char
  last : List Char
  first_isBound : IsBound first
  dots_isDots : IsDots dots
  last_isBound : IsBound last

def Slice.inner (slice : Slice) : List Char :=
  slice.first ++ (slice.dots ++ (slice.last ++ [']']))

def Slice.text (slice : Slice) : List Char := '[' :: slice.inner

/-- A bound of the slice is the parameter, at this many characters from the bracket on. -/
def Slice.Names (slice : Slice) (name : String) (offset : Nat) : Prop :=
  slice.first = '$' :: name.toList ∧ offset = 1 ∨
    slice.last = '$' :: name.toList ∧ offset = 1 + slice.first.length + slice.dots.length

/-- Somewhere in the text stands a slice that has the parameter as a bound at the given place. -/
def AppearsAt (text : List Char) (name : String) (place : Nat) : Prop :=
  ∃ slice : Slice, ∃ before after offset, text = before ++ (slice.text ++ after) ∧
    slice.Names name offset ∧ place = before.length + offset

/-! ### What follows a bound -/

def EndsBound (rest : List Char) : Prop := EndsRun isWord rest ∧ EndsRun isDecimalDigit rest

private theorem marks_apart :
    isWord '.' = false ∧ isWord ']' = false ∧ isWord '[' = false ∧
      isDecimalDigit '.' = false ∧ isDecimalDigit ']' = false ∧ isDecimalDigit '[' = false ∧
      isDecimalDigit '$' = false := by
  decide +kernel

private theorem endsBound_bracket (rest : List Char) : EndsBound (']' :: rest) := by
  obtain ⟨_, word, _, _, digit, _⟩ := marks_apart
  constructor
  · rintro _ ⟨⟩
    exact word
  · rintro _ ⟨⟩
    exact digit

private theorem endsBound_dot (rest : List Char) : EndsBound ('.' :: rest) := by
  obtain ⟨word, _, _, digit, _⟩ := marks_apart
  constructor
  · rintro _ ⟨⟩
    exact word
  · rintro _ ⟨⟩
    exact digit

private theorem endsBound_dots {dots : List Char} (isDots : IsDots dots) (rest : List Char) :
    EndsBound (dots ++ rest) := by
  rcases isDots with rfl | rfl
  · exact endsBound_dot _
  · exact endsBound_dot _

def parameter? : List Char → Option String
  | '$' :: name => some (String.ofList name)
  | _ => none

private theorem parameter?_eq_some_iff (text : List Char) (name : String) :
    parameter? text = some name ↔ text = '$' :: name.toList := by
  unfold parameter?
  split
  · rename_i held
    rw [Option.some.injEq, List.cons.injEq]
    constructor
    · rintro rfl
      exact ⟨rfl, String.toList_ofList.symm⟩
    · rintro ⟨_, rfl⟩
      exact String.ofList_toList
  · rename_i other
    constructor
    · exact nofun
    · intro same
      exact absurd same (other _)

private theorem parameter?_of_digits {text : List Char}
    (digits : ∀ char ∈ text, isDecimalDigit char = true) : parameter? text = none := by
  unfold parameter?
  split
  · rename_i name
    have mark := digits '$' List.mem_cons_self
    simp [marks_apart] at mark
  · rfl

private theorem IsBound.not_dot {bound : List Char} (isBound : IsBound bound) (rest : List Char) :
    (bound ++ rest).head? ≠ some '.' := by
  rcases isBound with ⟨given, digits⟩ | ⟨name, rfl, _⟩
  · obtain ⟨first, more, rfl⟩ := List.exists_cons_of_ne_nil given
    have digit := digits first List.mem_cons_self
    rintro ⟨⟩
    simp [marks_apart] at digit
  · exact nofun

private theorem IsBound.not_bracket {bound : List Char} (isBound : IsBound bound) :
    '[' ∉ bound := by
  intro present
  rcases isBound with ⟨_, digits⟩ | ⟨name, rfl, _, word⟩
  · have digit := digits '[' present
    simp [marks_apart] at digit
  · have inside : '[' ∈ name := by simpa using present
    have fits := word '[' inside
    simp [marks_apart] at fits

private theorem Slice.not_bracket (slice : Slice) : '[' ∉ slice.inner := by
  have first := slice.first_isBound.not_bracket
  have last := slice.last_isBound.not_bracket
  unfold Slice.inner
  rcases slice.dots_isDots with dots | dots <;> simp [dots, first, last]

/-! ### Reading a slice -/

private theorem readBound?_append {bound rest : List Char} (isBound : IsBound bound)
    (ends : EndsBound rest) : readBound? (bound ++ rest) = some (parameter? bound, rest) := by
  rcases isBound with ⟨given, digits⟩ | ⟨name, rfl, given, word⟩
  · unfold readBound?
    rw [parameter?_of_digits digits]
    split
    · rename_i other same
      obtain ⟨first, more, rfl⟩ := List.exists_cons_of_ne_nil given
      obtain ⟨rfl, _⟩ := List.cons.inj same
      have mark := digits '$' List.mem_cons_self
      simp [marks_apart] at mark
    · rw [takeWhile_run digits ends.2, dropWhile_run digits ends.2]
      simp [given]
  · change (if ((name ++ rest).takeWhile isWord).isEmpty then none
      else some (some (String.ofList ((name ++ rest).takeWhile isWord)),
        (name ++ rest).dropWhile isWord)) = _
    rw [takeWhile_run word ends.1, dropWhile_run word ends.1]
    simp [given, parameter?]

private theorem isBound_of_readBound? {source rest : List Char} {parameter : Option String}
    (reads : readBound? source = some (parameter, rest)) :
    ∃ bound, source = bound ++ rest ∧ IsBound bound ∧ parameter = parameter? bound := by
  unfold readBound? at reads
  split at reads
  · rename_i other
    by_cases empty : (other.takeWhile isWord).isEmpty
    · simp [empty] at reads
    · simp only [empty] at reads
      obtain ⟨rfl, rfl⟩ := Prod.mk.inj (Option.some.inj reads)
      refine ⟨'$' :: other.takeWhile isWord, ?_, .inr ⟨_, rfl, ?_, ?_⟩, rfl⟩
      · simp
      · simpa using empty
      · exact fun char present => List.mem_takeWhile_imp present
  · by_cases empty : (source.takeWhile isDecimalDigit).isEmpty
    · simp [empty] at reads
    · simp only [empty] at reads
      obtain ⟨rfl, rfl⟩ := Prod.mk.inj (Option.some.inj reads)
      have digits : ∀ char ∈ source.takeWhile isDecimalDigit, isDecimalDigit char = true :=
        fun char present => List.mem_takeWhile_imp present
      refine ⟨source.takeWhile isDecimalDigit, ?_, .inl ⟨?_, digits⟩, ?_⟩
      · simp
      · simpa using empty
      · exact (parameter?_of_digits digits).symm

private theorem readDots?_append {dots rest : List Char} (isDots : IsDots dots)
    (ends : rest.head? ≠ some '.') : readDots? (dots ++ rest) = some rest := by
  rcases isDots with rfl | rfl
  · cases rest with
    | nil => rfl
    | cons first more =>
        unfold readDots?
        split
        · rename_i same
          simp only [List.cons_append, List.nil_append, List.cons.injEq, true_and] at same
          exact absurd (congrArg some same.1) ends
        · rename_i same
          simpa using same.symm
        · rename_i other
          exact absurd rfl (other _)
  · rfl

private theorem isDots_of_readDots? {source rest : List Char}
    (reads : readDots? source = some rest) :
    ∃ dots, source = dots ++ rest ∧ IsDots dots := by
  unfold readDots? at reads
  split at reads
  · cases reads
    exact ⟨['.', '.', '.'], rfl, .inr rfl⟩
  · cases reads
    exact ⟨['.', '.'], rfl, .inl rfl⟩
  · cases reads

def Slice.parameters (slice : Slice) : List String :=
  (parameter? slice.first).toList ++ (parameter? slice.last).toList

private theorem Slice.inner_append (slice : Slice) (after : List Char) :
    slice.inner ++ after = slice.first ++ (slice.dots ++ (slice.last ++ ']' :: after)) := by
  simp [Slice.inner]

theorem Slice.reads (slice : Slice) (after : List Char) :
    readBound? (slice.inner ++ after) =
        some (parameter? slice.first, slice.dots ++ (slice.last ++ ']' :: after)) ∧
      readDots? (slice.dots ++ (slice.last ++ ']' :: after)) =
        some (slice.last ++ ']' :: after) ∧
      readBound? (slice.last ++ ']' :: after) = some (parameter? slice.last, ']' :: after) := by
  refine ⟨?_, ?_, ?_⟩
  · rw [slice.inner_append]
    exact readBound?_append slice.first_isBound (endsBound_dots slice.dots_isDots _)
  · exact readDots?_append slice.dots_isDots (slice.last_isBound.not_dot _)
  · exact readBound?_append slice.last_isBound (endsBound_bracket _)

private theorem readSlice?_inner (slice : Slice) (after : List Char) :
    readSlice? (slice.inner ++ after) = some slice.parameters := by
  obtain ⟨first, dots, last⟩ := slice.reads after
  unfold readSlice?
  simp only [first, dots, last, Option.bind_eq_bind, Option.bind_some]
  rfl

private theorem slice_of_readSlice? {source : List Char} {names : List String}
    (reads : readSlice? source = some names) :
    ∃ (slice : Slice) (after : List Char), source = slice.inner ++ after := by
  unfold readSlice? at reads
  simp only [Option.bind_eq_bind, Option.bind_eq_some_iff, Prod.exists] at reads
  obtain ⟨_, afterFirst, first, afterDots, dots, _, afterLast, last, ends⟩ := reads
  obtain ⟨firstText, rfl, firstBound, _⟩ := isBound_of_readBound? first
  obtain ⟨dotsText, rfl, isDots⟩ := isDots_of_readDots? dots
  obtain ⟨lastText, rfl, lastBound, _⟩ := isBound_of_readBound? last
  split at ends
  · rename_i after
    refine ⟨⟨firstText, dotsText, lastText, firstBound, isDots, lastBound⟩, after, ?_⟩
    rw [Slice.inner_append]
  · cases ends

/-- A text starts with at most one slice. -/
theorem Slice.eq_of_inner {slice other : Slice} {after others : List Char}
    (same : slice.inner ++ after = other.inner ++ others) : slice = other := by
  obtain ⟨first, dots, last⟩ := slice.reads after
  obtain ⟨otherFirst, otherDots, otherLast⟩ := other.reads others
  rw [same, otherFirst, Option.some.injEq, Prod.mk.injEq] at first
  rw [← first.2, otherDots, Option.some.injEq] at dots
  rw [← dots, otherLast, Option.some.injEq, Prod.mk.injEq, List.cons.injEq] at last
  obtain ⟨_, _, rfl⟩ := last
  rw [slice.inner_append, other.inner_append, first.2] at same
  have dotsSame : slice.dots ++ (slice.last ++ ']' :: others) =
      other.dots ++ (slice.last ++ ']' :: others) := by rw [← first.2, dots]
  have firsts : slice.first = other.first := List.append_cancel_right same
  have middles : slice.dots = other.dots := List.append_cancel_right dotsSame
  have lasts : slice.last = other.last := List.append_cancel_right dots.symm
  exact Slice.ext firsts middles lasts

/-! ### Leftmost matches -/

def mark (char : Char) : Pattern := .one (· == char)

/-- `(\$(\w+)|\d+)`, its groups numbered from the given number on. -/
def boundPattern (number : Nat) : Pattern :=
  .group number
    (.either (.both (mark '$') (.group (number + 1) (.run isWord))) (.run isDecimalDigit))

def dotsPattern : Pattern := .both (mark '.') (.both (mark '.') (.maybe (mark '.')))

/-- `\[(\$(\w+)|\d+)\.\.\.?(\$(\w+)|\d+)\]` -/
def slicePattern : Pattern :=
  .both (mark '[')
    (.both (boundPattern 1) (.both dotsPattern (.both (boundPattern 3) (mark ']'))))

/-- What the second and the fourth group have read. -/
def boundNames (groups : Groups) : List String :=
  [2, 4].filterMap fun number => (groups.lookup number).map String.ofList

def boundGroups (number : Nat) (bound : List Char) : Groups :=
  (number, bound) :: ((parameter? bound).map fun name => (number + 1, name.toList)).toList

def Slice.groups (slice : Slice) : Groups :=
  boundGroups 1 slice.first ++ boundGroups 3 slice.last

private theorem boundNames_groups (slice : Slice) : boundNames slice.groups = slice.parameters := by
  unfold boundNames Slice.groups Slice.parameters boundGroups
  cases parameter? slice.first <;> cases parameter? slice.last <;> simp [List.lookup_cons]

section Reading

variable {text : List Char} {groups : Groups}

private theorem reads_mark_iff {char : Char} :
    (mark char).Reads text groups ↔ text = [char] ∧ groups = [] := by
  rw [mark, Pattern.reads_one_iff]
  simp

private theorem reads_dotsPattern_iff :
    dotsPattern.Reads text groups ↔ IsDots text ∧ groups = [] := by
  simp only [dotsPattern, Pattern.reads_both_iff, Pattern.reads_maybe_iff, reads_mark_iff]
  constructor
  · rintro ⟨_, _, ⟨rfl, rfl⟩, _, _, ⟨_, _, ⟨rfl, rfl⟩, _, _, third, rfl, rfl⟩, rfl, rfl⟩
    rcases third with ⟨rfl, rfl⟩ | ⟨rfl, rfl⟩
    · exact ⟨.inr rfl, rfl⟩
    · exact ⟨.inl rfl, rfl⟩
  · rintro ⟨rfl | rfl, rfl⟩
    · exact ⟨_, _, ⟨rfl, rfl⟩, _, _, ⟨_, _, ⟨rfl, rfl⟩, _, _, .inr ⟨rfl, rfl⟩, rfl, rfl⟩, rfl, rfl⟩
    · exact ⟨_, _, ⟨rfl, rfl⟩, _, _, ⟨_, _, ⟨rfl, rfl⟩, _, _, .inl ⟨rfl, rfl⟩, rfl, rfl⟩, rfl, rfl⟩

private theorem reads_boundPattern_iff {number : Nat} :
    (boundPattern number).Reads text groups ↔
      IsBound text ∧ groups = boundGroups number text := by
  simp only [boundPattern, Pattern.reads_group_iff, Pattern.reads_either_iff,
    Pattern.reads_both_iff, Pattern.reads_run_iff, reads_mark_iff]
  constructor
  · rintro ⟨_, ⟨_, _, ⟨rfl, rfl⟩, name, _, ⟨_, ⟨given, word, rfl⟩, rfl⟩, rfl, rfl⟩ |
      ⟨given, digits, rfl⟩, rfl⟩
    · refine ⟨.inr ⟨name, rfl, given, word⟩, ?_⟩
      simp [boundGroups, parameter?]
    · refine ⟨.inl ⟨given, digits⟩, ?_⟩
      rw [boundGroups, parameter?_of_digits digits]
      rfl
  · rintro ⟨⟨given, digits⟩ | ⟨name, rfl, given, word⟩, rfl⟩
    · refine ⟨_, .inr ⟨given, digits, rfl⟩, ?_⟩
      rw [boundGroups, parameter?_of_digits digits]
      rfl
    · refine ⟨_, .inl ⟨_, _, ⟨rfl, rfl⟩, name, _, ⟨_, ⟨given, word, rfl⟩, rfl⟩, rfl, rfl⟩, ?_⟩
      simp [boundGroups, parameter?]

private theorem reads_slicePattern_iff :
    slicePattern.Reads text groups ↔
      ∃ slice : Slice, text = slice.text ∧ groups = slice.groups := by
  simp only [slicePattern, Pattern.reads_both_iff, reads_mark_iff, reads_boundPattern_iff,
    reads_dotsPattern_iff]
  constructor
  · rintro ⟨_, _, ⟨rfl, rfl⟩, _, _, ⟨first, _, ⟨firstBound, rfl⟩, _, _, ⟨dots, _, ⟨isDots, rfl⟩,
      _, _, ⟨last, _, ⟨lastBound, rfl⟩, _, _, ⟨rfl, rfl⟩, rfl, rfl⟩, rfl, rfl⟩, rfl, rfl⟩, rfl, rfl⟩
    exact ⟨⟨first, dots, last, firstBound, isDots, lastBound⟩, rfl, by simp [Slice.groups]⟩
  · rintro ⟨slice, rfl, rfl⟩
    refine ⟨_, _, ⟨rfl, rfl⟩, slice.inner, slice.groups, ?_, rfl, rfl⟩
    refine ⟨_, _, ⟨slice.first_isBound, rfl⟩, _, boundGroups 3 slice.last, ?_, rfl, rfl⟩
    refine ⟨_, _, ⟨slice.dots_isDots, rfl⟩, _, _, ?_, rfl, rfl⟩
    exact ⟨_, _, ⟨slice.last_isBound, rfl⟩, _, _, ⟨rfl, rfl⟩, rfl, (List.append_nil _).symm⟩

end Reading

/-! ### The scan -/

private theorem sliceBounds_cons_of_ne {first : Char} (other : first ≠ '[') (rest : List Char) :
    sliceBounds (first :: rest) = sliceBounds rest := by
  rw [sliceBounds]
  exact other

/-- A scan goes on behind what holds no opening bracket. -/
theorem sliceBounds_append {before : List Char} (noBracket : '[' ∉ before) (after : List Char) :
    sliceBounds (before ++ after) = sliceBounds after := by
  induction before with
  | nil => rfl
  | cons first rest ih =>
      obtain ⟨other, others⟩ := not_or.mp (mt List.mem_cons.mpr noBracket)
      rw [List.cons_append, sliceBounds_cons_of_ne (Ne.symm other), ih others]

private theorem sliceBounds_slice (slice : Slice) (after : List Char) :
    sliceBounds (slice.text ++ after) = slice.parameters ++ sliceBounds after := by
  change sliceBounds ('[' :: (slice.inner ++ after)) = _
  rw [sliceBounds, readSlice?_inner, sliceBounds_append slice.not_bracket]
  rfl

/-- At each character either a slice starts or the scan takes nothing from it. -/
theorem sliceBounds_cons_cases (first : Char) (rest : List Char) :
    (∃ (slice : Slice) (after : List Char), first :: rest = slice.text ++ after) ∨
      (∀ (slice : Slice) (after : List Char), first :: rest ≠ slice.text ++ after) ∧
        sliceBounds (first :: rest) = sliceBounds rest := by
  by_cases bracket : first = '['
  · subst bracket
    cases reads : readSlice? rest with
    | some names =>
        obtain ⟨slice, after, rfl⟩ := slice_of_readSlice? reads
        exact .inl ⟨slice, after, rfl⟩
    | none =>
        refine .inr ⟨?_, ?_⟩
        · intro slice after same
          have inner : rest = slice.inner ++ after := (List.cons.inj same).2
          rw [inner, readSlice?_inner] at reads
          cases reads
        · rw [sliceBounds, reads]
          rfl
  · refine .inr ⟨?_, sliceBounds_cons_of_ne bracket rest⟩
    intro slice after same
    exact bracket (List.cons.inj same).1

/-- The leftmost matches of the pattern, none inside another one, name what the scan finds. -/
theorem search_slicePattern (source : List Char) :
    (slicePattern.search source).flatMap boundNames = sliceBounds source := by
  induction measured : source.length using Nat.strong_induction_on generalizing source with
  | _ length ih =>
      cases source with
      | nil => rw [Pattern.search]; rfl
      | cons first rest =>
          rcases sliceBounds_cons_cases first rest with ⟨slice, after, same⟩ | ⟨none, skipped⟩
          · have shorter : after.length < length := by
              rw [← measured, same, List.length_append, Slice.text, List.length_cons]
              omega
            have only : ∀ other further, other <+: slice.text ++ after →
                slicePattern.Reads other further → other = slice.text ∧ further = slice.groups := by
              rintro _ _ ⟨others, alike⟩ reads
              obtain ⟨second, rfl, rfl⟩ := reads_slicePattern_iff.mp reads
              have equal : second = slice := Slice.eq_of_inner (List.cons.inj alike).2
              subst equal
              exact ⟨rfl, rfl⟩
            have found : slicePattern.search (slice.text ++ after) =
                slice.groups :: slicePattern.search after :=
              Pattern.search_of_only (List.cons_ne_nil '[' slice.inner)
                (reads_slicePattern_iff.mpr ⟨slice, rfl, rfl⟩) only
            rw [same, sliceBounds_slice, found, List.flatMap_cons, boundNames_groups,
              ih _ shorter after rfl]
          · rw [skipped, Pattern.search_of_none, ih rest.length _ rest rfl]
            · rw [← measured, List.length_cons]
              omega
            · rintro _ _ ⟨after, same⟩ reads
              obtain ⟨slice, rfl, _⟩ := reads_slicePattern_iff.mp reads
              exact none slice after same.symm

/-! ### Places -/

def Slice.placed (slice : Slice) : List (String × Nat) :=
  ((parameter? slice.first).map (·, 1)).toList ++
    ((parameter? slice.last).map (·, 1 + slice.first.length + slice.dots.length)).toList

private theorem Slice.placed_names (slice : Slice) : slice.placed.map (·.1) = slice.parameters := by
  unfold Slice.placed Slice.parameters
  cases parameter? slice.first <;> cases parameter? slice.last <;> rfl

private theorem Slice.mem_placed_iff (slice : Slice) (name : String) (offset : Nat) :
    (name, offset) ∈ slice.placed ↔ slice.Names name offset := by
  unfold Slice.placed Slice.Names
  rw [← parameter?_eq_some_iff, ← parameter?_eq_some_iff]
  cases parameter? slice.first <;> cases parameter? slice.last <;> simp [eq_comm]

private theorem Slice.placed_ascending (slice : Slice) :
    slice.placed.Pairwise fun earlier later => earlier.2 < later.2 := by
  have dots : 0 < slice.dots.length := by
    rcases slice.dots_isDots with dots | dots <;> simp [dots]
  unfold Slice.placed
  cases parameter? slice.first <;> cases parameter? slice.last <;> simp
  omega

theorem Slice.Names.le {slice : Slice} {name : String} {offset : Nat}
    (names : slice.Names name offset) : 0 < offset ∧ offset ≤ slice.inner.length := by
  have some : 0 < slice.last.length := by
    rcases slice.last_isBound with ⟨given, _⟩ | ⟨_, same, _⟩
    · exact List.length_pos_iff.mpr given
    · simp [same]
  unfold Slice.inner
  simp only [List.length_append, List.length_singleton]
  rcases names with ⟨_, rfl⟩ | ⟨_, rfl⟩ <;> omega

/-- What appears behind a text without a bracket has its place there. -/
theorem AppearsAt.of_append {before after : List Char} {name : String} {place : Nat}
    (noBracket : '[' ∉ before) (appears : AppearsAt (before ++ after) name place) :
    before.length < place := by
  obtain ⟨slice, earlier, later, offset, same, names, rfl⟩ := appears
  have positive := names.le.1
  rcases List.append_eq_append_iff.mp same with ⟨between, rfl, _⟩ | ⟨between, inside, starts⟩
  · rw [List.length_append]
    omega
  · cases between with
    | nil =>
        rw [List.append_nil] at inside
        rw [inside]
        omega
    | cons first rest =>
        have bracket : first = '[' := (List.cons.inj starts).1.symm
        rw [inside, bracket] at noBracket
        simp at noBracket

private theorem appearsAt_cons_iff (first : Char) (rest : List Char) (name : String) (place : Nat) :
    AppearsAt (first :: rest) name place ↔
      (∃ (slice : Slice) (after : List Char), first :: rest = slice.text ++ after ∧
        slice.Names name place) ∨
      ∃ later, AppearsAt rest name later ∧ place = later + 1 := by
  constructor
  · rintro ⟨slice, before, after, offset, same, names, rfl⟩
    cases before with
    | nil =>
        refine .inl ⟨slice, after, same, ?_⟩
        rw [List.length_nil, Nat.zero_add]
        exact names
    | cons start more =>
        refine .inr ⟨more.length + offset, ⟨slice, more, after, offset, ?_, names, rfl⟩, ?_⟩
        · exact (List.cons.inj same).2
        · rw [List.length_cons]
          omega
  · rintro (⟨slice, after, same, names⟩ | ⟨_, ⟨slice, before, after, offset, rfl, names, rfl⟩, rfl⟩)
    · exact ⟨slice, [], after, place, same, names, (Nat.zero_add place).symm⟩
    · refine ⟨slice, first :: before, after, offset, rfl, names, ?_⟩
      rw [List.length_cons]
      omega

/-- What the scan finds are the places where parameters appear, in ascending order. -/
theorem exists_placed (source : List Char) :
    ∃ placed : List (String × Nat), placed.map (·.1) = sliceBounds source ∧
      (placed.Pairwise fun earlier later => earlier.2 < later.2) ∧
      ∀ name place, (name, place) ∈ placed ↔ AppearsAt source name place := by
  induction source with
  | nil =>
      refine ⟨[], rfl, .nil, fun name place => ⟨nofun, ?_⟩⟩
      rintro ⟨slice, before, after, offset, same, _⟩
      simp [Slice.text] at same
  | cons first rest ih =>
      obtain ⟨placed, names, ascending, appears⟩ := ih
      have shifted : (placed.map fun entry => (entry.1, entry.2 + 1)).map (·.1) =
          sliceBounds rest := by
        rw [← names, List.map_map]
        rfl
      have later : (placed.map fun entry => (entry.1, entry.2 + 1)).Pairwise
          fun earlier later => earlier.2 < later.2 :=
        List.pairwise_map.mpr (ascending.imp Nat.succ_lt_succ)
      have moved (name : String) (place : Nat) :
          (name, place) ∈ placed.map (fun entry => (entry.1, entry.2 + 1)) ↔
            ∃ later, AppearsAt rest name later ∧ place = later + 1 := by
        simp only [List.mem_map, Prod.exists, Prod.mk.injEq, appears]
        constructor
        · rintro ⟨_, later, there, rfl, rfl⟩
          exact ⟨later, there, rfl⟩
        · rintro ⟨later, there, rfl⟩
          exact ⟨name, later, there, rfl, rfl⟩
      rcases sliceBounds_cons_cases first rest with ⟨slice, after, same⟩ | ⟨none, skipped⟩
      · have inner : rest = slice.inner ++ after := (List.cons.inj same).2
        refine ⟨slice.placed ++ placed.map fun entry => (entry.1, entry.2 + 1), ?_, ?_, ?_⟩
        · rw [List.map_append, slice.placed_names, shifted, same, sliceBounds_slice, inner,
            sliceBounds_append slice.not_bracket]
        · refine List.pairwise_append.mpr ⟨slice.placed_ascending, later, ?_⟩
          rintro ⟨name, place⟩ here ⟨other, _⟩ there
          obtain ⟨place, behind, rfl⟩ := (moved _ _).mp there
          rw [inner] at behind
          have far := behind.of_append slice.not_bracket
          have near := ((slice.mem_placed_iff _ _).mp here).le.2
          dsimp only
          omega
        · intro name place
          rw [List.mem_append, slice.mem_placed_iff, moved, appearsAt_cons_iff]
          refine or_congr_left ⟨fun here => ⟨slice, after, same, here⟩, ?_⟩
          rintro ⟨other, others, alike, here⟩
          rw [same] at alike
          rw [Slice.eq_of_inner (List.cons.inj alike).2]
          exact here
      · refine ⟨placed.map fun entry => (entry.1, entry.2 + 1), ?_, later, ?_⟩
        · rw [shifted, skipped]
        · intro name place
          rw [moved, appearsAt_cons_iff, or_iff_right]
          rintro ⟨slice, after, same, _⟩
          exact none slice after same

/-- The parameters of a query's slices are those of all slices that stand anywhere in it, each once,
in the order in which they appear first. The leftmost matches of the slice pattern, none inside
another one, name no others. -/
theorem sliceParameters_complete (query : String) :
    (∀ name, name ∈ sliceParameters query ↔ ∃ place, AppearsAt query.toList name place) ∧
      (sliceParameters query).Nodup ∧
      ((sliceParameters query).Pairwise fun earlier later =>
        ∃ place, AppearsAt query.toList earlier place ∧
          ∀ other, AppearsAt query.toList later other → place < other) ∧
      sliceParameters query =
        ((slicePattern.search query.toList).flatMap boundNames).eraseDups := by
  obtain ⟨placed, names, ascending, appears⟩ := exists_placed query.toList
  refine ⟨fun name => ?_, eraseDups_nodup _, ?_, ?_⟩
  · rw [sliceParameters, List.mem_eraseDups, ← names]
    simp [appears]
  · rw [sliceParameters, ← names]
    simp only [← appears]
    exact eraseDups_firstPlaces ascending
  · rw [sliceParameters, search_slicePattern]

example : sliceParameters "*[[$from...$to]][0..$last][$to..9][$only]" = ["from", "to", "last"] := by
  decide +kernel

end QueryTypes.Query
