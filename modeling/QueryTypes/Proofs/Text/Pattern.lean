import Mathlib.Data.List.Infix
import Mathlib.Data.List.TakeWhile

/-!
Patterns over characters, and a search that backtracks.

A pattern lists all ways to match at the start of a text, in order of preference. The search takes
the first way at the first place that has one and goes on behind it. The order of the ways does not
matter where a pattern reads no more than one beginning of any text. A replacement keeps what stands
between the matches.
-/

set_option autoImplicit false

namespace QueryTypes.Text

inductive Pattern where
  | one (kind : Char → Bool)
  /-- One or more characters, preferably more. -/
  | run (kind : Char → Bool)
  /-- Preferably the pattern, otherwise nothing. -/
  | maybe (inner : Pattern)
  | either (first second : Pattern)
  | both (first second : Pattern)
  /-- Keeps the text that the pattern reads under a number. -/
  | group (number : Nat) (inner : Pattern)

abbrev Groups := List (Nat × List Char)

namespace Pattern

/-- What the pattern may read at the start of a text, with its groups, in order of preference. -/
def ways : Pattern → List Char → List (List Char × Groups)
  | one kind, source => match source with
      | [] => []
      | first :: _ => if kind first then [([first], [])] else []
  | run kind, source =>
      ((source.takeWhile kind).inits.reverse.filter fun text => !text.isEmpty).map fun text =>
        (text, [])
  | maybe inner, source => inner.ways source ++ [([], [])]
  | either first second, source => first.ways source ++ second.ways source
  | both first second, source =>
      (first.ways source).flatMap fun before =>
        (second.ways (source.drop before.1.length)).map fun after =>
          (before.1 ++ after.1, before.2 ++ after.2)
  | group number inner, source =>
      (inner.ways source).map fun way => (way.1, (number, way.1) :: way.2)

/-- The groups of all matches, from the left and none inside another one, of a pattern that reads
at least one character. -/
def search (pattern : Pattern) : List Char → List Groups
  | [] => []
  | first :: rest =>
      match (pattern.ways (first :: rest)).head? with
      | some (matched, groups) => groups :: pattern.search (rest.drop (matched.length - 1))
      | none => pattern.search rest
termination_by source => source.length
decreasing_by
  · simp only [List.length_drop, List.length_cons]
    omega
  · simp

inductive Reads : Pattern → List Char → Groups → Prop where
  | one {kind : Char → Bool} {char : Char} (fits : kind char = true) : Reads (one kind) [char] []
  | run {kind : Char → Bool} {text : List Char} (some : text ≠ [])
      (all : ∀ char ∈ text, kind char = true) : Reads (run kind) text []
  | given {inner : Pattern} {text : List Char} {groups : Groups} (reads : Reads inner text groups) :
      Reads (maybe inner) text groups
  | absent {inner : Pattern} : Reads (maybe inner) [] []
  | left {first second : Pattern} {text : List Char} {groups : Groups}
      (reads : Reads first text groups) : Reads (either first second) text groups
  | right {first second : Pattern} {text : List Char} {groups : Groups}
      (reads : Reads second text groups) : Reads (either first second) text groups
  | both {first second : Pattern} {text others : List Char} {groups further : Groups}
      (reads : Reads first text groups) (continues : Reads second others further) :
      Reads (both first second) (text ++ others) (groups ++ further)
  | group {number : Nat} {inner : Pattern} {text : List Char} {groups : Groups}
      (reads : Reads inner text groups) :
      Reads (group number inner) text ((number, text) :: groups)

section Inversion

variable {text : List Char} {groups : Groups}

theorem reads_one_iff {kind : Char → Bool} :
    (one kind).Reads text groups ↔ ∃ char, kind char = true ∧ text = [char] ∧ groups = [] := by
  constructor
  · rintro ⟨fits⟩
    exact ⟨_, fits, rfl, rfl⟩
  · rintro ⟨_, fits, rfl, rfl⟩
    exact .one fits

theorem reads_run_iff {kind : Char → Bool} :
    (run kind).Reads text groups ↔
      text ≠ [] ∧ (∀ char ∈ text, kind char = true) ∧ groups = [] := by
  constructor
  · rintro ⟨⟩
    exact ⟨by assumption, by assumption, rfl⟩
  · rintro ⟨some, all, rfl⟩
    exact .run some all

theorem reads_maybe_iff {inner : Pattern} :
    (maybe inner).Reads text groups ↔ inner.Reads text groups ∨ text = [] ∧ groups = [] := by
  constructor
  · intro reads
    cases reads with
    | given reads => exact .inl reads
    | absent => exact .inr ⟨rfl, rfl⟩
  · rintro (reads | ⟨rfl, rfl⟩)
    · exact .given reads
    · exact .absent

theorem reads_either_iff {first second : Pattern} :
    (either first second).Reads text groups ↔
      first.Reads text groups ∨ second.Reads text groups := by
  constructor
  · intro reads
    cases reads with
    | left reads => exact .inl reads
    | right reads => exact .inr reads
  · rintro (reads | reads)
    · exact .left reads
    · exact .right reads

theorem reads_both_iff {first second : Pattern} :
    (both first second).Reads text groups ↔
      ∃ before held, first.Reads before held ∧ ∃ after further, second.Reads after further ∧
        text = before ++ after ∧ groups = held ++ further := by
  constructor
  · intro reads
    cases reads with
    | both reads continues => exact ⟨_, _, reads, _, _, continues, rfl, rfl⟩
  · rintro ⟨_, _, reads, _, _, continues, rfl, rfl⟩
    exact .both reads continues

theorem reads_group_iff {number : Nat} {inner : Pattern} :
    (group number inner).Reads text groups ↔
      ∃ held, inner.Reads text held ∧ groups = (number, text) :: held := by
  constructor
  · intro reads
    cases reads with
    | group reads => exact ⟨_, reads, rfl⟩
  · rintro ⟨_, reads, rfl⟩
    exact .group reads

end Inversion

private theorem prefix_takeWhile_iff (kind : Char → Bool) (source text : List Char) :
    text <+: source.takeWhile kind ↔ text <+: source ∧ ∀ char ∈ text, kind char = true := by
  constructor
  · intro inside
    refine ⟨inside.trans (List.takeWhile_prefix kind), fun char present => ?_⟩
    exact List.mem_takeWhile_imp (inside.subset present)
  · rintro ⟨⟨rest, rfl⟩, all⟩
    rw [List.takeWhile_append_of_pos all]
    exact List.prefix_append _ _

/-- The ways of a pattern are the beginnings that it reads. -/
theorem mem_ways_iff {pattern : Pattern} {source text : List Char} {groups : Groups} :
    (text, groups) ∈ pattern.ways source ↔ text <+: source ∧ pattern.Reads text groups := by
  induction pattern generalizing source text groups with
  | one kind =>
      rw [reads_one_iff]
      cases source with
      | nil =>
          rw [ways, List.prefix_nil]
          constructor
          · exact nofun
          · rintro ⟨rfl, _, _, ⟨⟩, _⟩
      | cons first rest =>
          simp only [ways]
          by_cases fits : kind first = true
          · simp only [fits, if_true, List.mem_singleton, Prod.mk.injEq]
            constructor
            · rintro ⟨rfl, rfl⟩
              exact ⟨List.prefix_append [first] rest, first, fits, rfl, rfl⟩
            · rintro ⟨inside, char, _, rfl, rfl⟩
              simpa using inside
          · simp only [fits]
            constructor
            · exact nofun
            · rintro ⟨inside, char, other, rfl, _⟩
              obtain ⟨rfl, _⟩ := List.cons_prefix_cons.mp inside
              exact absurd other fits
  | run kind =>
      simp only [ways, List.mem_map, List.mem_filter, List.mem_reverse, List.mem_inits,
        prefix_takeWhile_iff, Prod.mk.injEq, reads_run_iff]
      constructor
      · rintro ⟨_, ⟨⟨inside, all⟩, some⟩, rfl, rfl⟩
        exact ⟨inside, by simpa using some, all, rfl⟩
      · rintro ⟨inside, some, all, rfl⟩
        exact ⟨text, ⟨⟨inside, all⟩, by simpa using some⟩, rfl, rfl⟩
  | maybe inner ih =>
      rw [ways, List.mem_append, ih, List.mem_singleton, Prod.mk.injEq, reads_maybe_iff]
      constructor
      · rintro (⟨inside, reads⟩ | ⟨rfl, rfl⟩)
        · exact ⟨inside, .inl reads⟩
        · exact ⟨List.nil_prefix, .inr ⟨rfl, rfl⟩⟩
      · rintro ⟨inside, reads | nothing⟩
        · exact .inl ⟨inside, reads⟩
        · exact .inr nothing
  | either first second ihFirst ihSecond =>
      rw [ways, List.mem_append, ihFirst, ihSecond, reads_either_iff, ← and_or_left]
  | both first second ihFirst ihSecond =>
      simp only [ways, List.mem_flatMap, List.mem_map, Prod.exists, Prod.mk.injEq, ihFirst,
        ihSecond, reads_both_iff]
      constructor
      · rintro ⟨before, held, ⟨⟨rest, rfl⟩, reads⟩, after, further, ⟨inside, continues⟩, rfl, rfl⟩
        rw [List.drop_left] at inside
        exact ⟨(List.prefix_append_right_inj before).mpr inside, before, held, reads, after,
          further, continues, rfl, rfl⟩
      · rintro ⟨⟨rest, rfl⟩, before, held, reads, after, further, continues, rfl, rfl⟩
        refine ⟨before, held, ⟨⟨after ++ rest, ?_⟩, reads⟩, after, further, ⟨?_, continues⟩, rfl,
          rfl⟩
        · rw [List.append_assoc]
        · rw [List.append_assoc, List.drop_left]
          exact List.prefix_append _ _
  | group number inner ih =>
      simp only [ways, List.mem_map, Prod.exists, Prod.mk.injEq, ih, reads_group_iff]
      constructor
      · rintro ⟨_, held, ⟨inside, reads⟩, rfl, rfl⟩
        exact ⟨inside, held, reads, rfl⟩
      · rintro ⟨inside, held, reads, rfl⟩
        exact ⟨text, held, ⟨inside, reads⟩, rfl, rfl⟩

/-! ### Searches with one way at each place -/

theorem search_of_none {pattern : Pattern} {first : Char} {rest : List Char}
    (none : ∀ text groups, text <+: first :: rest → ¬ pattern.Reads text groups) :
    pattern.search (first :: rest) = pattern.search rest := by
  have empty : pattern.ways (first :: rest) = [] := by
    refine List.eq_nil_iff_forall_not_mem.mpr fun way present => ?_
    obtain ⟨inside, reads⟩ := mem_ways_iff.mp present
    exact none _ _ inside reads
  rw [search, empty, List.head?_nil]

/-- Where all that a pattern reads at the start is the same, the search takes it, whatever the
order of the ways. -/
theorem search_of_only {pattern : Pattern} {text rest : List Char} {groups : Groups}
    (some : text ≠ []) (reads : pattern.Reads text groups)
    (only : ∀ other further, other <+: text ++ rest → pattern.Reads other further →
      other = text ∧ further = groups) :
    pattern.search (text ++ rest) = groups :: pattern.search rest := by
  have present : (text, groups) ∈ pattern.ways (text ++ rest) :=
    mem_ways_iff.mpr ⟨List.prefix_append _ _, reads⟩
  have head : (pattern.ways (text ++ rest)).head? = .some (text, groups) := by
    cases listed : pattern.ways (text ++ rest) with
    | nil =>
        rw [listed] at present
        cases present
    | cons way others =>
        have taken : way ∈ pattern.ways (text ++ rest) := by simp [listed]
        obtain ⟨inside, reads⟩ := mem_ways_iff.mp taken
        obtain ⟨same, alike⟩ := only _ _ inside reads
        rw [List.head?_cons, ← same, ← alike]
  obtain ⟨first, more, rfl⟩ := List.exists_cons_of_ne_nil some
  rw [List.cons_append] at head ⊢
  rw [search, head]
  simp

/-! ### Replacements -/

/-- The text in which the matches, from the left and none inside another one, give way to what
their groups make, for a pattern that reads at least one character. -/
def replaceAll (pattern : Pattern) (form : Groups → List Char) : List Char → List Char
  | [] => []
  | first :: rest =>
      match (pattern.ways (first :: rest)).head? with
      | some (matched, groups) =>
          form groups ++ pattern.replaceAll form (rest.drop (matched.length - 1))
      | none => first :: pattern.replaceAll form rest
termination_by source => source.length
decreasing_by
  · simp only [List.length_drop, List.length_cons]
    omega
  · simp

theorem replaceAll_of_none {pattern : Pattern} (form : Groups → List Char) {first : Char}
    {rest : List Char} (none : pattern.ways (first :: rest) = []) :
    pattern.replaceAll form (first :: rest) = first :: pattern.replaceAll form rest := by
  rw [replaceAll, none, List.head?_nil]

theorem replaceAll_of_some {pattern : Pattern} (form : Groups → List Char) {text rest : List Char}
    {groups : Groups} (some : text ≠ [])
    (preferred : (pattern.ways (text ++ rest)).head? = .some (text, groups)) :
    pattern.replaceAll form (text ++ rest) = form groups ++ pattern.replaceAll form rest := by
  obtain ⟨first, more, rfl⟩ := List.exists_cons_of_ne_nil some
  rw [List.cons_append] at preferred ⊢
  rw [replaceAll, preferred]
  simp

section GreedyRun

variable {kind : Char → Bool} {first : Char}

theorem ways_run_of_not (unfit : kind first = false) (rest : List Char) :
    (run kind).ways (first :: rest) = [] := by
  rw [ways, List.takeWhile_cons_of_neg (by rw [unfit]; exact Bool.false_ne_true)]
  rfl

private theorem inits_nonempty_cons (first : Char) (rest : List Char) :
    ((first :: rest).inits.filter fun text => !text.isEmpty) = rest.inits.map (first :: ·) := by
  rw [List.inits_cons, List.filter_cons_of_neg (by simp), List.filter_eq_self]
  intro text present
  obtain ⟨_, _, rfl⟩ := List.mem_map.mp present
  rfl

private theorem inits_eq_cons (source : List Char) :
    source.inits = [] :: source.inits.filter fun text => !text.isEmpty := by
  cases source with
  | nil => rfl
  | cons first rest => rw [inits_nonempty_cons, List.inits_cons]

/-- A longer run is preferred, so the ways that go on behind the first character come first. -/
theorem ways_run_cons (fits : kind first = true) (rest : List Char) :
    (run kind).ways (first :: rest) =
      ((run kind).ways rest).map (fun way => (first :: way.1, way.2)) ++ [([first], [])] := by
  have longer : ((first :: rest.takeWhile kind).inits.reverse.filter fun text => !text.isEmpty) =
      ((rest.takeWhile kind).inits.reverse.filter fun text => !text.isEmpty).map (first :: ·) ++
        [[first]] := by
    rw [List.filter_reverse, inits_nonempty_cons, List.filter_reverse, ← List.map_reverse]
    conv_lhs => rw [inits_eq_cons, List.reverse_cons, List.map_append]
    rfl
  simp only [ways]
  rw [List.takeWhile_cons_of_pos fits, longer, List.map_append, List.map_map, List.map_map]
  rfl

theorem ways_both (before after : Pattern) (source : List Char) :
    (both before after).ways source =
      (before.ways source).flatMap fun start =>
        (after.ways (source.drop start.1.length)).map fun way =>
          (start.1 ++ way.1, start.2 ++ way.2) := by
  rw [ways]

theorem ways_both_run_cons (fits : kind first = true) (next : Pattern) (rest : List Char) :
    (both (run kind) next).ways (first :: rest) =
      ((both (run kind) next).ways rest ++ next.ways rest).map fun way =>
        (first :: way.1, way.2) := by
  rw [ways_both, ways_both, ways_run_cons fits, List.flatMap_append, List.flatMap_map,
    List.flatMap_singleton, List.map_append, List.map_flatMap]
  simp only [List.map_map]
  rfl

end GreedyRun

end Pattern

end QueryTypes.Text
