import Mathlib.Data.List.Basic
import QueryTypes.Modules.Path

/-!
Joining a specifier to the file it stands in resolves it in the tree of directories.

A place in the tree is told by the names that lead down to it from the root. A path is followed from
a place piece by piece, as POSIX does where there are no links, and the place that it ends at has
one text: a slash before each name. A joined path is this text for what the specifier says in the
directory of the file.
-/

set_option autoImplicit false

namespace QueryTypes.Path

/-! ### Pieces -/

private theorem segments_ne_nil (path : List Char) : segments path ≠ [] := by
  fun_cases segments path <;> exact List.cons_ne_nil _ _

private theorem segments_slash (rest : List Char) :
    segments ('/' :: rest) = [] :: segments rest := by
  rw [segments]

private theorem segments_cons {char : Char} (other : char ≠ '/') {rest first : List Char}
    {others : List (List Char)} (split : segments rest = first :: others) :
    segments (char :: rest) = (char :: first) :: others := by
  rw [segments, split]
  exact other

/-- A slash ends one piece and starts the next. -/
theorem segments_append (before after : List Char) :
    segments (before ++ '/' :: after) = segments before ++ segments after := by
  induction before with
  | nil => exact segments_slash after
  | cons char rest ih =>
      by_cases slash : char = '/'
      · subst slash
        rw [List.cons_append, segments_slash, segments_slash, ih, List.cons_append]
      · obtain ⟨first, others, split⟩ := List.exists_cons_of_ne_nil (segments_ne_nil rest)
        rw [split, List.cons_append] at ih
        rw [List.cons_append, segments_cons slash ih, segments_cons slash split, List.cons_append]

private theorem segments_eq_singleton {piece : List Char} (single : '/' ∉ piece) :
    segments piece = [piece] := by
  induction piece with
  | nil => rfl
  | cons char rest ih =>
      rw [List.mem_cons, not_or] at single
      exact segments_cons (Ne.symm single.1) (ih single.2)

private theorem slash_notMem_of_mem_segments {path piece : List Char}
    (present : piece ∈ segments path) :
    '/' ∉ piece := by
  induction path generalizing piece with
  | nil =>
      rw [List.mem_singleton.mp present]
      exact List.not_mem_nil
  | cons char rest ih =>
      by_cases slash : char = '/'
      · subst slash
        rw [segments_slash] at present
        rcases List.mem_cons.mp present with rfl | later
        · exact List.not_mem_nil
        · exact ih later
      · obtain ⟨first, others, split⟩ := List.exists_cons_of_ne_nil (segments_ne_nil rest)
        rw [segments_cons slash split] at present
        rcases List.mem_cons.mp present with rfl | later
        · rw [List.mem_cons, not_or]
          exact ⟨Ne.symm slash, ih (split ▸ List.mem_cons_self)⟩
        · exact ih (split ▸ List.mem_cons_of_mem _ later)

private theorem joined_cons {others : List (List Char)} (some : others ≠ []) (first : List Char) :
    joined (first :: others) = first ++ '/' :: joined others :=
  joined.eq_3 first others some

private theorem joined_concat {pieces : List (List Char)} (some : pieces ≠ []) (last : List Char) :
    joined (pieces ++ [last]) = joined pieces ++ '/' :: last := by
  induction pieces with
  | nil => exact absurd rfl some
  | cons first others ih =>
      cases others with
      | nil => rfl
      | cons second others =>
          have several : second :: others ≠ [] := List.cons_ne_nil second others
          rw [List.cons_append, joined_cons (List.append_ne_nil_of_left_ne_nil several [last]),
            ih several, joined_cons several, List.append_assoc, List.cons_append]

private theorem joined_segments (path : List Char) : joined (segments path) = path := by
  induction path with
  | nil => rfl
  | cons char rest ih =>
      by_cases slash : char = '/'
      · subst slash
        rw [segments_slash, joined_cons (segments_ne_nil rest), ih, List.nil_append]
      · obtain ⟨first, others, split⟩ := List.exists_cons_of_ne_nil (segments_ne_nil rest)
        rw [split] at ih
        rw [segments_cons slash split, ← ih]
        cases others with
        | nil => rfl
        | cons second others => rfl

/-! ### Places -/

structure IsName (piece : List Char) : Prop where
  filled : piece ≠ []
  notHere : piece ≠ ['.']
  notAbove : piece ≠ ['.', '.']
  single : '/' ∉ piece

instance (piece : List Char) : Decidable (IsName piece) :=
  decidable_of_iff (piece ≠ [] ∧ piece ≠ ['.'] ∧ piece ≠ ['.', '.'] ∧ '/' ∉ piece)
    ⟨fun ⟨filled, notHere, notAbove, single⟩ => ⟨filled, notHere, notAbove, single⟩,
      fun ⟨filled, notHere, notAbove, single⟩ => ⟨filled, notHere, notAbove, single⟩⟩

/-- The text of a place, which is told by its name and those of the directories around it, the
innermost first. The root has no name and an empty text. -/
def placeText : List (List Char) → List Char
  | [] => []
  | name :: above => placeText above ++ '/' :: name

/-- Where a path leads from a place, piece by piece. Above the root is the root. -/
inductive Leads : List (List Char) → List (List Char) → List (List Char) → Prop where
  | arrived (place : List (List Char)) : Leads place [] place
  | stay {place rest target : List (List Char)} {piece : List Char}
      (idle : piece = [] ∨ piece = ['.']) (further : Leads place rest target) :
      Leads place (piece :: rest) target
  | atRoot {rest target : List (List Char)} (further : Leads [] rest target) :
      Leads [] (['.', '.'] :: rest) target
  | up {above rest target : List (List Char)} {name : List Char}
      (further : Leads above rest target) : Leads (name :: above) (['.', '.'] :: rest) target
  | down {place rest target : List (List Char)} {name : List Char} (isName : IsName name)
      (further : Leads (name :: place) rest target) : Leads place (name :: rest) target

private theorem Leads.target_unique {place pieces target other : List (List Char)}
    (leads : Leads place pieces target) (also : Leads place pieces other) : target = other := by
  induction leads generalizing other with
  | arrived place =>
      cases also
      rfl
  | stay idle _ ih =>
      cases also with
      | stay _ further => exact ih further
      | atRoot further | up further => exact absurd idle (by decide)
      | down isName further => exact absurd idle (not_or.mpr ⟨isName.filled, isName.notHere⟩)
  | atRoot _ ih =>
      cases also with
      | stay idle further => exact absurd idle (by decide)
      | atRoot further => exact ih further
      | down isName further => exact absurd rfl isName.notAbove
  | up _ ih =>
      cases also with
      | stay idle further => exact absurd idle (by decide)
      | up further => exact ih further
      | down isName further => exact absurd rfl isName.notAbove
  | down isName _ ih =>
      cases also with
      | stay idle further => exact absurd idle (not_or.mpr ⟨isName.filled, isName.notHere⟩)
      | atRoot further | up further => exact absurd rfl isName.notAbove
      | down _ further => exact ih further

theorem Leads.append {place first rest middle target : List (List Char)}
    (leads : Leads place first middle) (further : Leads middle rest target) :
    Leads place (first ++ rest) target := by
  induction leads with
  | arrived place => exact further
  | stay idle _ ih => exact .stay idle (ih further)
  | atRoot _ ih => exact .atRoot (ih further)
  | up _ ih => exact .up (ih further)
  | down isName _ ih => exact .down isName (ih further)

/-- The normal form of an absolute path: the text of the place that it leads to from the root, in
which names only are left. -/
def Normalizes (path result : List Char) : Prop :=
  ∃ place, Leads [] (segments path) place ∧ (∀ name ∈ place, IsName name) ∧
    result = placeText place

def IsAbsolute (path : List Char) : Prop :=
  ∃ rest, path = '/' :: rest ∧ ∀ piece ∈ segments rest, IsName piece

/-! ### Following pieces -/

private theorem segments_placeText {place : List (List Char)}
    (names : ∀ name ∈ place, IsName name) :
    segments (placeText place) = [] :: place.reverse := by
  induction place with
  | nil => rfl
  | cons name above ih =>
      obtain ⟨isName, others⟩ := List.forall_mem_cons.mp names
      rw [placeText, segments_append, ih others, segments_eq_singleton isName.single,
        List.reverse_cons, List.cons_append]

private theorem joined_place (place : List (List Char)) :
    joined ([] :: place.reverse) = placeText place := by
  induction place with
  | nil => rfl
  | cons name above ih =>
      rw [List.reverse_cons, ← List.cons_append, joined_concat (List.cons_ne_nil _ _), ih,
        placeText]

/-- Following pieces from a place ends at the place that they lead to. -/
theorem foldl_follow_leads (pieces : List (List Char)) {place : List (List Char)}
    (names : ∀ name ∈ place, IsName name) (single : ∀ piece ∈ pieces, '/' ∉ piece) :
    ∃ target, pieces.foldl follow ([] :: place.reverse) = [] :: target.reverse ∧
      Leads place pieces target ∧ ∀ name ∈ target, IsName name := by
  induction pieces generalizing place with
  | nil => exact ⟨place, rfl, .arrived place, names⟩
  | cons piece rest ih =>
      obtain ⟨own, later⟩ := List.forall_mem_cons.mp single
      rw [List.foldl_cons, follow]
      split
      · rename_i idle
        obtain ⟨target, ends, leads, kept⟩ := ih names later
        exact ⟨target, ends, .stay idle leads, kept⟩
      · rename_i busy
        rw [not_or] at busy
        split
        · rename_i climbs
          subst climbs
          cases place with
          | nil =>
              obtain ⟨target, ends, leads, kept⟩ := ih names later
              exact ⟨target, ends, .atRoot leads, kept⟩
          | cons name above =>
              obtain ⟨target, ends, leads, kept⟩ := ih (List.forall_mem_cons.mp names).2 later
              refine ⟨target, ?_, .up leads, kept⟩
              rw [if_pos (by simp), List.reverse_cons, ← List.cons_append, List.dropLast_concat]
              exact ends
        · rename_i descends
          have isName : IsName piece := ⟨busy.1, busy.2, descends, own⟩
          obtain ⟨target, ends, leads, kept⟩ :=
            ih (List.forall_mem_cons.mpr ⟨isName, names⟩) later
          refine ⟨target, ?_, .down isName leads, kept⟩
          rw [List.reverse_cons, ← List.cons_append] at ends
          exact ends

/-- The names on the way down are no detour. -/
theorem Leads.descend {place names rest target : List (List Char)}
    (all : ∀ name ∈ names, IsName name) (leads : Leads (names.reverse ++ place) rest target) :
    Leads place (names ++ rest) target := by
  induction names generalizing place with
  | nil => exact leads
  | cons name names ih =>
      obtain ⟨isName, others⟩ := List.forall_mem_cons.mp all
      rw [List.reverse_cons, List.append_assoc, List.singleton_append] at leads
      exact .down isName (ih others leads)

/-- A path by names only is the text of a place below the root. -/
theorem IsAbsolute.exists_place {path : List Char} (rooted : IsAbsolute path) :
    ∃ file above, path = placeText (file :: above) ∧ ∀ name ∈ file :: above, IsName name := by
  obtain ⟨rest, rfl, names⟩ := rooted
  have listed : (segments rest).reverse ≠ [] :=
    fun empty => segments_ne_nil rest (List.reverse_eq_nil_iff.mp empty)
  obtain ⟨file, above, order⟩ := List.exists_cons_of_ne_nil listed
  refine ⟨file, above, ?_, fun name present => ?_⟩
  · rw [← joined_place, ← order, List.reverse_reverse, ← segments_slash, joined_segments]
  · rw [← order, List.mem_reverse] at present
    exact names name present

private theorem directoryOf_placeText {file : List Char} {above : List (List Char)}
    (single : '/' ∉ file) (names : ∀ name ∈ above, IsName name) :
    directoryOf (placeText above ++ '/' :: file) = [] :: above.reverse := by
  rw [directoryOf, segments_append, segments_placeText names, segments_eq_singleton single,
    List.dropLast_concat]

/-- A specifier joined to a file in the directory of a place leads from this place on. -/
theorem join_placeText {importer : String} {file : List Char} {above : List (List Char)}
    (placed : importer.toList = placeText above ++ '/' :: file) (single : '/' ∉ file)
    (names : ∀ name ∈ above, IsName name) (specifier : String) :
    ∃ target, (join importer specifier).toList = placeText target ∧
      Leads above (segments specifier.toList) target ∧ ∀ name ∈ target, IsName name := by
  obtain ⟨target, ends, leads, kept⟩ :=
    foldl_follow_leads (segments specifier.toList) names fun _ => slash_notMem_of_mem_segments
  refine ⟨target, ?_, leads, kept⟩
  rw [join, String.toList_ofList, placed, directoryOf_placeText single names, ends, joined_place]

/-- Joining a specifier to a file gives the one normal form of what the specifier names in the
file's directory, and a longer specifier may be joined part by part. -/
theorem join_normalizes {importer : String} (rooted : IsAbsolute importer.toList)
    (specifier : String) :
    (∃ directory file, importer.toList = directory ++ '/' :: file ∧ '/' ∉ file ∧
      ∀ result, Normalizes (directory ++ '/' :: specifier.toList) result.toList ↔
        result = join importer specifier) ∧
    ∀ further name : String, '/' ∉ name.toList →
      join importer (specifier ++ "/" ++ further) =
        join (join importer specifier ++ "/" ++ name) further := by
  obtain ⟨file, above, placed, all⟩ := rooted.exists_place
  obtain ⟨isName, names⟩ := List.forall_mem_cons.mp all
  obtain ⟨target, ends, leads, kept⟩ := join_placeText placed isName.single names specifier
  refine ⟨⟨placeText above, file, placed, isName.single, fun result => ?_⟩, ?_⟩
  · have reached : Leads [] (segments (placeText above ++ '/' :: specifier.toList)) target := by
      rw [segments_append, segments_placeText names]
      refine .stay (.inl rfl) (Leads.descend (fun name => names name ∘ List.mem_reverse.mp) ?_)
      rw [List.reverse_reverse, List.append_nil]
      exact leads
    constructor
    · rintro ⟨other, also, _, text⟩
      rw [also.target_unique reached, ← ends] at text
      exact String.toList_inj.mp text
    · rintro rfl
      exact ⟨target, reached, kept, ends⟩
  · intro further name single
    have within : (join importer specifier ++ "/" ++ name).toList =
        placeText target ++ '/' :: name.toList := by
      simp [ends]
    obtain ⟨last, lastEnds, lastLeads, _⟩ := join_placeText within single kept further
    obtain ⟨other, otherEnds, otherLeads, _⟩ :=
      join_placeText placed isName.single names (specifier ++ "/" ++ further)
    have split : segments (specifier ++ "/" ++ further).toList =
        segments specifier.toList ++ segments further.toList := by
      rw [← segments_append]
      simp
    rw [split] at otherLeads
    rw [← String.toList_inj, lastEnds, otherEnds,
      otherLeads.target_unique (leads.append lastLeads)]

/-- A specifier that climbs past the root and goes down again. -/
theorem join_normalizes_past_root :
    IsAbsolute "/app/page.ts".toList ∧
      (∃ directory file, "/app/page.ts".toList = directory ++ '/' :: file ∧ '/' ∉ file ∧
        Normalizes (directory ++ '/' :: "../../lib//./old/..".toList) "/lib".toList) ∧
      join "/app/page.ts" ("../../lib//./old/.." ++ "/" ++ "../q") =
        join ("/lib" ++ "/" ++ "index.ts") "../q" := by
  have rooted : IsAbsolute "/app/page.ts".toList :=
    ⟨"app/page.ts".toList, by decide, by decide⟩
  have joins : join "/app/page.ts" "../../lib//./old/.." = "/lib" := by decide
  obtain ⟨⟨directory, file, placed, single, normal⟩, parts⟩ :=
    join_normalizes rooted "../../lib//./old/.."
  have further := parts "../q" "index.ts" (by decide)
  rw [joins] at further
  exact ⟨rooted, ⟨directory, file, placed, single, (normal "/lib").mpr joins.symm⟩, further⟩

end QueryTypes.Path
