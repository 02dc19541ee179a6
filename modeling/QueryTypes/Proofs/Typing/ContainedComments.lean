import QueryTypes.Proofs.Declared.Comments
import QueryTypes.Proofs.Typing.References

/-!
What can get out of the comments of a generated file.

Line comments hold paths, names of variables and texts of queries, and block comments hold the names
of types that the schema does not have. Of all this only the texts of queries are looked after, and
of the four characters that end a line only two are taken out of them. The main statement says for
every file which texts leave its comments.
-/

set_option autoImplicit false

namespace QueryTypes.Typing

open QueryTypes.Schema
open QueryTypes.Declared
open QueryTypes.Resolution

/-! ### Block comments -/

def Naming.NotesMissing (naming : Naming) (note : String) : Prop :=
  ∃ name, naming.identifiers.lookup name = none ∧ note = naming.missingComment name

private theorem notesMissing_kept (naming : Naming) :
    KeptByDescription naming fun type => ∀ note ∈ type.notes, naming.NotesMissing note where
  keyword := fun _ => nofun
  string := fun _ => nofun
  number := fun _ => nofun
  boolean := fun _ => nofun
  named := fun _ => nofun
  missing := fun missing => List.forall_mem_singleton.mpr ⟨_, missing, rfl⟩
  array := by
    intro element inside note present
    obtain ⟨type, among, here⟩ := mem_notesOfAll.mp present
    rw [List.mem_singleton.mp among] at here
    exact inside note here
  keyedArray := by
    intro element inside note present
    obtain ⟨type, among, here⟩ := mem_notesOfAll.mp present
    rw [List.mem_singleton.mp among] at here
    exact inside note here
  union := by
    intro types all note present
    obtain ⟨type, among, here⟩ := mem_notesOfAll.mp present
    exact all type among note here
  intersection := by
    intro types all note present
    obtain ⟨type, among, here⟩ := mem_notesOfAll.mp present
    exact all type among note here
  literal := by
    intro members all note present
    obtain ⟨member, among, here⟩ := mem_notesOfMembers.mp present
    exact all member among note here

/-- Names are written as they are. The quotes around them keep them apart from the rest. -/
theorem Naming.missingComment_closes_iff (naming : Naming) (name : String) :
    ClosesComment (naming.missingComment name) ↔
      ClosesComment name ∨ ClosesComment naming.schemaId := by
  have opening : ¬ ClosesComment " Unable to locate the referenced type \"" := by decide
  have between : ¬ ClosesComment "\" in schema \"" := by decide
  have closing : ¬ ClosesComment "\" " := by decide
  have quote (before : String) : (before ++ "\" in schema \"").toList.getLast? = some '"' := by
    rw [String.toList_append, List.getLast?_append]
    rfl
  unfold missingComment
  rw [closesComment_append (.inr (by decide)),
    closesComment_append (.inl (by rw [quote]; decide)),
    closesComment_append (.inr (by decide)), closesComment_append (.inl (by decide)),
    iff_false_intro opening, iff_false_intro between, iff_false_intro closing, false_or, or_false,
    or_false]

/-! ### Line comments -/

section Lines

/-- Line breaks never come from the text of a query, but the other two ends of a line may. -/
theorem oneLine_flatten_iff (text : String) :
    OneLine (Text.flatten text) ↔ (Text.flatten text).toList.any isSeparator = false := by
  have kept : ∀ char ∈ (Text.flatten text).toList, char ≠ '\n' ∧ char ≠ '\r' := by
    intro char present
    unfold Text.flatten Text.trimmed at present
    rw [String.toList_ofList, List.mem_reverse] at present
    have inside := (List.dropWhile_suffix _).subset present
    rw [List.mem_reverse] at inside
    have among := (List.dropWhile_suffix _).subset inside
    simpa using (List.mem_filter.mp among).2
  unfold OneLine
  rw [List.any_eq_false, List.any_eq_false]
  refine forall₂_congr fun char present => ?_
  simp [isLineEnd, isSeparator, kept char present]

structure ResultInLine (options : Options) (path : String) (declared : QueryVariable)
    (text : String) : Prop where
  path : OneLine (Path.shown options.root path)
  name : OneLine declared.name
  text : (Text.flatten text).toList.any isSeparator = false

private theorem resultComments_inLine_iff (options : Options) (path : String)
    (declared : QueryVariable) {title : String} (plain : OneLine title) (text : String) :
    (∀ comment ∈ resultComments options path declared title text, OneLine comment) ↔
      ResultInLine options path declared text := by
  have source : OneLine " Source: " := by decide
  have named : OneLine " Variable: " := by decide
  have blank : OneLine " " := by decide
  have colon : OneLine ": " := by decide
  unfold resultComments
  simp only [List.forall_mem_cons, List.not_mem_nil, false_imp_iff, implies_true, and_true,
    oneLine_append, source, named, blank, colon, plain, true_and, oneLine_flatten_iff]
  exact ⟨fun ⟨path, name, text⟩ => ⟨path, name, text⟩, fun all => ⟨all.path, all.name, all.text⟩⟩

structure EvaluatedModule.InLine (options : Options) (module : EvaluatedModule) : Prop where
  queries : ∀ query ∈ module.queries,
    ResultInLine options query.extracted.path query.extracted.declared query.extracted.query
  projections : ∀ projection ∈ module.projections,
    ResultInLine options projection.extracted.path projection.extracted.declared
      projection.extracted.projection

private theorem moduleDeclarations_inLine_iff (options : Options) (module : EvaluatedModule) :
    (∀ declaration ∈ moduleDeclarations options module, declaration.CommentsInLine) ↔
      module.InLine options := by
  have ofQuery (query : EvaluatedQuery) : (queryDeclaration options query).CommentsInLine ↔
      ResultInLine options query.extracted.path query.extracted.declared
        query.extracted.query := by
    unfold TopLevel.CommentsInLine queryDeclaration
    rw [TopLevel.comments_withComments, TopLevel.comments_exportedAlias, List.nil_append]
    exact resultComments_inLine_iff options _ _ (by decide) _
  have ofProjection (projection : EvaluatedProjection) :
      (projectionDeclaration options projection).CommentsInLine ↔
        ResultInLine options projection.extracted.path projection.extracted.declared
          projection.extracted.projection := by
    unfold TopLevel.CommentsInLine projectionDeclaration
    rw [TopLevel.comments_withComments, TopLevel.comments_exportedAlias, List.nil_append]
    exact resultComments_inLine_iff options _ _ (by decide) _
  unfold moduleDeclarations
  rw [List.forall_mem_append, List.forall_mem_map, List.forall_mem_map]
  simp only [ofQuery, ofProjection]
  exact ⟨fun all => ⟨all.1, all.2⟩, fun all => ⟨all.queries, all.projections⟩⟩

private theorem defaultSchemaDeclaration_inLine_iff (options : Options) :
    (defaultSchemaDeclaration options).CommentsInLine ↔
      ∀ path ∈ options.schemaPath, OneLine (Path.shown options.root path) := by
  have source : OneLine " Source: " := by decide
  unfold TopLevel.CommentsInLine defaultSchemaDeclaration
  rw [TopLevel.comments_withComments, TopLevel.comments_exportedAlias, List.nil_append,
    List.forall_mem_map]
  simp only [oneLine_append, source, true_and, Option.mem_toList, Option.mem_def]

private theorem queryMapDeclarations_inLine (options : Options) (modules : List EvaluatedModule) :
    ∀ declaration ∈ queryMapDeclarations options modules, declaration.CommentsInLine := by
  unfold queryMapDeclarations
  dsimp only
  split
  · exact nofun
  · intro declaration present
    obtain ⟨index, _, rfl⟩ := List.mem_mapIdx.mp present
    refine TopLevel.augmentation_inLine ?_
    split <;> decide

/-- Only what comes from outside can leave its line. -/
theorem fileDeclarations_inLine_iff (types : SchemaTypes) (options : Options)
    (modules : List EvaluatedModule) :
    (∀ declaration ∈ fileDeclarations types options modules, declaration.CommentsInLine) ↔
      (∀ path ∈ options.schemaPath, OneLine (Path.shown options.root path)) ∧
        ∀ module ∈ modules, module.InLine options := by
  have imports (projected : Bool) : ∀ declaration ∈ if projected then [projectionImport] else [],
      declaration.CommentsInLine := by
    cases projected
    · exact nofun
    · exact List.forall_mem_singleton.mpr nofun
  have symbol : symbolDeclaration.CommentsInLine := nofun
  have keyedArray : keyedArrayDeclaration.CommentsInLine := nofun
  have ofSchema : ∀ declaration ∈ schemaDeclarations types, declaration.CommentsInLine :=
    List.forall_mem_map.mpr fun _ _ => nofun
  have allTypes : (allTypesDeclaration types).CommentsInLine := nofun
  have schemas (augment : Bool) :
      ∀ declaration ∈ if augment then [schemasDeclaration types] else [],
        declaration.CommentsInLine := by
    cases augment
    · exact nofun
    · exact List.forall_mem_singleton.mpr (TopLevel.augmentation_inLine (by decide))
  have projectionMap (augment : Bool) :
      ∀ declaration ∈ if augment then [projectionMapDeclaration modules] else [],
        declaration.CommentsInLine := by
    cases augment
    · exact nofun
    · exact List.forall_mem_singleton.mpr (TopLevel.augmentation_inLine (by decide))
  unfold fileDeclarations
  dsimp only
  simp only [List.forall_mem_append, List.forall_mem_cons, List.not_mem_nil, false_imp_iff,
    implies_true, and_true, symbol, keyedArray, allTypes, true_and,
    defaultSchemaDeclaration_inLine_iff, ← moduleDeclarations_inLine_iff, List.mem_flatMap]
  constructor
  · rintro ⟨⟨⟨⟨⟨_, schemaPath⟩, results⟩, _⟩, _⟩, _⟩
    exact ⟨schemaPath, fun module among declaration inside =>
      results declaration ⟨module, among, inside⟩⟩
  · rintro ⟨schemaPath, results⟩
    refine ⟨⟨⟨⟨⟨⟨imports _, ofSchema⟩, schemaPath⟩, ?_⟩, schemas _⟩,
      queryMapDeclarations_inLine options modules⟩, projectionMap _⟩
    rintro declaration ⟨module, among, inside⟩
    exact results module among declaration inside

end Lines

/-! ### The whole file -/

section File

variable {Ast : Type} {types : SchemaTypes}

private theorem notesOfMembers_mapMembers (entries : List (String × String)) :
    notesOfMembers (mapMembers entries) = [] := by
  refine List.eq_nil_iff_forall_not_mem.mpr fun note present => ?_
  obtain ⟨member, among, inside⟩ := mem_notesOfMembers.mp present
  obtain ⟨group, _, rfl⟩ := List.mem_map.mp among
  obtain ⟨type, listed, here⟩ := mem_notesOfAll.mp inside
  obtain ⟨name, _, rfl⟩ := List.mem_map.mp listed
  cases here

/-- The types of a module's results comment on nothing but names that the schema does not have. -/
theorem generate_results_notes {language : Query.Language Ast} {options : Options}
    {cache : QueryCache} (reached : types.Reached cache) {modules : List ExtractedModule}
    {module : EvaluatedModule}
    (among : module ∈ (generate types language options cache modules).modules) :
    ∀ declaration ∈ moduleDeclarations options module, ∀ note ∈ declaration.notes,
      types.naming.NotesMissing note := by
  refine List.forall_mem_append.mpr ⟨?_, ?_⟩
  · refine List.forall_mem_map.mpr fun query present => ?_
    obtain ⟨node, same⟩ := generate_queries_evaluated reached among present
    rw [queryDeclaration, TopLevel.notes_withComments, TopLevel.notes_exportedAlias, same]
    exact (notesMissing_kept types.naming).describe node
  · refine List.forall_mem_map.mpr fun projection present => ?_
    obtain ⟨_, _, accounted⟩ := exists_accounted among
    rw [projectionDeclaration, TopLevel.notes_withComments, TopLevel.notes_exportedAlias]
    refine SchemaTypes.evaluateProjection_kept (notesMissing_kept types.naming) ?_
      (accounted.projection present)
    intro object document inside note noted
    obtain ⟨type, listed, here⟩ := mem_notesOfAll.mp noted
    rcases List.mem_cons.mp listed with same | last
    · exact inside note (same ▸ here)
    · rw [List.mem_singleton.mp last] at here
      cases here

private theorem fileDeclarations_notes {schemaId : String} {schema : List Declaration}
    (accepted : SchemaTypes.ofSchema schemaId schema = .ok types) (options : Options)
    {modules : List EvaluatedModule}
    (results : ∀ module ∈ modules, ∀ declaration ∈ moduleDeclarations options module,
      ∀ note ∈ declaration.notes, types.naming.NotesMissing note) :
    ∀ declaration ∈ fileDeclarations types options modules, ∀ note ∈ declaration.notes,
      types.naming.NotesMissing note := by
  have silent {declaration : TopLevel} (none : declaration.notes = []) :
      ∀ note ∈ declaration.notes, types.naming.NotesMissing note := by
    rw [none]
    exact nofun
  unfold fileDeclarations
  dsimp only
  simp only [List.forall_mem_append]
  refine ⟨⟨⟨⟨⟨⟨⟨?_, ?_⟩, ?_⟩, ?_⟩, ?_⟩, ?_⟩, ?_⟩, ?_⟩
  · split
    · exact List.forall_mem_singleton.mpr nofun
    · exact nofun
  · exact List.forall_mem_cons.mpr ⟨nofun, List.forall_mem_singleton.mpr nofun⟩
  · refine List.forall_mem_map.mpr fun named listed => ?_
    obtain ⟨described, _, same⟩ := SchemaTypes.all_described accepted listed
    rw [TopLevel.notes_exportedAlias, same]
    exact (notesMissing_kept types.naming).describeDeclaration described
  · refine List.forall_mem_cons.mpr ⟨silent ?_, List.forall_mem_singleton.mpr nofun⟩
    unfold allTypesDeclaration
    dsimp only
    split
    · rfl
    · refine List.eq_nil_iff_forall_not_mem.mpr fun note present => ?_
      obtain ⟨type, listed, here⟩ := mem_notesOfAll.mp present
      obtain ⟨name, _, rfl⟩ := List.mem_map.mp listed
      cases here
  · intro declaration present
    obtain ⟨module, among, inside⟩ := List.mem_flatMap.mp present
    exact results module among declaration inside
  · split
    · exact List.forall_mem_singleton.mpr nofun
    · exact nofun
  · unfold queryMapDeclarations
    dsimp only
    split
    · exact nofun
    · intro declaration present
      obtain ⟨index, _, rfl⟩ := List.mem_mapIdx.mp present
      exact silent (notesOfMembers_mapMembers _)
  · split
    · exact List.forall_mem_singleton.mpr (silent (notesOfMembers_mapMembers _))
    · exact nofun

private theorem SchemaTypes.schemaId_of_ofSchema {schemaId : String} {schema : List Declaration}
    (accepted : SchemaTypes.ofSchema schemaId schema = .ok types) :
    types.naming.schemaId = schemaId := by
  unfold SchemaTypes.ofSchema at accepted
  dsimp only at accepted
  split at accepted
  · cases accepted
  · cases accepted
    rfl

/-- What can leave the comments of a file. The line comments stay in their lines if and only if all
paths and names of variables do, and no query or projection holds one of the two ends of a line that
are not taken out of it. A block comment is one on a name that the schema does not have, and ends
early if and only if that name or the schema's own holds the end of a comment. -/
theorem generate_comments_contained_iff {schemaId : String} {schema : List Declaration}
    (accepted : SchemaTypes.ofSchema schemaId schema = .ok types)
    (language : Query.Language Ast) (options : Options) {cache : QueryCache}
    (reached : types.Reached cache) (modules : List ExtractedModule) :
    let generated := generate types language options cache modules
    ((∀ declaration ∈ generated.declarations, declaration.CommentsInLine) ↔
        (∀ path ∈ options.schemaPath, OneLine (Path.shown options.root path)) ∧
          ∀ module ∈ generated.modules, module.InLine options) ∧
      ∀ declaration ∈ generated.declarations, ∀ note ∈ declaration.notes,
        ∃ name, types.naming.identifiers.lookup name = none ∧
          note = types.naming.missingComment name ∧
          (ClosesComment note ↔ ClosesComment name ∨ ClosesComment schemaId) := by
  intro generated
  refine ⟨fileDeclarations_inLine_iff types options generated.modules, ?_⟩
  intro declaration present note noted
  have results : ∀ module ∈ generated.modules, ∀ declaration ∈ moduleDeclarations options module,
      ∀ note ∈ declaration.notes, types.naming.NotesMissing note :=
    fun module among => generate_results_notes reached among
  obtain ⟨name, missing, same⟩ :=
    fileDeclarations_notes accepted options results declaration present note noted
  refine ⟨name, missing, same, ?_⟩
  rw [same, Naming.missingComment_closes_iff, SchemaTypes.schemaId_of_ofSchema accepted]

end File

def danglingSchema : List Declaration := [.document "post" [("tag", ⟨.inline "gone", false⟩)]]

def titleModule (between : Char) : ExtractedModule :=
  let origin : Source.Position := ⟨1, 0, 0⟩
  ⟨"/page.ts", [⟨"/page.ts", ⟨"query", .nowhere, ⟨origin, origin⟩⟩,
    "*[title == \"a" ++ String.singleton between ++ "b\"]"⟩], [], []⟩

theorem line_break_contained :
    ∃ types, SchemaTypes.ofSchema "default" danglingSchema = .ok types ∧ types.Reached [] ∧
      let generated := generate types openLanguage .standard [] [titleModule '\n']
      (∀ declaration ∈ generated.declarations, declaration.CommentsInLine) ∧
        generated.declarations.flatMap TopLevel.notes =
          [" Unable to locate the referenced type \"gone\" in schema \"default\" "] := by
  have accepted : SchemaTypes.ofSchema "default" danglingSchema = .ok _ := rfl
  refine ⟨_, accepted, .fresh, ?_, by decide +kernel⟩
  refine (generate_comments_contained_iff accepted openLanguage .standard .fresh
    [titleModule '\n']).1.mpr ⟨nofun, ?_⟩
  refine List.forall_mem_singleton.mpr ⟨List.forall_mem_singleton.mpr ?_, nofun⟩
  exact ⟨by decide +kernel, by decide +kernel, by decide +kernel⟩

/-- The rest of the query is not part of the comment any more. -/
theorem line_separator_leaves_comment :
    ∃ types, SchemaTypes.ofSchema "default" [] = .ok types ∧
      let generated := generate types openLanguage .standard [] [titleModule '\u2028']
      ∃ declaration ∈ generated.declarations,
        " Query: *[title == \"a\u2028b\"]" ∈ declaration.comments ∧
          ¬ OneLine " Query: *[title == \"a\u2028b\"]" := by
  exact ⟨_, rfl, by decide +kernel⟩

end QueryTypes.Typing
