import Mathlib.Data.List.Induction
import QueryTypes.Proofs.Repetitions
import QueryTypes.Proofs.Typing.References
import QueryTypes.Proofs.Typing.Verdicts

/-!
The maps from queries and projections to the types of their results.

Results are grouped by their text, texts and results in the order in which they come up. Since no
two results have one name, each of them stands at one place of a map only.
-/

set_option autoImplicit false

namespace QueryTypes.Declared

def TopLevel.interface? (name : String) : TopLevel → Option (String × List Member)
  | .augmentation target interface _ =>
      if interface.name = name then some (target, interface.members) else none
  | .importType _ _ _ | .constant _ _ _ | .alias _ _ _ _ _ => none

private theorem TopLevel.interface?_augmentation (wanted target name : String)
    (members : List Member) (comments : List String) :
    (augmentation target ⟨name, members⟩ comments).interface? wanted =
      if name = wanted then some (target, members) else none := rfl

@[simp] theorem TopLevel.interface?_withComments (name : String) (lines : List String)
    (declaration : TopLevel) :
    (declaration.withComments lines).interface? name = declaration.interface? name := by
  cases declaration <;> rfl

@[simp] theorem TopLevel.interface?_exportedAlias (wanted name : String) (type : TypeExpr) :
    (exportedAlias name type).interface? wanted = none := rfl

def TopLevel.declares (name : String) (declaration : TopLevel) : Bool :=
  declaration.declaredNames.contains name

theorem TopLevel.declares_iff {name : String} {declaration : TopLevel} :
    declaration.declares name = true ↔ name ∈ declaration.declaredNames :=
  List.contains_iff_mem

end QueryTypes.Declared

namespace QueryTypes.Typing

open QueryTypes.Schema
open QueryTypes.Declared
open QueryTypes.Resolution

/-! ### Groups -/

def entered (entries : List (String × String)) (key : String) : List String :=
  (entries.filter fun entry => entry.1 == key).map (·.2)

private theorem entered_concat (before : List (String × String)) (last : String × String)
    (key : String) :
    entered (before ++ [last]) key =
      if last.1 == key then entered before key ++ [last.2] else entered before key := by
  unfold entered
  rw [List.filter_append, List.map_append]
  cases same : last.1 == key <;> simp [same]

private theorem entered_eq_nil {entries : List (String × String)} {key : String}
    (unseen : key ∉ entries.map (·.1)) : entered entries key = [] := by
  unfold entered
  rw [List.map_eq_nil_iff, List.filter_eq_nil_iff]
  intro entry present same
  exact unseen (List.mem_map.mpr ⟨entry, present, eq_of_beq same⟩)

/-- A group for each key, in the order of their first appearance. -/
theorem grouped_eq (entries : List (String × String)) :
    grouped entries =
      (entries.map (·.1)).eraseDups.map fun key => (key, entered entries key) := by
  induction entries using List.reverseRecOn with
  | nil => rfl
  | append_singleton before last ih =>
      have groups : grouped (before ++ [last]) = addToGroup (grouped before) last :=
        List.foldl_concat ..
      have listed : ((grouped before).any fun group => group.1 == last.1) =
          decide (last.1 ∈ before.map (·.1)) := by
        rw [ih, List.any_map, Bool.eq_iff_iff, List.any_eq_true]
        simp
      rw [groups, addToGroup, listed, List.map_append, List.map_singleton, eraseDups_concat]
      by_cases seen : last.1 ∈ before.map (·.1)
      · rw [decide_eq_true seen, if_pos rfl, if_pos seen, ih, List.map_map]
        refine List.map_congr_left fun key _ => ?_
        rw [Function.comp_apply, entered_concat]
        by_cases same : key = last.1
        · simp [same]
        · simp [same, Ne.symm same]
      · rw [decide_eq_false seen, if_neg Bool.false_ne_true, if_neg seen, ih, List.map_append,
          List.map_singleton, entered_concat, if_pos (beq_self_eq_true last.1),
          entered_eq_nil seen, List.nil_append]
        congr 1
        refine List.map_congr_left fun key present => ?_
        have other : (last.1 == key) = false := by
          refine beq_false_of_ne fun same => seen ?_
          rw [same]
          exact List.mem_eraseDups.mp present
        rw [entered_concat, other, if_neg Bool.false_ne_true]

/-! ### Maps -/

/-- A map with a member for each text, in the order of their first appearance, that gives all
results of the text in their order. Each result stands in the map once, at its own text. -/
structure IsTypeMap (entries : List (String × String)) (members : List Member) : Prop where
  keys : members.map (·.key) = (entries.map (·.1)).eraseDups.map MemberKey.string
  distinct : (members.map (·.key)).Nodup
  results : ∀ member ∈ members, ∃ text, member.key = .string text ∧ member.optional = false ∧
    member.type = .union ((entered entries text).map TypeExpr.named)
  once : ∀ entry ∈ entries,
    (members.flatMap fun member => member.type.references).count entry.2 = 1
  placed : ∀ entry ∈ entries, ∃ member ∈ members,
    member.key = .string entry.1 ∧ entry.2 ∈ member.type.references

private theorem mem_entered {entries : List (String × String)} {key name : String} :
    name ∈ entered entries key ↔ (key, name) ∈ entries := by
  simp [entered]

private theorem references_union_named (names : List String) :
    (TypeExpr.union (names.map TypeExpr.named)).references = names := by
  rw [TypeExpr.references_union, List.flatMap_map]
  simp

/-- What the members of a map refer to, in their order. -/
theorem mapMembers_names (entries : List (String × String)) :
    ((mapMembers entries).flatMap fun member => member.type.references) =
      (entries.map (·.1)).eraseDups.flatMap (entered entries) := by
  unfold mapMembers
  rw [grouped_eq, List.map_map, List.flatMap_map]
  simp only [Function.comp_apply, references_union_named]

private theorem mapMembers_names_nodup {entries : List (String × String)}
    (distinct : (entries.map (·.2)).Nodup) :
    ((entries.map (·.1)).eraseDups.flatMap (entered entries)).Nodup := by
  refine List.nodup_flatMap.mpr ⟨?_, ?_⟩
  · intro key _
    exact distinct.sublist ((List.filter_sublist).map _)
  · refine (eraseDups_nodup _).imp fun different => ?_
    intro name first second
    have same := List.inj_on_of_nodup_map distinct (mem_entered.mp first)
      (mem_entered.mp second) rfl
    exact different (congrArg Prod.fst same)

private theorem mapMembers_isTypeMap {entries : List (String × String)}
    (distinct : (entries.map (·.2)).Nodup) : IsTypeMap entries (mapMembers entries) := by
  have keys : (mapMembers entries).map (·.key) =
      (entries.map (·.1)).eraseDups.map MemberKey.string := by
    unfold mapMembers
    rw [grouped_eq, List.map_map, List.map_map]
    rfl
  constructor
  · exact keys
  · rw [keys]
    exact (eraseDups_nodup _).map fun _ _ same => MemberKey.string.inj same
  · intro member present
    obtain ⟨group, among, rfl⟩ := List.mem_map.mp present
    rw [grouped_eq] at among
    obtain ⟨key, _, rfl⟩ := List.mem_map.mp among
    exact ⟨key, rfl, rfl, rfl⟩
  · intro entry present
    rw [mapMembers_names]
    refine List.count_eq_one_of_mem (mapMembers_names_nodup distinct) ?_
    refine List.mem_flatMap.mpr ⟨entry.1, ?_, mem_entered.mpr present⟩
    exact List.mem_eraseDups.mpr (List.mem_map_of_mem present)
  · intro entry present
    refine ⟨⟨.string entry.1, false, .union ((entered entries entry.1).map .named)⟩, ?_, rfl, ?_⟩
    · unfold mapMembers
      rw [grouped_eq, List.map_map]
      refine List.mem_map.mpr ⟨entry.1, ?_, rfl⟩
      exact List.mem_eraseDups.mpr (List.mem_map_of_mem present)
    · rw [references_union_named]
      exact mem_entered.mpr present

/-! ### The whole file -/

def queryEntries (modules : List EvaluatedModule) : List (String × String) :=
  modules.flatMap fun module => module.queries.map fun query => (query.extracted.query, query.id)

def projectionEntries (modules : List EvaluatedModule) : List (String × String) :=
  modules.flatMap fun module =>
    module.projections.map fun projection => (projection.extracted.projection, projection.id)

def mapTargets (options : Options) : List String :=
  (if options.overloadClient then [clientModule] else []) ++
    (if options.augmentLanguage then [languageModule] else [])

private theorem queryEntries_names_sublist (modules : List EvaluatedModule) :
    ((queryEntries modules).map (·.2)).Sublist (modules.flatMap EvaluatedModule.resultNames) := by
  induction modules with
  | nil => exact List.Sublist.refl _
  | cons module rest ih =>
      unfold queryEntries at ih ⊢
      rw [List.flatMap_cons, List.flatMap_cons, List.map_append, List.map_map]
      exact (List.sublist_append_left _ _).append ih

private theorem projectionEntries_names_sublist (modules : List EvaluatedModule) :
    ((projectionEntries modules).map (·.2)).Sublist
      (modules.flatMap EvaluatedModule.resultNames) := by
  induction modules with
  | nil => exact List.Sublist.refl _
  | cons module rest ih =>
      unfold projectionEntries at ih ⊢
      rw [List.flatMap_cons, List.flatMap_cons, List.map_append, List.map_map]
      exact (List.sublist_append_right _ _).append ih

private theorem filterMap_mapIdx {Source Middle Target : Type} {form : Nat → Source → Middle}
    {pick : Middle → Option Target} {expected : Source → Target}
    (each : ∀ index source, pick (form index source) = some (expected source))
    (sources : List Source) :
    (sources.mapIdx form).filterMap pick = sources.map expected := by
  induction sources generalizing form with
  | nil => rfl
  | cons first rest ih =>
      rw [List.mapIdx_cons, List.filterMap_cons_some (each 0 first), List.map_cons]
      exact congrArg _ (ih fun index => each (index + 1))

private theorem moduleDeclarations_interfaces (options : Options) (name : String)
    (modules : List EvaluatedModule) :
    (modules.flatMap (moduleDeclarations options)).filterMap (TopLevel.interface? name) = [] := by
  refine List.filterMap_eq_nil_iff.mpr fun declaration present => ?_
  obtain ⟨module, _, inside⟩ := List.mem_flatMap.mp present
  rcases List.mem_append.mp inside with ofQuery | ofProjection
  · obtain ⟨query, _, rfl⟩ := List.mem_map.mp ofQuery
    rw [queryDeclaration, TopLevel.interface?_withComments, TopLevel.interface?_exportedAlias]
  · obtain ⟨projection, _, rfl⟩ := List.mem_map.mp ofProjection
    rw [projectionDeclaration, TopLevel.interface?_withComments, TopLevel.interface?_exportedAlias]

private theorem schemaDeclarations_interfaces (types : SchemaTypes) (name : String) :
    (schemaDeclarations types).filterMap (TopLevel.interface? name) = [] := by
  refine List.filterMap_eq_nil_iff.mpr fun declaration present => ?_
  obtain ⟨named, _, rfl⟩ := List.mem_map.mp present
  exact TopLevel.interface?_exportedAlias _ _ _

/-- All interfaces of a name other than the schema's are those of the two maps. -/
theorem fileDeclarations_interfaces (types : SchemaTypes) (options : Options)
    (modules : List EvaluatedModule) {name : String} (other : schemasName ≠ name) :
    (fileDeclarations types options modules).filterMap (TopLevel.interface? name) =
      (queryMapDeclarations options modules).filterMap (TopLevel.interface? name) ++
        (if (modules.any fun module => !module.projections.isEmpty) && options.augmentLanguage
          then [projectionMapDeclaration modules] else []).filterMap
            (TopLevel.interface? name) := by
  have imports (projected : Bool) : (if projected then [projectionImport] else []).filterMap
      (TopLevel.interface? name) = [] := by
    cases projected <;> rfl
  have helpers : [symbolDeclaration, keyedArrayDeclaration].filterMap
      (TopLevel.interface? name) = [] := rfl
  have unions : [allTypesDeclaration types, defaultSchemaDeclaration options].filterMap
      (TopLevel.interface? name) = [] := by
    simp [allTypesDeclaration, defaultSchemaDeclaration]
  have schemas : (if options.augmentLanguage then [schemasDeclaration types] else []).filterMap
      (TopLevel.interface? name) = [] := by
    split
    · simp [schemasDeclaration, TopLevel.interface?, other]
    · rfl
  unfold fileDeclarations
  simp only [List.filterMap_append, imports, helpers, schemaDeclarations_interfaces, unions,
    moduleDeclarations_interfaces, schemas, List.nil_append]

private theorem queryMapDeclarations_interfaces (options : Options)
    (modules : List EvaluatedModule) :
    (queryMapDeclarations options modules).filterMap (TopLevel.interface? queriesName) =
      if (queryEntries modules).isEmpty then []
      else (mapTargets options).map fun target => (target, mapMembers (queryEntries modules)) := by
  unfold queryMapDeclarations
  change (if (queryEntries modules).isEmpty then [] else _).filterMap _ = _
  split
  · rfl
  · refine filterMap_mapIdx (fun index target => ?_) (mapTargets options)
    rw [TopLevel.interface?_augmentation, if_pos rfl]
    rfl

private theorem queryMapDeclarations_no_projections (options : Options)
    (modules : List EvaluatedModule) :
    (queryMapDeclarations options modules).filterMap
      (TopLevel.interface? projectionsName) = [] := by
  refine List.filterMap_eq_nil_iff.mpr fun declaration present => ?_
  unfold queryMapDeclarations at present
  dsimp only at present
  split at present
  · cases present
  · obtain ⟨index, _, rfl⟩ := List.mem_mapIdx.mp present
    rw [TopLevel.interface?_augmentation, if_neg (by decide)]

private theorem projectionEntries_isEmpty (modules : List EvaluatedModule) :
    (projectionEntries modules).isEmpty =
      !(modules.any fun module => !module.projections.isEmpty) := by
  induction modules with
  | nil => rfl
  | cons module rest ih =>
      unfold projectionEntries at ih ⊢
      rw [List.flatMap_cons, List.any_cons]
      cases module.projections with
      | nil => simpa using ih
      | cons first others => simp

private theorem fileDeclarations_queryMaps (types : SchemaTypes) (options : Options)
    (modules : List EvaluatedModule) :
    (fileDeclarations types options modules).filterMap (TopLevel.interface? queriesName) =
      if (queryEntries modules).isEmpty then []
      else (mapTargets options).map fun target => (target, mapMembers (queryEntries modules)) := by
  have others : (if (modules.any fun module => !module.projections.isEmpty) &&
      options.augmentLanguage then [projectionMapDeclaration modules] else []).filterMap
        (TopLevel.interface? queriesName) = [] := by
    split
    · rw [projectionMapDeclaration, List.filterMap_cons, TopLevel.interface?_augmentation,
        if_neg (by decide), List.filterMap_nil]
    · rfl
  rw [fileDeclarations_interfaces types options modules (by decide), others, List.append_nil,
    queryMapDeclarations_interfaces]

private theorem fileDeclarations_projectionMaps (types : SchemaTypes) (options : Options)
    (modules : List EvaluatedModule) :
    (fileDeclarations types options modules).filterMap (TopLevel.interface? projectionsName) =
      if (projectionEntries modules).isEmpty || !options.augmentLanguage then []
      else [(languageModule, mapMembers (projectionEntries modules))] := by
  rw [fileDeclarations_interfaces types options modules (by decide),
    queryMapDeclarations_no_projections, List.nil_append, projectionEntries_isEmpty]
  cases (modules.any fun module => !module.projections.isEmpty) <;>
    cases options.augmentLanguage <;> rfl

/-- Where no name is declared twice, a name is declared by one statement only. -/
theorem filter_declares {declarations : List TopLevel} {declaration : TopLevel} {name : String}
    (distinct : (declarations.flatMap TopLevel.declaredNames).Nodup)
    (present : declaration ∈ declarations) (declares : name ∈ declaration.declaredNames) :
    declarations.filter (TopLevel.declares name) = [declaration] := by
  induction declarations with
  | nil => cases present
  | cons first rest ih =>
      rw [List.flatMap_cons] at distinct
      obtain ⟨_, distinctRest, apart⟩ := List.nodup_append'.mp distinct
      rcases List.mem_cons.mp present with same | later
      · subst same
        rw [List.filter_cons_of_pos (TopLevel.declares_iff.mpr declares)]
        congr 1
        refine List.filter_eq_nil_iff.mpr fun other among again => ?_
        exact apart declares
          (List.mem_flatMap.mpr ⟨other, among, TopLevel.declares_iff.mp again⟩)
      · have elsewhere : ¬ first.declares name = true := fun again =>
          apart (TopLevel.declares_iff.mp again) (List.mem_flatMap.mpr ⟨_, later, declares⟩)
        rw [List.filter_cons_of_neg elsewhere]
        exact ih distinctRest later

private theorem mem_fileDeclarations (types : SchemaTypes) {options : Options}
    {modules : List EvaluatedModule} {module : EvaluatedModule} {declaration : TopLevel}
    (among : module ∈ modules) (present : declaration ∈ moduleDeclarations options module) :
    declaration ∈ fileDeclarations types options modules := by
  unfold fileDeclarations
  simp only [List.mem_append]
  exact .inl (.inl (.inl (.inr (List.mem_flatMap.mpr ⟨module, among, present⟩))))

/-- No query is lost or counted twice on its way to the maps. Each one ends in an error of its
module or in a result, whose name is declared by one statement, an exported alias of its type, and,
for each module that is told the types of queries, stands once in its map, at the text of the query.
The same holds of projections, but for those that apply to no document. -/
theorem generate_maps_results {Ast : Type} {schemaId : String} {schema : List Declaration}
    {types : SchemaTypes} (accepted : SchemaTypes.ofSchema schemaId schema = .ok types)
    (language : Query.Language Ast) (options : Options) (cache : QueryCache)
    (modules : List ExtractedModule) :
    let generated := generate types language options cache modules
    let queries := queryEntries generated.modules
    let projections := projectionEntries generated.modules
    List.Forall₂ (Accounted types language cache) modules generated.modules ∧
      (∀ module ∈ generated.modules,
        (∀ query ∈ module.queries,
          generated.declarations.filter (TopLevel.declares query.id) =
            [.alias query.id [] query.evaluated.type true (resultComments options
              query.extracted.path query.extracted.declared "Query" query.extracted.query)]) ∧
        ∀ projection ∈ module.projections,
          generated.declarations.filter (TopLevel.declares projection.id) =
            [.alias projection.id [] projection.evaluated.type true (resultComments options
              projection.extracted.path projection.extracted.declared "Projection"
              projection.extracted.projection)]) ∧
      (∃ members, IsTypeMap queries members ∧
        generated.declarations.filterMap (TopLevel.interface? queriesName) =
          if queries.isEmpty then [] else (mapTargets options).map fun target =>
            (target, members)) ∧
      ∃ members, IsTypeMap projections members ∧
        generated.declarations.filterMap (TopLevel.interface? projectionsName) =
          if projections.isEmpty || !options.augmentLanguage then []
          else [(languageModule, members)] := by
  intro generated queries projections
  -- Results take new names, so each is declared by one statement and stands in a map once.
  have given := (moduleStep_anew types language).threaded
    ⟨types.all.map (·.identifier), cache, []⟩ modules
  have distinct := fileDeclarations_names_nodup accepted options given
  refine ⟨generate_accounted types language options cache modules, ?_, ?_, ?_⟩
  · intro module among
    constructor
    · intro query present
      refine filter_declares distinct (mem_fileDeclarations types among ?_) ?_
      · exact List.mem_append_left _ (List.mem_map.mpr ⟨query, present, rfl⟩)
      · exact List.mem_singleton_self _
    · intro projection present
      refine filter_declares distinct (mem_fileDeclarations types among ?_) ?_
      · exact List.mem_append_right _ (List.mem_map.mpr ⟨projection, present, rfl⟩)
      · exact List.mem_singleton_self _
  · refine ⟨mapMembers queries, mapMembers_isTypeMap ?_,
      fileDeclarations_queryMaps types options generated.modules⟩
    exact given.distinct.sublist (queryEntries_names_sublist generated.modules)
  · refine ⟨mapMembers projections, mapMembers_isTypeMap ?_,
      fileDeclarations_projectionMaps types options generated.modules⟩
    exact given.distinct.sublist (projectionEntries_names_sublist generated.modules)

/-- The same query and the same projection in two modules. -/
theorem repeated_results_mapped :
    ∃ types, SchemaTypes.ofSchema "default" arraySchema = .ok types ∧
      let generated := generate types tagsLanguage .standard [] [tagsModule, tagsModule]
      (∃ members, IsTypeMap (queryEntries generated.modules) members ∧
          generated.declarations.filterMap (TopLevel.interface? queriesName) =
            [(clientModule, members), (languageModule, members)]) ∧
        queryEntries generated.modules = [("*", "QueryResult"), ("*", "QueryResult_2")] ∧
        projectionEntries generated.modules =
          [("\x7btags\x7d", "TagsResult"), ("\x7btags\x7d", "TagsResult_2")] := by
  have accepted : SchemaTypes.ofSchema "default" arraySchema = .ok _ := rfl
  obtain ⟨_, _, ⟨members, isMap, interfaces⟩, _⟩ :=
    generate_maps_results accepted tagsLanguage .standard [] [tagsModule, tagsModule]
  refine ⟨_, accepted, ⟨members, isMap, interfaces.trans ?_⟩, by decide +kernel, by decide +kernel⟩
  rw [if_neg (by decide +kernel)]
  rfl

end QueryTypes.Typing
