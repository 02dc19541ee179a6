import QueryTypes.Proofs.Tables
import QueryTypes.Proofs.Typing.ResultNames

/-!
The names that a generated file declares at its top level.

Types of the schema avoid the reserved names, and types of results avoid the types of the schema
and each other only. That they avoid the rest of the file too is a matter of how they end, and that
nothing is called like the symbol for references a matter of how names start.
-/

set_option autoImplicit false

namespace QueryTypes.Declared

/-- The names that a statement declares at the top level of its file. What an augmentation holds is
declared in another module. -/
def TopLevel.declaredNames : TopLevel → List String
  | .importType names _ _ => names
  | .constant name _ _ => [name]
  | .alias name _ _ _ _ => [name]
  | .augmentation _ _ _ => []

@[simp] theorem TopLevel.declaredNames_withComments (lines : List String)
    (declaration : TopLevel) :
    (declaration.withComments lines).declaredNames = declaration.declaredNames := by
  cases declaration <;> rfl

@[simp] theorem TopLevel.declaredNames_exportedAlias (name : String) (type : TypeExpr) :
    (exportedAlias name type).declaredNames = [name] := rfl

end QueryTypes.Declared

namespace QueryTypes.Typing

open QueryTypes.Schema
open QueryTypes.Declared
open QueryTypes.Resolution

/-! ### The types of the schema -/

theorem firstRepeated?_eq_none {before names : List String}
    (none : firstRepeated? before names = none) :
    names.Nodup ∧ ∀ name ∈ names, name ∉ before := by
  induction names generalizing before with
  | nil => exact ⟨List.nodup_nil, nofun⟩
  | cons first rest ih =>
      unfold firstRepeated? at none
      split at none
      · cases none
      · rename_i new
        obtain ⟨distinct, others⟩ := ih none
        constructor
        · exact List.nodup_cons.mpr
            ⟨fun repeated => others first repeated List.mem_cons_self, distinct⟩
        · intro name present
          rcases List.mem_cons.mp present with same | later
          · rw [same]
            exact fun earlier => new (List.contains_iff_mem.mpr earlier)
          · exact fun earlier => others name later (List.mem_cons_of_mem _ earlier)

namespace SchemaTypes

/-- Where names are distinct and all have types, all identifiers are listed, in their order. -/
theorem all_identifiers {types : SchemaTypes} (distinct : types.names.Nodup)
    (described : ∀ name ∈ types.names, (types.types.lookup name).isSome) :
    types.all.map (·.identifier) = types.identifiers := by
  have each (name : String) (present : name ∈ types.names) :
      (types.get? name).map (·.identifier) = types.identifier? name := by
    obtain ⟨type, found⟩ := Option.isSome_iff_exists.mp (described name present)
    unfold get?
    rw [found]
    cases types.identifier? name <;> rfl
  unfold all
  rw [List.map_filterMap, List.filterMap_congr each]
  exact Table.filterMap_lookup distinct

/-- The identifiers of an accepted schema are those given to the names of its declarations. -/
theorem identifiers_of_ofSchema {schemaId : String} {schema : List Declaration}
    {types : SchemaTypes} (accepted : ofSchema schemaId schema = .ok types) :
    types.all.map (·.identifier) =
      (uniqueNames reservedNames ((schema.map Declaration.name).map Identifier.normalize)).1 := by
  unfold ofSchema at accepted
  dsimp only at accepted
  split at accepted
  · cases accepted
  · rename_i unrepeated
    have distinct := (firstRepeated?_eq_none unrepeated).1
    have lengths := uniqueNames_length reservedNames
      ((schema.map Declaration.name).map Identifier.normalize)
    rw [List.length_map] at lengths
    cases accepted
    rw [all_identifiers]
    · exact List.map_snd_zip (Nat.le_of_eq lengths)
    · unfold names
      rw [List.map_fst_zip (Nat.le_of_eq lengths.symm)]
      exact distinct
    · intro name present
      unfold names at present
      rw [List.map_fst_zip (Nat.le_of_eq lengths.symm)] at present
      obtain ⟨declaration, inSchema, rfl⟩ := List.mem_map.mp present
      exact List.lookup_isSome_iff.mpr
        ⟨_, List.mem_map_of_mem inSchema, beq_self_eq_true _⟩

end SchemaTypes

/-! ### The types of results -/

def EvaluatedModule.resultNames (module : EvaluatedModule) : List String :=
  module.queries.map (·.id) ++ module.projections.map (·.id)

section Naming

variable {State Input Output : Type}

/-- Names of results were given that are all different and that were free, and they are taken
now. -/
structure GivenAnew (before given after : List String) : Prop where
  distinct : given.Nodup
  result : ∀ name ∈ given, IsResultName name
  free : ∀ name ∈ given, name ∉ before
  takes : ∀ name, name ∈ after ↔ name ∈ given ∨ name ∈ before

namespace GivenAnew

theorem nothing (taken : List String) : GivenAnew taken [] taken where
  distinct := List.nodup_nil
  result := nofun
  free := nofun
  takes := fun _ => (or_iff_right List.not_mem_nil).symm

theorem single {taken : List String} {name : String} (result : IsResultName name)
    (free : name ∉ taken) : GivenAnew taken [name] (name :: taken) where
  distinct := List.nodup_singleton name
  result := fun _ present => List.mem_singleton.mp present ▸ result
  free := fun _ present => List.mem_singleton.mp present ▸ free
  takes := fun _ => by rw [List.mem_cons, List.mem_singleton]

theorem append {before between after first second : List String}
    (early : GivenAnew before first between) (late : GivenAnew between second after) :
    GivenAnew before (first ++ second) after where
  distinct := by
    refine List.nodup_append.mpr ⟨early.distinct, late.distinct, ?_⟩
    intro name inFirst other inSecond same
    subst same
    exact late.free name inSecond ((early.takes name).mpr (.inl inFirst))
  result := by
    intro name present
    rcases List.mem_append.mp present with inFirst | inSecond
    · exact early.result name inFirst
    · exact late.result name inSecond
  free := by
    intro name present taken
    rcases List.mem_append.mp present with inFirst | inSecond
    · exact early.free name inFirst taken
    · exact late.free name inSecond ((early.takes name).mpr (.inr taken))
  takes := by
    intro name
    rw [late.takes, early.takes, List.mem_append, or_left_comm, or_assoc]

end GivenAnew

def NamesAnew (taken : State → List String) (names : Output → List String)
    (step : State → Input → Output × State) : Prop :=
  ∀ state input,
    GivenAnew (taken state) (names (step state input).1) (taken (step state input).2)

/-- A run of such steps gives names anew as a whole. -/
theorem NamesAnew.threaded {taken : State → List String} {names : Output → List String}
    {step : State → Input → Output × State} (anew : NamesAnew taken names step) :
    NamesAnew taken (fun outputs : List Output => outputs.flatMap names) (threaded step) := by
  intro state inputs
  induction inputs generalizing state with
  | nil => exact GivenAnew.nothing (taken state)
  | cons input rest ih => exact (anew state input).append (ih (step state input).2)

end Naming

variable {Ast : Type}

private theorem queryStep_anew (types : SchemaTypes) (language : Query.Language Ast)
    (path : String) :
    NamesAnew Progress.taken (fun verdict => (verdict.typed?.map EvaluatedQuery.id).toList)
      (queryStep types language path) := by
  intro progress extracted
  unfold queryStep
  dsimp only
  split
  · exact GivenAnew.single ⟨progress.taken, extracted.declared, rfl⟩
      (Identifier.unique_not_mem _ _)
  · exact GivenAnew.nothing progress.taken

private theorem projectionStep_anew (types : SchemaTypes) (language : Query.Language Ast)
    (path : String) :
    NamesAnew Progress.taken (fun verdict => (verdict.typed?.map EvaluatedProjection.id).toList)
      (projectionStep types language path) := by
  intro progress extracted
  unfold projectionStep
  dsimp only
  split
  · exact GivenAnew.single ⟨progress.taken, extracted.declared, rfl⟩
      (Identifier.unique_not_mem _ _)
  · exact GivenAnew.nothing progress.taken
  · exact GivenAnew.nothing progress.taken

private theorem map_filterMap_eq_flatMap {First Second Third : Type} (pick : First → Option Second)
    (form : Second → Third) (source : List First) :
    (source.filterMap pick).map form =
      source.flatMap fun element => ((pick element).map form).toList := by
  rw [List.map_filterMap, List.filterMap_eq_flatMap_toList]

/-- The names of a module are those of its queries and then of its projections. -/
theorem moduleStep_anew (types : SchemaTypes) (language : Query.Language Ast) :
    NamesAnew Progress.taken EvaluatedModule.resultNames (moduleStep types language) := by
  intro progress module
  have queries := (queryStep_anew types language module.path).threaded progress module.queries
  have projections := (projectionStep_anew types language module.path).threaded
    (threaded (queryStep types language module.path) progress module.queries).2 module.projections
  unfold EvaluatedModule.resultNames moduleStep
  dsimp only
  rw [map_filterMap_eq_flatMap, map_filterMap_eq_flatMap]
  exact queries.append projections

/-! ### The whole file -/

/-- The names that a generated file declares whatever the schema and the queries are, the first of
them only if there are projections. -/
def fixedNames : List String :=
  [projectionBaseName, referenceSymbol, keyedArrayName, allTypesName, defaultSchemaName]

private theorem fixedNames_not_isResultName {name : String} (fixed : name ∈ fixedNames) :
    ¬ IsResultName name := by
  intro given
  obtain ⟨last, ends, result⟩ := given.last
  have other : ∀ name ∈ fixedNames,
      name.toList.getLast?.all fun last => last != 't' && !last.isDigit := by decide
  have differs := other name fixed
  rw [ends, Option.all_some, Bool.and_eq_true] at differs
  rcases result with same | digit
  · rw [same] at differs
    exact Bool.false_ne_true differs.1
  · rw [digit] at differs
    exact Bool.false_ne_true differs.2

/-- A type of the schema has none of the names of the file. All but the symbol are reserved, and
the symbol starts with a small letter. -/
theorem SchemaTypes.identifier_not_mem_fixedNames {schemaId : String} {schema : List Declaration}
    {types : SchemaTypes} (accepted : ofSchema schemaId schema = .ok types) {name : String}
    (present : name ∈ types.all.map (·.identifier)) : name ∉ fixedNames := by
  rw [identifiers_of_ofSchema accepted] at present
  have unreserved := (uniqueNames_fresh reservedNames _).2 name present
  have symbolOrReserved : ∀ name ∈ fixedNames, name = referenceSymbol ∨ name ∈ reservedNames := by
    decide
  intro fixed
  rcases symbolOrReserved name fixed with symbol | reserved
  · obtain ⟨others, wanted, inNames, same⟩ := mem_uniqueNames present
    obtain ⟨declared, _, rfl⟩ := List.mem_map.mp inNames
    have start : (Identifier.unique others (Identifier.normalize declared)).toList.head? =
        some 'i' := by
      rw [← same, symbol]
      rfl
    exact Bool.noConfusion (Identifier.unique_first start)
  · exact unreserved reserved

private theorem flatMap_declaredNames_map {Source : Type} {declare : Source → TopLevel}
    {name : Source → String} (each : ∀ source, (declare source).declaredNames = [name source])
    (sources : List Source) :
    (sources.map declare).flatMap TopLevel.declaredNames = sources.map name := by
  rw [List.flatMap_map, List.map_eq_flatMap]
  exact List.flatMap_congr fun source _ => each source

private theorem moduleDeclarations_names (options : Options) (module : EvaluatedModule) :
    (moduleDeclarations options module).flatMap TopLevel.declaredNames = module.resultNames := by
  unfold moduleDeclarations EvaluatedModule.resultNames
  rw [List.flatMap_append,
    flatMap_declaredNames_map fun query => TopLevel.declaredNames_withComments _ _,
    flatMap_declaredNames_map fun projection => TopLevel.declaredNames_withComments _ _]

private theorem queryMapDeclarations_names (options : Options) (modules : List EvaluatedModule) :
    (queryMapDeclarations options modules).flatMap TopLevel.declaredNames = [] := by
  unfold queryMapDeclarations
  dsimp only
  split
  · rfl
  · rw [List.flatMap_eq_nil_iff]
    intro declaration present
    obtain ⟨index, within, rfl⟩ := List.mem_mapIdx.mp present
    rfl

/-- The declared names of a file, in order. Nothing is declared after the types of results. -/
theorem fileDeclarations_names (types : SchemaTypes) (options : Options)
    (modules : List EvaluatedModule) :
    (fileDeclarations types options modules).flatMap TopLevel.declaredNames =
      (if modules.any fun module => !module.projections.isEmpty then [projectionBaseName]
        else []) ++ [referenceSymbol, keyedArrayName] ++ types.all.map (·.identifier) ++
          [allTypesName, defaultSchemaName] ++ modules.flatMap EvaluatedModule.resultNames := by
  have schema : (schemaDeclarations types).flatMap TopLevel.declaredNames =
      types.all.map (·.identifier) := flatMap_declaredNames_map (fun named => rfl) types.all
  have results : (modules.flatMap (moduleDeclarations options)).flatMap TopLevel.declaredNames =
      modules.flatMap EvaluatedModule.resultNames := by
    rw [List.flatMap_assoc]
    exact List.flatMap_congr fun module _ => moduleDeclarations_names options module
  have schemas : (if options.augmentLanguage then [schemasDeclaration types] else []).flatMap
      TopLevel.declaredNames = [] := by
    split <;> rfl
  have projections (projected : Bool) :
      (if projected && options.augmentLanguage then [projectionMapDeclaration modules]
        else []).flatMap TopLevel.declaredNames = [] := by
    split <;> rfl
  have base (projected : Bool) :
      (if projected then [projectionImport] else []).flatMap TopLevel.declaredNames =
        if projected then [projectionBaseName] else [] := by
    split <;> rfl
  unfold fileDeclarations
  simp only [List.flatMap_append, schema, results, schemas, projections, base,
    queryMapDeclarations_names, List.append_nil]
  rfl

/-- Results whose names are given anew, after those of the schema, are declared under names of their
own. -/
theorem fileDeclarations_names_nodup {schemaId : String} {schema : List Declaration}
    {types : SchemaTypes} (accepted : SchemaTypes.ofSchema schemaId schema = .ok types)
    (options : Options) {modules : List EvaluatedModule} {taken : List String}
    (given : GivenAnew (types.all.map (·.identifier))
      (modules.flatMap EvaluatedModule.resultNames) taken) :
    ((fileDeclarations types options modules).flatMap TopLevel.declaredNames).Nodup := by
  have schemaNames : (types.all.map (·.identifier)).Nodup := by
    rw [SchemaTypes.identifiers_of_ofSchema accepted]
    exact (uniqueNames_fresh reservedNames _).1
  have schemaNotFixed : ∀ name ∈ types.all.map (·.identifier), name ∉ fixedNames :=
    fun name => SchemaTypes.identifier_not_mem_fixedNames accepted
  have resultNotFixed : ∀ name ∈ _, name ∉ fixedNames :=
    fun name present fixed => fixedNames_not_isResultName fixed (given.result name present)
  have all : (fixedNames ++ types.all.map (·.identifier) ++
      modules.flatMap EvaluatedModule.resultNames).Nodup := by
    refine List.nodup_append'.mpr ⟨List.nodup_append'.mpr ⟨by decide, schemaNames, ?_⟩,
      given.distinct, ?_⟩
    · exact fun name fixed present => schemaNotFixed name present fixed
    · intro name early present
      rcases List.mem_append.mp early with fixed | inSchema
      · exact resultNotFixed name present fixed
      · exact given.free name present inSchema
  have moved : (fixedNames ++ types.all.map (·.identifier)).Perm
      ([projectionBaseName] ++ [referenceSymbol, keyedArrayName] ++ types.all.map (·.identifier) ++
        [allTypesName, defaultSchemaName]) :=
    List.Perm.append_left [projectionBaseName, referenceSymbol, keyedArrayName]
      (List.perm_append_comm :
        ([allTypesName, defaultSchemaName] ++ types.all.map (·.identifier)).Perm _)
  have shorter (projected : Bool) :
      (if projected then [projectionBaseName] else []).Sublist [projectionBaseName] := by
    cases projected
    · exact List.nil_sublist _
    · exact List.Sublist.refl _
  rw [fileDeclarations_names types options modules]
  refine ((moved.append_right _).nodup all).sublist ?_
  exact ((((shorter _).append_right _).append_right _).append_right _).append_right _

/-- The names that a generated file declares are pairwise different, for every schema that is
accepted, every query language, all settings, and whatever variables are called. -/
theorem generate_declaredNames_nodup {Ast : Type} {schemaId : String} {schema : List Declaration}
    {types : SchemaTypes} (accepted : SchemaTypes.ofSchema schemaId schema = .ok types)
    (language : Query.Language Ast) (options : Options) (cache : QueryCache)
    (modules : List ExtractedModule) :
    ((generate types language options cache modules).declarations.flatMap
      TopLevel.declaredNames).Nodup := by
  have given := (moduleStep_anew types language).threaded
    ⟨types.all.map (·.identifier), cache, []⟩ modules
  exact fileDeclarations_names_nodup accepted options given

/-! ### Names that look alike -/

def openLanguage : Query.Language String where
  parse := fun query _ => .ok query
  evaluate := fun _ _ => .ok .unknown
  isObject := fun _ => true

/-- Types called like a declaration of the file, like a result and like its numbered form. -/
def lookalikeSchema : List Declaration :=
  [.type "ArrayOf" .unknown, .type "array of" .unknown, .type "queryResult" .unknown,
    .type "QueryResult_2" .unknown]

def lookalikeModules : List ExtractedModule :=
  let origin : Source.Position := ⟨1, 0, 0⟩
  let query (name : String) : ExtractedQuery :=
    ⟨"/page.ts", ⟨name, .nowhere, ⟨origin, origin⟩⟩, "*"⟩
  [⟨"/page.ts", [query "query"], [], []⟩, ⟨"/post.ts", [query "query", query "query!"], [], []⟩]

theorem lookalike_declaredNames_nodup :
    ∃ types, SchemaTypes.ofSchema "default" lookalikeSchema = .ok types ∧
      ((generate types openLanguage .standard [] lookalikeModules).declarations.flatMap
        TopLevel.declaredNames).Nodup ∧
      (generate types openLanguage .standard [] lookalikeModules).declarations.flatMap
        TopLevel.declaredNames =
          ["internalGroqTypeReferenceTo", "ArrayOf", "ArrayOf_2", "ArrayOf_3", "QueryResult",
            "QueryResult_2", "AllSanitySchemaTypes", "DefaultSchema", "QueryResult_3",
            "QueryResult_4", "QueryResult_5"] := by
  have accepted : SchemaTypes.ofSchema "default" lookalikeSchema = .ok _ := rfl
  have distinct :=
    generate_declaredNames_nodup accepted openLanguage .standard [] lookalikeModules
  exact ⟨_, accepted, distinct, by decide +kernel⟩

end QueryTypes.Typing
