import QueryTypes.Proofs.Declared.Words
import QueryTypes.Proofs.Typing.DeclaredNames
import QueryTypes.Proofs.Typing.Descriptions

/-!
The names that a generated file refers to.

What describes a schema type refers to arrays and to types of the schema. So a file is closed: the
types of its results refer to nothing more than that, but for the wrapper of projections, which is
imported where there are any. One name is not the file's own, that of the arrays of the language,
and nothing keeps a type of the schema from getting it.
-/

set_option autoImplicit false

namespace QueryTypes.Declared

def TopLevel.references : TopLevel → List String
  | .importType _ _ _ => []
  | .constant _ type _ => type.references
  | .alias _ _ type _ _ => type.references
  | .augmentation _ interface _ =>
      interface.members.flatMap fun member => member.type.references

def TopLevel.parameters : TopLevel → List String
  | .alias _ parameters _ _ _ => parameters
  | .importType _ _ _ | .constant _ _ _ | .augmentation _ _ _ => []

/-- What a statement refers to is declared in the file, stands for a type inside the statement, or
is the array of the language. -/
def TopLevel.ClosedIn (declared : List String) (declaration : TopLevel) : Prop :=
  ∀ name ∈ declaration.references,
    name ∈ declared ∨ name ∈ declaration.parameters ∨ name = "Array"

@[simp] theorem TopLevel.references_withComments (lines : List String) (declaration : TopLevel) :
    (declaration.withComments lines).references = declaration.references := by
  cases declaration <;> rfl

@[simp] theorem TopLevel.references_exportedAlias (name : String) (type : TypeExpr) :
    (exportedAlias name type).references = type.references := rfl

end QueryTypes.Declared

namespace QueryTypes.Typing

open QueryTypes.Schema
open QueryTypes.Declared
open QueryTypes.Query
open QueryTypes.Resolution

/-! ### Descriptions -/

def Naming.offered (naming : Naming) : List String :=
  "Array" :: keyedArrayName :: naming.identifiers.map (·.2)

private theorem flatMap_subset {Source Target : Type} {form : Source → List Target}
    {sources : List Source} {all : List Target} (each : ∀ source ∈ sources, form source ⊆ all) :
    sources.flatMap form ⊆ all := by
  intro target present
  obtain ⟨source, among, inside⟩ := List.mem_flatMap.mp present
  exact each source among inside

private theorem references_kept {naming : Naming} {names : List String}
    (within : naming.offered ⊆ names) :
    KeptByDescription naming fun type => type.references ⊆ names where
  keyword := fun _ => List.nil_subset _
  string := fun _ => List.nil_subset _
  number := fun _ => List.nil_subset _
  boolean := fun _ => List.nil_subset _
  named := by
    intro name identifier found
    have listed : identifier ∈ naming.identifiers.map (·.2) :=
      List.mem_map_of_mem (f := Prod.snd) (Table.mem_of_lookup found)
    exact List.cons_subset.mpr
      ⟨within (List.mem_cons_of_mem _ (List.mem_cons_of_mem _ listed)), List.nil_subset _⟩
  missing := fun _ => List.nil_subset _
  array := by
    intro element inside
    rw [arrayOf, TypeExpr.references_reference, List.flatMap_singleton]
    exact List.cons_subset.mpr ⟨within List.mem_cons_self, inside⟩
  keyedArray := by
    intro element inside
    rw [keyedArrayOf, TypeExpr.references_reference, List.flatMap_singleton]
    exact List.cons_subset.mpr ⟨within (List.mem_cons_of_mem _ List.mem_cons_self), inside⟩
  union := by
    intro types all
    rw [TypeExpr.references_union]
    exact flatMap_subset all
  intersection := by
    intro types all
    rw [TypeExpr.references_intersection]
    exact flatMap_subset all
  literal := by
    intro members all
    rw [TypeExpr.references_literal]
    exact flatMap_subset all

private theorem describe_references (naming : Naming) (node : ValueType) :
    (describe naming node).references ⊆ naming.offered :=
  (references_kept (List.Subset.refl _)).describe node

private theorem describeDeclaration_references (naming : Naming) (declaration : Declaration) :
    (describeDeclaration naming declaration).references ⊆ naming.offered :=
  (references_kept (List.Subset.refl _)).describeDeclaration declaration

/-! ### Results -/

namespace SchemaTypes

variable {Ast : Type} {types : SchemaTypes} {language : Query.Language Ast}

private theorem askQuery_eq_ok {text : String} {known : EvaluatedType}
    (succeeds : (types.askQuery language text).result = .ok known) :
    ∃ node, known = types.evaluated node := by
  obtain ⟨parsed, _, goesOn⟩ := Asked.andThen_eq_ok succeeds
  obtain ⟨node, _, ends⟩ := Asked.andThen_eq_ok goesOn
  cases ends
  exact ⟨node, rfl⟩

def HoldsTypes (types : SchemaTypes) (cache : QueryCache) : Prop :=
  ∀ entry ∈ cache, ∃ node, entry.2 = types.evaluated node

theorem HoldsTypes.evaluateQuery {cache : QueryCache} (holds : types.HoldsTypes cache)
    (language : Query.Language Ast) (text : String) :
    types.HoldsTypes (types.evaluateQuery language cache text).2 ∧
      ∀ known, (types.evaluateQuery language cache text).1.result = .ok known →
        ∃ node, known = types.evaluated node := by
  cases found : cache.lookup text with
  | some held =>
      rw [evaluateQuery_of_some found]
      refine ⟨holds, fun known same => ?_⟩
      cases same
      exact holds _ (Table.mem_of_lookup found)
  | none =>
      obtain ⟨asks, kept⟩ := types.evaluateQuery_of_none language found
      rw [asks]
      refine ⟨?_, fun known => askQuery_eq_ok⟩
      rcases kept with ⟨known, succeeds, kept⟩ | ⟨_, kept⟩
      · rw [kept]
        exact List.forall_mem_cons.mpr ⟨askQuery_eq_ok succeeds, holds⟩
      · rw [kept]
        exact holds

/-- The caches that earlier queries can have left, whatever languages they were asked of. -/
inductive Reached (types : SchemaTypes) : QueryCache → Prop where
  | fresh : types.Reached []
  | query {Ast : Type} (language : Query.Language Ast) (text : String) {cache : QueryCache}
      (before : types.Reached cache) : types.Reached (types.evaluateQuery language cache text).2

private theorem Reached.holdsTypes {cache : QueryCache} (reached : types.Reached cache) :
    types.HoldsTypes cache := by
  induction reached with
  | fresh => exact nofun
  | query language text before ih => exact (ih.evaluateQuery language text).1

def projectedNames (types : SchemaTypes) : List String :=
  projectionBaseName :: types.naming.offered

private theorem evaluateProjection_references {projection : String} {known : EvaluatedType}
    (succeeds : (types.evaluateProjection language projection).result = .ok (some known)) :
    known.type.references ⊆ types.projectedNames := by
  refine evaluateProjection_kept (motive := fun type => type.references ⊆ types.projectedNames)
    (references_kept (List.subset_cons_self _ _)) ?_ succeeds
  intro object document inside
  rw [TypeExpr.references_reference, List.flatMap_cons]
  exact List.cons_subset.mpr
    ⟨List.mem_cons_self, List.append_subset.mpr ⟨inside, List.nil_subset _⟩⟩

end SchemaTypes

/-! ### Modules -/

variable {Ast : Type} {types : SchemaTypes}

structure EvaluatedModule.RefersWithin (types : SchemaTypes) (module : EvaluatedModule) :
    Prop where
  queries : ∀ query ∈ module.queries, query.evaluated.type.references ⊆ types.naming.offered
  projections : ∀ projection ∈ module.projections,
    projection.evaluated.type.references ⊆ types.projectedNames

/-- Every type of a query is the type of something. -/
theorem generate_queries_evaluated {language : Query.Language Ast} {options : Options}
    {cache : QueryCache} (reached : types.Reached cache) {modules : List ExtractedModule}
    {module : EvaluatedModule}
    (among : module ∈ (generate types language options cache modules).modules)
    {query : EvaluatedQuery} (present : query ∈ module.queries) :
    ∃ node, query.evaluated = types.evaluated node := by
  obtain ⟨_, _, accounted⟩ := exists_accounted among
  exact (reached.holdsTypes.evaluateQuery language query.extracted.query).2 _
    (accounted.query present)

private theorem generate_refersWithin (language : Query.Language Ast) (options : Options)
    {cache : QueryCache} (reached : types.Reached cache) (modules : List ExtractedModule) :
    ∀ module ∈ (generate types language options cache modules).modules,
      module.RefersWithin types := by
  intro module among
  constructor
  · intro query present
    obtain ⟨node, same⟩ := generate_queries_evaluated reached among present
    rw [same]
    exact describe_references types.naming node
  · intro projection present
    obtain ⟨_, _, accounted⟩ := exists_accounted among
    exact SchemaTypes.evaluateProjection_references (accounted.projection present)

/-- Each name in a group is one of those that were grouped. -/
theorem addToGroup_subset {names : List String} {groups : List (String × List String)}
    (within : ∀ group ∈ groups, group.2 ⊆ names) {entry : String × String}
    (listed : entry.2 ∈ names) : ∀ group ∈ addToGroup groups entry, group.2 ⊆ names := by
  have alone : [entry.2] ⊆ names := List.cons_subset.mpr ⟨listed, List.nil_subset _⟩
  unfold addToGroup
  split
  · intro group present
    obtain ⟨before, among, rfl⟩ := List.mem_map.mp present
    split
    · exact List.append_subset.mpr ⟨within before among, alone⟩
    · exact within before among
  · refine List.forall_mem_append.mpr ⟨within, ?_⟩
    exact List.forall_mem_singleton.mpr alone

private theorem grouped_subset (entries : List (String × String)) :
    ∀ group ∈ grouped entries, group.2 ⊆ entries.map (·.2) := by
  have run (names : List String) (groups : List (String × List String))
      (within : ∀ group ∈ groups, group.2 ⊆ names) (listed : entries.map (·.2) ⊆ names) :
      ∀ group ∈ entries.foldl addToGroup groups, group.2 ⊆ names := by
    induction entries generalizing groups with
    | nil => exact within
    | cons entry rest ih =>
        rw [List.map_cons, List.cons_subset] at listed
        exact ih _ (addToGroup_subset within listed.1) listed.2
  exact run _ [] nofun (List.Subset.refl _)

private theorem mapMembers_references (entries : List (String × String)) :
    ((mapMembers entries).flatMap fun member => member.type.references) ⊆ entries.map (·.2) := by
  intro name referred
  obtain ⟨member, present, inside⟩ := List.mem_flatMap.mp referred
  obtain ⟨group, among, rfl⟩ := List.mem_map.mp present
  rw [TypeExpr.references_union, List.flatMap_map] at inside
  obtain ⟨named, inGroup, same⟩ := List.mem_flatMap.mp inside
  rw [TypeExpr.references_named, List.mem_singleton] at same
  exact grouped_subset entries group among (same ▸ inGroup)

/-! ### The whole file -/

namespace SchemaTypes

variable {schemaId : String} {schema : List Declaration}

/-- Descriptions refer to all identifiers that are listed, and nothing else of the schema. -/
theorem identifiers_eq_all (accepted : ofSchema schemaId schema = .ok types) :
    types.naming.identifiers.map (·.2) = types.all.map (·.identifier) := by
  rw [identifiers_of_ofSchema accepted]
  unfold ofSchema at accepted
  dsimp only at accepted
  split at accepted
  · cases accepted
  · cases accepted
    refine List.map_snd_zip (Nat.le_of_eq ?_)
    rw [uniqueNames_length, List.length_map]

/-- Each type that is listed describes a declaration. -/
theorem all_described (accepted : ofSchema schemaId schema = .ok types) {named : NamedType}
    (listed : named ∈ types.all) :
    ∃ declaration ∈ schema, named.type = describeDeclaration types.naming declaration := by
  obtain ⟨name, _, found⟩ := List.mem_filterMap.mp listed
  obtain ⟨identifier, _, goesOn⟩ := Option.bind_eq_some_iff.mp found
  obtain ⟨type, described, ends⟩ := Option.bind_eq_some_iff.mp goesOn
  cases ends
  have present := Table.mem_of_lookup described
  unfold ofSchema at accepted
  dsimp only at accepted
  split at accepted
  · cases accepted
  · cases accepted
    obtain ⟨declaration, among, same⟩ := List.mem_map.mp present
    exact ⟨declaration, among, (congrArg Prod.snd same).symm⟩

end SchemaTypes

section File

variable {schemaId : String} {schema : List Declaration} {declared : List String}

private theorem keyedArrayDeclaration_closed : keyedArrayDeclaration.ClosedIn declared := by
  intro name referred
  have names : keyedArrayDeclaration.references = ["Array", "T"] := by decide
  rw [names] at referred
  rcases List.mem_cons.mp referred with same | parameter
  · exact .inr (.inr same)
  · exact .inr (.inl parameter)

private theorem allTypesDeclaration_closed (declares : types.all.map (·.identifier) ⊆ declared) :
    (allTypesDeclaration types).ClosedIn declared := by
  intro name referred
  unfold allTypesDeclaration at referred
  rw [TopLevel.references_exportedAlias] at referred
  split at referred
  · cases referred
  · rw [TypeExpr.references_union, List.flatMap_map] at referred
    obtain ⟨identifier, listed, same⟩ := List.mem_flatMap.mp referred
    rw [TypeExpr.references_named, List.mem_singleton] at same
    exact .inl (declares (same ▸ listed))

private theorem defaultSchemaDeclaration_closed (options : Options)
    (declares : allTypesName ∈ declared) :
    (defaultSchemaDeclaration options).ClosedIn declared := by
  intro name referred
  rw [defaultSchemaDeclaration, TopLevel.references_withComments,
    TopLevel.references_exportedAlias, TypeExpr.references_named, List.mem_singleton] at referred
  exact .inl (referred ▸ declares)

private theorem schemasDeclaration_closed (types : SchemaTypes)
    (declares : defaultSchemaName ∈ declared) :
    (schemasDeclaration types).ClosedIn declared := by
  intro name referred
  have names : (schemasDeclaration types).references = [defaultSchemaName] := rfl
  rw [names, List.mem_singleton] at referred
  exact .inl (referred ▸ declares)

private theorem schemaDeclarations_closed
    (accepted : SchemaTypes.ofSchema schemaId schema = .ok types)
    (offered : ∀ name ∈ types.naming.offered, name ∈ declared ∨ name = "Array") :
    ∀ declaration ∈ schemaDeclarations types, declaration.ClosedIn declared := by
  intro declaration present name referred
  obtain ⟨named, listed, rfl⟩ := List.mem_map.mp present
  obtain ⟨described, _, same⟩ := SchemaTypes.all_described accepted listed
  rw [TopLevel.references_exportedAlias, same] at referred
  have among := describeDeclaration_references types.naming described referred
  exact (offered name among).imp_right .inr

private theorem moduleDeclarations_closed (options : Options) {module : EvaluatedModule}
    (within : module.RefersWithin types)
    (offered : ∀ name ∈ types.naming.offered, name ∈ declared ∨ name = "Array")
    (base : module.projections ≠ [] → projectionBaseName ∈ declared) :
    ∀ declaration ∈ moduleDeclarations options module, declaration.ClosedIn declared := by
  refine List.forall_mem_append.mpr ⟨?_, ?_⟩
  · intro declaration present name referred
    obtain ⟨query, among, rfl⟩ := List.mem_map.mp present
    rw [queryDeclaration, TopLevel.references_withComments,
      TopLevel.references_exportedAlias] at referred
    exact (offered name (within.queries query among referred)).imp_right .inr
  · intro declaration present name referred
    obtain ⟨projection, among, rfl⟩ := List.mem_map.mp present
    rw [projectionDeclaration, TopLevel.references_withComments,
      TopLevel.references_exportedAlias] at referred
    rcases List.mem_cons.mp (within.projections projection among referred) with same | known
    · exact .inl (same ▸ base (List.ne_nil_of_mem among))
    · exact (offered name known).imp_right .inr

/-- A map refers to the results that it is made of. -/
theorem augmentation_closed {target name : String} {entries : List (String × String)}
    {comments : List String} (declares : entries.map (·.2) ⊆ declared) :
    (TopLevel.augmentation target ⟨name, mapMembers entries⟩ comments).ClosedIn declared :=
  fun _ referred => .inl (declares (mapMembers_references entries referred))

private theorem queryMapDeclarations_closed (options : Options) {modules : List EvaluatedModule}
    (declares : modules.flatMap EvaluatedModule.resultNames ⊆ declared) :
    ∀ declaration ∈ queryMapDeclarations options modules, declaration.ClosedIn declared := by
  have queries : (modules.flatMap fun module => module.queries.map fun query =>
      (query.extracted.query, query.id)).map (·.2) ⊆ declared := by
    intro name present
    rw [List.map_flatMap] at present
    obtain ⟨module, among, inside⟩ := List.mem_flatMap.mp present
    rw [List.map_map] at inside
    exact declares (List.mem_flatMap.mpr ⟨module, among, List.mem_append_left _ inside⟩)
  unfold queryMapDeclarations
  dsimp only
  split
  · exact nofun
  · intro declaration present
    obtain ⟨index, _, rfl⟩ := List.mem_mapIdx.mp present
    exact augmentation_closed queries

private theorem projectionMapDeclaration_closed {modules : List EvaluatedModule}
    (declares : modules.flatMap EvaluatedModule.resultNames ⊆ declared) :
    (projectionMapDeclaration modules).ClosedIn declared := by
  refine augmentation_closed fun name present => ?_
  rw [List.map_flatMap] at present
  obtain ⟨module, among, inside⟩ := List.mem_flatMap.mp present
  rw [List.map_map] at inside
  exact declares (List.mem_flatMap.mpr ⟨module, among, List.mem_append_right _ inside⟩)

structure DeclaresAll (types : SchemaTypes) (modules : List EvaluatedModule)
    (declared : List String) : Prop where
  schemaTypes : types.all.map (·.identifier) ⊆ declared
  helpers : ∀ name ∈ [keyedArrayName, allTypesName, defaultSchemaName], name ∈ declared
  results : modules.flatMap EvaluatedModule.resultNames ⊆ declared
  base : ∀ module ∈ modules, module.projections ≠ [] → projectionBaseName ∈ declared

private theorem fileDeclarations_declaresAll (types : SchemaTypes) (options : Options)
    (modules : List EvaluatedModule) :
    DeclaresAll types modules
      ((fileDeclarations types options modules).flatMap TopLevel.declaredNames) := by
  rw [fileDeclarations_names]
  constructor
  · intro name present
    exact List.mem_append_left _ (List.mem_append_left _ (List.mem_append_right _ present))
  · intro name present
    simp only [List.mem_cons, List.not_mem_nil, or_false] at present
    simp only [List.mem_append, List.mem_cons, List.not_mem_nil, or_false]
    rcases present with same | same | same
    · exact .inl (.inl (.inl (.inr (.inr same))))
    · exact .inl (.inr (.inl same))
    · exact .inl (.inr (.inr same))
  · exact List.subset_append_right _ _
  · intro module among some
    have projected : (modules.any fun module => !module.projections.isEmpty) = true :=
      List.any_eq_true.mpr ⟨module, among, by simpa using some⟩
    rw [projected, if_pos rfl]
    exact List.mem_cons_self

/-- All that descriptions refer to is declared but for the array of the language. -/
theorem DeclaresAll.offered {modules : List EvaluatedModule}
    (declares : DeclaresAll types modules declared)
    (accepted : SchemaTypes.ofSchema schemaId schema = .ok types) :
    ∀ name ∈ types.naming.offered, name ∈ declared ∨ name = "Array" := by
  intro name present
  unfold Naming.offered at present
  rw [SchemaTypes.identifiers_eq_all accepted] at present
  rcases List.mem_cons.mp present with same | present
  · exact .inr same
  rcases List.mem_cons.mp present with same | listed
  · exact .inl (declares.helpers name (same ▸ List.mem_cons_self))
  · exact .inl (declares.schemaTypes listed)

/-- A file whose results refer within bounds is closed. -/
theorem fileDeclarations_closed (accepted : SchemaTypes.ofSchema schemaId schema = .ok types)
    (options : Options) {modules : List EvaluatedModule}
    (within : ∀ module ∈ modules, module.RefersWithin types) :
    ∀ declaration ∈ fileDeclarations types options modules,
      declaration.ClosedIn
        ((fileDeclarations types options modules).flatMap TopLevel.declaredNames) := by
  have declares := fileDeclarations_declaresAll types options modules
  have offered := declares.offered accepted
  generalize (fileDeclarations types options modules).flatMap TopLevel.declaredNames = declared
    at declares offered ⊢
  -- One case for each group of declarations, in the order of the file.
  unfold fileDeclarations
  dsimp only
  simp only [List.forall_mem_append]
  refine ⟨⟨⟨⟨⟨⟨⟨?_, ?_⟩, ?_⟩, ?_⟩, ?_⟩, ?_⟩, ?_⟩, ?_⟩
  · split
    · exact List.forall_mem_singleton.mpr nofun
    · exact nofun
  · refine List.forall_mem_cons.mpr ⟨nofun, ?_⟩
    exact List.forall_mem_singleton.mpr keyedArrayDeclaration_closed
  · exact schemaDeclarations_closed accepted offered
  · refine List.forall_mem_cons.mpr ⟨allTypesDeclaration_closed declares.schemaTypes, ?_⟩
    exact List.forall_mem_singleton.mpr
      (defaultSchemaDeclaration_closed options (declares.helpers _ (by decide)))
  · intro declaration present
    obtain ⟨module, among, inside⟩ := List.mem_flatMap.mp present
    exact moduleDeclarations_closed options (within module among) offered
      (declares.base module among) declaration inside
  · split
    · exact List.forall_mem_singleton.mpr
        (schemasDeclaration_closed types (declares.helpers _ (by decide)))
    · exact nofun
  · exact queryMapDeclarations_closed options declares.results
  · split
    · exact List.forall_mem_singleton.mpr (projectionMapDeclaration_closed declares.results)
    · exact nofun

end File

/-! ### The array of the language -/

/-- A type of the schema is called like the array of the language if and only if that is the
identifier made from its name: the name is not reserved, and no numbered name. -/
theorem SchemaTypes.array_listed_iff {schemaId : String} {schema : List Declaration}
    (accepted : ofSchema schemaId schema = .ok types) :
    "Array" ∈ types.all.map (·.identifier) ↔
      ∃ declaration ∈ schema, Identifier.normalize declaration.name = "Array" := by
  rw [identifiers_of_ofSchema accepted, List.map_map]
  constructor
  · intro present
    obtain ⟨taken, wanted, among, given⟩ := mem_uniqueNames present
    obtain ⟨declaration, inSchema, rfl⟩ := List.mem_map.mp among
    rcases Identifier.unique_eq taken _ with same | ⟨number, same⟩
    · exact ⟨declaration, inSchema, (given.trans same).symm⟩
    · have letters : '_' ∈ "Array".toList := by
        rw [given.trans same, Identifier.numbered_toList]
        exact List.mem_append_right _ List.mem_cons_self
      exact absurd letters (by decide)
  · rintro ⟨declaration, inSchema, same⟩
    refine wanted_mem_uniqueNames ?_ (by decide)
    exact List.mem_map.mpr ⟨declaration, inSchema, same⟩

/-- Nothing else in the file is called so. -/
theorem array_declared_iff {options : Options} {modules : List EvaluatedModule}
    (results : ∀ name ∈ modules.flatMap EvaluatedModule.resultNames, IsResultName name) :
    "Array" ∈ (fileDeclarations types options modules).flatMap TopLevel.declaredNames ↔
      "Array" ∈ types.all.map (·.identifier) := by
  have noResult : "Array" ∉ modules.flatMap EvaluatedModule.resultNames := by
    intro present
    obtain ⟨last, ends, letter⟩ := (results _ present).last
    cases ends
    exact absurd letter (by decide)
  have noBase (projected : Bool) : "Array" ∉ if projected then [projectionBaseName] else [] := by
    cases projected <;> decide
  have noHelper : "Array" ∉ [referenceSymbol, keyedArrayName] := by decide
  have noUnion : "Array" ∉ [allTypesName, defaultSchemaName] := by decide
  rw [fileDeclarations_names, List.mem_append, or_iff_left noResult, List.mem_append,
    or_iff_left noUnion, List.mem_append, List.mem_append, or_iff_right (noBase _),
    or_iff_right noHelper]

/-- A generated file refers to nothing but what it declares itself, what stands for a type inside a
statement, and the array of the language. But that array is not safe: the file declares its name too
if and only if a declaration of the schema has a name that its identifier is made from. -/
theorem generate_references_closed {Ast : Type} {schemaId : String} {schema : List Declaration}
    {types : SchemaTypes} (accepted : SchemaTypes.ofSchema schemaId schema = .ok types)
    (language : Query.Language Ast) (options : Options) {cache : QueryCache}
    (reached : types.Reached cache) (modules : List ExtractedModule) :
    let declarations := (generate types language options cache modules).declarations
    (∀ declaration ∈ declarations,
        declaration.ClosedIn (declarations.flatMap TopLevel.declaredNames)) ∧
      ("Array" ∈ declarations.flatMap TopLevel.declaredNames ↔
        ∃ declaration ∈ schema, Identifier.normalize declaration.name = "Array") := by
  intro declarations
  have given := (moduleStep_anew types language).threaded
    ⟨types.all.map (·.identifier), cache, []⟩ modules
  have within := generate_refersWithin language options reached modules
  refine ⟨fileDeclarations_closed accepted options within, ?_⟩
  exact (array_declared_iff given.result).trans (SchemaTypes.array_listed_iff accepted)

def tagsLanguage : Query.Language String where
  parse := fun query _ => .ok query
  evaluate := fun _ _ =>
    .ok (.union [.object ⟨[("tags", ⟨.array (.inline "tag"), false⟩)], none, none⟩, .null])
  isObject := fun _ => true

def arraySchema : List Declaration :=
  [.type "array" (.array (.string none)), .type "tag" (.string none),
    .document "post" [("list", ⟨.inline "array", false⟩)]]

def tagsModule : ExtractedModule :=
  let origin : Source.Position := ⟨1, 0, 0⟩
  ⟨"/page.ts", [⟨"/page.ts", ⟨"query", .nowhere, ⟨origin, origin⟩⟩, "*"⟩],
    [⟨"/page.ts", ⟨"tags", .nowhere, ⟨origin, origin⟩⟩, "\x7btags\x7d"⟩], []⟩

/-- The query was evaluated before, when its type was not known. -/
theorem projected_file_closed :
    ∃ types, SchemaTypes.ofSchema "default" arraySchema = .ok types ∧
      ∃ cache, types.Reached cache ∧
        let declarations :=
          (generate types tagsLanguage .standard cache [tagsModule]).declarations
        (∀ declaration ∈ declarations,
            declaration.ClosedIn (declarations.flatMap TopLevel.declaredNames)) ∧
          declarations.flatMap TopLevel.references =
            ["Array", "T", "Array", "Array", "Array", "Tag", "Post", "AllSanitySchemaTypes",
              "ProjectionBase", "ArrayOf", "Tag", "DefaultSchema", "QueryResult", "QueryResult",
              "TagsResult"] := by
  have accepted : SchemaTypes.ofSchema "default" arraySchema = .ok _ := rfl
  refine ⟨_, accepted, _, .query openLanguage "*" .fresh, ?_, by decide +kernel⟩
  exact (generate_references_closed accepted tagsLanguage .standard
    (.query openLanguage "*" .fresh) [tagsModule]).1

/-- The type called "array" takes the name of the array of the language, and refers to itself. -/
theorem array_type_captures_array :
    ∃ types, SchemaTypes.ofSchema "default" arraySchema = .ok types ∧
      ∃ declaration ∈ (generate types tagsLanguage .standard [] []).declarations,
        declaration.declaredNames = ["Array"] ∧ declaration.references = ["Array"] := by
  exact ⟨_, rfl, by decide +kernel⟩

end QueryTypes.Typing
