import QueryTypes.Proofs.Scoping.Sites

/-!
The variables of a scope are exactly the declarations that belong to it.

A program's declarations are read from its syntax, each with the region it belongs to. The scope of
a region holds them, in the order of the syntax tree and each once, and holds nothing else. So the
last definition of a name, which is the one that counts, is the last of these.
-/

set_option autoImplicit false

namespace QueryTypes.Scoping

open QueryTypes.Script

/-! ### Variables are told apart by their names -/

structure Scope.Tidy (scope : Scope) : Prop where
  names : (scope.variables.map (·.name)).Nodup
  defined : ∀ known ∈ scope.variables, known.definitions ≠ []

theorem Scope.Tidy.declare {scope : Scope} (tidy : scope.Tidy) (name : String)
    (definition : Definition) : (scope.declare name definition).Tidy := by
  unfold Scope.declare
  split
  · refine ⟨?_, ?_⟩
    · rw [List.map_map, List.map_congr_left (g := (·.name))]
      · exact tidy.names
      · intro known _
        dsimp only [Function.comp]
        split <;> rfl
    · intro known present
      obtain ⟨old, inScope, rfl⟩ := List.mem_map.mp present
      split
      · exact List.append_ne_nil_of_right_ne_nil _ (List.cons_ne_nil _ _)
      · exact tidy.defined old inScope
  · rename_i absent
    refine ⟨?_, ?_⟩
    · rw [List.map_append, List.map_singleton]
      apply List.nodup_append.mpr
      refine ⟨tidy.names, List.nodup_cons.mpr ⟨List.not_mem_nil, List.nodup_nil⟩, ?_⟩
      intro held present other same equal
      obtain ⟨known, inScope, rfl⟩ := List.mem_map.mp present
      rw [List.mem_singleton.mp same] at equal
      apply absent
      unfold Scope.declared?
      rw [List.find?_isSome]
      exact ⟨known, inScope, beq_iff_eq.mpr equal⟩
    · intro known present
      rcases List.mem_append.mp present with old | new
      · exact tidy.defined known old
      · rw [List.mem_singleton.mp new]
        exact List.cons_ne_nil _ _

def ScopeTree.Tidy (tree : ScopeTree) : Prop :=
  ∀ id scope, tree.scope? id = some scope → scope.Tidy

theorem ScopeTree.Tidy.modifyScope {tree : ScopeTree} (tidy : tree.Tidy) (id : ScopeId)
    {change : Scope → Scope} (kept : ∀ scope : Scope, scope.Tidy → (change scope).Tidy) :
    (tree.modifyScope id change).Tidy := by
  intro other scope found
  rw [scope?_modifyScope] at found
  split at found
  · obtain ⟨old, here, rfl⟩ := Option.map_eq_some_iff.mp found
    exact kept old (tidy other old here)
  · exact tidy other scope found

private theorem Walk.step_tidy {walk : Walk} (tidy : walk.tree.Tidy) (event : Event) :
    (walk.step event).tree.Tidy := by
  cases event with
  | declare target name definition =>
      exact tidy.modifyScope _ fun scope held => held.declare name definition
  | enter kind creator =>
      intro id scope found
      change (walk.enter kind creator).tree.scope? id = some scope at found
      rw [scope?_enter] at found
      split at found
      · cases found
        exact ⟨List.nodup_nil, nofun⟩
      · have kept : (walk.tree.modifyScope walk.current (.addChild walk.tree.size)).Tidy :=
          tidy.modifyScope walk.current fun _ held => ⟨held.names, held.defined⟩
        exact kept id scope found
  | refer node name =>
      have located : (walk.locate node).tree.Tidy := tidy
      exact located.modifyScope _ fun _ held => ⟨held.names, held.defined⟩
  | node mark => exact tidy
  | leave => exact tidy
  | returns node => exact tidy
  | «variables» declaration => exact tidy

private theorem Walk.run_tidy {walk : Walk} (tidy : walk.tree.Tidy) (events : List Event) :
    (walk.run events).tree.Tidy := by
  induction events generalizing walk with
  | nil => exact tidy
  | cons event rest ih => exact ih (step_tidy tidy event)

theorem bind_tidy (program : Program) : (bind program).Tidy := by
  apply Walk.run_tidy
  intro id scope found
  have zero : id = 0 := Nat.lt_one_iff.mp (ScopeTree.lt_of_scope? found)
  subst zero
  cases found
  exact ⟨List.nodup_nil, nofun⟩

def variableOf? (name : String) (id : ScopeId) : List Definition → Option Variable
  | [] => none
  | first :: rest => some ⟨name, id, first :: rest⟩

theorem ScopeTree.declared?_eq {tree : ScopeTree} (tidy : tree.Tidy) (valid : tree.Valid)
    (id : ScopeId) (name : String) :
    tree.declared? id name = variableOf? name id (tree.definitionsOf id name) := by
  unfold definitionsOf
  cases declared : tree.declared? id name with
  | none => rfl
  | some known =>
      obtain ⟨scope, found, inScope⟩ := Option.bind_eq_some_iff.mp declared
      have present := List.mem_of_find?_eq_some inScope
      obtain ⟨knownName, knownScope, definitions⟩ := known
      have holder : knownScope = id := valid.holders id scope found _ present
      have named : knownName = name := Scope.declared?_name inScope
      subst holder named
      cases definitions with
      | nil => exact absurd rfl ((tidy _ scope found).defined _ present)
      | cons first rest => rfl

/-! ### Regions and their scopes -/

namespace ScopeTree

def holder? (tree : ScopeTree) (region : Region) : Option ScopeId :=
  match region.maker? with
  | none => some root
  | some maker => tree.createdBy? maker

def regionScope (tree : ScopeTree) (region : Region) : ScopeId :=
  match region.maker? with
  | none => root
  | some maker => tree.scopeOf maker

variable {tree : ScopeTree}

theorem regionScope_of_holder? {region : Region} {id : ScopeId}
    (holder : tree.holder? region = some id) : tree.regionScope region = id := by
  unfold holder? at holder
  unfold regionScope
  cases made : region.maker? with
  | none =>
      rw [made] at holder
      exact Option.some.inj holder
  | some maker =>
      rw [made] at holder
      exact scopeOf_of_createdBy? holder

private theorem innermost_openScopes (around : List Nesting) :
    tree.innermost (openScopes around) = tree.regionScope (innermostRegion around) := by
  cases around with
  | nil => rfl
  | cons nesting outer => cases nesting <;> rfl

private theorem target_closure (around : List Nesting) :
    tree.target (openScopes around) .closure = tree.regionScope (functionRegion around) := by
  have outward : (openScopes around).dropWhile (fun scope => !scope.closure) =
      openScopes (around.dropWhile fun nesting => !nesting.isFunction) := by
    unfold openScopes
    rw [List.dropWhile_map]
    rfl
  unfold target functionRegion
  dsimp only
  rw [outward, innermost_openScopes]

end ScopeTree

/-! ### Names in a row -/

private theorem flatten_mapIdx_bindings {Item : Type} (items : List Item) (pattern : Item → Pattern)
    (event : Binding → Nat → Event) :
    (items.mapIdx fun index item => (pattern item).bindings.map (event · index)).flatten =
      (indexedBindings (items.map pattern)).map fun bound => event bound.1 bound.2 := by
  unfold indexedBindings
  rw [List.mapIdx_eq_zipIdx_map, List.zipIdx_map, List.flatMap_map, List.map_flatMap,
    List.flatMap_def]
  congr 1
  apply List.map_congr_left
  intro pair _
  dsimp only [Prod.map]
  rw [List.map_map]
  rfl

private theorem parameterEvents_eq (function : Function) :
    parameterEvents function =
      (indexedBindings (function.parameters.map (·.pattern))).map fun bound =>
        .declare .current bound.1.name (.parameter function bound.2) :=
  flatten_mapIdx_bindings function.parameters _ fun binding index =>
    .declare .current binding.name (.parameter function index)

private theorem declaredNames_eq (declaration : VariableDeclaration) :
    declaredNames declaration =
      (indexedBindings (declaration.declarators.map (·.pattern))).map fun bound =>
        .declare (targetOf declaration.mode) bound.1.name (.declarator declaration bound.2) :=
  flatten_mapIdx_bindings declaration.declarators _ fun binding index =>
    .declare (targetOf declaration.mode) binding.name (.declarator declaration index)

private theorem importEvents_eq (declaration : ImportDeclaration) :
    importEvents declaration = (importedNames declaration).map fun bound =>
      .declare .module bound.2.2.name
        (.importBinding declaration bound.1 bound.2.1 bound.2.2) := by
  obtain ⟨mark, typeOnly, default, names, source⟩ := declaration
  unfold importEvents importedNames
  dsimp only
  rw [List.map_append]
  congr 1
  · cases default with
    | none => rfl
    | some localName => rfl
  · cases names with
    | none => rfl
    | some names =>
        cases names with
        | all localName => rfl
        | some names =>
            dsimp only
            rw [List.map_map]
            rfl

private theorem catchEvents_eq (parameter : Option Pattern) :
    catchEvents parameter = (parameter.toList.flatMap (·.bindings)).map fun binding =>
      .declare .current binding.name (.catchParameter binding) := by
  cases parameter with
  | none => rfl
  | some pattern =>
      rw [Option.toList_some, List.flatMap_singleton]
      rfl

/-! ### What a site adds -/

section Adds

variable {tree : ScopeTree} {id : ScopeId} {name : String}

def Declaration.isOf (tree : ScopeTree) (id : ScopeId) (name : String)
    (declaration : Declaration) : Bool :=
  declaration.name == name && tree.regionScope declaration.region == id

/-- Names that are declared one after another in one region. -/
theorem added_row {Item : Type} (items : List Item) (called : Item → String)
    (meant : Item → Definition) {opened : List OpenScope} {target : Target} {region : Region}
    (placed : tree.target opened target = tree.regionScope region) :
    (items.map fun item => (opened, Event.declare target (called item) (meant item))).filterMap
        (tree.added id name) =
      ((items.map fun item => (⟨region, called item, meant item⟩ : Declaration)).filter
        (Declaration.isOf tree id name)).map (·.definition) := by
  induction items with
  | nil => rfl
  | cons item rest ih =>
      rw [List.map_cons, List.map_cons, List.filterMap_cons, ih, ScopeTree.added, placed]
      unfold Declaration.isOf
      by_cases here : called item = name ∧ tree.regionScope region = id
      · rw [if_pos here, List.filter_cons_of_pos (by simp [here])]
        rfl
      · rw [if_neg here, List.filter_cons_of_neg (by simpa using here)]

private theorem Site.added_noted (site : Site) :
    site.noted.filterMap (tree.added id name) =
      (site.declarations.filter (Declaration.isOf tree id name)).map (·.definition) := by
  obtain ⟨around, construct⟩ := site
  have here := tree.innermost_openScopes around
  cases construct with
  | block statement => rfl
  | switch mark => rfl
  | returns statement => rfl
  | identifier mark used => rfl
  | catchClause clause =>
      rw [Site.noted, Site.declarations]
      rw [List.filterMap_cons_none rfl, catchEvents_eq, List.map_map]
      exact added_row _ _ _ rfl
  | function function =>
      rw [Site.noted, Site.declarations]
      rw [List.filterMap_cons_none rfl, parameterEvents_eq, List.map_map]
      exact added_row _ _ _ rfl
  | namedFunction mark binding function =>
      rw [Site.noted, Site.declarations]
      rw [List.filterMap_cons_none rfl]
      exact added_row [binding] (·.name) (.functionName · function) rfl
  | functionDeclaration declaration =>
      rw [Site.noted, Site.declarations]
      have named : functionNameEvents declaration.name declaration.function =
          declaration.name.toList.map fun binding =>
            .declare .current binding.name (.functionName binding declaration.function) := by
        cases declaration.name <;> rfl
      rw [named, List.map_map]
      exact added_row _ _ _ here
  | «variables» declaration =>
      rw [Site.noted, Site.declarations]
      change ((openScopes around, Event.variables declaration) ::
        (declaredNames declaration).map (openScopes around, ·)).filterMap _ = _
      rw [List.filterMap_cons_none rfl, declaredNames_eq, List.map_map]
      have placed : tree.target (openScopes around) (targetOf declaration.mode) =
          tree.regionScope (variableRegion around declaration.mode) := by
        cases declaration.mode with
        | hoisted => exact tree.target_closure around
        | constant => exact here
        | lexical => exact here
      exact added_row _ _ _ placed
  | imports declaration =>
      rw [Site.noted, Site.declarations]
      rw [importEvents_eq, List.map_map]
      exact added_row _ _ _ rfl

end Adds

/-! ### Regions of declarations have scopes -/

private theorem openScope_of_nesting {around : List Nesting} {region : Region}
    (surrounded : ∃ nesting ∈ around, nesting.region = region) {maker : NodeId}
    (made : region.maker? = some maker) : ∃ scope ∈ openScopes around, scope.maker = maker := by
  obtain ⟨nesting, present, rfl⟩ := surrounded
  rw [nesting.maker?_region] at made
  exact ⟨nesting.opened, List.mem_map_of_mem present, Option.some.inj made⟩

/-- When the walk declares something, the scope of its region is open. -/
theorem Site.declared_within {site : Site} {declaration : Declaration}
    (present : declaration ∈ site.declarations) :
    ∃ opened event, (opened, event) ∈ site.noted ∧
      ∀ maker, declaration.region.maker? = some maker → ∃ scope ∈ opened, scope.maker = maker := by
  obtain ⟨around, construct⟩ := site
  have own (scope : OpenScope) (region : Region) (same : region.maker? = some scope.maker) :
      ∀ maker, region.maker? = some maker → ∃ inner ∈ scope :: openScopes around,
        inner.maker = maker := by
    intro maker made
    exact ⟨scope, List.mem_cons_self, Option.some.inj (same.symm.trans made)⟩
  cases construct with
  | block statement => cases present
  | switch mark => cases present
  | returns statement => cases present
  | identifier mark used => cases present
  | catchClause clause =>
      rw [Site.declarations] at present
      rw [Site.noted, catchEvents_eq]
      obtain ⟨binding, bound, rfl⟩ := List.mem_map.mp present
      exact ⟨_, _, List.mem_cons_of_mem _ (List.mem_map_of_mem (List.mem_map_of_mem bound)),
        own _ _ rfl⟩
  | function function =>
      rw [Site.declarations] at present
      rw [Site.noted, parameterEvents_eq]
      obtain ⟨binding, bound, rfl⟩ := List.mem_map.mp present
      exact ⟨_, _, List.mem_cons_of_mem _ (List.mem_map_of_mem (List.mem_map_of_mem bound)),
        own _ _ rfl⟩
  | namedFunction mark binding function =>
      rw [Site.declarations] at present
      rw [List.mem_singleton.mp present]
      exact ⟨_, _, List.mem_cons_of_mem _ List.mem_cons_self, own _ _ rfl⟩
  | functionDeclaration declared =>
      obtain ⟨mark, exported, exportedAsDefault, name, function⟩ := declared
      rw [Site.declarations] at present
      obtain ⟨binding, bound, rfl⟩ := List.mem_map.mp present
      obtain rfl := Option.mem_toList.mp bound
      exact ⟨_, _, List.mem_cons_self, fun _ made =>
        openScope_of_nesting (innermostRegion_nesting made) made⟩
  | «variables» declared =>
      rw [Site.declarations] at present
      obtain ⟨binding, bound, rfl⟩ := List.mem_map.mp present
      exact ⟨_, _, List.mem_cons_self, fun _ made =>
        openScope_of_nesting (variableRegion_nesting made) made⟩
  | imports declared =>
      rw [Site.declarations] at present
      rw [Site.noted, importEvents_eq]
      obtain ⟨binding, bound, rfl⟩ := List.mem_map.mp present
      exact ⟨_, _, List.mem_map_of_mem (List.mem_map_of_mem bound), nofun⟩

theorem holder?_of_declaration {program : Program} (unique : UniqueNodes program)
    {declaration : Declaration} (present : declaration ∈ programDeclarations program) :
    (bind program).holder? declaration.region =
      some ((bind program).regionScope declaration.region) := by
  obtain ⟨site, inProgram, declared⟩ := List.mem_flatMap.mp present
  obtain ⟨opened, event, atSite, within⟩ := Site.declared_within declared
  have opens := opens_of_mem_noted unique (mem_programNoted inProgram atSite)
  unfold ScopeTree.holder? ScopeTree.regionScope
  cases made : declaration.region.maker? with
  | none => rfl
  | some maker =>
      obtain ⟨scope, isOpen, rfl⟩ := within maker made
      exact opens.made scope isOpen

/-! ### The tables of a program -/

/-- What a program declares under a name in a scope, in the order of its syntax tree. -/
def programDefinitions (program : Program) (id : ScopeId) (name : String) : List Definition :=
  ((programDeclarations program).filter fun declaration =>
    declaration.name = name ∧ (bind program).holder? declaration.region = some id).map
      (·.definition)

private theorem definitionsOf_eq_programDefinitions {program : Program}
    (unique : UniqueNodes program) (id : ScopeId) (name : String) :
    (bind program).definitionsOf id name = programDefinitions program id name := by
  have eachSite : (fun site : Site => site.noted.filterMap ((bind program).added id name)) =
      fun site => (site.declarations.filter (Declaration.isOf (bind program) id name)).map
        (·.definition) := funext fun site => site.added_noted
  have sameRegions : (programDeclarations program).filter
        (Declaration.isOf (bind program) id name) =
      (programDeclarations program).filter fun declaration =>
        declaration.name = name ∧ (bind program).holder? declaration.region = some id := by
    apply List.filter_congr
    intro declaration present
    rw [holder?_of_declaration unique present]
    unfold Declaration.isOf
    simp [Bool.beq_eq_decide_eq]
  calc (bind program).definitionsOf id name
      = (programNoted program).filterMap ((bind program).added id name) :=
        bind_definitionsOf unique id name
    _ = (programSites program).flatMap fun site =>
          site.noted.filterMap ((bind program).added id name) := by
        rw [programSites_noted, List.filterMap_flatMap]
    _ = ((programDeclarations program).filter (Declaration.isOf (bind program) id name)).map
          (·.definition) := by
        rw [eachSite, programDeclarations, List.filter_flatMap, List.map_flatMap]
    _ = programDefinitions program id name := by rw [sameRegions, programDefinitions]

theorem bind_declared? {program : Program} (unique : UniqueNodes program) (id : ScopeId)
    (name : String) :
    (bind program).declared? id name = variableOf? name id
      (programDefinitions program id name) := by
  rw [ScopeTree.declared?_eq (bind_tidy program) (bind_valid program),
    definitionsOf_eq_programDefinitions unique]

/-! ### What patterns bind -/

mutual

private theorem binds_of_mem : ∀ (pattern : Pattern) {binding : Binding},
    binding ∈ pattern.bindings → Binds pattern binding
  | .name own, binding, present => by
      rw [Pattern.bindings] at present
      rw [List.mem_singleton.mp present]
      exact .name own
  | .array mark elements rest, binding, present => by
      rw [Pattern.bindings] at present
      rcases List.mem_append.mp present with inside | others
      · obtain ⟨element, inElements, bound⟩ := binds_of_mem_elements elements inside
        exact .element inElements bound
      · obtain ⟨pattern, rfl, bound⟩ := binds_of_mem_rest rest others
        exact .arrayRest bound
  | .object mark properties rest, binding, present => by
      rw [Pattern.bindings] at present
      rcases List.mem_append.mp present with inside | others
      · obtain ⟨property, inProperties, bound⟩ := binds_of_mem_properties properties inside
        exact .property inProperties bound
      · obtain ⟨pattern, rfl, bound⟩ := binds_of_mem_rest rest others
        exact .objectRest bound

private theorem binds_of_mem_rest : ∀ (rest : Option Pattern) {binding : Binding},
    binding ∈ Pattern.restBindings rest → ∃ pattern, rest = some pattern ∧ Binds pattern binding
  | none, binding, present => by
      rw [Pattern.restBindings] at present
      cases present
  | some pattern, binding, present => by
      rw [Pattern.restBindings] at present
      exact ⟨pattern, rfl, binds_of_mem pattern present⟩

private theorem binds_of_mem_elements :
    ∀ (elements : List (Option PatternElement)) {binding : Binding},
    binding ∈ Pattern.elementBindings elements →
      ∃ element, some element ∈ elements ∧ Binds element.target binding
  | [], binding, present => by
      rw [Pattern.elementBindings] at present
      cases present
  | none :: rest, binding, present => by
      rw [Pattern.elementBindings] at present
      obtain ⟨element, inRest, bound⟩ := binds_of_mem_elements rest present
      exact ⟨element, List.mem_cons_of_mem _ inRest, bound⟩
  | some ⟨target, default⟩ :: rest, binding, present => by
      rw [Pattern.elementBindings] at present
      rcases List.mem_append.mp present with here | later
      · exact ⟨_, List.mem_cons_self, binds_of_mem target here⟩
      · obtain ⟨element, inRest, bound⟩ := binds_of_mem_elements rest later
        exact ⟨element, List.mem_cons_of_mem _ inRest, bound⟩

private theorem binds_of_mem_properties : ∀ (properties : List PatternProperty) {binding : Binding},
    binding ∈ Pattern.propertyBindings properties →
      ∃ property ∈ properties, Binds property.target binding
  | [], binding, present => by
      rw [Pattern.propertyBindings] at present
      cases present
  | ⟨mark, key, target, default⟩ :: rest, binding, present => by
      rw [Pattern.propertyBindings] at present
      rcases List.mem_append.mp present with here | later
      · exact ⟨_, List.mem_cons_self, binds_of_mem target here⟩
      · obtain ⟨property, inRest, bound⟩ := binds_of_mem_properties rest later
        exact ⟨property, List.mem_cons_of_mem _ inRest, bound⟩

end

private theorem mem_elementBindings {elements : List (Option PatternElement)}
    {element : PatternElement} {binding : Binding} (present : some element ∈ elements)
    (bound : binding ∈ element.target.bindings) : binding ∈ Pattern.elementBindings elements := by
  induction elements with
  | nil => cases present
  | cons first rest ih =>
      rcases List.mem_cons.mp present with same | later
      · subst same
        obtain ⟨target, default⟩ := element
        rw [Pattern.elementBindings]
        exact List.mem_append_left _ bound
      · cases first with
        | none =>
            rw [Pattern.elementBindings]
            exact ih later
        | some other =>
            obtain ⟨target, default⟩ := other
            rw [Pattern.elementBindings]
            exact List.mem_append_right _ (ih later)

private theorem mem_propertyBindings {properties : List PatternProperty}
    {property : PatternProperty} {binding : Binding} (present : property ∈ properties)
    (bound : binding ∈ property.target.bindings) :
    binding ∈ Pattern.propertyBindings properties := by
  induction properties with
  | nil => cases present
  | cons first rest ih =>
      obtain ⟨mark, key, target, default⟩ := first
      rw [Pattern.propertyBindings]
      rcases List.mem_cons.mp present with same | later
      · subst same
        exact List.mem_append_left _ bound
      · exact List.mem_append_right _ (ih later)

/-- A pattern binds a name if the name is among its elements, its properties or its rest, however
deep. -/
theorem mem_bindings_iff {pattern : Pattern} {binding : Binding} :
    binding ∈ pattern.bindings ↔ Binds pattern binding := by
  refine ⟨binds_of_mem pattern, fun bound => ?_⟩
  induction bound with
  | name own =>
      rw [Pattern.bindings]
      exact List.mem_cons_self
  | element present _ ih =>
      rw [Pattern.bindings]
      exact List.mem_append_left _ (mem_elementBindings present ih)
  | arrayRest _ ih =>
      rw [Pattern.bindings, Pattern.restBindings]
      exact List.mem_append_right _ ih
  | property present _ ih =>
      rw [Pattern.bindings]
      exact List.mem_append_left _ (mem_propertyBindings present ih)
  | objectRest _ ih =>
      rw [Pattern.bindings, Pattern.restBindings]
      exact List.mem_append_right _ ih

/-- A scope holds a name exactly if something is declared under it in one of the scope's regions.
The definitions of the name are then all of these declarations, each once and in the order of the
syntax tree, where a pattern contributes the names it binds at any depth. -/
theorem scope_variables_are_declarations {program : Program} (unique : UniqueNodes program)
    {id : ScopeId} {scope : Scope} (found : (bind program).scope? id = some scope) :
    (scope.variables.map (·.name)).Nodup ∧
      (∀ name, scope.declared? name = variableOf? name id (programDefinitions program id name)) ∧
      ∀ pattern binding, binding ∈ pattern.bindings ↔ Binds pattern binding := by
  refine ⟨(bind_tidy program id scope found).names, fun name => ?_, fun _ _ => mem_bindings_iff⟩
  rw [← bind_declared? unique]
  unfold ScopeTree.declared?
  rw [found, Option.bind_some]

def innerDeclaration : VariableDeclaration :=
  ⟨⟨8, .nowhere⟩, false, .hoisted, [⟨.name ⟨⟨9, .nowhere⟩, "first"⟩, none⟩], []⟩

/-- `([, first]) => { { var first } }` -/
def redeclaringFunction : Function :=
  ⟨⟨3, .nowhere⟩, true, false, false,
    [⟨⟨4, .nowhere⟩, false,
      .array ⟨5, .nowhere⟩ [none, some ⟨.name ⟨⟨6, .nowhere⟩, "first"⟩, none⟩] none, none⟩],
    .statements [.block ⟨⟨7, .nowhere⟩, [.variables innerDeclaration]⟩]⟩

def redeclaringProgram : Program :=
  ⟨⟨1, .nowhere⟩, [.expression ⟨2, .nowhere⟩ (.arrow ⟨10, .nowhere⟩ redeclaringFunction)], ⟨[]⟩⟩

/-- The parameter and the hoisted variable share the function's scope, the parameter first. -/
theorem hoisted_variable_joins_parameter :
    ∃ scope, (bind redeclaringProgram).scope? 1 = some scope ∧
      scope.declared? "first" =
        some ⟨"first", 1,
          [.parameter redeclaringFunction 0, .declarator innerDeclaration 0]⟩ := by
  have unique : UniqueNodes redeclaringProgram := by decide +kernel
  obtain ⟨scope, found⟩ : ∃ scope, (bind redeclaringProgram).scope? 1 = some scope := ⟨_, rfl⟩
  refine ⟨scope, found, ?_⟩
  rw [(scope_variables_are_declarations unique found).2.1]
  rfl

end QueryTypes.Scoping
