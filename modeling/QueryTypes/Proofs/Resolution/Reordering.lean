import QueryTypes.Proofs.Resolution.CorrespondingSteps
import QueryTypes.Proofs.Resolution.Following
import QueryTypes.Proofs.Resolution.Lexical

/-!
The order of a module's statements does not matter to resolution.

Exports are looked for in order, so export lists keep theirs, and so do default exports. A variable
is what its last definition makes it, so the names of the module have one each. Any other order of
the statements then gives modules that resolution can tell apart only by the numbers of their
scopes.
-/

set_option autoImplicit false

namespace QueryTypes.Resolution

open QueryTypes.Script
open QueryTypes.Source
open QueryTypes.Scoping
open QueryTypes.Modules

def isExportList : Stmt → Bool
  | .exportList _ => true
  | _ => false

def isDefaultExport : Stmt → Bool
  | .exportDefault _ _ => true
  | .function declaration => declaration.exportedAsDefault
  | _ => false

structure Rearranged (module other : Module) : Prop where
  path : other.path = module.path
  mark : other.program.mark = module.program.mark
  lines : other.program.lines = module.program.lines
  scopes : other.scopes = bind other.program
  body : module.body.Perm other.body
  exportLists : other.body.filter isExportList = module.body.filter isExportList
  defaultExports : other.body.filter isDefaultExport = module.body.filter isDefaultExport
  single : module.scopes.SinglyDefined

def SameUpToOrder (module other : Module) : Prop :=
  other = module ∨ Rearranged module other

/-! ### Exports -/

/-- What is collected does not depend on items that give nothing. -/
theorem flatMap_of_filter {Item Part : Type} {keep : Item → Bool} {parts : Item → List Part}
    (apart : ∀ item, keep item = false → parts item = []) {items others : List Item}
    (same : others.filter keep = items.filter keep) :
    others.flatMap parts = items.flatMap parts := by
  have kept (list : List Item) : (list.filter keep).flatMap parts = list.flatMap parts := by
    induction list with
    | nil => rfl
    | cons item rest ih =>
        rw [List.filter_cons]
        split
        · rw [List.flatMap_cons, List.flatMap_cons, ih]
        · rename_i dropped
          rw [List.flatMap_cons, apart item (eq_false_of_ne_true dropped), ih]
          rfl
  rw [← kept others, same, kept items]

private theorem filterMap_of_filter {Item Part : Type} {keep : Item → Bool}
    {part? : Item → Option Part} (apart : ∀ item, keep item = false → part? item = none)
    {items others : List Item} (same : others.filter keep = items.filter keep) :
    others.filterMap part? = items.filterMap part? := by
  rw [List.filterMap_eq_flatMap_toList, List.filterMap_eq_flatMap_toList]
  refine flatMap_of_filter (fun item dropped => ?_) same
  rw [apart item dropped]
  rfl

section Exports

variable {body other : List Stmt}

private theorem exportEntries_eq (same : other.filter isExportList = body.filter isExportList) :
    exportEntries other = exportEntries body := by
  refine flatMap_of_filter (fun statement dropped => ?_) same
  cases statement with
  | exportList _ => cases dropped
  | _ => rfl

private theorem wildcardSources_eq (same : other.filter isExportList = body.filter isExportList) :
    wildcardSources other = wildcardSources body := by
  refine filterMap_of_filter (fun statement dropped => ?_) same
  cases statement with
  | exportList _ => cases dropped
  | _ => rfl

private theorem defaultExport?_eq
    (same : other.filter isDefaultExport = body.filter isDefaultExport) :
    defaultExport? other = defaultExport? body := by
  unfold defaultExport?
  rw [← List.head?_filterMap, ← List.head?_filterMap]
  refine congrArg List.head? (filterMap_of_filter (fun statement dropped => ?_) same)
  cases statement with
  | exportDefault _ _ => cases dropped
  | function declaration =>
      obtain ⟨_, _, exportedAsDefault, _, _⟩ := declaration
      cases exportedAsDefault with
      | true => cases dropped
      | false => rfl
  | _ => rfl

end Exports

/-! ### Modules and hosts -/

section Hosts

variable {before after : Host} {module other : Module}

private theorem WellFormed.agrees_self (formed : WellFormed module) :
    module.scopes.Agrees module.scopes := by
  have same : Reordered module.program module.program :=
    ⟨formed.unique, formed.unique, List.Perm.refl _⟩
  rw [formed.scopes]
  exact same.agrees fun _ => rfl

theorem Rearranged.agrees (rearranged : Rearranged module other) (formed : WellFormed module) :
    module.scopes.Agrees other.scopes := by
  have reordered : Reordered module.program other.program :=
    ⟨formed.unique, formed.unique.reordered rearranged.mark rearranged.body, rearranged.body⟩
  have single := rearranged.single
  rw [formed.scopes] at single ⊢
  rw [rearranged.scopes]
  exact reordered.agrees (reordered.rootDefinitions single)

private theorem SameUpToOrder.path_eq (same : SameUpToOrder module other) :
    other.path = module.path := by
  rcases same with rfl | rearranged
  · rfl
  · exact rearranged.path

private theorem SameUpToOrder.interchangeable (same : SameUpToOrder module other)
    (formed : WellFormed module) : Interchangeable module other := by
  rcases same with rfl | rearranged
  · exact ⟨rfl, rfl, rfl, formed.agrees_self, rfl, rfl, rfl⟩
  · exact
      { path := rearranged.path
        mark := rearranged.mark
        lines := rearranged.lines
        scopes := rearranged.agrees formed
        default := defaultExport?_eq rearranged.defaultExports
        entries := exportEntries_eq rearranged.exportLists
        sources := wildcardSources_eq rearranged.exportLists }

/-- Both hosts lead to the same paths. The modules of a path are the same up to the order of their
statements, or missing in both hosts for the same reason. -/
structure RearrangedHost (before after : Host) : Prop where
  resolve : ∀ specifier importer, after.resolve specifier importer =
    before.resolve specifier importer
  modules : ∀ path, Likewise SameUpToOrder (before.module path) (after.module path)

theorem RearrangedHost.find? (hosts : RearrangedHost before after) {path : String}
    (found : before.find? path = some module) :
    ∃ other, after.find? path = some other ∧ SameUpToOrder module other := by
  have both := hosts.modules path
  rw [Host.module_of_find? found] at both
  generalize given : after.module path = counterpart at both
  cases both with
  | ok same => exact ⟨_, congrArg Except.toOption given, same⟩

theorem RearrangedHost.parallel (hosts : RearrangedHost before after)
    (hosted : ∀ held ∈ before, WellFormed held) : Parallel before after := by
  refine ⟨hosts.resolve, fun path => ?_⟩
  have both := hosts.modules path
  cases given : before.module path with
  | error message =>
      rw [given] at both
      generalize after.module path = counterpart at both
      cases both
      exact .error message
  | ok module =>
      have held : module ∈ before := Host.mem_of_find? (congrArg Except.toOption given)
      obtain ⟨other, found, same⟩ := hosts.find? (congrArg Except.toOption given)
      rw [Host.module_of_find? found]
      exact .ok ⟨held, Host.mem_of_find? found, same.interchangeable (hosted module held)⟩

section Memory

variable {before after : MemoryHost}

private theorem lookup_rel (modules : List.Forall₂ SameUpToOrder before.modules after.modules)
    (path : String) :
    Option.Rel (fun program other => SameUpToOrder (.ofProgram path program)
      (.ofProgram path other))
      (before.programs.lookup path) (after.programs.lookup path) := by
  unfold MemoryHost.modules at modules
  rw [List.forall₂_map_left_iff, List.forall₂_map_right_iff] at modules
  generalize before.programs = programs at modules
  generalize after.programs = others at modules
  induction modules with
  | nil => exact .none
  | @cons first second _ _ same _ ih =>
      obtain ⟨held, program⟩ := first
      obtain ⟨alsoHeld, other⟩ := second
      obtain rfl : alsoHeld = held := same.path_eq
      rw [List.lookup_cons, List.lookup_cons]
      cases equal : path == alsoHeld with
      | true =>
          obtain rfl : path = alsoHeld := eq_of_beq equal
          exact .some same
      | false => exact ih

/-- Programs in memory may be rearranged one by one. -/
theorem RearrangedHost.of_memory
    (modules : List.Forall₂ SameUpToOrder before.modules after.modules) :
    RearrangedHost before after where
  resolve := by
    have sameContains : after.contains = before.contains := by
      funext path
      unfold MemoryHost.contains
      rcases rel_cases (lookup_rel modules path) with
        ⟨nothing, alsoNothing⟩ | ⟨program, other, here, there, _⟩
      · rw [nothing, alsoNothing]
      · rw [here, there]
        rfl
    intro specifier importer
    change after.resolve specifier importer = before.resolve specifier importer
    unfold MemoryHost.resolve
    rw [sameContains]
  modules := by
    intro path
    unfold Host.module
    change Likewise _ ((before.load path).map _) ((after.load path).map _)
    unfold MemoryHost.load
    rcases rel_cases (lookup_rel modules path) with
      ⟨nothing, alsoNothing⟩ | ⟨program, other, here, there, same⟩
    · rw [nothing, alsoNothing]
      exact .error _
    · rw [here, there]
      exact .ok same

end Memory

end Hosts

def declarationEnvironment (module : Module) (declaration : VariableDeclaration) : Environment :=
  ⟨module, (module.scopes.enclosing? declaration.mark.id).getD ScopeTree.root, none⟩

/-- In modules where each name of the module has one definition, statements can be put in another
order, export lists and default exports apart: what stands in a declaration has the same text
afterwards or fails for the same reason at the same place, and the same modules are fetched. -/
theorem resolveText_order {before after : Host} {path : String} {module : Module}
    (hosted : ∀ held ∈ before, WellFormed held) (hosts : RearrangedHost before after)
    (found : before.find? path = some module) :
    ∃ other, after.find? path = some other ∧ SameUpToOrder module other ∧
      ∀ (options : Options) (guards : Guards) (clock : Clock) (declaration : VariableDeclaration)
          (value : Expr),
        resolveText ⟨after, options, guards, clock⟩ value
            (declarationEnvironment other declaration) =
          resolveText ⟨before, options, guards, clock⟩ value
            (declarationEnvironment module declaration) := by
  have parallel := hosts.parallel hosted
  have pairs := parallel.modules path
  obtain ⟨other, alsoFound, same⟩ := hosts.find? found
  rw [Host.module_of_find? found, Host.module_of_find? alsoFound] at pairs
  cases pairs with
  | ok paired =>
      refine ⟨other, alsoFound, same, fun options guards clock declaration value => ?_⟩
      refine resolveText_same parallel options guards clock value (.intro paired ?_ .none)
      exact getD_rel (paired.alike.scopes.enclosing _) (ScopeTree.sameScope_root _ _)

/-- ``groq`*[${filter(type)}]` `` -/
def filteredQuery : Expr :=
  .tagged (numbered 3) (.identifier (numbered 4) "groq") [.chunk "*[",
    .substitution (.call (numbered 5) false (.identifier (numbered 6) "filter")
      [⟨numbered 7, false, .identifier (numbered 8) "type"⟩]), .chunk "]"]

def filteredDeclaration : VariableDeclaration :=
  ⟨numbered 1, true, .constant, [⟨.name ⟨numbered 2, "query"⟩, some filteredQuery⟩], []⟩

def queryStatements : List Stmt :=
  [.imports ⟨numbered 10, false, none, some (.some [⟨"type", ⟨numbered 11, "type"⟩⟩]), "./types"⟩,
    .variables ⟨numbered 12, false, .constant, [⟨.name ⟨numbered 13, "filter"⟩,
      some (.arrow (numbered 14) ⟨numbered 15, true, false, false,
        [⟨numbered 16, false, .name ⟨numbered 17, "kind"⟩, none⟩],
        .expression (.template (numbered 18) [.chunk "_type == ",
          .substitution (.identifier (numbered 19) "kind")])⟩)⟩], []⟩,
    .variables filteredDeclaration]

def queryModule : Module := .ofProgram "/page.ts" ⟨numbered 0, queryStatements, ⟨[]⟩⟩

def reversedModule : Module := .ofProgram "/page.ts" ⟨numbered 0, queryStatements.reverse, ⟨[]⟩⟩

def typesModule : Module :=
  .ofProgram "/types.ts" ⟨numbered 0, [.variables ⟨numbered 1, true, .constant,
    [⟨.name ⟨numbered 2, "type"⟩, some (.string (numbered 3) "'post'")⟩], []⟩], ⟨[]⟩⟩

def queryHost : MemoryHost :=
  ⟨[("/page.ts", queryModule.program), ("/types.ts", typesModule.program)]⟩

def reversedHost : MemoryHost :=
  ⟨[("/page.ts", reversedModule.program), ("/types.ts", typesModule.program)]⟩

theorem reversed_query_resolves :
    (∀ held ∈ queryHost.host, WellFormed held) ∧ RearrangedHost queryHost reversedHost ∧
      queryHost.host.find? "/page.ts" = some queryModule ∧
        (resolveText (.still reversedHost) filteredQuery
          (declarationEnvironment reversedModule filteredDeclaration)).result =
            .ok "*[_type == 'post']" := by
  have hosted : ∀ held ∈ queryHost.host, WellFormed held := by
    intro held present
    rcases List.mem_pair.mp (MemoryHost.mem_modules present) with rfl | rfl
    · exact ⟨rfl, by decide +kernel⟩
    · exact ⟨rfl, by decide +kernel⟩
  have rearranged : Rearranged queryModule reversedModule :=
    ⟨rfl, rfl, rfl, rfl, (List.reverse_perm queryStatements).symm, rfl, rfl, by decide +kernel⟩
  have hosts : RearrangedHost queryHost reversedHost :=
    .of_memory (.cons (.inr rearranged) (.cons (.inl rfl) .nil))
  have found : queryHost.host.find? "/page.ts" = some queryModule := rfl
  obtain ⟨other, alsoFound, _, same⟩ := resolveText_order hosted hosts found
  have its : reversedModule = other := Option.some.inj alsoFound
  refine ⟨hosted, hosts, found, ?_⟩
  rw [its, Context.still, same .standard .all .stopped filteredDeclaration filteredQuery]
  exact TextOutcome.text?_eq_some_iff.mp (by decide +kernel)

end QueryTypes.Resolution
