import QueryTypes.Proofs.Resolution.Frames
import QueryTypes.Proofs.Scoping.Nodes

/-!
The finitely many modules, nodes, names and scopes that evaluation can come across.

Frames are made at run time and have trails without bound, but all that they refer to lies in the
modules of the host, the module resolution starts in and the expression it starts with. `Closed`
says that a universe has whatever its modules lead to.
-/

set_option autoImplicit false

namespace QueryTypes.Resolution

open QueryTypes.Script
open QueryTypes.Source
open QueryTypes.Scoping
open QueryTypes.Modules

structure Universe where
  modules : List Module
  nodes : List NodeId
  names : List String
  scopes : List ScopeId

namespace Universe

variable (all : Universe)

def HoldsExpr (value : Expr) : Prop := nodeIds (exprEvents value) ⊆ all.nodes

def HoldsFunction (function : Function) : Prop := nodeIds (functionEvents function) ⊆ all.nodes

def HoldsDefinition : Definition → Prop
  | .declarator declaration index =>
      ∀ declarator value, declaration.declarators[index]? = some declarator →
        declarator.initializer = some value → all.HoldsExpr value
  | .importBinding _ _ imported _ => imported ∈ all.names
  | .functionName _ function => all.HoldsFunction function
  | .parameter _ _ => True
  | .catchParameter _ => True

structure HoldsModule (module : Module) : Prop where
  declared : ∀ id name known, module.scopes.declared? id name = some known →
    known.scope ∈ all.scopes ∧ ∀ definition ∈ known.definitions, all.HoldsDefinition definition
  created : ∀ node id, module.scopes.createdBy? node = some id → id ∈ all.scopes
  enclosing : ∀ node id, module.scopes.enclosing? node = some id → id ∈ all.scopes
  defaultExpression : ∀ value, defaultExport? module.body = some (.expression value) →
    all.HoldsExpr value
  defaultFunction : ∀ function, defaultExport? module.body = some (.function function) →
    all.HoldsFunction function
  entries : ∀ name entry source, exportEntry? module.body name = some (entry, source) →
    entry.target ∈ all.names

structure Closed (host : Host) : Prop where
  root : ScopeTree.root ∈ all.scopes
  modules : ∀ module ∈ all.modules, all.HoldsModule module
  resolved : ∀ specifier importer found, host.fetch specifier importer = .ok found →
    found ∈ all.modules

def HoldsSite (site : Site) : Prop :=
  site.path ∈ all.modules.map (·.path) ∧ site.node ∈ all.nodes

mutual

inductive HoldsFrame : Frame → Prop
  | intro {frame : Frame} (site : all.HoldsSite frame.site) (module : frame.module ∈ all.modules)
      (functionScope : frame.functionScope ∈ all.scopes)
      (bindings : ∀ name actual, (name, actual) ∈ frame.bindings → HoldsActual actual)
      (parent : ∀ outer, frame.parent = some outer → HoldsFrame outer) : HoldsFrame frame

inductive HoldsActual : Actual → Prop
  | argument {value : Expr} {environment : Environment} (expr : all.HoldsExpr value)
      (caller : HoldsEnvironment environment) : HoldsActual (.argument value environment)
  | default {value : Expr} (expr : all.HoldsExpr value) : HoldsActual (.default value)

inductive HoldsEnvironment : Environment → Prop
  | intro {environment : Environment} (module : environment.module ∈ all.modules)
      (scope : environment.scope ∈ all.scopes)
      (frame : ∀ inner, environment.frame = some inner → HoldsFrame inner) :
      HoldsEnvironment environment

end

def HoldsGoal : Goal → Prop
  | .expression value environment => all.HoldsExpr value ∧ all.HoldsEnvironment environment
  | .exported target name _ _ => target ∈ all.modules ∧ name ∈ all.names

structure HoldsClosure (closure : Closure) : Prop where
  function : all.HoldsFunction closure.function
  module : closure.module ∈ all.modules
  frame : ∀ inner, closure.frame = some inner → all.HoldsFrame inner

def HoldsValue : Value → Prop
  | .text _ => True
  | .function closure => all.HoldsClosure closure

variable {all}

theorem holdsSite {module : Module} {node : NodeId} (module_mem : module ∈ all.modules)
    (node_mem : node ∈ all.nodes) : all.HoldsSite ⟨module.path, node⟩ :=
  ⟨List.mem_map_of_mem module_mem, node_mem⟩

theorem HoldsFunction.mark {function : Function} (held : all.HoldsFunction function) :
    function.mark.id ∈ all.nodes := by
  unfold HoldsFunction at held
  rw [functionEvents_eq] at held
  exact held List.mem_cons_self

theorem HoldsFunction.parameters {function : Function} (held : all.HoldsFunction function) :
    nodeIds (parametersEvents function.parameters) ⊆ all.nodes := by
  refine List.Subset.trans (nodeIds_subset ?_) held
  rw [functionEvents_eq]
  exact List.infix_cons (List.infix_cons (List.infix_append_of_infix_left
    (List.infix_append _ _ _)))

theorem HoldsFunction.body {function : Function} (held : all.HoldsFunction function) :
    nodeIds (bodyEvents function.body) ⊆ all.nodes := by
  refine List.Subset.trans (nodeIds_subset ?_) held
  rw [functionEvents_eq]
  exact List.infix_cons (List.infix_cons (List.infix_append _ _ _))

theorem HoldsExpr.callee {mark : Mark} {optional : Bool} {callee : Expr} {arguments : List Argument}
    (held : all.HoldsExpr (.call mark optional callee arguments)) : all.HoldsExpr callee := by
  refine List.Subset.trans (nodeIds_subset ?_) held
  rw [exprEvents]
  exact List.infix_cons List.infix_append_left

theorem HoldsExpr.argument {mark : Mark} {optional : Bool} {callee : Expr}
    {arguments : List Argument} (held : all.HoldsExpr (.call mark optional callee arguments))
    {argument : Argument} (present : argument ∈ arguments) : all.HoldsExpr argument.value := by
  refine List.Subset.trans (nodeIds_subset ?_) held
  rw [exprEvents]
  exact List.infix_cons (List.infix_append_of_infix_right (argument_inside present))

/-! ### A universe around a resolution -/

end Universe

def declaredIn (module : Module) : List Variable :=
  module.scopes.scopes.toList.flatMap (·.variables)

def definedIn (module : Module) : List Definition :=
  (declaredIn module).flatMap (·.definitions)

def definitionNodes : Definition → List NodeId
  | .declarator declaration _ => nodeIds (declaratorsEvents declaration.declarators)
  | .functionName _ function => nodeIds (functionEvents function)
  | .importBinding _ _ _ _ | .parameter _ _ | .catchParameter _ => []

def importedNames : Definition → List String
  | .importBinding _ _ imported _ => [imported]
  | .declarator _ _ | .functionName _ _ | .parameter _ _ | .catchParameter _ => []

def moduleNodes (module : Module) : List NodeId :=
  (definedIn module).flatMap definitionNodes ++ nodeIds (stmtsEvents module.body)

def moduleNames (module : Module) : List String :=
  (definedIn module).flatMap importedNames ++ (exportEntries module.body).map (·.1.target)

def moduleScopes (module : Module) : List ScopeId :=
  module.scopes.created.map (·.2) ++ module.scopes.enclosing.map (·.2) ++
    (declaredIn module).map (·.scope)

namespace Universe

/-- All that some modules, the module at the start and the expression at the start mention. -/
def around (others : List Module) (module : Module) (value : Expr) (scope : ScopeId) :
    Universe where
  modules := module :: others
  nodes := nodeIds (exprEvents value) ++ (module :: others).flatMap moduleNodes
  names := (module :: others).flatMap moduleNames
  scopes := ScopeTree.root :: scope :: (module :: others).flatMap moduleScopes

end Universe

theorem declared?_mem {module : Module} {id : ScopeId} {name : String} {known : Variable}
    (found : module.scopes.declared? id name = some known) : known ∈ declaredIn module := by
  obtain ⟨scope, here, declared⟩ := Option.bind_eq_some_iff.mp found
  have inScopes : scope ∈ module.scopes.scopes.toList :=
    Array.mem_toList_iff.mpr (Array.mem_of_getElem? here)
  exact List.mem_flatMap.mpr ⟨scope, inScopes, List.mem_of_find?_eq_some declared⟩

theorem mem_of_defaultExpression {body : List Stmt} {value : Expr}
    (found : defaultExport? body = some (.expression value)) :
    ∃ mark, .exportDefault mark value ∈ body := by
  obtain ⟨statement, present, here⟩ := List.exists_of_findSome?_eq_some found
  split at here
  · rename_i mark exported
    cases here
    exact ⟨mark, present⟩
  · cases here
  · cases here

theorem mem_of_defaultFunction {body : List Stmt} {function : Function}
    (found : defaultExport? body = some (.function function)) :
    ∃ mark exported name, .function ⟨mark, exported, true, name, function⟩ ∈ body := by
  obtain ⟨statement, present, here⟩ := List.exists_of_findSome?_eq_some found
  split at here
  · cases here
  · rename_i mark exported name declared
    cases here
    exact ⟨mark, exported, name, present⟩
  · cases here

theorem defaultExpression_inside {body : List Stmt} {value : Expr}
    (found : defaultExport? body = some (.expression value)) :
    exprEvents value <:+: stmtsEvents body := by
  obtain ⟨mark, present⟩ := mem_of_defaultExpression found
  refine List.IsInfix.trans ?_ (statement_inside present)
  rw [stmtEvents]
  exact List.infix_cons (List.infix_refl _)

private theorem defaultFunction_inside {body : List Stmt} {function : Function}
    (found : defaultExport? body = some (.function function)) :
    functionEvents function <:+: stmtsEvents body := by
  obtain ⟨mark, exported, name, present⟩ := mem_of_defaultFunction found
  refine List.IsInfix.trans ?_ (statement_inside present)
  rw [stmtEvents]
  exact List.infix_cons List.infix_append_right

namespace Universe

private theorem holdsModule_of_subset {all : Universe} {module : Module}
    (nodes : moduleNodes module ⊆ all.nodes) (names : moduleNames module ⊆ all.names)
    (scopes : moduleScopes module ⊆ all.scopes) : all.HoldsModule module where
  declared := by
    intro id name known found
    have present := declared?_mem found
    refine ⟨scopes (List.mem_append_right _ (List.mem_map_of_mem present)), ?_⟩
    intro definition defines
    have defined : definition ∈ definedIn module :=
      List.mem_flatMap.mpr ⟨known, present, defines⟩
    cases definition with
    | declarator declaration index =>
        intro declarator value here initializer node found
        have part := initializer_inside (List.mem_of_getElem? here) initializer
        exact nodes (List.mem_append_left _
          (List.mem_flatMap.mpr ⟨_, defined, nodeIds_subset part found⟩))
    | importBinding declaration kind imported localName =>
        exact names (List.mem_append_left _
          (List.mem_flatMap.mpr ⟨_, defined, List.mem_singleton_self imported⟩))
    | functionName name function =>
        intro node found
        exact nodes (List.mem_append_left _ (List.mem_flatMap.mpr ⟨_, defined, found⟩))
    | parameter function index => trivial
    | catchParameter name => trivial
  created := by
    intro node id found
    exact scopes (List.mem_append_left _ (List.mem_append_left _
      (List.mem_map_of_mem (f := (·.2)) (Table.mem_of_lookup found))))
  enclosing := by
    intro node id found
    exact scopes (List.mem_append_left _ (List.mem_append_right _
      (List.mem_map_of_mem (f := (·.2)) (Table.mem_of_lookup found))))
  defaultExpression := by
    intro value found node member
    exact nodes (List.mem_append_right _ (nodeIds_subset (defaultExpression_inside found) member))
  defaultFunction := by
    intro function found node member
    exact nodes (List.mem_append_right _ (nodeIds_subset (defaultFunction_inside found) member))
  entries := by
    intro name entry source found
    have present := (List.mem_filter.mp (List.mem_of_getLast? found)).1
    exact names (List.mem_append_right _
      (List.mem_map_of_mem (f := fun exported => exported.1.target) present))

theorem around_closed {host : Host} {others : List Module} (held : ∀ module ∈ host, module ∈ others)
    (module : Module) (value : Expr) (scope : ScopeId) :
    (around others module value scope).Closed host where
  root := List.mem_cons_self
  modules := by
    intro known present
    apply holdsModule_of_subset
    · intro node found
      exact List.mem_append_right _ (List.mem_flatMap.mpr ⟨known, present, found⟩)
    · intro name found
      exact List.mem_flatMap.mpr ⟨known, present, found⟩
    · intro id found
      exact List.mem_cons_of_mem _ (List.mem_cons_of_mem _
        (List.mem_flatMap.mpr ⟨known, present, found⟩))
  resolved := by
    intro specifier importer found resolved
    exact List.mem_cons_of_mem _ (held found (Host.mem_of_fetch resolved))

theorem around_holds (others : List Module) (module : Module) (value : Expr) (scope : ScopeId) :
    (around others module value scope).HoldsGoal (.expression value ⟨module, scope, none⟩) := by
  refine ⟨fun node found => List.mem_append_left _ found, .intro List.mem_cons_self ?_ ?_⟩
  · exact List.mem_cons_of_mem _ List.mem_cons_self
  · intro inner impossible
    cases impossible

/-! ### What is reached from what is held -/

section Reached

variable {all : Universe}

theorem HoldsEnvironment.withScope {environment : Environment}
    (held : all.HoldsEnvironment environment) {scope : ScopeId} (known : scope ∈ all.scopes) :
    all.HoldsEnvironment (environment.withScope scope) := by
  cases held with
  | intro module _ frame => exact .intro module known frame

theorem Closed.ofModule {host : Host} (closed : all.Closed host) {module : Module}
    (known : module ∈ all.modules) : all.HoldsEnvironment (.ofModule module) := by
  refine .intro known closed.root ?_
  intro inner impossible
  cases impossible

theorem HoldsFrame.outer {frame outer : Frame} (held : all.HoldsFrame frame)
    (parent : frame.parent = some outer) : all.HoldsFrame outer := by
  cases held with
  | intro _ _ _ _ parents => exact parents outer parent

end Reached

end Universe
end QueryTypes.Resolution
