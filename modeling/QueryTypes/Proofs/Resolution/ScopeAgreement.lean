import QueryTypes.Proofs.Resolution.DepthBudget
import QueryTypes.Proofs.Resolution.Lexical
import QueryTypes.Proofs.Resolution.Universe
import QueryTypes.Proofs.Scoping.Declaring

/-!
Evaluation and the walk over a program agree on scopes.

Each way of going on has a rule of its own for the scope that comes next. Whatever the rules lead
to stands where it is evaluated: `InPlace` is kept by every plan, in what it requests and in what it
answers with, so it holds of all evaluations of a run. The walk notes the scope of each identifier
where it stands, which is then the scope it is evaluated in.
-/

set_option autoImplicit false

namespace QueryTypes.Resolution

open QueryTypes.Script
open QueryTypes.Source
open QueryTypes.Scoping
open QueryTypes.Modules

/-! ### What stands where it is evaluated -/

mutual

/-- All that the parameters of a call and of the calls around it stand for is in place. -/
inductive Frame.InPlace : Frame → Prop
  | intro {frame : Frame} (formed : WellFormed frame.module)
      (bindings : ∀ name actual, (name, actual) ∈ frame.bindings →
        Actual.InPlace frame.module frame.functionScope actual)
      (parent : ∀ outer, frame.parent = some outer → Frame.InPlace outer) : Frame.InPlace frame

inductive Actual.InPlace : Module → ScopeId → Actual → Prop
  | argument {module : Module} {own : ScopeId} {value : Expr} {caller : Environment}
      (formed : WellFormed caller.module)
      (placed : Placed caller.module.program caller.scope (exprEvents value))
      (frame : ∀ inner, caller.frame = some inner → Frame.InPlace inner) :
      Actual.InPlace module own (.argument value caller)
  | default {module : Module} {own : ScopeId} {value : Expr}
      (placed : Placed module.program own (exprEvents value)) :
      Actual.InPlace module own (.default value)

end

structure Environment.InPlace (environment : Environment) : Prop where
  formed : WellFormed environment.module
  frame : ∀ inner, environment.frame = some inner → inner.InPlace

structure Closure.InPlace (closure : Closure) : Prop where
  formed : WellFormed closure.module
  placed : ∃ scope, Placed closure.module.program scope (functionEvents closure.function)
  frame : ∀ inner, closure.frame = some inner → inner.InPlace

def Value.InPlace : Value → Prop
  | .text _ => True
  | .function closure => closure.InPlace

inductive Goal.InPlace : Goal → Prop
  | expression {value : Expr} {environment : Environment} (calls : environment.InPlace)
      (placed : Placed environment.module.program environment.scope (exprEvents value)) :
      Goal.InPlace (.expression value environment)
  | exported {target : Module} (formed : WellFormed target) (name : String) (requester : Module)
      (loc : Loc) : Goal.InPlace (.exported target name requester loc)

namespace Environment

variable {environment : Environment}

theorem InPlace.withScope (held : environment.InPlace) (scope : ScopeId) :
    (environment.withScope scope).InPlace := ⟨held.formed, held.frame⟩

private theorem ofModule_inPlace {module : Module} (formed : WellFormed module) :
    (ofModule module).InPlace := by
  refine ⟨formed, ?_⟩
  intro inner impossible
  cases impossible

/-- The scope noted for a node is the one that the walk is in there. -/
theorem InPlace.enclosing? (held : environment.InPlace) {node : NodeId} {scope : ScopeId}
    (noted : (node, scope) ∈ (bind environment.module.program).enclosing) :
    environment.module.scopes.enclosing? node = some scope := by
  rw [held.formed.scopes]
  exact held.formed.unique.enclosing? noted

/-- A function that stands in the scope of evaluation takes the calls around it along. -/
theorem InPlace.closure (held : environment.InPlace) {scope : ScopeId} {function : Function}
    (placed : Placed environment.module.program scope (functionEvents function)) :
    Closure.InPlace ⟨function, environment.module, environment.frame⟩ :=
  ⟨held.formed, ⟨scope, placed⟩, held.frame⟩

end Environment

theorem Frame.InPlace.formed {frame : Frame} (held : frame.InPlace) : WellFormed frame.module := by
  cases held with
  | intro formed _ _ => exact formed

theorem Frame.InPlace.outer {frame outer : Frame} (held : frame.InPlace)
    (parent : frame.parent = some outer) : outer.InPlace := by
  cases held with
  | intro _ _ parents => exact parents outer parent

theorem Frame.InPlace.actual {frame : Frame} (held : frame.InPlace) {name : String}
    {actual : Actual} (bound : frame.bindings.lookup name = some actual) :
    Actual.InPlace frame.module frame.functionScope actual := by
  cases held with
  | intro _ bindings _ => exact bindings name actual (Table.mem_of_lookup bound)

/-! ### Plans that keep to places -/

def AnswersInPlace (answer : Except Failure Value) : Prop :=
  ∀ value, answer = .ok value → value.InPlace

/-- What a plan requests and what it answers with is in place, as long as its requests are answered
so. -/
def Plan.KeepsPlace : Plan → Prop
  | .finish result => AnswersInPlace result
  | .timed _ rest => rest.KeepsPlace
  | .load _ rest => rest.KeepsPlace
  | .ask goal _ next => goal.InPlace ∧ ∀ answer, AnswersInPlace answer → (next answer).KeepsPlace

namespace Plan

private theorem fail_keepsPlace (failure : Failure) : (fail failure).KeepsPlace := nofun

private theorem answer_keepsPlace {value : Value} (held : value.InPlace) :
    (answer value).KeepsPlace := by
  intro same answered
  cases answered
  exact held

private theorem become_keepsPlace {goal : Goal} (held : goal.InPlace) (visited : Visited) :
    (become goal visited).KeepsPlace :=
  ⟨held, fun _ answered => answered⟩

private theorem withValue_keepsPlace {goal : Goal} (held : goal.InPlace) (visited : Visited)
    {next : Value → Plan} (keeps : ∀ value, value.InPlace → (next value).KeepsPlace) :
    (withValue goal visited next).KeepsPlace := by
  refine ⟨held, fun answer answered => ?_⟩
  cases answer with
  | ok value => exact keeps value (answered value rfl)
  | error failure => exact fail_keepsPlace failure

private theorem withModule_keepsPlace {context : Context}
    (hosted : ∀ held ∈ context.host, WellFormed held) (specifier : String)
    (importer : Module) (loc : Loc) {next : Module → Plan}
    (keeps : ∀ found, WellFormed found → (next found).KeepsPlace) :
    (withModule context specifier importer loc next).KeepsPlace := by
  unfold withModule KeepsPlace
  cases fetched : context.host.fetch specifier importer.path with
  | ok found => exact keeps found (hosted found (Host.mem_of_fetch fetched))
  | error message => exact fail_keepsPlace _

end Plan

section Steps

variable {context : Context} {environment : Environment} {visited : Visited}

private theorem template_keepsPlace (held : environment.InPlace) {parts : List TemplatePart}
    (placed : ∀ value, .substitution value ∈ parts →
      Placed environment.module.program environment.scope (exprEvents value)) (before : String) :
    (Plan.template environment visited before parts).KeepsPlace := by
  induction parts generalizing before with
  | nil => exact Plan.answer_keepsPlace trivial
  | cons part rest ih =>
      have later := ih fun value present => placed value (List.mem_cons_of_mem _ present)
      cases part with
      | chunk text => exact later (before ++ text)
      | substitution value =>
          unfold Plan.template
          apply Plan.withValue_keepsPlace (.expression held (placed value List.mem_cons_self))
          intro answered _
          cases answered with
          | text text => exact later (before ++ text)
          | function closure => exact Plan.fail_keepsPlace _

/-- An argument is evaluated where the call was made and a default in the scope of the function. -/
theorem parameter_keepsPlace (held : environment.InPlace) (known : Variable) (loc : Loc) :
    (Plan.parameter known loc environment visited).KeepsPlace := by
  unfold Plan.parameter
  dsimp only
  split
  · exact Plan.fail_keepsPlace _
  · rename_i frame found
    obtain ⟨start, atStart, here⟩ := Option.bind_eq_some_iff.mp found
    have frameHeld : frame.InPlace :=
      Frame.find?_inherits Frame.InPlace (fun _ _ inner => inner.outer) (held.frame start atStart)
        here
    split
    · rename_i value caller bound
      cases frameHeld.actual bound with
      | argument formed placed frames =>
          exact Plan.become_keepsPlace (.expression ⟨formed, frames⟩ placed) visited
    · rename_i value bound
      cases frameHeld.actual bound with
      | default placed =>
          refine Plan.become_keepsPlace (.expression ⟨frameHeld.formed, ?_⟩ placed) visited
          intro inner same
          cases same
          exact frameHeld
    · exact Plan.fail_keepsPlace _

/-- An initializer is evaluated in the scope noted for its declaration. -/
theorem declarator_keepsPlace (held : environment.InPlace) {known : Variable} {scope : ScopeId}
    {declaration : VariableDeclaration} {index : Nat}
    (grounded : Grounded environment.module.program scope (.declarator declaration index))
    {found : Declarator} (here : declaration.declarators[index]? = some found) :
    (Plan.declarator known declaration found environment visited).KeepsPlace := by
  obtain ⟨inner, noted, _, placed⟩ := grounded
  unfold Plan.declarator
  split
  · rename_i binding initializer _ initialized
    dsimp only
    rw [held.enclosing? noted, Option.getD_some]
    exact Plan.become_keepsPlace (.expression (held.withScope inner)
      (placed.initializer (List.mem_of_getElem? here) initialized)) visited
  · exact Plan.fail_keepsPlace _
  · exact Plan.fail_keepsPlace _

private theorem declared_keepsPlace (hosted : ∀ held ∈ context.host, WellFormed held)
    (held : environment.InPlace) {known : Variable} {scope : ScopeId}
    (grounded : ∀ definition ∈ known.definitions,
      Grounded environment.module.program scope definition) (loc : Loc) :
    (Plan.declared context known loc environment visited).KeepsPlace := by
  unfold Plan.declared
  dsimp only
  split
  · exact Plan.fail_keepsPlace _
  · rename_i declaration index last
    split
    · exact Plan.fail_keepsPlace _
    · rename_i found here
      exact declarator_keepsPlace held (grounded _ (List.mem_of_getLast? last)) here
  · split
    · exact Plan.fail_keepsPlace _
    · apply Plan.withModule_keepsPlace hosted
      exact fun target formed => Plan.become_keepsPlace (.exported formed _ _ _) visited
  · rename_i name function last
    have placed : Placed environment.module.program scope (functionEvents function) :=
      grounded _ (List.mem_of_getLast? last)
    exact Plan.answer_keepsPlace (held.closure placed)
  · exact parameter_keepsPlace held known loc
  · exact Plan.fail_keepsPlace _

private theorem identifier_keepsPlace (hosted : ∀ held ∈ context.host, WellFormed held)
    (held : environment.InPlace) (mark : Mark) (name : String) :
    (Plan.identifier context mark name environment visited).KeepsPlace := by
  unfold Plan.identifier
  dsimp only
  split
  · exact Plan.fail_keepsPlace _
  · split
    · exact Plan.fail_keepsPlace _
    · rename_i known found
      have looked : (bind environment.module.program).lookup environment.scope name =
          some known := by
        rw [← held.formed.scopes]
        exact found
      exact declared_keepsPlace hosted held (lookup_grounded looked).2 mark.loc

private theorem bindParameters_inPlace (held : environment.InPlace) {module : Module}
    {own : ScopeId}
    {parameters : List Parameter} {arguments : List Argument}
    (given : ∀ argument ∈ arguments,
      Placed environment.module.program environment.scope (exprEvents argument.value))
    (defaults : ∀ parameter ∈ parameters, ∀ value, parameter.default = some value →
      Placed module.program own (exprEvents value))
    {bindings : List (String × Actual)}
    (bound : bindParameters environment parameters arguments = .ok bindings) :
    ∀ name actual, (name, actual) ∈ bindings → Actual.InPlace module own actual := by
  induction parameters generalizing arguments bindings with
  | nil =>
      cases bound
      nofun
  | cons parameter rest ih =>
      obtain ⟨binding, first, others, _, _, boundTo, remaining, rfl⟩ := bindParameters_cons bound
      have later := ih (fun argument present => given argument (List.mem_of_mem_tail present))
        (fun other present => defaults other (List.mem_cons_of_mem _ present)) remaining
      intro name actual present
      rcases List.mem_cons.mp present with here | there
      · cases here
        cases boundTo with
        | argument argument _ =>
            exact .argument held.formed (given _ (List.mem_of_head? argument)) held.frame
        | default _ default => exact .default (defaults parameter List.mem_cons_self _ default)
      · exact later name actual there

/-- A body is evaluated in the function's scope and what it returns in the scope noted for the
return statement. -/
theorem body_keepsPlace (held : environment.InPlace) {function : Function}
    (placed : Placed environment.module.program environment.scope (bodyEvents function.body)) :
    (Plan.body function environment visited).KeepsPlace := by
  unfold Plan.body
  split
  · rename_i value body
    rw [body, bodyEvents] at placed
    exact Plan.become_keepsPlace (.expression held placed) visited
  · rename_i statements body
    rw [body, bodyEvents] at placed
    split
    · rename_i statement found
      split
      · exact Plan.fail_keepsPlace _
      · rename_i value returned
        have present : statement ∈ Stmt.listReturns statements := by
          rw [found]
          exact List.mem_singleton_self statement
        obtain ⟨inner, noted, _, stands⟩ := listReturns_within statements placed present
        dsimp only
        rw [held.enclosing? noted, Option.getD_some]
        exact Plan.become_keepsPlace (.expression (held.withScope inner) (stands value returned))
          visited
    · exact Plan.fail_keepsPlace _

private theorem apply_keepsPlace (held : environment.InPlace) {closure : Closure}
    (closureHeld : closure.InPlace) {arguments : List Argument}
    (given : ∀ argument ∈ arguments,
      Placed environment.module.program environment.scope (exprEvents argument.value))
    (trail : Trail) (call : Mark) :
    (Plan.apply trail closure call arguments environment visited).KeepsPlace := by
  obtain ⟨scope, standing⟩ := closureHeld.placed
  obtain ⟨own, made, _, parameters, body⟩ := standing.function
  -- The scope noted for the function is the one that the walk enters where the function stands.
  have created : closure.module.scopes.createdBy? closure.function.mark.id = some own := by
    rw [closureHeld.formed.scopes]
    exact closureHeld.formed.unique.createdBy? made
  unfold Plan.apply
  dsimp only
  rw [created]
  split
  · exact Plan.fail_keepsPlace _
  · split
    · exact Plan.fail_keepsPlace _
    · split
      · exact Plan.fail_keepsPlace _
      · dsimp only
        split
        · exact Plan.fail_keepsPlace _
        · exact Plan.fail_keepsPlace _
        · rename_i bindings bound
          have actuals := bindParameters_inPlace held given
            (fun parameter present value default => parameters.default present default) bound
          refine body_keepsPlace ⟨closureHeld.formed, ?_⟩ body
          intro inner same
          cases same
          exact .intro closureHeld.formed
            (fun name actual present => actuals name actual (List.mem_reverse.mp present))
            closureHeld.frame

private theorem call_keepsPlace (held : environment.InPlace) {mark : Mark} {optional : Bool}
    {callee : Expr} {arguments : List Argument}
    (placed : Placed environment.module.program environment.scope
      (exprEvents (.call mark optional callee arguments))) (trail : Trail) :
    (Plan.call context trail mark callee arguments environment visited).KeepsPlace := by
  unfold Plan.call
  split
  · split
    · exact Plan.fail_keepsPlace _
    · rename_i first given
      split
      · exact Plan.fail_keepsPlace _
      · exact Plan.become_keepsPlace
          (.expression held (placed.argument (List.mem_of_head? given))) visited
  · unfold Plan.callValue
    apply Plan.withValue_keepsPlace (.expression held placed.callee)
    intro value valueHeld
    cases value with
    | text text => exact Plan.fail_keepsPlace _
    | function closure =>
        dsimp only
        split
        · exact Plan.fail_keepsPlace _
        · exact apply_keepsPlace held valueHeld (fun _ present => placed.argument present) trail
            mark

private theorem expression_keepsPlace (hosted : ∀ held ∈ context.host, WellFormed held)
    (held : environment.InPlace) {value : Expr}
    (placed : Placed environment.module.program environment.scope (exprEvents value))
    (trail : Trail) :
    (Plan.expression context trail value environment visited).KeepsPlace := by
  cases value with
  | tagged mark tag parts =>
      cases tag with
      | identifier tagMark name =>
          unfold Plan.expression
          dsimp only
          split
          · exact template_keepsPlace held (fun _ present => placed.tagged.substitution present) ""
          · exact Plan.fail_keepsPlace _
      | _ => exact Plan.fail_keepsPlace _
  | template mark parts =>
      exact template_keepsPlace held (fun _ present => placed.template.substitution present) ""
  | identifier mark name => exact identifier_keepsPlace hosted held mark name
  | call mark optional callee arguments => exact call_keepsPlace held placed trail
  | arrow mark function => exact Plan.answer_keepsPlace (held.closure placed.arrow)
  | function mark name function =>
      obtain ⟨inner, there, _⟩ := placed.functionExpression
      exact Plan.answer_keepsPlace (held.closure there)
  | string mark text => exact Plan.answer_keepsPlace trivial
  | number mark number => exact Plan.answer_keepsPlace trivial
  | boolean mark truth => exact Plan.answer_keepsPlace trivial
  | bigInteger mark digits => exact Plan.answer_keepsPlace trivial
  | null mark => exact Plan.fail_keepsPlace _
  | regex mark pattern => exact Plan.fail_keepsPlace _
  | binary mark operator left right => exact Plan.fail_keepsPlace _
  | member mark optional object property => exact Plan.fail_keepsPlace _
  | array mark elements => exact Plan.fail_keepsPlace _
  | object mark members => exact Plan.fail_keepsPlace _

private theorem wildcards_keepsPlace (hosted : ∀ held ∈ context.host, WellFormed held)
    (target : Module) (name : String) (missing : Failure) (sources : List (String × Loc)) :
    (Plan.wildcards context target name visited missing sources).KeepsPlace := by
  induction sources with
  | nil => exact Plan.fail_keepsPlace _
  | cons first rest ih =>
      obtain ⟨source, loc⟩ := first
      unfold Plan.wildcards
      apply Plan.withModule_keepsPlace hosted
      intro found formed
      refine ⟨.exported formed _ _ _, fun answer answered => ?_⟩
      cases answer with
      | ok value => exact Plan.answer_keepsPlace (answered value rfl)
      | error failure =>
          dsimp only
          split
          · exact ih
          · exact Plan.fail_keepsPlace _

private theorem topLevel_keepsPlace (hosted : ∀ held ∈ context.host, WellFormed held)
    {target : Module} (formed : WellFormed target) {name : String} {known : Variable}
    (found : target.scopes.declared? ScopeTree.root name = some known) (loc : Loc) :
    (Plan.declared context known loc (.ofModule target) visited).KeepsPlace := by
  have declared : (bind target.program).declared? ScopeTree.root name = some known := by
    rw [← formed.scopes]
    exact found
  exact declared_keepsPlace hosted (Environment.ofModule_inPlace formed)
    (declared?_grounded declared).2 loc

private theorem exported_keepsPlace (hosted : ∀ held ∈ context.host, WellFormed held)
    {target : Module} (formed : WellFormed target) (name : String) (requester : Module)
    (loc : Loc) : (Plan.exported context target name requester loc visited).KeepsPlace := by
  have top := Placed.whole target.program
  unfold Plan.exported
  split
  · exact Plan.fail_keepsPlace _
  · split
    · rename_i value default
      split at default
      · obtain ⟨mark, present⟩ := mem_of_defaultExpression default
        have standing := top.statement present
        rw [stmtEvents] at standing
        exact Plan.become_keepsPlace
          (.expression (Environment.ofModule_inPlace formed) standing.node) _
      · cases default
    · rename_i function default
      split at default
      · obtain ⟨mark, exported, declaredName, present⟩ := mem_of_defaultFunction default
        exact Plan.answer_keepsPlace ((Environment.ofModule_inPlace formed).closure
          (top.statement present).declaration)
      · cases default
    · unfold Plan.namedExport
      split
      · rename_i known found
        exact topLevel_keepsPlace hosted formed found _
      · split
        · unfold Plan.exportEntry
          split
          · apply Plan.withModule_keepsPlace hosted
            exact fun found known => Plan.become_keepsPlace (.exported known _ _ _) _
          · split
            · rename_i known found
              exact topLevel_keepsPlace hosted formed found _
            · exact Plan.fail_keepsPlace _
        · exact wildcards_keepsPlace hosted target name _ _

end Steps

/-! ### Runs -/

private theorem Task.plan_keepsPlace {context : Context}
    (hosted : ∀ held ∈ context.host, WellFormed held) {task : Task}
    (held : task.goal.InPlace) : (task.plan context).KeepsPlace := by
  obtain ⟨goal, visited, trail⟩ := task
  cases held with
  | expression calls placed => exact expression_keepsPlace hosted calls placed trail
  | exported formed name requester loc =>
      exact exported_keepsPlace hosted formed name requester loc

def SolvesInPlace (solve : Task → Outcome) : Prop :=
  ∀ task, task.goal.InPlace → AnswersInPlace (solve task).result

theorem Plan.KeepsPlace.follow {expired : Moment → Bool} {solve : Task → Outcome}
    (solves : SolvesInPlace solve) {plan : Plan} (keeps : plan.KeepsPlace) (trail : Trail)
    (count : Nat) : AnswersInPlace (plan.follow expired solve trail count).result := by
  induction plan generalizing count with
  | finish result => exact keeps
  | timed late rest ih =>
      cases elapsed : expired (.fetch (count :: trail)) with
      | true =>
          rw [follow_timed_of_late elapsed]
          exact fail_keepsPlace late
      | false =>
          rw [follow_timed elapsed]
          exact ih keeps count
  | load path rest ih => exact ih keeps count
  | ask goal visited next ih => exact ih _ (keeps.2 _ (solves _ keeps.1)) (count + 1)

private theorem Plan.Requests.inPlace {expired : Moment → Bool} {solve : Task → Outcome}
    (solves : SolvesInPlace solve) {trail : Trail} {count : Nat} {plan : Plan} {task : Task}
    (requested : plan.Requests expired solve trail count task) (keeps : plan.KeepsPlace) :
    task.goal.InPlace := by
  induction requested with
  | timed _ _ ih => exact ih keeps
  | load _ ih => exact ih keeps
  | now => exact keeps.1
  | later _ ih => exact ih (keeps.2 _ (solves _ keeps.1))

section Runs

variable {context : Context}

private theorem Task.refused_inPlace (task : Task) (cause : Cause) :
    AnswersInPlace (task.refused cause).result := nofun

private theorem solve_inPlace (hosted : ∀ held ∈ context.host, WellFormed held) (budget : Nat) :
    SolvesInPlace (solve context budget) := by
  apply solve_induction (motive := fun task outcome =>
    task.goal.InPlace → AnswersInPlace outcome.result)
  · exact fun task cause _ => task.refused_inPlace cause
  · exact fun budget ih task held => (Task.plan_keepsPlace hosted held).follow ih _ _

/-- All evaluations of a run that starts in place are in place. -/
theorem Nested.inPlace (hosted : ∀ held ∈ context.host, WellFormed held)
    {budget left : Nat} {task inner : Task} (nested : Nested context budget task left inner)
    (held : task.goal.InPlace) : inner.goal.InPlace := by
  induction nested with
  | itself => exact held
  | inside _ requested _ ih =>
      exact ih (requested.inPlace (solve_inPlace hosted _) (Task.plan_keepsPlace hosted held))

end Runs

/-- An identifier is one of the program that it is evaluated in, and the scope noted for it there is
the one it is evaluated in. -/
theorem Goal.InPlace.identifier {mark : Mark} {name : String} {environment : Environment}
    (held : Goal.InPlace (.expression (.identifier mark name) environment)) :
    .refer mark.id name ∈ programEvents environment.module.program ∧
      environment.module.scopes.enclosing? mark.id = some environment.scope := by
  cases held with
  | expression inside placed =>
      obtain ⟨walk, passes, current⟩ := placed
      rw [exprEvents] at passes
      constructor
      · obtain ⟨before, after, split, _⟩ := passes
        rw [split]
        exact List.mem_append_left _
          (List.mem_append_right _ (List.mem_cons_of_mem _ List.mem_cons_self))
      · apply inside.enclosing?
        rw [← current]
        exact passes.step.step.grown.enclosing _ List.mem_cons_self

/-- In a run that starts with the initializer of a declarator, in the scope noted for the
declaration, each identifier is evaluated in the scope noted for the identifier, whatever the run
came through on the way. The identifier is one of the program of the module it is evaluated in. -/
theorem identifier_evaluated_in_noted_scope {context : Context}
    (hosted : ∀ held ∈ context.host, WellFormed held) {module : Module}
    (formed : WellFormed module) {declaration : VariableDeclaration}
    (met : .variables declaration ∈ programEvents module.program) {declarator : Declarator}
    (present : declarator ∈ declaration.declarators) {value : Expr}
    (initialized : declarator.initializer = some value) {budget left : Nat} {mark : Mark}
    {name : String} {environment : Environment} {visited : Visited} {trail : Trail}
    (nested : Nested context budget
      (startingTask value
        ⟨module, (module.scopes.enclosing? declaration.mark.id).getD ScopeTree.root, none⟩)
      left ⟨.expression (.identifier mark name) environment, visited, trail⟩) :
    .refer mark.id name ∈ programEvents environment.module.program ∧
      environment.module.scopes.enclosing? mark.id = some environment.scope := by
  obtain ⟨scope, noted, placed⟩ := placed_of_declaration met
  have start := Environment.ofModule_inPlace formed
  have enclosing : module.scopes.enclosing? declaration.mark.id = some scope :=
    start.enclosing? noted
  rw [enclosing, Option.getD_some] at nested
  have held := Goal.InPlace.expression (start.withScope scope)
    (placed.initializer present initialized)
  exact (nested.inPlace hosted held).identifier

/-- `(x => { return x })("*")` -/
def returningCall : Expr :=
  .call (numbered 3) false (.arrow (numbered 4) ⟨numbered 5, true, false, false,
      [⟨numbered 6, false, .name ⟨numbered 7, "x"⟩, none⟩],
      .statements [.returns ⟨numbered 8, some (.identifier (numbered 9) "x")⟩]⟩)
    [⟨numbered 10, false, .string (numbered 11) "*"⟩]

def returningDeclaration : VariableDeclaration :=
  ⟨numbered 1, false, .constant, [⟨.name ⟨numbered 2, "query"⟩, some returningCall⟩], []⟩

def returningModule : Module :=
  .ofProgram "/page.ts" ⟨numbered 0, [.variables returningDeclaration], ⟨[]⟩⟩

theorem returned_parameter_evaluated_in_function_scope :
    ∃ environment visited trail,
      Nested (.still .empty) 2 (startingTask returningCall ⟨returningModule, 0, none⟩) 1
        ⟨.expression (.identifier (numbered 9) "x") environment, visited, trail⟩ ∧
      environment.scope = 1 ∧
      environment.module.scopes.enclosing? 9 = some environment.scope := by
  have hosted : ∀ held ∈ (Context.still .empty).host, WellFormed held := by
    intro held impossible
    cases impossible
  have formed : WellFormed returningModule := ⟨rfl, by decide +kernel⟩
  have met : .variables returningDeclaration ∈ programEvents returningModule.program :=
    List.mem_of_getElem? (i := 2) rfl
  have reached : ∃ environment visited trail, environment.scope = 1 ∧
      Nested (.still .empty) 2 (startingTask returningCall ⟨returningModule, 0, none⟩) 1
        ⟨.expression (.identifier (numbered 9) "x") environment, visited, trail⟩ := by
    refine ⟨_, _, _, ?_, .inside rfl (.later .now) .itself⟩
    rfl
  obtain ⟨environment, visited, trail, scope, nested⟩ := reached
  have noted :=
    (identifier_evaluated_in_noted_scope hosted formed met List.mem_cons_self rfl nested).2
  exact ⟨environment, visited, trail, nested, scope, noted⟩

end QueryTypes.Resolution
