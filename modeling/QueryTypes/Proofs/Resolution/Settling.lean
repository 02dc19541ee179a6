import QueryTypes.Proofs.Resolution.Lateness
import QueryTypes.Proofs.Resolution.Universe

/-!
Evaluations that come to an end under a budget which does not depend on the options.

The options decide at a few places which of two plans is followed. A task settles if from some
budget on its answer is one of finitely many, whatever the options are; then a plan all of whose
requests settle does so too, because what it requests next depends on finitely many answers.
-/

set_option autoImplicit false

namespace QueryTypes.Resolution

open QueryTypes.Script
open QueryTypes.Source
open QueryTypes.Scoping
open QueryTypes.Modules

def Universe.Permits (all : Universe) : Except Failure Value → Prop
  | .ok value => all.HoldsValue value
  | .error failure => failure.cause.isCutOff = false

section Settling

variable (all : Universe) (host : Host)

/-- From some budget on, whatever the options, the answer is one of finitely many. -/
def Task.Settles (task : Task) : Prop :=
  ∃ (depth : Nat) (results : List (Except Failure Value)),
    (∀ result ∈ results, all.Permits result) ∧
      ∀ options : Options, 0 < options.timeoutMs → ∀ budget, depth ≤ budget →
        (solve (.timeless host options) budget task).result ∈ results

def PlanSettles (plan : Options → Plan) (trail : Trail) (count : Nat) : Prop :=
  ∃ (depth : Nat) (results : List (Except Failure Value)),
    (∀ result ∈ results, all.Permits result) ∧
      ∀ options : Options, 0 < options.timeoutMs → ∀ budget, depth ≤ budget →
        ((plan options).follow (Context.timeless host options).expired
          (solve (.timeless host options) budget) trail count).result ∈ results

variable {all host} {trail : Trail} {count : Nat}

theorem PlanSettles.finish {result : Except Failure Value} (permitted : all.Permits result) :
    PlanSettles all host (fun _ => .finish result) trail count :=
  ⟨0, [result], fun _ present => List.mem_singleton.mp present ▸ permitted,
    fun _ _ _ _ => List.mem_singleton_self result⟩

theorem PlanSettles.load {path : String} {rest : Options → Plan}
    (settled : PlanSettles all host rest trail count) :
    PlanSettles all host (fun options => .load path (rest options)) trail count := by
  obtain ⟨depth, results, permitted, reached⟩ := settled
  exact ⟨depth, results, permitted, reached⟩

theorem PlanSettles.timed {late : Options → Failure} {rest : Options → Plan}
    (settled : PlanSettles all host rest trail count) :
    PlanSettles all host (fun options => .timed (late options) (rest options)) trail count := by
  obtain ⟨depth, results, permitted, reached⟩ := settled
  refine ⟨depth, results, permitted, fun options time budget enough => ?_⟩
  rw [Plan.follow_timed (Context.unhurried_of_stopped time _)]
  exact reached options time budget enough

theorem PlanSettles.either {left right plan : Options → Plan}
    (first : PlanSettles all host left trail count)
    (second : PlanSettles all host right trail count)
    (choice : ∀ options, plan options = left options ∨ plan options = right options) :
    PlanSettles all host plan trail count := by
  obtain ⟨leftDepth, leftResults, leftPermitted, leftReached⟩ := first
  obtain ⟨rightDepth, rightResults, rightPermitted, rightReached⟩ := second
  refine ⟨max leftDepth rightDepth, leftResults ++ rightResults, ?_, ?_⟩
  · intro result present
    rcases List.mem_append.mp present with inLeft | inRight
    · exact leftPermitted result inLeft
    · exact rightPermitted result inRight
  · intro options time budget enough
    rcases choice options with same | same
    · rw [same]
      exact List.mem_append_left _ (leftReached options time budget (by omega))
    · rw [same]
      exact List.mem_append_right _ (rightReached options time budget (by omega))

/-- Finitely many answers lead to finitely many answers. -/
theorem PlanSettles.each {next : Options → Except Failure Value → Plan}
    (answers : List (Except Failure Value))
    (settled : ∀ answer ∈ answers,
      PlanSettles all host (fun options => next options answer) trail count) :
    ∃ (depth : Nat) (results : List (Except Failure Value)),
      (∀ result ∈ results, all.Permits result) ∧
        ∀ options : Options, 0 < options.timeoutMs → ∀ budget, depth ≤ budget →
          ∀ answer ∈ answers, ((next options answer).follow (Context.timeless host options).expired
            (solve (.timeless host options) budget) trail count).result ∈ results := by
  induction answers with
  | nil => exact ⟨0, [], by simp, by simp⟩
  | cons first rest ih =>
      obtain ⟨depth, results, permitted, reached⟩ := settled first List.mem_cons_self
      obtain ⟨restDepth, restResults, restPermitted, restReached⟩ :=
        ih fun answer present => settled answer (List.mem_cons_of_mem _ present)
      refine ⟨max depth restDepth, results ++ restResults, ?_, ?_⟩
      · intro result present
        rcases List.mem_append.mp present with here | later
        · exact permitted result here
        · exact restPermitted result later
      · intro options time budget enough answer present
        rcases List.mem_cons.mp present with same | later
        · subst same
          exact List.mem_append_left _ (reached options time budget (by omega))
        · exact List.mem_append_right _
            (restReached options time budget (by omega) answer later)

theorem PlanSettles.ask {goal : Goal} {visited : Visited}
    {next : Options → Except Failure Value → Plan}
    (asked : Task.Settles all host ⟨goal, visited, count :: trail⟩)
    (continued : ∀ answer, all.Permits answer →
      PlanSettles all host (fun options => next options answer) trail (count + 1)) :
    PlanSettles all host (fun options => .ask goal visited (next options)) trail count := by
  obtain ⟨depth, answers, permitted, reached⟩ := asked
  obtain ⟨restDepth, results, restPermitted, restReached⟩ :=
    PlanSettles.each answers fun answer present => continued answer (permitted answer present)
  refine ⟨max depth restDepth, results, restPermitted, ?_⟩
  intro options time budget enough
  have answered := reached options time budget (by omega)
  exact restReached options time budget (by omega) _ answered

theorem PlanSettles.fail {failure : Failure} (finished : failure.cause.isCutOff = false) :
    PlanSettles all host (fun _ => Plan.fail failure) trail count :=
  .finish finished

theorem PlanSettles.answer {value : Value} (held : all.HoldsValue value) :
    PlanSettles all host (fun _ => Plan.answer value) trail count :=
  .finish held

theorem PlanSettles.become {goal : Goal} {visited : Visited}
    (asked : Task.Settles all host ⟨goal, visited, count :: trail⟩) :
    PlanSettles all host (fun _ => Plan.become goal visited) trail count :=
  .ask asked fun _ permitted => .finish permitted

theorem PlanSettles.withValue {goal : Goal} {visited : Visited} {next : Options → Value → Plan}
    (asked : Task.Settles all host ⟨goal, visited, count :: trail⟩)
    (continued : ∀ value, all.HoldsValue value →
      PlanSettles all host (fun options => next options value) trail (count + 1)) :
    PlanSettles all host (fun options => Plan.withValue goal visited (next options)) trail
      count := by
  apply PlanSettles.ask asked
  intro answer permitted
  cases answer with
  | ok value => exact continued value permitted
  | error failure => exact .finish permitted

theorem PlanSettles.withModule {specifier : String} {importer : Module} {loc : Loc}
    {next : Options → Module → Plan} (closed : all.Closed host)
    (continued : ∀ found, found ∈ all.modules →
      PlanSettles all host (fun options => next options found) trail count) :
    PlanSettles all host (fun options =>
      Plan.withModule (.timeless host options) specifier importer loc (next options)) trail
      count := by
  unfold Plan.withModule
  apply PlanSettles.timed
  cases fetched : host.fetch specifier importer.path with
  | ok found =>
      simp only [fetched]
      exact .load (continued found (closed.resolved _ _ _ fetched))
  | error message =>
      simp only [fetched]
      exact .finish rfl

theorem Task.settles_of_plan {task : Task}
    (settled : PlanSettles all host (fun options => task.plan (.timeless host options))
      task.trail 0) :
    task.Settles all host := by
  obtain ⟨depth, results, permitted, reached⟩ := settled
  refine ⟨depth + 1, results, permitted, ?_⟩
  intro options time budget enough
  obtain ⟨budget, rfl⟩ := Nat.exists_eq_add_of_le enough
  have split : depth + 1 + budget = (depth + budget) + 1 := by omega
  rw [split, solve_succ (Context.unhurried_of_stopped time _)]
  exact reached options time (depth + budget) (by omega)

end Settling

/-! ### Plans whose requests settle -/

def Environment.Inward (inner outer : Environment) : Prop :=
  inner.frame = outer.frame ∨ sizeOf inner.frame < sizeOf outer.frame

section Plans

variable {all : Universe} {host : Host} {environment : Environment} {visited : Visited}
  {trail : Trail}

theorem template_settles (before : String) (parts : List TemplatePart) (count : Nat)
    (requests : ∀ value, .substitution value ∈ parts → ∀ count,
      Task.Settles all host ⟨.expression value environment, visited, count :: trail⟩) :
    PlanSettles all host (fun _ => Plan.template environment visited before parts) trail count := by
  induction parts generalizing before count with
  | nil => exact .answer trivial
  | cons part rest ih =>
      have later := fun value present => requests value (List.mem_cons_of_mem _ present)
      cases part with
      | chunk text => exact ih (before ++ text) count later
      | substitution value =>
          unfold Plan.template
          apply PlanSettles.withValue (requests value List.mem_cons_self count)
          intro answered _
          cases answered with
          | text text => exact ih (before ++ text) (count + 1) later
          | function closure => exact .fail rfl

private theorem parameter_settles (held : all.HoldsEnvironment environment) (known : Variable)
    (loc : Loc)
    (count : Nat)
    (requests : ∀ value inner, all.HoldsExpr value → all.HoldsEnvironment inner →
      inner.Inward environment →
        Task.Settles all host ⟨.expression value inner, visited, count :: trail⟩) :
    PlanSettles all host (fun _ => Plan.parameter known loc environment visited) trail count := by
  unfold Plan.parameter
  dsimp only
  split
  · exact .fail rfl
  · rename_i frame found
    obtain ⟨start, atStart, here⟩ := Option.bind_eq_some_iff.mp found
    have startHeld : all.HoldsFrame start := by
      cases held with
      | intro _ _ frames => exact frames start atStart
    have frameHeld : all.HoldsFrame frame :=
      Frame.find?_inherits all.HoldsFrame (fun _ _ inner => inner.outer) startHeld here
    have near := Frame.eq_or_sizeOf_lt_of_find? here
    have startSize : sizeOf environment.frame = 1 + sizeOf start := by
      rw [atStart, Option.some.sizeOf_spec]
    cases frameHeld with
    | intro site module functionScope bindings parent =>
        split
        · rename_i value caller bound
          have present := Table.mem_of_lookup bound
          cases bindings _ _ present with
          | argument exprHeld callerHeld =>
              have smaller := Frame.sizeOf_argument present
              refine .become (requests value caller exprHeld callerHeld (.inr ?_))
              rcases near with same | below
              · subst same
                omega
              · omega
        · rename_i value bound
          cases bindings _ _ (Table.mem_of_lookup bound) with
          | default exprHeld =>
              have inside : all.HoldsEnvironment
                  ⟨frame.module, frame.functionScope, some frame⟩ :=
                .intro module functionScope fun inner same =>
                  Option.some.inj same ▸ .intro site module functionScope bindings parent
              refine .become (requests value _ exprHeld inside ?_)
              rcases near with same | below
              · exact .inl (same ▸ atStart.symm)
              · refine .inr ?_
                rw [startSize, Option.some.sizeOf_spec]
                omega
        · exact .fail rfl

private theorem declarator_settles (closed : all.Closed host)
    (held : all.HoldsEnvironment environment)
    {known : Variable} (scope_mem : known.scope ∈ all.scopes) {declaration : VariableDeclaration}
    {index : Nat} (defined : all.HoldsDefinition (.declarator declaration index))
    {found : Declarator} (here : declaration.declarators[index]? = some found) (count : Nat)
    (requests : ∀ value inner, all.HoldsExpr value → all.HoldsEnvironment inner →
      inner.Inward environment →
        Task.Settles all host ⟨.expression value inner, visited, count :: trail⟩) :
    PlanSettles all host (fun _ => Plan.declarator known declaration found environment visited)
      trail count := by
  unfold Plan.declarator
  split
  · rename_i binding initializer _ initialized
    have scopeHeld : (environment.module.scopes.enclosing? declaration.mark.id).getD known.scope ∈
        all.scopes := by
      cases held with
      | intro module _ _ =>
          cases enclosed : environment.module.scopes.enclosing? declaration.mark.id with
          | none => exact scope_mem
          | some id => exact (closed.modules _ module).enclosing _ _ enclosed
    exact .become (requests initializer _ (defined found initializer here initialized)
      (held.withScope scopeHeld) (.inl rfl))
  · exact .fail rfl
  · exact .fail rfl

theorem declared_settles (closed : all.Closed host) (held : all.HoldsEnvironment environment)
    {known : Variable} (scope_mem : known.scope ∈ all.scopes)
    (defined : ∀ definition ∈ known.definitions, all.HoldsDefinition definition) (loc : Loc)
    (count : Nat)
    (requests : ∀ value inner, all.HoldsExpr value → all.HoldsEnvironment inner →
      inner.Inward environment →
        Task.Settles all host ⟨.expression value inner, visited, count :: trail⟩)
    (exports : ∀ target name requester loc, target ∈ all.modules → name ∈ all.names →
      Task.Settles all host ⟨.exported target name requester loc, visited, count :: trail⟩) :
    PlanSettles all host
      (fun options => Plan.declared (.timeless host options) known loc environment visited)
      trail count := by
  unfold Plan.declared
  dsimp only
  split
  · exact .fail rfl
  · rename_i declaration index last
    have holds := defined _ (List.mem_of_getLast? last)
    split
    · exact .fail rfl
    · rename_i found here
      exact declarator_settles closed held scope_mem holds here count requests
  · rename_i declaration kind imported localName last
    have holds : imported ∈ all.names := defined _ (List.mem_of_getLast? last)
    split
    · exact .fail rfl
    · apply PlanSettles.withModule closed
      intro found found_mem
      exact .become (exports found imported _ _ found_mem holds)
  · rename_i name function last
    have holds : all.HoldsFunction function := defined _ (List.mem_of_getLast? last)
    cases held with
    | intro module _ frames => exact .answer ⟨holds, module, frames⟩
  · exact parameter_settles held known loc count requests
  · exact .fail rfl

/-- What parameters stand for lies in the universe if the function and the call do. -/
theorem bindParameters_holds {caller : Environment} (callerHeld : all.HoldsEnvironment caller)
    (parameters : List Parameter) (arguments : List Argument)
    (defaults : nodeIds (parametersEvents parameters) ⊆ all.nodes)
    (values : ∀ argument ∈ arguments, all.HoldsExpr argument.value)
    {bindings : List (String × Actual)}
    (bound : bindParameters caller parameters arguments = .ok bindings) :
    ∀ name actual, (name, actual) ∈ bindings → all.HoldsActual actual := by
  induction parameters generalizing arguments bindings with
  | nil =>
      cases bound
      intro name actual impossible
      cases impossible
  | cons parameter rest ih =>
      obtain ⟨binding, actual, others, _, _, boundTo, bindsOthers, same⟩ :=
        bindParameters_cons bound
      have later : nodeIds (parametersEvents rest) ⊆ all.nodes := by
        intro id found
        apply defaults
        rw [parametersEvents_cons, nodeIds_cons_node, nodeIds_append]
        exact List.mem_cons_of_mem _ (List.mem_append_right _ found)
      have laterValues : ∀ argument ∈ arguments.tail, all.HoldsExpr argument.value :=
        fun argument present => values argument (List.mem_of_mem_tail present)
      have othersHeld := ih arguments.tail later laterValues bindsOthers
      subst same
      intro name other present
      rcases List.mem_cons.mp present with here | there
      · cases here
        cases boundTo with
        | argument given _ =>
            exact .argument (values _ (List.mem_of_head? given)) callerHeld
        | default _ default =>
            exact .default (List.Subset.trans
              (nodeIds_subset (default_inside List.mem_cons_self default)) defaults)
      · exact othersHeld name other there

private theorem body_settles (closed : all.Closed host) {function : Function}
    (functionHeld : all.HoldsFunction function) {inside : Environment}
    (held : all.HoldsEnvironment inside) (count : Nat)
    (requests : ∀ value inner, all.HoldsExpr value → all.HoldsEnvironment inner →
      Task.Settles all host ⟨.expression value inner, visited, count :: trail⟩) :
    PlanSettles all host (fun _ => Plan.body function inside visited) trail count := by
  have bodyHeld := functionHeld.body
  unfold Plan.body
  cases kind : function.body with
  | expression value =>
      rw [kind, bodyEvents] at bodyHeld
      exact .become (requests value inside bodyHeld held)
  | statements statements =>
      rw [kind, bodyEvents] at bodyHeld
      dsimp only
      split
      · rename_i statement only
        have present : statement ∈ Stmt.listReturns statements := by
          rw [only]
          exact List.mem_singleton_self _
        split
        · exact .fail rfl
        · rename_i value argument
          have part := listReturns_inside statements present argument
          have valueHeld : all.HoldsExpr value := List.Subset.trans (nodeIds_subset part) bodyHeld
          refine .become (requests value _ valueHeld (held.withScope ?_))
          cases held with
          | intro module scope _ =>
              cases enclosed : inside.module.scopes.enclosing? statement.mark.id with
              | none => exact scope
              | some id => exact (closed.modules _ module).enclosing _ _ enclosed
      · exact .fail rfl

theorem apply_settles (closed : all.Closed host) {closure : Closure}
    (closureHeld : all.HoldsClosure closure) {call : Mark} (call_mem : call.id ∈ all.nodes)
    {arguments : List Argument} (values : ∀ argument ∈ arguments, all.HoldsExpr argument.value)
    {caller : Environment} (callerHeld : all.HoldsEnvironment caller) (made : Trail) (count : Nat)
    (requests : ∀ value inner, all.HoldsExpr value → all.HoldsEnvironment inner →
      Task.Settles all host ⟨.expression value inner, visited, count :: trail⟩) :
    PlanSettles all host (fun _ => Plan.apply made closure call arguments caller visited)
      trail count := by
  unfold Plan.apply
  dsimp only
  split
  · exact .fail rfl
  · split
    · exact .fail rfl
    · split
      · exact .fail rfl
      · split
        · exact .fail rfl
        · rename_i functionScope created
          split
          · exact .fail rfl
          · exact .fail rfl
          · rename_i bindings bound
            have scopeHeld := (closed.modules _ closureHeld.module).created _ _ created
            have callerModule : caller.module ∈ all.modules := by
              cases callerHeld with
              | intro module _ _ => exact module
            refine body_settles closed closureHeld.function ?_ count requests
            refine .intro closureHeld.module scopeHeld ?_
            intro inner same
            cases same
            refine .intro (Universe.holdsSite callerModule call_mem) closureHeld.module scopeHeld
              ?_ closureHeld.frame
            intro name actual present
            exact bindParameters_holds callerHeld _ _ closureHeld.function.parameters values bound
              name actual
              (List.mem_reverse.mp present)

end Plans

end QueryTypes.Resolution
