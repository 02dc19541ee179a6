import QueryTypes.Proofs.Resolution.ExportSteps
import QueryTypes.Proofs.Resolution.Sessions
import QueryTypes.Proofs.Scoping.Origins

/-!
Failures point into the module they name.

Evaluation takes expressions, functions and arguments of one module to places where another one is
evaluated. Each keeps the module it is a part of: a plan fails only at nodes of the module at hand,
what it requests stays with its own module, and the modules at hand are the first one and those that
were fetched.
-/

set_option autoImplicit false

namespace QueryTypes.Resolution

open QueryTypes.Script
open QueryTypes.Source
open QueryTypes.Scoping
open QueryTypes.Modules

/-- A failure has the place of a node in a module, by the lines of that module. -/
structure Failure.PointsTo (failure : Failure) (module : Module) (mark : Mark) : Prop where
  path : failure.path = module.path
  loc : failure.loc = mark.loc
  position : failure.position = module.program.lines.position failure.loc.start

/-- Where a resolution starts, and the paths of the modules that it may come to. -/
structure Journey where
  host : Host
  start : Module
  given : Expr
  loaded : List String

namespace Journey

variable (journey : Journey)

structure Reaches (module : Module) : Prop where
  bound : module.scopes = bind module.program
  reached : module = journey.start ∨
    journey.host.find? module.path = some module ∧ module.path ∈ journey.loaded

def Meets (module : Module) (mark : Mark) : Prop :=
  .node mark ∈ programEvents module.program ∨
    module = journey.start ∧ .node mark ∈ exprEvents journey.given

structure Covers (module : Module) (phrase : Phrase) : Prop where
  reaches : journey.Reaches module
  within : phrase ∈ programPhrases module.program ∨
    module = journey.start ∧ phrase ∈ (Phrase.expr journey.given).preorder

def Locates (failure : Failure) : Prop :=
  ∃ module mark, journey.Reaches module ∧ journey.Meets module mark ∧
    failure.PointsTo module mark

mutual

inductive HoldsFrame : Frame → Prop
  | intro {frame : Frame} (reaches : journey.Reaches frame.module)
      (bindings : ∀ name actual, (name, actual) ∈ frame.bindings →
        HoldsActual frame.module actual)
      (parent : ∀ outer, frame.parent = some outer → HoldsFrame outer) : HoldsFrame frame

/-- An argument is of the module that the call is in, which need not be that of the function; a
default is of the function's. -/
inductive HoldsActual : Module → Actual → Prop
  | argument {module : Module} {value : Expr} {caller : Environment}
      (covers : journey.Covers caller.module (.expr value))
      (frame : ∀ inner, caller.frame = some inner → HoldsFrame inner) :
      HoldsActual module (.argument value caller)
  | default {module : Module} {value : Expr} (covers : journey.Covers module (.expr value)) :
      HoldsActual module (.default value)

end

structure HoldsEnvironment (environment : Environment) : Prop where
  reaches : journey.Reaches environment.module
  frame : ∀ inner, environment.frame = some inner → journey.HoldsFrame inner

structure HoldsClosure (closure : Closure) : Prop where
  covers : journey.Covers closure.module (.function closure.function)
  frame : ∀ inner, closure.frame = some inner → journey.HoldsFrame inner

def HoldsValue : Value → Prop
  | .text _ => True
  | .function closure => journey.HoldsClosure closure

inductive HoldsGoal : Goal → Prop
  | expression {value : Expr} {environment : Environment}
      (held : journey.HoldsEnvironment environment)
      (covers : journey.Covers environment.module (.expr value)) :
      HoldsGoal (.expression value environment)
  | exported {target requester : Module} (reaches : journey.Reaches target)
      (asker : journey.Reaches requester) {mark : Mark} (meets : journey.Meets requester mark)
      (name : String) : HoldsGoal (.exported target name requester mark.loc)

def HoldsAnswer : Except Failure Value → Prop
  | .ok value => journey.HoldsValue value
  | .error failure => journey.Locates failure

/-- What a plan requests and what it answers with is of a module at hand, as long as its requests
are answered so and the modules that it fetches are among those. -/
def HoldsPlan : Plan → Prop
  | .finish result => journey.HoldsAnswer result
  | .timed late rest => journey.Locates late ∧ HoldsPlan rest
  | .load path rest => path ∈ journey.loaded → HoldsPlan rest
  | .ask goal _ next =>
      journey.HoldsGoal goal ∧ ∀ answer, journey.HoldsAnswer answer → HoldsPlan (next answer)

/-! ### Parts of what is at hand -/

section Parts

variable {journey}
variable {module : Module} {phrase : Phrase} {mark : Mark}

theorem Reaches.program (reaches : journey.Reaches module) {phrase : Phrase}
    (inside : phrase ∈ programPhrases module.program) : journey.Covers module phrase :=
  ⟨reaches, .inl inside⟩

theorem Reaches.statement (reaches : journey.Reaches module) {statement : Stmt}
    (present : statement ∈ module.body) : journey.Covers module (.stmt statement) :=
  reaches.program (mem_programPhrases.mpr ⟨statement, present, Phrase.mem_preorder.mpr (.inl rfl)⟩)

theorem Covers.inside (covers : journey.Covers module phrase) {other : Phrase}
    (inside : other ∈ phrase.preorder) : journey.Covers module other := by
  refine ⟨covers.reaches, ?_⟩
  rcases covers.within with ofProgram | ⟨start, ofGiven⟩
  · obtain ⟨statement, present, deeper⟩ := mem_programPhrases.mp ofProgram
    exact .inl (mem_programPhrases.mpr ⟨statement, present, Phrase.preorder_trans deeper inside⟩)
  · exact .inr ⟨start, Phrase.preorder_trans ofGiven inside⟩

theorem Covers.inner (covers : journey.Covers module phrase) {child : Phrase}
    (direct : child ∈ phrase.inner) : journey.Covers module child :=
  covers.inside (Phrase.mem_preorder.mpr (.inr ⟨child, direct, Phrase.mem_preorder.mpr (.inl rfl)⟩))

private theorem Covers.meets (covers : journey.Covers module phrase)
    (own : .node mark ∈ phrase.opening) :
    journey.Meets module mark := by
  have met : .node mark ∈ phrase.events := by
    rw [phrase.events_eq]
    exact List.mem_append_left _ (List.mem_append_left _ own)
  rcases covers.within with ofProgram | ⟨start, ofGiven⟩
  · exact .inl ((infix_programEvents ofProgram).subset met)
  · exact .inr ⟨start, (Phrase.infix_events ofGiven).subset met⟩

private theorem Covers.meets_expr {value : Expr} (covers : journey.Covers module (.expr value)) :
    journey.Meets module value.mark :=
  covers.meets List.mem_cons_self

private theorem Reaches.meets_program (_ : journey.Reaches module) :
    journey.Meets module module.program.mark :=
  .inl List.mem_cons_self

/-- A failure at a node of a module at hand. -/
theorem Reaches.locates (reaches : journey.Reaches module) (meets : journey.Meets module mark)
    (cause : Cause) : journey.Locates (.within module mark.loc cause) :=
  ⟨module, mark, reaches, meets, rfl, rfl, rfl⟩

/-- A return statement that counts is a part of the statements that it is found in. -/
theorem Covers.returned {body : List Stmt}
    (covers : ∀ statement ∈ body, journey.Covers module (.stmt statement)) {found : Return}
    (present : found ∈ Stmt.listReturns body) : journey.Covers module (.stmt (.returns found)) := by
  obtain ⟨child, direct, inside⟩ := Phrase.listReturns_phrase body present
  obtain ⟨statement, among, rfl⟩ := List.mem_map.mp direct
  exact (covers statement among).inside inside

end Parts

/-! ### Steps -/

section Plans

variable {journey}

private theorem fail_holds {failure : Failure} (located : journey.Locates failure) :
    journey.HoldsPlan (Plan.fail failure) := located

private theorem answer_holds (value : Value) (held : journey.HoldsValue value) :
    journey.HoldsPlan (Plan.answer value) := held

private theorem become_holds {goal : Goal} (held : journey.HoldsGoal goal) (visited : Visited) :
    journey.HoldsPlan (Plan.become goal visited) :=
  ⟨held, fun _ answered => answered⟩

private theorem withValue_holds {goal : Goal} (held : journey.HoldsGoal goal) (visited : Visited)
    {next : Value → Plan}
    (holds : ∀ value, journey.HoldsValue value → journey.HoldsPlan (next value)) :
    journey.HoldsPlan (Plan.withValue goal visited next) := by
  refine ⟨held, fun answer answered => ?_⟩
  cases answer with
  | ok value => exact holds value answered
  | error failure => exact answered

end Plans

section Steps

variable {journey}
variable {context : Context} {environment : Environment} {visited : Visited}

/-- A failure at a node of the module at hand. -/
theorem HoldsEnvironment.fails (held : journey.HoldsEnvironment environment) {mark : Mark}
    (meets : journey.Meets environment.module mark) (cause : Cause) :
    journey.HoldsPlan (Plan.fail (environment.failure mark.loc cause)) :=
  fail_holds (held.reaches.locates meets cause)

theorem HoldsEnvironment.withScope (held : journey.HoldsEnvironment environment)
    (scope : ScopeId) : journey.HoldsEnvironment (environment.withScope scope) :=
  ⟨held.reaches, held.frame⟩

private theorem ofModule_holds {module : Module} (reaches : journey.Reaches module) :
    journey.HoldsEnvironment (.ofModule module) := by
  refine ⟨reaches, ?_⟩
  intro inner impossible
  cases impossible

theorem HoldsFrame.outer {frame outer : Frame} (held : journey.HoldsFrame frame)
    (parent : frame.parent = some outer) : journey.HoldsFrame outer := by
  cases held with
  | intro _ _ parents => exact parents outer parent

private theorem template_holds (held : journey.HoldsEnvironment environment)
    {parts : List TemplatePart}
    (covers : ∀ value, .substitution value ∈ parts →
      journey.Covers environment.module (.expr value)) (before : String) :
    journey.HoldsPlan (Plan.template environment visited before parts) := by
  induction parts generalizing before with
  | nil => exact answer_holds (.text before) trivial
  | cons part rest ih =>
      have later := ih fun value present => covers value (List.mem_cons_of_mem _ present)
      cases part with
      | chunk text => exact later (before ++ text)
      | substitution value =>
          have own := covers value List.mem_cons_self
          unfold Plan.template
          apply withValue_holds (.expression held own)
          intro answered _
          cases answered with
          | text text => exact later (before ++ text)
          | function closure => exact held.fails own.meets_expr _

/-- An argument is of the module that the call was made in and a default of that of the function. -/
theorem parameter_holds (held : journey.HoldsEnvironment environment) (known : Variable)
    {mark : Mark} (meets : journey.Meets environment.module mark) :
    journey.HoldsPlan (Plan.parameter known mark.loc environment visited) := by
  unfold Plan.parameter
  dsimp only
  split
  · exact held.fails meets _
  · rename_i frame found
    obtain ⟨start, atStart, here⟩ := Option.bind_eq_some_iff.mp found
    have frameHeld : journey.HoldsFrame frame :=
      Frame.find?_inherits journey.HoldsFrame (fun _ _ inner => inner.outer)
        (held.frame start atStart) here
    obtain ⟨reaches, bindings, _⟩ := id frameHeld
    split
    · rename_i value caller bound
      cases bindings _ _ (Table.mem_of_lookup bound) with
      | argument covers frames =>
          exact become_holds (.expression ⟨covers.reaches, frames⟩ covers) visited
    · rename_i value bound
      cases bindings _ _ (Table.mem_of_lookup bound) with
      | default covers =>
          refine become_holds (.expression ⟨reaches, ?_⟩ covers) visited
          intro inner same
          cases same
          exact frameHeld
    · exact held.fails meets _

private theorem Covers.fails_at_pattern (held : journey.HoldsEnvironment environment)
    {target : Pattern} (covers : journey.Covers environment.module (.pattern target))
    (cause : Cause) :
    journey.HoldsPlan (Plan.fail (environment.failure target.loc cause)) := by
  cases target with
  | name binding => exact held.fails (covers.meets List.mem_cons_self) cause
  | array mark elements rest => exact held.fails (covers.meets List.mem_cons_self) cause
  | object mark properties rest => exact held.fails (covers.meets List.mem_cons_self) cause

private theorem declarator_holds (held : journey.HoldsEnvironment environment) {known : Variable}
    {declaration : VariableDeclaration}
    (covers : journey.Covers environment.module (.stmt (.variables declaration)))
    {found : Declarator} (present : found ∈ declaration.declarators) :
    journey.HoldsPlan (Plan.declarator known declaration found environment visited) := by
  have direct {phrase : Phrase} (own : phrase ∈ Phrase.ofDeclarator found) :
      journey.Covers environment.module phrase :=
    covers.inner (List.mem_flatMap.mpr ⟨found, present, own⟩)
  obtain ⟨target, initializer⟩ := found
  have bound := direct List.mem_cons_self
  unfold Plan.declarator
  split
  · rename_i binding value _ initialized
    dsimp only at initialized
    subst initialized
    have assigned : journey.Covers environment.module (.expr value) :=
      direct (List.mem_cons_of_mem _ (List.mem_singleton_self _))
    exact become_holds (.expression (held.withScope _) assigned) visited
  · rename_i binding named _
    dsimp only at named
    subst named
    exact Covers.fails_at_pattern held bound _
  · exact Covers.fails_at_pattern held bound _

theorem bindParameters_holds (held : journey.HoldsEnvironment environment) {module : Module}
    {parameters : List Parameter} {arguments : List Argument}
    (given : ∀ argument ∈ arguments, journey.Covers environment.module (.argument argument))
    (declared : ∀ parameter ∈ parameters, journey.Covers module (.parameter parameter))
    {bindings : List (String × Actual)}
    (bound : bindParameters environment parameters arguments = .ok bindings) :
    ∀ name actual, (name, actual) ∈ bindings → journey.HoldsActual module actual := by
  induction parameters generalizing arguments bindings with
  | nil =>
      cases bound
      nofun
  | cons parameter rest ih =>
      obtain ⟨binding, first, others, _, _, boundTo, remaining, rfl⟩ := bindParameters_cons bound
      have later := ih (fun argument present => given argument (List.mem_of_mem_tail present))
        (fun other present => declared other (List.mem_cons_of_mem _ present)) remaining
      intro name actual present
      rcases List.mem_cons.mp present with here | there
      · cases here
        cases boundTo with
        | argument argument _ =>
            have covers := given _ (List.mem_of_head? argument)
            exact .argument (covers.inner (List.mem_singleton_self _)) held.frame
        | default _ default =>
            have covers := declared parameter List.mem_cons_self
            refine .default (covers.inner (List.mem_cons_of_mem _ ?_))
            rw [default]
            exact List.mem_singleton_self _
      · exact later name actual there

/-- A parameter that cannot be bound is one of the function's. -/
theorem bindParameters_refused {caller : Environment} {parameters : List Parameter}
    {arguments : List Argument} {loc : Loc}
    (refused : bindParameters caller parameters arguments = .error (.parameter loc)) :
    ∃ parameter ∈ parameters, loc = parameter.mark.loc := by
  induction parameters generalizing arguments with
  | nil => cases refused
  | cons parameter rest ih =>
      obtain ⟨mark, isRest, target, default⟩ := parameter
      unfold bindParameters at refused
      split at refused
      · simp only [Bind.bind, Except.bind, Pure.pure, Except.pure] at refused
        cases binds : bindParameters caller rest arguments.tail with
        | error error =>
            rw [binds] at refused
            have : error = .parameter loc := by
              dsimp only at refused
              repeat' split at refused
              all_goals cases refused
              all_goals rfl
            obtain ⟨other, present, same⟩ := ih (this ▸ binds)
            exact ⟨other, List.mem_cons_of_mem _ present, same⟩
        | ok others =>
            rw [binds] at refused
            dsimp only at refused
            repeat' split at refused
            all_goals cases refused
      · cases refused
        exact ⟨_, List.mem_cons_self, rfl⟩

private theorem body_holds (held : journey.HoldsEnvironment environment) {function : Function}
    (covers : journey.Covers environment.module (.function function)) :
    journey.HoldsPlan (Plan.body function environment visited) := by
  have direct {phrase : Phrase} (own : phrase ∈ Phrase.ofBody function.body) :
      journey.Covers environment.module phrase :=
    covers.inner (List.mem_append_right _ own)
  unfold Plan.body
  split
  · rename_i value body
    rw [body] at direct
    exact become_holds (.expression held (direct (List.mem_singleton_self _))) visited
  · rename_i statements body
    rw [body] at direct
    split
    · rename_i statement found
      have returned : journey.Covers environment.module (.stmt (.returns statement)) := by
        apply Covers.returned fun _ present => direct (List.mem_map_of_mem present)
        rw [found]
        exact List.mem_singleton_self statement
      split
      · exact held.fails (returned.meets List.mem_cons_self) _
      · rename_i value given
        refine become_holds (.expression (held.withScope _) (returned.inner ?_)) visited
        change Phrase.expr value ∈ Phrase.ofOption statement.value
        rw [given]
        exact List.mem_singleton_self _
    · exact held.fails (covers.meets List.mem_cons_self) _

/-- Calling a function of another module goes on in that module, with the arguments in this one. -/
theorem apply_holds (held : journey.HoldsEnvironment environment) {closure : Closure}
    (closureHeld : journey.HoldsClosure closure) {call : Mark}
    (meets : journey.Meets environment.module call) {arguments : List Argument}
    (given : ∀ argument ∈ arguments, journey.Covers environment.module (.argument argument))
    (trail : Trail) :
    journey.HoldsPlan (Plan.apply trail closure call arguments environment visited) := by
  have covers := closureHeld.covers
  have callee := ofModule_holds covers.reaches
  have parameters : ∀ parameter ∈ closure.function.parameters,
      journey.Covers closure.module (.parameter parameter) := fun parameter present =>
    covers.inner (List.mem_append_left _ (List.mem_map_of_mem present))
  unfold Plan.apply
  dsimp only
  split
  · exact held.fails meets _
  · split
    · exact held.fails meets _
    · split
      · rename_i spread found
        exact held.fails ((given _ (List.mem_of_find?_eq_some found)).meets List.mem_cons_self) _
      · split
        · exact callee.fails (covers.meets List.mem_cons_self) _
        · split
          · rename_i loc refused
            -- The refused parameter is the function's, and so is the module that is named.
            obtain ⟨parameter, present, rfl⟩ := bindParameters_refused refused
            exact callee.fails ((parameters _ present).meets List.mem_cons_self) _
          · exact held.fails meets _
          · rename_i bindings bound
            have actuals := bindParameters_holds held given parameters bound
            refine body_holds ⟨covers.reaches, ?_⟩ covers
            intro inner same
            cases same
            exact .intro covers.reaches
              (fun name actual present => actuals name actual (List.mem_reverse.mp present))
              closureHeld.frame

private theorem call_holds (held : journey.HoldsEnvironment environment) {mark : Mark}
    {optional : Bool} {callee : Expr} {arguments : List Argument}
    (covers : journey.Covers environment.module (.expr (.call mark optional callee arguments)))
    (trail : Trail) :
    journey.HoldsPlan (Plan.call context trail mark callee arguments environment visited) := by
  have meets : journey.Meets environment.module mark := covers.meets_expr
  have called : journey.Covers environment.module (.expr callee) :=
    covers.inner List.mem_cons_self
  have given : ∀ argument ∈ arguments, journey.Covers environment.module (.argument argument) :=
    fun argument present =>
      covers.inner (List.mem_cons_of_mem _ (List.mem_map_of_mem present))
  unfold Plan.call
  split
  · split
    · exact held.fails meets _
    · rename_i first head
      have inside := given first (List.mem_of_head? head)
      split
      · exact held.fails (inside.meets List.mem_cons_self) _
      · exact become_holds (.expression held (inside.inner (List.mem_singleton_self _))) visited
  · unfold Plan.callValue
    apply withValue_holds (.expression held called)
    intro value valueHeld
    cases value with
    | text text => exact held.fails called.meets_expr _
    | function closure =>
        dsimp only
        split
        · exact held.fails meets _
        · exact apply_holds held valueHeld meets given trail

private theorem meets_of_exportEntry {target : Module} (reaches : journey.Reaches target)
    {name : String} {entry : ExportName} {source : Option String}
    (listed : exportEntry? target.body name = some (entry, source)) :
    journey.Meets target entry.mark := by
  have among := (List.mem_filter.mp (List.mem_of_getLast? listed)).1
  obtain ⟨mark, names, present, inNames⟩ := mem_exportEntries.mp among
  apply (reaches.statement present).meets
  exact List.mem_cons_of_mem _ (List.mem_map.mpr ⟨entry, inNames, rfl⟩)

private theorem mem_wildcardSources {body : List Stmt} {source : String} {loc : Loc}
    (present : (source, loc) ∈ wildcardSources body) :
    ∃ mark typeOnly, .exportList ⟨mark, typeOnly, .all none, some source⟩ ∈ body ∧
      loc = mark.loc := by
  obtain ⟨statement, inBody, read⟩ := List.mem_filterMap.mp present
  split at read
  · cases read
    exact ⟨_, _, inBody, rfl⟩
  · cases read

end Steps

/-! ### Steps that consult the host -/

section Consulting

variable {journey}
variable {context : Context} {environment : Environment} {visited : Visited}
variable {target requester : Module}
variable (same : journey.host = context.host)

include same

/-- The module that a specifier names is at hand once it is fetched. -/
theorem withModule_holds {importer : Module} (reaches : journey.Reaches importer)
    {mark : Mark} (meets : journey.Meets importer mark) (specifier : String)
    {next : Module → Plan}
    (holds : ∀ found, journey.Reaches found → journey.HoldsPlan (next found)) :
    journey.HoldsPlan (Plan.withModule context specifier importer mark.loc next) := by
  refine ⟨reaches.locates meets _, ?_⟩
  cases fetched : context.host.fetch specifier importer.path with
  | error message => exact reaches.locates meets _
  | ok found =>
      have present := Host.mem_of_fetch fetched
      intro loaded
      exact holds found ⟨Host.scopes_of_mem present, .inr ⟨same ▸ present, loaded⟩⟩

/-- Where a variable leads, each of its definitions being made by a phrase of the module at hand. -/
theorem declared_holds (held : journey.HoldsEnvironment environment) {known : Variable}
    (borne : ∀ definition ∈ known.definitions,
      ∃ phrase ∈ programPhrases environment.module.program, phrase.Bears definition)
    {mark : Mark} (meets : journey.Meets environment.module mark) :
    journey.HoldsPlan (Plan.declared context known mark.loc environment visited) := by
  unfold Plan.declared
  dsimp only
  split
  · exact held.fails meets _
  · rename_i declaration index last
    obtain ⟨_, inside, rfl⟩ := borne _ (List.mem_of_getLast? last)
    split
    · exact held.fails meets _
    · rename_i found here
      exact declarator_holds held (held.reaches.program inside) (List.mem_of_getElem? here)
  · rename_i declaration kind imported localName last
    obtain ⟨_, inside, rfl, listed⟩ := borne _ (List.mem_of_getLast? last)
    have covers := held.reaches.program inside
    have named : journey.Meets environment.module localName.mark :=
      covers.meets (List.mem_cons_of_mem _ (List.mem_append_right _ listed))
    split
    · exact held.fails named _
    · apply withModule_holds same held.reaches (covers.meets List.mem_cons_self)
      exact fun target reaches =>
        become_holds (.exported reaches held.reaches named imported) visited
  · rename_i name function last
    obtain ⟨_, inside, own⟩ := borne _ (List.mem_of_getLast? last)
    exact answer_holds (.function _)
      ⟨(held.reaches.program inside).inner own, held.frame⟩
  · exact parameter_holds held known meets
  · exact held.fails meets _

private theorem identifier_holds (held : journey.HoldsEnvironment environment) {mark : Mark}
    (meets : journey.Meets environment.module mark) (name : String) :
    journey.HoldsPlan (Plan.identifier context mark name environment visited) := by
  unfold Plan.identifier
  dsimp only
  split
  · exact held.fails meets _
  · split
    · exact held.fails meets _
    · rename_i known found
      have looked : (bind environment.module.program).lookup environment.scope name =
          some known := by
        rw [← held.reaches.bound]
        exact found
      exact declared_holds same held (fun _ => lookup_bearer looked) meets

private theorem expression_holds (held : journey.HoldsEnvironment environment) {value : Expr}
    (covers : journey.Covers environment.module (.expr value)) (trail : Trail) :
    journey.HoldsPlan (Plan.expression context trail value environment visited) := by
  have meets := covers.meets_expr
  cases value with
  | tagged mark tag parts =>
      cases tag with
      | identifier tagMark name =>
          unfold Plan.expression
          dsimp only
          split
          · exact template_holds held (fun value present => covers.inner (List.mem_cons_of_mem _
              (List.mem_flatMap.mpr ⟨_, present, List.mem_singleton_self _⟩))) ""
          · exact held.fails meets _
      | _ => exact held.fails meets _
  | template mark parts =>
      exact template_holds held (fun value present =>
        covers.inner (List.mem_flatMap.mpr ⟨_, present, List.mem_singleton_self _⟩)) ""
  | identifier mark name => exact identifier_holds same held meets name
  | call mark optional callee arguments => exact call_holds held covers trail
  | arrow mark function =>
      exact answer_holds (.function _)
        ⟨covers.inner (List.mem_singleton_self _), held.frame⟩
  | function mark name function =>
      exact answer_holds (.function _)
        ⟨covers.inner (List.mem_singleton_self _), held.frame⟩
  | string mark text => exact answer_holds (.text _) trivial
  | number mark number => exact answer_holds (.text _) trivial
  | boolean mark truth => exact answer_holds (.text _) trivial
  | bigInteger mark digits => exact answer_holds (.text _) trivial
  | null mark => exact held.fails meets _
  | regex mark pattern => exact held.fails meets _
  | binary mark operator left right => exact held.fails meets _
  | member mark optional object property => exact held.fails meets _
  | array mark elements => exact held.fails meets _
  | object mark members => exact held.fails meets _

private theorem wildcards_hold (reaches : journey.Reaches target) (name : String)
    {missing : Failure} (located : journey.Locates missing) {sources : List (String × Loc)}
    (listed : ∀ source ∈ sources, source ∈ wildcardSources target.body) :
    journey.HoldsPlan (Plan.wildcards context target name visited missing sources) := by
  induction sources with
  | nil => exact fail_holds located
  | cons first rest ih =>
      obtain ⟨source, loc⟩ := first
      obtain ⟨mark, typeOnly, present, rfl⟩ := mem_wildcardSources (listed _ List.mem_cons_self)
      have meets : journey.Meets target mark :=
        (reaches.statement present).meets List.mem_cons_self
      unfold Plan.wildcards
      apply withModule_holds same reaches meets
      intro found foundReached
      refine ⟨.exported foundReached reaches meets name, fun answer answered => ?_⟩
      cases answer with
      | ok value => exact answer_holds value answered
      | error failure =>
          dsimp only
          split
          · exact ih fun source present => listed source (List.mem_cons_of_mem _ present)
          · exact fail_holds answered

/-- A variable of a module itself is looked up in that module, for whatever node of it. -/
theorem topLevel_holds (reaches : journey.Reaches target) {name : String} {known : Variable}
    (found : target.scopes.declared? ScopeTree.root name = some known) {mark : Mark}
    (meets : journey.Meets target mark) :
    journey.HoldsPlan (Plan.declared context known mark.loc (.ofModule target) visited) := by
  have declared : (bind target.program).declared? ScopeTree.root name = some known := by
    rw [← reaches.bound]
    exact found
  exact declared_holds same (ofModule_holds reaches) (fun _ => exists_bearer declared) meets

private theorem namedExport_holds (reaches : journey.Reaches target) (name : String)
    {missing : Failure} (located : journey.Locates missing) :
    journey.HoldsPlan (Plan.namedExport context target name visited missing) := by
  unfold Plan.namedExport
  split
  · rename_i known found
    exact topLevel_holds same reaches found reaches.meets_program
  · split
    · rename_i entry source listed
      have meets := meets_of_exportEntry reaches listed
      unfold Plan.exportEntry
      split
      · apply withModule_holds same reaches meets
        exact fun found foundReached =>
          become_holds (.exported foundReached reaches meets entry.target) visited
      · split
        · rename_i known found
          exact topLevel_holds same reaches found meets
        · exact fail_holds (reaches.locates meets _)
    · exact wildcards_hold same reaches name located fun _ present => present

/-- A lookup fails where it was requested or in the module that is looked in. -/
theorem exported_holds (reaches : journey.Reaches target) (asker : journey.Reaches requester)
    {mark : Mark} (meets : journey.Meets requester mark) (name : String) :
    journey.HoldsPlan (Plan.exported context target name requester mark.loc visited) := by
  unfold Plan.exported
  split
  · exact fail_holds (asker.locates meets _)
  · split
    · rename_i value default
      split at default
      · obtain ⟨_, present⟩ := mem_of_defaultExpression default
        exact become_holds (.expression (ofModule_holds reaches)
          ((reaches.statement present).inner (List.mem_singleton_self _))) _
      · cases default
    · rename_i function default
      split at default
      · obtain ⟨_, _, _, present⟩ := mem_of_defaultFunction default
        exact answer_holds (.function _)
          ⟨(reaches.statement present).inner (List.mem_singleton_self _), nofun⟩
      · cases default
    · exact namedExport_holds same reaches name (asker.locates meets _)

end Consulting

/-! ### Runs -/

section Runs

variable {journey}
variable {context : Context}

theorem HoldsGoal.refused {task : Task} (held : journey.HoldsGoal task.goal) (cause : Cause) :
    journey.Locates (task.goal.failure cause) := by
  obtain ⟨goal, visited, trail⟩ := task
  cases held with
  | expression environment covers => exact environment.reaches.locates covers.meets_expr cause
  | exported _ asker meets _ => exact asker.locates meets cause

variable (same : journey.host = context.host)

include same in
private theorem plan_holds {task : Task} (held : journey.HoldsGoal task.goal) :
    journey.HoldsPlan (task.plan context) := by
  obtain ⟨goal, visited, trail⟩ := task
  cases held with
  | expression environment covers => exact expression_holds same environment covers trail
  | exported reaches asker meets name => exact exported_holds same reaches asker meets name

/-- Tasks that are of modules at hand are answered so, if all modules fetched for them are at hand
afterwards. -/
def Answers (journey : Journey) (solve : Task → Outcome) : Prop :=
  ∀ task, journey.HoldsGoal task.goal → (∀ path ∈ (solve task).loaded, path ∈ journey.loaded) →
    journey.HoldsAnswer (solve task).result

theorem HoldsPlan.follow {expired : Moment → Bool} {solve : Task → Outcome}
    (answers : journey.Answers solve) {plan : Plan} (holds : journey.HoldsPlan plan)
    (trail : Trail) (count : Nat)
    (within : ∀ path ∈ (plan.follow expired solve trail count).loaded, path ∈ journey.loaded) :
    journey.HoldsAnswer (plan.follow expired solve trail count).result := by
  induction plan generalizing count with
  | finish result => exact holds
  | timed late rest ih =>
      cases elapsed : expired (.fetch (count :: trail)) with
      | true =>
          rw [Plan.follow_timed_of_late elapsed]
          exact holds.1
      | false =>
          rw [Plan.follow_timed elapsed] at within ⊢
          exact ih holds.2 count within
  | load path rest ih =>
      exact ih (holds (within path List.mem_cons_self)) count
        fun later present => within later (List.mem_cons_of_mem _ present)
  | ask goal visited next ih =>
      -- What is fetched for the request and what is fetched after it are both among all.
      have answered := answers ⟨goal, visited, count :: trail⟩ holds.1
        fun path present => within path (List.mem_append_left _ present)
      exact ih _ (holds.2 _ answered) (count + 1)
        fun path present => within path (List.mem_append_right _ present)

include same in
private theorem solve_answers (budget : Nat) : journey.Answers (solve context budget) := by
  apply solve_induction (motive := fun task outcome => journey.HoldsGoal task.goal →
    (∀ path ∈ outcome.loaded, path ∈ journey.loaded) → journey.HoldsAnswer outcome.result)
  · exact fun task cause held _ => held.refused cause
  · exact fun budget ih task held within =>
      HoldsPlan.follow ih (plan_holds same held) _ _ within

end Runs

end Journey

/-- A resolution fails at a node of the module that it starts in, of the expression that it starts
with, or of a module that it fetched. -/
theorem Request.outcome_locates {context : Context} {request : Request}
    (bound : request.module.scopes = bind request.module.program) {trail : Trail}
    {failure : Failure} (failed : (request.outcome context trail).result = .error failure) :
    (Journey.mk context.host request.module request.value
      (request.outcome context trail).loaded).Locates failure := by
  let journey : Journey :=
    ⟨context.host, request.module, request.value, (request.outcome context trail).loaded⟩
  have covers : journey.Covers request.module (.expr request.value) :=
    ⟨⟨bound, .inl rfl⟩, .inr ⟨rfl, Phrase.mem_preorder.mpr (.inl rfl)⟩⟩
  have held : journey.HoldsGoal (.expression request.value request.environment) :=
    .expression ⟨covers.reaches, nofun⟩ covers
  have answers : journey.Answers (solve context context.options.maxDepth) :=
    Journey.solve_answers rfl _
  have answered := answers (request.task trail) held fun _ present => present
  unfold outcome textOf at failed
  dsimp only at failed
  split at failed
  · cases failed
  · cases failed
    exact covers.reaches.locates covers.meets_expr _
  · rename_i same
    cases failed
    rw [same] at answered
    exact answered

namespace Session

/-- However many resolutions a session has done and whenever its time ends, each one that fails
points to a node of the module that it names by the lines of that module. The module is the one that
the resolution started in, or is among those that the session knows then; besides its own nodes, the
one that the resolution started in may be pointed into at the expression that was given. -/
theorem failure_points_into_module (context : Context) (earlier : List Request)
    {request : Request} (bound : request.module.scopes = bind request.module.program)
    {failure : Failure}
    (failed : (((start context).serveAll earlier).2.serve request).1 = .error failure) :
    ∃ module mark,
      (module = request.module ∨
        module ∈ (((start context).serveAll earlier).2.serve request).2.memory.modules) ∧
      (.node mark ∈ programEvents module.program ∨
        module = request.module ∧ .node mark ∈ exprEvents request.value) ∧
      failure.PointsTo module mark := by
  have idle := (start_idle context).afterAll earlier
  obtain ⟨result, after, paths⟩ := idle.serve request (.refl context _)
  rw [result] at failed
  obtain ⟨module, mark, reaches, meets, points⟩ := Request.outcome_locates bound failed
  refine ⟨module, mark, reaches.reached.imp_right ?_, meets, points⟩
  rintro ⟨held, loaded⟩
  rw [after.sound.mem_modules, paths, mem_foldl_note]
  exact ⟨held, .inr loaded⟩

/-- `export const wrap = (x = base) => x` and, on the next line, `const base = null` -/
def defaultingModule : Module :=
  .ofProgram "/lib.ts" ⟨numbered 0, [
    .variables ⟨numbered 1, true, .constant, [⟨.name ⟨numbered 2, "wrap"⟩,
      some (.arrow (numbered 3) ⟨numbered 4, true, false, false,
        [⟨numbered 5, false, .name ⟨numbered 6, "x"⟩, some (.identifier (numbered 7) "base")⟩],
        .expression (.identifier (numbered 8) "x")⟩)⟩], []⟩,
    .variables ⟨numbered 9, false, .constant,
      [⟨.name ⟨numbered 10, "base"⟩, some (.null ⟨11, ⟨49, 53⟩⟩)⟩], []⟩], ⟨[36]⟩⟩

def importingModule : Module :=
  .ofProgram "/page.ts" ⟨numbered 0, [
    .imports ⟨numbered 1, false, none, some (.some [⟨"wrap", ⟨numbered 2, "wrap"⟩⟩]), "/lib.ts"⟩],
    ⟨[]⟩⟩

def defaultingRequest : Request :=
  ⟨.call (numbered 3) false (.identifier (numbered 4) "wrap") [], importingModule, ScopeTree.root⟩

/-- The time of the second request ends as `null` is come to. -/
def shortClock : Clock
  | .start [0, 0, 1, 1] => Options.standard.timeoutMs
  | _ => 0

def shortContext : Context :=
  { Context.still ⟨[(defaultingModule.path, defaultingModule.program)]⟩ with clock := shortClock }

/-- The call is of one module and what fails of the other one, which the session knows already. At
first that is unsupported, and the second time it comes too late. -/
theorem failing_default_points_into_its_module :
    let session := ((start shortContext).serveAll [defaultingRequest]).2
    let place (cause : Cause) : Failure := ⟨cause, "/lib.ts", ⟨49, 53⟩, ⟨2, 13, 49⟩⟩
    ((start shortContext).serve defaultingRequest).1 =
        .error (place (.unsupportedLiteral "NullLiteral")) ∧
      (session.serve defaultingRequest).1 =
        .error (place (.timeout Options.standard.timeoutMs)) ∧
      ∃ module mark,
        (module = defaultingRequest.module ∨
          module ∈ (session.serve defaultingRequest).2.memory.modules) ∧
        (.node mark ∈ programEvents module.program ∨
          module = defaultingRequest.module ∧ .node mark ∈ exprEvents defaultingRequest.value) ∧
        (place (.timeout Options.standard.timeoutMs)).PointsTo module mark := by
  intro session place
  have failed : (session.serve defaultingRequest).1 =
      .error (place (.timeout Options.standard.timeoutMs)) := by rfl
  exact ⟨rfl, failed, failure_points_into_module _ [defaultingRequest] rfl failed⟩

end Session

end QueryTypes.Resolution
