import QueryTypes.Proofs.Resolution.CallGuard
import QueryTypes.Proofs.Resolution.Lexical
import QueryTypes.Proofs.Resolution.Termination

/-!
Evaluation where nothing is called and no module re-exports everything of another one.

There is no frame then, every failure of a request is handed on, and what a step requests depends
on its goal alone. What was visited decides only whether the step is refused, so two evaluations of
one goal are planned in parallel, whatever each of them has visited and guards against.
-/

set_option autoImplicit false

namespace QueryTypes.Resolution

open QueryTypes.Script
open QueryTypes.Source
open QueryTypes.Scoping
open QueryTypes.Modules

/-! ### Modules and goals without calls -/

mutual

/-- No call is evaluated as a part of an expression. Functions are not entered, and of all other
expressions only templates are taken apart. -/
def callFree : Expr → Bool
  | .call _ _ _ _ => false
  | .tagged _ _ parts => partsCallFree parts
  | .template _ parts => partsCallFree parts
  | _ => true

def partsCallFree : List TemplatePart → Bool
  | [] => true
  | .chunk _ :: rest => partsCallFree rest
  | .substitution value :: rest => callFree value && partsCallFree rest

end

private theorem callFree_of_substitution {parts : List TemplatePart}
    (free : partsCallFree parts = true) {value : Expr} (present : .substitution value ∈ parts) :
    callFree value = true := by
  induction parts with
  | nil => cases present
  | cons part rest ih =>
      cases part with
      | chunk text =>
          exact ih free ((List.mem_cons.mp present).resolve_left TemplatePart.noConfusion)
      | substitution first =>
          rw [partsCallFree, Bool.and_eq_true] at free
          rcases List.mem_cons.mp present with same | later
          · cases same
            exact free.1
          · exact ih free.2 later

/-- Whatever a module's variables are initialized with, in any scope, is free of calls, and so is
its default export. Nothing else in a module is ever evaluated. -/
structure CallFree (module : Module) : Prop where
  initializers : ∀ known ∈ declaredIn module, ∀ definition ∈ known.definitions,
    ∀ value ∈ definition.initializer?, callFree value = true
  defaultExport : ∀ value, defaultExport? module.body = some (.expression value) →
    callFree value = true

/-- Modules that evaluation does not leave. They are free of calls and re-export nothing as a
whole, and their paths tell them apart. -/
structure CallFreeAmong (host : Host) (held : Module → Prop) : Prop where
  formed : ∀ module, held module → WellFormed module
  free : ∀ module, held module → CallFree module
  unrelayed : ∀ module, held module → wildcardSources module.body = []
  resolved : ∀ specifier importer found, host.fetch specifier importer = .ok found → held found
  apart : ∀ first second, held first → held second → first.path = second.path → first = second

namespace Goal

inductive Plain (held : Module → Prop) : Goal → Prop
  | expression {value : Expr} {environment : Environment} : held environment.module →
      environment.frame = none → callFree value = true →
        Belongs environment.module.program (exprEvents value) →
          Plain held (.expression value environment)
  | exported {target requester : Module} {name : String} {loc : Loc} : held target →
      Plain held (.exported target name requester loc)

def Own : Goal → Prop
  | .expression value environment => exprEvents value <:+: programEvents environment.module.program
  | .exported _ _ _ _ => True

def entering : Goal → Visited → Visited
  | .expression (.identifier mark _) environment, visited =>
      { visited with identifiers := ⟨⟨environment.module.path, mark.id⟩, environment.scope,
          environment.frame.map (·.trail)⟩ :: visited.identifiers }
  | .exported target name _ _, visited =>
      { visited with exports := ⟨target.path, name⟩ :: visited.exports }
  | _, visited => visited

def Repeats (visited : Visited) : Goal → Prop
  | .expression (.identifier mark _) environment =>
      ⟨⟨environment.module.path, mark.id⟩, environment.scope,
        environment.frame.map (·.trail)⟩ ∈ visited.identifiers
  | .exported target name _ _ => ⟨target.path, name⟩ ∈ visited.exports
  | _ => False

/-- What the goal may request: parts of modules, or, as long as nothing is noted, parts of the
expression that evaluation started with. -/
def Leads (held : Module → Prop) (goal inner : Goal) : Prop :=
  inner.Plain held ∧ (inner.Own ∨ ¬ goal.Own ∧ ∀ visited, goal.entering visited = visited)

end Goal

def Guards.none : Guards := ⟨false, false, false⟩

/-! ### Two plans in parallel -/

structure Context.Alike (left right : Context) : Prop where
  host : left.host = right.host
  time : left.options.timeoutMs = right.options.timeoutMs

def Cause.isCycle : Cause → Bool
  | .circularReference _ | .circularExport _ _ => true
  | _ => false

/-- Two plans that request the same, one after the other, each with what it has visited itself.
Every failure of a request is handed on, and no failure of their own is a cycle. -/
inductive Plan.Parallel (inside : Goal → Prop) (first second : Visited) : Plan → Plan → Prop
  | finish {result : Except Failure Value}
      (straight : ∀ failure, result = .error failure → failure.cause.isCycle = false) :
      Parallel inside first second (.finish result) (.finish result)
  | timed {late : Failure} {left right : Plan} (rest : Parallel inside first second left right) :
      Parallel inside first second (.timed late left) (.timed late right)
  | load {path : String} {left right : Plan} (rest : Parallel inside first second left right) :
      Parallel inside first second (.load path left) (.load path right)
  | ask {goal : Goal} {left right : Except Failure Value → Plan} (asked : inside goal)
      (leftPasses : ∀ failure, left (.error failure) = .fail failure)
      (rightPasses : ∀ failure, right (.error failure) = .fail failure)
      (rest : ∀ value, Parallel inside first second (left (.ok value)) (right (.ok value))) :
      Parallel inside first second (.ask goal first left) (.ask goal second right)

namespace Plan.Parallel

variable {inside : Goal → Prop} {first second : Visited}

theorem answer (value : Value) : Parallel inside first second (.answer value) (.answer value) :=
  .finish nofun

theorem fail {failure : Failure} (straight : failure.cause.isCycle = false) :
    Parallel inside first second (.fail failure) (.fail failure) := by
  refine .finish fun other same => ?_
  cases same
  exact straight

theorem become {goal : Goal} (asked : inside goal) :
    Parallel inside first second (.become goal first) (.become goal second) :=
  .ask asked (fun _ => rfl) (fun _ => rfl) fun _ => .finish nofun

theorem withModule {left right : Context} (alike : left.Alike right) {specifier : String}
    {importer : Module} {loc : Loc} {next other : Module → Plan}
    (rest : ∀ found, right.host.fetch specifier importer.path = .ok found →
      Parallel inside first second (next found) (other found)) :
    Parallel inside first second (.withModule left specifier importer loc next)
      (.withModule right specifier importer loc other) := by
  unfold Plan.withModule
  rw [alike.host, alike.time]
  refine .timed ?_
  cases fetched : right.host.fetch specifier importer.path with
  | ok found => exact .load (rest found fetched)
  | error message => exact .fail rfl

theorem template {environment : Environment} {parts : List TemplatePart}
    (asked : ∀ value, .substitution value ∈ parts → inside (.expression value environment))
    (before : String) :
    Parallel inside first second (.template environment first before parts)
      (.template environment second before parts) := by
  induction parts generalizing before with
  | nil => exact .answer _
  | cons part rest ih =>
      have later := ih fun value present => asked value (List.mem_cons_of_mem _ present)
      cases part with
      | chunk text => exact later _
      | substitution value =>
          refine .ask (asked value List.mem_cons_self) (fun _ => rfl) (fun _ => rfl) ?_
          intro answered
          cases answered with
          | text text => exact later _
          | function closure => exact .fail rfl

end Plan.Parallel

/-! ### What one step requests -/

section Step

variable {host : Host} {held : Module → Prop} {inside : Goal → Prop} {first second : Visited}

private theorem initializer?_inside {definition : Definition} {program : Program} {scope : ScopeId}
    (grounded : Grounded program scope definition) {value : Expr}
    (initialized : definition.initializer? = some value) :
    exprEvents value <:+: programEvents program := by
  cases definition with
  | declarator declaration index =>
      obtain ⟨_, _, _, walk, ⟨before, after, split, _⟩, _⟩ := grounded
      obtain ⟨declarator, present, initializer⟩ := Option.bind_eq_some_iff.mp initialized
      refine (initializer_inside (List.mem_of_getElem? present) initializer).trans ?_
      exact ⟨before, after, split.symm⟩
  | importBinding _ _ _ _ => cases initialized
  | functionName _ _ => cases initialized
  | parameter _ _ => cases initialized
  | catchParameter _ => cases initialized

/-- What a variable is initialized with is a part of its module that is free of calls. -/
theorem CallFreeAmong.initializer (among : CallFreeAmong host held) {module : Module}
    (within : held module) {id : ScopeId} {name : String} {known : Variable}
    (found : module.scopes.declared? id name = some known) {definition : Definition}
    (defines : definition ∈ known.definitions) {value : Expr}
    (initialized : definition.initializer? = some value) :
    callFree value = true ∧ exprEvents value <:+: programEvents module.program := by
  refine ⟨(among.free module within).initializers known (declared?_mem found) definition
    defines value initialized, ?_⟩
  rw [(among.formed module within).scopes] at found
  exact initializer?_inside ((declared?_grounded found).2 definition defines) initialized

/-- The value of a variable, outside of any call. -/
theorem declared_parallel {left right : Context}
    (among : CallFreeAmong right.host held) (alike : left.Alike right) (environment : Environment)
    (within : held environment.module) (outside : environment.frame = none) {id : ScopeId}
    {name : String} {known : Variable}
    (found : environment.module.scopes.declared? id name = some known) (loc : Loc)
    (asked : ∀ goal : Goal, goal.Plain held → goal.Own → inside goal) :
    Plan.Parallel inside first second (.declared left known loc environment first)
      (.declared right known loc environment second) := by
  unfold Plan.declared
  dsimp only
  cases last : known.definitions.getLast? with
  | none => exact .fail rfl
  | some definition =>
      have defines := List.mem_of_getLast? last
      cases definition with
      | declarator declaration index =>
          dsimp only
          cases single : declaration.declarators[index]? with
          | none => exact .fail rfl
          | some declarator =>
              obtain ⟨pattern, initializer⟩ := declarator
              dsimp only
              unfold Plan.declarator
              cases pattern with
              | name binding =>
                  cases initializer with
                  | none => exact .fail rfl
                  | some value =>
                      have initialized : (Definition.declarator declaration index).initializer? =
                          some value := Option.bind_eq_some_iff.mpr ⟨_, single, rfl⟩
                      obtain ⟨free, own⟩ := among.initializer within found defines initialized
                      exact .become (asked _ (.expression within outside free (.inl own)) own)
              | array _ _ _ => exact .fail rfl
              | object _ _ _ => exact .fail rfl
      | importBinding declaration kind imported localName =>
          dsimp only
          split
          · exact .fail rfl
          · refine .withModule alike fun target resolved => ?_
            exact .become (asked _ (.exported (among.resolved _ _ _ resolved)) trivial)
      | functionName _ function => exact .answer _
      | parameter _ _ =>
          dsimp only
          unfold Plan.parameter
          rw [outside]
          exact .fail rfl
      | catchParameter _ => exact .fail rfl

def Goal.Passes (guards : Guards) (visited : Visited) (goal : Goal) : Prop :=
  guards = .none ∨ guards = .all ∧ ¬ goal.Repeats visited

private theorem Visited.enterIdentifier_of_passes {guards : Guards} {visited : Visited}
    {key : IdentifierKey} (passes : guards = .none ∨ guards = .all ∧ key ∉ visited.identifiers) :
    visited.enterIdentifier guards key =
      some { visited with identifiers := key :: visited.identifiers } := by
  unfold enterIdentifier
  rcases passes with rfl | ⟨rfl, new⟩
  · rfl
  · simp [new]

theorem Visited.enterExport_of_passes {guards : Guards} {visited : Visited} {key : ExportKey}
    (passes : guards = .none ∨ guards = .all ∧ key ∉ visited.exports) :
    visited.enterExport guards key = some { visited with exports := key :: visited.exports } := by
  unfold enterExport
  rcases passes with rfl | ⟨rfl, new⟩
  · rfl
  · simp [new]

private theorem exportEntry_parallel {left right : Context}
    (among : CallFreeAmong right.host held) (alike : left.Alike right) {target : Module}
    (within : held target) (entry : ExportName) (source : Option String)
    (asked : ∀ goal : Goal, goal.Plain held → goal.Own → inside goal) :
    Plan.Parallel inside first second (.exportEntry left target entry source first)
      (.exportEntry right target entry source second) := by
  unfold Plan.exportEntry
  cases source with
  | some source =>
      refine .withModule alike fun found resolved => ?_
      exact .become (asked _ (.exported (among.resolved _ _ _ resolved)) trivial)
  | none =>
      dsimp only
      cases declared : target.scopes.declared? ScopeTree.root entry.target with
      | none => exact .fail rfl
      | some known =>
          exact declared_parallel among alike (.ofModule target) within
            rfl declared entry.mark.loc asked

private theorem namedExport_parallel {left right : Context}
    (among : CallFreeAmong right.host held) (alike : left.Alike right) {target : Module}
    (within : held target) (name : String) {missing : Failure}
    (straight : missing.cause.isCycle = false)
    (asked : ∀ goal : Goal, goal.Plain held → goal.Own → inside goal) :
    Plan.Parallel inside first second (.namedExport left target name first missing)
      (.namedExport right target name second missing) := by
  unfold Plan.namedExport
  cases declared : target.scopes.declared? ScopeTree.root name with
  | some known =>
      exact declared_parallel among alike (.ofModule target) within rfl
        declared target.program.mark.loc asked
  | none =>
      cases listed : exportEntry? target.body name with
      | some found => exact exportEntry_parallel among alike within _ _ asked
      | none =>
          dsimp only
          rw [among.unrelayed target within]
          exact .fail straight

private theorem exported_parallel {left right : Context}
    (among : CallFreeAmong right.host held) (alike : left.Alike right) {target : Module}
    (within : held target) (name : String) (requester : Module) (loc : Loc)
    (leftPasses : (Goal.exported target name requester loc).Passes left.guards first)
    (rightPasses : (Goal.exported target name requester loc).Passes right.guards second)
    (asked : ∀ goal : Goal, goal.Plain held → goal.Own → inside goal) :
    Plan.Parallel inside
      ((Goal.exported target name requester loc).entering first)
      ((Goal.exported target name requester loc).entering second)
      (.exported left target name requester loc first)
      (.exported right target name requester loc second) := by
  unfold Plan.exported Goal.entering
  rw [Visited.enterExport_of_passes leftPasses, Visited.enterExport_of_passes rightPasses]
  dsimp only
  have inBody {value : Expr} (default : defaultExport? target.body = some (.expression value)) :
      exprEvents value <:+: programEvents target.program :=
    (defaultExpression_inside default).trans (List.infix_cons (List.infix_refl _))
  split
  · rename_i value provided
    split at provided
    · have own := inBody provided
      exact .become (asked _ (.expression within rfl
        ((among.free target within).defaultExport value provided) (.inl own)) own)
    · cases provided
  · exact .answer _
  · exact namedExport_parallel among alike within name rfl asked

private theorem identifier_parallel {left right : Context}
    (among : CallFreeAmong right.host held) (alike : left.Alike right) {environment : Environment}
    (within : held environment.module) (outside : environment.frame = none) (mark : Mark)
    (name : String)
    (leftPasses : (Goal.expression (.identifier mark name) environment).Passes left.guards first)
    (rightPasses : (Goal.expression (.identifier mark name) environment).Passes right.guards second)
    (asked : ∀ goal : Goal, goal.Plain held → goal.Own → inside goal) :
    Plan.Parallel inside
      ((Goal.expression (.identifier mark name) environment).entering first)
      ((Goal.expression (.identifier mark name) environment).entering second)
      (.identifier left mark name environment first)
      (.identifier right mark name environment second) := by
  unfold Plan.identifier Goal.entering
  dsimp only
  rw [Visited.enterIdentifier_of_passes leftPasses, Visited.enterIdentifier_of_passes rightPasses]
  dsimp only
  cases found : environment.lookup name with
  | none => exact .fail rfl
  | some known =>
      obtain ⟨scope, declared⟩ := lookup_declared found
      exact declared_parallel among alike environment within outside declared mark.loc
        asked

/-- Two evaluations of a goal that their guards let pass are planned in parallel. -/
theorem Task.plan_parallel (among : CallFreeAmong host held) (options : Options) (clock : Clock)
    {guards others : Guards} {goal : Goal} (plain : goal.Plain held)
    (leftPasses : goal.Passes guards first) (rightPasses : goal.Passes others second)
    (trail other : Trail) :
    Plan.Parallel (goal.Leads held) (goal.entering first) (goal.entering second)
      (Task.plan ⟨host, options, guards, clock⟩ ⟨goal, first, trail⟩)
      (Task.plan ⟨host, options, others, clock⟩ ⟨goal, second, other⟩) := by
  unfold Task.plan
  have alike : Context.Alike ⟨host, options, guards, clock⟩ ⟨host, options, others, clock⟩ :=
    ⟨rfl, rfl⟩
  have asked (inner : Goal) (plainly : inner.Plain held) (own : inner.Own) :
      goal.Leads held inner := ⟨plainly, .inl own⟩
  cases plain with
  | @exported target requester name loc within =>
      exact exported_parallel among alike within name requester loc leftPasses rightPasses asked
  | @expression value environment within outside free belongs =>
      -- Parts of templates are requested in the same place, and nothing is noted for that.
      have taken {parts : List TemplatePart}
          (partsFree : partsCallFree parts = true)
          (partsInside : partsEvents parts <:+: exprEvents value)
          (unnoted : ∀ visited, (Goal.expression value environment).entering visited = visited)
          (part : Expr) (present : .substitution part ∈ parts) :
          (Goal.expression value environment).Leads held (.expression part environment) := by
        have here := (substitution_inside present).trans partsInside
        refine ⟨.expression within outside (callFree_of_substitution partsFree present)
          (belongs.part here), ?_⟩
        by_cases own : (Goal.expression value environment).Own
        · exact .inl (here.trans own)
        · exact .inr ⟨own, unnoted⟩
      cases value with
      | identifier mark name =>
          exact identifier_parallel among alike within outside mark name leftPasses rightPasses
            asked
      | template mark parts =>
          refine .template (taken free ?_ fun _ => rfl) ""
          rw [exprEvents]
          exact List.infix_cons (List.infix_refl _)
      | tagged mark tag parts =>
          have inTagged : partsEvents parts <:+: exprEvents (.tagged mark tag parts) := by
            rw [exprEvents]
            exact List.infix_cons List.infix_append_right
          cases tag with
          | identifier tagMark name =>
              unfold Plan.expression
              dsimp only
              split
              · exact .template (taken free inTagged fun _ => rfl) ""
              · exact .fail rfl
          | _ => exact .fail rfl
      | call mark optional callee arguments => cases free
      | arrow mark function => exact .answer _
      | function mark name function => exact .answer _
      | string mark text => exact .answer _
      | number mark number => exact .answer _
      | boolean mark truth => exact .answer _
      | bigInteger mark digits => exact .answer _
      | null mark => exact .fail rfl
      | regex mark pattern => exact .fail rfl
      | binary mark operator left right => exact .fail rfl
      | member mark optional object property => exact .fail rfl
      | array mark elements => exact .fail rfl
      | object mark members => exact .fail rfl

/-- A goal that is noted as visited is refused. -/
theorem Task.plan_refused (host : Host) (options : Options) (clock : Clock) {goal : Goal}
    {visited : Visited} (repeated : goal.Repeats visited) (trail : Trail) :
    ∃ failure, failure.cause.isCycle = true ∧
      Task.plan ⟨host, options, .all, clock⟩ ⟨goal, visited, trail⟩ = .fail failure := by
  cases goal with
  | exported target name requester loc =>
      have known : (⟨target.path, name⟩ : ExportKey) ∈ visited.exports := repeated
      have refused : visited.enterExport .all ⟨target.path, name⟩ = none := by
        simp [Visited.enterExport, Guards.all, known]
      refine ⟨.within requester loc (.circularExport name target.path), rfl, ?_⟩
      simp only [plan, Plan.exported, refused]
  | expression value environment =>
      cases value with
      | identifier mark name =>
          have known : (⟨⟨environment.module.path, mark.id⟩, environment.scope,
              environment.frame.map (·.trail)⟩ : IdentifierKey) ∈ visited.identifiers := repeated
          refine ⟨environment.failure mark.loc (.circularReference name), rfl, ?_⟩
          simp only [plan, Plan.expression, Plan.identifier, Visited.enterIdentifier,
            Guards.all, Bool.true_and, List.contains_eq_mem, known, decide_true, if_true]
      | _ => exact repeated.elim

end Step

end QueryTypes.Resolution
