import QueryTypes.Proofs.Resolution.Memory
import QueryTypes.Proofs.Resolution.Renaming

/-!
Steps with a memory beside steps without one.

Both request the same evaluations and make the same frames under different names. So what a step
with a memory comes to, whatever the memory held before, is what its plan comes to with the frames
renamed. This is shown here of each step, as long as it holds of the evaluations it requests.
-/

set_option autoImplicit false

namespace QueryTypes.Resolution

open QueryTypes.Script
open QueryTypes.Source
open QueryTypes.Scoping
open QueryTypes.Modules

def renameResult (names : Trail → Trail) : Except Failure Value → Except Failure Value
  | .ok value => .ok (value.rename names)
  | .error failure => .error failure

/-- The clock says the same below two trails. -/
structure Context.Concurs (context : Context) (here there : Trail) : Prop where
  start : ∀ deeper, context.expired (.start (deeper ++ here)) =
    context.expired (.start (deeper ++ there))
  fetch : ∀ deeper, context.expired (.fetch (deeper ++ here)) =
    context.expired (.fetch (deeper ++ there))

namespace Context.Concurs

variable {context : Context} {here there : Trail}

theorem refl (context : Context) (trail : Trail) : context.Concurs trail trail :=
  ⟨fun _ => rfl, fun _ => rfl⟩

theorem of_unhurried (running : context.Unhurried) (here there : Trail) :
    context.Concurs here there :=
  ⟨fun _ => (running _).trans (running _).symm, fun _ => (running _).trans (running _).symm⟩

theorem request (concurs : context.Concurs here there) (number : Nat) :
    context.Concurs (number :: here) (number :: there) where
  start := fun deeper => by simpa using concurs.start (deeper ++ [number])
  fetch := fun deeper => by simpa using concurs.fetch (deeper ++ [number])

end Context.Concurs

/-- A step with the memory at hand, taken on one trail, comes to what a plan comes to when it is
followed on a trail of which the clock says the same, its frames being renamed to the ways to them.
The number is that of the next request. -/
def Tracks (context : Context) (budget : Nat) (own : Bool) (here : Trail) (count : Nat)
    (run : Run Value) (plan : (Trail → Trail) → Trail → Plan) : Prop :=
  ∀ (memory : Memory) (there : Trail), context.Concurs here there → memory.Sound context.host →
    memory.depth + budget = context.options.maxDepth →
      ∃ made loaded, memory.Grows context.host made.length loaded (run memory).2 ∧
        Spread own there count made ∧
          ∀ names, Function.Injective names → Assigns names memory.nextFrame made →
            (plan names there).follow context.expired (solve context budget) there count =
              ⟨renameResult names (run memory).1, loaded⟩

def Answers (context : Context) (budget : Nat) (here : Trail)
    (evaluate : Goal → Visited → Run Value) : Prop :=
  ∀ (goal : Goal) (visited : Visited) (memory : Memory) (there : Trail),
    context.Concurs here there → memory.Sound context.host →
      memory.depth + budget = context.options.maxDepth →
        ∃ made loaded,
          memory.Grows context.host made.length loaded (evaluate goal visited memory).2 ∧
            made.Nodup ∧ (∀ way ∈ made, there <:+ way) ∧
              ∀ names, Function.Injective names → Assigns names memory.nextFrame made →
                solve context budget ⟨goal.rename names, visited.rename names, there⟩ =
                  ⟨renameResult names (evaluate goal visited memory).1, loaded⟩

namespace Tracks

variable {context : Context} {budget : Nat} {own : Bool} {here : Trail} {count : Nat}
  {run : Run Value} {plan : (Trail → Trail) → Trail → Plan}

/-! ### Ways to go on -/

theorem congr {other : (Trail → Trail) → Trail → Plan}
    (tracks : Tracks context budget own here count run other)
    (same : ∀ names, Function.Injective names → ∀ trail, plan names trail = other names trail) :
    Tracks context budget own here count run plan := by
  intro memory there concurs sound depth
  obtain ⟨made, loaded, grows, spread, follows⟩ := tracks memory there concurs sound depth
  refine ⟨made, loaded, grows, spread, fun names injective assigns => ?_⟩
  rw [same names injective]
  exact follows names injective assigns

theorem finish (result : Except Failure Value) :
    Tracks context budget own here count (fun memory => (result, memory)) fun names _ =>
      .finish (renameResult names result) :=
  fun _ _ _ sound _ => ⟨[], [], .refl sound, .nil, fun _ _ _ => rfl⟩

theorem answer (value : Value) :
    Tracks context budget own here count (pure value) fun names _ => .answer (value.rename names) :=
  finish (.ok value)

theorem fail (failure : Failure) :
    Tracks context budget own here count (throw failure) fun _ _ => .fail failure :=
  finish (.error failure)

/-- The frame that a step makes for itself comes before those of its requests. -/
theorem frame {next : Trail → Run Value} (rest : (Trail → Trail) → Trail → Trail → Plan)
    (continued : ∀ number, Tracks context budget false here count (next [number])
      fun names trail => rest names trail (names [number])) :
    Tracks context budget true here count (Run.freshTrail >>= next) fun names trail =>
      rest names trail trail := by
  intro memory there concurs sound depth
  obtain ⟨made, loaded, grows, spread, follows⟩ := continued memory.nextFrame
    { memory with nextFrame := memory.nextFrame + 1 } there concurs sound depth
  rw [Run.bind_apply, Run.freshTrail_apply]
  refine ⟨there :: made, loaded, ⟨grows.sound, grows.paths, ?_, grows.depth⟩,
    spread.after_frame, ?_⟩
  · exact grows.nextFrame.trans (Nat.succ_add_eq_add_succ _ _)
  · intro names injective assigns
    have named : names [memory.nextFrame] = there := assigns 0 there rfl
    have later : Assigns names memory.nextFrame ([there] ++ made) := assigns
    have followed := follows names injective later.right
    simp only [named] at followed
    exact followed

section Requests

variable {evaluate : Goal → Visited → Run Value}

/-- A request and what comes after it. -/
theorem ask (answers : Answers context budget (count :: here) evaluate) {goal : Goal}
    {visited : Visited} (next : Except Failure Value → Run Value)
    (taken : ∀ memory, run memory =
      next (evaluate goal visited memory).1 (evaluate goal visited memory).2)
    {rest : (Trail → Trail) → Trail → Except Failure Value → Plan}
    (continued : ∀ answer, Tracks context budget own here (count + 1) (next answer)
      fun names trail => rest names trail (renameResult names answer)) :
    Tracks context budget own here count run fun names trail =>
      .ask (goal.rename names) (visited.rename names) (rest names trail) := by
  intro memory there concurs sound depth
  obtain ⟨made, loaded, grows, distinct, below, solves⟩ :=
    answers goal visited memory (count :: there) (concurs.request count) sound depth
  obtain ⟨later, loadedLater, growsLater, spread, follows⟩ :=
    continued (evaluate goal visited memory).1 (evaluate goal visited memory).2 there concurs
      grows.sound (by rw [grows.depth, depth])
  rw [taken]
  refine ⟨made ++ later, loaded ++ loadedLater, ?_, .after_request distinct below spread, ?_⟩
  · rw [List.length_append]
    exact grows.trans growsLater
  · intro names injective assigns
    -- The frames of the request are numbered first, those of what comes after it from there on.
    have assignsLater := assigns.right
    rw [← grows.nextFrame] at assignsLater
    have followed := follows names injective assignsLater
    unfold Plan.follow
    dsimp only
    rw [solves names injective assigns.left, followed]
    rfl

theorem become (answers : Answers context budget (count :: here) evaluate) (goal : Goal)
    (visited : Visited) :
    Tracks context budget own here count (evaluate goal visited) fun names _ =>
      .become (goal.rename names) (visited.rename names) :=
  ask answers (fun result memory => (result, memory)) (fun _ => rfl) finish

theorem withValue (answers : Answers context budget (count :: here) evaluate) (goal : Goal)
    {visited : Visited} {next : Value → Run Value}
    {rest : (Trail → Trail) → Trail → Value → Plan}
    (continued : ∀ value, Tracks context budget own here (count + 1) (next value)
      fun names trail => rest names trail (value.rename names)) :
    Tracks context budget own here count (evaluate goal visited >>= next) fun names trail =>
      .withValue (goal.rename names) (visited.rename names) (rest names trail) := by
  refine ask answers (fun
    | .ok value => next value
    | .error failure => throw failure) ?_ ?_
  · intro memory
    rw [Run.bind_apply]
    rcases evaluate goal visited memory with ⟨answer | failure, after⟩ <;> rfl
  · intro answer
    cases answer with
    | ok value => exact continued value
    | error failure => exact fail failure

/-- A request whose failure need not be the end. -/
theorem caught (answers : Answers context budget (count :: here) evaluate) (goal : Goal)
    {visited : Visited} {handle : Failure → Run Value}
    {rest : (Trail → Trail) → Trail → Except Failure Value → Plan}
    (found : ∀ names trail value, rest names trail (.ok value) = .answer value)
    (handled : ∀ failure, Tracks context budget own here (count + 1) (handle failure)
      fun names trail => rest names trail (.error failure)) :
    Tracks context budget own here count (tryCatch (evaluate goal visited) handle)
      fun names trail =>
      .ask (goal.rename names) (visited.rename names) (rest names trail) := by
  refine ask answers (fun
    | .ok value => pure value
    | .error failure => handle failure) ?_ ?_
  · intro memory
    rw [Run.tryCatch_apply]
    rcases evaluate goal visited memory with ⟨answer | failure, after⟩ <;> rfl
  · intro result
    cases result with
    | ok value => exact (answer value).congr fun names _ trail => found names trail _
    | error failure => exact handled failure

end Requests

/-- A module that a step needs, which may be known already. -/
theorem withModule {specifier : String} {importer : Module} {loc : Loc} {next : Module → Run Value}
    {rest : (Trail → Trail) → Trail → Module → Plan}
    (continued : ∀ found, Tracks context budget own here count (next found) fun names trail =>
      rest names trail found) :
    Tracks context budget own here count
      (Run.fetch context (.fetch (count :: here)) specifier importer loc >>= next)
      fun names trail => .withModule context specifier importer loc (rest names trail) := by
  intro memory there concurs sound depth
  have sameTime := (concurs.request count).fetch []
  rw [List.nil_append, List.nil_append] at sameTime
  rw [Run.bind_apply]
  unfold Plan.withModule
  cases elapsed : context.expired (.fetch (count :: here)) with
  | true =>
      rw [Run.fetch_late elapsed]
      refine ⟨[], [], .refl sound, .nil, fun names _ _ => ?_⟩
      rw [Plan.follow_timed_of_late (sameTime.symm.trans elapsed)]
      rfl
  | false =>
      have running := sameTime.symm.trans elapsed
      cases fetched : context.host.fetch specifier importer.path with
      | error message =>
          rw [Run.fetch_error elapsed fetched loc sound]
          refine ⟨[], [], .refl sound, .nil, fun names _ _ => ?_⟩
          rw [Plan.follow_timed running]
          rfl
      | ok found =>
          obtain ⟨after, given, grows⟩ := Run.fetch_grows elapsed fetched loc sound
          obtain ⟨made, loaded, growsLater, spread, follows⟩ :=
            continued found after there concurs grows.sound (by rw [grows.depth, depth])
          rw [given]
          have growsAll := grows.trans growsLater
          rw [Nat.zero_add] at growsAll
          refine ⟨made, found.path :: loaded, growsAll, spread, fun names injective assigns => ?_⟩
          rw [← Nat.add_zero memory.nextFrame, ← grows.nextFrame] at assigns
          have followed := follows names injective assigns
          rw [Plan.follow_timed running]
          unfold Plan.follow
          dsimp only
          rw [followed]
          rfl

end Tracks

/-! ### Steps -/

section Steps

variable {context : Context} {budget : Nat} {own : Bool} {here : Trail} {count : Nat}
  {evaluate : Nat → Goal → Visited → Run Value}

private theorem failure_tracks (environment : Environment) (loc : Loc) (cause : Cause) :
    Tracks context budget own here count (throw (environment.failure loc cause)) fun names _ =>
      .fail ((environment.rename names).failure loc cause) := by
  simp only [Environment.rename_failure]
  exact .fail _

private theorem function_tracks (function : Function) (environment : Environment) :
    Tracks context budget own here count
      (pure (.function ⟨function, environment.module, environment.frame⟩)) fun names _ =>
        .answer (.function ⟨function, (environment.rename names).module,
          (environment.rename names).frame⟩) := by
  simp only [Environment.rename_module, Environment.rename_frame]
  exact .answer (.function ⟨function, environment.module, environment.frame⟩)

private theorem Plan.identifier_rename {names : Trail → Trail}
    (injective : Function.Injective names) (mark : Mark) (name : String) (environment : Environment)
    (visited : Visited) :
    Plan.identifier context mark name (environment.rename names) (visited.rename names) =
      (visited.enterIdentifier context.guards ⟨⟨environment.module.path, mark.id⟩,
        environment.scope, environment.frame.map (·.trail)⟩).elim
        (.fail ((environment.rename names).failure mark.loc (.circularReference name)))
        fun entered => (environment.lookup name).elim
          (.fail ((environment.rename names).failure mark.loc (.unboundIdentifier name)))
          fun found => .declared context found mark.loc (environment.rename names)
            (entered.rename names) := by
  have entering := Visited.enterIdentifier_rename injective visited context.guards
    ⟨⟨environment.module.path, mark.id⟩, environment.scope, environment.frame.map (·.trail)⟩
  unfold IdentifierKey.rename at entering
  unfold Plan.identifier
  dsimp only at entering ⊢
  rw [Environment.rename_module, Environment.rename_scope, Environment.rename_trail,
    Environment.rename_lookup, entering]
  cases visited.enterIdentifier context.guards _ with
  | none => rfl
  | some entered => cases environment.lookup name <;> rfl

variable (answers : ∀ number, Answers context budget (number :: here) (evaluate number))

include answers

private theorem template_tracks (environment : Environment) (visited : Visited) (before : String)
    (parts : List TemplatePart) :
    Tracks context budget own here count (Run.template evaluate environment visited
      count before parts)
      fun names _ =>
        .template (environment.rename names) (visited.rename names) before parts := by
  induction parts generalizing before count with
  | nil => exact .answer (.text before)
  | cons part rest ih =>
      cases part with
      | chunk text => exact ih (before ++ text)
      | substitution value =>
          refine Tracks.withValue (answers count) (.expression value environment) fun found => ?_
          cases found with
          | text text => exact ih (before ++ text)
          | function closure => exact failure_tracks environment value.loc .notText

private theorem parameter_tracks (parameter : Variable) (loc : Loc) (environment : Environment)
    (visited : Visited) :
    Tracks context budget own here 0 (Run.parameter evaluate parameter loc environment visited)
      fun names _ =>
        .parameter parameter loc (environment.rename names) (visited.rename names) := by
  have sought (names : Trail → Trail) := Environment.find?_rename names
    (fun frame => frame.functionScope == parameter.scope &&
      frame.module.path == environment.module.path)
    (fun frame => by rw [Frame.rename_functionScope, Frame.rename_module]) environment
  unfold Run.parameter Plan.parameter
  simp only [Environment.rename_module, sought]
  cases environment.frame.bind (Frame.find? fun frame =>
    frame.functionScope == parameter.scope && frame.module.path == environment.module.path) with
  | none => exact failure_tracks environment loc _
  | some frame =>
      simp only [Option.map_some, Frame.rename_bindings, lookup_rename]
      cases frame.bindings.lookup parameter.name with
      | none => exact failure_tracks environment loc _
      | some actual =>
          cases actual with
          | argument value caller =>
              simp only [Option.map_some, Actual.rename_argument]
              exact .become (answers 0) (.expression value caller) visited
          | default value =>
              simp only [Option.map_some, Actual.rename_default]
              refine (Tracks.become (answers 0)
                (.expression value ⟨frame.module, frame.functionScope, some frame⟩) visited).congr
                  fun names _ _ => ?_
              simp only [Goal.rename, Environment.rename_mk, Option.map_some, Frame.rename_module,
                Frame.rename_functionScope]

private theorem declarator_tracks (declared : Variable) (declaration : VariableDeclaration)
    (declarator : Declarator) (environment : Environment) (visited : Visited) :
    Tracks context budget own here 0
      (Run.declarator evaluate declared declaration declarator environment visited) fun names _ =>
        .declarator declared declaration declarator (environment.rename names)
          (visited.rename names) := by
  unfold Run.declarator Plan.declarator
  simp only [Environment.rename_module, ← Environment.rename_withScope]
  obtain ⟨pattern, initializer⟩ := declarator
  cases pattern with
  | name binding =>
      cases initializer with
      | some value => exact .become (answers 0) _ visited
      | none => exact failure_tracks environment _ _
  | array _ _ _ => exact failure_tracks environment _ _
  | object _ _ _ => exact failure_tracks environment _ _

private theorem declared_tracks (declared : Variable) (loc : Loc) (environment : Environment)
    (visited : Visited) :
    Tracks context budget own here 0 (Run.declared context here evaluate declared loc
      environment visited)
      fun names _ =>
        .declared context declared loc (environment.rename names) (visited.rename names) := by
  unfold Run.declared Plan.declared
  simp only [Environment.rename_module]
  cases declared.definitions.getLast? with
  | none => exact failure_tracks environment loc _
  | some definition =>
      cases definition with
      | declarator declaration index =>
          dsimp only
          cases declaration.declarators[index]? with
          | none => exact failure_tracks environment loc _
          | some found => exact declarator_tracks answers declared declaration found _ visited
      | importBinding declaration kind imported localName =>
          dsimp only
          by_cases everything : kind = .everything
          · simp only [everything, if_true]
            exact failure_tracks environment _ _
          · simp only [everything, if_false]
            exact .withModule fun target =>
              .become (answers 0)
                (.exported target imported environment.module localName.mark.loc) _
      | functionName mark function =>
          refine (Tracks.answer (.function ⟨function, environment.module, environment.frame⟩)).congr
            fun names _ _ => ?_
          simp only [Value.rename, Closure.rename, Environment.rename_frame]
      | parameter mark name => exact parameter_tracks answers declared loc environment visited
      | catchParameter name => exact failure_tracks environment loc _

private theorem identifier_tracks (mark : Mark) (name : String) (environment : Environment)
    (visited : Visited) :
    Tracks context budget own here 0 (Run.identifier context here evaluate mark name
      environment visited)
      fun names _ =>
        .identifier context mark name (environment.rename names) (visited.rename names) := by
  refine Tracks.congr ?_ fun names injective _ =>
    Plan.identifier_rename injective mark name environment visited
  unfold Run.identifier
  dsimp only
  cases visited.enterIdentifier context.guards _ with
  | none => exact failure_tracks environment _ _
  | some entered =>
      cases environment.lookup name with
      | none => exact failure_tracks environment _ _
      | some found => exact declared_tracks answers found mark.loc environment entered

private theorem body_tracks (function : Function) (inside : Environment) (visited : Visited) :
    Tracks context budget own here 1 (Run.body evaluate function inside visited) fun names _ =>
      .body function (inside.rename names) (visited.rename names) := by
  unfold Run.body Plan.body
  cases function.body with
  | expression value => exact .become (answers 1) (.expression value inside) visited
  | statements statements =>
      dsimp only
      cases Stmt.listReturns statements with
      | nil => exact failure_tracks inside _ _
      | cons statement others =>
          cases others with
          | cons _ _ => exact failure_tracks inside _ _
          | nil =>
              dsimp only
              cases statement.value with
              | none => exact failure_tracks inside _ _
              | some value =>
                  simp only [Environment.rename_module, Environment.rename_scope,
                    ← Environment.rename_withScope]
                  exact .become (answers 1) _ visited

/-- The frame of a call gets a number here and is called by its trail there. -/
theorem apply_tracks (closure : Closure) (call : Mark) (arguments : List Argument)
    (caller : Environment) (visited : Visited) :
    Tracks context budget true here 1 (Run.apply evaluate closure call arguments caller visited)
      fun names trail =>
        .apply trail (closure.rename names) call arguments (caller.rename names)
          (visited.rename names) := by
  unfold Run.apply Plan.apply
  simp only [Closure.rename, bindParameters_rename, Environment.rename_module]
  by_cases async : closure.function.async = true
  · simp only [async, if_true]
    exact failure_tracks caller _ _
  by_cases generator : closure.function.generator = true
  · simp only [async, generator, if_true]
    exact failure_tracks caller _ _
  simp only [async, generator, Bool.false_eq_true, if_false]
  cases arguments.find? (·.spread) with
  | some spread => exact failure_tracks caller _ _
  | none =>
      dsimp only
      cases closure.module.scopes.createdBy? closure.function.mark.id with
      | none => exact .fail _
      | some functionScope =>
          dsimp only
          cases bindParameters caller closure.function.parameters arguments with
          | error wrong =>
              cases wrong with
              | parameter loc => exact .fail _
              | missing name => exact failure_tracks caller _ _
          | ok bindings =>
              refine .frame (fun names _ own => .body closure.function
                ⟨closure.module, functionScope, some
                  { trail := own
                    site := ⟨caller.module.path, call.id⟩
                    module := closure.module
                    functionScope
                    bindings := (bindings.map fun bound => (bound.1, bound.2.rename names)).reverse
                    parent := closure.frame.map (·.rename names) }⟩ (visited.rename names))
                fun number => ?_
              refine (body_tracks answers closure.function _ visited).congr fun names _ _ => ?_
              rw [Environment.rename_mk, Option.map_some, Frame.rename, renameBindings_eq,
                renameFrame_eq, List.map_reverse]

private theorem callValue_tracks (mark : Mark) (callee : Expr) (arguments : List Argument)
    (environment : Environment) (visited : Visited) :
    Tracks context budget true here 0
      (Run.callValue context evaluate mark callee arguments environment visited)
      fun names trail =>
        .callValue context trail mark callee arguments (environment.rename names)
          (visited.rename names) := by
  unfold Run.callValue Plan.callValue
  refine Tracks.withValue (answers 0) (.expression callee environment) fun value => ?_
  cases value with
  | text text => exact failure_tracks environment _ _
  | function closure =>
      simp only [Value.rename, Closure.rename, Environment.rename_module, Environment.rename_site,
        Visited.enterCall_rename]
      cases visited.enterCall context.guards
          { site := ⟨environment.module.path, mark.id⟩
            caller := environment.frame.map (·.site)
            callee := ⟨closure.module.path, closure.function.mark.id⟩ } with
      | none => exact failure_tracks environment _ _
      | some entered => exact apply_tracks answers closure mark arguments environment entered

private theorem call_tracks (mark : Mark) (callee : Expr) (arguments : List Argument)
    (environment : Environment) (visited : Visited) :
    Tracks context budget true here 0 (Run.call context evaluate mark callee arguments
      environment visited)
      fun names trail =>
        .call context trail mark callee arguments (environment.rename names)
          (visited.rename names) := by
  unfold Run.call Plan.call
  simp only [wrapperName?_rename]
  cases wrapperName? context.options environment callee with
  | none => exact callValue_tracks answers mark callee arguments environment visited
  | some wrapper =>
      dsimp only
      cases arguments.head? with
      | none => exact failure_tracks environment _ _
      | some first =>
          dsimp only
          cases first.spread with
          | true => exact failure_tracks environment _ _
          | false => exact .become (answers 0) (.expression first.value environment) visited

private theorem expression_tracks (value : Expr) (environment : Environment) (visited : Visited) :
    Tracks context budget true here 0 (Run.expression context here evaluate value
      environment visited)
      fun names trail =>
        .expression context trail value (environment.rename names) (visited.rename names) := by
  cases value with
  | tagged mark tag parts =>
      cases tag with
      | identifier tagMark name =>
          unfold Run.expression Plan.expression
          dsimp only
          cases context.options.isQueryTag name with
          | true => exact template_tracks answers environment visited "" parts
          | false => exact failure_tracks environment _ _
      | _ => exact failure_tracks environment _ _
  | template mark parts => exact template_tracks answers environment visited "" parts
  | string mark text => exact .answer (.text text)
  | number mark number => exact .answer (.text number.text)
  | boolean mark truth => exact .answer (.text (if truth then "true" else "false"))
  | bigInteger mark digits => exact .answer (.text digits)
  | null mark => exact failure_tracks environment _ _
  | regex mark _ => exact failure_tracks environment _ _
  | identifier mark name => exact identifier_tracks answers mark name environment visited
  | call mark optional callee arguments =>
      exact call_tracks answers mark callee arguments environment visited
  | arrow mark function => exact function_tracks function environment
  | function mark name function => exact function_tracks function environment
  | binary mark _ _ _ => exact failure_tracks environment _ _
  | member mark _ _ _ => exact failure_tracks environment _ _
  | array mark _ => exact failure_tracks environment _ _
  | object mark _ => exact failure_tracks environment _ _

private theorem wildcards_tracks (target : Module) (name : String) (visited : Visited)
    (missing : Failure) (sources : List (String × Loc)) :
    Tracks context budget own here count
      (Run.wildcards context here evaluate target name visited missing count sources) fun names _ =>
        .wildcards context target name (visited.rename names) missing sources := by
  induction sources generalizing count with
  | nil => exact .fail missing
  | cons source rest ih =>
      obtain ⟨specifier, loc⟩ := source
      refine .withModule fun found => ?_
      refine .caught (answers count) (.exported found name target loc) (fun _ _ _ => rfl)
        fun failure => ?_
      dsimp only
      cases failure.cause.isExportMissing with
      | true => exact ih
      | false => exact .fail failure

private theorem topLevel_tracks (found : Variable) (loc : Loc) (target : Module)
    (visited : Visited) :
    Tracks context budget own here 0
      (Run.declared context here evaluate found loc (.ofModule target) visited) fun names _ =>
        .declared context found loc (.ofModule target) (visited.rename names) := by
  refine (declared_tracks answers found loc (.ofModule target) visited).congr
    fun names _ _ => ?_
  rw [Environment.rename_ofModule]

private theorem exportEntry_tracks (target : Module) (entry : ExportName) (source : Option String)
    (visited : Visited) :
    Tracks context budget own here 0 (Run.exportEntry context here evaluate target entry
      source visited)
      fun names _ => .exportEntry context target entry source (visited.rename names) := by
  unfold Run.exportEntry Plan.exportEntry
  cases source with
  | some source =>
      exact .withModule fun found =>
        .become (answers 0) (.exported found entry.target target entry.mark.loc) visited
  | none =>
      dsimp only
      cases target.scopes.declared? ScopeTree.root entry.target with
      | none => exact .fail _
      | some found =>
          exact topLevel_tracks answers found entry.mark.loc target visited

private theorem namedExport_tracks (target : Module) (name : String) (visited : Visited)
    (missing : Failure) :
    Tracks context budget own here 0 (Run.namedExport context here evaluate target name
      visited missing)
      fun names _ => .namedExport context target name (visited.rename names) missing := by
  unfold Run.namedExport Plan.namedExport
  cases target.scopes.declared? ScopeTree.root name with
  | some found => exact topLevel_tracks answers found _ target visited
  | none =>
      dsimp only
      cases exportEntry? target.body name with
      | none => exact wildcards_tracks answers target name visited missing _
      | some found =>
          obtain ⟨entry, source⟩ := found
          exact exportEntry_tracks answers target entry source visited

private theorem exported_tracks (target : Module) (name : String) (requester : Module) (loc : Loc)
    (visited : Visited) :
    Tracks context budget own here 0 (Run.exported context here evaluate target name
      requester loc visited)
      fun names _ => .exported context target name requester loc (visited.rename names) := by
  unfold Run.exported Plan.exported
  simp only [Visited.enterExport_rename]
  cases visited.enterExport context.guards ⟨target.path, name⟩ with
  | none => exact .fail _
  | some entered =>
      simp only [Option.map_some]
      cases if name = "default" then defaultExport? target.body else none with
      | none => exact namedExport_tracks answers target name entered _
      | some default =>
          cases default with
          | expression value =>
              refine (Tracks.become (answers 0) (.expression value (.ofModule target))
                entered).congr
                fun names _ _ => ?_
              rw [Goal.rename, Environment.rename_ofModule]
          | function function => exact .answer (.function ⟨function, target, none⟩)

theorem step_tracks (goal : Goal) (visited : Visited) :
    Tracks context budget true here 0 (Run.step context here evaluate goal visited)
      fun names trail =>
      Task.plan context ⟨goal.rename names, visited.rename names, trail⟩ := by
  cases goal with
  | expression value environment =>
      exact expression_tracks answers value environment visited
  | exported target name requester loc =>
      exact exported_tracks answers target name requester loc visited

end Steps

end QueryTypes.Resolution
