import QueryTypes.Proofs.Resolution.Correspondence

/-!
Steps in hosts that go together.

One lemma for each function of a step: from what goes together it makes plans that go together. A
run follows such plans, so by induction on the budget it comes to answers that go together.
-/

set_option autoImplicit false

namespace QueryTypes.Resolution

open QueryTypes.Script
open QueryTypes.Source
open QueryTypes.Scoping
open QueryTypes.Modules

section Steps

variable {before after : Host} {environment other : Environment} {visited ways : Visited}

/-! ### Ways to go on -/

namespace SamePlan

theorem answer {value counterpart : Value} (same : SameValue before after value counterpart) :
    SamePlan before after (.answer value) (.answer counterpart) := .finish (.ok same)

theorem fail (failure : Failure) : SamePlan before after (.fail failure) (.fail failure) :=
  .finish (.error failure)

theorem failure (same : SameEnvironment before after environment other) (loc : Loc)
    (cause : Cause) :
    SamePlan before after (.fail (environment.failure loc cause))
      (.fail (other.failure loc cause)) := by
  rw [same.failure_eq]
  exact fail _

theorem within {module counterpart : Module} (paired : Paired before after module counterpart)
    (loc : Loc) (cause : Cause) :
    SamePlan before after (.fail (.within module loc cause))
      (.fail (.within counterpart loc cause)) := by
  rw [paired.within_eq]
  exact fail _

theorem become {goal counterpart : Goal} (goals : SameGoal before after goal counterpart)
    (same : SameVisited before after visited ways) :
    SamePlan before after (.become goal visited) (.become counterpart ways) :=
  .ask goals same fun _ _ answers => .finish answers

theorem withValue {goal counterpart : Goal} (goals : SameGoal before after goal counterpart)
    (same : SameVisited before after visited ways) {next otherNext : Value → Plan}
    (later : ∀ value found, SameValue before after value found →
      SamePlan before after (next value) (otherNext found)) :
    SamePlan before after (.withValue goal visited next)
      (.withValue counterpart ways otherNext) := by
  refine .ask goals same fun answer found answers => ?_
  cases answers with
  | ok values => exact later _ _ values
  | error failure => exact fail failure

theorem withModule (parallel : Parallel before after) (options : Options) (guards : Guards)
    (clock : Clock)
    (specifier : String) {importer counterpart : Module}
    (paired : Paired before after importer counterpart) (loc : Loc) {next otherNext : Module → Plan}
    (later : ∀ found target, Paired before after found target →
      SamePlan before after (next found) (otherNext target)) :
    SamePlan before after (.withModule ⟨before, options, guards, clock⟩ specifier importer loc next)
      (.withModule ⟨after, options, guards, clock⟩ specifier counterpart loc otherNext) := by
  have fetched := parallel.fetch specifier importer.path
  unfold Plan.withModule
  dsimp only
  rw [paired.alike.path, paired.within_eq]
  refine .timed _ ?_
  generalize before.fetch specifier importer.path = found at fetched
  generalize after.fetch specifier importer.path = target at fetched
  cases fetched with
  | ok targets =>
      dsimp only
      rw [targets.alike.path]
      exact .load _ (later _ _ targets)
  | error message => exact within paired loc _

end SamePlan

/-! ### Expressions -/

private theorem template_same (calls : SameEnvironment before after environment other)
    (same : SameVisited before after visited ways) (text : String) (parts : List TemplatePart) :
    SamePlan before after (.template environment visited text parts)
      (.template other ways text parts) := by
  induction parts generalizing text with
  | nil => exact .answer (.text text)
  | cons part rest ih =>
      cases part with
      | chunk chunk => exact ih (text ++ chunk)
      | substitution value =>
          refine SamePlan.withValue (.expression value calls) same
            fun found counterpart values => ?_
          cases values with
          | text substituted => exact ih (text ++ substituted)
          | function function paired frames => exact .failure calls value.loc .notText

/-- The scope of a function goes together with no other, so calls of it can be told by the scope. -/
theorem SameFrame.isOf_eq {inner outer : Frame} (frames : SameFrame before after inner outer)
    (calls : SameEnvironment before after environment other) {scope otherScope : ScopeId}
    (scopes : environment.module.scopes.SameScope other.module.scopes scope otherScope) :
    (outer.functionScope == otherScope && outer.module.path == other.module.path) =
      (inner.functionScope == scope && inner.module.path == environment.module.path) := by
  have paths : outer.module.path = inner.module.path := frames.paired.alike.path
  rw [paths, calls.paired.alike.path]
  by_cases path : inner.module.path = environment.module.path
  · obtain ⟨sameModule, alsoSame⟩ := calls.paired.of_path frames.paired path
    have functions := frames.scopes
    rw [sameModule, alsoSame] at functions
    have unique := calls.paired.alike.scopes.unique
    have iff : outer.functionScope = otherScope ↔ inner.functionScope = scope := by
      constructor
      · intro here
        rw [here] at functions
        exact unique.1 functions scopes
      · intro here
        rw [here] at functions
        exact unique.2 functions scopes
    rw [Bool.eq_iff_iff]
    simp only [Bool.and_eq_true, beq_iff_eq, iff]
  · rw [beq_false_of_ne path, Bool.and_false, Bool.and_false]

private theorem SameEnvironment.callOf_rel (calls : SameEnvironment before after environment other)
    {scope otherScope : ScopeId}
    (scopes : environment.module.scopes.SameScope other.module.scopes scope otherScope) :
    Option.Rel (SameFrame before after)
      (environment.frame.bind (Frame.find? fun frame =>
        frame.functionScope == scope && frame.module.path == environment.module.path))
      (other.frame.bind (Frame.find? fun frame =>
        frame.functionScope == otherScope && frame.module.path == other.module.path)) := by
  rcases rel_cases calls.frame with ⟨nothing, alsoNothing⟩ | ⟨_, _, here, there, frames⟩
  · rw [nothing, alsoNothing]
    exact .none
  · rw [here, there]
    exact SameFrame.find? (fun _ _ around => around.isOf_eq calls scopes) frames

private theorem parameter_same (calls : SameEnvironment before after environment other)
    {known counterpart : Variable}
    (declared : environment.module.scopes.SameVariable other.module.scopes known counterpart)
    (loc : Loc) (same : SameVisited before after visited ways) :
    SamePlan before after (.parameter known loc environment visited)
      (.parameter counterpart loc other ways) := by
  unfold Plan.parameter
  dsimp only
  rw [declared.name]
  rcases rel_cases (calls.callOf_rel declared.scope) with
    ⟨nothing, alsoNothing⟩ | ⟨frame, outer, here, there, frames⟩
  · rw [nothing, alsoNothing]
    exact .failure calls loc _
  · rw [here, there]
    dsimp only
    rcases rel_cases (SameBinding.lookup frames.bindings known.name) with
      ⟨nothing, alsoNothing⟩ | ⟨actual, alsoActual, bound, alsoBound, stands⟩
    · rw [nothing, alsoNothing]
      exact .failure calls loc _
    · rw [bound, alsoBound]
      cases stands with
      | argument callers => exact .become (.expression _ callers) same
      | default _ value =>
          exact .become (.expression value (.intro frames.paired frames.scopes (.some frames))) same

private theorem declarator_same (calls : SameEnvironment before after environment other)
    {known counterpart : Variable}
    (declared : environment.module.scopes.SameVariable other.module.scopes known counterpart)
    (declaration : VariableDeclaration) (declarator : Declarator)
    (same : SameVisited before after visited ways) :
    SamePlan before after (.declarator known declaration declarator environment visited)
      (.declarator counterpart declaration declarator other ways) := by
  obtain ⟨pattern, initializer⟩ := declarator
  unfold Plan.declarator
  rw [declared.name]
  cases pattern with
  | name binding =>
      cases initializer with
      | some value =>
          exact .become (.expression value (calls.noted declaration.mark.id declared.scope)) same
      | none => exact .failure calls _ _
  | array _ _ _ => exact .failure calls _ _
  | object _ _ _ => exact .failure calls _ _

private theorem declared_same (parallel : Parallel before after) (options : Options)
    (guards : Guards) (clock : Clock) (calls : SameEnvironment before after environment other)
    {known counterpart : Variable}
    (declared : environment.module.scopes.SameVariable other.module.scopes known counterpart)
    (loc : Loc) (same : SameVisited before after visited ways) :
    SamePlan before after (.declared ⟨before, options, guards, clock⟩ known loc environment visited)
      (.declared ⟨after, options, guards, clock⟩ counterpart loc other ways) := by
  unfold Plan.declared
  dsimp only
  rw [declared.name, declared.definitions]
  cases known.definitions.getLast? with
  | none => exact .failure calls loc _
  | some definition =>
      cases definition with
      | declarator declaration index =>
          dsimp only
          cases declaration.declarators[index]? with
          | none => exact .failure calls loc _
          | some found => exact declarator_same calls declared declaration found same
      | importBinding declaration kind imported localName =>
          dsimp only
          split
          · exact .failure calls _ _
          · exact .withModule parallel options guards clock _ calls.paired _
              fun found target paired =>
                .become (.exported paired imported calls.paired localName.mark.loc) same
      | functionName _ function => exact .answer (.function function calls.paired calls.frame)
      | parameter _ _ => exact parameter_same calls declared loc same
      | catchParameter name => exact .failure calls loc _

private theorem identifier_same (parallel : Parallel before after) (options : Options)
    (guards : Guards) (clock : Clock) (calls : SameEnvironment before after environment other)
    (mark : Mark) (name : String) (same : SameVisited before after visited ways) :
    SamePlan before after (.identifier ⟨before, options, guards, clock⟩ mark name
      environment visited)
      (.identifier ⟨after, options, guards, clock⟩ mark name other ways) := by
  have keys : SameKey before after
      ⟨⟨environment.module.path, mark.id⟩, environment.scope, environment.frame.map (·.trail)⟩
      ⟨⟨other.module.path, mark.id⟩, other.scope, other.frame.map (·.trail)⟩ := by
    refine ⟨?_, trails_eq calls.frame, _, _, calls.paired, rfl, calls.scopes⟩
    rw [calls.paired.alike.path]
  unfold Plan.identifier
  dsimp only
  rcases rel_cases (same.enterIdentifier guards keys) with
    ⟨nothing, alsoNothing⟩ | ⟨entered, alsoEntered, here, there, noted⟩
  · rw [nothing, alsoNothing]
    exact .failure calls _ _
  · rw [here, there]
    dsimp only
    rcases rel_cases (calls.lookup name) with
      ⟨nothing, alsoNothing⟩ | ⟨known, counterpart, found, alsoFound, declared⟩
    · rw [nothing, alsoNothing]
      exact .failure calls _ _
    · rw [found, alsoFound]
      exact declared_same parallel options guards clock calls declared mark.loc noted

/-! ### Calls -/

private theorem bindParameters_same (calls : SameEnvironment before after environment other)
    (parameters : List Parameter) (arguments : List Argument) :
    Likewise (List.Forall₂ (SameBinding before after))
      (bindParameters environment parameters arguments)
      (bindParameters other parameters arguments) := by
  induction parameters generalizing arguments with
  | nil => exact .ok .nil
  | cons parameter rest ih =>
      obtain ⟨mark, spread, pattern, default⟩ := parameter
      have others := ih arguments.tail
      unfold bindParameters
      rw [calls.isUndefined_eq]
      cases pattern with
      | name binding =>
          cases spread with
          | true => exact .error _
          | false =>
              dsimp only
              generalize bindParameters environment rest arguments.tail = bindings at others
              generalize bindParameters other rest arguments.tail = counterparts at others
              cases arguments.head?.filter fun argument =>
                  !isUndefined environment argument.value with
              | some argument =>
                  cases others with
                  | ok same => exact .ok (.cons (.argument calls) same)
                  | error error => exact .error error
              | none =>
                  cases default with
                  | none => exact .error _
                  | some value =>
                      cases others with
                      | ok same => exact .ok (.cons (.default binding.name value) same)
                      | error error => exact .error error
      | array _ _ _ => exact .error _
      | object _ _ _ => exact .error _

private theorem body_same (calls : SameEnvironment before after environment other)
    (function : Function) (same : SameVisited before after visited ways) :
    SamePlan before after (.body function environment visited) (.body function other ways) := by
  unfold Plan.body
  split
  · exact .become (.expression _ calls) same
  · split
    · split
      · exact .failure calls _ _
      · exact .become (.expression _ (calls.noted _ calls.scopes)) same
    · exact .failure calls _ _

private theorem apply_same (calls : SameEnvironment before after environment other) (trail : Trail)
    (function : Function) {module counterpart : Module}
    (paired : Paired before after module counterpart) {frame otherFrame : Option Frame}
    (frames : Option.Rel (SameFrame before after) frame otherFrame) (mark : Mark)
    (arguments : List Argument) (same : SameVisited before after visited ways) :
    SamePlan before after (.apply trail ⟨function, module, frame⟩ mark arguments
      environment visited)
      (.apply trail ⟨function, counterpart, otherFrame⟩ mark arguments other ways) := by
  have outside : SameEnvironment before after (.ofModule module) (.ofModule counterpart) :=
    .ofModule paired
  unfold Plan.apply
  dsimp only
  split
  · exact .failure calls _ _
  · split
    · exact .failure calls _ _
    · split
      · exact .failure calls _ _
      · rcases rel_cases (paired.alike.scopes.created function.mark.id) with
          ⟨nothing, alsoNothing⟩ | ⟨scope, otherScope, made, alsoMade, scopes⟩
        · rw [nothing, alsoNothing]
          exact .failure outside _ _
        · rw [made, alsoMade]
          dsimp only
          have bound := bindParameters_same calls function.parameters arguments
          generalize bindParameters environment function.parameters arguments = bindings at bound
          generalize bindParameters other function.parameters arguments = counterparts at bound
          cases bound with
          | error error =>
              cases error with
              | parameter loc => exact .failure outside _ _
              | missing name => exact .failure calls _ _
          | ok actuals =>
              have site : (⟨other.module.path, mark.id⟩ : Site) =
                  ⟨environment.module.path, mark.id⟩ := by rw [calls.paired.alike.path]
              dsimp only
              rw [site]
              exact body_same (.intro paired scopes (.some (.intro paired scopes
                (List.rel_reverse actuals) frames))) function same

private theorem callValue_same (options : Options) (guards : Guards)
    (clock : Clock)
    (calls : SameEnvironment before after environment other) (trail : Trail) (mark : Mark)
    (callee : Expr) (arguments : List Argument) (same : SameVisited before after visited ways) :
    SamePlan before after
      (.callValue ⟨before, options, guards, clock⟩ trail mark callee arguments environment visited)
      (.callValue ⟨after, options, guards, clock⟩ trail mark callee arguments other ways) := by
  refine SamePlan.withValue (.expression callee calls) same fun value counterpart values => ?_
  cases values with
  | text text => exact .failure calls _ _
  | function function paired frames =>
      dsimp only
      rw [calls.paired.alike.path, paired.alike.path, sites_eq calls.frame]
      rcases rel_cases (same.enterCall guards
          ⟨⟨environment.module.path, mark.id⟩, environment.frame.map (·.site),
            ⟨_, function.mark.id⟩⟩)
        with ⟨nothing, alsoNothing⟩ | ⟨entered, alsoEntered, here, there, noted⟩
      · rw [nothing, alsoNothing]
        exact .failure calls _ _
      · rw [here, there]
        exact apply_same calls trail function paired frames mark arguments noted

private theorem call_same (options : Options) (guards : Guards)
    (clock : Clock)
    (calls : SameEnvironment before after environment other) (trail : Trail) (mark : Mark)
    (callee : Expr) (arguments : List Argument) (same : SameVisited before after visited ways) :
    SamePlan before after
      (.call ⟨before, options, guards, clock⟩ trail mark callee arguments environment visited)
      (.call ⟨after, options, guards, clock⟩ trail mark callee arguments other ways) := by
  unfold Plan.call
  dsimp only
  rw [calls.wrapperName?_eq]
  cases wrapperName? options environment callee with
  | none => exact callValue_same options guards clock calls trail mark callee arguments same
  | some wrapper =>
      dsimp only
      cases arguments.head? with
      | none => exact .failure calls _ _
      | some first =>
          dsimp only
          split
          · exact .failure calls _ _
          · exact .become (.expression first.value calls) same

private theorem expression_same (parallel : Parallel before after) (options : Options)
    (guards : Guards) (clock : Clock) (calls : SameEnvironment before after environment other)
    (trail : Trail) (value : Expr) (same : SameVisited before after visited ways) :
    SamePlan before after
      (.expression ⟨before, options, guards, clock⟩ trail value environment visited)
      (.expression ⟨after, options, guards, clock⟩ trail value other ways) := by
  cases value with
  | tagged mark tag parts =>
      cases tag with
      | identifier tagMark name =>
          unfold Plan.expression
          dsimp only
          split
          · exact template_same calls same "" parts
          · exact .failure calls _ _
      | _ => exact .failure calls _ _
  | template mark parts => exact template_same calls same "" parts
  | string mark text => exact .answer (.text text)
  | number mark number => exact .answer (.text number.text)
  | boolean mark truth => exact .answer (.text (if truth then "true" else "false"))
  | bigInteger mark digits => exact .answer (.text digits)
  | identifier mark name => exact identifier_same parallel options guards clock calls mark name same
  | call mark optional callee arguments =>
      exact call_same options guards clock calls trail mark callee arguments same
  | arrow mark function => exact .answer (.function function calls.paired calls.frame)
  | function mark name function => exact .answer (.function function calls.paired calls.frame)
  | null mark => exact .failure calls _ _
  | regex mark _ => exact .failure calls _ _
  | binary mark _ _ _ => exact .failure calls _ _
  | member mark _ _ _ => exact .failure calls _ _
  | array mark _ => exact .failure calls _ _
  | object mark _ => exact .failure calls _ _

/-! ### Exports -/

section Exports

variable {target counterpart : Module}

private theorem wildcards_same (parallel : Parallel before after) (options : Options)
    (guards : Guards) (clock : Clock) (targets : Paired before after target counterpart)
    (name : String) (same : SameVisited before after visited ways) (missing : Failure)
    (sources : List (String × Loc)) :
    SamePlan before after
      (.wildcards ⟨before, options, guards, clock⟩ target name visited missing sources)
      (.wildcards ⟨after, options, guards, clock⟩ counterpart name ways missing sources) := by
  induction sources with
  | nil => exact .fail missing
  | cons source rest ih =>
      obtain ⟨specifier, loc⟩ := source
      refine SamePlan.withModule parallel options guards clock specifier targets loc
        fun found reached paired => ?_
      refine .ask (.exported paired name targets loc) same fun answer other answers => ?_
      cases answers with
      | ok values => exact .answer values
      | error failure =>
          dsimp only
          split
          · exact ih
          · exact .fail failure

private theorem own_rel (targets : Paired before after target counterpart) (name : String) :
    Option.Rel (target.scopes.SameVariable counterpart.scopes)
      (target.scopes.declared? ScopeTree.root name)
      (counterpart.scopes.declared? ScopeTree.root name) :=
  targets.alike.scopes.declared _ _ (ScopeTree.sameScope_root _ _) name

private theorem exportEntry_same (parallel : Parallel before after) (options : Options)
    (guards : Guards) (clock : Clock) (targets : Paired before after target counterpart)
    (entry : ExportName) (source : Option String) (same : SameVisited before after visited ways) :
    SamePlan before after (.exportEntry ⟨before, options, guards, clock⟩ target entry
      source visited)
      (.exportEntry ⟨after, options, guards, clock⟩ counterpart entry source ways) := by
  cases source with
  | some source =>
      exact .withModule parallel options guards clock source targets _ fun found reached paired =>
        .become (.exported paired entry.target targets entry.mark.loc) same
  | none =>
      unfold Plan.exportEntry
      dsimp only
      rcases rel_cases (own_rel targets entry.target) with
        ⟨nothing, alsoNothing⟩ | ⟨known, found, here, there, declared⟩
      · rw [nothing, alsoNothing]
        exact .within targets _ _
      · rw [here, there]
        exact declared_same parallel options guards clock (.ofModule targets) declared _ same

private theorem namedExport_same (parallel : Parallel before after) (options : Options)
    (guards : Guards) (clock : Clock) (targets : Paired before after target counterpart)
    (name : String) (same : SameVisited before after visited ways) (missing : Failure) :
    SamePlan before after (.namedExport ⟨before, options, guards, clock⟩ target name
      visited missing)
      (.namedExport ⟨after, options, guards, clock⟩ counterpart name ways missing) := by
  have entries : exportEntry? counterpart.body name = exportEntry? target.body name := by
    unfold exportEntry?
    rw [targets.alike.entries]
  unfold Plan.namedExport
  rw [entries, targets.alike.sources, targets.alike.mark]
  rcases rel_cases (own_rel targets name) with
    ⟨nothing, alsoNothing⟩ | ⟨known, found, here, there, declared⟩
  · rw [nothing, alsoNothing]
    cases exportEntry? target.body name with
    | some found =>
        exact exportEntry_same parallel options guards clock targets found.1 found.2 same
    | none => exact wildcards_same parallel options guards clock targets name same missing _
  · rw [here, there]
    exact declared_same parallel options guards clock (.ofModule targets) declared _ same

private theorem exported_same (parallel : Parallel before after) (options : Options)
    (guards : Guards) (clock : Clock) (targets : Paired before after target counterpart)
    (name : String) {requester otherRequester : Module}
    (requesters : Paired before after requester otherRequester) (loc : Loc)
    (same : SameVisited before after visited ways) :
    SamePlan before after
      (.exported ⟨before, options, guards, clock⟩ target name requester loc visited)
      (.exported ⟨after, options, guards, clock⟩ counterpart name otherRequester loc ways) := by
  unfold Plan.exported
  simp only [targets.alike.path, targets.alike.default, requesters.within_eq]
  rcases rel_cases (same.enterExport guards ⟨target.path, name⟩) with
    ⟨nothing, alsoNothing⟩ | ⟨entered, alsoEntered, here, there, noted⟩
  · rw [nothing, alsoNothing]
    exact .fail _
  · rw [here, there]
    dsimp only
    generalize (if name = "default" then defaultExport? target.body else none) = found
    cases found with
    | none => exact namedExport_same parallel options guards clock targets name noted _
    | some default =>
        cases default with
        | expression value => exact .become (.expression value (.ofModule targets)) noted
        | function function => exact .answer (.function function targets .none)

end Exports

private theorem Task.plan_same (parallel : Parallel before after) (options : Options)
    (guards : Guards) (clock : Clock) {goal counterpart : Goal}
    (goals : SameGoal before after goal counterpart) (same : SameVisited before after visited ways)
    (trail : Trail) :
    SamePlan before after (Task.plan ⟨before, options, guards, clock⟩ ⟨goal, visited, trail⟩)
      (Task.plan ⟨after, options, guards, clock⟩ ⟨counterpart, ways, trail⟩) := by
  cases goals with
  | expression value calls =>
      exact expression_same parallel options guards clock calls trail value same
  | exported targets name requesters loc =>
      exact exported_same parallel options guards clock targets name requesters loc same

/-! ### Runs -/

structure SameOutcome (before after : Host) (outcome other : Outcome) : Prop where
  result : Likewise (SameValue before after) outcome.result other.result
  loaded : other.loaded = outcome.loaded

theorem SamePlan.follow {plan counterpart : Plan} (plans : SamePlan before after plan counterpart)
    {solve otherSolve : Task → Outcome}
    (solves : ∀ {goal other : Goal} {visited ways : Visited}, SameGoal before after goal other →
      SameVisited before after visited ways → ∀ trail,
        SameOutcome before after (solve ⟨goal, visited, trail⟩) (otherSolve ⟨other, ways, trail⟩))
    (expired : Moment → Bool) (trail : Trail) (count : Nat) :
    SameOutcome before after (plan.follow expired solve trail count)
      (counterpart.follow expired otherSolve trail count) := by
  induction plans generalizing count with
  | finish answers => exact ⟨answers, rfl⟩
  | timed late _ ih =>
      cases inTime : expired (.fetch (count :: trail)) with
      | true =>
          rw [Plan.follow_timed_of_late inTime, Plan.follow_timed_of_late inTime]
          exact ⟨.error late, rfl⟩
      | false =>
          rw [Plan.follow_timed inTime, Plan.follow_timed inTime]
          exact ih count
  | load path _ ih =>
      obtain ⟨result, loaded⟩ := ih count
      exact ⟨result, congrArg (path :: ·) loaded⟩
  | ask goals same _ ih =>
      obtain ⟨answers, fetched⟩ := solves goals same (count :: trail)
      obtain ⟨result, loaded⟩ := ih _ _ answers (count + 1)
      refine ⟨result, ?_⟩
      change _ ++ _ = _ ++ _
      rw [fetched, loaded]

theorem SameGoal.failure_eq {goal counterpart : Goal}
    (goals : SameGoal before after goal counterpart) (cause : Cause) :
    counterpart.failure cause = goal.failure cause := by
  cases goals with
  | expression value calls => exact calls.failure_eq _ _
  | exported _ _ requesters loc => exact requesters.within_eq loc cause

/-- By induction on the budget: a step makes plans that go together, and what they request is
answered within one less. -/
theorem solve_same (parallel : Parallel before after) (options : Options) (guards : Guards)
    (clock : Clock)
    (budget : Nat) {goal counterpart : Goal} (goals : SameGoal before after goal counterpart)
    {visited ways : Visited} (same : SameVisited before after visited ways) (trail : Trail) :
    SameOutcome before after (solve ⟨before, options, guards, clock⟩ budget ⟨goal, visited, trail⟩)
      (solve ⟨after, options, guards, clock⟩ budget ⟨counterpart, ways, trail⟩) := by
  have refused (cause : Cause) : SameOutcome before after
    (Task.refused ⟨goal, visited, trail⟩ cause)
      (Task.refused ⟨counterpart, ways, trail⟩ cause) := by
    unfold Task.refused
    dsimp only
    rw [goals.failure_eq]
    exact ⟨.error _, rfl⟩
  have sameTime : (Context.mk after options guards clock).expired =
      (Context.mk before options guards clock).expired := rfl
  induction budget generalizing goal counterpart visited ways trail with
  | zero =>
      unfold solve
      dsimp only
      rw [sameTime]
      split
      · exact refused _
      · exact refused _
  | succ budget ih =>
      unfold solve
      dsimp only
      rw [sameTime]
      split
      · exact refused _
      · refine (Task.plan_same parallel options guards clock goals same trail).follow ?_ _ trail 0
        intro goal other visited ways goals same trail
        exact ih goals same trail fun cause => by
          unfold Task.refused
          dsimp only
          rw [goals.failure_eq]
          exact ⟨.error _, rfl⟩

/-- An expression has the same text in both hosts or fails for the same reason at the same place,
and the same modules are fetched for it. -/
theorem resolveText_same (parallel : Parallel before after) (options : Options) (guards : Guards)
    (clock : Clock)
    (value : Expr) (calls : SameEnvironment before after environment other) :
    resolveText ⟨after, options, guards, clock⟩ value other =
      resolveText ⟨before, options, guards, clock⟩ value environment := by
  have outcomes := solve_same parallel options guards clock options.maxDepth
    (.expression value calls)
    .empty []
  unfold resolveText
  dsimp only
  rw [outcomes.loaded]
  congr 1
  have answers := outcomes.result
  generalize (solve ⟨before, options, guards, clock⟩ options.maxDepth
    ⟨.expression value environment, .empty, []⟩).result = result at answers
  generalize (solve ⟨after, options, guards, clock⟩ options.maxDepth
    ⟨.expression value other, .empty, []⟩).result = found at answers
  cases answers with
  | error failure => rfl
  | ok values =>
      cases values with
      | text text => rfl
      | function function paired frames =>
          dsimp only
          rw [calls.failure_eq]

end Steps

end QueryTypes.Resolution
