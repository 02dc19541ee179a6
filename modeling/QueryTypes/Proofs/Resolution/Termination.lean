import QueryTypes.Proofs.Resolution.Settling

/-!
What is visited on the way makes evaluation end, whatever the budget.

Calls in a universe have finitely many keys, so a way makes finitely many calls; between two of
them it makes finitely many export lookups; between two of those its frames can only become
smaller; under one frame finitely many uses of identifiers are new; and between two of these the
expressions become smaller. Five numbers in that order measure what is left.
-/

set_option autoImplicit false

namespace QueryTypes.Resolution

open QueryTypes.Script
open QueryTypes.Source
open QueryTypes.Scoping
open QueryTypes.Modules

/-! ### What is left to visit -/

section Remaining

variable {Key : Type} [DecidableEq Key]

def remaining (keys visited : List Key) : Nat :=
  keys.countP fun key => !visited.contains key

private theorem remaining_cons_le (keys visited : List Key) (key : Key) :
    remaining keys (key :: visited) ≤ remaining keys visited := by
  apply List.countP_mono_left
  intro other _ new
  simp only [Bool.not_eq_true', List.contains_eq_mem, decide_eq_false_iff_not] at new ⊢
  exact fun present => new (List.mem_cons_of_mem _ present)

theorem remaining_cons_lt {keys visited : List Key} {key : Key} (known : key ∈ keys)
    (new : key ∉ visited) : remaining keys (key :: visited) < remaining keys visited := by
  induction keys with
  | nil => cases known
  | cons first rest ih =>
      have restLe := remaining_cons_le rest visited key
      unfold remaining at ih restLe ⊢
      rw [List.countP_cons, List.countP_cons]
      by_cases same : first = key
      · subst same
        simp only [List.contains_eq_mem, List.mem_cons, true_or, decide_true, Bool.not_true,
          Bool.false_eq_true, if_false, new, decide_false, Bool.not_false, if_true]
        simp only [List.contains_eq_mem, List.mem_cons] at restLe
        omega
      · have later := ih ((List.mem_cons.mp known).resolve_left (fun equal => same equal.symm))
        simp only [List.contains_eq_mem, List.mem_cons, same, false_or] at later ⊢
        omega

end Remaining

namespace Universe

variable (all : Universe)

def sites : List Site :=
  (all.modules.map (·.path)).flatMap fun path => all.nodes.map fun node => ⟨path, node⟩

def callKeys : List CallKey :=
  all.sites.flatMap fun site => (none :: all.sites.map some).flatMap fun caller =>
    all.sites.map fun callee => ⟨site, caller, callee⟩

def exportKeys : List ExportKey :=
  (all.modules.map (·.path)).flatMap fun path => all.names.map fun name => ⟨path, name⟩

def identifierKeys (trail : Option Trail) : List IdentifierKey :=
  all.sites.flatMap fun site => all.scopes.map fun scope => ⟨site, scope, trail⟩

variable {all}

private theorem mem_sites {site : Site} (held : all.HoldsSite site) : site ∈ all.sites :=
  List.mem_flatMap.mpr ⟨site.path, held.1, List.mem_map.mpr ⟨site.node, held.2, rfl⟩⟩

private theorem mem_identifierKeys {site : Site} {scope : ScopeId} (trail : Option Trail)
    (site_mem : all.HoldsSite site) (scope_mem : scope ∈ all.scopes) :
    ⟨site, scope, trail⟩ ∈ all.identifierKeys trail :=
  List.mem_flatMap.mpr ⟨site, mem_sites site_mem, List.mem_map.mpr ⟨scope, scope_mem, rfl⟩⟩

private theorem mem_exportKeys {module : Module} {name : String} (module_mem : module ∈ all.modules)
    (name_mem : name ∈ all.names) : ⟨module.path, name⟩ ∈ all.exportKeys :=
  List.mem_flatMap.mpr ⟨module.path, List.mem_map_of_mem module_mem,
    List.mem_map.mpr ⟨name, name_mem, rfl⟩⟩

private theorem mem_callKeys {site callee : Site} {caller : Option Site}
    (site_mem : all.HoldsSite site)
    (caller_mem : ∀ outer, caller = some outer → all.HoldsSite outer)
    (callee_mem : all.HoldsSite callee) : ⟨site, caller, callee⟩ ∈ all.callKeys := by
  refine List.mem_flatMap.mpr ⟨site, mem_sites site_mem, List.mem_flatMap.mpr ⟨caller, ?_,
    List.mem_map.mpr ⟨callee, mem_sites callee_mem, rfl⟩⟩⟩
  cases caller with
  | none => exact List.mem_cons_self
  | some outer =>
      exact List.mem_cons_of_mem _ (List.mem_map_of_mem (mem_sites (caller_mem outer rfl)))

end Universe

/-- What is left to do for a goal that was reached by way of what is visited, as five numbers of
which the first that changes counts. -/
noncomputable def Universe.rank (all : Universe) (visited : Visited) :
    Goal → Nat × Nat × Nat × Nat × Nat
  | .expression value environment =>
      -- A parameter leads to a smaller frame, under which every identifier may be used anew.
      (remaining all.callKeys visited.calls, remaining all.exportKeys visited.exports,
        sizeOf environment.frame,
        remaining (all.identifierKeys (environment.frame.map (·.trail))) visited.identifiers,
        (exprEvents value).length)
  | .exported _ _ _ _ =>
      (remaining all.callKeys visited.calls, remaining all.exportKeys visited.exports, 0, 0, 0)

def Task.Below (all : Universe) (inner task : Task) : Prop :=
  WellFoundedRelation.rel (all.rank inner.visited inner.goal) (all.rank task.visited task.goal)

private theorem Task.below_wf (all : Universe) : WellFounded (Task.Below all) :=
  InvImage.wf (fun task : Task => all.rank task.visited task.goal) WellFoundedRelation.wf

/-! ### What comes below what -/

section Below

variable {all : Universe} {visited : Visited} {innerTrail trail : Trail}

private theorem below_part {value part : Expr} {environment : Environment}
    (smaller : (exprEvents part).length < (exprEvents value).length) :
    Task.Below all ⟨.expression part environment, visited, innerTrail⟩
      ⟨.expression value environment, visited, trail⟩ :=
  .right _ (.right _ (.right _ (.right _ smaller)))

private theorem below_use {value whole : Expr} {inner environment : Environment}
    {key : IdentifierKey} (inward : inner.Inward environment)
    (known : key ∈ all.identifierKeys (environment.frame.map (·.trail)))
    (new : key ∉ visited.identifiers) :
    Task.Below all
      ⟨.expression value inner, { visited with identifiers := key :: visited.identifiers },
        innerTrail⟩
      ⟨.expression whole environment, visited, trail⟩ := by
  rcases inward with same | smaller
  · unfold Task.Below Universe.rank
    dsimp only
    rw [same]
    exact .right _ (.right _ (.right _ (.left _ _ (remaining_cons_lt known new))))
  · exact .right _ (.right _ (.left _ _ smaller))

private theorem below_import {whole : Expr} {environment : Environment} {target requester : Module}
    {name : String} {loc : Loc} (identifiers : List IdentifierKey) :
    Task.Below all
      ⟨.exported target name requester loc, { visited with identifiers }, innerTrail⟩
      ⟨.expression whole environment, visited, trail⟩ := by
  refine .right _ (.right _ (.left _ _ ?_))
  change 0 < sizeOf environment.frame
  cases environment.frame with
  | none => exact Nat.one_pos
  | some frame =>
      rw [Option.some.sizeOf_spec]
      omega

private theorem below_call {value whole : Expr} {inner environment : Environment} {key : CallKey}
    (known : key ∈ all.callKeys) (new : key ∉ visited.calls) :
    Task.Below all
      ⟨.expression value inner, { visited with calls := key :: visited.calls }, innerTrail⟩
      ⟨.expression whole environment, visited, trail⟩ :=
  .left _ _ (remaining_cons_lt known new)

private theorem below_export {goal : Goal} {target requester : Module} {name : String} {loc : Loc}
    {key : ExportKey} (known : key ∈ all.exportKeys) (new : key ∉ visited.exports) :
    Task.Below all ⟨goal, { visited with exports := key :: visited.exports }, innerTrail⟩
      ⟨.exported target name requester loc, visited, trail⟩ := by
  cases goal with
  | expression value environment =>
      exact .right _ (.left _ _ (remaining_cons_lt known new))
  | exported _ _ _ _ =>
      exact .right _ (.left _ _ (remaining_cons_lt known new))

end Below

namespace Visited

private theorem enterIdentifier_all {visited entered : Visited} {key : IdentifierKey}
    (entering : visited.enterIdentifier .all key = some entered) :
    key ∉ visited.identifiers ∧
      entered = { visited with identifiers := key :: visited.identifiers } := by
  unfold enterIdentifier at entering
  split at entering
  · cases entering
  · rename_i new
    exact ⟨by simpa [Guards.all] using new, (Option.some.inj entering).symm⟩

theorem enterExport_all {visited entered : Visited} {key : ExportKey}
    (entering : visited.enterExport .all key = some entered) :
    key ∉ visited.exports ∧ entered = { visited with exports := key :: visited.exports } := by
  unfold enterExport at entering
  split at entering
  · cases entering
  · rename_i new
    exact ⟨by simpa [Guards.all] using new, (Option.some.inj entering).symm⟩

private theorem enterCall_all {visited entered : Visited} {key : CallKey}
    (entering : visited.enterCall .all key = some entered) :
    key ∉ visited.calls ∧ entered = { visited with calls := key :: visited.calls } := by
  unfold enterCall at entering
  split at entering
  · cases entering
  · rename_i new
    exact ⟨by simpa [Guards.all] using new, (Option.some.inj entering).symm⟩

end Visited

/-! ### One step -/

theorem lookup_declared {environment : Environment} {name : String} {known : Variable}
    (found : environment.lookup name = some known) :
    ∃ scope, environment.module.scopes.declared? scope name = some known := by
  obtain ⟨scope, _, declared⟩ := List.exists_of_findSome?_eq_some found
  exact ⟨scope, declared⟩

private theorem wrapperName?_choice (environment : Environment) (callee : Expr) :
    ∃ name, ∀ options, wrapperName? options environment callee = none ∨
      wrapperName? options environment callee = some name := by
  have imported (name : String) (expected : ImportKind) :
      ∃ original, ∀ options, wrapperImport? options environment name expected = none ∨
        wrapperImport? options environment name expected = some original := by
    unfold wrapperImport?
    split
    · rename_i declaration kind imported localName last
      refine ⟨imported, fun options => ?_⟩
      split
      · exact .inr rfl
      · exact .inl rfl
    · exact ⟨"", fun _ => .inl rfl⟩
  cases callee with
  | identifier mark name =>
      obtain ⟨original, choice⟩ := imported name .named
      refine ⟨original, fun options => ?_⟩
      change (wrapperImport? options environment name .named).filter options.isWrapper = none ∨
        (wrapperImport? options environment name .named).filter options.isWrapper =
          some original
      rcases choice options with absent | present
      · rw [absent]
        exact .inl rfl
      · rw [present, Option.filter_some]
        split
        · exact .inr rfl
        · exact .inl rfl
  | member mark optional object property =>
      refine ⟨property, fun options => ?_⟩
      unfold wrapperName?
      split
      · rename_i impossible
        cases impossible
      · split
        · rename_i same _
          cases same
          cases wrapperImport? options environment _ .everything with
          | none => exact .inl rfl
          | some original => exact .inr rfl
        · exact .inl rfl
      · exact .inl rfl
  | _ => exact ⟨"", fun _ => .inl rfl⟩

section Step

variable {all : Universe} {host : Host} {environment : Environment} {visited : Visited}
  {trail : Trail}

private theorem identifier_settles (closed : all.Closed host)
    (held : all.HoldsEnvironment environment)
    {mark : Mark} (mark_mem : mark.id ∈ all.nodes) (name : String)
    (ih : ∀ inner : Task,
      inner.Below all ⟨.expression (.identifier mark name) environment, visited, trail⟩ →
        all.HoldsGoal inner.goal → inner.Settles all host) :
    PlanSettles all host
      (fun options => Plan.identifier (.timeless host options) mark name environment visited)
      trail 0 := by
  unfold Plan.identifier
  dsimp only
  split
  · exact .fail rfl
  · rename_i entered entering
    obtain ⟨new, same⟩ := Visited.enterIdentifier_all entering
    subst same
    split
    · exact .fail rfl
    · rename_i known found
      obtain ⟨scope, declared⟩ := lookup_declared found
      have moduleHeld : environment.module ∈ all.modules := by
        cases held with
        | intro module _ _ => exact module
      have scopeHeld : environment.scope ∈ all.scopes := by
        cases held with
        | intro _ scope _ => exact scope
      obtain ⟨known_mem, defined⟩ := (closed.modules _ moduleHeld).declared _ _ _ declared
      have key_mem := Universe.mem_identifierKeys (environment.frame.map (·.trail))
        (Universe.holdsSite moduleHeld mark_mem) scopeHeld
      apply declared_settles closed held known_mem defined
      · intro value inner exprHeld innerHeld inward
        exact ih _ (below_use inward key_mem new) ⟨exprHeld, innerHeld⟩
      · intro target imported requester loc target_mem imported_mem
        exact ih _ (below_import _) ⟨target_mem, imported_mem⟩

private theorem callValue_settles (closed : all.Closed host)
    (held : all.HoldsEnvironment environment)
    {mark : Mark} {optional : Bool} {callee : Expr} {arguments : List Argument}
    (exprHeld : all.HoldsExpr (.call mark optional callee arguments))
    (ih : ∀ inner : Task,
      inner.Below all ⟨.expression (.call mark optional callee arguments) environment, visited,
          trail⟩ →
        all.HoldsGoal inner.goal → inner.Settles all host) :
    PlanSettles all host
      (fun options =>
        Plan.callValue (.timeless host options) trail mark callee arguments environment visited)
      trail 0 := by
  have mark_mem : mark.id ∈ all.nodes := by
    apply exprHeld
    rw [exprEvents]
    exact List.mem_cons_self
  have moduleHeld : environment.module ∈ all.modules := by
    cases held with
    | intro module _ _ => exact module
  have calleeBelow : (exprEvents callee).length <
      (exprEvents (.call mark optional callee arguments)).length := by
    rw [exprEvents, List.length_cons, List.length_append]
    omega
  unfold Plan.callValue
  apply PlanSettles.withValue (ih _ (below_part calleeBelow) ⟨exprHeld.callee, held⟩)
  intro value valueHeld
  cases value with
  | text text => exact .fail rfl
  | function closure =>
      dsimp only
      split
      · exact .fail rfl
      · rename_i entered entering
        obtain ⟨new, same⟩ := Visited.enterCall_all entering
        subst same
        have key_mem : (⟨⟨environment.module.path, mark.id⟩, environment.frame.map (·.site),
            ⟨closure.module.path, closure.function.mark.id⟩⟩ : CallKey) ∈ all.callKeys := by
          apply Universe.mem_callKeys (Universe.holdsSite moduleHeld mark_mem)
          · intro outer sameSite
            obtain ⟨frame, atFrame, site⟩ := Option.map_eq_some_iff.mp sameSite
            cases held with
            | intro _ _ frames =>
                cases frames frame atFrame with
                | intro siteHeld _ _ _ _ => exact site ▸ siteHeld
          · exact Universe.holdsSite valueHeld.module valueHeld.function.mark
        apply apply_settles closed valueHeld mark_mem (fun _ present => exprHeld.argument present)
          held
        intro value inner innerExpr innerHeld
        exact ih _ (below_call key_mem new) ⟨innerExpr, innerHeld⟩

private theorem call_settles (closed : all.Closed host) (held : all.HoldsEnvironment environment)
    {mark : Mark} {optional : Bool} {callee : Expr} {arguments : List Argument}
    (exprHeld : all.HoldsExpr (.call mark optional callee arguments))
    (ih : ∀ inner : Task,
      inner.Below all ⟨.expression (.call mark optional callee arguments) environment, visited,
          trail⟩ →
        all.HoldsGoal inner.goal → inner.Settles all host) :
    PlanSettles all host
      (fun options =>
        Plan.call (.timeless host options) trail mark callee arguments environment visited)
      trail 0 := by
  obtain ⟨name, choice⟩ := wrapperName?_choice environment callee
  have called := callValue_settles closed held exprHeld ih
  have decided {wrapped : Plan} (settled : PlanSettles all host (fun _ => wrapped) trail 0)
      (same : ∀ options, wrapperName? options environment callee = some name →
        Plan.call (.timeless host options) trail mark callee arguments environment visited =
          wrapped) :
      PlanSettles all host
        (fun options =>
          Plan.call (.timeless host options) trail mark callee arguments environment visited)
        trail 0 := by
    apply PlanSettles.either called settled
    intro options
    rcases choice options with absent | present
    · refine .inl ?_
      simp only [Plan.call, absent]
    · exact .inr (same options present)
  cases given : arguments.head? with
  | none =>
      have refused : PlanSettles all host (fun _ =>
          Plan.fail (environment.failure mark.loc (.missingQueryArgument name))) trail 0 :=
        .fail rfl
      apply decided refused
      intro options present
      simp only [Plan.call, present, given]
  | some first =>
      have member := List.mem_of_head? given
      cases spread : first.spread with
      | true =>
          have refused : PlanSettles all host (fun _ =>
              Plan.fail (environment.failure first.mark.loc .spreadArgument)) trail 0 := .fail rfl
          apply decided refused
          intro options present
          simp only [Plan.call, present, given, spread, if_true]
      | false =>
          have smaller : (exprEvents first.value).length <
              (exprEvents (.call mark optional callee arguments)).length := by
            have part := (argument_inside member).length_le
            rw [exprEvents, List.length_cons, List.length_append]
            omega
          have evaluated : PlanSettles all host (fun _ =>
              Plan.become (.expression first.value environment) visited) trail 0 :=
            .become (ih _ (below_part smaller) ⟨exprHeld.argument member, held⟩)
          apply decided evaluated
          intro options present
          simp only [Plan.call, present, given, spread, Bool.false_eq_true, if_false]

/-- The substitutions of a template are parts of the expression that it makes up. -/
theorem parts_settle (held : all.HoldsEnvironment environment) {value : Expr}
    {parts : List TemplatePart} (inside : partsEvents parts <:+: exprEvents value)
    (smaller : (partsEvents parts).length < (exprEvents value).length)
    (exprHeld : all.HoldsExpr value)
    (ih : ∀ inner : Task, inner.Below all ⟨.expression value environment, visited, trail⟩ →
      all.HoldsGoal inner.goal → inner.Settles all host) :
    PlanSettles all host (fun _ => Plan.template environment visited "" parts) trail 0 := by
  apply template_settles
  intro part present count
  have partInside := substitution_inside present
  have partSmaller : (exprEvents part).length < (exprEvents value).length :=
    Nat.lt_of_le_of_lt partInside.length_le smaller
  have partHeld : all.HoldsExpr part :=
    List.Subset.trans (nodeIds_subset (partInside.trans inside)) exprHeld
  exact ih _ (below_part partSmaller) ⟨partHeld, held⟩

private theorem expression_settles (closed : all.Closed host)
    (held : all.HoldsEnvironment environment)
    {value : Expr} (exprHeld : all.HoldsExpr value)
    (ih : ∀ inner : Task, inner.Below all ⟨.expression value environment, visited, trail⟩ →
      all.HoldsGoal inner.goal → inner.Settles all host) :
    PlanSettles all host
      (fun options => Plan.expression (.timeless host options) trail value environment visited)
      trail 0 := by
  have closureHeld {function : Function} (functionHeld : all.HoldsFunction function) :
      all.HoldsValue (.function ⟨function, environment.module, environment.frame⟩) := by
    cases held with
    | intro module _ frames => exact ⟨functionHeld, module, frames⟩
  cases value with
  | tagged mark tag parts =>
      have inside : partsEvents parts <:+: exprEvents (.tagged mark tag parts) := by
        rw [exprEvents]
        exact List.infix_cons List.infix_append_right
      have smaller :
          (partsEvents parts).length < (exprEvents (.tagged mark tag parts)).length := by
        rw [exprEvents, List.length_cons, List.length_append]
        omega
      have evaluated := parts_settle held inside smaller exprHeld ih
      cases tag with
      | identifier tagMark name =>
          have refused : PlanSettles all host
              (fun _ => Plan.fail (environment.failure mark.loc (.unsupportedTag name))) trail 0 :=
            .fail rfl
          apply PlanSettles.either evaluated refused
          intro options
          by_cases query : options.isQueryTag name = true
          · exact .inl (if_pos query)
          · exact .inr (if_neg query)
      | _ => exact .fail rfl
  | template mark parts =>
      apply parts_settle held _ _ exprHeld ih
      · rw [exprEvents]
        exact List.infix_cons (List.infix_refl _)
      · rw [exprEvents, List.length_cons]
        omega
  | identifier mark name =>
      have mark_mem : mark.id ∈ all.nodes := by
        apply exprHeld
        rw [exprEvents]
        exact List.mem_cons_self
      exact identifier_settles closed held mark_mem name ih
  | call mark optional callee arguments => exact call_settles closed held exprHeld ih
  | arrow mark function =>
      apply PlanSettles.answer (closureHeld _)
      refine List.Subset.trans (nodeIds_subset ?_) exprHeld
      rw [exprEvents]
      exact List.infix_cons (List.infix_refl _)
  | function mark name function =>
      apply PlanSettles.answer (closureHeld _)
      refine List.Subset.trans (nodeIds_subset ?_) exprHeld
      rw [exprEvents]
      exact List.infix_cons (List.infix_append _ _ _)
  | string mark text => exact .answer trivial
  | number mark number => exact .answer trivial
  | boolean mark truth => exact .answer trivial
  | bigInteger mark digits => exact .answer trivial
  | null mark => exact .fail rfl
  | regex mark pattern => exact .fail rfl
  | binary mark operator left right => exact .fail rfl
  | member mark optional object property => exact .fail rfl
  | array mark elements => exact .fail rfl
  | object mark members => exact .fail rfl

private theorem wildcards_settle (closed : all.Closed host) {target : Module} {name : String}
    {missing : Failure} (finished : missing.cause.isCutOff = false)
    (sources : List (String × Loc)) (count : Nat)
    (exports : ∀ found requester loc, found ∈ all.modules → ∀ count,
      Task.Settles all host ⟨.exported found name requester loc, visited, count :: trail⟩) :
    PlanSettles all host
      (fun options => Plan.wildcards (.timeless host options) target name visited missing sources)
      trail count := by
  induction sources generalizing count with
  | nil => exact .fail finished
  | cons source rest ih =>
      obtain ⟨specifier, loc⟩ := source
      unfold Plan.wildcards
      apply PlanSettles.withModule closed
      intro found found_mem
      apply PlanSettles.ask (exports found target loc found_mem count)
      intro answer permitted
      cases answer with
      | ok value => exact .answer permitted
      | error failure =>
          dsimp only
          split
          · exact ih (count + 1)
          · exact .fail permitted

private theorem exported_settles (closed : all.Closed host) {target : Module}
    (target_mem : target ∈ all.modules) {name : String} (name_mem : name ∈ all.names)
    (requester : Module) (loc : Loc)
    (ih : ∀ inner : Task, inner.Below all ⟨.exported target name requester loc, visited, trail⟩ →
      all.HoldsGoal inner.goal → inner.Settles all host) :
    PlanSettles all host
      (fun options =>
        Plan.exported (.timeless host options) target name requester loc visited)
      trail 0 := by
  unfold Plan.exported
  dsimp only
  split
  · exact .fail rfl
  · rename_i entered entering
    obtain ⟨new, same⟩ := Visited.enterExport_all entering
    subst same
    have key_mem := Universe.mem_exportKeys target_mem name_mem
    have targetHeld := closed.modules _ target_mem
    have inner (goal : Goal) (goalHeld : all.HoldsGoal goal) (innerTrail : Trail) :=
      ih ⟨goal, _, innerTrail⟩ (below_export key_mem new) goalHeld
    have topLevel {known : Variable} {id : ScopeId} {bound : String} (place : Loc)
        (found : target.scopes.declared? id bound = some known) :
        PlanSettles all host (fun options => Plan.declared (.timeless host options) known place
          (.ofModule target) { visited with exports := ⟨target.path, name⟩ :: visited.exports })
          trail 0 := by
      obtain ⟨scope_mem, defined⟩ := targetHeld.declared _ _ _ found
      apply declared_settles closed (closed.ofModule target_mem) scope_mem defined
      · intro value environment exprHeld held _
        exact inner (.expression value environment) ⟨exprHeld, held⟩ _
      · intro found imported requester loc found_mem imported_mem
        exact inner (.exported found imported requester loc) ⟨found_mem, imported_mem⟩ _
    split
    · rename_i value default
      have found : defaultExport? target.body = some (.expression value) := by
        split at default
        · exact default
        · cases default
      exact .become (inner (.expression value (.ofModule target))
        ⟨targetHeld.defaultExpression _ found, closed.ofModule target_mem⟩ _)
    · rename_i function default
      have found : defaultExport? target.body = some (.function function) := by
        split at default
        · exact default
        · cases default
      refine .answer ⟨targetHeld.defaultFunction _ found, target_mem, ?_⟩
      intro frame impossible
      cases impossible
    · unfold Plan.namedExport
      split
      · rename_i known found
        exact topLevel _ found
      · split
        · rename_i entry source listed
          unfold Plan.exportEntry
          split
          · apply PlanSettles.withModule closed
            intro found found_mem
            exact .become (inner (.exported found entry.target target entry.mark.loc)
              ⟨found_mem, targetHeld.entries _ _ _ listed⟩ _)
          · split
            · rename_i known found
              exact topLevel _ found
            · exact .fail rfl
        · apply wildcards_settle closed rfl
          intro found requester loc found_mem count
          exact inner (.exported found name requester loc) ⟨found_mem, name_mem⟩ _

end Step

/-! ### Every evaluation ends -/

private theorem Task.settles {all : Universe} {host : Host} (closed : all.Closed host)
    (task : Task) :
    all.HoldsGoal task.goal → task.Settles all host := by
  -- The invariant is that the goal lies in the universe: only then is a key that is new on the way
  -- one of those that were left.
  induction task using (Task.below_wf all).induction with
  | h task ih =>
      obtain ⟨goal, visited, trail⟩ := task
      intro held
      apply Task.settles_of_plan
      cases goal with
      | expression value environment =>
          exact expression_settles closed held.2 held.1 ih
      | exported target name requester loc =>
          exact exported_settles closed held.1 held.2 requester loc ih

theorem Universe.Permits.not_isCutOff {all : Universe} {outcome : Outcome}
    (permitted : all.Permits outcome.result) : outcome.isCutOff = false := by
  unfold Outcome.isCutOff
  split
  · rfl
  · rename_i failure failed
    rw [failed] at permitted
    exact permitted

/-- Some budget, which depends on the modules, the expression and its scope only, is enough for
every resolution: no larger one is ever used up, whatever the other options are and however time
goes by. -/
theorem resolveText_not_isCutOff_of_large_budget (memory : MemoryHost) (module : Module)
    (value : Expr) (scope : ScopeId) :
    ∃ least, ∀ (options : Options) (clock : Clock), least ≤ options.maxDepth →
      (resolveText ⟨memory, options, .all, clock⟩ value ⟨module, scope, none⟩).isCutOff =
        false := by
  have held (known : Module) (present : known ∈ memory.host) : known ∈ memory.modules :=
    MemoryHost.mem_modules present
  have closed := Universe.around_closed held module value scope
  obtain ⟨least, results, permitted, reached⟩ :=
    Task.settles closed (startingTask value ⟨module, scope, none⟩)
      (Universe.around_holds memory.modules module value scope)
  refine ⟨least, fun options clock enough => ?_⟩
  rw [resolveText_isCutOff]
  rcases Nat.eq_zero_or_pos options.timeoutMs with instant | time
  · have elapsed : Context.expired ⟨memory, options, .all, clock⟩ (.start []) = true := by
      simp [Context.expired, instant]
    rw [solve_expired elapsed]
    exact (Task.refused_late _ _).not_isCutOff
  · have quick := reached options time options.maxDepth enough
    rcases solve_late_or_eq ⟨memory, options, .all, clock⟩ time options.maxDepth
      (startingTask value ⟨module, scope, none⟩) with late | same
    · exact late.not_isCutOff
    · rw [same]
      exact (permitted _ quick).not_isCutOff

end QueryTypes.Resolution
