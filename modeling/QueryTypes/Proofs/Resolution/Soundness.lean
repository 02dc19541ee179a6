import QueryTypes.Proofs.Resolution.Following
import QueryTypes.Proofs.Resolution.Lexical
import QueryTypes.Proofs.Resolution.Universe

/-!
Whatever text evaluation ends with is what the expression means.

A plan whose requests are answered soundly ends soundly, for each kind of plan; a run answers all
requests soundly then, by induction on its budget.
-/

set_option autoImplicit false

namespace QueryTypes.Resolution

open QueryTypes.Script
open QueryTypes.Source
open QueryTypes.Scoping
open QueryTypes.Modules

/-- A plan can end with a value if each of its requests fails or is answered by a value that is
allowed for it. -/
inductive Plan.Yields (allowed : Goal → Value → Prop) : Plan → Value → Prop
  | finish {value : Value} : Plan.Yields allowed (.finish (.ok value)) value
  | timed {late : Failure} {rest : Plan} {value : Value} :
      Plan.Yields allowed rest value → Plan.Yields allowed (.timed late rest) value
  | load {path : String} {rest : Plan} {value : Value} :
      Plan.Yields allowed rest value → Plan.Yields allowed (.load path rest) value
  | answered {goal : Goal} {visited : Visited} {next : Except Failure Value → Plan}
      {answer value : Value} : allowed goal answer → Plan.Yields allowed (next (.ok answer)) value →
        Plan.Yields allowed (.ask goal visited next) value
  | failed {goal : Goal} {visited : Visited} {next : Except Failure Value → Plan}
      {failure : Failure} {value : Value} : Plan.Yields allowed (next (.error failure)) value →
        Plan.Yields allowed (.ask goal visited next) value

namespace Plan

variable {allowed : Goal → Value → Prop} {value : Value}

private theorem yields_of_follow {expired : Moment → Bool} {solve : Task → Outcome}
    (answers : ∀ task answer, (solve task).result = .ok answer → allowed task.goal answer)
    {trail : Trail} {plan : Plan} {count : Nat}
    (followed : (plan.follow expired solve trail count).result = .ok value) :
    plan.Yields allowed value := by
  induction plan generalizing count with
  | finish result =>
      change result = .ok value at followed
      subst followed
      exact .finish
  | timed late rest ih =>
      cases elapsed : expired (.fetch (count :: trail)) with
      | true =>
          rw [follow_timed_of_late elapsed] at followed
          cases followed
      | false =>
          rw [follow_timed elapsed] at followed
          exact .timed (ih followed)
  | load path rest ih => exact .load (ih followed)
  | ask goal visited next ih =>
      cases answered : (solve ⟨goal, visited, count :: trail⟩).result with
      | ok answer =>
          simp only [follow, Outcome.after, answered] at followed
          exact .answered (answers _ answer answered) (ih _ followed)
      | error failure =>
          simp only [follow, Outcome.after, answered] at followed
          exact .failed (ih _ followed)

private theorem not_yields_fail {failure : Failure} : ¬ (fail failure).Yields allowed value := by
  intro yields
  cases yields

private theorem Yields.of_answer {answer : Value}
    (yields : (Plan.answer answer).Yields allowed value) :
    value = answer := by
  cases yields with
  | finish => rfl

private theorem Yields.of_become {goal : Goal} {visited : Visited}
    (yields : (become goal visited).Yields allowed value) : allowed goal value := by
  cases yields with
  | answered permitted rest =>
      cases rest with
      | finish => exact permitted
  | failed rest => cases rest

private theorem Yields.of_withValue {goal : Goal} {visited : Visited} {next : Value → Plan}
    (yields : (withValue goal visited next).Yields allowed value) :
    ∃ answer, allowed goal answer ∧ (next answer).Yields allowed value := by
  cases yields with
  | answered permitted rest => exact ⟨_, permitted, rest⟩
  | failed rest => exact absurd rest not_yields_fail

private theorem Yields.of_withModule {context : Context} {specifier : String} {importer : Module}
    {loc : Loc} {next : Module → Plan}
    (yields : (withModule context specifier importer loc next).Yields allowed value) :
    ∃ found, context.host.fetch specifier importer.path = .ok found ∧
      (next found).Yields allowed value := by
  unfold withModule at yields
  cases yields with
  | timed rest =>
      split at rest
      · rename_i found fetched
        cases rest with
        | load rest => exact ⟨found, fetched, rest⟩
      · exact absurd rest not_yields_fail

end Plan

abbrev Environment.place (environment : Environment)
    (activations : ScopeId → Option Activation) : Place :=
  ⟨environment.module, environment.scope, activations⟩

def Goal.Sound (context : Context) : Goal → Value → Prop
  | .expression value environment, answer =>
      ∀ activations, WellFormed environment.module → Stands environment (exprEvents value) →
        Covers environment.module environment.scope environment.frame activations →
          ∃ meant, Evaluates context.host context.options value (environment.place activations)
            meant ∧ Means answer meant
  | .exported target name _ _, answer =>
      WellFormed target →
        ∃ meant, Exports context.host context.options target name meant ∧ Means answer meant

theorem Stands.part {environment : Environment} {part whole : List Event}
    (stands : Stands environment whole)
    (placed : Placed environment.module.program environment.scope whole →
      Placed environment.module.program environment.scope part) (inside : part <:+: whole) :
    Stands environment part := by
  rcases stands with own | ⟨outside, belongs⟩
  · exact .inl (placed own)
  · exact .inr ⟨outside, belongs.part inside⟩

theorem Stands.callee {environment : Environment} {mark : Mark} {optional : Bool} {callee : Expr}
    {arguments : List Argument}
    (stands : Stands environment (exprEvents (.call mark optional callee arguments))) :
    Stands environment (exprEvents callee) := by
  apply stands.part Placed.callee
  rw [exprEvents]
  exact List.infix_cons List.infix_append_left

theorem Stands.argument {environment : Environment} {mark : Mark} {optional : Bool} {callee : Expr}
    {arguments : List Argument}
    (stands : Stands environment (exprEvents (.call mark optional callee arguments)))
    {argument : Argument} (present : argument ∈ arguments) :
    Stands environment (exprEvents argument.value) := by
  apply stands.part fun placed => placed.argument present
  rw [exprEvents]
  exact List.infix_cons (List.infix_append_of_infix_right (argument_inside present))

section Steps

variable {context : Context} {environment : Environment}
  {activations : ScopeId → Option Activation} {visited : Visited} {answer : Value}

private theorem template_sound (formed : WellFormed environment.module)
    (covers : Covers environment.module environment.scope environment.frame activations)
    {parts : List TemplatePart}
    (stands : ∀ value, .substitution value ∈ parts → Stands environment (exprEvents value))
    {before : String}
    (yields : (Plan.template environment visited before parts).Yields (Goal.Sound context) answer) :
    ∃ text, answer = .text (before ++ text) ∧
      Composes context.host context.options parts (environment.place activations) text := by
  induction parts generalizing before with
  | nil =>
      refine ⟨"", ?_, .nil⟩
      rw [yields.of_answer, String.append_empty]
  | cons part rest ih =>
      have later := @ih fun value present => stands value (List.mem_cons_of_mem _ present)
      cases part with
      | chunk first =>
          obtain ⟨text, same, composes⟩ := later yields
          exact ⟨first ++ text, by rw [same, String.append_assoc], .chunk composes⟩
      | substitution value =>
          obtain ⟨evaluated, sound, remaining⟩ := Plan.Yields.of_withValue yields
          obtain ⟨meant, evaluates, means⟩ :=
            sound activations formed (stands value List.mem_cons_self) covers
          cases means with
          | @text first =>
              obtain ⟨text, same, composes⟩ := later remaining
              exact ⟨first ++ text, by rw [same, String.append_assoc],
                .substitution evaluates composes⟩
          | function _ _ => exact absurd remaining Plan.not_yields_fail

private theorem parts_sound (formed : WellFormed environment.module)
    (covers : Covers environment.module environment.scope environment.frame activations)
    {parts : List TemplatePart} (stands : Stands environment (partsEvents parts))
    (yields : (Plan.template environment visited "" parts).Yields (Goal.Sound context) answer) :
    ∃ text, answer = .text text ∧
      Composes context.host context.options parts (environment.place activations) text := by
  have each (value : Expr) (present : .substitution value ∈ parts) :
      Stands environment (exprEvents value) :=
    stands.part (fun placed => placed.substitution present) (substitution_inside present)
  obtain ⟨text, same, composes⟩ := template_sound formed covers each yields
  rw [String.empty_append] at same
  exact ⟨text, same, composes⟩

/-- What stands in the scope noted for a node, with no function in between, is evaluated there. -/
theorem moved_sound (formed : WellFormed environment.module)
    (covers : Covers environment.module environment.scope environment.frame activations)
    {node : NodeId} {inner fallback : ScopeId}
    (noted : (node, inner) ∈ (bind environment.module.program).enclosing)
    (near : environment.module.scopes.functionsAround inner ⊆
      environment.module.scopes.functionsAround environment.scope) {value : Expr}
    (placed : Placed environment.module.program inner (exprEvents value))
    (sound : Goal.Sound context (.expression value (environment.withScope
      ((environment.module.scopes.enclosing? node).getD fallback))) answer) :
    ∃ meant, Evaluates context.host context.options value ((environment.place activations).moved
      ((environment.module.scopes.enclosing? node).getD fallback)) meant ∧ Means answer meant := by
  have enclosing : environment.module.scopes.enclosing? node = some inner := by
    rw [formed.scopes]
    exact formed.unique.enclosing? noted
  rw [enclosing, Option.getD_some] at sound ⊢
  exact sound ((environment.place activations).around inner) formed (.inl placed)
    (covers.around near (List.Subset.refl _))

private theorem declarator_sound (formed : WellFormed environment.module)
    (covers : Covers environment.module environment.scope environment.frame activations)
    {known : Variable}
    (outward : known.scope ∈ environment.module.scopes.ancestors environment.scope)
    {declaration : VariableDeclaration} {index : Nat}
    (last : known.definitions.getLast? = some (.declarator declaration index))
    (grounded : Grounded environment.module.program known.scope (.declarator declaration index))
    {declarator : Declarator} (here : declaration.declarators[index]? = some declarator)
    (yields : (Plan.declarator known declaration declarator environment visited).Yields
      (Goal.Sound context) answer) :
    ∃ meant, Denotes context.host context.options known (environment.place activations) meant ∧
      Means answer meant := by
  obtain ⟨inner, noted, near, placed⟩ := grounded
  unfold Plan.declarator at yields
  split at yields
  · rename_i binding initializer named initialized
    have around : environment.module.scopes.functionsAround inner ⊆
        environment.module.scopes.functionsAround environment.scope := by
      rw [← formed.scopes] at near
      exact List.Subset.trans near (ScopeTree.functionsAround_subset formed.valid outward)
    obtain ⟨meant, evaluates, means⟩ := moved_sound formed covers noted around
      (placed.initializer (List.mem_of_getElem? here) initialized) yields.of_become
    have held : declaration.declarators[index]? = some ⟨.name binding, some initializer⟩ := by
      obtain ⟨pattern, value⟩ := declarator
      dsimp only at named initialized
      rw [here, named, initialized]
    exact ⟨meant, .declarator last held evaluates, means⟩
  · exact absurd yields Plan.not_yields_fail
  · exact absurd yields Plan.not_yields_fail

private theorem parameter_sound (formed : WellFormed environment.module)
    (covers : Covers environment.module environment.scope environment.frame activations)
    {known : Variable}
    (around : known.scope ∈ environment.module.scopes.functionsAround environment.scope)
    {function : Function} {index : Nat}
    (last : known.definitions.getLast? = some (.parameter function index)) {loc : Loc}
    (yields : (Plan.parameter known loc environment visited).Yields (Goal.Sound context) answer) :
    ∃ meant, Denotes context.host context.options known (environment.place activations) meant ∧
      Means answer meant := by
  unfold Plan.parameter at yields
  dsimp only at yields
  split at yields
  · exact absurd yields Plan.not_yields_fail
  · rename_i frame found
    -- The function is around the use, so the frame found first is the call that the place has for
    -- it, however many frames of other calls are in front.
    obtain ⟨activation, present, represents⟩ := covers.activation around found
    have inside := represents.inside formed
    cases represents with
    | intro sameModule sameScope above captured supplied alike =>
        split at yields
        · rename_i value caller bound
          obtain ⟨given, looked⟩ := Option.isSome_iff_exists.mp (supplied _ _ bound)
          cases alike _ _ _ bound looked with
          | argument callerFormed stands callerCovers =>
              obtain ⟨meant, evaluates, means⟩ :=
                yields.of_become _ callerFormed stands callerCovers
              exact ⟨meant, .argument last present looked evaluates, means⟩
        · rename_i value bound
          obtain ⟨given, looked⟩ := Option.isSome_iff_exists.mp (supplied _ _ bound)
          cases alike _ _ _ bound looked with
          | default placed =>
              have sound := yields.of_become
              rw [sameModule, sameScope] at sound
              obtain ⟨meant, evaluates, means⟩ :=
                sound (activation.inside known.scope) formed (.inl placed) inside
              exact ⟨meant, .default last present looked evaluates, means⟩
        · exact absurd yields Plan.not_yields_fail

/-- The last definition of a variable, used at or inside its scope. -/
theorem declared_sound (hosted : ∀ held ∈ context.host, WellFormed held)
    (formed : WellFormed environment.module)
    (covers : Covers environment.module environment.scope environment.frame activations)
    {known : Variable}
    (outward : known.scope ∈ environment.module.scopes.ancestors environment.scope)
    (grounded : ∀ definition ∈ known.definitions,
      Grounded environment.module.program known.scope definition) {loc : Loc}
    (yields : (Plan.declared context known loc environment visited).Yields
      (Goal.Sound context) answer) :
    ∃ meant, Denotes context.host context.options known (environment.place activations) meant ∧
      Means answer meant := by
  unfold Plan.declared at yields
  dsimp only at yields
  split at yields
  · exact absurd yields Plan.not_yields_fail
  · rename_i declaration index last
    split at yields
    · exact absurd yields Plan.not_yields_fail
    · rename_i declarator here
      exact declarator_sound formed covers outward last
        (grounded _ (List.mem_of_getLast? last)) here yields
  · rename_i declaration kind imported localName last
    split at yields
    · exact absurd yields Plan.not_yields_fail
    · rename_i specific
      obtain ⟨target, resolved, rest⟩ := yields.of_withModule
      obtain ⟨meant, exports, means⟩ := rest.of_become (hosted target (Host.mem_of_fetch resolved))
      exact ⟨meant, .imported last specific resolved exports, means⟩
  · rename_i name function last
    have placed : Placed environment.module.program known.scope (functionEvents function) :=
      grounded _ (List.mem_of_getLast? last)
    have near := ScopeTree.functionsAround_subset formed.valid outward
    refine ⟨_, .functionName last, ?_⟩
    rw [yields.of_answer]
    exact .function formed fun _ _ =>
      ⟨known.scope, placed, covers.around near (List.Subset.refl _)⟩
  · rename_i function index last
    have closure : environment.module.scopes.isClosure known.scope = true := by
      rw [formed.scopes]
      exact grounded _ (List.mem_of_getLast? last)
    exact parameter_sound formed covers (ScopeTree.mem_functionsAround.mpr ⟨outward, closure⟩)
      last yields
  · exact absurd yields Plan.not_yields_fail

private theorem identifier_sound (hosted : ∀ held ∈ context.host, WellFormed held)
    (formed : WellFormed environment.module)
    (covers : Covers environment.module environment.scope environment.frame activations)
    {mark : Mark} {name : String}
    (yields : (Plan.identifier context mark name environment visited).Yields
      (Goal.Sound context) answer) :
    ∃ meant, Evaluates context.host context.options (.identifier mark name)
      (environment.place activations) meant ∧ Means answer meant := by
  unfold Plan.identifier at yields
  dsimp only at yields
  split at yields
  · exact absurd yields Plan.not_yields_fail
  · split at yields
    · exact absurd yields Plan.not_yields_fail
    · rename_i known found
      have looked : (bind environment.module.program).lookup environment.scope name =
          some known := by
        rw [← formed.scopes]
        exact found
      obtain ⟨outward, grounded⟩ := lookup_grounded looked
      rw [← formed.scopes] at outward
      obtain ⟨meant, denotes, means⟩ :=
        declared_sound hosted formed covers outward grounded yields
      exact ⟨meant, .identifier found denotes, means⟩

/-- Parameters stand for what they are supplied with: arguments where the call stands, defaults
where the function does. -/
theorem bindParameters_sound (formed : WellFormed environment.module)
    (covers : Covers environment.module environment.scope environment.frame activations)
    {module : Module} {own : ScopeId} {parameters : List Parameter} {arguments : List Argument}
    (given : ∀ argument ∈ arguments, Stands environment (exprEvents argument.value))
    (placed : ∀ parameter ∈ parameters, ∀ value, parameter.default = some value →
      Placed module.program own (exprEvents value))
    {bindings : List (String × Actual)}
    (bound : bindParameters environment parameters arguments = .ok bindings) :
    ∃ supplied, Supplies (environment.place activations) parameters arguments supplied ∧
      AllAlike module own bindings supplied := by
  induction parameters generalizing arguments bindings with
  | nil =>
      unfold bindParameters at bound
      cases bound
      exact ⟨[], .nil, .nil⟩
  | cons parameter rest ih =>
      obtain ⟨binding, actual, others, named, single, boundTo, remaining, rfl⟩ :=
        bindParameters_cons bound
      obtain ⟨supplied, supplies, alike⟩ :=
        ih (fun argument present => given argument (List.mem_of_mem_tail present))
          (fun other present => placed other (List.mem_cons_of_mem _ present)) remaining
      cases boundTo with
      | @argument argument first counts =>
          obtain ⟨later, rfl⟩ := List.head?_eq_some_iff.mp first
          have stands := given argument List.mem_cons_self
          exact ⟨_, .argument named single counts supplies,
            .cons ⟨rfl, .argument formed stands covers⟩ alike⟩
      | @default value absent default =>
          have uncounted (argument : Argument) (first : arguments.head? = some argument) :
              ¬ (environment.place activations).Counts argument := by
            intro counts
            have undefined := absent argument first
            exact Bool.false_ne_true (counts.symm.trans undefined)
          exact ⟨_, .default named single uncounted default supplies,
            .cons ⟨rfl, .default (placed parameter List.mem_cons_self value default)⟩ alike⟩

private theorem body_sound (formed : WellFormed environment.module)
    (covers : Covers environment.module environment.scope environment.frame activations)
    {function : Function}
    (placed : Placed environment.module.program environment.scope (bodyEvents function.body))
    (yields : (Plan.body function environment visited).Yields (Goal.Sound context) answer) :
    ∃ meant, Gives context.host context.options function (environment.place activations) meant ∧
      Means answer meant := by
  unfold Plan.body at yields
  split at yields
  · rename_i value body
    rw [body, bodyEvents] at placed
    obtain ⟨meant, evaluates, means⟩ := yields.of_become activations formed (.inl placed) covers
    exact ⟨meant, .expression body evaluates, means⟩
  · rename_i statements body
    rw [body, bodyEvents] at placed
    split at yields
    · rename_i statement found
      split at yields
      · exact absurd yields Plan.not_yields_fail
      · rename_i value returned
        have present : statement ∈ Stmt.listReturns statements := by
          rw [found]
          exact List.mem_singleton_self statement
        obtain ⟨inner, noted, near, stands⟩ := listReturns_within statements placed present
        rw [← formed.scopes] at near
        obtain ⟨meant, evaluates, means⟩ :=
          moved_sound formed covers noted near (stands value returned) yields.of_become
        exact ⟨meant, .returned body found returned evaluates, means⟩
    · exact absurd yields Plan.not_yields_fail

private theorem apply_sound (formed : WellFormed environment.module)
    (covers : Covers environment.module environment.scope environment.frame activations)
    {arguments : List Argument}
    (given : ∀ argument ∈ arguments, Stands environment (exprEvents argument.value))
    {closure : Closure} {captured : ScopeId → Option Activation}
    (closureFormed : WellFormed closure.module)
    (placed : ∀ own, closure.module.scopes.createdBy? closure.function.mark.id = some own →
      ∃ scope, Placed closure.module.program scope (functionEvents closure.function) ∧
        Covers closure.module scope closure.frame captured)
    {trail : Trail} {call : Mark}
    (yields : (Plan.apply trail closure call arguments environment visited).Yields
      (Goal.Sound context) answer) :
    closure.function.async = false ∧ closure.function.generator = false ∧
      (∀ argument ∈ arguments, argument.spread = false) ∧
      ∃ own bindings meant, closure.module.scopes.createdBy? closure.function.mark.id = some own ∧
        Supplies (environment.place activations) closure.function.parameters arguments bindings ∧
        Gives context.host context.options closure.function
          ⟨closure.module, own, Activation.inside ⟨bindings.reverse, captured⟩ own⟩ meant ∧
        Means answer meant := by
  unfold Plan.apply at yields
  dsimp only at yields
  split at yields
  · exact absurd yields Plan.not_yields_fail
  · rename_i plain
    split at yields
    · exact absurd yields Plan.not_yields_fail
    · rename_i direct
      split at yields
      · exact absurd yields Plan.not_yields_fail
      · rename_i noSpread
        split at yields
        · exact absurd yields Plan.not_yields_fail
        · rename_i own created
          split at yields
          · exact absurd yields Plan.not_yields_fail
          · exact absurd yields Plan.not_yields_fail
          · rename_i bindings bound
            obtain ⟨scope, standing, outerCovers⟩ := placed own created
            -- Nodes have numbers of their own, so the scope noted for the function is the one that
            -- the walk enters where the function stands.
            obtain ⟨entered, made, above, parameters, body⟩ := standing.function
            have same : entered = own := by
              rw [closureFormed.scopes, closureFormed.unique.createdBy? made] at created
              exact Option.some.inj created
            subst same
            obtain ⟨supplied, supplies, alike⟩ := bindParameters_sound formed covers given
              (fun parameter present value default => parameters.default present default) bound
            rw [← closureFormed.scopes] at above
            have represents := alike.represents above outerCovers trail
              ⟨environment.module.path, call.id⟩
            obtain ⟨meant, gives, means⟩ :=
              body_sound closureFormed (represents.inside closureFormed) body yields
            exact ⟨Bool.eq_false_iff.mpr plain, Bool.eq_false_iff.mpr direct,
              fun argument present =>
                Bool.eq_false_iff.mpr (List.find?_eq_none.mp noSpread argument present),
              entered, supplied, meant, created, supplies, gives, means⟩

private theorem call_sound (formed : WellFormed environment.module)
    (covers : Covers environment.module environment.scope environment.frame activations)
    {mark : Mark} {optional : Bool} {callee : Expr} {arguments : List Argument}
    (stands : Stands environment (exprEvents (.call mark optional callee arguments)))
    {trail : Trail}
    (yields : (Plan.call context trail mark callee arguments environment visited).Yields
      (Goal.Sound context) answer) :
    ∃ meant, Evaluates context.host context.options (.call mark optional callee arguments)
      (environment.place activations) meant ∧ Means answer meant := by
  have lexical : wrapperName? context.options (environment.place activations).lexical callee =
      wrapperName? context.options environment callee := rfl
  unfold Plan.call at yields
  split at yields
  · rename_i wrapper known
    rw [← lexical] at known
    split at yields
    · exact absurd yields Plan.not_yields_fail
    · rename_i first given
      split at yields
      · exact absurd yields Plan.not_yields_fail
      · rename_i single
        obtain ⟨meant, evaluates, means⟩ := yields.of_become activations formed
          (stands.argument (List.mem_of_head? given)) covers
        exact ⟨meant, .wrapper known given (Bool.eq_false_iff.mpr single) evaluates, means⟩
  · rename_i unwrapped
    rw [← lexical] at unwrapped
    obtain ⟨evaluated, sound, remaining⟩ := Plan.Yields.of_withValue yields
    obtain ⟨calleeMeant, calleeEvaluates, calleeMeans⟩ :=
      sound activations formed stands.callee covers
    cases calleeMeans with
    | text => exact absurd remaining Plan.not_yields_fail
    | @function closure captured closureFormed placed =>
        dsimp only at remaining
        split at remaining
        · exact absurd remaining Plan.not_yields_fail
        · obtain ⟨plain, direct, noSpread, own, bindings, meant, created, supplies, gives, means⟩ :=
            apply_sound formed covers (fun _ present => stands.argument present) closureFormed
              placed remaining
          exact ⟨meant, .call unwrapped calleeEvaluates plain direct noSpread created supplies
            gives, means⟩

/-- A function expression takes along what covers its place. -/
theorem closure_means (formed : WellFormed environment.module)
    (covers : Covers environment.module environment.scope environment.frame activations)
    {function : Function} {whole : List Event} (stands : Stands environment whole)
    (placed : Placed environment.module.program environment.scope whole →
      ∃ inner, Placed environment.module.program inner (functionEvents function) ∧
        (bind environment.module.program).functionsAround inner ⊆
          (bind environment.module.program).functionsAround environment.scope)
    (inside : functionEvents function <:+: whole) :
    Means (.function ⟨function, environment.module, environment.frame⟩)
      (.function function environment.module
        ((environment.place activations).around environment.scope)) := by
  refine .function formed fun own created => ?_
  rcases stands with standing | ⟨outside, belongs⟩
  · obtain ⟨inner, there, near⟩ := placed standing
    rw [← formed.scopes] at near
    exact ⟨inner, there, covers.around near near⟩
  · dsimp only at created ⊢
    rw [formed.scopes] at created
    obtain ⟨scope, there⟩ := (belongs.part inside).placed created
    rw [outside]
    exact ⟨scope, there, covers_none _ _ _⟩

private theorem expression_sound (hosted : ∀ held ∈ context.host, WellFormed held)
    (formed : WellFormed environment.module)
    (covers : Covers environment.module environment.scope environment.frame activations)
    {value : Expr} (stands : Stands environment (exprEvents value)) {trail : Trail}
    (yields : (Plan.expression context trail value environment visited).Yields
      (Goal.Sound context) answer) :
    ∃ meant, Evaluates context.host context.options value (environment.place activations) meant ∧
      Means answer meant := by
  cases value with
  | tagged mark tag parts =>
      cases tag with
      | identifier tagMark name =>
          unfold Plan.expression at yields
          dsimp only at yields
          split at yields
          · rename_i query
            have partsStand : Stands environment (partsEvents parts) := by
              apply stands.part Placed.tagged
              rw [exprEvents]
              exact List.infix_cons List.infix_append_right
            obtain ⟨text, rfl, composes⟩ := parts_sound formed covers partsStand yields
            exact ⟨.text text, .tagged query composes, .text⟩
          · exact absurd yields Plan.not_yields_fail
      | _ => exact absurd yields Plan.not_yields_fail
  | template mark parts =>
      have partsStand : Stands environment (partsEvents parts) := by
        apply stands.part Placed.template
        rw [exprEvents]
        exact List.infix_cons (List.infix_refl _)
      obtain ⟨text, rfl, composes⟩ := parts_sound formed covers partsStand yields
      exact ⟨.text text, .template composes, .text⟩
  | identifier mark name => exact identifier_sound hosted formed covers yields
  | call mark optional callee arguments => exact call_sound formed covers stands yields
  | arrow mark function =>
      refine ⟨_, .arrow, ?_⟩
      rw [Plan.Yields.of_answer yields]
      apply closure_means formed covers stands
      · exact fun placed => ⟨_, placed.arrow, List.Subset.refl _⟩
      · rw [exprEvents]
        exact List.infix_cons (List.infix_refl _)
  | function mark name function =>
      refine ⟨_, .function, ?_⟩
      rw [Plan.Yields.of_answer yields]
      apply closure_means formed covers stands Placed.functionExpression
      rw [exprEvents]
      exact List.infix_cons (List.infix_append _ _ _)
  | string mark text =>
      rw [Plan.Yields.of_answer yields]
      exact ⟨_, .string, .text⟩
  | number mark number =>
      rw [Plan.Yields.of_answer yields]
      exact ⟨_, .number, .text⟩
  | boolean mark truth =>
      rw [Plan.Yields.of_answer yields]
      exact ⟨_, .boolean, .text⟩
  | bigInteger mark digits =>
      rw [Plan.Yields.of_answer yields]
      exact ⟨_, .bigInteger, .text⟩
  | null mark => exact absurd yields Plan.not_yields_fail
  | regex mark pattern => exact absurd yields Plan.not_yields_fail
  | binary mark operator left right => exact absurd yields Plan.not_yields_fail
  | member mark optional object property => exact absurd yields Plan.not_yields_fail
  | array mark elements => exact absurd yields Plan.not_yields_fail
  | object mark members => exact absurd yields Plan.not_yields_fail

private theorem wildcards_sound (hosted : ∀ held ∈ context.host, WellFormed held) {target : Module}
    {name : String} {missing : Failure} {sources : List (String × Loc)}
    (yields : (Plan.wildcards context target name visited missing sources).Yields
      (Goal.Sound context) answer) :
    ∃ source loc found meant, (source, loc) ∈ sources ∧
      context.host.fetch source target.path = .ok found ∧
        Exports context.host context.options found name meant ∧ Means answer meant := by
  induction sources with
  | nil => exact absurd yields Plan.not_yields_fail
  | cons first rest ih =>
      obtain ⟨source, loc⟩ := first
      unfold Plan.wildcards at yields
      obtain ⟨found, resolved, asked⟩ := Plan.Yields.of_withModule yields
      cases asked with
      | answered sound remaining =>
          obtain ⟨meant, exports, means⟩ := sound (hosted found (Host.mem_of_fetch resolved))
          rw [Plan.Yields.of_answer remaining]
          exact ⟨source, loc, found, meant, List.mem_cons_self, resolved, exports, means⟩
      | failed remaining =>
          dsimp only at remaining
          split at remaining
          · obtain ⟨other, place, module, meant, present, resolvedLater, exports, means⟩ :=
              ih remaining
            exact ⟨other, place, module, meant, List.mem_cons_of_mem _ present, resolvedLater,
              exports, means⟩
          · exact absurd remaining Plan.not_yields_fail

private theorem topLevel_sound (hosted : ∀ held ∈ context.host, WellFormed held) {target : Module}
    (formed : WellFormed target) {name : String} {known : Variable}
    (found : target.scopes.declared? ScopeTree.root name = some known) {loc : Loc}
    (yields : (Plan.declared context known loc (.ofModule target) visited).Yields
      (Goal.Sound context) answer) :
    ∃ meant, Denotes context.host context.options known (.ofModule target) meant ∧
      Means answer meant := by
  have declared : (bind target.program).declared? ScopeTree.root name = some known := by
    rw [← formed.scopes]
    exact found
  obtain ⟨atRoot, grounded⟩ := declared?_grounded declared
  have covers : Covers (Environment.ofModule target).module (Environment.ofModule target).scope
      (Environment.ofModule target).frame fun _ => none := covers_none _ _ _
  have outward : known.scope ∈ target.scopes.ancestors ScopeTree.root := by
    rw [atRoot]
    exact ScopeTree.mem_ancestors_self formed.valid _
  rw [← atRoot] at grounded
  exact declared_sound hosted formed covers outward grounded yields

private theorem exported_sound (hosted : ∀ held ∈ context.host, WellFormed held) {target : Module}
    (formed : WellFormed target) {name : String} {requester : Module} {loc : Loc}
    (yields : (Plan.exported context target name requester loc visited).Yields
      (Goal.Sound context) answer) :
    ∃ meant, Exports context.host context.options target name meant ∧ Means answer meant := by
  have covers := covers_none target ScopeTree.root fun _ => none
  have top := Placed.whole target.program
  unfold Plan.exported at yields
  split at yields
  · exact absurd yields Plan.not_yields_fail
  · split at yields
    · rename_i value default
      split at default
      · rename_i isDefault
        subst isDefault
        obtain ⟨mark, present⟩ := mem_of_defaultExpression default
        have standing := top.statement present
        rw [stmtEvents] at standing
        obtain ⟨meant, evaluates, means⟩ :=
          yields.of_become (fun _ => none) formed (.inl standing.node) covers
        exact ⟨meant, .defaultExpression default evaluates, means⟩
      · cases default
    · rename_i function default
      split at default
      · rename_i isDefault
        subst isDefault
        obtain ⟨mark, exported, declaredName, present⟩ := mem_of_defaultFunction default
        refine ⟨_, .defaultFunction default, ?_⟩
        rw [yields.of_answer]
        exact .function formed fun _ _ =>
          ⟨_, (top.statement present).declaration, covers_none _ _ _⟩
      · cases default
    · rename_i noDefault
      have provided : name = "default" → defaultExport? target.body = none := by
        intro isDefault
        rw [if_pos isDefault] at noDefault
        exact noDefault
      unfold Plan.namedExport at yields
      split at yields
      · rename_i known found
        obtain ⟨meant, denotes, means⟩ := topLevel_sound hosted formed found yields
        exact ⟨meant, .topLevel provided found denotes, means⟩
      · rename_i undeclared
        split at yields
        · rename_i entry source listed
          unfold Plan.exportEntry at yields
          split at yields
          · obtain ⟨found, resolved, rest⟩ := yields.of_withModule
            obtain ⟨meant, exports, means⟩ :=
              rest.of_become (hosted found (Host.mem_of_fetch resolved))
            exact ⟨meant, .reexported provided undeclared listed resolved exports, means⟩
          · split at yields
            · rename_i known found
              obtain ⟨meant, denotes, means⟩ := topLevel_sound hosted formed found yields
              exact ⟨meant, .listed provided undeclared listed found denotes, means⟩
            · exact absurd yields Plan.not_yields_fail
        · rename_i unlisted
          obtain ⟨source, place, found, meant, present, resolved, exports, means⟩ :=
            wildcards_sound hosted yields
          exact ⟨meant, .wildcard provided undeclared unlisted present resolved exports, means⟩

end Steps

/-! ### Runs -/

private theorem Task.plan_sound {context : Context}
    (hosted : ∀ held ∈ context.host, WellFormed held) {task : Task} {answer : Value}
    (yields : (task.plan context).Yields (Goal.Sound context) answer) :
    task.goal.Sound context answer := by
  obtain ⟨goal, visited, trail⟩ := task
  cases goal with
  | expression value environment =>
      intro activations formed stands covers
      exact expression_sound hosted formed covers stands yields
  | exported target name requester loc =>
      intro formed
      exact exported_sound hosted formed yields

private theorem solve_sound {context : Context}
    (hosted : ∀ held ∈ context.host, WellFormed held) (budget : Nat) (task : Task)
    (answer : Value) (solved : (solve context budget task).result = .ok answer) :
    task.goal.Sound context answer := by
  have sound : ∀ answer, (solve context budget task).result = .ok answer →
      task.goal.Sound context answer := by
    apply solve_induction (motive := fun task outcome =>
      ∀ answer, outcome.result = .ok answer → task.goal.Sound context answer)
    · intro task cause answer solved
      cases solved
    · intro budget ih task answer solved
      exact Task.plan_sound hosted (Plan.yields_of_follow ih solved)
  exact sound answer solved

/-- The text that a resolution ends with is what the expression means where it stands. Each node of
a module has a number of its own there, and the expression is a part of its module or shares no
node with it. -/
theorem resolveText_sound (context : Context) (module : Module) (scope : ScopeId) (value : Expr)
    {text : String} (formed : WellFormed module)
    (hosted : ∀ held ∈ context.host, WellFormed held)
    (belongs : Belongs module.program (exprEvents value))
    (succeeded : (resolveText context value ⟨module, scope, none⟩).result = .ok text) :
    Evaluates context.host context.options value ⟨module, scope, fun _ => none⟩ (.text text) := by
  unfold resolveText at succeeded
  dsimp only at succeeded
  split at succeeded
  · rename_i found solved
    cases succeeded
    obtain ⟨meant, evaluates, means⟩ := solve_sound hosted _ _ _ solved (fun _ => none) formed
      (.inr ⟨rfl, belongs⟩) (covers_none module scope _)
    cases means with
    | text => exact evaluates
  · cases succeeded
  · cases succeeded

/-- The module's `curried` takes two arguments in two calls and gives both, joined. -/
def curriedHost : MemoryHost :=
  MemoryHost.empty.insert "/curried.ts" ⟨numbered 0,
    [.variables ⟨numbered 1, true, .constant, [⟨.name ⟨numbered 2, "curried"⟩,
      some (.arrow (numbered 3) ⟨numbered 4, true, false, false,
        [⟨numbered 5, false, .name ⟨numbered 6, "x"⟩, none⟩],
        .expression (.arrow (numbered 7) ⟨numbered 8, true, false, false,
          [⟨numbered 9, false, .name ⟨numbered 10, "y"⟩, none⟩],
          .expression (.template (numbered 11) [.substitution (.identifier (numbered 12) "x"),
            .substitution (.identifier (numbered 13) "y")])⟩)⟩)⟩], []⟩], ⟨[]⟩⟩

def curriedImport : Module :=
  .ofProgram "/page.ts" ⟨numbered 0, [.imports ⟨numbered 1, false, none,
    some (.some [⟨"curried", ⟨numbered 2, "curried"⟩⟩]), "/curried.ts"⟩], ⟨[]⟩⟩

def curriedCall : Expr :=
  .call (numbered 20) false
    (.call (numbered 21) false (.identifier (numbered 22) "curried")
      [⟨numbered 23, false, .string (numbered 24) "a"⟩])
    [⟨numbered 25, false, .string (numbered 26) "b"⟩]

theorem closure_sees_outer_parameter :
    WellFormed curriedImport ∧ (∀ held ∈ curriedHost.host, WellFormed held) ∧
      Belongs curriedImport.program (exprEvents curriedCall) ∧
        Evaluates curriedHost .standard curriedCall ⟨curriedImport, ScopeTree.root, fun _ => none⟩
          (.text "ab") := by
  have formed : WellFormed curriedImport := ⟨rfl, by decide +kernel⟩
  have hosted : ∀ held ∈ curriedHost.host, WellFormed held := by
    intro held present
    rw [List.mem_singleton.mp (MemoryHost.mem_modules present)]
    exact ⟨rfl, by decide +kernel⟩
  have foreign : Belongs curriedImport.program (exprEvents curriedCall) := by
    right
    decide +kernel
  have succeeded : (resolveText (.still curriedHost) curriedCall
      ⟨curriedImport, ScopeTree.root, none⟩).result = .ok "ab" :=
    TextOutcome.text?_eq_some_iff.mp (by decide +kernel)
  exact ⟨formed, hosted, foreign, resolveText_sound (.still curriedHost) curriedImport _
    curriedCall formed hosted foreign succeeded⟩

end QueryTypes.Resolution
