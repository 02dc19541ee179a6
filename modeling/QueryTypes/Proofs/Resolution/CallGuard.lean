import QueryTypes.Proofs.Resolution.DepthBudget

/-!
What the guard of calls refuses.

Evaluation without that guard is followed side by side with evaluation under it. The two stay
together up to the first call whose key is already on the way; there the guarded one ends with a
circular reference. A key names a call, the call around it and the function, but not what lies
further out, so this also happens where nothing is circular.
-/

set_option autoImplicit false

namespace QueryTypes.Resolution

open QueryTypes.Script
open QueryTypes.Source
open QueryTypes.Scoping
open QueryTypes.Modules

def Context.guardingCalls (context : Context) (guarding : Bool) : Context :=
  { context with guards := { context.guards with calls := guarding } }

def Environment.callKey (environment : Environment) (mark : Mark) (closure : Closure) : CallKey :=
  { site := ⟨environment.module.path, mark.id⟩
    caller := environment.frame.map (·.site)
    callee := ⟨closure.module.path, closure.function.mark.id⟩ }

/-- The task is a call of a function whose key is on the way already. -/
def Task.RepeatsCall (options : Options) (solve : Task → Outcome) (task : Task) : Prop :=
  ∃ mark optional callee arguments environment closure,
    task.goal = .expression (.call mark optional callee arguments) environment ∧
      wrapperName? options environment callee = none ∧
      (solve ⟨.expression callee environment, task.visited, 0 :: task.trail⟩).result =
        .ok (.function closure) ∧
      environment.callKey mark closure ∈ task.visited.calls

/-- Somewhere on the way a call is made in time whose key is on the way to it. -/
def RepeatsCall (context : Context) (budget : Nat) (task : Task) : Prop :=
  ∃ left inner, Nested context budget task (left + 1) inner ∧
    context.expired (.start inner.trail) = false ∧
      inner.RepeatsCall context.options (solve context left)

def Outcome.IsCircular (outcome : Outcome) : Prop :=
  ∃ failure name, outcome.result = .error failure ∧ failure.cause = .circularReference name

private theorem Cause.circularReference_kept {cause : Cause} {name : String}
    (circular : cause = .circularReference name) : cause.isExportMissing = false := by
  rw [circular]
  rfl

section Following

variable {expired : Moment → Bool} {trail : Trail} {count : Nat} {plan : Plan} {task : Task}

private theorem Plan.Requests.isCircular {solve : Task → Outcome}
    (requested : plan.Requests expired solve trail count task) (passes : plan.PassesFailures)
    (circular : (solve task).IsCircular) :
    (plan.follow expired solve trail count).IsCircular := by
  obtain ⟨failure, name, failed, cause⟩ := circular
  have kept := Cause.circularReference_kept cause
  exact ⟨failure, name, requested.follow_error passes failed kept, cause⟩

/-- If answers agree but for some that become circular references, then following a plan agrees
too unless one of those is requested, and then it ends with a circular reference. -/
theorem Plan.follow_isCircular {first second : Task → Outcome} {refused : Task → Prop}
    (agree : ∀ task, ¬ refused task → second task = first task)
    (refuse : ∀ task, refused task → (second task).IsCircular)
    (requested : plan.Requests expired first trail count task) (passes : plan.PassesFailures)
    (hit : refused task) : (plan.follow expired second trail count).IsCircular := by
  induction requested with
  | timed running _ ih =>
      rw [follow_timed running]
      exact ih passes.2 hit
  | load _ ih => exact ih passes hit
  | now => exact Requests.isCircular .now passes (refuse _ hit)
  | @later count goal visited next task _ ih =>
      by_cases earlier : refused ⟨goal, visited, count :: trail⟩
      · exact Requests.isCircular .now passes (refuse _ earlier)
      · rw [← agree _ earlier] at ih
        exact ih (passes.2 _) hit

end Following

private theorem Visited.enterCall_of_not_mem {visited : Visited} {key : CallKey} (guards : Guards)
    (fresh : key ∉ visited.calls) :
    visited.enterCall guards key = some { visited with calls := key :: visited.calls } := by
  unfold enterCall
  simp [fresh]

private theorem Visited.enterCall_of_mem {visited : Visited} {key : CallKey} {guards : Guards}
    (guarding : guards.calls = true) (repeated : key ∈ visited.calls) :
    visited.enterCall guards key = none := by
  unfold enterCall
  simp [guarding, repeated]

section Step

variable {context : Context} {expired : Moment → Bool} {solve : Task → Outcome}

/-- A call whose key is new is planned alike with the guard and without. -/
theorem Task.follow_guarded_eq {task : Task} (fresh : ¬ task.RepeatsCall context.options solve) :
    (task.plan (context.guardingCalls true)).follow expired solve task.trail 0 =
      (task.plan (context.guardingCalls false)).follow expired solve task.trail 0 := by
  obtain ⟨goal, visited, trail⟩ := task
  cases goal with
  | exported target name requester loc =>
      have sameHost : (context.guardingCalls true).host = (context.guardingCalls false).host := rfl
      have sameTime : (context.guardingCalls true).options.timeoutMs =
          (context.guardingCalls false).options.timeoutMs := rfl
      simp only [plan, Plan.exported, Plan.namedExport, Plan.wildcards_congr sameHost sameTime]
      rfl
  | expression value environment =>
      cases value with
      | tagged mark tag parts => cases tag <;> rfl
      | call mark optional callee arguments =>
          simp only [plan, Plan.expression, Plan.call]
          cases wrapper : wrapperName? context.options environment callee with
          | some name =>
              simp only [Context.guardingCalls, wrapper]
          | none =>
              simp only [Context.guardingCalls, wrapper, Plan.callValue, Plan.withValue,
                Plan.follow]
              cases answered : (solve ⟨.expression callee environment, visited, 0 :: trail⟩).result
                with
              | error failure => rfl
              | ok answer =>
                  cases answer with
                  | text text => rfl
                  | function closure =>
                      have new : environment.callKey mark closure ∉ visited.calls := fun repeated =>
                        fresh ⟨mark, optional, callee, arguments, environment, closure, rfl,
                          wrapper, answered, repeated⟩
                      unfold Environment.callKey at new
                      simp only [Visited.enterCall_of_not_mem _ new]
      | _ => rfl

/-- A call whose key is on the way already is refused under the guard. -/
theorem Task.follow_guarded_isCircular {task : Task}
    (repeated : task.RepeatsCall context.options solve) :
    ((task.plan (context.guardingCalls true)).follow expired solve task.trail 0).IsCircular := by
  obtain ⟨goal, visited, trail⟩ := task
  obtain ⟨mark, optional, callee, arguments, environment, closure, isCall, wrapper, answered,
    known⟩ := repeated
  dsimp only at isCall answered known
  subst isCall
  unfold Environment.callKey at known
  have guarding : (context.guardingCalls true).guards.calls = true := rfl
  have noWrapper : wrapperName? (context.guardingCalls true).options environment callee = none :=
    wrapper
  refine ⟨environment.failure mark.loc (.circularReference (Plan.calleeName callee)), _, ?_, rfl⟩
  simp only [plan, Plan.expression, Plan.call, noWrapper, Plan.callValue, Plan.withValue,
    Plan.follow, answered, Visited.enterCall_of_mem guarding known]
  rfl

/-- A call that is no wrapper requests the value of its callee, so a repeated key is noticed under
any answers that agree on it. -/
theorem Task.RepeatsCall.congr {first second : Task → Outcome} {task : Task}
    (agree : ∀ inner,
      (task.plan (context.guardingCalls false)).Requests expired first task.trail 0 inner →
        second inner = first inner) :
    task.RepeatsCall context.options second ↔ task.RepeatsCall context.options first := by
  obtain ⟨goal, visited, trail⟩ := task
  have same (mark : Mark) (optional : Bool) (callee : Expr) (arguments : List Argument)
      (environment : Environment)
      (isCall : goal = .expression (.call mark optional callee arguments) environment)
      (wrapper : wrapperName? context.options environment callee = none) :
      second ⟨.expression callee environment, visited, 0 :: trail⟩ =
        first ⟨.expression callee environment, visited, 0 :: trail⟩ := by
    apply agree
    have noWrapper : wrapperName? (context.guardingCalls false).options environment callee = none :=
      wrapper
    subst isCall
    simp only [plan, Plan.expression, Plan.call, noWrapper]
    exact .now
  constructor
  · rintro ⟨mark, optional, callee, arguments, environment, closure, isCall, wrapper, answered,
      known⟩
    rw [same mark optional callee arguments environment isCall wrapper] at answered
    exact ⟨mark, optional, callee, arguments, environment, closure, isCall, wrapper, answered,
      known⟩
  · rintro ⟨mark, optional, callee, arguments, environment, closure, isCall, wrapper, answered,
      known⟩
    rw [← same mark optional callee arguments environment isCall wrapper] at answered
    exact ⟨mark, optional, callee, arguments, environment, closure, isCall, wrapper, answered,
      known⟩

end Step

section Run

variable {context : Context}

private theorem not_repeatsCall_zero (task : Task) : ¬ RepeatsCall context 0 task := by
  rintro ⟨left, inner, nested, _⟩
  cases nested

private theorem not_repeatsCall_of_expired {task : Task}
    (expired : context.expired (.start task.trail) = true) (budget : Nat) :
    ¬ RepeatsCall context budget task := by
  rintro ⟨left, inner, nested, running, _⟩
  cases nested with
  | itself => exact Bool.false_ne_true (running.symm.trans expired)
  | inside outside _ _ => exact Bool.false_ne_true (outside.symm.trans expired)

private theorem repeatsCall_succ_iff {task : Task}
    (running : context.expired (.start task.trail) = false) {budget : Nat} :
    RepeatsCall context (budget + 1) task ↔
      task.RepeatsCall context.options (solve context budget) ∨
        ∃ inner, (task.plan context).Requests context.expired (solve context budget) task.trail 0
            inner ∧ RepeatsCall context budget inner := by
  constructor
  · rintro ⟨left, inner, nested, inTime, repeated⟩
    cases nested with
    | itself => exact .inl repeated
    | inside _ requested deeper => exact .inr ⟨_, requested, left, inner, deeper, inTime, repeated⟩
  · rintro (repeated | ⟨inner, requested, left, innermost, nested, inTime, repeated⟩)
    · exact ⟨budget, task, .itself, running, repeated⟩
    · exact ⟨left, innermost, .inside running requested nested, inTime, repeated⟩

private theorem Context.expired_guardingCalls (context : Context) (guarding : Bool) :
    (context.guardingCalls guarding).expired = context.expired := rfl

/-- Side by side, the guarded evaluation is the unguarded one if no call repeats a key, and a
circular reference otherwise. -/
theorem solve_guardingCalls (budget : Nat) (task : Task) :
    (¬ RepeatsCall (context.guardingCalls false) budget task →
        solve (context.guardingCalls true) budget task =
          solve (context.guardingCalls false) budget task) ∧
      (RepeatsCall (context.guardingCalls false) budget task →
        (solve (context.guardingCalls true) budget task).IsCircular) := by
  -- Both evaluations look at the same clock and spend the budget alike, so the induction is on it.
  -- In a step either a request repeats a call further down or all requests agree and only the task
  -- itself can repeat one.
  induction budget generalizing task with
  | zero =>
      refine ⟨fun _ => ?_, fun repeated => absurd repeated (not_repeatsCall_zero task)⟩
      unfold solve
      rfl
  | succ budget ih =>
      cases inTime : context.expired (.start task.trail) with
      | true =>
          have guardedLate :
              (context.guardingCalls true).expired (.start task.trail) = true := inTime
          have freeLate : (context.guardingCalls false).expired (.start task.trail) = true := inTime
          refine ⟨fun _ => ?_, fun repeated =>
            absurd repeated (not_repeatsCall_of_expired freeLate _)⟩
          rw [solve_expired guardedLate, solve_expired freeLate]
          rfl
      | false =>
          have guardedRunning : (context.guardingCalls true).expired (.start task.trail) = false :=
            inTime
          have freeRunning : (context.guardingCalls false).expired (.start task.trail) = false :=
            inTime
          have passes := task.plan_passesFailures (context.guardingCalls false)
          rw [repeatsCall_succ_iff freeRunning, solve_succ guardedRunning, solve_succ freeRunning]
          simp only [Context.expired_guardingCalls]
          by_cases deeper : ∃ inner, (task.plan (context.guardingCalls false)).Requests
              context.expired (solve (context.guardingCalls false) budget) task.trail 0 inner ∧
                RepeatsCall (context.guardingCalls false) budget inner
          · refine ⟨fun fresh => absurd (.inr deeper) fresh, fun _ => ?_⟩
            obtain ⟨inner, requested, hit⟩ := deeper
            by_cases repeated : task.RepeatsCall context.options
                (solve (context.guardingCalls true) budget)
            · exact Task.follow_guarded_isCircular repeated
            · rw [Task.follow_guarded_eq repeated]
              exact Plan.follow_isCircular (fun other => (ih other).1) (fun other => (ih other).2)
                requested passes hit
          · have agree (inner : Task)
                (requested : (task.plan (context.guardingCalls false)).Requests context.expired
                  (solve (context.guardingCalls false) budget) task.trail 0 inner) :
                solve (context.guardingCalls true) budget inner =
                  solve (context.guardingCalls false) budget inner :=
              (ih inner).1 fun repeated => deeper ⟨inner, requested, repeated⟩
            have sameCalls := Task.RepeatsCall.congr agree
            constructor
            · intro fresh
              have new : ¬ task.RepeatsCall context.options
                  (solve (context.guardingCalls true) budget) :=
                fun repeated => fresh (.inl (sameCalls.mp repeated))
              rw [Task.follow_guarded_eq new]
              exact Plan.follow_eq_of_requests _ _ agree
            · rintro (repeated | other)
              · exact Task.follow_guarded_isCircular (sameCalls.mpr repeated)
              · exact absurd other deeper

end Run

theorem resolveText_congr {first second : Context} {value : Expr} {environment : Environment}
    (same : solve first first.options.maxDepth (startingTask value environment) =
      solve second second.options.maxDepth (startingTask value environment)) :
    resolveText first value environment = resolveText second value environment := by
  unfold startingTask at same
  simp only [resolveText, same]

def TextOutcome.IsCircular (outcome : TextOutcome) : Prop :=
  ∃ failure name, outcome.result = .error failure ∧ failure.cause = .circularReference name

private theorem resolveText_isCircular {context : Context} {value : Expr}
    {environment : Environment}
    (circular : (solve context context.options.maxDepth
      (startingTask value environment)).IsCircular) :
    (resolveText context value environment).IsCircular := by
  obtain ⟨failure, name, failed, cause⟩ := circular
  unfold startingTask at failed
  refine ⟨failure, name, ?_, cause⟩
  simp only [resolveText, failed]

theorem TextOutcome.IsCircular.not_isCutOff {outcome : TextOutcome}
    (circular : outcome.IsCircular) :
    outcome.isCutOff = false := by
  obtain ⟨failure, name, failed, cause⟩ := circular
  simp only [isCutOff, failed, cause, Cause.isCutOff]

/-- Let evaluation without the guard of calls end with a text. Under the guard it ends with that
text, whatever the budget from some depth on, exactly if no call on the way repeats a key; if one
does, it ends with a circular reference instead. -/
theorem resolveText_guarded_iff_no_repeated_call (context : Context) (value : Expr)
    (environment : Environment) {depth : Nat} {text : String}
    (ended : (resolveText ((context.guardingCalls false).withDepth depth) value
      environment).result = .ok text) :
    ((∃ least, ∀ larger, least ≤ larger →
        (resolveText ((context.guardingCalls true).withDepth larger) value environment).result =
          .ok text) ↔
      ¬ RepeatsCall ((context.guardingCalls false).withDepth depth) depth
        (startingTask value environment)) ∧
    (RepeatsCall ((context.guardingCalls false).withDepth depth) depth
        (startingTask value environment) →
      ∀ larger, depth ≤ larger →
        (resolveText ((context.guardingCalls true).withDepth larger) value
          environment).IsCircular) := by
  obtain ⟨alike, refused⟩ :=
    @solve_guardingCalls (context.withDepth depth) depth (startingTask value environment)
  have circular (repeated : RepeatsCall ((context.guardingCalls false).withDepth depth) depth
      (startingTask value environment)) (larger : Nat) (depth_le : depth ≤ larger) :
      (resolveText ((context.guardingCalls true).withDepth larger) value
        environment).IsCircular := by
    have atDepth : (resolveText ((context.guardingCalls true).withDepth depth) value
        environment).IsCircular := resolveText_isCircular (refused repeated)
    rw [resolveText_withDepth_eq _ value environment depth_le atDepth.not_isCutOff]
    exact atDepth
  refine ⟨⟨?_, ?_⟩, circular⟩
  · rintro ⟨least, always⟩ repeated
    have succeeded := always (max least depth) (Nat.le_max_left _ _)
    obtain ⟨failure, name, failed, _⟩ :=
      circular repeated (max least depth) (Nat.le_max_right _ _)
    rw [succeeded] at failed
    cases failed
  · intro fresh
    have atDepth : resolveText ((context.guardingCalls true).withDepth depth) value environment =
        resolveText ((context.guardingCalls false).withDepth depth) value environment :=
      resolveText_congr (alike fresh)
    have finished : (resolveText ((context.guardingCalls true).withDepth depth) value
        environment).isCutOff = false := by
      rw [atDepth]
      simp only [TextOutcome.isCutOff, ended]
    refine ⟨depth, fun larger depth_le => ?_⟩
    rw [resolveText_withDepth_eq _ value environment depth_le finished, atDepth, ended]

/-! ### Helpers that call helpers -/

/-- `const name = parameter => body`, its nodes numbered from the given one on. -/
private def unary (id : NodeId) (name parameter : String) (body : Expr) : Stmt :=
  .variables ⟨numbered id, false, .constant, [⟨.name ⟨numbered (id + 1), name⟩,
    some (.arrow (numbered (id + 2)) ⟨numbered (id + 3), true, false, false,
      [⟨numbered (id + 4), false, .name ⟨numbered (id + 5), parameter⟩, none⟩],
      .expression body⟩)⟩], []⟩

private def applied (id : NodeId) (function : String) (argument : Expr) : Expr :=
  .call (numbered id) false (.identifier (numbered (id + 1)) function)
    [⟨numbered (id + 2), false, argument⟩]

/-- `same` gives its argument back, `once` does so through it, and `twice` through `once`. -/
def helpers : Module :=
  .ofProgram "/helpers.ts" ⟨numbered 0,
    [unary 10 "same" "x" (.identifier (numbered 16) "x"),
      unary 20 "once" "x" (applied 26 "same" (.identifier (numbered 29) "x")),
      unary 30 "twice" "y" (applied 36 "once" (.identifier (numbered 39) "y"))], ⟨[]⟩⟩

def helpersContext : Context := .still .empty

def helperInHelper (helper : String) : Expr :=
  applied 40 helper (applied 50 helper (.string (numbered 60) "*"))

private def freely (helper : String) (depth : Nat) : TextOutcome :=
  resolveText ((helpersContext.guardingCalls false).withDepth depth) (helperInHelper helper)
    (.ofModule helpers)

private def guarded (helper : String) (depth : Nat) : TextOutcome :=
  resolveText ((helpersContext.guardingCalls true).withDepth depth) (helperInHelper helper)
    (.ofModule helpers)

theorem no_repeated_call_once :
    (freely "once" 9).result = .ok "*" ∧
      ¬ RepeatsCall ((helpersContext.guardingCalls false).withDepth 9) 9
        (startingTask (helperInHelper "once") (.ofModule helpers)) := by
  have ended : (freely "once" 9).result = .ok "*" :=
    TextOutcome.text?_eq_some_iff.mp (by decide +kernel)
  have finished : (guarded "once" 9).isCutOff = false := by decide +kernel
  have succeeded : (guarded "once" 9).result = .ok "*" :=
    TextOutcome.text?_eq_some_iff.mp (by decide +kernel)
  refine ⟨ended, (resolveText_guarded_iff_no_repeated_call _ _ _ ended).1.mp ⟨9, ?_⟩⟩
  intro larger depth_le
  rw [resolveText_withDepth_eq _ _ _ depth_le finished]
  exact succeeded

/-- Of two calls of `twice`, one inside the other, both reach `same` by way of the same two calls,
so their keys agree, although evaluation without the guard ends. -/
theorem guard_refuses_terminating_call :
    ¬ ∀ (context : Context) (value : Expr) (environment : Environment) (depth : Nat)
        (text : String),
      (resolveText ((context.guardingCalls false).withDepth depth) value environment).result =
          .ok text →
        ∃ least, ∀ larger, least ≤ larger →
          (resolveText ((context.guardingCalls true).withDepth larger) value environment).result =
            .ok text := by
  intro claimed
  have ended : (freely "twice" 13).result = .ok "*" :=
    TextOutcome.text?_eq_some_iff.mp (by decide +kernel)
  have finished : (guarded "twice" 13).isCutOff = false := by decide +kernel
  have refused : (guarded "twice" 13).text? = none := by decide +kernel
  obtain ⟨least, always⟩ := claimed helpersContext (helperInHelper "twice") (.ofModule helpers) 13
    "*" ended
  have succeeded := always (max least 13) (Nat.le_max_left _ _)
  rw [resolveText_withDepth_eq _ _ _ (Nat.le_max_right _ _) finished] at succeeded
  have text : (guarded "twice" 13).text? = some "*" :=
    TextOutcome.text?_eq_some_iff.mpr succeeded
  rw [refused] at text
  cases text

end QueryTypes.Resolution
