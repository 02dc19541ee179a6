import QueryTypes.Proofs.Resolution.Following

/-!
The budget of nested evaluations only ever cuts evaluation off: a run that was not cut off is the
run under every larger budget, and no cut-off on the way is passed over.
-/

set_option autoImplicit false

namespace QueryTypes.Resolution

open QueryTypes.Script
open QueryTypes.Source
open QueryTypes.Modules

def Cause.isCutOff : Cause → Bool
  | .depthLimit _ => true
  | _ => false

theorem Cause.isExportMissing_of_isCutOff {cause : Cause} (cut : cause.isCutOff = true) :
    cause.isExportMissing = false := by
  cases cause with
  | depthLimit limit => rfl
  | _ => cases cut

def Outcome.isCutOff (outcome : Outcome) : Bool :=
  match outcome.result with
  | .ok _ => false
  | .error failure => failure.cause.isCutOff

def TextOutcome.isCutOff (outcome : TextOutcome) : Bool :=
  match outcome.result with
  | .ok _ => false
  | .error failure => failure.cause.isCutOff

def Context.withDepth (context : Context) (depth : Nat) : Context :=
  { context with options := { context.options with maxDepth := depth } }

private theorem Context.expired_withDepth (context : Context) (depth : Nat) :
    (context.withDepth depth).expired = context.expired := rfl

namespace Outcome

theorem isCutOff_iff {outcome : Outcome} :
    outcome.isCutOff = true ↔
      ∃ failure, outcome.result = .error failure ∧ failure.cause.isCutOff = true := by
  unfold isCutOff
  cases outcome.result with
  | ok value => simp
  | error failure => simp

end Outcome

@[simp] theorem Goal.failure_cause (goal : Goal) (cause : Cause) :
    (goal.failure cause).cause = cause := by
  cases goal <;> rfl

theorem Task.refused_isCutOff (task : Task) (cause : Cause) :
    (task.refused cause).isCutOff = cause.isCutOff := by
  simp only [refused, Outcome.isCutOff, Goal.failure_cause]

private theorem Task.plan_withDepth (context : Context) (depth : Nat) (task : Task) :
    task.plan (context.withDepth depth) = task.plan context := by
  obtain ⟨goal, visited, trail⟩ := task
  cases goal with
  | expression value environment => rfl
  | exported target name requester loc =>
      have sameHost : (context.withDepth depth).host = context.host := rfl
      have sameTime : (context.withDepth depth).options.timeoutMs = context.options.timeoutMs := rfl
      simp only [plan, Plan.exported, Plan.namedExport, Plan.wildcards_congr sameHost sameTime]
      rfl

theorem Plan.Requests.isCutOff {expired : Moment → Bool} {solve : Task → Outcome} {trail : Trail}
    {count : Nat} {plan : Plan} {task : Task}
    (requested : plan.Requests expired solve trail count task)
    (passes : plan.PassesFailures) (cut : (solve task).isCutOff = true) :
    (plan.follow expired solve trail count).isCutOff = true := by
  obtain ⟨failure, failed, limit⟩ := Outcome.isCutOff_iff.mp cut
  have kept := Cause.isExportMissing_of_isCutOff limit
  exact Outcome.isCutOff_iff.mpr ⟨failure, requested.follow_error passes failed kept, limit⟩

section

variable {context : Context}

private theorem solve_withDepth_of_expired {task : Task}
    (expired : context.expired (.start task.trail) = true) (limit budget larger : Nat) :
    solve (context.withDepth limit) larger task = solve context budget task := by
  have late : (context.withDepth limit).expired (.start task.trail) = true := expired
  rw [solve_expired late, solve_expired expired]
  rfl

/-- A finished answer is the answer under every larger budget, whatever limit the message of a
cut-off would name. -/
theorem solve_withDepth_of_le (limit : Nat) {budget larger : Nat} (budget_le : budget ≤ larger)
    (task : Task) (finished : (solve context budget task).isCutOff = false) :
    solve (context.withDepth limit) larger task = solve context budget task := by
  induction budget generalizing larger task with
  | zero =>
      cases running : context.expired (.start task.trail) with
      | true => exact solve_withDepth_of_expired running limit _ _
      | false =>
          rw [solve_zero running, Task.refused_isCutOff] at finished
          cases finished
  | succ budget ih =>
      obtain ⟨larger, rfl⟩ := Nat.exists_eq_succ_of_ne_zero (by omega : larger ≠ 0)
      cases running : context.expired (.start task.trail) with
      | true => exact solve_withDepth_of_expired running limit _ _
      | false =>
          have still : (context.withDepth limit).expired (.start task.trail) = false := running
          rw [solve_succ running] at finished
          rw [Nat.succ_eq_add_one, solve_succ still, solve_succ running, Task.plan_withDepth,
            Context.expired_withDepth]
          apply Plan.follow_eq_of_requests
          intro inner requested
          -- A request that is cut off would have cut off the plan, so the induction hypothesis
          -- applies to every request that is made.
          apply ih (by omega)
          apply Bool.eq_false_iff.mpr
          intro cut
          have whole := requested.isCutOff (task.plan_passesFailures context) cut
          rw [finished] at whole
          cases whole

theorem Nested.isCutOff {budget left : Nat} {task inner : Task}
    (nested : Nested context budget task left inner)
    (cut : (solve context left inner).isCutOff = true) :
    (solve context budget task).isCutOff = true := by
  induction nested with
  | itself => exact cut
  | @inside budget left task inner innermost running requested _ ih =>
      rw [solve_succ running]
      exact requested.isCutOff (task.plan_passesFailures context) (ih cut)

end

def startingTask (value : Expr) (environment : Environment) : Task :=
  ⟨.expression value environment, .empty, []⟩

theorem resolveText_isCutOff (context : Context) (value : Expr) (environment : Environment) :
    (resolveText context value environment).isCutOff =
      (solve context context.options.maxDepth (startingTask value environment)).isCutOff := by
  unfold resolveText TextOutcome.isCutOff Outcome.isCutOff startingTask
  dsimp only
  cases (solve context context.options.maxDepth _).result with
  | ok value => cases value <;> rfl
  | error failure => rfl

/-- A resolution that was not cut off has the same outcome under every larger budget. -/
theorem resolveText_withDepth_eq (context : Context) (value : Expr) (environment : Environment)
    {depth larger : Nat} (depth_le : depth ≤ larger)
    (finished : (resolveText (context.withDepth depth) value environment).isCutOff = false) :
    resolveText (context.withDepth larger) value environment =
      resolveText (context.withDepth depth) value environment := by
  rw [resolveText_isCutOff] at finished
  have answered : solve (context.withDepth larger) larger (startingTask value environment) =
      solve (context.withDepth depth) depth (startingTask value environment) :=
    solve_withDepth_of_le larger depth_le _ finished
  have atDepth : (context.withDepth depth).options.maxDepth = depth := rfl
  have atLarger : (context.withDepth larger).options.maxDepth = larger := rfl
  unfold startingTask at answered
  simp only [resolveText, atDepth, atLarger, answered]

/-- A resolution that was not cut off has the same outcome under every larger budget, and none of
the evaluations that it consists of was cut off: nothing passes over a cut-off. -/
theorem resolveText_stable_of_not_isCutOff (context : Context) (value : Expr)
    (environment : Environment) {depth larger : Nat} (depth_le : depth ≤ larger)
    (finished : (resolveText (context.withDepth depth) value environment).isCutOff = false) :
    resolveText (context.withDepth larger) value environment =
        resolveText (context.withDepth depth) value environment ∧
      ∀ left inner,
        Nested (context.withDepth depth) depth (startingTask value environment) left inner →
          (solve (context.withDepth depth) left inner).isCutOff = false := by
  refine ⟨resolveText_withDepth_eq context value environment depth_le finished, ?_⟩
  intro left inner nested
  apply Bool.eq_false_iff.mpr
  intro cut
  have whole := nested.isCutOff cut
  rw [resolveText_isCutOff] at finished
  exact Bool.false_ne_true (finished.symm.trans whole)

/-- `/index.ts` re-exports everything of an empty module and of `/queries.ts`, in this order. -/
def reexportingHost : MemoryHost :=
  ((MemoryHost.empty.insert "/empty.ts" ⟨numbered 0, [], ⟨[]⟩⟩).insert "/queries.ts"
    ⟨numbered 0, [.variables ⟨numbered 1, true, .constant,
      [⟨.name ⟨numbered 2, "all"⟩, some (.string (numbered 3) "*")⟩], []⟩], ⟨[]⟩⟩).insert
    "/index.ts" ⟨numbered 0, [.exportList ⟨numbered 1, false, .all none, some "/empty.ts"⟩,
      .exportList ⟨numbered 2, false, .all none, some "/queries.ts"⟩], ⟨[]⟩⟩

def importingModule : Module :=
  .ofProgram "/page.ts" ⟨numbered 0, [.imports ⟨numbered 1, false, none,
    some (.some [⟨"all", ⟨numbered 2, "all"⟩⟩]), "/index.ts"⟩], ⟨[]⟩⟩

private def imported (depth : Nat) : TextOutcome :=
  resolveText ((Context.still reexportingHost).withDepth depth)
    (.identifier (numbered 5) "all") (.ofModule importingModule)

/-- The search through the sources of re-exports is not cut off at a depth of four. -/
theorem reexport_found_within_four :
    (imported 4).isCutOff = false ∧ imported 9 = imported 4 := by
  have finished : (imported 4).isCutOff = false := by decide +kernel
  exact ⟨finished, (resolveText_stable_of_not_isCutOff _ _ _ (by decide) finished).1⟩

end QueryTypes.Resolution
