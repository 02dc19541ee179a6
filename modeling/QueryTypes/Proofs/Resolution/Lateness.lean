import QueryTypes.Proofs.Resolution.DepthBudget

/-!
What the clock can do to a run.

A plan does not depend on the clock; only whoever follows it looks there. The one thing that comes
of a look is a timeout, and nothing passes over a timeout. So a run that is not late is the run that
a clock on which no time goes by would see.
-/

set_option autoImplicit false

namespace QueryTypes.Resolution

open QueryTypes.Script
open QueryTypes.Source
open QueryTypes.Scoping
open QueryTypes.Modules

private theorem Cause.isExportMissing_of_isTimeout {cause : Cause}
    (elapsed : cause.isTimeout = true) :
    cause.isExportMissing = false := by
  cases cause with
  | timeout milliseconds => rfl
  | _ => cases elapsed

private theorem Cause.isCutOff_of_isTimeout {cause : Cause} (elapsed : cause.isTimeout = true) :
    cause.isCutOff = false := by
  cases cause with
  | timeout milliseconds => rfl
  | _ => cases elapsed

def Outcome.Late (outcome : Outcome) : Prop :=
  ∃ failure, outcome.result = .error failure ∧ failure.cause.isTimeout = true

theorem Outcome.Late.not_isCutOff {outcome : Outcome} (late : outcome.Late) :
    outcome.isCutOff = false := by
  obtain ⟨failure, failed, elapsed⟩ := late
  rw [isCutOff, failed]
  exact Cause.isCutOff_of_isTimeout elapsed

theorem Task.refused_late (task : Task) (milliseconds : Nat) :
    (task.refused (.timeout milliseconds)).Late :=
  ⟨_, rfl, by rw [Goal.failure_cause]; rfl⟩

def Context.stopped (context : Context) : Context := { context with clock := .stopped }

abbrev Context.timeless (host : Host) (options : Options) : Context :=
  ⟨host, options, .all, .stopped⟩

theorem Context.unhurried_of_stopped {host : Host} {options : Options} {guards : Guards}
    (time : 0 < options.timeoutMs) :
    Context.Unhurried ⟨host, options, guards, .stopped⟩ :=
  fun _ => decide_eq_false (Nat.not_le_of_lt time)

private theorem Task.plan_stopped (context : Context) (task : Task) :
    task.plan context.stopped = task.plan context := by
  obtain ⟨goal, visited, trail⟩ := task
  cases goal with
  | expression value environment => rfl
  | exported target name requester loc =>
      have sameHost : context.stopped.host = context.host := rfl
      have sameTime : context.stopped.options.timeoutMs = context.options.timeoutMs := rfl
      simp only [plan, Plan.exported, Plan.namedExport, Plan.wildcards_congr sameHost sameTime]
      rfl

/-- One look at the clock after another: the plan ends late, or nothing came of any of them. -/
theorem Plan.follow_late_or_eq {expired other : Moment → Bool} {solve quick : Task → Outcome}
    (never : ∀ moment, other moment = false)
    (solves : ∀ task, (solve task).Late ∨ solve task = quick task) (trail : Trail) (plan : Plan)
    (passes : plan.PassesFailures) (count : Nat) :
    (plan.follow expired solve trail count).Late ∨
      plan.follow expired solve trail count = plan.follow other quick trail count := by
  induction plan generalizing count with
  | finish result => exact .inr rfl
  | timed late rest ih =>
      rw [follow_timed (never _)]
      cases elapsed : expired (.fetch (count :: trail)) with
      | true =>
          rw [follow_timed_of_late elapsed]
          exact .inl ⟨late, rfl, passes.1⟩
      | false =>
          rw [follow_timed elapsed]
          exact ih passes.2 count
  | load path rest ih =>
      rcases ih passes count with ⟨failure, failed, elapsed⟩ | same
      · exact .inl ⟨failure, failed, elapsed⟩
      · rw [follow, follow, same]
        exact .inr rfl
  | ask goal visited next ih =>
      rcases solves ⟨goal, visited, count :: trail⟩ with ⟨failure, failed, elapsed⟩ | answered
      · have kept := Cause.isExportMissing_of_isTimeout elapsed
        exact .inl ⟨failure, Requests.now.follow_error passes failed kept, elapsed⟩
      · rcases ih _ (passes.2 _) (count + 1) with ⟨failure, failed, elapsed⟩ | same
        · exact .inl ⟨failure, failed, elapsed⟩
        · rw [follow, follow, same, answered]
          exact .inr rfl

/-- With any time given, a run is late or comes to what it comes to when no time goes by. -/
theorem solve_late_or_eq (context : Context) (time : 0 < context.options.timeoutMs)
    (budget : Nat) (task : Task) :
    (solve context budget task).Late ∨
      solve context budget task = solve context.stopped budget task := by
  have never : context.stopped.Unhurried := Context.unhurried_of_stopped time
  induction budget generalizing task with
  | zero =>
      cases elapsed : context.expired (.start task.trail) with
      | true =>
          rw [solve_expired elapsed]
          exact .inl (task.refused_late _)
      | false =>
          rw [solve_zero elapsed, solve_zero (never _)]
          exact .inr rfl
  | succ budget ih =>
      cases elapsed : context.expired (.start task.trail) with
      | true =>
          rw [solve_expired elapsed]
          exact .inl (task.refused_late _)
      | false =>
          rw [solve_succ elapsed, solve_succ (never _), Task.plan_stopped]
          exact Plan.follow_late_or_eq never ih _ _ (task.plan_passesFailures context) 0

end QueryTypes.Resolution
