import QueryTypes.Resolution.Evaluate

/-!
What happens while a plan is followed: which tasks are requested on the way, and which failures
of theirs become the failure of the whole plan.

A plan may pass over a missing export only. Every other failure of a nested evaluation is handed
on as it is, so a cut-off or a refused call shows at the very top.
-/

set_option autoImplicit false

namespace QueryTypes.Resolution

open QueryTypes.Script
open QueryTypes.Source
open QueryTypes.Scoping
open QueryTypes.Modules

namespace Plan

/-- Every failure of a request but a missing export is the answer, unchanged, and where the clock is
looked at a timeout can be the answer. -/
def PassesFailures : Plan → Prop
  | .finish _ => True
  | .timed late rest => late.cause.isTimeout = true ∧ rest.PassesFailures
  | .load _ rest => rest.PassesFailures
  | .ask _ _ next =>
      (∀ failure, failure.cause.isExportMissing = false → next (.error failure) = fail failure) ∧
        ∀ answer, (next answer).PassesFailures

private theorem fail_passesFailures (failure : Failure) : (fail failure).PassesFailures := trivial

private theorem answer_passesFailures (value : Value) : (answer value).PassesFailures := trivial

private theorem become_passesFailures (goal : Goal) (visited : Visited) :
    (become goal visited).PassesFailures :=
  ⟨fun _ _ => rfl, fun _ => trivial⟩

private theorem withValue_passesFailures (goal : Goal) (visited : Visited) (next : Value → Plan)
    (passes : ∀ value, (next value).PassesFailures) :
    (withValue goal visited next).PassesFailures := by
  refine ⟨fun _ _ => rfl, fun answer => ?_⟩
  cases answer with
  | ok value => exact passes value
  | error failure => exact fail_passesFailures failure

private theorem withModule_passesFailures (context : Context) (specifier : String)
    (importer : Module) (loc : Loc) (next : Module → Plan)
    (passes : ∀ found, (next found).PassesFailures) :
    (withModule context specifier importer loc next).PassesFailures := by
  refine ⟨rfl, ?_⟩
  cases context.host.fetch specifier importer.path with
  | ok found => exact passes found
  | error message => exact fail_passesFailures _

private theorem template_passesFailures (environment : Environment) (visited : Visited)
    (before : String) (parts : List TemplatePart) :
    (template environment visited before parts).PassesFailures := by
  induction parts generalizing before with
  | nil => exact answer_passesFailures _
  | cons part rest ih =>
      cases part with
      | chunk text => exact ih (before ++ text)
      | substitution value =>
          unfold template
          apply withValue_passesFailures
          intro answered
          cases answered with
          | text text => exact ih (before ++ text)
          | function closure => exact fail_passesFailures _

private theorem parameter_passesFailures (known : Variable) (loc : Loc) (environment : Environment)
    (visited : Visited) : (parameter known loc environment visited).PassesFailures := by
  unfold parameter
  dsimp only
  split
  · exact fail_passesFailures _
  · split
    · exact become_passesFailures _ _
    · exact become_passesFailures _ _
    · exact fail_passesFailures _

private theorem declarator_passesFailures (known : Variable) (declaration : VariableDeclaration)
    (found : Declarator) (environment : Environment) (visited : Visited) :
    (declarator known declaration found environment visited).PassesFailures := by
  unfold declarator
  split
  · exact become_passesFailures _ _
  · exact fail_passesFailures _
  · exact fail_passesFailures _

private theorem declared_passesFailures (context : Context) (known : Variable) (loc : Loc)
    (environment : Environment) (visited : Visited) :
    (declared context known loc environment visited).PassesFailures := by
  unfold declared
  dsimp only
  split
  · exact fail_passesFailures _
  · split
    · exact fail_passesFailures _
    · exact declarator_passesFailures _ _ _ _ _
  · split
    · exact fail_passesFailures _
    · exact withModule_passesFailures _ _ _ _ _ fun _ => become_passesFailures _ _
  · exact answer_passesFailures _
  · exact parameter_passesFailures _ _ _ _
  · exact fail_passesFailures _

private theorem identifier_passesFailures (context : Context) (mark : Mark) (name : String)
    (environment : Environment) (visited : Visited) :
    (identifier context mark name environment visited).PassesFailures := by
  unfold identifier
  dsimp only
  split
  · exact fail_passesFailures _
  · split
    · exact fail_passesFailures _
    · exact declared_passesFailures _ _ _ _ _

private theorem body_passesFailures (function : Function) (inside : Environment)
    (visited : Visited) :
    (body function inside visited).PassesFailures := by
  unfold body
  split
  · exact become_passesFailures _ _
  · split
    · split
      · exact fail_passesFailures _
      · exact become_passesFailures _ _
    · exact fail_passesFailures _

private theorem apply_passesFailures (trail : Trail) (closure : Closure) (call : Mark)
    (arguments : List Argument) (caller : Environment) (visited : Visited) :
    (apply trail closure call arguments caller visited).PassesFailures := by
  unfold apply
  dsimp only
  repeat' split
  all_goals first
    | exact fail_passesFailures _
    | exact body_passesFailures _ _ _

private theorem callValue_passesFailures (context : Context) (trail : Trail) (mark : Mark)
    (callee : Expr) (arguments : List Argument) (environment : Environment) (visited : Visited) :
    (callValue context trail mark callee arguments environment visited).PassesFailures := by
  unfold callValue
  apply withValue_passesFailures
  intro value
  cases value with
  | text text => exact fail_passesFailures _
  | function closure =>
      dsimp only
      split
      · exact fail_passesFailures _
      · exact apply_passesFailures _ _ _ _ _ _

private theorem call_passesFailures (context : Context) (trail : Trail) (mark : Mark)
    (callee : Expr) (arguments : List Argument) (environment : Environment) (visited : Visited) :
    (call context trail mark callee arguments environment visited).PassesFailures := by
  unfold call
  split
  · split
    · exact fail_passesFailures _
    · split
      · exact fail_passesFailures _
      · exact become_passesFailures _ _
  · exact callValue_passesFailures _ _ _ _ _ _ _

private theorem expression_passesFailures (context : Context) (trail : Trail) (value : Expr)
    (environment : Environment) (visited : Visited) :
    (expression context trail value environment visited).PassesFailures := by
  unfold expression
  dsimp only
  split
  · split
    · exact template_passesFailures _ _ _ _
    · exact fail_passesFailures _
  all_goals first
    | exact fail_passesFailures _
    | exact answer_passesFailures _
    | exact template_passesFailures _ _ _ _
    | exact identifier_passesFailures _ _ _ _ _
    | exact call_passesFailures _ _ _ _ _ _ _

/-- The only plan that looks at the cause of a failure. -/
theorem wildcards_passesFailures (context : Context) (target : Module) (name : String)
    (visited : Visited) (missing : Failure) (sources : List (String × Loc)) :
    (wildcards context target name visited missing sources).PassesFailures := by
  induction sources with
  | nil => exact fail_passesFailures _
  | cons source rest ih =>
      obtain ⟨specifier, loc⟩ := source
      unfold wildcards
      apply withModule_passesFailures
      intro found
      constructor
      · intro failure kept
        simp only [kept, Bool.false_eq_true, if_false]
      · intro answer
        cases answer with
        | ok value => exact answer_passesFailures _
        | error failure =>
            dsimp only
            split
            · exact ih
            · exact fail_passesFailures _

theorem wildcards_congr {first second : Context} (same : first.host = second.host)
    (sameTime : first.options.timeoutMs = second.options.timeoutMs) (target : Module)
    (name : String) (visited : Visited) (missing : Failure)
    (sources : List (String × Loc)) :
    wildcards first target name visited missing sources =
      wildcards second target name visited missing sources := by
  induction sources with
  | nil => rfl
  | cons source rest ih =>
      obtain ⟨specifier, loc⟩ := source
      simp only [wildcards, withModule, same, sameTime, ih]

private theorem exportEntry_passesFailures (context : Context) (target : Module)
    (entry : ExportName) (source : Option String) (visited : Visited) :
    (exportEntry context target entry source visited).PassesFailures := by
  unfold exportEntry
  split
  · exact withModule_passesFailures _ _ _ _ _ fun _ => become_passesFailures _ _
  · split
    · exact declared_passesFailures _ _ _ _ _
    · exact fail_passesFailures _

private theorem namedExport_passesFailures (context : Context) (target : Module) (name : String)
    (visited : Visited) (missing : Failure) :
    (namedExport context target name visited missing).PassesFailures := by
  unfold namedExport
  split
  · exact declared_passesFailures _ _ _ _ _
  · split
    · exact exportEntry_passesFailures _ _ _ _ _
    · exact wildcards_passesFailures _ _ _ _ _ _

private theorem exported_passesFailures (context : Context) (target : Module) (name : String)
    (requester : Module) (loc : Loc) (visited : Visited) :
    (exported context target name requester loc visited).PassesFailures := by
  unfold exported
  split
  · exact fail_passesFailures _
  · split
    · exact become_passesFailures _ _
    · exact answer_passesFailures _
    · exact namedExport_passesFailures _ _ _ _ _

end Plan

theorem Task.plan_passesFailures (context : Context) (task : Task) :
    (task.plan context).PassesFailures := by
  unfold Task.plan
  cases task.goal with
  | expression value environment => exact Plan.expression_passesFailures _ _ _ _ _
  | exported target name requester loc => exact Plan.exported_passesFailures _ _ _ _ _ _

inductive Plan.Requests (expired : Moment → Bool) (solve : Task → Outcome) (trail : Trail) :
    Nat → Plan → Task → Prop
  | timed {count : Nat} {late : Failure} {rest : Plan} {task : Task} :
      expired (.fetch (count :: trail)) = false →
        Plan.Requests expired solve trail count rest task →
          Plan.Requests expired solve trail count (.timed late rest) task
  | load {count : Nat} {path : String} {rest : Plan} {task : Task} :
      Plan.Requests expired solve trail count rest task →
        Plan.Requests expired solve trail count (.load path rest) task
  | now {count : Nat} {goal : Goal} {visited : Visited} {next : Except Failure Value → Plan} :
      Plan.Requests expired solve trail count (.ask goal visited next)
        ⟨goal, visited, count :: trail⟩
  | later {count : Nat} {goal : Goal} {visited : Visited} {next : Except Failure Value → Plan}
      {task : Task} :
      Plan.Requests expired solve trail (count + 1)
          (next (solve ⟨goal, visited, count :: trail⟩).result) task →
        Plan.Requests expired solve trail count (.ask goal visited next) task

section Requesting

variable {expired : Moment → Bool} {trail : Trail}

/-- Following a plan depends on the answers to what it requests alone. -/
theorem Plan.follow_eq_of_requests {first second : Task → Outcome} (plan : Plan) (count : Nat)
    (agree : ∀ task, plan.Requests expired first trail count task → second task = first task) :
    plan.follow expired second trail count = plan.follow expired first trail count := by
  induction plan generalizing count with
  | finish result => rfl
  | timed late rest ih =>
      cases running : expired (.fetch (count :: trail)) with
      | true => rw [follow_timed_of_late running, follow_timed_of_late running]
      | false =>
          rw [follow_timed running, follow_timed running]
          exact ih count fun task requested => agree task (.timed running requested)
  | load path rest ih =>
      have same := ih count fun task requested => agree task (.load requested)
      simp only [follow, same]
  | ask goal visited next ih =>
      have answered := agree _ .now
      have same := ih (first ⟨goal, visited, count :: trail⟩).result (count + 1)
        fun task requested => agree task (.later requested)
      simp only [follow, answered, same]

/-- A failure of a requested task that is no missing export is the failure of the plan. -/
theorem Plan.Requests.follow_error {solve : Task → Outcome} {count : Nat}
    {plan : Plan} {task : Task} (requested : plan.Requests expired solve trail count task)
    {failure : Failure} (passes : plan.PassesFailures)
    (failed : (solve task).result = .error failure)
    (kept : failure.cause.isExportMissing = false) :
    (plan.follow expired solve trail count).result = .error failure := by
  induction requested with
  | timed running _ ih =>
      rw [follow_timed running]
      exact ih passes.2 failed
  | load _ ih => exact ih passes failed
  | @now count goal visited next =>
      simp only [follow, Outcome.after, failed, passes.1 failure kept]
      rfl
  | later _ ih => exact ih (passes.2 _) failed

end Requesting

/-- Every evaluation that the answer to a task consists of, with the budget it is left. -/
inductive Nested (context : Context) : Nat → Task → Nat → Task → Prop
  | itself {budget : Nat} {task : Task} : Nested context budget task budget task
  | inside {budget left : Nat} {task inner innermost : Task} :
      context.expired (.start task.trail) = false →
      (task.plan context).Requests context.expired (solve context budget) task.trail 0 inner →
      Nested context budget inner left innermost →
        Nested context (budget + 1) task left innermost

section Solving

variable {context : Context} {task : Task}

theorem solve_expired (expired : context.expired (.start task.trail) = true) (budget : Nat) :
    solve context budget task = task.refused (.timeout context.options.timeoutMs) := by
  unfold solve
  exact if_pos expired

theorem solve_zero (running : context.expired (.start task.trail) = false) :
    solve context 0 task = task.refused (.depthLimit context.options.maxDepth) := by
  unfold solve
  simp only [running, Bool.false_eq_true, if_false]

theorem solve_succ (running : context.expired (.start task.trail) = false) (budget : Nat) :
    solve context (budget + 1) task =
      (task.plan context).follow context.expired (solve context budget) task.trail 0 := by
  rw [solve]
  simp only [running, Bool.false_eq_true, if_false]

/-- A run does not start, or follows the plan of its task with requests that are answered by runs. -/
theorem solve_induction {motive : Task → Outcome → Prop}
    (refused : ∀ task cause, motive task (task.refused cause))
    (followed : ∀ budget, (∀ task, motive task (solve context budget task)) → ∀ task,
      motive task
        ((task.plan context).follow context.expired (solve context budget) task.trail 0))
    (budget : Nat) (task : Task) : motive task (solve context budget task) := by
  induction budget generalizing task with
  | zero =>
      cases late : context.expired (.start task.trail) with
      | true =>
          rw [solve_expired late]
          exact refused task _
      | false =>
          rw [solve_zero late]
          exact refused task _
  | succ budget ih =>
      cases late : context.expired (.start task.trail) with
      | true =>
          rw [solve_expired late]
          exact refused task _
      | false =>
          rw [solve_succ late]
          exact followed budget ih task

/-- The time never ends. -/
def Context.Unhurried (context : Context) : Prop := ∀ moment, context.expired moment = false

end Solving

def Clock.stopped : Clock := fun _ => 0

/-- Evaluation with programs in memory, by the usual rules and without haste. -/
def Context.still (memory : MemoryHost) : Context := ⟨memory, .standard, .all, .stopped⟩

theorem Context.still_unhurried (memory : MemoryHost) : (still memory).Unhurried := fun _ => rfl

/-- A node whose place does not matter. -/
def numbered (id : NodeId) : Mark := ⟨id, .nowhere⟩

namespace TextOutcome

def text? (outcome : TextOutcome) : Option String := outcome.result.toOption

theorem text?_eq_some_iff {outcome : TextOutcome} {text : String} :
    outcome.text? = some text ↔ outcome.result = .ok text := by
  unfold text?
  cases outcome.result with
  | ok found => simp [Except.toOption]
  | error failure => simp [Except.toOption]

end TextOutcome

end QueryTypes.Resolution
