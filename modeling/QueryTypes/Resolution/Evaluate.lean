import QueryTypes.Resolution.Plan

/-!
Following plans to the end, within a budget of nested evaluations.

The budget is the number of evaluations that may still nest; an evaluation that finds none left
fails. Recursion is on the budget alone, and all else about a step is in its plan.
-/

set_option autoImplicit false

namespace QueryTypes.Resolution

open QueryTypes.Script

structure Outcome where
  result : Except Failure Value
  loaded : List String

namespace Outcome

def after (earlier : List String) (outcome : Outcome) : Outcome :=
  ⟨outcome.result, earlier ++ outcome.loaded⟩

end Outcome

/-- Follows a plan, its requests being answered by `solve`. The number counts the requests made
before and becomes part of the trail of the next one. -/
def Plan.follow (expired : Moment → Bool) (solve : Task → Outcome) (trail : Trail) :
    Nat → Plan → Outcome
  | _, .finish result => ⟨result, []⟩
  | count, .timed late rest =>
      if expired (.fetch (count :: trail)) then ⟨.error late, []⟩
      else follow expired solve trail count rest
  | count, .load path rest => (follow expired solve trail count rest).after [path]
  | count, .ask goal visited next =>
      let answered := solve ⟨goal, visited, count :: trail⟩
      (follow expired solve trail (count + 1) (next answered.result)).after answered.loaded

section Following

variable {expired : Moment → Bool} {solve : Task → Outcome} {trail : Trail} {count : Nat}
  {late : Failure} {rest : Plan}

theorem Plan.follow_timed_of_late (elapsed : expired (.fetch (count :: trail)) = true) :
    (Plan.timed late rest).follow expired solve trail count = ⟨.error late, []⟩ := by
  rw [follow, if_pos elapsed]

theorem Plan.follow_timed (running : expired (.fetch (count :: trail)) = false) :
    (Plan.timed late rest).follow expired solve trail count =
      rest.follow expired solve trail count := by
  rw [follow, running]
  exact if_neg Bool.false_ne_true

end Following

def Task.refused (task : Task) (cause : Cause) : Outcome :=
  ⟨.error (task.goal.failure cause), []⟩

/-- The answer to a task. The time is looked at before the budget. -/
def solve (context : Context) : (budget : Nat) → Task → Outcome
  | budget, task =>
      if context.expired (.start task.trail) then task.refused (.timeout context.options.timeoutMs)
      else match budget with
        | 0 => task.refused (.depthLimit context.options.maxDepth)
        | budget + 1 =>
            (task.plan context).follow context.expired (solve context budget) task.trail 0

structure TextOutcome where
  result : Except Failure String
  loaded : List String

def resolveText (context : Context) (value : Expr) (environment : Environment) : TextOutcome :=
  let outcome := solve context context.options.maxDepth ⟨.expression value environment, .empty, []⟩
  let result := match outcome.result with
    | .ok (.text text) => .ok text
    | .ok (.function _) => .error (environment.failure value.loc .notText)
    | .error failure => .error failure
  ⟨result, outcome.loaded⟩

/-- The initializer of the first top-level declarator that binds a plain name and has one, with
the environment of its declaration. -/
def topLevelInitializer? (module : Modules.Module) (name : String) :
    Option (Expr × Environment) :=
  module.body.findSome? fun
    | .variables declaration =>
        declaration.declarators.findSome? fun
          | ⟨.name binding, some initializer⟩ =>
              if binding.name = name then
                let scope := module.scopes.enclosing? declaration.mark.id
                some (initializer, ⟨module, scope.getD Scoping.ScopeTree.root, none⟩)
              else none
          | _ => none
    | _ => none

end QueryTypes.Resolution
