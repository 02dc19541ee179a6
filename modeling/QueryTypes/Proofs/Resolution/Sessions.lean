import Mathlib.Data.List.Nodup
import QueryTypes.Proofs.Resolution.Tracking

/-!
What a resolution leaves behind does not influence the next one.

Between two resolutions a session is idle: what it knows is what the host holds, and no evaluation
counts as under way. A resolution in an idle session has the result that it has in a new one, and
leaves an idle session that knows the modules it went through as well.
-/

set_option autoImplicit false

namespace QueryTypes.Resolution

open QueryTypes.Script
open QueryTypes.Source
open QueryTypes.Scoping
open QueryTypes.Modules

/-! ### Paths that were noted -/

theorem mem_foldl_note {loaded known : List String} {path : String} :
    path ∈ loaded.foldl note known ↔ path ∈ known ∨ path ∈ loaded := by
  induction loaded generalizing known with
  | nil => simp only [List.foldl_nil, List.not_mem_nil, or_false]
  | cons first rest ih =>
      have noted : path ∈ note known first ↔ path ∈ known ∨ path = first := by
        unfold note
        split
        next present =>
          refine ⟨.inl, fun either => either.elim id ?_⟩
          rintro rfl
          exact present
        next => rw [List.mem_append, List.mem_singleton]
      rw [List.foldl_cons, ih, noted, List.mem_cons, or_assoc]

private theorem nodup_foldl_note {known : List String} (distinct : known.Nodup)
    (loaded : List String) :
    (loaded.foldl note known).Nodup := by
  induction loaded generalizing known with
  | nil => exact distinct
  | cons first rest ih =>
      apply ih
      unfold note
      split
      next => exact distinct
      next new =>
        exact List.Nodup.append distinct (List.nodup_singleton first)
          (List.disjoint_singleton.mpr new)

private theorem isPrefix_foldl_note (known loaded : List String) :
    known <+: loaded.foldl note known := by
  induction loaded generalizing known with
  | nil => exact List.prefix_refl known
  | cons first rest ih =>
      refine List.IsPrefix.trans ?_ (ih (note known first))
      unfold note
      split
      next => exact List.prefix_refl known
      next => exact List.prefix_append known [first]

/-! ### One resolution -/

def textOf (environment : Environment) (value : Expr) :
    Except Failure Value → Except Failure String
  | .ok (.text text) => .ok text
  | .ok (.function _) => .error (environment.failure value.loc .notText)
  | .error failure => .error failure

theorem textOf_rename (environment : Environment) (value : Expr) (names : Trail → Trail)
    (result : Except Failure Value) :
    textOf environment value (renameResult names result) = textOf environment value result := by
  cases result with
  | error failure => rfl
  | ok found => cases found <;> rfl

theorem resolveText_eq (context : Context) (value : Expr) (environment : Environment) :
    resolveText context value environment =
      let outcome := solve context context.options.maxDepth (startingTask value environment)
      ⟨textOf environment value outcome.result, outcome.loaded⟩ := by
  unfold resolveText startingTask
  dsimp only
  cases (solve context context.options.maxDepth _).result with
  | error failure => rfl
  | ok found => cases found <;> rfl

/-- A resolution to be done, of an expression that stands outside all calls. -/
structure Request where
  value : Expr
  module : Module
  scope : ScopeId

namespace Request

def environment (request : Request) : Environment := ⟨request.module, request.scope, none⟩

def task (request : Request) (trail : Trail) : Task :=
  ⟨.expression request.value request.environment, .empty, trail⟩

/-- What the request comes to without a memory, on some trail. -/
def outcome (context : Context) (trail : Trail) (request : Request) : TextOutcome :=
  let outcome := solve context context.options.maxDepth (request.task trail)
  ⟨textOf request.environment request.value outcome.result, outcome.loaded⟩

theorem outcome_nil (context : Context) (request : Request) :
    request.outcome context [] = resolveText context request.value request.environment :=
  (resolveText_eq context request.value request.environment).symm

end Request

namespace Run

variable {context : Context}

/-- An evaluation that does not start makes no frame and loads nothing. -/
theorem answers_of_refused {budget : Nat} {memory : Memory} (sound : memory.Sound context.host)
    {goal : Goal} {visited : Visited} {there : Trail} {cause : Cause}
    (refused : ∀ task : Task, task.trail = there → solve context budget task = task.refused cause) :
    ∃ made loaded, memory.Grows context.host made.length loaded memory ∧ made.Nodup ∧
      (∀ way ∈ made, there <:+ way) ∧
        ∀ names, Function.Injective names → Assigns names memory.nextFrame made →
          solve context budget ⟨goal.rename names, visited.rename names, there⟩ =
            ⟨renameResult names (.error (goal.failure cause)), loaded⟩ := by
  refine ⟨[], [], .refl sound, .nil, nofun, fun names _ _ => ?_⟩
  rw [refused _ rfl, Task.refused, Goal.rename_failure]
  rfl

/-- Evaluation with a memory answers as evaluation without one does. -/
theorem evaluate_answers (budget : Nat) (here : Trail) :
    Answers context budget here (evaluate context (budget + 1) here) := by
  induction budget generalizing here with
  | zero =>
      intro goal visited memory there concurs sound depth
      have sameTime := concurs.start []
      rw [evaluate]
      cases elapsed : context.expired (.start here) with
      | true =>
          rw [nested_late elapsed, throw_apply]
          refine answers_of_refused sound fun task same => solve_expired ?_ 0
          rw [same, ← elapsed]
          exact sameTime.symm
      | false =>
          have full : context.options.maxDepth < memory.depth + 1 := by omega
          rw [nested_apply elapsed, if_pos full]
          refine answers_of_refused sound fun task same => solve_zero ?_
          rw [same, ← elapsed]
          exact sameTime.symm
  | succ budget ih =>
      intro goal visited memory there concurs sound depth
      have sameTime := concurs.start []
      rw [evaluate]
      cases elapsed : context.expired (.start here) with
      | true =>
          rw [nested_late elapsed, throw_apply]
          refine answers_of_refused sound fun task same => solve_expired ?_ _
          rw [same, ← elapsed]
          exact sameTime.symm
      | false =>
          -- One more evaluation is under way in the step, and one less may nest in it.
          have room : ¬ context.options.maxDepth < memory.depth + 1 := by omega
          obtain ⟨made, loaded, grows, spread, follows⟩ :=
            step_tracks (fun number => ih (number :: here)) goal visited
              { memory with depth := memory.depth + 1 } there concurs sound (by dsimp only; omega)
          rw [nested_apply elapsed, if_neg room]
          refine ⟨made, loaded, ⟨grows.sound, grows.paths, grows.nextFrame, ?_⟩, spread.distinct,
            fun way => spread.suffix, fun names injective assigns => ?_⟩
          · exact congrArg (· - 1) grows.depth
          · rw [solve_succ (sameTime.symm.trans elapsed)]
            exact follows names injective assigns

/-- An evaluation outside all calls comes to the same with a memory and without. -/
theorem evaluate_start {here there : Trail} (concurs : context.Concurs here there) {goal : Goal}
    (unframed : ∀ names, goal.rename names = goal) {memory : Memory}
    (sound : memory.Sound context.host) (quiet : memory.depth = 0) :
    ∃ frames loaded names,
      memory.Grows context.host frames loaded
          (evaluate context (context.options.maxDepth + 1) here goal .empty memory).2 ∧
        solve context context.options.maxDepth ⟨goal, .empty, there⟩ =
          ⟨renameResult names
              (evaluate context (context.options.maxDepth + 1) here goal .empty memory).1,
            loaded⟩ := by
  obtain ⟨made, loaded, grows, distinct, _, solves⟩ := evaluate_answers context.options.maxDepth
    here goal .empty memory there concurs sound (by rw [quiet, Nat.zero_add])
  obtain ⟨names, injective, assigns⟩ := exists_assigns memory.nextFrame distinct
  have solved := solves names injective assigns
  rw [unframed] at solved
  exact ⟨made.length, loaded, names, grows, solved⟩

/-- A text is found with a memory as it is without one. -/
theorem text_start {here there : Trail} (concurs : context.Concurs here there) (request : Request)
    {memory : Memory} (sound : memory.Sound context.host) (quiet : memory.depth = 0) :
    (text context here request.value request.environment memory).1 =
        (request.outcome context there).result ∧
      ∃ frames, memory.Grows context.host frames (request.outcome context there).loaded
        (text context here request.value request.environment memory).2 := by
  have unframed (names : Trail → Trail) :
      (Goal.expression request.value request.environment).rename names =
        .expression request.value request.environment := by
    rw [Goal.rename, Request.environment, Environment.rename_mk]
    rfl
  obtain ⟨frames, loaded, names, grows, solved⟩ := evaluate_start concurs unframed sound quiet
  unfold text Request.outcome Request.task
  rw [bind_apply, solved]
  dsimp only
  rw [textOf_rename]
  generalize evaluate context (context.options.maxDepth + 1) here
    (.expression request.value request.environment) .empty memory = evaluated at grows ⊢
  obtain ⟨result, after⟩ := evaluated
  cases result with
  | error failure => exact ⟨rfl, frames, grows⟩
  | ok found =>
      cases found with
      | text text => exact ⟨rfl, frames, grows⟩
      | function closure => exact ⟨rfl, frames, grows⟩

end Run

/-! ### Resolutions in a row -/

theorem Memory.Sound.mem_modules {host : Host} {memory : Memory} (sound : memory.Sound host)
    {module : Module} :
    module ∈ memory.modules ↔ module ∈ host ∧ module.path ∈ memory.paths := by
  constructor
  · exact fun present => ⟨sound module present, List.mem_map_of_mem present⟩
  · rintro ⟨held, known⟩
    obtain ⟨kept, present, samePath⟩ := List.mem_map.mp known
    have keptHeld : host.find? kept.path = some kept := sound kept present
    rw [samePath] at keptHeld
    cases held.symm.trans keptHeld
    exact present

namespace Session

def serve (session : Session) (request : Request) : Except Failure String × Session :=
  session.resolve request.value request.environment

def serveAll (session : Session) : List Request → List (Except Failure String) × Session
  | [] => ([], session)
  | request :: rest =>
      let served := session.serve request
      let others := served.2.serveAll rest
      (served.1 :: others.1, others.2)

structure Idle (context : Context) (session : Session) : Prop where
  same : session.context = context
  sound : session.memory.Sound context.host
  distinct : session.memory.paths.Nodup
  quiet : session.memory.depth = 0

theorem start_idle (context : Context) : (start context).Idle context where
  same := rfl
  sound := nofun
  distinct := List.nodup_nil
  quiet := rfl

section Serving

variable {context : Context} {session : Session}

/-- A session is idle again after a resolution, whether that failed or not. -/
theorem Idle.serve (idle : session.Idle context) (request : Request) {there : Trail}
    (concurs : context.Concurs [session.served] there) :
    (session.serve request).1 = (request.outcome context there).result ∧
      (session.serve request).2.Idle context ∧
        (session.serve request).2.memory.paths =
          (request.outcome context there).loaded.foldl note session.memory.paths := by
  obtain ⟨rfl, sound, distinct, quiet⟩ := idle
  obtain ⟨result, frames, grows⟩ := Run.text_start concurs request sound quiet
  refine ⟨result, ⟨rfl, grows.sound, ?_, grows.depth.trans quiet⟩, grows.paths⟩
  have stays := nodup_foldl_note distinct (request.outcome session.context there).loaded
  rw [← grows.paths] at stays
  exact stays

theorem Idle.afterAll (idle : session.Idle context) (requests : List Request) :
    (session.serveAll requests).2.Idle context := by
  induction requests generalizing session with
  | nil => exact idle
  | cons request rest ih => exact ih (idle.serve request (.refl context _)).2.1

/-- As long as time does not end, the trail that a resolution is done on makes no difference. -/
theorem Idle.serveAll (running : context.Unhurried) (idle : session.Idle context)
    (requests : List Request) :
    (session.serveAll requests).1 =
        requests.map (fun request => (request.outcome context []).result) ∧
      (session.serveAll requests).2.memory.paths =
        (requests.flatMap fun request => (request.outcome context []).loaded).foldl note
          session.memory.paths := by
  induction requests generalizing session with
  | nil => exact ⟨rfl, rfl⟩
  | cons request rest ih =>
      obtain ⟨result, next, paths⟩ := idle.serve request (.of_unhurried running _ [])
      obtain ⟨results, allPaths⟩ := ih next
      refine ⟨congrArg₂ List.cons result results, ?_⟩
      rw [List.flatMap_cons, List.foldl_append, ← paths]
      exact allPaths

/-- The modules known from the start on are those that were gone through. -/
theorem Idle.mem_modules (idle : session.Idle context) {loaded : List String}
    (paths : session.memory.paths = loaded.foldl note (start context).memory.paths)
    {module : Module} :
    module ∈ session.memory.modules ↔
      module ∈ context.host ∧ module.path ∈ loaded := by
  have unknown : module.path ∉ (start context).memory.paths := List.not_mem_nil
  rw [idle.sound.mem_modules, paths, mem_foldl_note, or_iff_right unknown]

/-- What is known stays known, in its order. -/
theorem Idle.serveAll_append (running : context.Unhurried) (idle : session.Idle context)
    (requests more : List Request) :
    (session.serveAll requests).2.memory.paths <+:
      (session.serveAll (requests ++ more)).2.memory.paths := by
  obtain ⟨_, paths⟩ := idle.serveAll running requests
  obtain ⟨_, allPaths⟩ := idle.serveAll running (requests ++ more)
  rw [allPaths, List.flatMap_append, List.foldl_append, ← paths]
  exact isPrefix_foldl_note _ _

end Serving

/-- As long as time does not end, resolutions in a row, some of which may fail, have the results
that each has in a new session. What they leave known is what they leave known each on its own,
every module once, and that only grows. -/
theorem serveAll_independent {context : Context} (running : context.Unhurried)
    (requests : List Request) :
    ((start context).serveAll requests).1 =
        requests.map (fun request => ((start context).serve request).1) ∧
      (∀ module, module ∈ ((start context).serveAll requests).2.memory.modules ↔
        ∃ request ∈ requests, module ∈ ((start context).serve request).2.memory.modules) ∧
      ((start context).serveAll requests).2.memory.paths.Nodup ∧
      ∀ more,
        ((start context).serveAll requests).2.memory.paths <+:
            ((start context).serveAll (requests ++ more)).2.memory.paths ∧
          ((start context).serveAll requests).2.loadedCount ≤
            ((start context).serveAll (requests ++ more)).2.loadedCount := by
  have idle := start_idle context
  have alike : context.Concurs [(start context).served] [] := .of_unhurried running _ _
  have last := idle.afterAll requests
  obtain ⟨results, paths⟩ := idle.serveAll running requests
  refine ⟨?_, fun module => ?_, last.distinct, fun more => ?_⟩
  · rw [results]
    exact List.map_congr_left fun request _ => (idle.serve request alike).1.symm
  · rw [last.mem_modules paths, List.mem_flatMap]
    have alone (request : Request) :
        module ∈ ((start context).serve request).2.memory.modules ↔
          module ∈ context.host ∧ module.path ∈ (request.outcome context []).loaded := by
      obtain ⟨_, after, ownPaths⟩ := idle.serve request alike
      exact after.mem_modules ownPaths
    constructor
    · rintro ⟨held, request, asked, loaded⟩
      exact ⟨request, asked, (alone request).mpr ⟨held, loaded⟩⟩
    · rintro ⟨request, asked, present⟩
      obtain ⟨held, loaded⟩ := (alone request).mp present
      exact ⟨held, request, asked, loaded⟩
  · have growing := idle.serveAll_append running requests more
    refine ⟨growing, ?_⟩
    have longer := growing.length_le
    rw [Memory.paths, Memory.paths, List.length_map, List.length_map] at longer
    exact longer

def pairModule : Module :=
  .ofProgram "/pair.ts" ⟨numbered 0, [.imports ⟨numbered 1, false, none,
    some (.some [⟨"gone", ⟨numbered 2, "gone"⟩⟩, ⟨"all", ⟨numbered 3, "all"⟩⟩]), "/index.ts"⟩],
    ⟨[]⟩⟩

def pairRequests : List Request :=
  [⟨.identifier (numbered 4) "gone", pairModule, ScopeTree.root⟩,
    ⟨.identifier (numbered 5) "all", pairModule, ScopeTree.root⟩,
    ⟨.identifier (numbered 6) "all", pairModule, ScopeTree.root⟩]

/-- The failure of the first request does not show in the others, and modules are known once. -/
theorem requests_after_failure :
    let context : Context := .still reexportingHost
    let served := (start context).serveAll pairRequests
    context.Unhurried ∧ served.1.map Except.toOption = [none, some "*", some "*"] ∧
      served.2.memory.paths.Nodup ∧ served.2.loadedCount = 3 := by
  have running := Context.still_unhurried reexportingHost
  obtain ⟨results, _, distinct, _⟩ := serveAll_independent running pairRequests
  refine ⟨running, ?_, distinct, by decide +kernel⟩
  rw [results]
  decide +kernel

end Session

end QueryTypes.Resolution
