import Mathlib.Data.List.Forall2
import QueryTypes.Proofs.Resolution.DepthBudget
import QueryTypes.Proofs.Resolution.Sessions

/-!
Templates are put together from what their substitutions come to on their own.

The substitutions of a template are evaluated one after another, with one memory, and may go
through the same functions and modules. What each comes to is still what it comes to in a new
session: frames differ in their names only, modules known already are the modules of the host, and
as long as nothing is cut off the level at which a substitution stands does not matter.
-/

set_option autoImplicit false

namespace QueryTypes.Resolution

open QueryTypes.Script
open QueryTypes.Source
open QueryTypes.Scoping
open QueryTypes.Modules

/-! ### Parts of templates -/

def partText (alone : Expr → Except Failure String) : TemplatePart → Except Failure String
  | .chunk text => .ok text
  | .substitution value => alone value

/-- The texts of the parts in order, up to the first failure. -/
def interpolated (alone : Expr → Except Failure String) : List TemplatePart → Except Failure String
  | [] => .ok ""
  | part :: rest =>
      (partText alone part).bind fun text => (interpolated alone rest).map (text ++ ·)

structure Composed (alone : Expr → Except Failure String) (parts : List TemplatePart)
    (whole : Except Failure String) : Prop where
  succeeds : (∃ text, whole = .ok text) ↔
    ∀ value, .substitution value ∈ parts → ∃ text, alone value = .ok text
  joins : ∀ texts, List.Forall₂ (fun part text => partText alone part = .ok text) parts texts →
    whole = .ok (String.join texts)
  fails : ∀ before value after failure, parts = before ++ .substitution value :: after →
    (∀ earlier, .substitution earlier ∈ before → ∃ text, alone earlier = .ok text) →
      alone value = .error failure → whole = .error failure

section Interpolated

variable {alone : Expr → Except Failure String}

private theorem interpolated_of_texts {parts : List TemplatePart} {texts : List String}
    (found : List.Forall₂ (fun part text => partText alone part = .ok text) parts texts) :
    interpolated alone parts = .ok (String.join texts) := by
  induction found with
  | nil => rfl
  | cons first _ ih =>
      rw [interpolated, first, ih, String.join_cons]
      rfl

private theorem exists_texts {parts : List TemplatePart}
    (found : ∀ value, .substitution value ∈ parts → ∃ text, alone value = .ok text) :
    ∃ texts, List.Forall₂ (fun part text => partText alone part = .ok text) parts texts := by
  induction parts with
  | nil => exact ⟨[], .nil⟩
  | cons part rest ih =>
      obtain ⟨texts, later⟩ := ih fun value present => found value (List.mem_cons_of_mem _ present)
      cases part with
      | chunk text => exact ⟨text :: texts, .cons rfl later⟩
      | substitution value =>
          obtain ⟨text, first⟩ := found value List.mem_cons_self
          exact ⟨text :: texts, .cons first later⟩

private theorem interpolated_of_failure {before after : List TemplatePart} {value : Expr}
    {failure : Failure}
    (found : ∀ earlier, .substitution earlier ∈ before → ∃ text, alone earlier = .ok text)
    (failed : alone value = .error failure) :
    interpolated alone (before ++ .substitution value :: after) = .error failure := by
  obtain ⟨texts, all⟩ := exists_texts found
  clear found
  induction all with
  | nil =>
      rw [List.nil_append, interpolated, partText, failed]
      rfl
  | cons first _ ih =>
      rw [List.cons_append, interpolated, first, ih]
      rfl

private theorem found_of_interpolated {parts : List TemplatePart} {text : String}
    (whole : interpolated alone parts = .ok text) :
    ∀ value, .substitution value ∈ parts → ∃ text, alone value = .ok text := by
  induction parts generalizing text with
  | nil => exact fun value present => absurd present List.not_mem_nil
  | cons part rest ih =>
      rw [interpolated] at whole
      cases first : partText alone part with
      | error failure =>
          rw [first] at whole
          cases whole
      | ok start =>
          rw [first] at whole
          cases later : interpolated alone rest with
          | error failure =>
              rw [later] at whole
              cases whole
          | ok others =>
              intro value present
              rcases List.mem_cons.mp present with rfl | inRest
              · exact ⟨start, first⟩
              · exact ih later value inRest

private theorem interpolated_composed (alone : Expr → Except Failure String)
    (parts : List TemplatePart) :
    Composed alone parts (interpolated alone parts) where
  succeeds := by
    constructor
    · rintro ⟨text, whole⟩
      exact found_of_interpolated whole
    · intro found
      obtain ⟨texts, all⟩ := exists_texts found
      exact ⟨_, interpolated_of_texts all⟩
  joins := fun texts => interpolated_of_texts
  fails := by
    rintro before value after failure rfl
    exact interpolated_of_failure

end Interpolated

/-! ### Evaluations outside all calls -/

section Alone

variable {context : Context} {budget : Nat} {module : Module} {scope : ScopeId}

/-- The trail of an evaluation is in the names of its frames only. -/
theorem solve_trail (running : context.Unhurried)
    (within : budget ≤ context.options.maxDepth) (value : Expr) (trail : Trail) :
    textOf ⟨module, scope, none⟩ value
        (solve context budget ⟨.expression value ⟨module, scope, none⟩, .empty, trail⟩).result =
      textOf ⟨module, scope, none⟩ value
        (solve context budget (startingTask value ⟨module, scope, none⟩)).result := by
  -- On both trails it is what evaluation comes to with as much room in an empty memory.
  let memory : Memory := ⟨[], 1, context.options.maxDepth - budget⟩
  have remembered (trail : Trail) :
      textOf ⟨module, scope, none⟩ value
          (solve context budget ⟨.expression value ⟨module, scope, none⟩, .empty, trail⟩).result =
        textOf ⟨module, scope, none⟩ value
          (Run.evaluate context (budget + 1) [] (.expression value ⟨module, scope, none⟩) .empty
            memory).1 := by
    obtain ⟨made, loaded, _, distinct, _, solves⟩ := Run.evaluate_answers budget []
      (.expression value ⟨module, scope, none⟩) .empty memory trail (.of_unhurried running [] trail)
      nofun (Nat.sub_add_cancel within)
    obtain ⟨names, injective, assigns⟩ := exists_assigns memory.nextFrame distinct
    have solved := solves names injective assigns
    rw [Goal.rename, Environment.rename_mk] at solved
    have answered := congrArg Outcome.result solved
    exact (congrArg (textOf _ value) answered).trans (textOf_rename _ value names _)
  exact (remembered trail).trans (remembered []).symm

/-- One level further down a substitution comes to what it comes to on its own. -/
theorem solve_alone (running : context.Unhurried)
    (within : budget ≤ context.options.maxDepth) (module : Module) (scope : ScopeId) (value : Expr)
    (trail : Trail)
    (finished : (solve context budget
      ⟨.expression value ⟨module, scope, none⟩, .empty, trail⟩).isCutOff = false) :
    textOf ⟨module, scope, none⟩ value
        (solve context budget ⟨.expression value ⟨module, scope, none⟩, .empty, trail⟩).result =
      (resolveText context value ⟨module, scope, none⟩).result := by
  have roomier := solve_withDepth_of_le context.options.maxDepth within _ finished
  rw [resolveText_eq]
  dsimp only
  rw [← solve_trail running (Nat.le_refl _) value trail]
  exact congrArg (fun outcome => textOf _ value (Outcome.result outcome)) roomier.symm

/-- The parts of a template in order, each as it comes out on its own. -/
theorem template_follow (running : context.Unhurried)
    (within : budget ≤ context.options.maxDepth) (before : String) (parts : List TemplatePart)
    (trail : Trail) (count : Nat)
    (finished : ((Plan.template ⟨module, scope, none⟩ .empty before parts).follow
      context.expired (solve context budget) trail count).isCutOff = false) :
    ((Plan.template ⟨module, scope, none⟩ .empty before parts).follow
        context.expired (solve context budget) trail count).result =
      (interpolated (fun value => (resolveText context value ⟨module, scope, none⟩).result)
        parts).map fun text => .text (before ++ text) := by
  have joined (before text : String) (later : Except Failure String) :
      later.map (fun rest => Value.text (before ++ text ++ rest)) =
        (later.map (text ++ ·)).map fun rest => .text (before ++ rest) := by
    cases later with
    | error failure => rfl
    | ok rest => exact congrArg (Except.ok ∘ Value.text) String.append_assoc
  induction parts generalizing before count with
  | nil =>
      rw [interpolated]
      exact congrArg (Except.ok ∘ Value.text) String.append_empty.symm
  | cons part rest ih =>
      cases part with
      | chunk text =>
          rw [Plan.template] at finished ⊢
          rw [ih _ _ finished, joined]
          rfl
      | substitution value =>
          have alone := solve_alone running within module scope value (count :: trail)
          unfold Plan.template Plan.withValue Plan.follow at finished ⊢
          dsimp only [Outcome.after] at finished ⊢
          cases answered : (solve context budget
              ⟨.expression value ⟨module, scope, none⟩, .empty, count :: trail⟩).result with
          | error failure =>
              rw [answered] at finished
              have here := alone (by rw [Outcome.isCutOff, answered]; exact finished)
              rw [answered] at here
              rw [interpolated, partText, ← here]
              rfl
          | ok found =>
              have here := alone (by rw [Outcome.isCutOff, answered])
              rw [answered] at finished here
              cases found with
              | function closure =>
                  rw [interpolated, partText, ← here]
                  rfl
              | text text =>
                  dsimp only at finished ⊢
                  rw [interpolated, partText, ← here, ih _ _ finished, joined]
                  rfl

end Alone

/-! ### Templates -/

inductive Interpolates (options : Options) : Expr → List TemplatePart → Prop where
  | template (mark : Mark) (parts : List TemplatePart) :
      Interpolates options (.template mark parts) parts
  | tagged (mark tagMark : Mark) {name : String} (parts : List TemplatePart)
      (allowed : options.isQueryTag name = true) :
      Interpolates options (.tagged mark (.identifier tagMark name) parts) parts

theorem Interpolates.plan {context : Context} {value : Expr} {parts : List TemplatePart}
    (interpolates : Interpolates context.options value parts) (trail : Trail)
    (environment : Environment) (visited : Visited) :
    Plan.expression context trail value environment visited =
      .template environment visited "" parts := by
  cases interpolates with
  | template mark => rfl
  | tagged mark tagMark _ allowed => rw [Plan.expression, if_pos allowed]

/-- A template that is not cut off comes to its parts in order, each as it comes out on its own. -/
theorem resolveText_template {context : Context} (running : context.Unhurried)
    {value : Expr} {parts : List TemplatePart}
    (interpolates : Interpolates context.options value parts) (module : Module) (scope : ScopeId)
    (finished : (resolveText context value ⟨module, scope, none⟩).isCutOff = false) :
    (resolveText context value ⟨module, scope, none⟩).result =
      interpolated (fun part => (resolveText context part ⟨module, scope, none⟩).result) parts := by
  have unmarked (result : Except Failure String) :
      textOf ⟨module, scope, none⟩ value (result.map fun text => .text ("" ++ text)) = result := by
    cases result with
    | error failure => rfl
    | ok text => exact congrArg Except.ok String.empty_append
  rw [resolveText_isCutOff] at finished
  rw [resolveText_eq]
  dsimp only
  cases depth : context.options.maxDepth with
  | zero =>
      rw [depth, solve_zero (running _), Task.refused_isCutOff] at finished
      cases finished
  | succ budget =>
      have follows : solve context (budget + 1) (startingTask value ⟨module, scope, none⟩) =
          (Plan.template ⟨module, scope, none⟩ .empty "" parts).follow context.expired
            (solve context budget) [] 0 := by
        rw [solve_succ (running _), ← interpolates.plan]
        rfl
      rw [depth, follows] at finished
      rw [follows, template_follow running (by omega) "" parts [] 0 finished, unmarked]

namespace Session

/-- The first resolution of a session is one without a memory. -/
theorem serve_start {context : Context} (running : context.Unhurried) (value : Expr)
    (module : Module) (scope : ScopeId) :
    ((start context).serve ⟨value, module, scope⟩).1 =
      (resolveText context value ⟨module, scope, none⟩).result := by
  have alone := Request.outcome_nil context ⟨value, module, scope⟩
  have served := ((start_idle context).serve ⟨value, module, scope⟩
    (.of_unhurried running _ [])).1
  rw [alone] at served
  exact served

/-- A template, or a tagged one, succeeds if and only if each of its substitutions does on its own,
in the same scope and a new session. Then its text is put together from theirs and the chunks in
order; else its failure is that of the first substitution that fails on its own. -/
theorem template_composed {context : Context} (running : context.Unhurried)
    {value : Expr} {parts : List TemplatePart}
    (interpolates : Interpolates context.options value parts) (module : Module) (scope : ScopeId)
    (finished : ∀ failure, ((start context).serve ⟨value, module, scope⟩).1 = .error failure →
      failure.cause.isCutOff = false) :
    Composed (fun part => ((start context).serve ⟨part, module, scope⟩).1) parts
      ((start context).serve ⟨value, module, scope⟩).1 := by
  simp only [serve_start running] at finished ⊢
  have whole : (resolveText context value ⟨module, scope, none⟩).isCutOff = false := by
    unfold TextOutcome.isCutOff
    split
    · rfl
    · rename_i failure failed
      exact finished failure failed
  rw [resolveText_template running interpolates module scope whole]
  exact interpolated_composed _ parts

end Session

def postModule : Module :=
  .ofProgram "/page.ts" ⟨numbered 0,
    [.variables ⟨numbered 1, false, .constant,
      [⟨.name ⟨numbered 2, "post"⟩, some (.arrow (numbered 3)
        ⟨numbered 4, true, false, false, [], .expression (.string (numbered 5) "post")⟩)⟩], []⟩],
    ⟨[]⟩⟩

def postCall (number : Nat) : Expr :=
  .call (numbered number) false (.identifier (numbered (number + 1)) "post") []

/-- Two substitutions call the same function. -/
theorem repeated_call_interpolated :
    let context : Context := .still .empty
    let parts : List TemplatePart :=
      [.substitution (postCall 6), .chunk " or ", .substitution (postCall 8)]
    let value : Expr := .tagged (numbered 10) (.identifier (numbered 11) "groq") parts
    context.Unhurried ∧ Interpolates context.options value parts ∧
      ((Session.start context).serve ⟨value, postModule, ScopeTree.root⟩).1 =
        .ok "post or post" := by
  intro context parts value
  have running : context.Unhurried := Context.still_unhurried _
  have interpolates : Interpolates context.options value parts := .tagged _ _ _ rfl
  have finished : (resolveText context value ⟨postModule, ScopeTree.root, none⟩).isCutOff = false :=
    by decide +kernel
  have composed := Session.template_composed running interpolates postModule ScopeTree.root
    fun failure failed => by
      rw [Session.serve_start running] at failed
      rw [TextOutcome.isCutOff, failed] at finished
      exact finished
  have called (number : Nat) (found : (resolveText context (postCall number)
      ⟨postModule, ScopeTree.root, none⟩).text? = some "post") :
      ((Session.start context).serve ⟨postCall number, postModule, ScopeTree.root⟩).1 =
        .ok "post" :=
    (Session.serve_start running ..).trans (TextOutcome.text?_eq_some_iff.mp found)
  have first := called 6 (by decide +kernel)
  have second := called 8 (by decide +kernel)
  exact ⟨running, interpolates,
    composed.joins ["post", " or ", "post"] (.cons first (.cons rfl (.cons second .nil)))⟩

end QueryTypes.Resolution
