import QueryTypes.Proofs.Resolution.Following

/-!
Which return statement a call evaluates, among all that its function has.

A function's own return statements may stand anywhere in its body outside of nested functions. Those
in loops, switches, handlers and cleanups do not count: a call never looks at them. It goes on if
exactly one is left, and fails otherwise. So what a call evaluates is the only return statement of
the function that counts, but not always its only one.
-/

set_option autoImplicit false

namespace QueryTypes.Script

inductive SkippedPart where
  | loop
  | switch
  | handler
  | cleanup
deriving DecidableEq

/-- A return statement with the skipped parts that it stands in, from the outermost on. -/
structure OwnReturn where
  statement : Return
  within : List SkippedPart

namespace OwnReturn

def inside (part : SkippedPart) (own : OwnReturn) : OwnReturn :=
  ⟨own.statement, part :: own.within⟩

def counts (own : OwnReturn) : Bool := own.within.isEmpty

private theorem counts_iff {own : OwnReturn} :
    own.counts = true ↔ own.within = [] := List.isEmpty_iff

private theorem filter_counts_inside (part : SkippedPart) (returns : List OwnReturn) :
    (returns.map (inside part)).filter counts = [] := by
  rw [List.filter_eq_nil_iff, List.forall_mem_map]
  exact fun _ _ => Bool.false_ne_true

end OwnReturn

mutual

/-- All return statements in a statement, in source order. Those of nested functions are not its
own. -/
def Stmt.ownReturns : Stmt → List OwnReturn
  | .returns statement => [⟨statement, []⟩]
  | .conditional _ _ consequent alternate =>
      consequent.ownReturns ++ Stmt.alternateOwnReturns alternate
  | .block ⟨_, body⟩ => Stmt.listOwnReturns body
  | .attempt _ ⟨_, body⟩ handler cleanup =>
      Stmt.listOwnReturns body ++
        (Stmt.handlerOwnReturns handler).map (.inside .handler) ++
        (Stmt.cleanupOwnReturns cleanup).map (.inside .cleanup)
  | .switch _ _ branches => (Stmt.branchesOwnReturns branches).map (.inside .switch)
  | .loop _ _ body => body.ownReturns.map (.inside .loop)
  | .empty _ | .exportDefault _ _ | .exportList _ | .expression _ _ | .function _
  | .imports _ | .variables _ => []

def Stmt.alternateOwnReturns : Option Stmt → List OwnReturn
  | none => []
  | some statement => statement.ownReturns

def Stmt.handlerOwnReturns : Option CatchClause → List OwnReturn
  | none => []
  | some ⟨_, _, body⟩ => Stmt.listOwnReturns body

def Stmt.cleanupOwnReturns : Option Block → List OwnReturn
  | none => []
  | some ⟨_, body⟩ => Stmt.listOwnReturns body

def Stmt.branchesOwnReturns : List SwitchBranch → List OwnReturn
  | [] => []
  | ⟨_, _, body⟩ :: rest => Stmt.listOwnReturns body ++ Stmt.branchesOwnReturns rest

def Stmt.listOwnReturns : List Stmt → List OwnReturn
  | [] => []
  | first :: rest => first.ownReturns ++ Stmt.listOwnReturns rest

end

def OwnReturn.counted (returns : List OwnReturn) : List Return :=
  (returns.filter OwnReturn.counts).map OwnReturn.statement

private theorem OwnReturn.counted_append (first second : List OwnReturn) :
    counted (first ++ second) = counted first ++ counted second := by
  rw [counted, List.filter_append, List.map_append, counted, counted]

private theorem OwnReturn.counted_inside (part : SkippedPart) (returns : List OwnReturn) :
    counted (returns.map (inside part)) = [] := by
  rw [counted, filter_counts_inside, List.map_nil]

mutual

/-- The return statements found are all own ones that count. -/
theorem foundReturns_eq_counted : ∀ statement : Stmt,
    statement.foundReturns = OwnReturn.counted statement.ownReturns
  | .returns statement => by
      rw [Stmt.foundReturns, Stmt.ownReturns]
      rfl
  | .conditional _ _ consequent alternate => by
      rw [Stmt.foundReturns, Stmt.ownReturns, OwnReturn.counted_append,
        foundReturns_eq_counted consequent, alternateReturns_eq_counted alternate]
  | .block ⟨_, body⟩ => by
      rw [Stmt.foundReturns, Stmt.ownReturns, listReturns_eq_counted body]
  | .attempt _ ⟨_, body⟩ handler cleanup => by
      rw [Stmt.foundReturns, Stmt.ownReturns, OwnReturn.counted_append, OwnReturn.counted_append,
        OwnReturn.counted_inside, OwnReturn.counted_inside, List.append_nil, List.append_nil,
        listReturns_eq_counted body]
  | .switch _ _ _ | .loop _ _ _ => by
      rw [Stmt.foundReturns, Stmt.ownReturns, OwnReturn.counted_inside]
  | .empty _ | .exportDefault _ _ | .exportList _ | .expression _ _ | .function _
  | .imports _ | .variables _ => by
      rw [Stmt.foundReturns, Stmt.ownReturns]
      rfl

private theorem alternateReturns_eq_counted : ∀ alternate : Option Stmt,
    Stmt.alternateReturns alternate = OwnReturn.counted (Stmt.alternateOwnReturns alternate)
  | none => by
      rw [Stmt.alternateReturns, Stmt.alternateOwnReturns]
      rfl
  | some statement => by
      rw [Stmt.alternateReturns, Stmt.alternateOwnReturns, foundReturns_eq_counted statement]

private theorem listReturns_eq_counted : ∀ body : List Stmt,
    Stmt.listReturns body = OwnReturn.counted (Stmt.listOwnReturns body)
  | [] => by
      rw [Stmt.listReturns, Stmt.listOwnReturns]
      rfl
  | first :: rest => by
      rw [Stmt.listReturns, Stmt.listOwnReturns, OwnReturn.counted_append,
        foundReturns_eq_counted first, listReturns_eq_counted rest]

end

structure OwnReturn.Alone (own : OwnReturn) (returns : List OwnReturn) : Prop where
  counts : own.within = []
  others : ∃ before after, returns = before ++ own :: after ∧
    ∀ other ∈ before ++ after, other.within ≠ []

private theorem OwnReturn.counted_eq_singleton_iff {returns : List OwnReturn} {statement : Return} :
    counted returns = [statement] ↔
      ∃ own : OwnReturn, own.statement = statement ∧ own.Alone returns := by
  constructor
  · intro single
    obtain ⟨own, rest, found, rfl, none⟩ := List.map_eq_cons_iff.mp single
    rw [List.map_eq_nil_iff] at none
    subst none
    obtain ⟨before, after, rfl, skippedBefore, here, skippedAfter⟩ :=
      List.filter_eq_cons_iff.mp found
    refine ⟨own, rfl, counts_iff.mp here, before, after, rfl, ?_⟩
    intro other present
    rw [ne_eq, ← counts_iff]
    rcases List.mem_append.mp present with early | late
    · exact skippedBefore other early
    · exact List.filter_eq_nil_iff.mp skippedAfter other late
  · rintro ⟨own, rfl, here, before, after, rfl, others⟩
    have skipped {part : List OwnReturn} (within : part ⊆ before ++ after) : counted part = [] := by
      rw [counted, List.map_eq_nil_iff, List.filter_eq_nil_iff]
      intro other present
      rw [counts_iff]
      exact others other (within present)
    have counts : counted [own] = [own.statement] := by
      rw [counted, List.filter_cons_of_pos (counts_iff.mpr here)]
      rfl
    rw [← List.singleton_append, counted_append, counted_append, counts,
      skipped (List.subset_append_left _ _), skipped (List.subset_append_right _ _)]
    rfl

end QueryTypes.Script

namespace QueryTypes.Resolution

open QueryTypes.Script
open QueryTypes.Scoping
open QueryTypes.Modules

structure Accepted (closure : Closure) (arguments : List Argument) (caller : Environment) :
    Prop where
  async : closure.function.async = false
  generator : closure.function.generator = false
  spread : arguments.find? (·.spread) = none
  scope : ∃ functionScope,
    closure.module.scopes.createdBy? closure.function.mark.id = some functionScope
  parameters : ∃ bindings,
    bindParameters caller closure.function.parameters arguments = .ok bindings

namespace Plan

variable (trail : Trail) (closure : Closure) (call : Mark) (arguments : List Argument)
  (caller : Environment) (visited : Visited)

/-- All that a call does by itself is to fail. -/
theorem apply_fails_or_enters :
    (∃ failure, apply trail closure call arguments caller visited = fail failure) ∨
      ∃ inside, apply trail closure call arguments caller visited =
        body closure.function inside visited := by
  unfold apply
  dsimp only
  split
  · exact .inl ⟨_, rfl⟩
  · split
    · exact .inl ⟨_, rfl⟩
    · split
      · exact .inl ⟨_, rfl⟩
      · split
        · exact .inl ⟨_, rfl⟩
        · split
          · exact .inl ⟨_, rfl⟩
          · exact .inl ⟨_, rfl⟩
          · exact .inr ⟨_, rfl⟩

variable {closure arguments caller}

private theorem apply_enters (accepted : Accepted closure arguments caller) :
    ∃ inside,
      apply trail closure call arguments caller visited = body closure.function inside visited := by
  obtain ⟨functionScope, scope⟩ := accepted.scope
  obtain ⟨bindings, parameters⟩ := accepted.parameters
  unfold apply
  simp only [accepted.async, accepted.generator, accepted.spread, scope, parameters,
    Bool.false_eq_true, if_false]
  exact ⟨_, rfl⟩

variable {function : Function} {statements : List Stmt} (inside : Environment)
include inside

/-- Without exactly one return statement that counts, a body fails with their number. -/
theorem body_refused (block : function.body = .statements statements)
    (several : (OwnReturn.counted (Stmt.listOwnReturns statements)).length ≠ 1) :
    body function inside visited = fail (inside.failure function.mark.loc
      (.returnCount (OwnReturn.counted (Stmt.listOwnReturns statements)).length)) := by
  rw [← listReturns_eq_counted] at several ⊢
  unfold body
  rw [block]
  dsimp only
  split
  · rename_i statement single
    rw [single] at several
    exact absurd rfl several
  · rfl

/-- A return statement that alone counts gives the body its value. -/
theorem body_returns (block : function.body = .statements statements) {own : OwnReturn}
    (alone : own.Alone (Stmt.listOwnReturns statements)) :
    body function inside visited =
      match own.statement.value with
      | none => fail (inside.failure own.statement.mark.loc .missingReturnArgument)
      | some value => become (.expression value (inside.withScope
          ((inside.module.scopes.enclosing? own.statement.mark.id).getD
            inside.scope))) visited := by
  have single := OwnReturn.counted_eq_singleton_iff.mpr ⟨own, rfl, alone⟩
  rw [← listReturns_eq_counted] at single
  unfold body
  rw [block]
  cases value : own.statement.value <;> simp only [single, value]

end Plan

section Calls

variable (trail : Trail) (closure : Closure) (call : Mark) (arguments : List Argument)
  (caller : Environment) (visited : Visited)

/-- A call of a function with a block for a body fails, or goes on with the argument of a return
statement that alone stands in no loop, switch, handler or cleanup of the body; then all its other
return statements stand in one. If the call is accepted, another number of return statements outside
of these is what it fails for, and of a single one it does evaluate the argument. -/
theorem call_evaluates_return_that_counts {statements : List Stmt}
    (block : closure.function.body = .statements statements) :
    let returns := Stmt.listOwnReturns statements
    let plan := Plan.apply trail closure call arguments caller visited
    ((∃ failure, plan = .fail failure) ∨
        ∃ own value environment, OwnReturn.Alone own returns ∧ own.statement.value = some value ∧
          plan = .become (.expression value environment) visited) ∧
      (Accepted closure arguments caller →
        ((OwnReturn.counted returns).length ≠ 1 →
            ∃ failure, plan = .fail failure ∧
              failure.cause = .returnCount (OwnReturn.counted returns).length) ∧
          ∀ own value, OwnReturn.Alone own returns → own.statement.value = some value →
            ∃ environment, plan = .become (.expression value environment) visited) := by
  intro returns plan
  constructor
  · rcases Plan.apply_fails_or_enters trail closure call arguments caller visited with
      fails | ⟨inside, enters⟩
    · exact .inl fails
    · by_cases single : (OwnReturn.counted returns).length = 1
      · obtain ⟨statement, counted⟩ := List.length_eq_one_iff.mp single
        obtain ⟨own, rfl, alone⟩ := OwnReturn.counted_eq_singleton_iff.mp counted
        have gives := enters.trans (Plan.body_returns visited inside block alone)
        cases argument : own.statement.value with
        | none =>
            rw [argument] at gives
            exact .inl ⟨_, gives⟩
        | some value =>
            rw [argument] at gives
            exact .inr ⟨own, value, _, alone, argument, gives⟩
      · exact .inl ⟨_, enters.trans (Plan.body_refused visited inside block single)⟩
  · intro accepted
    obtain ⟨inside, enters⟩ := Plan.apply_enters trail call visited accepted
    refine ⟨fun several => ?_, fun own value alone argument => ?_⟩
    · exact ⟨_, enters.trans (Plan.body_refused visited inside block several), rfl⟩
    · have gives := enters.trans (Plan.body_returns visited inside block alone)
      rw [argument] at gives
      exact ⟨_, gives⟩

end Calls

/-- `return "a"` in a loop and `return "b"` after it. -/
def loopingBody : List Stmt :=
  [.loop (numbered 4) (.boolean (numbered 5) true)
      (.returns ⟨numbered 6, some (.string (numbered 7) "a")⟩),
    .returns ⟨numbered 8, some (.string (numbered 9) "b")⟩]

def pickingFunction : Function := ⟨numbered 3, true, false, false, [], .statements loopingBody⟩

def pickingModule : Module :=
  .ofProgram "/page.ts" ⟨numbered 0,
    [.variables ⟨numbered 1, false, .constant,
      [⟨.name ⟨numbered 2, "pick"⟩, some (.arrow (numbered 10) pickingFunction)⟩], []⟩], ⟨[]⟩⟩

theorem looping_call_evaluates_last_return :
    Accepted ⟨pickingFunction, pickingModule, none⟩ [] (.ofModule pickingModule) ∧
      ∃ environment, Plan.apply [] ⟨pickingFunction, pickingModule, none⟩ (numbered 11) []
        (.ofModule pickingModule) .empty =
          .become (.expression (.string (numbered 9) "b") environment) .empty := by
  have scope : ∃ functionScope,
      pickingModule.scopes.createdBy? pickingFunction.mark.id = some functionScope :=
    Option.isSome_iff_exists.mp (by decide +kernel)
  have accepted : Accepted ⟨pickingFunction, pickingModule, none⟩ [] (.ofModule pickingModule) :=
    ⟨rfl, rfl, rfl, scope, _, rfl⟩
  have alone : OwnReturn.Alone ⟨⟨numbered 8, some (.string (numbered 9) "b")⟩, []⟩
      (Stmt.listOwnReturns loopingBody) :=
    ⟨rfl, [⟨⟨numbered 6, some (.string (numbered 7) "a")⟩, [.loop]⟩], [], rfl,
      List.forall_mem_singleton.mpr (List.cons_ne_nil _ _)⟩
  exact ⟨accepted, ((call_evaluates_return_that_counts [] ⟨pickingFunction, pickingModule, none⟩
    (numbered 11) [] (.ofModule pickingModule) .empty rfl).2 accepted).2 _ _ alone rfl⟩

/-- The function has two return statements of its own, and its call has a value all the same. -/
theorem return_in_loop_not_counted :
    (Stmt.listOwnReturns loopingBody).length = 2 ∧
      (resolveText (.still .empty)
        (.call (numbered 11) false (.identifier (numbered 12) "pick") [])
        (.ofModule pickingModule)).text? = some "b" :=
  ⟨rfl, by decide +kernel⟩

end QueryTypes.Resolution
