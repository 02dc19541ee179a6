import QueryTypes.Proofs.Resolution.CallFree
import QueryTypes.Proofs.Resolution.Reexports

/-!
Without calls, what the guards refuse is exactly what never ends.

If evaluation without guards ends, then no goal is come to again on the way to itself: it would
need a smaller budget the second time than the first. So the guards refuse nothing, and both
evaluations agree. Conversely an evaluation under the guards in which nothing is refused does not
need them.
-/

set_option autoImplicit false

namespace QueryTypes.Resolution

open QueryTypes.Script
open QueryTypes.Source
open QueryTypes.Scoping
open QueryTypes.Modules

/-! ### Following plans in parallel -/

def Outcome.FailsBy (kind : Cause → Bool) (outcome : Outcome) : Prop :=
  ∃ failure, outcome.result = .error failure ∧ kind failure.cause = true

section Following

variable {inside : Goal → Prop} {first second : Visited} {left right : Plan}
  {expired : Moment → Bool}

/-- If answers agree but for failures of a certain kind, then parallel plans come to the same
unless one of those is met. -/
theorem Plan.Parallel.follow_eq (parallel : Parallel inside first second left right)
    (running : ∀ moment, expired moment = false) (kind : Cause → Bool)
    (solve other : Task → Outcome)
    (agree : ∀ goal, inside goal → ∀ way otherWay, (solve ⟨goal, first, way⟩).FailsBy kind ∨
      other ⟨goal, second, otherWay⟩ = solve ⟨goal, first, way⟩)
    (trail otherTrail : Trail) (count otherCount : Nat) :
    (left.follow expired solve trail count).FailsBy kind ∨
      right.follow expired other otherTrail otherCount =
        left.follow expired solve trail count := by
  induction parallel generalizing count otherCount with
  | finish _ => exact .inr rfl
  | timed _ ih =>
      rw [follow_timed (running _), follow_timed (running _)]
      exact ih count otherCount
  | load _ ih =>
      rcases ih count otherCount with fails | same
      · exact .inl fails
      · exact .inr (congrArg _ same)
  | @ask goal leftNext rightNext asked leftPasses rightPasses _ ih =>
      unfold follow
      dsimp only
      rcases agree goal asked (count :: trail) (otherCount :: otherTrail) with
        ⟨failure, failed, bad⟩ | same
      · left
        rw [failed, leftPasses]
        exact ⟨failure, rfl, bad⟩
      · rw [same]
        cases answered : (solve ⟨goal, first, count :: trail⟩).result with
        | error failure =>
            rw [leftPasses, rightPasses]
            exact .inr rfl
        | ok value =>
            rcases ih value (count + 1) (otherCount + 1) with fails | agrees
            · exact .inl fails
            · exact .inr (congrArg _ agrees)

/-- A cycle in the answer comes from a request. -/
theorem Plan.Parallel.follow_straight (parallel : Parallel inside first second left right)
    (running : ∀ moment, expired moment = false) {solve : Task → Outcome} {trail : Trail}
    (straight : ∀ goal, inside goal → ∀ way, ¬ (solve ⟨goal, first, way⟩).FailsBy Cause.isCycle)
    (count : Nat) : ¬ (left.follow expired solve trail count).FailsBy Cause.isCycle := by
  induction parallel generalizing count with
  | finish own =>
      rintro ⟨failure, failed, cycle⟩
      exact absurd cycle (Bool.eq_false_iff.mp (own failure failed))
  | timed _ ih =>
      rw [follow_timed (running _)]
      exact ih count
  | load _ ih => exact ih count
  | @ask goal leftNext _ asked leftPasses _ _ ih =>
      have requested := straight goal asked (count :: trail)
      cases answered : (solve ⟨goal, first, count :: trail⟩).result with
      | error failure =>
          rintro ⟨other, failed, cycle⟩
          simp only [follow, answered, leftPasses] at failed
          exact requested ⟨failure, answered, Except.error.inj failed ▸ cycle⟩
      | ok value =>
          have later := ih value (count + 1)
          rintro ⟨failure, failed, cycle⟩
          simp only [follow, answered] at failed
          exact later ⟨failure, failed, cycle⟩

end Following

/-! ### Evaluation with and without guards -/

section Runs

variable {host : Host} {held : Module → Prop} {options : Options} {clock : Clock}

private theorem Visited.passes_none (visited : Visited) (goal : Goal) : goal.Passes .none visited :=
  .inl rfl

private theorem solve_eq_of_le {context : Context} {budget larger : Nat}
    (budget_le : budget ≤ larger) {task : Task}
    (finished : (solve context budget task).isCutOff = false) :
    solve context larger task = solve context budget task :=
  solve_withDepth_of_le context.options.maxDepth budget_le task finished

/-- Without guards nothing is ever reported as circular. -/
theorem solve_unguarded_straight (among : CallFreeAmong host held)
    (running : ∀ guards, Context.Unhurried ⟨host, options, guards, clock⟩) (budget : Nat)
    {goal : Goal} (plain : goal.Plain held)
    (visited : Visited) (trail : Trail) :
    ¬ (solve ⟨host, options, .none, clock⟩ budget ⟨goal, visited, trail⟩).FailsBy
      Cause.isCycle := by
  induction budget generalizing goal visited trail with
  | zero =>
      rw [solve_zero (running _ _)]
      rintro ⟨failure, failed, cycle⟩
      cases failed
      rw [Goal.failure_cause] at cycle
      cases cycle
  | succ budget ih =>
      rw [solve_succ (running _ _)]
      have parallel := Task.plan_parallel among options clock plain (visited.passes_none goal)
        (visited.passes_none goal) trail trail
      exact parallel.follow_straight (running .none) (fun inner leads way => ih leads.1 _ way) 0

/-- Without guards it does not matter what was visited. -/
theorem solve_unguarded_eq (among : CallFreeAmong host held)
    (running : ∀ guards, Context.Unhurried ⟨host, options, guards, clock⟩) (budget : Nat)
    {goal : Goal} (plain : goal.Plain held) (visited other : Visited)
    (trail otherTrail : Trail) :
    solve ⟨host, options, .none, clock⟩ budget ⟨goal, other, otherTrail⟩ =
      solve ⟨host, options, .none, clock⟩ budget ⟨goal, visited, trail⟩ := by
  induction budget generalizing goal visited other trail otherTrail with
  | zero =>
      rw [solve_zero (running _ _), solve_zero (running _ _)]
      rfl
  | succ budget ih =>
      rw [solve_succ (running _ _), solve_succ (running _ _)]
      have parallel := Task.plan_parallel among options clock plain (visited.passes_none goal)
        (other.passes_none goal) trail otherTrail
      rcases parallel.follow_eq (running .none) (fun _ => false) _ _
        (fun inner leads way otherWay => .inr (ih leads.1 _ _ way otherWay)) trail otherTrail 0 0
        with ⟨_, _, impossible⟩ | same
      · cases impossible
      · exact same

/-- An evaluation under the guards that reports no cycle does not need them. -/
theorem solve_guarded_isCycle_or (among : CallFreeAmong host held)
    (running : ∀ guards, Context.Unhurried ⟨host, options, guards, clock⟩) (budget : Nat)
    {goal : Goal} (plain : goal.Plain held)
    (visited other : Visited) (trail otherTrail : Trail) :
    (solve ⟨host, options, .all, clock⟩ budget ⟨goal, visited, trail⟩).FailsBy Cause.isCycle ∨
      solve ⟨host, options, .none, clock⟩ budget ⟨goal, other, otherTrail⟩ =
        solve ⟨host, options, .all, clock⟩ budget ⟨goal, visited, trail⟩ := by
  induction budget generalizing goal visited other trail otherTrail with
  | zero =>
      rw [solve_zero (running _ _), solve_zero (running _ _)]
      exact .inr rfl
  | succ budget ih =>
      rw [solve_succ (running _ _), solve_succ (running _ _)]
      by_cases repeated : goal.Repeats visited
      · obtain ⟨failure, cycle, refused⟩ := Task.plan_refused host options clock repeated trail
        rw [refused]
        exact .inl ⟨failure, rfl, cycle⟩
      · have parallel := Task.plan_parallel among options clock plain (.inr ⟨rfl, repeated⟩)
          (other.passes_none goal) trail otherTrail
        exact parallel.follow_eq (running .all) Cause.isCycle _ _
          (fun inner leads way otherWay => ih leads.1 _ _ way otherWay) trail otherTrail 0 0

/-! ### What a repetition means -/

/-- At the start nothing was visited. -/
theorem Goal.not_repeats_empty (goal : Goal) : ¬ goal.Repeats .empty := by
  intro repeated
  cases goal with
  | exported _ _ _ _ => cases repeated
  | expression value _ =>
      cases value with
      | identifier _ _ => cases repeated
      | _ => exact repeated.elim

def Goal.CutOff (host : Host) (options : Options) (clock : Clock) (budget : Nat) (goal : Goal) :
    Prop :=
  (solve ⟨host, options, .none, clock⟩ budget ⟨goal, .empty, []⟩).isCutOff = true

private theorem Goal.CutOff.of_le {budget larger : Nat} {goal : Goal}
    (cut : goal.CutOff host options clock larger) (budget_le : budget ≤ larger) :
    goal.CutOff host options clock budget := by
  unfold CutOff at cut ⊢
  by_contra finished
  rw [Bool.not_eq_true] at finished
  rw [solve_eq_of_le budget_le finished, finished] at cut
  cases cut

/-- Where an export is requested shows in the failure that it is missing, and nowhere else. -/
theorem Goal.CutOff.of_requester {budget : Nat} {target requester other : Module} {name : String}
    {loc place : Loc} (running : ∀ guards, Context.Unhurried ⟨host, options, guards, clock⟩)
    (unrelayed : wildcardSources target.body = [])
    (cut : (Goal.exported target name requester loc).CutOff host options clock budget) :
    (Goal.exported target name other place).CutOff host options clock budget := by
  unfold CutOff at cut ⊢
  cases budget with
  | zero =>
      rw [solve_zero (running _ _), Task.refused_isCutOff]
      rfl
  | succ budget =>
      rw [solve_succ (running _ _)] at cut ⊢
      unfold Task.plan Plan.exported at cut ⊢
      dsimp only at cut ⊢
      rw [Visited.enterExport_of_passes (.inl rfl)] at cut ⊢
      dsimp only at cut ⊢
      split at cut
      · exact cut
      · exact cut
      · unfold Plan.namedExport at cut ⊢
        split at cut
        · exact cut
        · split at cut
          · exact cut
          · rw [unrelayed] at cut
            cases cut

/-- A node of a program stands in one place. -/
theorem eq_of_same_node {before after other rest : List Event} {first second : Mark}
    (unique : (nodeIds (before ++ .node first :: after)).Nodup)
    (same : before ++ .node first :: after = other ++ .node second :: rest)
    (sameId : first.id = second.id) : first = second ∧ after = rest := by
  have later {between events whole : List Event} {inner outer : Mark}
      (tail : Event.node outer :: whole = between ++ .node inner :: events)
      (fresh : (nodeIds (.node outer :: whole)).Nodup) (sameId : outer.id = inner.id) :
      outer = inner ∧ whole = events := by
    cases between with
    | nil =>
        cases tail
        exact ⟨rfl, rfl⟩
    | cons event between =>
        rw [tail, List.cons_append, ← (List.cons.inj tail).1, nodeIds_cons_node, nodeIds_append,
          nodeIds_cons_node, List.nodup_cons, sameId] at fresh
        exact absurd (List.mem_append_right _ List.mem_cons_self) fresh.1
  rcases List.append_eq_append_iff.mp same with ⟨between, rfl, tail⟩ | ⟨between, rfl, tail⟩
  · rw [nodeIds_append, List.nodup_append] at unique
    exact later tail unique.2.1 sameId
  · rw [same, nodeIds_append, List.nodup_append] at unique
    obtain ⟨sameMark, sameRest⟩ := later tail unique.2.1 sameId.symm
    exact ⟨sameMark.symm, sameRest.symm⟩

private theorem identifier_eq_of_same_node {program : Program} (unique : UniqueNodes program)
    {first second : Mark} {name other : String}
    (own : exprEvents (.identifier first name) <:+: programEvents program)
    (otherOwn : exprEvents (.identifier second other) <:+: programEvents program)
    (sameId : first.id = second.id) : first = second ∧ name = other := by
  obtain ⟨before, after, split⟩ := own
  obtain ⟨otherBefore, otherAfter, otherSplit⟩ := otherOwn
  simp only [exprEvents, List.append_assoc, List.cons_append, List.nil_append] at split otherSplit
  unfold UniqueNodes at unique
  rw [← split] at unique
  obtain ⟨sameMark, sameRest⟩ := eq_of_same_node unique (split.trans otherSplit.symm) sameId
  injection sameRest with sameUse _
  injection sameUse with _ sameName
  exact ⟨sameMark, sameName⟩

/-- A goal of the modules that repeats another one needs the same budget. -/
theorem Goal.CutOff.of_repeats (among : CallFreeAmong host held)
    (running : ∀ guards, Context.Unhurried ⟨host, options, guards, clock⟩) {goal other : Goal}
    (plain : goal.Plain held)
    (otherPlain : other.Plain held) (own : other.Own) {visited : Visited}
    (new : ¬ other.Repeats visited) (repeated : other.Repeats (goal.entering visited))
    {budget : Nat} (cut : goal.CutOff host options clock budget) :
    other.CutOff host options clock budget := by
  cases otherPlain with
  | @exported target requester name loc within =>
      cases plain with
      | expression _ _ _ _ =>
          rename_i value _ _ _ _ _
          cases value with
          | _ => exact absurd repeated new
      | @exported met _ metName _ metWithin =>
          rcases List.mem_cons.mp repeated with same | earlier
          · injection same with samePath sameName
            cases among.apart _ _ within metWithin samePath
            subst sameName
            exact cut.of_requester running (among.unrelayed _ within)
          · exact absurd earlier new
  | @expression otherValue otherEnvironment otherWithin otherOutside _ _ =>
      cases otherValue with
      | identifier otherMark otherName =>
          cases plain with
          | exported _ => exact absurd repeated new
          | @expression value environment within outside _ belongs =>
              cases value with
              | identifier mark name =>
                  rcases List.mem_cons.mp repeated with same | earlier
                  · injection same with sameSite sameScope _
                    injection sameSite with samePath sameId
                    obtain ⟨module, scope, frame⟩ := environment
                    obtain ⟨otherModule, otherScope, otherFrame⟩ := otherEnvironment
                    dsimp only at within outside otherWithin otherOutside samePath sameScope
                    cases among.apart _ _ otherWithin within samePath
                    subst sameScope outside otherOutside
                    have known : otherMark.id ∈ nodeIds (programEvents module.program) :=
                      nodeIds_subset own List.mem_cons_self
                    rcases belongs with inModule | foreign
                    · obtain ⟨sameMark, sameName⟩ := identifier_eq_of_same_node
                        (among.formed _ otherWithin).unique own inModule sameId
                      rw [sameMark, sameName]
                      exact cut
                    · rw [sameId] at known
                      exact absurd known (foreign _ List.mem_cons_self)
                  · exact absurd earlier new
              | _ => exact absurd repeated new
      | _ => exact repeated.elim

/-- A goal that a budget suffices for without guards has the same outcome under them, if everything
visited on the way to it needs a larger budget. -/
theorem solve_guarded_eq (among : CallFreeAmong host held)
    (running : ∀ guards, Context.Unhurried ⟨host, options, guards, clock⟩)
    (budget : Nat) {goal : Goal} (plain : goal.Plain held) {visited : Visited}
    (placed : goal.Own ∨ visited = .empty)
    (costly : ∀ other : Goal, other.Plain held → other.Own → other.Repeats visited →
      other.CutOff host options clock budget)
    (finished : ¬ goal.CutOff host options clock budget) (trail : Trail) :
    solve ⟨host, options, .all, clock⟩ budget ⟨goal, visited, trail⟩ =
      solve ⟨host, options, .none, clock⟩ budget ⟨goal, .empty, []⟩ := by
  induction budget generalizing goal visited trail with
  | zero =>
      refine absurd ?_ finished
      unfold Goal.CutOff
      rw [solve_zero (running _ _), Task.refused_isCutOff]
      rfl
  | succ budget ih =>
      by_cases cut : goal.CutOff host options clock budget
      · -- This is the least budget for the goal, so whatever it requests needs a smaller one.
        have new : ¬ goal.Repeats visited := by
          intro repeated
          rcases placed with own | nothing
          · exact finished (costly goal plain own repeated)
          · rw [nothing] at repeated
            exact goal.not_repeats_empty repeated
        have agree (inner : Goal) (leads : goal.Leads held inner) (way otherWay : Trail) :
            (solve ⟨host, options, .none, clock⟩ budget ⟨inner, goal.entering .empty, way⟩).FailsBy
                Cause.isCutOff ∨
              solve ⟨host, options, .all, clock⟩ budget ⟨inner, goal.entering visited, otherWay⟩ =
                solve ⟨host, options, .none, clock⟩ budget ⟨inner, goal.entering .empty, way⟩ := by
          rw [solve_unguarded_eq among running budget leads.1 .empty _ [] way]
          by_cases short : inner.CutOff host options clock budget
          · exact .inl (Outcome.isCutOff_iff.mp short)
          · refine .inr (ih leads.1 ?_ ?_ short otherWay)
            · rcases leads.2 with own | ⟨foreign, unnoted⟩
              · exact .inl own
              · rw [unnoted]
                exact .inr (placed.resolve_left foreign)
            · intro other otherPlain own repeated
              by_cases before : other.Repeats visited
              · exact (costly other otherPlain own before).of_le (Nat.le_succ budget)
              · exact cut.of_repeats among running plain otherPlain own before repeated
        have parallel := Task.plan_parallel among options clock plain
          (Visited.empty.passes_none goal)
          (.inr ⟨rfl, new⟩) [] trail
        rw [solve_succ (running _ _), solve_succ (running _ _)]
        rcases parallel.follow_eq (running .all) Cause.isCutOff _ _ agree [] trail 0 0
          with fails | same
        · refine absurd ?_ finished
          unfold Goal.CutOff
          rw [solve_succ (running _ _)]
          exact Outcome.isCutOff_iff.mpr fails
        · exact same
      · -- A smaller budget suffices already.
        have same := ih plain placed (fun other otherPlain own repeated =>
          (costly other otherPlain own repeated).of_le (Nat.le_succ budget)) cut trail
        have unguardedFinished := Bool.not_eq_true _ ▸ cut
        have guardedFinished := unguardedFinished
        rw [← same] at guardedFinished
        rw [solve_eq_of_le (Nat.le_succ budget) guardedFinished,
          solve_eq_of_le (Nat.le_succ budget) unguardedFinished, same]

end Runs

/-! ### Resolutions -/

def TextOutcome.isCycle (outcome : TextOutcome) : Bool :=
  match outcome.result with
  | .ok _ => false
  | .error failure => failure.cause.isCycle

private theorem resolveText_isCycle_iff (context : Context) (value : Expr)
    (environment : Environment) :
    (resolveText context value environment).isCycle = true ↔
      (solve context context.options.maxDepth (startingTask value environment)).FailsBy
        Cause.isCycle := by
  unfold resolveText TextOutcome.isCycle Outcome.FailsBy startingTask
  dsimp only
  cases (solve context context.options.maxDepth _).result with
  | ok value =>
      cases value with
      | text text => simp
      | function closure => simp [Environment.failure, Failure.within, Cause.isCycle]
  | error failure => simp

/-- The modules that evaluation stays among: the one it starts in and those of the host. -/
theorem callFreeAmong_memory {memory : MemoryHost} {module : Module}
    (formed : ∀ each ∈ module :: memory.modules, WellFormed each)
    (free : ∀ each ∈ module :: memory.modules, CallFree each)
    (unrelayed : ∀ each ∈ module :: memory.modules, wildcardSources each.body = [])
    (apart : ∀ found, memory.host.find? module.path = some found → found = module) :
    CallFreeAmong memory fun each => each = module ∨ each ∈ memory.host := by
  have member {each : Module} (held : each = module ∨ each ∈ memory.host) :
      each ∈ module :: memory.modules := by
    rcases held with same | found
    · exact List.mem_cons.mpr (.inl same)
    · exact List.mem_cons_of_mem _ (MemoryHost.mem_modules found)
  refine ⟨fun each held => formed each (member held), fun each held => free each (member held),
    fun each held => unrelayed each (member held),
    fun _ _ _ fetched => .inr (Host.mem_of_fetch fetched), ?_⟩
  rintro first second (rfl | found) (rfl | other) samePath
  · rfl
  · have held : memory.host.find? second.path = some second := other
    rw [← samePath] at held
    exact (apart second held).symm
  · have held : memory.host.find? first.path = some first := found
    rw [samePath] at held
    exact apart first held
  · have held : memory.host.find? first.path = some first := found
    rw [samePath, other] at held
    exact (Option.some.inj held).symm

section

variable {host : Host} {held : Module → Prop} {options : Options} {clock : Clock} {value : Expr}
  {environment : Environment}

private theorem CallFreeAmong.resolveText_unguarded_straight (among : CallFreeAmong host held)
    (running : ∀ guards, Context.Unhurried ⟨host, options, guards, clock⟩)
    (plain : (Goal.expression value environment).Plain held) :
    (resolveText ⟨host, options, .none, clock⟩ value environment).isCycle = false := by
  rw [← Bool.not_eq_true, resolveText_isCycle_iff]
  exact solve_unguarded_straight among running options.maxDepth plain .empty []

private theorem CallFreeAmong.resolveText_guarded_eq (among : CallFreeAmong host held)
    (running : ∀ guards, Context.Unhurried ⟨host, options, guards, clock⟩)
    (plain : (Goal.expression value environment).Plain held)
    (finished : (resolveText ⟨host, options, .none, clock⟩ value environment).isCutOff = false) :
    resolveText ⟨host, options, .all, clock⟩ value environment =
      resolveText ⟨host, options, .none, clock⟩ value environment := by
  apply resolveText_congr
  rw [resolveText_isCutOff, ← Bool.not_eq_true] at finished
  refine solve_guarded_eq among running options.maxDepth plain (.inr rfl) ?_ finished []
  exact fun other _ _ repeated => absurd repeated other.not_repeats_empty

/-- If some budget suffices without the guards, then nothing is reported under them. -/
theorem CallFreeAmong.resolveText_straight (among : CallFreeAmong host held)
    (running : ∀ guards, Context.Unhurried ⟨host, options, guards, clock⟩)
    (plain : (Goal.expression value environment).Plain held)
    (guardedFinished :
      (resolveText ⟨host, options, .all, clock⟩ value environment).isCutOff = false)
    {depth : Nat} (finished : (resolveText (Context.withDepth ⟨host, options, .none, clock⟩ depth)
      value environment).isCutOff = false) :
    (resolveText ⟨host, options, .all, clock⟩ value environment).isCycle = false := by
  have atDepth :
      resolveText (Context.withDepth ⟨host, options, .all, clock⟩ depth) value environment =
        resolveText (Context.withDepth ⟨host, options, .none, clock⟩ depth) value environment :=
    among.resolveText_guarded_eq running plain finished
  have straight : (resolveText (Context.withDepth ⟨host, options, .none, clock⟩ depth) value
      environment).isCycle = false := among.resolveText_unguarded_straight running plain
  have finishedHere := (congrArg TextOutcome.isCutOff atDepth).trans finished
  rw [← atDepth] at straight
  -- Both budgets suffice under the guards, so each gives what the larger one gives.
  have fromDepth := resolveText_withDepth_eq ⟨host, options, .all, clock⟩ value environment
    (Nat.le_max_left depth options.maxDepth) finishedHere
  have fromOptions := resolveText_withDepth_eq ⟨host, options, .all, clock⟩ value environment
    (Nat.le_max_right depth options.maxDepth) guardedFinished
  rw [fromDepth.symm.trans fromOptions] at straight
  exact straight

end

/-- Let nothing be called, and let no module re-export everything of another one. From some budget
on, resolution reports a circular reference or re-export exactly if without the guards no budget
suffices, and otherwise the outcome is the one without them. -/
theorem resolveText_isCycle_iff_diverges (memory : MemoryHost) (module : Module) (scope : ScopeId)
    (value : Expr) (formed : ∀ each ∈ module :: memory.modules, WellFormed each)
    (free : ∀ each ∈ module :: memory.modules, CallFree each)
    (unrelayed : ∀ each ∈ module :: memory.modules, wildcardSources each.body = [])
    (apart : ∀ found, memory.host.find? module.path = some found → found = module)
    (belongs : Belongs module.program (exprEvents value)) (valueFree : callFree value = true) :
    ∃ least, ∀ (options : Options) (clock : Clock),
      Context.Unhurried ⟨memory, options, .all, clock⟩ → least ≤ options.maxDepth →
        let guarded := resolveText ⟨memory, options, .all, clock⟩ value ⟨module, scope, none⟩
        let unguarded (depth : Nat) := resolveText
          (Context.withDepth ⟨memory, options, .none, clock⟩ depth) value ⟨module, scope, none⟩
        (guarded.isCycle = true ↔ ∀ depth, (unguarded depth).isCutOff = true) ∧
          (guarded.isCycle = false → ∀ depth, options.maxDepth ≤ depth →
            unguarded depth = guarded) := by
  have among := callFreeAmong_memory formed free unrelayed apart
  obtain ⟨least, finishes⟩ := resolveText_not_isCutOff_of_large_budget memory module value scope
  refine ⟨least, fun options clock unhurried enough => ?_⟩
  have running (guards : Guards) : Context.Unhurried ⟨memory, options, guards, clock⟩ := unhurried
  have guardedFinished := finishes options clock enough
  have plain : (Goal.expression value ⟨module, scope, none⟩).Plain
      fun each => each = module ∨ each ∈ memory.host :=
    .expression (.inl rfl) rfl valueFree belongs
  have same (straight : (resolveText ⟨memory, options, .all, clock⟩ value
      ⟨module, scope, none⟩).isCycle = false) :
      resolveText ⟨memory, options, .none, clock⟩ value ⟨module, scope, none⟩ =
        resolveText ⟨memory, options, .all, clock⟩ value ⟨module, scope, none⟩ := by
    apply resolveText_congr
    rcases solve_guarded_isCycle_or among running options.maxDepth plain .empty .empty [] [] with
      cycle | same
    · have reported := (resolveText_isCycle_iff ⟨memory, options, .all, clock⟩ _ _).mpr cycle
      rw [straight] at reported
      cases reported
    · exact same
  refine ⟨⟨?_, ?_⟩, ?_⟩
  · intro cycle depth
    by_contra finished
    rw [Bool.not_eq_true] at finished
    have straight := among.resolveText_straight running plain guardedFinished finished
    exact Bool.false_ne_true (straight.symm.trans cycle)
  · intro diverges
    by_contra straight
    rw [Bool.not_eq_true] at straight
    have cut := diverges options.maxDepth
    change (resolveText ⟨memory, options, .none, clock⟩ value
      ⟨module, scope, none⟩).isCutOff = true at cut
    rw [same straight, guardedFinished] at cut
    cases cut
  · intro straight depth depth_le
    have agrees := same straight
    have finished := guardedFinished
    rw [← agrees] at finished
    exact (resolveText_withDepth_eq ⟨memory, options, .none, clock⟩ value _ depth_le
      finished).trans agrees

/-- `query` is a template around what `/alias.ts` re-exports under another name, which is `query`.
-/
def loopingModule : Module :=
  .ofProgram "/query.ts" ⟨numbered 0, [.imports ⟨numbered 1, false, none,
    some (.some [⟨"again", ⟨numbered 2, "again"⟩⟩]), "/alias.ts"⟩,
    .variables ⟨numbered 3, true, .constant, [⟨.name ⟨numbered 4, "query"⟩,
      some (.template (numbered 5) [.chunk "*",
        .substitution (.identifier (numbered 6) "again")])⟩], []⟩], ⟨[]⟩⟩

def loopingHost : MemoryHost :=
  (MemoryHost.empty.insert "/alias.ts" ⟨numbered 0,
    [.exportList ⟨numbered 1, false, .some [⟨numbered 2, "query", "again"⟩], some "/query.ts"⟩],
    ⟨[]⟩⟩).insert loopingModule.path loopingModule.program

theorem looping_query_diverges :
    (∀ each ∈ loopingModule :: loopingHost.modules, WellFormed each) ∧
      (∀ each ∈ loopingModule :: loopingHost.modules, CallFree each) ∧
        Belongs loopingModule.program (exprEvents (.identifier (numbered 9) "query")) ∧
          ∀ depth, (resolveText (Context.withDepth ⟨loopingHost, .standard, .none, .stopped⟩ depth)
            (.identifier (numbered 9) "query")
            ⟨loopingModule, ScopeTree.root, none⟩).isCutOff = true := by
  have formed : ∀ each ∈ loopingModule :: loopingHost.modules, WellFormed each := by
    have unique : ∀ each ∈ loopingModule :: loopingHost.modules, UniqueNodes each.program := by
      decide +kernel
    refine fun each present => ⟨?_, unique each present⟩
    rcases List.mem_cons.mp present with rfl | inHost
    · rfl
    · rcases List.mem_cons.mp inHost with rfl | later
      · rfl
      · cases List.mem_singleton.mp later
        rfl
  have free : ∀ each ∈ loopingModule :: loopingHost.modules, CallFree each := by
    have initializers : ∀ each ∈ loopingModule :: loopingHost.modules,
        ∀ known ∈ declaredIn each, ∀ definition ∈ known.definitions,
          ∀ value ∈ definition.initializer?, callFree value = true := by decide +kernel
    have noDefault : ∀ each ∈ loopingModule :: loopingHost.modules,
        (defaultExport? each.body).isNone = true := by decide +kernel
    refine fun each present => ⟨initializers each present, fun value found => ?_⟩
    have absent := noDefault each present
    rw [found] at absent
    cases absent
  have unrelayed : ∀ each ∈ loopingModule :: loopingHost.modules,
      wildcardSources each.body = [] := by decide +kernel
  have apart : ∀ found, loopingHost.host.find? loopingModule.path = some found →
      found = loopingModule := fun found here => (Option.some.inj here).symm
  have foreign : Belongs loopingModule.program (exprEvents (.identifier (numbered 9) "query")) := by
    right
    decide +kernel
  refine ⟨formed, free, foreign, fun depth => ?_⟩
  obtain ⟨least, always⟩ := resolveText_isCycle_iff_diverges loopingHost loopingModule
    ScopeTree.root (.identifier (numbered 9) "query") formed free unrelayed apart foreign rfl
  have reported : (resolveText ((Context.still loopingHost).withDepth 9)
      (.identifier (numbered 9) "query") ⟨loopingModule, ScopeTree.root, none⟩).isCycle = true := by
    decide +kernel
  have finished : (resolveText ((Context.still loopingHost).withDepth 9)
      (.identifier (numbered 9) "query")
      ⟨loopingModule, ScopeTree.root, none⟩).isCutOff = false := by decide +kernel
  rw [← resolveText_withDepth_eq _ _ _ (Nat.le_max_right least 9) finished] at reported
  exact (always { Options.standard with maxDepth := max least 9 } .stopped (fun _ => rfl)
    (Nat.le_max_left least 9)).1.mp reported depth

end QueryTypes.Resolution
