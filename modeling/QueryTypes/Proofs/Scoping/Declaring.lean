import QueryTypes.Proofs.Scoping.Placement

/-!
What becomes of the declarations that a walk over a program comes to.

A variable declaration stands in the scope that is noted for it. A definition is kept by the
variable that it was added to, whatever the walk comes to afterwards.
-/

set_option autoImplicit false

namespace QueryTypes.Scoping

open QueryTypes.Script

private theorem not_mem_of_declares {events : List Event}
    (declares : ∀ event ∈ events, event.isDeclare = true) {declaration : VariableDeclaration} :
    .variables declaration ∉ events :=
  fun present => Bool.false_ne_true (declares _ present)

/-- Where a declaration is met, its names are declared next and then its declarators are walked
over. -/
theorem Bracketed.declaration_inside {events : List Event} (bracketed : Bracketed events)
    {declaration : VariableDeclaration} (met : .variables declaration ∈ events) :
    variableEvents declaration ++ declaratorsEvents declaration.declarators <:+: events := by
  induction bracketed with
  | nil => cases met
  | node _ ih =>
      simp only [List.mem_cons, reduceCtorEq, false_or] at met
      exact List.infix_cons (ih met)
  | refer _ ih =>
      simp only [List.mem_cons, reduceCtorEq, false_or] at met
      exact List.infix_cons (List.infix_cons (ih met))
  | returns _ ih =>
      simp only [List.mem_cons, reduceCtorEq, false_or] at met
      exact List.infix_cons (List.infix_cons (ih met))
  | detached _ _ ih =>
      simp only [List.mem_cons, reduceCtorEq, false_or] at met
      exact List.infix_cons (ih met)
  | scope _ _ insideIh ih =>
      simp only [List.mem_cons, List.mem_append, reduceCtorEq, false_or] at met
      apply List.infix_cons
      apply List.infix_cons
      rcases met with inside | later
      · exact List.infix_append_of_infix_left (insideIh inside)
      · exact List.infix_append_of_infix_right (List.infix_cons (ih later))
  | function function _ _ insideIh ih =>
      simp only [List.mem_cons, List.mem_append, reduceCtorEq, false_or,
        not_mem_of_declares (parameterEvents_declare function)] at met
      apply List.infix_cons
      apply List.infix_cons
      apply List.infix_append_of_infix_right
      rcases met with inside | later
      · exact List.infix_append_of_infix_left (insideIh inside)
      · exact List.infix_append_of_infix_right (List.infix_cons (ih later))
  | named _ _ ih =>
      simp only [List.mem_cons, reduceCtorEq, false_or] at met
      exact List.infix_cons (List.infix_cons (ih met))
  | @«variables» other rest _ ih =>
      apply List.infix_cons
      rcases List.mem_cons.mp met with same | later
      · cases same
      · rcases List.mem_append.mp later with names | others
        · rcases List.mem_cons.mp names with same | declares
          · cases same
            rw [← List.append_assoc]
            exact List.infix_append_left
          · exact absurd declares (not_mem_of_declares (declaredNames_declare other))
        · exact List.infix_append_of_infix_right (ih others)

/-- A variable declaration stands in the scope that is noted for it, and so do its declarators. -/
theorem placed_of_declaration {program : Program} {declaration : VariableDeclaration}
    (met : .variables declaration ∈ programEvents program) :
    ∃ scope, (declaration.mark.id, scope) ∈ (bind program).enclosing ∧
      Placed program scope (declaratorsEvents declaration.declarators) := by
  obtain ⟨before, after, split⟩ := (programEvents_bracketed program).declaration_inside met
  have passes : Passes program (Walk.start.run before)
      (.variables declaration :: (declaredNames declaration ++
        declaratorsEvents declaration.declarators)) := ⟨before, after, split.symm, rfl⟩
  refine ⟨(Walk.start.run before).current, ?_, _, passes.step.right, ?_⟩
  · exact passes.step.grown.enclosing _ List.mem_cons_self
  · exact Walk.run_declares_current (declaredNames_declare declaration)

/-! ### Definitions are kept -/

def Scope.Defines (scope : Scope) (name : String) (definition : Definition) : Prop :=
  ∃ known, scope.declared? name = some known ∧ definition ∈ known.definitions

theorem Scope.declared?_name {scope : Scope} {name : String} {known : Variable}
    (found : scope.declared? name = some known) : known.name = name := by
  have same := List.find?_some found
  exact eq_of_beq same

/-- What a variable is after one definition more. -/
theorem Scope.declared?_declare (scope : Scope) (added name : String) (definition : Definition) :
    (scope.declare added definition).declared? name =
      if name = added then
        match scope.declared? added with
        | some known => some { known with definitions := known.definitions ++ [definition] }
        | none => some ⟨added, scope.id, [definition]⟩
      else scope.declared? name := by
  cases before : scope.declared? added with
  | some known =>
      have changed : (scope.declare added definition).declared? name =
          (scope.declared? name).map fun declared =>
            if declared.name == added then
              { declared with definitions := declared.definitions ++ [definition] }
            else declared := by
        unfold declare
        rw [before, Option.isSome_some, if_pos rfl]
        unfold declared?
        rw [List.find?_map]
        congr 2
        funext declared
        dsimp only [Function.comp]
        split <;> rfl
      rw [changed]
      by_cases same : name = added
      · subst same
        obtain rfl := declared?_name before
        rw [before, Option.map_some, if_pos rfl, beq_self_eq_true, if_pos rfl]
      · rw [if_neg same]
        cases here : scope.declared? name with
        | none => rfl
        | some declared =>
            have named := declared?_name here
            rw [Option.map_some, named, beq_false_of_ne same, if_neg Bool.false_ne_true]
  | none =>
      unfold declare
      rw [before, Option.isSome_none, if_neg Bool.false_ne_true]
      unfold declared? at before ⊢
      rw [List.find?_append]
      by_cases same : name = added
      · subst same
        rw [before, if_pos rfl]
        simp
      · have other : (added == name) = false := beq_false_of_ne (Ne.symm same)
        rw [if_neg same, List.find?_singleton, other, if_neg Bool.false_ne_true, Option.or_none]

/-- A definition that is added is there. -/
theorem Scope.defines_declare (scope : Scope) (name : String) (definition : Definition) :
    (scope.declare name definition).Defines name definition := by
  unfold Defines
  rw [declared?_declare, if_pos rfl]
  cases scope.declared? name with
  | some known => exact ⟨_, rfl, List.mem_append_right _ List.mem_cons_self⟩
  | none => exact ⟨_, rfl, List.mem_cons_self⟩

theorem Scope.Defines.declare {scope : Scope} {name : String} {definition : Definition}
    (defines : scope.Defines name definition) (added : String) (other : Definition) :
    (scope.declare added other).Defines name definition := by
  obtain ⟨known, found, present⟩ := defines
  unfold Defines
  rw [declared?_declare]
  by_cases same : name = added
  · subst same
    rw [if_pos rfl, found]
    exact ⟨_, rfl, List.mem_append_left _ present⟩
  · rw [if_neg same]
    exact ⟨known, found, present⟩

def ScopeTree.Defines (tree : ScopeTree) (id : ScopeId) (name : String)
    (definition : Definition) : Prop :=
  ∃ scope, tree.scope? id = some scope ∧ scope.Defines name definition

section Kept

variable {id : ScopeId} {name : String} {definition : Definition}

theorem ScopeTree.Defines.declared? {tree : ScopeTree} (defines : tree.Defines id name definition) :
    ∃ known, tree.declared? id name = some known ∧ definition ∈ known.definitions := by
  obtain ⟨scope, here, known, found, present⟩ := defines
  exact ⟨known, Option.bind_eq_some_iff.mpr ⟨scope, here, found⟩, present⟩

theorem ScopeTree.Defines.modifyScope {tree : ScopeTree} (defines : tree.Defines id name definition)
    (other : ScopeId) {change : Scope → Scope}
    (keeps : ∀ scope : Scope, scope.Defines name definition →
      (change scope).Defines name definition) :
    (tree.modifyScope other change).Defines id name definition := by
  obtain ⟨scope, here, inScope⟩ := defines
  unfold Defines
  rw [scope?_modifyScope]
  split
  · exact ⟨change scope, by rw [here]; rfl, keeps scope inScope⟩
  · exact ⟨scope, here, inScope⟩

private theorem Walk.step_defines {walk : Walk} (defines : walk.tree.Defines id name definition)
    (event : Event) : (walk.step event).tree.Defines id name definition := by
  cases event with
  | node mark => exact defines
  | enter kind creator =>
      have changed : (walk.tree.modifyScope walk.current (.addChild walk.tree.size)).Defines id
          name definition := defines.modifyScope walk.current fun _ inScope => inScope
      obtain ⟨scope, here, inScope⟩ := changed
      refine ⟨scope, ?_, inScope⟩
      have known := ScopeTree.lt_of_scope? here
      rw [ScopeTree.size_modifyScope] at known
      change (walk.enter kind creator).tree.scope? id = some scope
      rw [Walk.scope?_enter, if_neg (Nat.ne_of_lt known)]
      exact here
  | leave => exact defines
  | declare target added other =>
      exact defines.modifyScope _ fun _ inScope => inScope.declare added other
  | refer node used =>
      have located : (walk.locate node).tree.Defines id name definition := defines
      exact located.modifyScope walk.current fun _ inScope => inScope
  | returns node => exact defines
  | «variables» declaration => exact defines

private theorem Walk.run_defines {walk : Walk} (defines : walk.tree.Defines id name definition)
    (events : List Event) : (walk.run events).tree.Defines id name definition := by
  induction events generalizing walk with
  | nil => exact defines
  | cons event rest ih => exact ih (step_defines defines event)

/-- What the walk over a program declares in its own scope is there in the end. -/
theorem Placed.defines {program : Program} {events : List Event}
    (placed : Placed program id (.declare .current name definition :: events)) :
    (bind program).Defines id name definition := by
  obtain ⟨walk, passes, rfl⟩ := placed
  obtain ⟨scope, here⟩ := ScopeTree.scope?_of_lt passes.valid.current
  have declared : (walk.step (.declare .current name definition)).tree.Defines walk.current name
      definition := by
    refine ⟨scope.declare name definition, ?_, scope.defines_declare name definition⟩
    change (walk.tree.modifyScope walk.current _).scope? walk.current = _
    rw [ScopeTree.scope?_modifyScope, if_pos rfl, here]
    rfl
  obtain ⟨before, after, split, reached⟩ := passes.step
  have whole : bind program =
      ((walk.step (.declare .current name definition)).run (events ++ after)).tree := by
    rw [reached, ← Walk.run_append, ← List.append_assoc, ← split]
    rfl
  rw [whole]
  exact Walk.run_defines declared _

/-- A function declaration of the top level is one of the definitions of its name. -/
theorem functionName_defined {program : Program} {mark : Mark} {exported asDefault : Bool}
    {binding : Binding} {function : Function}
    (present : .function ⟨mark, exported, asDefault, some binding, function⟩ ∈ program.body) :
    ∃ known, (bind program).declared? ScopeTree.root binding.name = some known ∧
      .functionName binding function ∈ known.definitions := by
  have placed := (Placed.whole program).statement present
  rw [stmtEvents] at placed
  exact placed.node.defines.declared?

end Kept

end QueryTypes.Scoping
