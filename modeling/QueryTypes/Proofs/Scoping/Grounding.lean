import QueryTypes.Proofs.Scoping.Placement

/-!
Where what a variable stands for is found in the program.

A function is declared in the scope that its definition stands in. A hoisted variable may be
declared further out than its declaration stands, but no function lies between the two. A
parameter is declared in the scope of its function.
-/

set_option autoImplicit false

namespace QueryTypes.Scoping

open QueryTypes.Script

/-- A definition in a scope of a program stands for a part of the program that is placed. -/
def Grounded (program : Program) (scope : ScopeId) : Definition → Prop
  | .declarator declaration _ =>
      ∃ inner, (declaration.mark.id, inner) ∈ (bind program).enclosing ∧
        (bind program).functionsAround inner ⊆ (bind program).functionsAround scope ∧
        Placed program inner (declaratorsEvents declaration.declarators)
  | .functionName _ function => Placed program scope (functionEvents function)
  | .parameter _ _ => (bind program).isClosure scope = true
  | .importBinding _ _ _ _ | .catchParameter _ => True

private theorem grounded_of_isDetached {program : Program} {scope : ScopeId}
    {definition : Definition} (detached : definition.isDetached = true) :
    Grounded program scope definition := by
  cases definition with
  | importBinding _ _ _ _ => trivial
  | catchParameter _ => trivial
  | declarator _ _ => cases detached
  | functionName _ _ => cases detached
  | parameter _ _ => cases detached

def GroundedIn (program : Program) (tree : ScopeTree) : Prop :=
  ∀ id scope, tree.scope? id = some scope →
    ∀ known ∈ scope.variables, ∀ definition ∈ known.definitions, Grounded program id definition

private theorem Scope.mem_definitions_declare {scope : Scope} {name : String}
    {added definition : Definition} {known : Variable}
    (present : known ∈ (scope.declare name added).variables)
    (defines : definition ∈ known.definitions) :
    definition = added ∨ ∃ old ∈ scope.variables, definition ∈ old.definitions := by
  unfold Scope.declare at present
  split at present
  · obtain ⟨old, inScope, rfl⟩ := List.mem_map.mp present
    split at defines
    · rcases List.mem_append.mp defines with earlier | new
      · exact .inr ⟨old, inScope, earlier⟩
      · exact .inl (List.mem_singleton.mp new)
    · exact .inr ⟨old, inScope, defines⟩
  · rcases List.mem_append.mp present with earlier | new
    · exact .inr ⟨known, earlier, defines⟩
    · rw [List.mem_singleton.mp new] at defines
      exact .inl (List.mem_singleton.mp defines)

section Keeping

variable {program : Program} {tree : ScopeTree}

theorem GroundedIn.modifyScope (grounded : GroundedIn program tree) (id : ScopeId)
    {change : Scope → Scope}
    (kept : ∀ scope : Scope, ∀ known ∈ (change scope).variables,
      ∀ definition ∈ known.definitions, Grounded program id definition ∨
        ∃ old ∈ scope.variables, definition ∈ old.definitions) :
    GroundedIn program (tree.modifyScope id change) := by
  intro other scope found known present definition defines
  rw [ScopeTree.scope?_modifyScope] at found
  by_cases same : id = other
  · subst same
    rw [if_pos rfl] at found
    obtain ⟨old, here, rfl⟩ := Option.map_eq_some_iff.mp found
    rcases kept old known present definition defines with new | ⟨earlier, inOld, defined⟩
    · exact new
    · exact grounded id old here earlier inOld definition defined
  · rw [if_neg same] at found
    exact grounded other scope found known present definition defines

theorem GroundedIn.declare {walk : Walk} (grounded : GroundedIn program walk.tree)
    {target : Target} (name : String) {definition : Definition}
    (new : Grounded program (walk.resolve target) definition) :
    GroundedIn program (walk.step (.declare target name definition)).tree := by
  apply grounded.modifyScope
  intro scope known present other defines
  rcases Scope.mem_definitions_declare present defines with same | earlier
  · subst same
    exact .inl new
  · exact .inr earlier

theorem GroundedIn.enter {walk : Walk} (grounded : GroundedIn program walk.tree)
    (kind : ScopeKind) (creator : NodeId) :
    GroundedIn program (walk.enter kind creator).tree := by
  intro id scope found
  rw [Walk.scope?_enter] at found
  by_cases same : id = walk.tree.size
  · rw [if_pos same] at found
    cases found
    intro known present
    cases present
  · rw [if_neg same] at found
    have before : GroundedIn program
        (walk.tree.modifyScope walk.current (.addChild walk.tree.size)) :=
      grounded.modifyScope _ fun _ known present _ defines => .inr ⟨known, present, defines⟩
    exact before id scope found

theorem GroundedIn.refer {walk : Walk} (grounded : GroundedIn program walk.tree) (id : NodeId)
    (name : String) : GroundedIn program (walk.step (.refer id name)).tree := by
  have located : GroundedIn program (walk.locate id).tree := grounded
  exact located.modifyScope walk.current
    fun _ known present _ defines => .inr ⟨known, present, defines⟩

/-- Declarations in a row, each grounded wherever the walk is then. -/
theorem GroundedIn.declares {walk : Walk} {events rest : List Event}
    (grounded : GroundedIn program walk.tree) (passes : Passes program walk (events ++ rest))
    (each : ∀ event ∈ events, ∃ target name definition,
      event = .declare target name definition ∧
        ∀ later : Walk, later.Valid → later.tree.Extends (bind program) →
          later.current = walk.current → Grounded program (later.resolve target) definition) :
    GroundedIn program (walk.run events).tree := by
  induction events generalizing walk with
  | nil => exact grounded
  | cons event others ih =>
      obtain ⟨target, name, definition, rfl, new⟩ := each event List.mem_cons_self
      have declared := grounded.declare name (new walk passes.valid passes.grown rfl)
      exact ih declared passes.step fun other present => each other (List.mem_cons_of_mem _ present)

/-- A variable is declared where its declaration stands or in the function around that. -/
theorem grounded_declarator {walk : Walk} (valid : walk.Valid)
    (grown : walk.tree.Extends (bind program)) {declaration : VariableDeclaration}
    (noted : (declaration.mark.id, walk.current) ∈ (bind program).enclosing)
    (placed : Placed program walk.current (declaratorsEvents declaration.declarators))
    (index : Nat) :
    Grounded program (walk.resolve (targetOf declaration.mode))
      (.declarator declaration index) := by
  refine ⟨walk.current, noted, ?_, placed⟩
  have hoisted : (bind program).functionsAround walk.current ⊆
      (bind program).functionsAround (walk.tree.closureOf walk.current) := by
    have treeValid := valid.tree
    have known : walk.tree.closureOf walk.current < walk.tree.size := by
      have outward := ScopeTree.closureOf_le treeValid walk.current
      exact Nat.lt_of_le_of_lt outward valid.current
    rw [grown.functionsAround treeValid (bind_valid program) valid.current,
      grown.functionsAround treeValid (bind_valid program) known]
    exact ScopeTree.functionsAround_closureOf treeValid walk.current
  cases declaration.mode with
  | hoisted => exact hoisted
  | constant => exact List.Subset.refl _
  | lexical => exact List.Subset.refl _

end Keeping

theorem Bracketed.grounded {program : Program} {events : List Event} (bracketed : Bracketed events)
    {walk : Walk} (passes : Passes program walk events) (before : GroundedIn program walk.tree) :
    GroundedIn program (walk.run events).tree := by
  -- By induction on the shape of the events, not on the list of them: what is declared in a scope
  -- is grounded there only as long as the walk is in that scope.
  induction bracketed generalizing walk with
  | nil => exact before
  | node _ ih => exact ih passes.step before
  | @refer mark name rest _ ih => exact ih passes.step.step (before.refer mark.id name)
  | returns _ ih => exact ih passes.step.step before
  | @detached target name definition rest detached _ ih =>
      exact ih passes.step (before.declare name (grounded_of_isDetached detached))
  | @scope kind mark inner rest _ _ insideIh ih =>
      have entered : Passes program (walk.enter kind mark.id) (inner ++ .leave :: rest) :=
        passes.step.step
      have inside := insideIh entered.left (before.enter kind mark.id)
      change GroundedIn program ((walk.enter kind mark.id).run (inner ++ .leave :: rest)).tree
      rw [Walk.run_append]
      exact ih entered.right.step inside
  | @function function inner rest _ _ insideIh ih =>
      have entered : Passes program (walk.enter (functionKind function) function.mark.id)
          (parameterEvents function ++ (inner ++ .leave :: rest)) := passes.step.step
      have closure : (bind program).isClosure walk.tree.size = true := by
        rw [entered.grown.isClosure (Walk.entered_lt passes.valid _ _), Walk.isClosure_enter]
        unfold functionKind
        split
        · rfl
        · rfl
      have bound : GroundedIn program
          ((walk.enter (functionKind function) function.mark.id).run
            (parameterEvents function)).tree := by
        apply (before.enter (functionKind function) function.mark.id).declares entered
        intro event present
        obtain ⟨name, index, rfl⟩ := mem_parameterEvents present
        refine ⟨_, _, _, rfl, ?_⟩
        intro later _ _ current
        change (bind program).isClosure later.current = true
        rw [current]
        exact closure
      have inside := insideIh entered.right.left bound
      change GroundedIn program ((walk.enter (functionKind function) function.mark.id).run
        (parameterEvents function ++ (inner ++ .leave :: rest))).tree
      rw [Walk.run_append, Walk.run_append]
      exact ih entered.right.right.step inside
  | @named binding function rest _ ih =>
      have placed : Placed program walk.current (functionEvents function) :=
        ⟨_, passes.step.step.left, rfl⟩
      exact ih passes.step.step (before.declare binding.name placed)
  | @«variables» declaration rest _ ih =>
      have located : Passes program (walk.step (.variables declaration))
          (declaredNames declaration ++
            (declaratorsEvents declaration.declarators ++ rest)) := passes.step.step
      have noted : (declaration.mark.id, walk.current) ∈ (bind program).enclosing :=
        located.grown.enclosing _ List.mem_cons_self
      have placed : Placed program walk.current (declaratorsEvents declaration.declarators) :=
        ⟨_, located.right.left, Walk.run_declares_current (declaredNames_declare declaration)⟩
      have declared : GroundedIn program
          ((walk.step (.variables declaration)).run (declaredNames declaration)).tree := by
        have start : GroundedIn program (walk.step (.variables declaration)).tree := before
        apply start.declares located
        intro event present
        obtain ⟨name, index, rfl⟩ := mem_declaredNames present
        refine ⟨_, _, _, rfl, ?_⟩
        intro later valid grown current
        have here : later.current = walk.current := current
        apply grounded_declarator valid grown
        · rw [here]
          exact noted
        · rw [here]
          exact placed
      change GroundedIn program ((walk.step (.variables declaration)).run
        (declaredNames declaration ++ (declaratorsEvents declaration.declarators ++ rest))).tree
      rw [Walk.run_append]
      exact ih located.right declared

private theorem bind_grounded (program : Program) : GroundedIn program (bind program) := by
  apply (programEvents_bracketed program).grounded (Passes.whole program)
  intro id scope found known present
  have only := ScopeTree.lt_of_scope? found
  have zero : id = 0 := Nat.lt_one_iff.mp only
  subst zero
  cases found
  cases present

theorem declared?_grounded {program : Program} {id : ScopeId} {name : String} {known : Variable}
    (found : (bind program).declared? id name = some known) :
    known.scope = id ∧ ∀ definition ∈ known.definitions, Grounded program id definition := by
  obtain ⟨scope, here, declared⟩ := Option.bind_eq_some_iff.mp found
  have present := List.mem_of_find?_eq_some declared
  exact ⟨(bind_valid program).holders id scope here known present,
    bind_grounded program id scope here known present⟩

/-- The variable that a name means is declared in a scope around its use. -/
theorem lookup_grounded {program : Program} {id : ScopeId} {name : String} {known : Variable}
    (found : (bind program).lookup id name = some known) :
    known.scope ∈ (bind program).ancestors id ∧
      ∀ definition ∈ known.definitions, Grounded program known.scope definition := by
  obtain ⟨outer, around, declared⟩ := List.exists_of_findSome?_eq_some found
  obtain ⟨rfl, grounded⟩ := declared?_grounded declared
  exact ⟨around, grounded⟩

end QueryTypes.Scoping
