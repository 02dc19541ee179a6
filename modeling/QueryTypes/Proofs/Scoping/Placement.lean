import QueryTypes.Proofs.Scoping.Bracketing

/-!
Where the parts of a program stand.

`Placed program scope events` says that the walk over the program comes to the events of a part
while it is in a scope. The parts of what is placed are placed too, in the same scope or in one
that starts there, so all that the scopes of the program say about a part can be read off.
-/

set_option autoImplicit false

namespace QueryTypes.Scoping

open QueryTypes.Script

def Passes (program : Program) (walk : Walk) (events : List Event) : Prop :=
  ∃ before after, programEvents program = before ++ events ++ after ∧ walk = Walk.start.run before

namespace Passes

variable {program : Program} {walk : Walk} {event : Event} {first second events : List Event}

theorem whole (program : Program) : Passes program .start (programEvents program) :=
  ⟨[], [], by rw [List.nil_append, List.append_nil], rfl⟩

theorem left (passes : Passes program walk (first ++ second)) : Passes program walk first := by
  obtain ⟨before, after, split, reached⟩ := passes
  exact ⟨before, second ++ after, by simp only [split, List.append_assoc], reached⟩

theorem right (passes : Passes program walk (first ++ second)) :
    Passes program (walk.run first) second := by
  obtain ⟨before, after, split, rfl⟩ := passes
  refine ⟨before ++ first, after, by simp only [split, List.append_assoc], ?_⟩
  rw [Walk.run_append]

theorem step (passes : Passes program walk (event :: events)) :
    Passes program (walk.step event) events := by
  have one : Passes program walk ([event] ++ events) := passes
  exact one.right

theorem valid (passes : Passes program walk events) : walk.Valid := by
  obtain ⟨before, _, _, rfl⟩ := passes
  exact Walk.run_valid Walk.start_valid before

theorem grown (passes : Passes program walk events) : walk.tree.Extends (bind program) := by
  obtain ⟨before, after, split, rfl⟩ := passes
  have whole : bind program = ((Walk.start.run before).run (events ++ after)).tree := by
    rw [← Walk.run_append, ← List.append_assoc, ← split]
    rfl
  rw [whole]
  exact Walk.run_extends _ _

end Passes

def Placed (program : Program) (scope : ScopeId) (events : List Event) : Prop :=
  ∃ walk, Passes program walk events ∧ walk.current = scope

namespace Placed

variable {program : Program} {scope : ScopeId} {first second events : List Event}

theorem left (placed : Placed program scope (first ++ second)) : Placed program scope first := by
  obtain ⟨walk, passes, current⟩ := placed
  exact ⟨walk, passes.left, current⟩

theorem right (placed : Placed program scope (first ++ second)) (bracketed : Bracketed first) :
    Placed program scope second := by
  obtain ⟨walk, passes, rfl⟩ := placed
  exact ⟨walk.run first, passes.right, bracketed.current passes.valid⟩

theorem node {mark : Mark} (placed : Placed program scope (.node mark :: events)) :
    Placed program scope events := by
  obtain ⟨walk, passes, current⟩ := placed
  exact ⟨walk, passes.step, current⟩

private theorem afterDeclares (placed : Placed program scope (first ++ second))
    (declares : ∀ event ∈ first, event.isDeclare = true) : Placed program scope second := by
  obtain ⟨walk, passes, rfl⟩ := placed
  exact ⟨walk.run first, passes.right, Walk.run_declares_current declares⟩

/-- A part that starts with a scope stands in that scope otherwise. -/
theorem enter {kind : ScopeKind} {creator : NodeId}
    (placed : Placed program scope (.enter kind creator :: events)) :
    ∃ inner, (creator, inner) ∈ (bind program).created ∧
      (bind program).parent? inner = some scope ∧
      (bind program).isClosure inner = kind.isClosure ∧ Placed program inner events := by
  obtain ⟨walk, passes, rfl⟩ := placed
  have grown := passes.step.grown
  have known := Walk.entered_lt passes.valid kind creator
  refine ⟨walk.tree.size, grown.created _ List.mem_cons_self, ?_, ?_, ⟨_, passes.step, rfl⟩⟩
  · exact (grown.parent? known).trans (Walk.parent?_enter walk kind creator)
  · exact (grown.isClosure known).trans (Walk.isClosure_enter walk kind creator)

/-- A block adds no function to those around it. -/
theorem enterBlock {kind : ScopeKind} {creator : NodeId} (block : kind.isClosure = false)
    (placed : Placed program scope (.enter kind creator :: events)) :
    ∃ inner, Placed program inner events ∧
      (bind program).functionsAround inner ⊆ (bind program).functionsAround scope := by
  obtain ⟨inner, _, above, closure, inside⟩ := placed.enter
  rw [block] at closure
  exact ⟨inner, inside,
    ScopeTree.functionsAround_of_block (bind_valid program) above closure⟩

theorem returns {id : NodeId} (placed : Placed program scope (.returns id :: events)) :
    (id, scope) ∈ (bind program).enclosing ∧ Placed program scope events := by
  obtain ⟨walk, passes, rfl⟩ := placed
  exact ⟨passes.step.grown.enclosing _ List.mem_cons_self, ⟨_, passes.step, rfl⟩⟩

theorem whole (program : Program) : Placed program ScopeTree.root (stmtsEvents program.body) := by
  have start : Placed program ScopeTree.root (programEvents program) :=
    ⟨.start, Passes.whole program, rfl⟩
  exact start.node

/-! ### Parts of expressions -/

theorem substitution {parts : List TemplatePart} {value : Expr}
    (placed : Placed program scope (partsEvents parts)) (present : .substitution value ∈ parts) :
    Placed program scope (exprEvents value) := by
  induction parts with
  | nil => cases present
  | cons first rest ih =>
      rw [partsEvents] at placed
      rcases List.mem_cons.mp present with same | later
      · subst same
        rw [partEvents] at placed
        exact placed.left
      · exact ih (placed.right (partEvents_bracketed first)) later

theorem template {mark : Mark} {parts : List TemplatePart}
    (placed : Placed program scope (exprEvents (.template mark parts))) :
    Placed program scope (partsEvents parts) := by
  rw [exprEvents] at placed
  exact placed.node

theorem tagged {mark : Mark} {tag : Expr} {parts : List TemplatePart}
    (placed : Placed program scope (exprEvents (.tagged mark tag parts))) :
    Placed program scope (partsEvents parts) := by
  rw [exprEvents] at placed
  exact placed.node.right (exprEvents_bracketed tag)

theorem callee {mark : Mark} {optional : Bool} {callee : Expr} {arguments : List Argument}
    (placed : Placed program scope (exprEvents (.call mark optional callee arguments))) :
    Placed program scope (exprEvents callee) := by
  rw [exprEvents] at placed
  exact placed.node.left

theorem argument {mark : Mark} {optional : Bool} {callee : Expr} {arguments : List Argument}
    (placed : Placed program scope (exprEvents (.call mark optional callee arguments)))
    {argument : Argument} (present : argument ∈ arguments) :
    Placed program scope (exprEvents argument.value) := by
  rw [exprEvents] at placed
  have given := placed.node.right (exprEvents_bracketed callee)
  clear placed
  induction arguments with
  | nil => cases present
  | cons first rest ih =>
      obtain ⟨firstMark, spread, value⟩ := first
      rw [argumentsEvents] at given
      rcases List.mem_cons.mp present with same | later
      · subst same
        exact given.node.left
      · exact ih later (given.node.right (exprEvents_bracketed value))

theorem arrow {mark : Mark} {function : Function}
    (placed : Placed program scope (exprEvents (.arrow mark function))) :
    Placed program scope (functionEvents function) := by
  rw [exprEvents] at placed
  exact placed.node

/-- A function expression with a name stands in a scope made for the name. -/
theorem functionExpression {mark : Mark} {name : Option Binding} {function : Function}
    (placed : Placed program scope (exprEvents (.function mark name function))) :
    ∃ inner, Placed program inner (functionEvents function) ∧
      (bind program).functionsAround inner ⊆ (bind program).functionsAround scope := by
  rw [exprEvents] at placed
  cases name with
  | none => exact ⟨scope, placed.node.left, List.Subset.refl _⟩
  | some binding =>
      obtain ⟨inner, inside, around⟩ := placed.node.enterBlock rfl
      have declared : Placed program inner
          ([.declare .current binding.name (.functionName binding function)] ++
            (.node binding.mark :: (functionEvents function ++ [.leave]))) := inside
      have named := declared.afterDeclares fun event present => by
        rw [List.mem_singleton.mp present]
        rfl
      exact ⟨inner, named.node.left, around⟩

/-! ### Parts of functions -/

theorem function {function : Function} (placed : Placed program scope (functionEvents function)) :
    ∃ own, (function.mark.id, own) ∈ (bind program).created ∧
      (bind program).parent? own = some scope ∧
      Placed program own (parametersEvents function.parameters) ∧
      Placed program own (bodyEvents function.body) := by
  rw [functionEvents_eq] at placed
  obtain ⟨own, made, above, _, inside⟩ := placed.node.enter
  have parts := inside.left
  rw [List.append_assoc] at parts
  have bound := parts.afterDeclares (parameterEvents_declare function)
  exact ⟨own, made, above, bound.left, bound.right (parametersEvents_bracketed _)⟩

theorem default {parameters : List Parameter}
    (placed : Placed program scope (parametersEvents parameters)) {parameter : Parameter}
    (present : parameter ∈ parameters) {value : Expr} (given : parameter.default = some value) :
    Placed program scope (exprEvents value) := by
  induction parameters with
  | nil => cases present
  | cons first rest ih =>
      rw [parametersEvents_cons] at placed
      have parts := placed.node
      rcases List.mem_cons.mp present with same | later
      · subst same
        rw [given, optionEvents] at parts
        exact parts.left.right (patternEvents_bracketed _)
      · exact ih (parts.right ((patternEvents_bracketed _).append (optionEvents_bracketed _))) later

theorem initializer {declarators : List Declarator}
    (placed : Placed program scope (declaratorsEvents declarators)) {declarator : Declarator}
    (present : declarator ∈ declarators) {value : Expr}
    (given : declarator.initializer = some value) : Placed program scope (exprEvents value) := by
  induction declarators with
  | nil => cases present
  | cons first rest ih =>
      obtain ⟨pattern, firstInitializer⟩ := first
      rw [declaratorsEvents] at placed
      rcases List.mem_cons.mp present with same | later
      · subst same
        dsimp only at given
        rw [given, optionEvents] at placed
        exact placed.left.right (patternEvents_bracketed _)
      · exact ih (placed.right ((patternEvents_bracketed _).append (optionEvents_bracketed _)))
          later

/-! ### Parts of statements -/

theorem statement {body : List Stmt} (placed : Placed program scope (stmtsEvents body))
    {statement : Stmt} (present : statement ∈ body) :
    Placed program scope (stmtEvents statement) := by
  induction body with
  | nil => cases present
  | cons first rest ih =>
      rw [stmtsEvents] at placed
      rcases List.mem_cons.mp present with same | later
      · subst same
        exact placed.left
      · exact ih (placed.right (stmtEvents_bracketed first)) later

theorem declaration {mark : Mark} {exported exportedAsDefault : Bool} {name : Option Binding}
    {function : Function}
    (placed : Placed program scope
      (stmtEvents (.function ⟨mark, exported, exportedAsDefault, name, function⟩))) :
    Placed program scope (functionEvents function) := by
  rw [stmtEvents] at placed
  have parts := placed.node
  rw [List.append_assoc] at parts
  apply (parts.afterDeclares _).right (bindingNode_bracketed name)
  intro event present
  cases name with
  | none => cases present
  | some binding =>
      rw [List.mem_singleton.mp present]
      rfl

end Placed

/-- A return statement's scope is noted, no function lies between it and a scope around it, and its
value stands there. -/
def ReturnsWithin (program : Program) (scope : ScopeId) (found : Return) : Prop :=
  ∃ inner, (found.mark.id, inner) ∈ (bind program).enclosing ∧
    (bind program).functionsAround inner ⊆ (bind program).functionsAround scope ∧
    ∀ value, found.value = some value → Placed program inner (exprEvents value)

theorem ReturnsWithin.outward {program : Program} {inner scope : ScopeId} {found : Return}
    (within : ReturnsWithin program inner found)
    (around : (bind program).functionsAround inner ⊆ (bind program).functionsAround scope) :
    ReturnsWithin program scope found := by
  obtain ⟨innermost, noted, nearer, value⟩ := within
  exact ⟨innermost, noted, List.Subset.trans nearer around, value⟩

section Returned

variable {program : Program}

mutual

private theorem foundReturns_within : ∀ (statement : Stmt) {scope : ScopeId} {found : Return},
    Placed program scope (stmtEvents statement) → found ∈ statement.foundReturns →
      ReturnsWithin program scope found
  | .returns ⟨mark, value⟩, scope, found, placed, present => by
      rw [Stmt.foundReturns, List.mem_singleton] at present
      subst present
      rw [stmtEvents] at placed
      obtain ⟨noted, inside⟩ := placed.node.returns
      refine ⟨scope, noted, List.Subset.refl _, ?_⟩
      intro returned given
      dsimp only at given
      rw [given, optionEvents] at inside
      exact inside
  | .conditional mark test consequent alternate, scope, found, placed, present => by
      rw [Stmt.foundReturns, List.mem_append] at present
      rw [stmtEvents] at placed
      have branches := placed.node
      rcases present with first | second
      · exact foundReturns_within consequent (branches.left.right (exprEvents_bracketed test)) first
      · exact alternateReturns_within alternate
          (branches.right ((exprEvents_bracketed test).append (stmtEvents_bracketed consequent)))
          second
  | .block ⟨mark, body⟩, scope, found, placed, present => by
      rw [Stmt.foundReturns] at present
      rw [stmtEvents, blockEvents] at placed
      obtain ⟨inner, inside, around⟩ := placed.node.enterBlock rfl
      exact (listReturns_within body inside.left present).outward around
  | .attempt mark ⟨wrappedMark, body⟩ handler cleanup, scope, found, placed, present => by
      rw [Stmt.foundReturns] at present
      rw [stmtEvents, blockEvents] at placed
      obtain ⟨inner, inside, around⟩ := placed.node.left.left.node.enterBlock rfl
      exact (listReturns_within body inside.left present).outward around
  | .empty _, _, _, _, present => by rw [Stmt.foundReturns] at present; cases present
  | .exportDefault _ _, _, _, _, present => by rw [Stmt.foundReturns] at present; cases present
  | .exportList _, _, _, _, present => by rw [Stmt.foundReturns] at present; cases present
  | .expression _ _, _, _, _, present => by rw [Stmt.foundReturns] at present; cases present
  | .function _, _, _, _, present => by rw [Stmt.foundReturns] at present; cases present
  | .imports _, _, _, _, present => by rw [Stmt.foundReturns] at present; cases present
  | .switch _ _ _, _, _, _, present => by rw [Stmt.foundReturns] at present; cases present
  | .variables _, _, _, _, present => by rw [Stmt.foundReturns] at present; cases present
  | .loop _ _ _, _, _, _, present => by rw [Stmt.foundReturns] at present; cases present

private theorem alternateReturns_within :
    ∀ (alternate : Option Stmt) {scope : ScopeId} {found : Return},
    Placed program scope (alternateEvents alternate) → found ∈ Stmt.alternateReturns alternate →
      ReturnsWithin program scope found
  | none, _, _, _, present => by rw [Stmt.alternateReturns] at present; cases present
  | some statement, scope, found, placed, present => by
      rw [Stmt.alternateReturns] at present
      rw [alternateEvents] at placed
      exact foundReturns_within statement placed present

theorem listReturns_within : ∀ (body : List Stmt) {scope : ScopeId} {found : Return},
    Placed program scope (stmtsEvents body) → found ∈ Stmt.listReturns body →
      ReturnsWithin program scope found
  | [], _, _, _, present => by rw [Stmt.listReturns] at present; cases present
  | first :: rest, scope, found, placed, present => by
      rw [Stmt.listReturns, List.mem_append] at present
      rw [stmtsEvents] at placed
      rcases present with here | later
      · exact foundReturns_within first placed.left here
      · exact listReturns_within rest (placed.right (stmtEvents_bracketed first)) later

end

end Returned

end QueryTypes.Scoping
