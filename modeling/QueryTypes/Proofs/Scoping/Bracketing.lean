import QueryTypes.Proofs.Scoping.Growth
import QueryTypes.Proofs.Scoping.Nodes
import QueryTypes.Proofs.Tables

/-!
The shape of the events of a program.

Every scope that starts ends again, whatever claims a node comes right after that node, and a
definition is declared right before what it stands for is walked over. `Bracketed` says this of a
list of events, so what holds of all walks is shown by induction on it and not on the syntax.
-/

set_option autoImplicit false

namespace QueryTypes.Scoping

open QueryTypes.Script

/-- Whether what a definition stands for is not in the program, or is not walked over. -/
def Definition.isDetached : Definition → Bool
  | .importBinding _ _ _ _ | .catchParameter _ => true
  | .declarator _ _ | .functionName _ _ | .parameter _ _ => false

inductive Bracketed : List Event → Prop
  | nil : Bracketed []
  | node {mark : Mark} {rest : List Event} : Bracketed rest → Bracketed (.node mark :: rest)
  | refer {mark : Mark} {name : String} {rest : List Event} :
      Bracketed rest → Bracketed (.node mark :: .refer mark.id name :: rest)
  | returns {mark : Mark} {rest : List Event} :
      Bracketed rest → Bracketed (.node mark :: .returns mark.id :: rest)
  | detached {target : Target} {name : String} {definition : Definition} {rest : List Event} :
      definition.isDetached = true → Bracketed rest →
        Bracketed (.declare target name definition :: rest)
  | scope {kind : ScopeKind} {mark : Mark} {inner rest : List Event} :
      Bracketed inner → Bracketed rest →
        Bracketed (.node mark :: .enter kind mark.id :: (inner ++ .leave :: rest))
  | function (function : Function) {inner rest : List Event} :
      Bracketed inner → Bracketed rest →
        Bracketed (.node function.mark :: .enter (functionKind function) function.mark.id ::
          (parameterEvents function ++ (inner ++ .leave :: rest)))
  | named (binding : Binding) {function : Function} {rest : List Event} :
      Bracketed (functionEvents function ++ rest) →
        Bracketed (.declare .current binding.name (.functionName binding function) ::
          .node binding.mark :: (functionEvents function ++ rest))
  | «variables» (declaration : VariableDeclaration) {rest : List Event} :
      Bracketed (declaratorsEvents declaration.declarators ++ rest) →
        Bracketed (.node declaration.mark :: (variableEvents declaration ++
          (declaratorsEvents declaration.declarators ++ rest)))

namespace Bracketed

theorem append {first second : List Event} (left : Bracketed first) (right : Bracketed second) :
    Bracketed (first ++ second) := by
  induction left with
  | nil => exact right
  | node _ ih => exact .node ih
  | refer _ ih => exact .refer ih
  | returns _ ih => exact .returns ih
  | detached free _ ih => exact .detached free ih
  | scope inside _ _ ih =>
      simp only [List.cons_append, List.append_assoc]
      exact .scope inside ih
  | function function inside _ _ ih =>
      simp only [List.cons_append, List.append_assoc]
      exact .function function inside ih
  | named binding _ ih =>
      simp only [List.cons_append, List.append_assoc] at ih ⊢
      exact .named binding ih
  | «variables» declaration _ ih =>
      simp only [List.cons_append, List.append_assoc] at ih ⊢
      exact .variables declaration ih

private theorem scope_last {kind : ScopeKind} {mark : Mark} {inner : List Event}
    (inside : Bracketed inner) :
    Bracketed (.node mark :: .enter kind mark.id :: (inner ++ [.leave])) := .scope inside .nil

end Bracketed

theorem bindingNode_bracketed (name : Option Binding) : Bracketed (bindingNode name) := by
  cases name with
  | none => exact .nil
  | some binding => exact .node .nil

private theorem catchEvents_bracketed (parameter : Option Pattern) :
    Bracketed (catchEvents parameter) := by
  cases parameter with
  | none => exact .nil
  | some pattern =>
      unfold catchEvents
      dsimp only
      induction pattern.bindings with
      | nil => exact .nil
      | cons first rest ih => exact .detached rfl ih

private theorem importEvents_bracketed (declaration : ImportDeclaration) :
    Bracketed (importEvents declaration) := by
  unfold importEvents
  apply Bracketed.append
  · split
    · exact .nil
    · exact .detached rfl .nil
  · split
    · exact .nil
    · exact .detached rfl .nil
    · rename_i names given
      clear given
      induction names with
      | nil => exact .nil
      | cons first rest ih => exact .detached rfl ih

private theorem importNodes_bracketed (declaration : ImportDeclaration) :
    Bracketed (importNodes declaration) := by
  unfold importNodes
  apply Bracketed.append
  · cases declaration.default with
    | none => exact .nil
    | some localName => exact .node .nil
  · split
    · exact .nil
    · exact .node .nil
    · rename_i names given
      clear given
      induction names with
      | nil => exact .nil
      | cons first rest ih => exact .node ih

private theorem exportNodes_bracketed (exports : ExportList) : Bracketed (exportNodes exports) := by
  unfold exportNodes
  split
  · rename_i exported _
    cases exported with
    | none => exact .nil
    | some binding => exact .node .nil
  · rename_i names given
    clear given
    induction names with
    | nil => exact .nil
    | cons first rest ih => exact .node ih

private theorem functionNameEvents_bracketed (name : Option Binding) {function : Function}
    (inside : Bracketed (functionEvents function)) :
    Bracketed (functionNameEvents name function ++ bindingNode name ++
      functionEvents function) := by
  cases name with
  | none => exact inside
  | some binding =>
      have whole : Bracketed (functionEvents function ++ []) := by
        rw [List.append_nil]
        exact inside
      have declared := Bracketed.named binding whole
      rw [List.append_nil] at declared
      exact declared

mutual

theorem exprEvents_bracketed : ∀ value : Expr, Bracketed (exprEvents value)
  | .arrow mark function => by
      rw [exprEvents]
      exact .node (functionEvents_bracketed function)
  | .binary mark operator left right => by
      rw [exprEvents]
      exact .node ((exprEvents_bracketed left).append (exprEvents_bracketed right))
  | .call mark optional callee arguments => by
      rw [exprEvents]
      exact .node ((exprEvents_bracketed callee).append (argumentsEvents_bracketed arguments))
  | .function mark none function => by
      rw [exprEvents]
      apply Bracketed.node
      change Bracketed (functionEvents function ++ [])
      exact (functionEvents_bracketed function).append .nil
  | .function mark (some binding) function => by
      rw [exprEvents]
      exact .scope_last
        (functionNameEvents_bracketed (some binding) (functionEvents_bracketed function))
  | .identifier mark name => by
      rw [exprEvents]
      exact .refer .nil
  | .member mark optional object property => by
      rw [exprEvents]
      exact .node (exprEvents_bracketed object)
  | .tagged mark tag parts => by
      rw [exprEvents]
      exact .node ((exprEvents_bracketed tag).append (partsEvents_bracketed parts))
  | .array mark elements => by
      rw [exprEvents]
      exact .node (exprsEvents_bracketed elements)
  | .bigInteger mark digits => by
      rw [exprEvents]
      exact .node .nil
  | .boolean mark truth => by
      rw [exprEvents]
      exact .node .nil
  | .null mark => by
      rw [exprEvents]
      exact .node .nil
  | .number mark number => by
      rw [exprEvents]
      exact .node .nil
  | .object mark members => by
      rw [exprEvents]
      exact .node (membersEvents_bracketed members)
  | .regex mark pattern => by
      rw [exprEvents]
      exact .node .nil
  | .string mark text => by
      rw [exprEvents]
      exact .node .nil
  | .template mark parts => by
      rw [exprEvents]
      exact .node (partsEvents_bracketed parts)

private theorem exprsEvents_bracketed : ∀ values : List Expr, Bracketed (exprsEvents values)
  | [] => by
      rw [exprsEvents]
      exact .nil
  | first :: rest => by
      rw [exprsEvents]
      exact (exprEvents_bracketed first).append (exprsEvents_bracketed rest)

theorem optionEvents_bracketed : ∀ value : Option Expr, Bracketed (optionEvents value)
  | none => by
      rw [optionEvents]
      exact .nil
  | some value => by
      rw [optionEvents]
      exact exprEvents_bracketed value

private theorem membersEvents_bracketed : ∀ members : List (String × Expr),
    Bracketed (membersEvents members)
  | [] => by
      rw [membersEvents]
      exact .nil
  | (_, value) :: rest => by
      rw [membersEvents]
      exact (exprEvents_bracketed value).append (membersEvents_bracketed rest)

theorem partEvents_bracketed : ∀ part : TemplatePart, Bracketed (partEvents part)
  | .chunk text => by
      rw [partEvents]
      exact .nil
  | .substitution value => by
      rw [partEvents]
      exact exprEvents_bracketed value

private theorem partsEvents_bracketed : ∀ parts : List TemplatePart, Bracketed (partsEvents parts)
  | [] => by
      rw [partsEvents]
      exact .nil
  | first :: rest => by
      rw [partsEvents]
      exact (partEvents_bracketed first).append (partsEvents_bracketed rest)

private theorem argumentsEvents_bracketed : ∀ arguments : List Argument,
    Bracketed (argumentsEvents arguments)
  | [] => by
      rw [argumentsEvents]
      exact .nil
  | ⟨mark, spread, value⟩ :: rest => by
      rw [argumentsEvents]
      exact .node ((exprEvents_bracketed value).append (argumentsEvents_bracketed rest))

theorem functionEvents_bracketed : ∀ function : Function, Bracketed (functionEvents function)
  | ⟨mark, arrow, async, generator, parameters, body⟩ => by
      rw [functionEvents]
      have inside := (parametersEvents_bracketed parameters).append (bodyEvents_bracketed body)
      simp only [List.append_assoc]
      rw [← List.append_assoc (parametersEvents parameters)]
      exact .function ⟨mark, arrow, async, generator, parameters, body⟩ inside .nil

theorem parametersEvents_bracketed : ∀ parameters : List Parameter,
    Bracketed (parametersEvents parameters)
  | [] => by
      rw [parametersEvents]
      exact .nil
  | ⟨mark, rest, pattern, default⟩ :: parameters => by
      rw [parametersEvents]
      have own := (patternEvents_bracketed pattern).append (optionEvents_bracketed default)
      exact .node (own.append (parametersEvents_bracketed parameters))

theorem bodyEvents_bracketed : ∀ body : FunctionBody, Bracketed (bodyEvents body)
  | .statements body => by
      rw [bodyEvents]
      exact stmtsEvents_bracketed body
  | .expression value => by
      rw [bodyEvents]
      exact exprEvents_bracketed value

theorem patternEvents_bracketed : ∀ pattern : Pattern, Bracketed (patternEvents pattern)
  | .name binding => by
      rw [patternEvents]
      exact .node .nil
  | .array mark elements rest => by
      rw [patternEvents]
      exact .node ((elementsEvents_bracketed elements).append (restEvents_bracketed rest))
  | .object mark properties rest => by
      rw [patternEvents]
      exact .node ((propertiesEvents_bracketed properties).append (restEvents_bracketed rest))

theorem restEvents_bracketed : ∀ pattern : Option Pattern, Bracketed (restEvents pattern)
  | none => by
      rw [restEvents]
      exact .nil
  | some pattern => by
      rw [restEvents]
      exact patternEvents_bracketed pattern

theorem elementsEvents_bracketed : ∀ elements : List (Option PatternElement),
    Bracketed (elementsEvents elements)
  | [] => by
      rw [elementsEvents]
      exact .nil
  | none :: rest => by
      rw [elementsEvents]
      exact elementsEvents_bracketed rest
  | some ⟨target, default⟩ :: rest => by
      rw [elementsEvents]
      exact ((patternEvents_bracketed target).append (optionEvents_bracketed default)).append
        (elementsEvents_bracketed rest)

theorem propertiesEvents_bracketed : ∀ properties : List PatternProperty,
    Bracketed (propertiesEvents properties)
  | [] => by
      rw [propertiesEvents]
      exact .nil
  | ⟨mark, key, target, default⟩ :: rest => by
      rw [propertiesEvents]
      exact .node (((patternEvents_bracketed target).append (optionEvents_bracketed default)).append
        (propertiesEvents_bracketed rest))

theorem stmtEvents_bracketed : ∀ statement : Stmt, Bracketed (stmtEvents statement)
  | .block block => by
      rw [stmtEvents]
      exact blockEvents_bracketed block
  | .empty mark => by
      rw [stmtEvents]
      exact .node .nil
  | .exportDefault mark value => by
      rw [stmtEvents]
      exact .node (exprEvents_bracketed value)
  | .exportList exports => by
      rw [stmtEvents]
      exact .node (exportNodes_bracketed exports)
  | .expression mark value => by
      rw [stmtEvents]
      exact .node (exprEvents_bracketed value)
  | .function ⟨mark, exported, exportedAsDefault, name, function⟩ => by
      rw [stmtEvents]
      exact .node (functionNameEvents_bracketed name (functionEvents_bracketed function))
  | .conditional mark test consequent alternate => by
      rw [stmtEvents]
      exact .node (((exprEvents_bracketed test).append (stmtEvents_bracketed consequent)).append
        (alternateEvents_bracketed alternate))
  | .imports declaration => by
      rw [stmtEvents]
      exact .node ((importEvents_bracketed declaration).append (importNodes_bracketed declaration))
  | .returns ⟨mark, value⟩ => by
      rw [stmtEvents]
      exact .returns (optionEvents_bracketed value)
  | .switch mark test branches => by
      rw [stmtEvents]
      exact .scope_last ((exprEvents_bracketed test).append (branchesEvents_bracketed branches))
  | .attempt mark wrapped handler cleanup => by
      rw [stmtEvents]
      exact .node (((blockEvents_bracketed wrapped).append (handlerEvents_bracketed handler)).append
        (cleanupEvents_bracketed cleanup))
  | .variables ⟨mark, exported, mode, declarators, comments⟩ => by
      rw [stmtEvents]
      have inside := (declaratorsEvents_bracketed declarators).append .nil
      rw [← List.append_nil (declaratorsEvents declarators)]
      exact .variables ⟨mark, exported, mode, declarators, comments⟩ inside
  | .loop mark condition body => by
      rw [stmtEvents]
      exact .node ((exprEvents_bracketed condition).append (stmtEvents_bracketed body))

theorem stmtsEvents_bracketed : ∀ body : List Stmt, Bracketed (stmtsEvents body)
  | [] => by
      rw [stmtsEvents]
      exact .nil
  | first :: rest => by
      rw [stmtsEvents]
      exact (stmtEvents_bracketed first).append (stmtsEvents_bracketed rest)

private theorem alternateEvents_bracketed :
    ∀ alternate : Option Stmt, Bracketed (alternateEvents alternate)
  | none => by
      rw [alternateEvents]
      exact .nil
  | some statement => by
      rw [alternateEvents]
      exact stmtEvents_bracketed statement

theorem blockEvents_bracketed : ∀ block : Block, Bracketed (blockEvents block)
  | ⟨mark, body⟩ => by
      rw [blockEvents]
      exact .scope_last (stmtsEvents_bracketed body)

private theorem cleanupEvents_bracketed :
    ∀ cleanup : Option Block, Bracketed (cleanupEvents cleanup)
  | none => by
      rw [cleanupEvents]
      exact .nil
  | some block => by
      rw [cleanupEvents]
      exact blockEvents_bracketed block

theorem handlerEvents_bracketed : ∀ handler : Option CatchClause, Bracketed (handlerEvents handler)
  | none => by
      rw [handlerEvents]
      exact .nil
  | some ⟨mark, parameter, body⟩ => by
      rw [handlerEvents]
      exact .scope_last (((catchEvents_bracketed parameter).append
        (restEvents_bracketed parameter)).append (stmtsEvents_bracketed body))

theorem branchesEvents_bracketed : ∀ branches : List SwitchBranch,
    Bracketed (branchesEvents branches)
  | [] => by
      rw [branchesEvents]
      exact .nil
  | ⟨mark, test, body⟩ :: rest => by
      rw [branchesEvents]
      exact .node (((optionEvents_bracketed test).append (stmtsEvents_bracketed body)).append
        (branchesEvents_bracketed rest))

private theorem declaratorsEvents_bracketed : ∀ declarators : List Declarator,
    Bracketed (declaratorsEvents declarators)
  | [] => by
      rw [declaratorsEvents]
      exact .nil
  | ⟨pattern, initializer⟩ :: rest => by
      rw [declaratorsEvents]
      exact ((patternEvents_bracketed pattern).append (optionEvents_bracketed initializer)).append
        (declaratorsEvents_bracketed rest)

end

theorem programEvents_bracketed (program : Program) : Bracketed (programEvents program) :=
  .node (stmtsEvents_bracketed program.body)

/-! ### Declarations -/

theorem mem_parameterEvents {function : Function} {event : Event}
    (present : event ∈ parameterEvents function) :
    ∃ name index, event = .declare .current name (.parameter function index) := by
  obtain ⟨declared, fromParameter, inDeclared⟩ := List.mem_flatten.mp present
  obtain ⟨index, _, same⟩ := List.mem_mapIdx.mp fromParameter
  subst same
  obtain ⟨binding, _, rfl⟩ := List.mem_map.mp inDeclared
  exact ⟨binding.name, index, rfl⟩

def declaredNames (declaration : VariableDeclaration) : List Event :=
  (declaration.declarators.mapIdx (declaratorEvents declaration)).flatten

theorem mem_declaredNames {declaration : VariableDeclaration} {event : Event}
    (present : event ∈ declaredNames declaration) :
    ∃ name index, event =
      .declare (targetOf declaration.mode) name (.declarator declaration index) := by
  obtain ⟨declared, fromDeclarator, inDeclared⟩ := List.mem_flatten.mp present
  obtain ⟨index, _, same⟩ := List.mem_mapIdx.mp fromDeclarator
  subst same
  obtain ⟨binding, _, rfl⟩ := List.mem_map.mp inDeclared
  exact ⟨binding.name, index, rfl⟩

def Event.isDeclare : Event → Bool
  | .declare _ _ _ => true
  | _ => false

theorem parameterEvents_declare (function : Function) :
    ∀ event ∈ parameterEvents function, event.isDeclare = true := by
  intro event present
  obtain ⟨name, index, rfl⟩ := mem_parameterEvents present
  rfl

theorem declaredNames_declare (declaration : VariableDeclaration) :
    ∀ event ∈ declaredNames declaration, event.isDeclare = true := by
  intro event present
  obtain ⟨name, index, rfl⟩ := mem_declaredNames present
  rfl

/-! ### Scopes end -/

namespace Walk

theorem run_declares_current {walk : Walk} {events : List Event}
    (declares : ∀ event ∈ events, event.isDeclare = true) :
    (walk.run events).current = walk.current := by
  induction events generalizing walk with
  | nil => rfl
  | cons event rest ih =>
      rw [run_cons, ih fun later present => declares later (List.mem_cons_of_mem _ present)]
      have declare := declares event List.mem_cons_self
      cases event with
      | declare target name definition => rfl
      | _ => cases declare

theorem parent?_enter (walk : Walk) (kind : ScopeKind) (creator : NodeId) :
    (walk.enter kind creator).tree.parent? walk.tree.size = some walk.current := by
  unfold ScopeTree.parent?
  rw [scope?_enter, if_pos rfl]
  rfl

theorem isClosure_enter (walk : Walk) (kind : ScopeKind) (creator : NodeId) :
    (walk.enter kind creator).tree.isClosure walk.tree.size = kind.isClosure := by
  unfold ScopeTree.isClosure
  rw [scope?_enter, if_pos rfl]
  rfl

theorem entered_lt {walk : Walk} (valid : walk.Valid) (kind : ScopeKind) (creator : NodeId) :
    walk.tree.size < (walk.enter kind creator).tree.size := (enter_valid valid kind creator).current

/-- A walk that is back in a scope leaves it for where it came from. -/
theorem leave_current {walk : Walk} (valid : walk.Valid) (kind : ScopeKind) (creator : NodeId)
    {events : List Event}
    (back : ((walk.enter kind creator).run events).current = walk.tree.size) :
    (((walk.enter kind creator).run events).step .leave).current = walk.current := by
  have grown := run_extends (walk.enter kind creator) events
  change (((walk.enter kind creator).run events).tree.parent?
    ((walk.enter kind creator).run events).current).getD ScopeTree.root = walk.current
  rw [back, grown.parent? (entered_lt valid kind creator), parent?_enter]
  rfl

end Walk

theorem Bracketed.current {events : List Event} (bracketed : Bracketed events) {walk : Walk}
    (valid : walk.Valid) : (walk.run events).current = walk.current := by
  induction bracketed generalizing walk with
  | nil => rfl
  | node _ ih => exact ih valid
  | @refer mark name rest _ ih =>
      exact ih (Walk.step_valid valid (.refer mark.id name))
  | @returns mark rest _ ih => exact ih (Walk.step_valid valid (.returns mark.id))
  | @detached target name definition rest _ _ ih =>
      exact ih (Walk.step_valid valid (.declare target name definition))
  | @scope kind mark inner rest _ _ insideIh ih =>
      have entered := Walk.enter_valid valid kind mark.id
      have left := Walk.leave_current valid kind mark.id (insideIh entered)
      change ((walk.enter kind mark.id).run (inner ++ .leave :: rest)).current = walk.current
      rw [Walk.run_append, Walk.run_cons,
        ih (Walk.step_valid (Walk.run_valid entered inner) .leave), left]
  | @function function inner rest _ _ insideIh ih =>
      -- The parameters are declared inside, before the walk comes to what the function contains.
      have entered := Walk.enter_valid valid (functionKind function) function.mark.id
      have bound := Walk.run_valid entered (parameterEvents function)
      have back : ((walk.enter (functionKind function) function.mark.id).run
          (parameterEvents function ++ inner)).current = walk.tree.size := by
        rw [Walk.run_append, insideIh bound,
          Walk.run_declares_current (parameterEvents_declare function)]
        rfl
      have left := Walk.leave_current valid (functionKind function) function.mark.id back
      change ((walk.enter (functionKind function) function.mark.id).run
        (parameterEvents function ++ (inner ++ .leave :: rest))).current = walk.current
      rw [← List.append_assoc, Walk.run_append, Walk.run_cons,
        ih (Walk.step_valid (Walk.run_valid entered _) .leave), left]
  | @named binding function rest _ ih =>
      exact ih (Walk.step_valid valid (.declare .current binding.name _))
  | @«variables» declaration rest _ ih =>
      have located := Walk.step_valid valid (.variables declaration)
      change ((walk.step (.variables declaration)).run (declaredNames declaration ++ _)).current =
        walk.current
      rw [Walk.run_append, ih (Walk.run_valid located _),
        Walk.run_declares_current (declaredNames_declare declaration)]
      rfl

/-! ### What claims a node -/

def Event.claimed? : Event → Option NodeId
  | .enter _ creator => some creator
  | .refer id _ => some id
  | .returns id => some id
  | .variables declaration => some declaration.mark.id
  | .node _ | .leave | .declare _ _ _ => none

def claimed (events : List Event) : List NodeId := events.filterMap Event.claimed?

def creators (events : List Event) : List NodeId :=
  events.filterMap fun
    | .enter _ creator => some creator
    | _ => none

def located (events : List Event) : List NodeId :=
  events.filterMap fun
    | .refer id _ => some id
    | .returns id => some id
    | .variables declaration => some declaration.mark.id
    | _ => none

private theorem claimed_append (first second : List Event) :
    claimed (first ++ second) = claimed first ++ claimed second := List.filterMap_append

theorem creators_sublist_claimed (events : List Event) :
    (creators events).Sublist (claimed events) := by
  induction events with
  | nil => exact .slnil
  | cons event rest ih =>
      cases event with
      | enter kind creator => exact .cons_cons _ ih
      | refer id name => exact .cons _ ih
      | returns id => exact .cons _ ih
      | «variables» declaration => exact .cons _ ih
      | node mark => exact ih
      | leave => exact ih
      | declare target name definition => exact ih

theorem located_sublist_claimed (events : List Event) :
    (located events).Sublist (claimed events) := by
  induction events with
  | nil => exact .slnil
  | cons event rest ih =>
      cases event with
      | enter kind creator => exact .cons _ ih
      | refer id name => exact .cons_cons _ ih
      | returns id => exact .cons_cons _ ih
      | «variables» declaration => exact .cons_cons _ ih
      | node mark => exact ih
      | leave => exact ih
      | declare target name definition => exact ih

private theorem declares_claim_nothing {events : List Event}
    (declares : ∀ event ∈ events, event.isDeclare = true) :
    nodeIds events = [] ∧ claimed events = [] := by
  induction events with
  | nil => exact ⟨rfl, rfl⟩
  | cons event rest ih =>
      have later := ih fun other present => declares other (List.mem_cons_of_mem _ present)
      have declare := declares event List.mem_cons_self
      cases event with
      | declare target name definition => exact later
      | _ => cases declare

/-- No node is claimed twice. -/
theorem Bracketed.claimed_sublist {events : List Event} (bracketed : Bracketed events) :
    (claimed events).Sublist (nodeIds events) := by
  induction bracketed with
  | nil => exact .slnil
  | node _ ih => exact .cons _ ih
  | refer _ ih => exact .cons_cons _ ih
  | returns _ ih => exact .cons_cons _ ih
  | detached _ _ ih => exact ih
  | @scope kind mark inner rest _ _ insideIh ih =>
      change List.Sublist (mark.id :: claimed (inner ++ _)) (mark.id :: nodeIds (inner ++ _))
      rw [claimed_append, nodeIds_append]
      exact .cons_cons _ (insideIh.append ih)
  | @function function inner rest _ _ insideIh ih =>
      obtain ⟨noNodes, noClaims⟩ := declares_claim_nothing (parameterEvents_declare function)
      change List.Sublist (function.mark.id :: claimed (parameterEvents function ++ (inner ++ _)))
        (function.mark.id :: nodeIds (parameterEvents function ++ (inner ++ _)))
      rw [claimed_append, nodeIds_append, noNodes, noClaims, claimed_append, nodeIds_append]
      exact .cons_cons _ (insideIh.append ih)
  | named _ _ ih => exact .cons _ ih
  | @«variables» declaration rest _ ih =>
      obtain ⟨noNodes, noClaims⟩ := declares_claim_nothing (declaredNames_declare declaration)
      change List.Sublist (declaration.mark.id :: claimed (declaredNames declaration ++ _))
        (declaration.mark.id :: nodeIds (declaredNames declaration ++ _))
      rw [claimed_append (declaredNames declaration), nodeIds_append, noNodes, noClaims]
      exact .cons_cons _ ih

theorem Walk.run_created (walk : Walk) (events : List Event) :
    (walk.run events).tree.created.map (·.1) =
      (creators events).reverse ++ walk.tree.created.map (·.1) := by
  induction events generalizing walk with
  | nil => rfl
  | cons event rest ih =>
      rw [run_cons, ih]
      cases event with
      | enter kind creator =>
          change _ = (creator :: creators rest).reverse ++ _
          rw [List.reverse_cons, List.append_assoc]
          rfl
      | _ => rfl

theorem Walk.run_enclosing (walk : Walk) (events : List Event) :
    (walk.run events).tree.enclosing.map (·.1) =
      (located events).reverse ++ walk.tree.enclosing.map (·.1) := by
  induction events generalizing walk with
  | nil => rfl
  | cons event rest ih =>
      rw [run_cons, ih]
      cases event with
      | refer id name =>
          change _ = (id :: located rest).reverse ++ _
          rw [List.reverse_cons, List.append_assoc]
          rfl
      | returns id =>
          change _ = (id :: located rest).reverse ++ _
          rw [List.reverse_cons, List.append_assoc]
          rfl
      | «variables» declaration =>
          change _ = (declaration.mark.id :: located rest).reverse ++ _
          rw [List.reverse_cons, List.append_assoc]
          rfl
      | _ => rfl

def UniqueNodes (program : Program) : Prop := (nodeIds (programEvents program)).Nodup

instance (program : Program) : Decidable (UniqueNodes program) :=
  inferInstanceAs (Decidable (List.Nodup _))

theorem UniqueNodes.claimed {program : Program} (unique : UniqueNodes program) :
    (Scoping.claimed (programEvents program)).Nodup :=
  (programEvents_bracketed program).claimed_sublist.nodup unique

theorem UniqueNodes.createdBy? {program : Program} (unique : UniqueNodes program) {node : NodeId}
    {id : ScopeId} (made : (node, id) ∈ (bind program).created) :
    (bind program).createdBy? node = some id := by
  apply Table.lookup_of_mem _ made
  have keys := Walk.run_created .start (programEvents program)
  change (bind program).created.map (·.1) = (creators (programEvents program)).reverse ++ [] at keys
  rw [keys, List.append_nil]
  exact (List.reverse_perm _).nodup_iff.mpr ((creators_sublist_claimed _).nodup unique.claimed)

theorem UniqueNodes.enclosing? {program : Program} (unique : UniqueNodes program) {node : NodeId}
    {id : ScopeId} (noted : (node, id) ∈ (bind program).enclosing) :
    (bind program).enclosing? node = some id := by
  apply Table.lookup_of_mem _ noted
  have keys := Walk.run_enclosing .start (programEvents program)
  change (bind program).enclosing.map (·.1) = (located (programEvents program)).reverse ++ []
    at keys
  rw [keys, List.append_nil]
  exact (List.reverse_perm _).nodup_iff.mpr ((located_sublist_claimed _).nodup unique.claimed)

end QueryTypes.Scoping
