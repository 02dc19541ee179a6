import QueryTypes.Proofs.Scoping.Declaring

/-!
What a walk notes, and the scopes that are open when it does.

A scope that has started and not ended is open. Where every node has a number of its own, the open
scopes say which scope the walk is in, so all tables of a program's scopes can be read off a list
of the noted events, each with the scopes open there. That list has nothing to do with how scopes
are numbered.
-/

set_option autoImplicit false

namespace QueryTypes.Scoping

open QueryTypes.Script

/-- A scope that has started and not ended, by the node that made it. That of the module, which
never ends, is left out. -/
structure OpenScope where
  maker : NodeId
  closure : Bool
deriving DecidableEq

def Event.opens (opened : List OpenScope) : Event → List OpenScope
  | .enter kind creator => ⟨creator, kind.isClosure⟩ :: opened
  | .leave => opened.tail
  | _ => opened

def openAfter (opened : List OpenScope) (events : List Event) : List OpenScope :=
  events.foldl Event.opens opened

def Event.isNoted : Event → Bool
  | .node _ | .leave => false
  | _ => true

/-- The events of a walk with the scopes open at each. Nodes by themselves and the ends of scopes
are left out. -/
def noted : List OpenScope → List Event → List (List OpenScope × Event)
  | _, [] => []
  | opened, event :: rest =>
      if event.isNoted then (opened, event) :: noted (event.opens opened) rest
      else noted (event.opens opened) rest

section Noted

variable (opened : List OpenScope) (rest : List Event)

@[simp] theorem noted_nil : noted opened [] = [] := rfl

@[simp] theorem noted_node (mark : Mark) :
    noted opened (.node mark :: rest) = noted opened rest := rfl

@[simp] theorem noted_leave : noted opened (.leave :: rest) = noted opened.tail rest := rfl

@[simp] theorem noted_enter (kind : ScopeKind) (creator : NodeId) :
    noted opened (.enter kind creator :: rest) =
      (opened, .enter kind creator) :: noted (⟨creator, kind.isClosure⟩ :: opened) rest := rfl

@[simp] theorem noted_declare (target : Target) (name : String) (definition : Definition) :
    noted opened (.declare target name definition :: rest) =
      (opened, .declare target name definition) :: noted opened rest := rfl

@[simp] theorem noted_refer (id : NodeId) (name : String) :
    noted opened (.refer id name :: rest) = (opened, .refer id name) :: noted opened rest := rfl

@[simp] theorem noted_returns (id : NodeId) :
    noted opened (.returns id :: rest) = (opened, .returns id) :: noted opened rest := rfl

theorem noted_append (first second : List Event) :
    noted opened (first ++ second) =
      noted opened first ++ noted (openAfter opened first) second := by
  induction first generalizing opened with
  | nil => rfl
  | cons event others ih =>
      rw [List.cons_append, noted, noted, ih]
      split
      · rfl
      · rfl

private theorem openAfter_append (first second : List Event) :
    openAfter opened (first ++ second) = openAfter (openAfter opened first) second :=
  List.foldl_append

end Noted

theorem openAfter_declares {events : List Event}
    (declares : ∀ event ∈ events, event.isDeclare = true) (opened : List OpenScope) :
    openAfter opened events = opened := by
  induction events with
  | nil => rfl
  | cons event rest ih =>
      have later := ih fun other present => declares other (List.mem_cons_of_mem _ present)
      have declare := declares event List.mem_cons_self
      cases event with
      | declare target name definition => exact later
      | _ => cases declare

theorem noted_declares {events : List Event}
    (declares : ∀ event ∈ events, event.isDeclare = true) (opened : List OpenScope) :
    noted opened events = events.map (opened, ·) := by
  induction events with
  | nil => rfl
  | cons event rest ih =>
      have later := ih fun other present => declares other (List.mem_cons_of_mem _ present)
      have declare := declares event List.mem_cons_self
      cases event with
      | declare target name definition =>
          rw [noted_declare, later, List.map_cons]
      | _ => cases declare

/-- Where all scopes that start also end, those that are open stay open. -/
theorem Bracketed.openAfter {events : List Event} (bracketed : Bracketed events)
    (opened : List OpenScope) : openAfter opened events = opened := by
  induction bracketed generalizing opened with
  | nil => rfl
  | node _ ih => exact ih opened
  | refer _ ih => exact ih opened
  | returns _ ih => exact ih opened
  | detached _ _ ih => exact ih opened
  | @scope kind mark inner rest _ _ insideIh ih =>
      change Scoping.openAfter (⟨mark.id, kind.isClosure⟩ :: opened) (inner ++ .leave :: rest) =
        opened
      rw [openAfter_append, insideIh]
      exact ih opened
  | @function function inner rest _ _ insideIh ih =>
      change Scoping.openAfter (⟨function.mark.id, _⟩ :: opened)
        (parameterEvents function ++ (inner ++ .leave :: rest)) = opened
      rw [openAfter_append, openAfter_declares (parameterEvents_declare function), openAfter_append,
        insideIh]
      exact ih opened
  | named _ _ ih => exact ih opened
  | @«variables» declaration rest _ ih =>
      change Scoping.openAfter opened (declaredNames declaration ++ _) = opened
      rw [openAfter_append, openAfter_declares (declaredNames_declare declaration)]
      exact ih opened

theorem Bracketed.noted_append {first : List Event} (bracketed : Bracketed first)
    (opened : List OpenScope) (second : List Event) :
    noted opened (first ++ second) = noted opened first ++ noted opened second := by
  rw [Scoping.noted_append, bracketed.openAfter]

/-! ### Where a walk is -/

namespace ScopeTree

def scopeOf (tree : ScopeTree) (maker : NodeId) : ScopeId := (tree.createdBy? maker).getD root

theorem scopeOf_of_createdBy? {tree : ScopeTree} {maker : NodeId} {id : ScopeId}
    (created : tree.createdBy? maker = some id) : tree.scopeOf maker = id := by
  unfold scopeOf
  rw [created, Option.getD_some]

def innermost (tree : ScopeTree) : List OpenScope → ScopeId
  | [] => root
  | scope :: _ => tree.scopeOf scope.maker

def target (tree : ScopeTree) (opened : List OpenScope) : Target → ScopeId
  | .current => tree.innermost opened
  | .closure => tree.innermost (opened.dropWhile fun scope => !scope.closure)
  | .module => root

structure Opens (tree : ScopeTree) (opened : List OpenScope) : Prop where
  ancestors : tree.ancestors (tree.innermost opened) =
    opened.map (fun scope => tree.scopeOf scope.maker) ++ [root]
  closures : ∀ scope ∈ opened, tree.isClosure (tree.scopeOf scope.maker) = scope.closure
  made : ∀ scope ∈ opened, tree.createdBy? scope.maker = some (tree.scopeOf scope.maker)

theorem parent?_root {tree : ScopeTree} (valid : tree.Valid) : tree.parent? root = none := by
  cases above : tree.parent? root with
  | none => rfl
  | some parent => exact absurd (valid.parent_lt above) (Nat.not_lt_zero parent)

theorem ancestors_root {tree : ScopeTree} (valid : tree.Valid) : tree.ancestors root = [root] := by
  rw [ancestors_eq valid, parent?_root valid]

namespace Opens

variable {tree : ScopeTree} {opened : List OpenScope}

theorem nil (valid : tree.Valid) : tree.Opens [] := ⟨ancestors_root valid, nofun, nofun⟩

theorem cons (valid : tree.Valid) (opens : tree.Opens opened) {scope : OpenScope}
    (above : tree.parent? (tree.scopeOf scope.maker) = some (tree.innermost opened))
    (closure : tree.isClosure (tree.scopeOf scope.maker) = scope.closure)
    (made : tree.createdBy? scope.maker = some (tree.scopeOf scope.maker)) :
    tree.Opens (scope :: opened) := by
  refine ⟨?_, ?_, ?_⟩
  · change tree.ancestors (tree.scopeOf scope.maker) = _
    rw [ancestors_of_parent valid above, opens.ancestors, List.map_cons, List.cons_append]
  · intro other present
    rcases List.mem_cons.mp present with same | outer
    · subst same
      exact closure
    · exact opens.closures other outer
  · intro other present
    rcases List.mem_cons.mp present with same | outer
    · subst same
      exact made
    · exact opens.made other outer

theorem parent? (valid : tree.Valid) {scope : OpenScope} (opens : tree.Opens (scope :: opened)) :
    tree.parent? (tree.scopeOf scope.maker) = some (tree.innermost opened) := by
  have ancestors := opens.ancestors
  change tree.ancestors (tree.scopeOf scope.maker) = _ at ancestors
  rw [ancestors_eq valid, List.map_cons, List.cons_append] at ancestors
  have outer := (List.cons.inj ancestors).2
  cases above : tree.parent? (tree.scopeOf scope.maker) with
  | none =>
      rw [above] at outer
      exact absurd outer.symm (List.append_ne_nil_of_right_ne_nil _ (List.cons_ne_nil _ _))
  | some parent =>
      rw [above] at outer
      dsimp only at outer
      rw [ancestors_eq valid] at outer
      cases opened with
      | nil => exact congrArg some (List.cons.inj outer).1
      | cons next further => exact congrArg some (List.cons.inj outer).1

theorem tail (valid : tree.Valid) (opens : tree.Opens opened) : tree.Opens opened.tail := by
  cases opened with
  | nil => exact opens
  | cons scope outer =>
      refine ⟨?_, fun other present => opens.closures other (List.mem_cons_of_mem _ present),
        fun other present => opens.made other (List.mem_cons_of_mem _ present)⟩
      have ancestors := opens.ancestors
      change tree.ancestors (tree.scopeOf scope.maker) = _ at ancestors
      rw [ancestors_of_parent valid (opens.parent? valid), List.map_cons, List.cons_append]
        at ancestors
      exact (List.cons.inj ancestors).2

/-- Hoisted names go to the innermost function among the open scopes. -/
theorem closureOf (root_closure : tree.isClosure root = true) (opens : tree.Opens opened) :
    tree.closureOf (tree.innermost opened) =
      tree.innermost (opened.dropWhile fun scope => !scope.closure) := by
  unfold ScopeTree.closureOf
  rw [opens.ancestors]
  have closures := opens.closures
  clear opens
  induction opened with
  | nil =>
      change (List.find? tree.isClosure [root]).getD root = root
      rw [List.find?_cons_of_pos root_closure]
      rfl
  | cons scope outer ih =>
      have here := closures scope List.mem_cons_self
      have further := ih fun other present => closures other (List.mem_cons_of_mem _ present)
      change (List.find? tree.isClosure (tree.scopeOf scope.maker :: _)).getD root = _
      cases closure : scope.closure with
      | true =>
          rw [closure] at here
          rw [List.find?_cons_of_pos here, List.dropWhile_cons_of_neg (by simp [closure])]
          rfl
      | false =>
          rw [closure] at here
          rw [List.find?_cons_of_neg (by simp [here]), List.dropWhile_cons_of_pos
            (by simp [closure])]
          exact further

end Opens

theorem Extends.closureOf {earlier later : ScopeTree} (grown : earlier.Extends later)
    (earlierValid : earlier.Valid) (laterValid : later.Valid) {id : Nat}
    (known : id < earlier.size) : later.closureOf id = earlier.closureOf id := by
  unfold ScopeTree.closureOf
  rw [← List.head?_filter, ← List.head?_filter]
  have same := grown.functionsAround earlierValid laterValid known
  exact congrArg (fun closures => closures.head?.getD root) same

end ScopeTree

private theorem bind_root_closure (program : Program) :
    (bind program).isClosure ScopeTree.root = true := by
  have grown := (Passes.whole program).grown
  exact grown.isClosure Walk.start_valid.current

structure Reaches (program : Program) (walk : Walk) (opened : List OpenScope) : Prop where
  current : walk.current = (bind program).innermost opened
  opens : (bind program).Opens opened

namespace Reaches

variable {program : Program} {walk : Walk} {opened : List OpenScope} {event : Event}
  {events : List Event}

theorem start (program : Program) : Reaches program .start [] :=
  ⟨rfl, .nil (bind_valid program)⟩

theorem createdBy?_enter (unique : UniqueNodes program) {kind : ScopeKind} {creator : NodeId}
    (passes : Passes program walk (.enter kind creator :: events)) :
    (bind program).createdBy? creator = some walk.tree.size :=
  unique.createdBy? (passes.step.grown.created (creator, walk.tree.size) List.mem_cons_self)

theorem step (unique : UniqueNodes program) (reaches : Reaches program walk opened)
    (passes : Passes program walk (event :: events)) :
    Reaches program (walk.step event) (event.opens opened) := by
  have valid := bind_valid program
  cases event with
  | enter kind creator =>
      have created := createdBy?_enter unique passes
      have made := ScopeTree.scopeOf_of_createdBy? created
      have known := Walk.entered_lt passes.valid kind creator
      have grown := passes.step.grown
      refine ⟨made.symm, reaches.opens.cons valid ?_ ?_ ?_⟩
      · dsimp only
        rw [made, grown.parent? known, ← reaches.current]
        exact Walk.parent?_enter walk kind creator
      · dsimp only
        rw [made, grown.isClosure known]
        exact Walk.isClosure_enter walk kind creator
      · dsimp only
        rw [made, created]
  | leave =>
      refine ⟨?_, reaches.opens.tail valid⟩
      change (walk.tree.parent? walk.current).getD ScopeTree.root = _
      rw [← passes.grown.parent? passes.valid.current, reaches.current]
      cases opened with
      | nil =>
          change ((bind program).parent? ScopeTree.root).getD ScopeTree.root = ScopeTree.root
          rw [ScopeTree.parent?_root valid]
          rfl
      | cons scope outer =>
          change ((bind program).parent? ((bind program).scopeOf scope.maker)).getD _ = _
          rw [reaches.opens.parent? valid]
          rfl
  | node _ => exact reaches
  | declare _ _ _ => exact ⟨reaches.current, reaches.opens⟩
  | refer _ _ => exact ⟨reaches.current, reaches.opens⟩
  | returns _ => exact ⟨reaches.current, reaches.opens⟩
  | «variables» _ => exact ⟨reaches.current, reaches.opens⟩

/-- Names are declared in the same scope, whether the walk or the open scopes are asked. -/
theorem resolve (reaches : Reaches program walk opened) (passes : Passes program walk events)
    (target : Target) : walk.resolve target = (bind program).target opened target := by
  cases target with
  | current => exact reaches.current
  | module => rfl
  | closure =>
      have before := passes.valid
      change walk.tree.closureOf walk.current = _
      rw [← passes.grown.closureOf before.tree (bind_valid program) before.current, reaches.current]
      exact reaches.opens.closureOf (bind_root_closure program)

end Reaches

theorem Passes.of_mem_noted {program : Program} (unique : UniqueNodes program) {walk : Walk}
    {opened inner : List OpenScope} {events : List Event} {event : Event}
    (passes : Passes program walk events) (reaches : Reaches program walk opened)
    (present : (inner, event) ∈ noted opened events) :
    ∃ later rest, Passes program later (event :: rest) ∧ Reaches program later inner := by
  induction events generalizing walk opened with
  | nil => cases present
  | cons first rest ih =>
      have further := ih passes.step (reaches.step unique passes)
      rw [noted] at present
      split at present
      · rcases List.mem_cons.mp present with same | later
        · cases same
          exact ⟨walk, rest, passes, reaches⟩
        · exact further later
      · exact further present

end QueryTypes.Scoping
