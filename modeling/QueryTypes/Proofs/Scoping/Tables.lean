import QueryTypes.Proofs.Scoping.OpenScopes

/-!
The tables of a program's scopes, from what its walk notes.

Definitions, uses, makers of scopes and noted nodes each are a selection of the noted events, in
their order. Which events are selected depends on the scopes open there alone.
-/

set_option autoImplicit false

namespace QueryTypes.Scoping

open QueryTypes.Script

namespace ScopeTree

def definitionsOf (tree : ScopeTree) (id : ScopeId) (name : String) : List Definition :=
  ((tree.declared? id name).map (·.definitions)).getD []

def referencesOf (tree : ScopeTree) (id : ScopeId) : List Reference :=
  ((tree.scope? id).map (·.references)).getD []

def added (tree : ScopeTree) (id : ScopeId) (name : String) :
    List OpenScope × Event → Option Definition
  | (opened, .declare target declared definition) =>
      if declared = name ∧ tree.target opened target = id then some definition else none
  | _ => none

def used (tree : ScopeTree) (id : ScopeId) : List OpenScope × Event → Option Reference
  | (opened, .refer node name) => if tree.innermost opened = id then some ⟨node, name⟩ else none
  | _ => none

def locates (tree : ScopeTree) : List OpenScope × Event → Option (NodeId × ScopeId)
  | (opened, .refer node _) => some (node, tree.innermost opened)
  | (opened, .returns node) => some (node, tree.innermost opened)
  | (opened, .variables declaration) => some (declaration.mark.id, tree.innermost opened)
  | _ => none

end ScopeTree

def makes : List OpenScope × Event → Option NodeId
  | (_, .enter _ creator) => some creator
  | _ => none

/-! ### One event -/

section Step

variable {walk : Walk} {id : ScopeId} {name : String}

private theorem ScopeTree.declared?_modifyScope (tree : ScopeTree) (id other : ScopeId)
    (change : Scope → Scope) (name : String) :
    (tree.modifyScope other change).declared? id name =
      if other = id then (tree.scope? id).bind fun scope => (change scope).declared? name
      else tree.declared? id name := by
  unfold declared?
  rw [scope?_modifyScope]
  split
  · rw [Option.bind_map]
    rfl
  · rfl

private theorem Walk.declared?_enter (walk : Walk) (kind : ScopeKind) (creator : NodeId)
    (id : ScopeId) (name : String) :
    (walk.enter kind creator).tree.declared? id name = walk.tree.declared? id name := by
  unfold ScopeTree.declared?
  rw [scope?_enter, ScopeTree.scope?_modifyScope]
  by_cases new : id = walk.tree.size
  · have unknown : walk.tree.scope? id = none := by
      rw [← Option.not_isSome_iff_eq_none, ScopeTree.scope?_isSome_iff, new]
      exact Nat.lt_irrefl _
    rw [if_pos new, unknown]
    rfl
  · rw [if_neg new]
    split
    · cases walk.tree.scope? id <;> rfl
    · rfl

private theorem Walk.Valid.resolve_lt (valid : walk.Valid) (target : Target) :
    walk.resolve target < walk.tree.size := by
  cases target with
  | current => exact valid.current
  | closure =>
      exact Nat.lt_of_le_of_lt (ScopeTree.closureOf_le valid.tree walk.current) valid.current
  | module => exact valid.tree.root

/-- An event adds a definition to a name in a scope if it declares that name there, and leaves the
others as they are. -/
theorem Walk.definitionsOf_step (valid : walk.Valid) (event : Event) :
    (walk.step event).tree.definitionsOf id name = walk.tree.definitionsOf id name ++
      match event with
      | .declare target declared definition =>
          if declared = name ∧ walk.resolve target = id then [definition] else []
      | _ => [] := by
  cases event with
  | declare target declared definition =>
      change (((walk.tree.modifyScope (walk.resolve target)
        (·.declare declared definition)).declared? id name).map (·.definitions)).getD [] = _
      rw [ScopeTree.declared?_modifyScope]
      by_cases here : walk.resolve target = id
      · subst here
        obtain ⟨scope, found⟩ := ScopeTree.scope?_of_lt (valid.resolve_lt target)
        have before : walk.tree.declared? (walk.resolve target) name = scope.declared? name := by
          unfold ScopeTree.declared?
          rw [found, Option.bind_some]
        unfold ScopeTree.definitionsOf
        rw [if_pos rfl, found, Option.bind_some, Scope.declared?_declare, before]
        by_cases same : name = declared
        · subst same
          dsimp only
          rw [if_pos rfl, if_pos ⟨rfl, rfl⟩]
          cases scope.declared? name <;> rfl
        · dsimp only
          rw [if_neg same, if_neg (fun both => same both.1.symm), List.append_nil]
      · dsimp only
        rw [if_neg here, if_neg (fun both => here both.2), List.append_nil]
        rfl
  | enter kind creator =>
      change (((walk.enter kind creator).tree.declared? id name).map _).getD [] = _
      rw [declared?_enter, List.append_nil]
      rfl
  | refer node used =>
      change (((ScopeTree.modifyScope (walk.locate node).tree walk.current
        (.addReference ⟨node, used⟩)).declared? id name).map (·.definitions)).getD [] = _
      rw [ScopeTree.declared?_modifyScope, List.append_nil]
      split
      · rfl
      · rfl
  | node mark => exact (List.append_nil _).symm
  | leave => exact (List.append_nil _).symm
  | returns node => exact (List.append_nil _).symm
  | «variables» declaration => exact (List.append_nil _).symm

private theorem Walk.referencesOf_step (valid : walk.Valid) (event : Event) :
    (walk.step event).tree.referencesOf id = walk.tree.referencesOf id ++
      match event with
      | .refer node used => if walk.current = id then [⟨node, used⟩] else []
      | _ => [] := by
  cases event with
  | refer node used =>
      change (((ScopeTree.modifyScope (walk.locate node).tree walk.current
        (.addReference ⟨node, used⟩)).scope? id).map (·.references)).getD [] = _
      rw [ScopeTree.scope?_modifyScope]
      by_cases here : walk.current = id
      · subst here
        obtain ⟨scope, found⟩ := ScopeTree.scope?_of_lt valid.current
        have located : (walk.locate node).tree.scope? walk.current = some scope := found
        unfold ScopeTree.referencesOf
        dsimp only
        rw [if_pos rfl, if_pos rfl, located, found]
        rfl
      · dsimp only
        rw [if_neg here, if_neg here, List.append_nil]
        rfl
  | declare target declared definition =>
      change (((walk.tree.modifyScope (walk.resolve target)
        (·.declare declared definition)).scope? id).map (·.references)).getD [] = _
      rw [ScopeTree.scope?_modifyScope, List.append_nil]
      split
      · unfold ScopeTree.referencesOf
        cases walk.tree.scope? id with
        | none => rfl
        | some scope =>
            change (scope.declare declared definition).references = scope.references
            unfold Scope.declare
            split <;> rfl
      · rfl
  | enter kind creator =>
      change (((walk.enter kind creator).tree.scope? id).map (·.references)).getD [] = _
      rw [scope?_enter, ScopeTree.scope?_modifyScope, List.append_nil]
      unfold ScopeTree.referencesOf
      by_cases new : id = walk.tree.size
      · have unknown : walk.tree.scope? id = none := by
          rw [← Option.not_isSome_iff_eq_none, ScopeTree.scope?_isSome_iff, new]
          exact Nat.lt_irrefl _
        rw [if_pos new, unknown]
        rfl
      · rw [if_neg new]
        split
        · cases walk.tree.scope? id <;> rfl
        · rfl
  | node mark => exact (List.append_nil _).symm
  | leave => exact (List.append_nil _).symm
  | returns node => exact (List.append_nil _).symm
  | «variables» declaration => exact (List.append_nil _).symm

theorem Walk.size_step (walk : Walk) (event : Event) :
    (walk.step event).tree.size = walk.tree.size + (creators [event]).length := by
  cases event with
  | enter kind creator =>
      change (walk.enter kind creator).tree.size = walk.tree.size + 1
      unfold enter ScopeTree.size
      dsimp only
      rw [Array.size_push, ← ScopeTree.size, ScopeTree.size_modifyScope, ScopeTree.size]
  | declare target declared definition => exact ScopeTree.size_modifyScope _ _ _
  | refer node used => exact ScopeTree.size_modifyScope _ _ _
  | node mark => rfl
  | leave => rfl
  | returns node => rfl
  | «variables» declaration => rfl

end Step

/-! ### The whole walk -/

section Run

variable {program : Program}

private theorem Walk.definitionsOf_run (unique : UniqueNodes program) (id : ScopeId) (name : String)
    {walk : Walk} {opened : List OpenScope} {events : List Event}
    (passes : Passes program walk events) (reaches : Reaches program walk opened) :
    (walk.run events).tree.definitionsOf id name = walk.tree.definitionsOf id name ++
      (noted opened events).filterMap ((bind program).added id name) := by
  induction events generalizing walk opened with
  | nil => exact (List.append_nil _).symm
  | cons event rest ih =>
      rw [run_cons, ih passes.step (reaches.step unique passes), definitionsOf_step passes.valid,
        List.append_assoc]
      congr 1
      cases event with
      | declare target declared definition =>
          rw [noted_declare, List.filterMap_cons, ScopeTree.added, ← reaches.resolve passes]
          dsimp only
          split <;> rfl
      | node mark => rfl
      | leave => rfl
      | enter kind creator => rfl
      | refer node used => rfl
      | returns node => rfl
      | «variables» declaration => rfl

private theorem Walk.referencesOf_run (unique : UniqueNodes program) (id : ScopeId)
    {walk : Walk} {opened : List OpenScope} {events : List Event}
    (passes : Passes program walk events) (reaches : Reaches program walk opened) :
    (walk.run events).tree.referencesOf id = walk.tree.referencesOf id ++
      (noted opened events).filterMap ((bind program).used id) := by
  induction events generalizing walk opened with
  | nil => exact (List.append_nil _).symm
  | cons event rest ih =>
      rw [run_cons, ih passes.step (reaches.step unique passes), referencesOf_step passes.valid,
        List.append_assoc]
      congr 1
      cases event with
      | refer node used =>
          rw [noted_refer, List.filterMap_cons, ScopeTree.used, ← reaches.current]
          dsimp only
          split <;> rfl
      | node mark => rfl
      | leave => rfl
      | enter kind creator => rfl
      | declare target declared definition => rfl
      | returns node => rfl
      | «variables» declaration => rfl

/-- The nodes whose scope is noted, with these scopes, the last first. -/
theorem Walk.enclosing_run (unique : UniqueNodes program)
    {walk : Walk} {opened : List OpenScope} {events : List Event}
    (passes : Passes program walk events) (reaches : Reaches program walk opened) :
    (walk.run events).tree.enclosing =
      ((noted opened events).filterMap (bind program).locates).reverse ++ walk.tree.enclosing := by
  induction events generalizing walk opened with
  | nil => rfl
  | cons event rest ih =>
      rw [run_cons, ih passes.step (reaches.step unique passes)]
      have here := reaches.current
      -- What is noted last stands first in the table.
      have entry {node : NodeId} {others : List (List OpenScope × Event)}
          (located : (bind program).locates (opened, event) =
            some (node, (bind program).innermost opened)) :
          (((opened, event) :: others).filterMap (bind program).locates).reverse ++
              walk.tree.enclosing =
            (others.filterMap (bind program).locates).reverse ++
              ((node, walk.current) :: walk.tree.enclosing) := by
        rw [List.filterMap_cons_some located, List.reverse_cons, List.append_assoc, here]
        rfl
      cases event with
      | refer node used => exact (entry rfl).symm
      | returns node => exact (entry rfl).symm
      | «variables» declaration => exact (entry rfl).symm
      | node mark => rfl
      | leave => rfl
      | enter kind creator => rfl
      | declare target declared definition => rfl

theorem creators_eq_noted (opened : List OpenScope) (events : List Event) :
    creators events = (noted opened events).filterMap makes := by
  induction events generalizing opened with
  | nil => rfl
  | cons event rest ih =>
      cases event with
      | enter kind creator =>
          exact congrArg (creator :: ·) (ih _)
      | _ => exact ih _

/-- Scopes are numbered in the order in which they start. -/
theorem Walk.created_run (walk : Walk) (events : List Event) :
    (walk.run events).tree.created.reverse =
        walk.tree.created.reverse ++ (creators events).zipIdx walk.tree.size ∧
      (walk.run events).tree.size = walk.tree.size + (creators events).length := by
  induction events generalizing walk with
  | nil => exact ⟨(List.append_nil _).symm, rfl⟩
  | cons event rest ih =>
      obtain ⟨created, size⟩ := ih (walk.step event)
      have grown := walk.size_step event
      have split : creators (event :: rest) = creators [event] ++ creators rest :=
        List.filterMap_append (l := [event])
      rw [run_cons, created, size, grown, split]
      refine ⟨?_, by rw [List.length_append, Nat.add_assoc]⟩
      cases event with
      | enter kind creator =>
          change (_ :: walk.tree.created).reverse ++ _ = _
          rw [List.reverse_cons, List.append_assoc]
          rfl
      | _ => rfl

end Run

/-! ### A program's tables -/

def programNoted (program : Program) : List (List OpenScope × Event) :=
  noted [] (programEvents program)

section Program

variable {program : Program}

theorem bind_definitionsOf (unique : UniqueNodes program) (id : ScopeId) (name : String) :
    (bind program).definitionsOf id name =
      (programNoted program).filterMap ((bind program).added id name) := by
  have run := Walk.definitionsOf_run unique id name (Passes.whole program) (.start program)
  have nothing : Walk.start.tree.definitionsOf id name = [] := by
    cases id <;> rfl
  rw [nothing, List.nil_append] at run
  exact run

theorem bind_referencesOf (unique : UniqueNodes program) (id : ScopeId) :
    (bind program).referencesOf id =
      (programNoted program).filterMap ((bind program).used id) := by
  have run := Walk.referencesOf_run unique id (Passes.whole program) (.start program)
  have nothing : Walk.start.tree.referencesOf id = [] := by
    cases id <;> rfl
  rw [nothing, List.nil_append] at run
  exact run

theorem bind_enclosing (unique : UniqueNodes program) :
    (bind program).enclosing = ((programNoted program).filterMap
      (bind program).locates).reverse := by
  have run := Walk.enclosing_run unique (Passes.whole program) (.start program)
  have nothing : Walk.start.tree.enclosing = [] := rfl
  rw [nothing, List.append_nil] at run
  exact run

theorem opens_of_mem_noted (unique : UniqueNodes program) {opened : List OpenScope} {event : Event}
    (known : (opened, event) ∈ programNoted program) : (bind program).Opens opened := by
  obtain ⟨walk, rest, _, reaches⟩ :=
    (Passes.whole program).of_mem_noted unique (.start program) known
  exact reaches.opens

theorem opens_of_enter (unique : UniqueNodes program) {opened : List OpenScope} {kind : ScopeKind}
    {creator : NodeId} (known : (opened, .enter kind creator) ∈ programNoted program) :
    (bind program).Opens (⟨creator, kind.isClosure⟩ :: opened) := by
  obtain ⟨walk, rest, passes, reaches⟩ :=
    (Passes.whole program).of_mem_noted unique (.start program) known
  exact (reaches.step unique passes).opens

theorem bind_created (program : Program) :
    (bind program).created.reverse = ((programNoted program).filterMap makes).zipIdx 1 ∧
      (bind program).size = ((programNoted program).filterMap makes).length + 1 := by
  have run := Walk.created_run .start (programEvents program)
  unfold programNoted
  rw [← creators_eq_noted, Nat.add_comm]
  exact run

end Program

end QueryTypes.Scoping
