import QueryTypes.Scoping.Tree

/-!
What a walk keeps of the scopes it has found.

A later event adds variables and uses to scopes, but a scope's number, its parent and its kind
stay, and so does what was noted about nodes. So the scopes around a scope are known as soon as
the scope starts.
-/

set_option autoImplicit false

namespace QueryTypes.Scoping

open QueryTypes.Script

structure Scope.Grows (earlier later : Scope) : Prop where
  id : later.id = earlier.id
  parent : later.parent = earlier.parent
  kind : later.kind = earlier.kind

private theorem Scope.declare_grows (scope : Scope) (name : String) (definition : Definition) :
    scope.Grows (scope.declare name definition) := by
  unfold Scope.declare
  split
  · exact ⟨rfl, rfl, rfl⟩
  · exact ⟨rfl, rfl, rfl⟩

def Scope.addChild (child : ScopeId) (scope : Scope) : Scope :=
  { scope with children := scope.children ++ [child] }

private theorem Scope.addChild_grows (child : ScopeId) (scope : Scope) :
    scope.Grows (scope.addChild child) := ⟨rfl, rfl, rfl⟩

def Scope.addReference (reference : Reference) (scope : Scope) : Scope :=
  { scope with references := scope.references ++ [reference] }

private theorem Scope.addReference_grows (reference : Reference) (scope : Scope) :
    scope.Grows (scope.addReference reference) := ⟨rfl, rfl, rfl⟩

namespace ScopeTree

structure Extends (earlier later : ScopeTree) : Prop where
  scopes : ∀ id scope, earlier.scope? id = some scope →
    ∃ grown, later.scope? id = some grown ∧ scope.Grows grown
  created : ∀ entry ∈ earlier.created, entry ∈ later.created
  enclosing : ∀ entry ∈ earlier.enclosing, entry ∈ later.enclosing

theorem Extends.refl (tree : ScopeTree) : tree.Extends tree where
  scopes := fun _ scope found => ⟨scope, found, rfl, rfl, rfl⟩
  created := fun _ present => present
  enclosing := fun _ present => present

theorem Extends.trans {first second third : ScopeTree} (early : first.Extends second)
    (late : second.Extends third) : first.Extends third where
  scopes := by
    intro id scope found
    obtain ⟨middle, inSecond, sameId, sameParent, sameKind⟩ := early.scopes id scope found
    obtain ⟨last, inThird, lastId, lastParent, lastKind⟩ := late.scopes id middle inSecond
    exact ⟨last, inThird, lastId.trans sameId, lastParent.trans sameParent,
      lastKind.trans sameKind⟩
  created := fun entry present => late.created entry (early.created entry present)
  enclosing := fun entry present => late.enclosing entry (early.enclosing entry present)

theorem scope?_isSome_iff {tree : ScopeTree} {id : Nat} :
    (tree.scope? id).isSome = true ↔ id < tree.size := by
  unfold scope? size
  simp

theorem scope?_of_lt {tree : ScopeTree} {id : Nat} (known : id < tree.size) :
    ∃ scope, tree.scope? id = some scope :=
  Option.isSome_iff_exists.mp (scope?_isSome_iff.mpr known)

theorem lt_of_scope? {tree : ScopeTree} {id : Nat} {scope : Scope}
    (found : tree.scope? id = some scope) : id < tree.size := by
  apply scope?_isSome_iff.mp
  rw [found]
  rfl

theorem scope?_modifyScope (tree : ScopeTree) (id other : ScopeId) (change : Scope → Scope) :
    (tree.modifyScope id change).scope? other =
      if id = other then (tree.scope? other).map change else tree.scope? other := by
  unfold scope? modifyScope
  rw [Array.getElem?_modify]

theorem size_modifyScope (tree : ScopeTree) (id : ScopeId) (change : Scope → Scope) :
    (tree.modifyScope id change).size = tree.size := by
  unfold size modifyScope
  rw [Array.size_modify]

private theorem modifyScope_extends (tree : ScopeTree) (id : ScopeId) {change : Scope → Scope}
    (grows : ∀ scope : Scope, scope.Grows (change scope)) :
    tree.Extends (tree.modifyScope id change) where
  scopes := by
    intro other scope found
    rw [scope?_modifyScope]
    by_cases same : id = other
    · rw [if_pos same, found]
      exact ⟨change scope, rfl, grows scope⟩
    · rw [if_neg same, found]
      exact ⟨scope, rfl, rfl, rfl, rfl⟩
  created := fun _ present => present
  enclosing := fun _ present => present

/-- Scopes are numbered in their order, parents come first, and variables know their scope. -/
structure Valid (tree : ScopeTree) : Prop where
  root : 0 < tree.size
  ids : ∀ id scope, tree.scope? id = some scope → scope.id = id
  parents : ∀ id scope parent, tree.scope? id = some scope → scope.parent = some parent →
    parent < id
  holders : ∀ id scope, tree.scope? id = some scope → ∀ known ∈ scope.variables, known.scope = id

theorem Valid.parent_lt {tree : ScopeTree} (valid : tree.Valid) {id parent : ScopeId}
    (found : tree.parent? id = some parent) : parent < id := by
  obtain ⟨scope, here, above⟩ := Option.bind_eq_some_iff.mp found
  exact valid.parents id scope parent here above

private theorem initial_valid : initial.Valid := by
  have only (id : ScopeId) (scope : Scope) (found : initial.scope? id = some scope) :
      id = root ∧ scope = .fresh root none .module := by
    have known := lt_of_scope? found
    have zero : id = 0 := Nat.lt_one_iff.mp known
    subst zero
    exact ⟨rfl, (Option.some.inj found).symm⟩
  refine ⟨Nat.one_pos, ?_, ?_, ?_⟩
  · intro id scope found
    obtain ⟨rfl, rfl⟩ := only id scope found
    rfl
  · intro id scope parent found above
    obtain ⟨rfl, rfl⟩ := only id scope found
    cases above
  · intro id scope found known present
    obtain ⟨rfl, rfl⟩ := only id scope found
    cases present

private theorem modifyScope_valid {tree : ScopeTree} (valid : tree.Valid) (id : ScopeId)
    {change : Scope → Scope} (grows : ∀ scope : Scope, scope.Grows (change scope))
    (holds : ∀ scope, tree.scope? id = some scope →
      ∀ known ∈ (change scope).variables, known.scope = id) :
    (tree.modifyScope id change).Valid := by
  have before (other : ScopeId) (scope : Scope)
      (found : (tree.modifyScope id change).scope? other = some scope) :
      ∃ old, tree.scope? other = some old ∧ old.Grows scope ∧
        (scope = old ∨ (id = other ∧ scope = change old)) := by
    rw [scope?_modifyScope] at found
    by_cases same : id = other
    · rw [if_pos same] at found
      obtain ⟨old, here, rfl⟩ := Option.map_eq_some_iff.mp found
      exact ⟨old, here, grows old, .inr ⟨same, rfl⟩⟩
    · rw [if_neg same] at found
      exact ⟨scope, found, ⟨rfl, rfl, rfl⟩, .inl rfl⟩
  refine ⟨?_, ?_, ?_, ?_⟩
  · rw [size_modifyScope]
    exact valid.root
  · intro other scope found
    obtain ⟨old, here, grown, _⟩ := before other scope found
    rw [grown.id]
    exact valid.ids other old here
  · intro other scope parent found above
    obtain ⟨old, here, grown, _⟩ := before other scope found
    rw [grown.parent] at above
    exact valid.parents other old parent here above
  · intro other scope found known present
    obtain ⟨old, here, _, same | ⟨sameId, same⟩⟩ := before other scope found
    · subst same
      exact valid.holders other scope here known present
    · subst same sameId
      exact holds old here known present

end ScopeTree

private theorem Scope.declare_holders {scope : Scope} {id : ScopeId} (sameId : scope.id = id)
    (holders : ∀ known ∈ scope.variables, known.scope = id) (name : String)
    (definition : Definition) :
    ∀ known ∈ (scope.declare name definition).variables, known.scope = id := by
  intro known present
  unfold Scope.declare at present
  split at present
  · obtain ⟨old, inScope, rfl⟩ := List.mem_map.mp present
    have holder := holders old inScope
    split
    · exact holder
    · exact holder
  · rcases List.mem_append.mp present with old | new
    · exact holders known old
    · rw [List.mem_singleton.mp new]
      exact sameId

namespace Walk

structure Valid (walk : Walk) : Prop where
  tree : walk.tree.Valid
  current : walk.current < walk.tree.size

theorem start_valid : start.Valid := ⟨ScopeTree.initial_valid, Nat.one_pos⟩

theorem scope?_enter (walk : Walk) (kind : ScopeKind) (creator : NodeId) (id : ScopeId) :
    (walk.enter kind creator).tree.scope? id =
      if id = walk.tree.size then some (.fresh walk.tree.size (some walk.current) kind)
      else (walk.tree.modifyScope walk.current (.addChild walk.tree.size)).scope? id := by
  unfold enter ScopeTree.scope?
  dsimp only
  rw [Array.getElem?_push, ← ScopeTree.size, ScopeTree.size_modifyScope]
  rfl

theorem enter_extends (walk : Walk) (kind : ScopeKind) (creator : NodeId) :
    walk.tree.Extends (walk.enter kind creator).tree where
  scopes := by
    intro id scope found
    have known := ScopeTree.lt_of_scope? found
    rw [scope?_enter, if_neg (Nat.ne_of_lt known)]
    exact (ScopeTree.modifyScope_extends walk.tree walk.current
      (Scope.addChild_grows walk.tree.size)).scopes id scope found
  created := fun _ present => List.mem_cons_of_mem _ present
  enclosing := fun _ present => present

theorem enter_valid {walk : Walk} (valid : walk.Valid) (kind : ScopeKind) (creator : NodeId) :
    (walk.enter kind creator).Valid := by
  have changed : (walk.tree.modifyScope walk.current (.addChild walk.tree.size)).Valid := by
    apply ScopeTree.modifyScope_valid valid.tree walk.current (Scope.addChild_grows _)
    exact fun scope found => valid.tree.holders _ scope found
  have size : (walk.enter kind creator).tree.size = walk.tree.size + 1 := by
    unfold enter ScopeTree.size
    dsimp only
    rw [Array.size_push, ← ScopeTree.size, ScopeTree.size_modifyScope, ScopeTree.size]
  have either (id : ScopeId) (scope : Scope)
      (found : (walk.enter kind creator).tree.scope? id = some scope) :
      (id = walk.tree.size ∧ scope = .fresh walk.tree.size (some walk.current) kind) ∨
        (walk.tree.modifyScope walk.current (.addChild walk.tree.size)).scope? id =
          some scope := by
    rw [scope?_enter] at found
    by_cases new : id = walk.tree.size
    · rw [if_pos new] at found
      exact .inl ⟨new, (Option.some.inj found).symm⟩
    · rw [if_neg new] at found
      exact .inr found
  refine ⟨⟨?_, ?_, ?_, ?_⟩, ?_⟩
  · have root := valid.tree.root
    omega
  · intro id scope found
    rcases either id scope found with ⟨rfl, rfl⟩ | old
    · rfl
    · exact changed.ids id scope old
  · intro id scope parent found above
    rcases either id scope found with ⟨rfl, rfl⟩ | old
    · cases above
      exact valid.current
    · exact changed.parents id scope parent old above
  · intro id scope found known present
    rcases either id scope found with ⟨rfl, rfl⟩ | old
    · cases present
    · exact changed.holders id scope old known present
  · rw [size]
    exact Nat.lt_succ_self _

private theorem locate_extends (walk : Walk) (node : NodeId) :
    walk.tree.Extends (walk.locate node).tree where
  scopes := fun _ scope found => ⟨scope, found, rfl, rfl, rfl⟩
  created := fun _ present => present
  enclosing := fun _ present => List.mem_cons_of_mem _ present

private theorem locate_valid {walk : Walk} (valid : walk.Valid) (node : NodeId) :
    (walk.locate node).Valid :=
  ⟨⟨valid.tree.root, valid.tree.ids, valid.tree.parents, valid.tree.holders⟩, valid.current⟩

theorem step_extends (walk : Walk) (event : Event) : walk.tree.Extends (walk.step event).tree := by
  cases event with
  | node mark => exact .refl _
  | enter kind creator => exact enter_extends walk kind creator
  | leave => exact .refl _
  | declare target name definition =>
      exact ScopeTree.modifyScope_extends _ _ fun scope => scope.declare_grows name definition
  | refer id name =>
      exact (locate_extends walk id).trans
        (ScopeTree.modifyScope_extends _ _ (Scope.addReference_grows ⟨id, name⟩))
  | returns id => exact locate_extends walk id
  | «variables» declaration => exact locate_extends walk declaration.mark.id

theorem step_valid {walk : Walk} (valid : walk.Valid) (event : Event) :
    (walk.step event).Valid := by
  cases event with
  | node mark => exact valid
  | enter kind creator => exact enter_valid valid kind creator
  | leave =>
      refine ⟨valid.tree, ?_⟩
      change (walk.tree.parent? walk.current).getD ScopeTree.root < walk.tree.size
      cases above : walk.tree.parent? walk.current with
      | none => exact valid.tree.root
      | some parent => exact Nat.lt_trans (valid.tree.parent_lt above) valid.current
  | declare target name definition =>
      refine ⟨?_, ?_⟩
      · apply ScopeTree.modifyScope_valid valid.tree _ fun scope =>
          scope.declare_grows name definition
        intro scope found
        exact Scope.declare_holders (valid.tree.ids _ scope found)
          (valid.tree.holders _ scope found) name definition
      · change walk.current < (walk.tree.modifyScope _ _).size
        rw [ScopeTree.size_modifyScope]
        exact valid.current
  | refer id name =>
      have located := locate_valid valid id
      refine ⟨?_, ?_⟩
      · exact ScopeTree.modifyScope_valid located.tree _ (Scope.addReference_grows ⟨id, name⟩)
          fun scope found => located.tree.holders _ scope found
      · change walk.current < (ScopeTree.modifyScope (walk.locate id).tree _ _).size
        rw [ScopeTree.size_modifyScope]
        exact located.current
  | returns id => exact locate_valid valid id
  | «variables» declaration => exact locate_valid valid declaration.mark.id

def run (walk : Walk) (events : List Event) : Walk := events.foldl Walk.step walk

@[simp] theorem run_cons (walk : Walk) (event : Event) (events : List Event) :
    walk.run (event :: events) = (walk.step event).run events := rfl

theorem run_append (walk : Walk) (first second : List Event) :
    walk.run (first ++ second) = (walk.run first).run second := List.foldl_append

theorem run_extends (walk : Walk) (events : List Event) :
    walk.tree.Extends (walk.run events).tree := by
  induction events generalizing walk with
  | nil => exact .refl _
  | cons event rest ih => exact (step_extends walk event).trans (ih (walk.step event))

theorem run_valid {walk : Walk} (valid : walk.Valid) (events : List Event) :
    (walk.run events).Valid := by
  induction events generalizing walk with
  | nil => exact valid
  | cons event rest ih => exact ih (step_valid valid event)

end Walk

theorem bind_valid (program : Program) : (bind program).Valid :=
  (Walk.run_valid Walk.start_valid (programEvents program)).tree

namespace ScopeTree

/-! ### The scopes around a scope -/

section Ancestors

variable {tree : ScopeTree}

private theorem ancestorsWithin_eq (valid : tree.Valid) (id limit : Nat) (enough : id < limit) :
    tree.ancestorsWithin limit id = tree.ancestors id := by
  induction id using Nat.strongRecOn generalizing limit with
  | ind id ih =>
      obtain ⟨limit, rfl⟩ := Nat.exists_eq_succ_of_ne_zero (by omega : limit ≠ 0)
      unfold ancestors
      rw [Nat.succ_eq_add_one, ancestorsWithin, ancestorsWithin]
      cases above : tree.parent? id with
      | none => rfl
      | some parent =>
          have smaller : parent < id := valid.parent_lt above
          have enoughLeft : parent < limit :=
            Nat.lt_of_lt_of_le smaller (Nat.le_of_lt_succ enough)
          dsimp only
          rw [ih parent smaller limit enoughLeft, ih parent smaller id smaller]

theorem ancestors_eq (valid : tree.Valid) (id : ScopeId) :
    tree.ancestors id = id :: match tree.parent? id with
      | none => []
      | some parent => tree.ancestors parent := by
  conv =>
    lhs
    unfold ancestors
    rw [ancestorsWithin]
  cases above : tree.parent? id with
  | none => rfl
  | some parent =>
      dsimp only
      rw [ancestorsWithin_eq valid parent id (valid.parent_lt above)]

theorem mem_ancestors_self (valid : tree.Valid) (id : ScopeId) : id ∈ tree.ancestors id := by
  rw [ancestors_eq valid]
  exact List.mem_cons_self

theorem ancestors_of_parent (valid : tree.Valid) {id parent : ScopeId}
    (above : tree.parent? id = some parent) :
    tree.ancestors id = id :: tree.ancestors parent := by
  rw [ancestors_eq valid, above]

theorem le_of_mem_ancestors (valid : tree.Valid) (id : Nat) {outer : Nat}
    (around : outer ∈ tree.ancestors id) : outer ≤ id := by
  induction id using Nat.strongRecOn with
  | ind id ih =>
      rw [ancestors_eq valid] at around
      rcases List.mem_cons.mp around with same | further
      · exact Nat.le_of_eq same
      · cases above : tree.parent? id with
        | none =>
            rw [above] at further
            cases further
        | some parent =>
            rw [above] at further
            have smaller : parent < id := valid.parent_lt above
            exact Nat.le_trans (ih parent smaller further) (Nat.le_of_lt smaller)

theorem ancestors_subset (valid : tree.Valid) (id : Nat) {middle : ScopeId}
    (around : middle ∈ tree.ancestors id) : tree.ancestors middle ⊆ tree.ancestors id := by
  induction id using Nat.strongRecOn with
  | ind id ih =>
      rw [ancestors_eq valid] at around
      rcases List.mem_cons.mp around with same | further
      · rw [same]
        exact List.Subset.refl _
      · cases above : tree.parent? id with
        | none =>
            rw [above] at further
            cases further
        | some parent =>
            rw [above] at further
            rw [ancestors_of_parent valid above]
            exact List.Subset.trans (ih parent (valid.parent_lt above) further)
              (List.subset_cons_self _ _)

/-- What the first scope outwards with a property has, and the rest outwards from it. -/
theorem mem_ancestors_of_find? (valid : tree.Valid) {property : ScopeId → Bool} (id : Nat)
    {first : ScopeId} (found : (tree.ancestors id).find? property = some first) {outer : ScopeId}
    (around : outer ∈ tree.ancestors id) (has : property outer = true) :
    outer ∈ tree.ancestors first := by
  induction id using Nat.strongRecOn with
  | ind id ih =>
      by_cases here : property id = true
      · have same : first = id := by
          rw [ancestors_eq valid, List.find?_cons_of_pos here] at found
          exact (Option.some.inj found).symm
        rw [same]
        exact around
      · rw [ancestors_eq valid, List.find?_cons_of_neg here] at found
        rw [ancestors_eq valid] at around
        have further := (List.mem_cons.mp around).resolve_left (fun same => here (same ▸ has))
        cases above : tree.parent? id with
        | none =>
            rw [above] at further
            cases further
        | some parent =>
            rw [above] at further found
            exact ih parent (valid.parent_lt above) found further

def isClosure (tree : ScopeTree) (id : ScopeId) : Bool :=
  (tree.scope? id).any (·.kind.isClosure)

def functionsAround (tree : ScopeTree) (id : ScopeId) : List ScopeId :=
  (tree.ancestors id).filter tree.isClosure

theorem mem_functionsAround {id outer : ScopeId} :
    outer ∈ tree.functionsAround id ↔
      outer ∈ tree.ancestors id ∧ tree.isClosure outer = true := List.mem_filter

theorem functionsAround_subset (valid : tree.Valid) {id outer : ScopeId}
    (around : outer ∈ tree.ancestors id) :
    tree.functionsAround outer ⊆ tree.functionsAround id := by
  intro closure member
  obtain ⟨ancestor, isClosure⟩ := mem_functionsAround.mp member
  exact mem_functionsAround.mpr ⟨ancestors_subset valid id around ancestor, isClosure⟩

/-- No function starts between a scope and the one that its hoisted variables belong to. -/
theorem functionsAround_closureOf (valid : tree.Valid) (id : ScopeId) :
    tree.functionsAround id ⊆ tree.functionsAround (tree.closureOf id) := by
  intro outer around
  obtain ⟨ancestor, closure⟩ := mem_functionsAround.mp around
  refine mem_functionsAround.mpr ⟨?_, closure⟩
  unfold closureOf
  cases found : (tree.ancestors id).find? fun ancestor =>
      (tree.scope? ancestor).any (·.kind.isClosure) with
  | none => exact absurd closure (List.find?_eq_none.mp found outer ancestor)
  | some first => exact mem_ancestors_of_find? valid id found ancestor closure

theorem closureOf_le (valid : tree.Valid) (id : Nat) : tree.closureOf id ≤ id := by
  unfold closureOf
  cases found : (tree.ancestors id).find? fun ancestor =>
      (tree.scope? ancestor).any (·.kind.isClosure) with
  | none => exact Nat.zero_le id
  | some first => exact le_of_mem_ancestors valid id (List.mem_of_find?_eq_some found)

theorem functionsAround_of_function (valid : tree.Valid) {id parent : ScopeId}
    (above : tree.parent? id = some parent) {outer : ScopeId}
    (around : outer ∈ tree.functionsAround id) :
    outer = id ∨ outer ∈ tree.functionsAround parent := by
  obtain ⟨ancestor, closure⟩ := mem_functionsAround.mp around
  rw [ancestors_of_parent valid above] at ancestor
  rcases List.mem_cons.mp ancestor with same | further
  · exact .inl same
  · exact .inr (mem_functionsAround.mpr ⟨further, closure⟩)

theorem functionsAround_of_block (valid : tree.Valid) {id parent : ScopeId}
    (above : tree.parent? id = some parent) (block : tree.isClosure id = false) :
    tree.functionsAround id ⊆ tree.functionsAround parent := by
  intro outer around
  rcases functionsAround_of_function valid above around with same | further
  · have closure := (mem_functionsAround.mp around).2
    rw [same, block] at closure
    cases closure
  · exact further

end Ancestors

/-! ### What stays as the tree grows -/

section Growing

variable {earlier later : ScopeTree}

theorem Extends.parent? (grown : earlier.Extends later) {id : Nat} (known : id < earlier.size) :
    later.parent? id = earlier.parent? id := by
  obtain ⟨scope, found⟩ := scope?_of_lt known
  obtain ⟨last, present, grows⟩ := grown.scopes id scope found
  unfold ScopeTree.parent?
  rw [found, present]
  exact grows.parent

theorem Extends.isClosure (grown : earlier.Extends later) {id : Nat} (known : id < earlier.size) :
    later.isClosure id = earlier.isClosure id := by
  obtain ⟨scope, found⟩ := scope?_of_lt known
  obtain ⟨last, present, grows⟩ := grown.scopes id scope found
  unfold ScopeTree.isClosure
  rw [found, present, Option.any_some, Option.any_some, grows.kind]

theorem Extends.ancestors (grown : earlier.Extends later) (earlierValid : earlier.Valid)
    (laterValid : later.Valid) (id : Nat) (known : id < earlier.size) :
    later.ancestors id = earlier.ancestors id := by
  induction id using Nat.strongRecOn with
  | ind id ih =>
      rw [ancestors_eq laterValid, ancestors_eq earlierValid, grown.parent? known]
      cases above : earlier.parent? id with
      | none => rfl
      | some parent =>
          have smaller : parent < id := earlierValid.parent_lt above
          dsimp only
          rw [ih parent smaller (Nat.lt_trans smaller known)]

theorem Extends.functionsAround (grown : earlier.Extends later) (earlierValid : earlier.Valid)
    (laterValid : later.Valid) {id : Nat} (known : id < earlier.size) :
    later.functionsAround id = earlier.functionsAround id := by
  unfold ScopeTree.functionsAround
  rw [grown.ancestors earlierValid laterValid id known]
  apply List.filter_congr
  intro outer around
  apply grown.isClosure
  have le := le_of_mem_ancestors earlierValid id around
  exact Nat.lt_of_le_of_lt le known

end Growing

end ScopeTree

end QueryTypes.Scoping
