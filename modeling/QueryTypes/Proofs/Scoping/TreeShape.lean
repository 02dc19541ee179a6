import Mathlib.Data.List.Nodup
import QueryTypes.Proofs.Scoping.Sites

/-!
The shape of a scope tree, and what its tables record.

Scopes are entered and left like brackets. So the scopes inside one have numbers in a row: they
start after it, and whatever starts after it has ended is outside. A walk keeps this together with
what it says of scopes that have not ended yet: everything that started since is inside of them.
Where nodes have numbers of their own, each node that makes a scope makes one, and each identifier
is recorded once, in the scope that is noted for it.
-/

set_option autoImplicit false

namespace QueryTypes.Scoping

open QueryTypes.Script

namespace ScopeTree

def childrenOf (tree : ScopeTree) (id : ScopeId) : List ScopeId :=
  ((tree.scope? id).map (·.children)).getD []

def inside (tree : ScopeTree) (id : ScopeId) : List ScopeId :=
  (List.range tree.size).filter fun child => tree.parent? child == some id

private theorem lt_of_parent? {tree : ScopeTree} {child parent : ScopeId}
    (above : tree.parent? child = some parent) : child < tree.size := by
  obtain ⟨scope, found, _⟩ := Option.bind_eq_some_iff.mp above
  exact lt_of_scope? found

private theorem mem_inside {tree : ScopeTree} {child id : ScopeId} :
    child ∈ tree.inside id ↔ tree.parent? child = some id := by
  unfold inside
  rw [List.mem_filter, List.mem_range, beq_iff_eq]
  exact ⟨And.right, fun above => ⟨lt_of_parent? above, above⟩⟩

private theorem inside_ascending (tree : ScopeTree) (id : ScopeId) :
    (tree.inside id).Pairwise (· < ·) :=
  List.Pairwise.sublist List.filter_sublist List.pairwise_lt_range

private theorem Extends.size_le {earlier later : ScopeTree} (grown : earlier.Extends later) :
    earlier.size ≤ later.size := by
  by_contra smaller
  obtain ⟨scope, found⟩ := scope?_of_lt (Nat.lt_of_not_le smaller)
  obtain ⟨last, present, _⟩ := grown.scopes _ scope found
  exact Nat.lt_irrefl _ (lt_of_scope? present)

private theorem Extends.parent?_eq {earlier later : ScopeTree} (grown : earlier.Extends later)
    (same : later.size = earlier.size) : later.parent? = earlier.parent? := by
  funext id
  by_cases known : id < earlier.size
  · exact grown.parent? known
  · have unknown {tree : ScopeTree} (beyond : ¬ id < tree.size) : tree.parent? id = none := by
      rw [← scope?_isSome_iff, Bool.not_eq_true, Option.isSome_eq_false_iff,
        Option.isNone_iff_eq_none] at beyond
      unfold ScopeTree.parent?
      rw [beyond, Option.bind_none]
    rw [unknown known, unknown (by rw [same]; exact known)]

end ScopeTree

/-! ### One event -/

private theorem Walk.childrenOf_step {walk : Walk} (valid : walk.Valid) (event : Event)
    (id : ScopeId) :
    (walk.step event).tree.childrenOf id = walk.tree.childrenOf id ++
      match event with
      | .enter _ _ => if walk.current = id then [walk.tree.size] else []
      | _ => [] := by
  have unchanged {tree : ScopeTree} (other : ScopeId) {change : Scope → Scope}
      (same : ∀ scope : Scope, (change scope).children = scope.children) :
      (tree.modifyScope other change).childrenOf id = tree.childrenOf id ++ [] := by
    unfold ScopeTree.childrenOf
    rw [ScopeTree.scope?_modifyScope, List.append_nil]
    split
    · cases tree.scope? id with
      | none => rfl
      | some scope => exact same scope
    · rfl
  cases event with
  | enter kind creator =>
      change (((walk.enter kind creator).tree.scope? id).map (·.children)).getD [] = _
      rw [scope?_enter, ScopeTree.scope?_modifyScope]
      unfold ScopeTree.childrenOf
      by_cases new : id = walk.tree.size
      · have unknown : walk.tree.scope? id = none := by
          rw [← Option.not_isSome_iff_eq_none, ScopeTree.scope?_isSome_iff, new]
          exact Nat.lt_irrefl _
        have other : walk.current ≠ id := by
          rw [new]
          exact Nat.ne_of_lt valid.current
        dsimp only
        rw [if_pos new, unknown, if_neg other]
        rfl
      · rw [if_neg new]
        by_cases here : walk.current = id
        · obtain ⟨scope, found⟩ := ScopeTree.scope?_of_lt valid.current
          rw [here] at found
          dsimp only
          rw [if_pos here, if_pos here, found]
          rfl
        · dsimp only
          rw [if_neg here, if_neg here, List.append_nil]
  | declare target name definition =>
      refine unchanged _ fun scope => ?_
      unfold Scope.declare
      split <;> rfl
  | refer node name =>
      have located : (walk.locate node).tree.childrenOf id = walk.tree.childrenOf id := rfl
      rw [← located]
      exact unchanged _ fun _ => rfl
  | node mark => exact (List.append_nil _).symm
  | leave => exact (List.append_nil _).symm
  | returns node => exact (List.append_nil _).symm
  | «variables» declaration => exact (List.append_nil _).symm

structure Walk.Shaped (walk : Walk) : Prop where
  children : ∀ id, walk.tree.childrenOf id = walk.tree.inside id
  parented : ∀ id, 0 < id → id < walk.tree.size → ∃ parent, walk.tree.parent? id = some parent
  /-- The scopes inside a scope are those from it up to some last one. -/
  ranges : ∀ id, id < walk.tree.size → ∃ last, last ≤ walk.tree.size ∧ ∀ inner,
    inner < walk.tree.size → (id ∈ walk.tree.ancestors inner ↔ id ≤ inner ∧ inner < last)
  /-- Up to now everything that started after a scope which has not ended is inside of it. -/
  unended : ∀ id ∈ walk.tree.ancestors walk.current, ∀ inner, id ≤ inner →
    inner < walk.tree.size → id ∈ walk.tree.ancestors inner

private theorem Walk.start_shaped : start.Shaped := by
  have valid := start_valid.tree
  have only {id : Nat} (known : id < start.tree.size) : id = ScopeTree.root :=
    Nat.lt_one_iff.mp known
  have around := ScopeTree.mem_ancestors_self valid ScopeTree.root
  refine ⟨?_, ?_, ?_, ?_⟩
  · intro id
    cases id <;> rfl
  · intro id positive known
    exact absurd (only known) (Nat.ne_of_gt positive)
  · intro id known
    obtain rfl := only known
    refine ⟨1, Nat.le_refl 1, fun inner innerKnown => ?_⟩
    obtain rfl := only innerKnown
    exact ⟨fun _ => ⟨Nat.le_refl _, Nat.one_pos⟩, fun _ => around⟩
  · intro id outer inner _ innerKnown
    obtain rfl := only innerKnown
    exact outer

namespace Walk

variable {walk : Walk}

section Enter

variable (kind : ScopeKind) (creator : NodeId)

private theorem size_enter : (walk.enter kind creator).tree.size = walk.tree.size + 1 :=
  walk.size_step (.enter kind creator)

private theorem inside_enter (id : ScopeId) : (walk.enter kind creator).tree.inside id =
    walk.tree.inside id ++ if walk.current = id then [walk.tree.size] else [] := by
  have older : (List.range walk.tree.size).filter
      (fun child => (walk.enter kind creator).tree.parent? child == some id) =
        walk.tree.inside id := by
    apply List.filter_congr
    intro child inTree
    rw [(enter_extends walk kind creator).parent? (List.mem_range.mp inTree)]
  unfold ScopeTree.inside at older ⊢
  rw [size_enter, List.range_succ, List.filter_append, older, List.filter_singleton,
    parent?_enter]
  simp only [cond_eq_ite, beq_iff_eq, Option.some.injEq]

private theorem ancestors_enter (valid : walk.Valid) {id : ScopeId} (known : id < walk.tree.size) :
    (walk.enter kind creator).tree.ancestors id = walk.tree.ancestors id :=
  (enter_extends walk kind creator).ancestors valid.tree (enter_valid valid kind creator).tree id
    known

private theorem ancestors_entered (valid : walk.Valid) :
    (walk.enter kind creator).tree.ancestors walk.tree.size =
      walk.tree.size :: walk.tree.ancestors walk.current := by
  rw [ScopeTree.ancestors_of_parent (enter_valid valid kind creator).tree
    (parent?_enter walk kind creator), ancestors_enter kind creator valid valid.current]

end Enter

namespace Shaped

/-- Where no scope starts and the walk does not go deeper, the shape stays. -/
theorem keep (shaped : walk.Shaped) (valid : walk.Valid) {event : Event}
    (starts : ∀ kind creator, event ≠ .enter kind creator)
    (outward : (walk.step event).current ∈ walk.tree.ancestors walk.current) :
    (walk.step event).Shaped := by
  have grown := step_extends walk event
  have laterValid := (step_valid valid event).tree
  have size : (walk.step event).tree.size = walk.tree.size := by
    rw [size_step]
    cases event with
    | enter kind creator => exact absurd rfl (starts kind creator)
    | _ => rfl
  have parents := grown.parent?_eq size
  have ancestors {id : Nat} (known : id < walk.tree.size) :
      (walk.step event).tree.ancestors id = walk.tree.ancestors id :=
    grown.ancestors valid.tree laterValid id known
  refine ⟨?_, ?_, ?_, ?_⟩
  · intro id
    have children := childrenOf_step valid event id
    have nothing : (walk.step event).tree.childrenOf id = walk.tree.childrenOf id := by
      rw [children]
      cases event with
      | enter kind creator => exact absurd rfl (starts kind creator)
      | _ => exact List.append_nil _
    unfold ScopeTree.inside
    rw [nothing, shaped.children, size, parents]
    rfl
  · rw [size, parents]
    exact shaped.parented
  · rw [size]
    intro id known
    obtain ⟨last, within, range⟩ := shaped.ranges id known
    refine ⟨last, within, fun inner innerKnown => ?_⟩
    rw [ancestors innerKnown]
    exact range inner innerKnown
  · rw [size]
    intro id around inner after innerKnown
    have currentKnown := Nat.lt_of_le_of_lt
      (ScopeTree.le_of_mem_ancestors valid.tree walk.current outward) valid.current
    rw [ancestors currentKnown] at around
    rw [ancestors innerKnown]
    exact shaped.unended id (ScopeTree.ancestors_subset valid.tree _ outward around) inner after
      innerKnown

section Enter

variable (shaped : walk.Shaped) (valid : walk.Valid) (kind : ScopeKind) (creator : NodeId)

include shaped valid

private theorem enter_unended {id : ScopeId}
    (around : id ∈ (walk.enter kind creator).tree.ancestors walk.tree.size) {inner : ScopeId}
    (after : id ≤ inner) (known : inner < walk.tree.size + 1) :
    id ∈ (walk.enter kind creator).tree.ancestors inner := by
  rcases Nat.lt_succ_iff_lt_or_eq.mp known with before | newest
  · rw [ancestors_entered kind creator valid] at around
    rw [ancestors_enter kind creator valid before]
    rcases List.mem_cons.mp around with itself | further
    · rw [itself] at after
      exact absurd before (Nat.not_lt_of_le after)
    · exact shaped.unended id further inner after before
  · rw [newest]
    exact around

/-- The range of a scope that has not ended goes on up to the new scope; other ranges stay. -/
theorem enter_ranges {id : ScopeId} (known : id < walk.tree.size + 1) :
    ∃ last, last ≤ walk.tree.size + 1 ∧ ∀ inner, inner < walk.tree.size + 1 →
      (id ∈ (walk.enter kind creator).tree.ancestors inner ↔ id ≤ inner ∧ inner < last) := by
  have laterValid := (enter_valid valid kind creator).tree
  by_cases around : id ∈ (walk.enter kind creator).tree.ancestors walk.tree.size
  · refine ⟨walk.tree.size + 1, Nat.le_refl _, fun inner innerKnown => ⟨fun within => ?_, ?_⟩⟩
    · exact ⟨ScopeTree.le_of_mem_ancestors laterValid inner within, innerKnown⟩
    · exact fun range => enter_unended shaped valid kind creator around range.1 innerKnown
  · have old : id < walk.tree.size := by
      refine Nat.lt_of_le_of_ne (Nat.le_of_lt_succ known) fun newest => around ?_
      rw [newest]
      exact ScopeTree.mem_ancestors_self laterValid _
    obtain ⟨last, within, range⟩ := shaped.ranges id old
    refine ⟨last, Nat.le_succ_of_le within, fun inner innerKnown => ?_⟩
    rcases Nat.lt_succ_iff_lt_or_eq.mp innerKnown with before | newest
    · rw [ancestors_enter kind creator valid before]
      exact range inner before
    · rw [newest]
      exact ⟨fun inside => absurd inside around,
        fun inRange => absurd inRange.2 (Nat.not_lt_of_le within)⟩

theorem enter : (walk.enter kind creator).Shaped := by
  refine ⟨?_, ?_, ?_, ?_⟩
  · intro id
    have children : (walk.enter kind creator).tree.childrenOf id = _ :=
      childrenOf_step valid (.enter kind creator) id
    rw [children, shaped.children, inside_enter]
  · intro id positive inTree
    rw [size_enter] at inTree
    rcases Nat.lt_succ_iff_lt_or_eq.mp inTree with old | newest
    · rw [(enter_extends walk kind creator).parent? old]
      exact shaped.parented id positive old
    · rw [newest]
      exact ⟨_, parent?_enter walk kind creator⟩
  · rw [size_enter]
    exact fun id known => enter_ranges shaped valid kind creator known
  · rw [size_enter]
    exact fun id around inner after known =>
      enter_unended shaped valid kind creator around after known

end Enter

theorem step (shaped : walk.Shaped) (valid : walk.Valid) (event : Event) :
    (walk.step event).Shaped := by
  have here := ScopeTree.mem_ancestors_self valid.tree walk.current
  cases event with
  | enter kind creator => exact shaped.enter valid kind creator
  | leave =>
      refine shaped.keep valid ?_ ?_
      · exact fun _ _ => nofun
      · change (walk.tree.parent? walk.current).getD ScopeTree.root ∈ _
        cases above : walk.tree.parent? walk.current with
        | none =>
            rcases Nat.eq_zero_or_pos walk.current with outermost | positive
            · rw [outermost] at here ⊢
              exact here
            · obtain ⟨parent, known⟩ := shaped.parented walk.current positive valid.current
              rw [above] at known
              cases known
        | some parent =>
            rw [ScopeTree.ancestors_of_parent valid.tree above]
            exact List.mem_cons_of_mem _ (ScopeTree.mem_ancestors_self valid.tree parent)
  | node mark => exact shaped.keep valid (fun _ _ => nofun) here
  | declare target name definition => exact shaped.keep valid (fun _ _ => nofun) here
  | refer node name => exact shaped.keep valid (fun _ _ => nofun) here
  | returns node => exact shaped.keep valid (fun _ _ => nofun) here
  | «variables» declaration => exact shaped.keep valid (fun _ _ => nofun) here

theorem run (shaped : walk.Shaped) (valid : walk.Valid) (events : List Event) :
    (walk.run events).Shaped := by
  induction events generalizing walk with
  | nil => exact shaped
  | cons event rest ih => exact ih (shaped.step valid event) (step_valid valid event)

end Shaped

end Walk

private theorem ScopeTree.ancestors_getLast? {tree : ScopeTree} (valid : tree.Valid)
    (parented : ∀ id, 0 < id → id < tree.size → ∃ parent, tree.parent? id = some parent)
    (id : Nat) (known : id < tree.size) : (tree.ancestors id).getLast? = some root := by
  induction id using Nat.strongRecOn with
  | ind id ih =>
      rcases Nat.eq_zero_or_pos id with outermost | positive
      · subst outermost
        have alone := ancestors_root valid
        unfold root at alone
        rw [alone]
        rfl
      · obtain ⟨parent, above⟩ := parented id positive known
        have smaller : parent < id := valid.parent_lt above
        have further := ih parent smaller (Nat.lt_trans smaller known)
        rw [ancestors_of_parent valid above, List.getLast?_cons, further]
        rfl

/-! ### Makers of scopes -/

section Makers

variable {program : Program}

theorem scopeMakers_noted (program : Program) :
    (programNoted program).filterMap makes = (scopeMakers program).map (·.1) := by
  rw [filterMap_programNoted fun _ _ _ _ => rfl, scopeMakers, List.map_filterMap]
  apply List.filterMap_congr
  rintro ⟨around, construct⟩ _
  cases construct <;> rfl

theorem scopeMakers_once (unique : UniqueNodes program) :
    ((scopeMakers program).map (·.1)).Nodup := by
  rw [← scopeMakers_noted, programNoted, ← creators_eq_noted]
  exact (creators_sublist_claimed _).nodup unique.claimed

/-- The scopes other than the module's are those of the makers, in the order of the syntax tree. -/
theorem bind_created_makers (program : Program) :
    (bind program).created.reverse = ((scopeMakers program).map (·.1)).zipIdx 1 ∧
      (bind program).size = (scopeMakers program).length + 1 := by
  have created := bind_created program
  rw [scopeMakers_noted, List.length_map] at created
  exact created

private theorem mem_created_iff {maker : NodeId} {id : ScopeId} :
    (maker, id) ∈ (bind program).created ↔
      ∃ index, id = index + 1 ∧ ((scopeMakers program).map (·.1))[index]? = some maker := by
  rw [← List.mem_reverse, (bind_created_makers program).1, List.mem_iff_getElem?]
  constructor
  · rintro ⟨index, found⟩
    rw [List.getElem?_zipIdx] at found
    obtain ⟨made, here, same⟩ := Option.map_eq_some_iff.mp found
    cases same
    exact ⟨index, Nat.add_comm 1 index, here⟩
  · rintro ⟨index, rfl, found⟩
    refine ⟨index, ?_⟩
    rw [List.getElem?_zipIdx, found, Option.map_some, Nat.add_comm]

theorem created_bounds {maker : NodeId} {id : ScopeId}
    (created : (maker, id) ∈ (bind program).created) :
    maker ∈ (scopeMakers program).map (·.1) ∧ ScopeTree.root < id ∧ id < (bind program).size := by
  obtain ⟨index, rfl, found⟩ := mem_created_iff.mp created
  have within := (List.getElem?_eq_some_iff.mp found).1
  rw [List.length_map] at within
  refine ⟨List.mem_of_getElem? found, Nat.succ_pos index, ?_⟩
  rw [(bind_created_makers program).2]
  exact Nat.succ_lt_succ within

theorem exists_created {maker : NodeId} (present : maker ∈ (scopeMakers program).map (·.1)) :
    ∃ id, (maker, id) ∈ (bind program).created := by
  obtain ⟨index, found⟩ := List.getElem?_of_mem present
  exact ⟨_, mem_created_iff.mpr ⟨index, rfl, found⟩⟩

private theorem exists_maker {id : ScopeId} (inner : ScopeTree.root < id)
    (known : id < (bind program).size) :
    ∃ maker, (maker, id) ∈ (bind program).created := by
  obtain ⟨index, rfl⟩ := Nat.exists_eq_add_one_of_ne_zero (Nat.ne_of_gt inner)
  have within : index < ((scopeMakers program).map (·.1)).length := by
    rw [List.length_map]
    rw [(bind_created_makers program).2] at known
    exact Nat.lt_of_succ_lt_succ known
  exact ⟨_, mem_created_iff.mpr ⟨index, rfl, List.getElem?_eq_getElem within⟩⟩

private theorem created_once {maker other : NodeId} {id : ScopeId}
    (created : (maker, id) ∈ (bind program).created)
    (also : (other, id) ∈ (bind program).created) : maker = other := by
  obtain ⟨index, rfl, found⟩ := mem_created_iff.mp created
  obtain ⟨position, same, alsoFound⟩ := mem_created_iff.mp also
  obtain rfl := Nat.succ.inj same
  exact Option.some.inj (found.symm.trans alsoFound)

theorem maker_eq {maker other : NodeId} {id : ScopeId}
    (made : (bind program).createdBy? maker = some id)
    (alsoMade : (bind program).createdBy? other = some id) : maker = other :=
  created_once (Table.mem_of_lookup made) (Table.mem_of_lookup alsoMade)

theorem createdBy?_root (maker : NodeId) :
    (bind program).createdBy? maker ≠ some ScopeTree.root := by
  intro made
  exact Nat.lt_irrefl _ (created_bounds (Table.mem_of_lookup made)).2.1

private theorem scope_kind (unique : UniqueNodes program) {maker : NodeId} {kind : ScopeKind}
    (present : (maker, kind) ∈ scopeMakers program) :
    ∃ id scope, (bind program).createdBy? maker = some id ∧
      (bind program).scope? id = some scope ∧ scope.kind = kind := by
  obtain ⟨⟨around, construct⟩, inProgram, made⟩ := List.mem_filterMap.mp present
  have starts : (openScopes around, Event.enter kind maker) ∈
      (⟨around, construct⟩ : Site).noted := by
    cases construct with
    | block statement => cases made; exact List.mem_cons_self
    | switch mark => cases made; exact List.mem_cons_self
    | catchClause clause => cases made; exact List.mem_cons_self
    | function function => cases made; exact List.mem_cons_self
    | namedFunction mark name function => cases made; exact List.mem_cons_self
    | _ => cases made
  obtain ⟨walk, rest, passes, _⟩ := (Passes.whole program).of_mem_noted unique (.start program)
    (mem_programNoted inProgram starts)
  have fresh : (walk.step (.enter kind maker)).tree.scope? walk.tree.size =
      some (.fresh walk.tree.size (some walk.current) kind) := by
    change (walk.enter kind maker).tree.scope? _ = _
    rw [Walk.scope?_enter, if_pos rfl]
  obtain ⟨scope, found, grows⟩ := passes.step.grown.scopes _ _ fresh
  exact ⟨_, scope, Reaches.createdBy?_enter unique passes, found, grows.kind⟩

end Makers

/-! ### Uses of names -/

def Construct.use? : Construct → Option Reference
  | .identifier mark name => some ⟨mark.id, name⟩
  | _ => none

def programReferences (program : Program) : List Reference :=
  (programSites program).filterMap (·.construct.use?)

section Uses

variable {program : Program}

/-- The scope that is noted for an identifier is the innermost around it, and one of the tree's. -/
theorem enclosing?_identifier (unique : UniqueNodes program) {around : List Nesting} {mark : Mark}
    {name : String} (present : ⟨around, .identifier mark name⟩ ∈ programSites program) :
    (bind program).enclosing? mark.id = some ((bind program).innermost (openScopes around)) ∧
      (bind program).innermost (openScopes around) < (bind program).size := by
  have known : (openScopes around, Event.refer mark.id name) ∈ programNoted program :=
    mem_programNoted present List.mem_cons_self
  constructor
  · apply unique.enclosing?
    rw [bind_enclosing unique, List.mem_reverse]
    exact List.mem_filterMap.mpr ⟨_, known, rfl⟩
  · obtain ⟨walk, rest, passes, reaches⟩ :=
      (Passes.whole program).of_mem_noted unique (.start program) known
    rw [← reaches.current]
    exact Nat.lt_of_lt_of_le passes.valid.current passes.grown.size_le

private theorem referencesOf_eq (unique : UniqueNodes program) (id : ScopeId) :
    (bind program).referencesOf id = (programReferences program).filter fun reference =>
      (bind program).enclosing? reference.node == some id := by
  rw [bind_referencesOf unique, filterMap_programNoted fun _ _ _ _ => rfl, programReferences,
    List.filter_filterMap]
  apply List.filterMap_congr
  rintro ⟨around, construct⟩ inProgram
  cases construct with
  | identifier mark name =>
      have noted := (enclosing?_identifier unique inProgram).1
      simp [Site.marker?, ScopeTree.used, Construct.use?, Option.filter, noted]
  | _ => rfl

private theorem programReferences_once (unique : UniqueNodes program) :
    ((programReferences program).map (·.node)).Nodup := by
  have keys := Walk.run_enclosing .start (programEvents program)
  change (bind program).enclosing.map (·.1) = (located (programEvents program)).reverse ++ []
    at keys
  rw [bind_enclosing unique, List.append_nil, List.map_reverse, List.reverse_inj,
    filterMap_programNoted fun _ _ _ _ => rfl, List.map_filterMap] at keys
  have every : ((programSites program).filterMap fun site =>
      (site.marker?.bind (bind program).locates).map (·.1)).Nodup := by
    rw [keys]
    exact (located_sublist_claimed _).nodup unique.claimed
  -- Identifiers are some of the sites whose scope is noted.
  have some_ : (programReferences program).map (·.node) =
      ((programSites program).filter fun site => site.construct.use?.isSome).filterMap fun site =>
        (site.marker?.bind (bind program).locates).map (·.1) := by
    rw [programReferences, List.map_filterMap, List.filterMap_filter]
    apply List.filterMap_congr
    rintro ⟨around, construct⟩ _
    cases construct <;> rfl
  rw [some_]
  exact (List.filter_sublist.filterMap _).nodup every

end Uses

/-! ### Well-formed trees -/

/-- The scopes of a tree are numbered from the outside in, and children and parents agree. -/
structure ScopeTree.Arranged (tree : ScopeTree) : Prop where
  numbered : ∀ id scope, tree.scope? id = some scope → scope.id = id
  outermost : ∀ id, id < tree.size → (tree.parent? id = none ↔ id = root)
  parents : ∀ id parent, tree.parent? id = some parent → parent < id
  children : ∀ id child, (tree.childrenOf id).count child =
    if tree.parent? child = some id then 1 else 0
  ascending : ∀ id, (tree.childrenOf id).Pairwise (· < ·)
  /-- The scopes inside a scope, itself included, have numbers in a row. -/
  descendants : ∀ id, id < tree.size → ∃ last, id < last ∧ last ≤ tree.size ∧ ∀ inner,
    inner < tree.size ∧ id ∈ tree.ancestors inner ↔ id ≤ inner ∧ inner < last
  outward : ∀ id, id < tree.size → (tree.ancestors id).getLast? = some root

/-- All scopes of a program and all uses of names in it are recorded, and each once. -/
structure ScopeTree.Records (tree : ScopeTree) (program : Program) : Prop where
  made : ∀ maker id, (maker, id) ∈ tree.created →
    maker ∈ (scopeMakers program).map (·.1) ∧ root < id ∧ id < tree.size
  oneScope : ∀ maker ∈ (scopeMakers program).map (·.1), ∃! id, (maker, id) ∈ tree.created
  oneMaker : ∀ id, root < id → id < tree.size → ∃! maker, (maker, id) ∈ tree.created
  kinds : ∀ maker kind, (maker, kind) ∈ scopeMakers program → ∀ id scope,
    (maker, id) ∈ tree.created → tree.scope? id = some scope → scope.kind = kind
  located : ∀ reference ∈ programReferences program,
    ∃ id, tree.enclosing? reference.node = some id ∧ id < tree.size
  references : ∀ id, tree.referencesOf id = (programReferences program).filter fun reference =>
    tree.enclosing? reference.node == some id
  oneUse : ∀ reference ∈ programReferences program, ∀ id,
    (tree.referencesOf id).count reference =
      if tree.enclosing? reference.node = some id then 1 else 0

private theorem bind_arranged (program : Program) : (bind program).Arranged := by
  have valid := bind_valid program
  have shaped : (Walk.start.run (programEvents program)).Shaped :=
    Walk.start_shaped.run Walk.start_valid _
  have children : ∀ id, (bind program).childrenOf id = (bind program).inside id := shaped.children
  have ascending (id : ScopeId) : ((bind program).childrenOf id).Pairwise (· < ·) := by
    rw [children]
    exact (bind program).inside_ascending id
  refine ⟨valid.ids, ?_, fun _ _ above => valid.parent_lt above, ?_, ascending, ?_, ?_⟩
  · intro id known
    constructor
    · intro none
      by_contra inner
      obtain ⟨parent, above⟩ := shaped.parented id (Nat.pos_of_ne_zero inner) known
      exact absurd (none.symm.trans above) nofun
    · rintro rfl
      exact ScopeTree.parent?_root valid
  · intro id child
    have once : ((bind program).childrenOf id).Nodup := (ascending id).imp Nat.ne_of_lt
    rw [once.count, children]
    exact if_congr ScopeTree.mem_inside rfl rfl
  · intro id known
    obtain ⟨last, within, range⟩ := shaped.ranges id known
    have itself := (range id known).mp (ScopeTree.mem_ancestors_self valid id)
    refine ⟨last, itself.2, within, fun inner => ⟨fun inside => ?_, fun inRange => ?_⟩⟩
    · exact (range inner inside.1).mp inside.2
    · have innerKnown := Nat.lt_of_lt_of_le inRange.2 within
      exact ⟨innerKnown, (range inner innerKnown).mpr inRange⟩
  · exact ScopeTree.ancestors_getLast? valid shaped.parented

private theorem bind_records {program : Program} (unique : UniqueNodes program) :
    (bind program).Records program := by
  refine ⟨fun _ _ => created_bounds, ?_, ?_, ?_, ?_, referencesOf_eq unique, ?_⟩
  · intro maker present
    obtain ⟨id, created⟩ := exists_created present
    refine ⟨id, created, fun other another => ?_⟩
    exact Option.some.inj ((unique.createdBy? another).symm.trans (unique.createdBy? created))
  · intro id inner known
    obtain ⟨maker, created⟩ := exists_maker inner known
    exact ⟨maker, created, fun other another => created_once another created⟩
  · intro maker kind present id scope created found
    obtain ⟨made, its, createdBy, inTree, sameKind⟩ := scope_kind unique present
    rw [unique.createdBy? created] at createdBy
    cases createdBy
    rw [found] at inTree
    cases inTree
    exact sameKind
  · intro reference present
    obtain ⟨⟨around, construct⟩, inProgram, used⟩ := List.mem_filterMap.mp present
    cases construct with
    | identifier mark name =>
        cases used
        exact ⟨_, enclosing?_identifier unique inProgram⟩
    | _ => cases used
  · intro reference present id
    have once : (programReferences program).Nodup :=
      List.Nodup.of_map _ (programReferences_once unique)
    rw [referencesOf_eq unique, List.Nodup.count (once.filter _)]
    apply if_congr _ rfl rfl
    rw [List.mem_filter, beq_iff_eq]
    exact ⟨And.right, fun located => ⟨present, located⟩⟩

/-- The scopes of a program make a tree, numbered in the order of the syntax tree, with exactly one
scope for each node that makes one, and each identifier is a use of exactly one of them. -/
theorem bind_wellFormed {program : Program} (unique : UniqueNodes program) :
    (bind program).Arranged ∧ (bind program).Records program :=
  ⟨bind_arranged program, bind_records unique⟩

def branchingProgram : Program :=
  let use (id : NodeId) (name : String) : Stmt :=
    .expression ⟨id, .nowhere⟩ (.identifier ⟨id + 1, .nowhere⟩ name)
  ⟨⟨1, .nowhere⟩,
    [.block ⟨⟨2, .nowhere⟩, [.block ⟨⟨3, .nowhere⟩, [use 4 "first"]⟩]⟩,
      .block ⟨⟨6, .nowhere⟩, [use 7 "second"]⟩], ⟨[]⟩⟩

theorem branchingProgram_wellFormed :
    (bind branchingProgram).childrenOf 0 = [1, 3] ∧
      (bind branchingProgram).ancestors 2 = [2, 1, 0] ∧
      (bind branchingProgram).Arranged ∧ (bind branchingProgram).Records branchingProgram :=
  ⟨rfl, rfl, bind_wellFormed (by decide +kernel)⟩

end QueryTypes.Scoping
