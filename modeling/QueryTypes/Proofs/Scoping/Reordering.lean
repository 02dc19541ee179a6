import Mathlib.Data.List.Forall2
import QueryTypes.Proofs.Scoping.Declarations
import QueryTypes.Proofs.Scoping.TreeShape

/-!
The scopes of a program whose statements are put in another order.

Scopes get other numbers then, but each node still makes a scope of its own, so scopes can be told
by their makers. What is noted inside a statement stays in its order. So a scope that is inside a
statement has the same definitions as before, and so has that of the module if it has at most one
for each name.
-/

set_option autoImplicit false

namespace QueryTypes.Scoping

open QueryTypes.Script

/-! ### Trees that agree -/

namespace ScopeTree

def SameScope (before after : ScopeTree) (scope other : ScopeId) : Prop :=
  (scope = root ∧ other = root) ∨
    ∃ maker, before.createdBy? maker = some scope ∧ after.createdBy? maker = some other

structure SameVariable (before after : ScopeTree) (known other : Variable) : Prop where
  name : other.name = known.name
  scope : before.SameScope after known.scope other.scope
  definitions : other.definitions = known.definitions

/-- All that lookup and the tables give is the same in both trees, up to the numbers of scopes. -/
structure Agrees (before after : ScopeTree) : Prop where
  unique : Relator.BiUnique (before.SameScope after)
  created : ∀ node, Option.Rel (before.SameScope after) (before.createdBy? node)
    (after.createdBy? node)
  enclosing : ∀ node, Option.Rel (before.SameScope after) (before.enclosing? node)
    (after.enclosing? node)
  declared : ∀ scope other, before.SameScope after scope other → ∀ name,
    Option.Rel (before.SameVariable after) (before.declared? scope name)
      (after.declared? other name)
  lookup : ∀ scope other, before.SameScope after scope other → ∀ name,
    Option.Rel (before.SameVariable after) (before.lookup scope name) (after.lookup other name)

theorem sameScope_root (before after : ScopeTree) : before.SameScope after root root :=
  .inl ⟨rfl, rfl⟩

def SinglyDefined (tree : ScopeTree) : Prop :=
  ∀ scope ∈ tree.scope? root, ∀ known ∈ scope.variables, known.definitions.length = 1

instance (tree : ScopeTree) : Decidable tree.SinglyDefined :=
  inferInstanceAs (Decidable (∀ scope ∈ tree.scope? root, ∀ known ∈ scope.variables,
    known.definitions.length = 1))

private theorem SinglyDefined.length_eq_one {tree : ScopeTree} (single : tree.SinglyDefined)
    {name : String} {known : Variable} (declared : tree.declared? root name = some known) :
    known.definitions.length = 1 := by
  obtain ⟨scope, held, found⟩ := Option.bind_eq_some_iff.mp declared
  exact single scope held known (List.mem_of_find?_eq_some found)

end ScopeTree

private theorem findSome?_rel {First Second Left Right : Type} {related : First → Second → Prop}
    {results : Left → Right → Prop} {left : First → Option Left} {right : Second → Option Right}
    (each : ∀ first second, related first second → Option.Rel results (left first) (right second))
    {firsts : List First} {seconds : List Second} (all : List.Forall₂ related firsts seconds) :
    Option.Rel results (firsts.findSome? left) (seconds.findSome? right) := by
  induction all with
  | nil => exact .none
  | @cons first second _ _ here _ ih =>
      rw [List.findSome?_cons, List.findSome?_cons]
      have found := each first second here
      cases given : left first <;> cases other : right second <;> rw [given, other] at found
      · exact ih
      · cases found
      · cases found
      · exact found

/-! ### What is noted -/

private theorem noted_stmtsEvents (opened : List OpenScope) (body : List Stmt) :
    noted opened (stmtsEvents body) = body.flatMap fun statement =>
      noted opened (stmtEvents statement) := by
  induction body with
  | nil =>
      rw [stmtsEvents]
      rfl
  | cons first rest ih =>
      rw [stmtsEvents, (stmtEvents_bracketed first).noted_append, ih, List.flatMap_cons]

private theorem programNoted_eq (program : Program) :
    programNoted program = program.body.flatMap fun statement => noted [] (stmtEvents statement) :=
  noted_stmtsEvents [] program.body

private theorem nodeIds_stmtsEvents (body : List Stmt) :
    nodeIds (stmtsEvents body) = body.flatMap fun statement => nodeIds (stmtEvents statement) := by
  induction body with
  | nil =>
      rw [stmtsEvents]
      rfl
  | cons first rest ih => rw [stmtsEvents, nodeIds_append, ih, List.flatMap_cons]

/-- A scope that is open where something is noted was open before or starts on the way. -/
theorem mem_creators_of_noted {opened inner : List OpenScope} {events : List Event} {event : Event}
    (present : (inner, event) ∈ noted opened events) {scope : OpenScope} (isOpen : scope ∈ inner) :
    scope ∈ opened ∨ scope.maker ∈ creators events := by
  induction events generalizing opened with
  | nil => cases present
  | cons first rest ih =>
      rw [noted] at present
      have later (further : (inner, event) ∈ noted (first.opens opened) rest) :
          scope ∈ opened ∨ scope.maker ∈ creators (first :: rest) := by
        rcases ih further with before | starts
        · cases first with
          | enter kind creator =>
              rcases List.mem_cons.mp before with same | outer
              · rw [same]
                exact .inr List.mem_cons_self
              · exact .inl outer
          | leave => exact .inl (List.mem_of_mem_tail before)
          | node _ => exact .inl before
          | declare _ _ _ => exact .inl before
          | refer _ _ => exact .inl before
          | returns _ => exact .inl before
          | «variables» _ => exact .inl before
        · have split : creators (first :: rest) = creators [first] ++ creators rest :=
            List.filterMap_append (l := [first])
          rw [split]
          exact .inr (List.mem_append_right _ starts)
      split at present
      · rcases List.mem_cons.mp present with same | further
        · cases same
          exact .inl isOpen
        · exact later further
      · exact later present

private theorem flatMap_eq_of_perm {Item Part : Type} {parts : Item → List Part}
    {items others : List Item} (perm : items.Perm others)
    (apart : items.Pairwise fun first second => parts first = [] ∨ parts second = []) :
    items.flatMap parts = others.flatMap parts := by
  induction perm with
  | nil => rfl
  | cons item _ ih => rw [List.flatMap_cons, List.flatMap_cons, ih apart.of_cons]
  | swap first second rest =>
      simp only [List.flatMap_cons, ← List.append_assoc]
      rcases List.rel_of_pairwise_cons apart List.mem_cons_self with nothing | nothing
      · rw [nothing, List.append_nil, List.nil_append]
      · rw [nothing, List.append_nil, List.nil_append]
  | trans early _ earlyIh lateIh =>
      exact (earlyIh apart).trans (lateIh (early.pairwise apart fun either => either.symm))

section Reordered

variable {before after : Program}

private theorem programNoted_perm (perm : before.body.Perm after.body) :
    (programNoted before).Perm (programNoted after) := by
  rw [programNoted_eq, programNoted_eq]
  exact perm.flatMap_right _

theorem UniqueNodes.reordered (unique : UniqueNodes before) (mark : after.mark = before.mark)
    (perm : before.body.Perm after.body) : UniqueNodes after := by
  have nodes (program : Program) : nodeIds (programEvents program) =
      program.mark.id :: program.body.flatMap fun statement => nodeIds (stmtEvents statement) := by
    rw [← nodeIds_stmtsEvents]
    rfl
  unfold UniqueNodes at unique ⊢
  rw [nodes] at unique ⊢
  rw [mark]
  exact ((perm.flatMap_right _).cons _).nodup_iff.mp unique

end Reordered

/-! ### Scopes by their makers -/

section Makers

variable {program : Program}

private theorem exists_createdBy?_iff (unique : UniqueNodes program) {maker : NodeId} :
    (∃ id, (bind program).createdBy? maker = some id) ↔
      maker ∈ (programNoted program).filterMap makes := by
  rw [scopeMakers_noted]
  constructor
  · rintro ⟨id, created⟩
    exact (created_bounds (Table.mem_of_lookup created)).1
  · intro present
    obtain ⟨id, created⟩ := exists_created present
    exact ⟨id, unique.createdBy? created⟩

/-- A scope that some open one or the module's is, and that a node made, is that of the node. -/
theorem open_of_maker {opened inner : List OpenScope} (opens : (bind program).Opens opened)
    (within : inner ⊆ opened) {maker : NodeId}
    (made : (bind program).createdBy? maker = some ((bind program).innermost inner)) :
    ∃ scope ∈ opened, scope.maker = maker := by
  cases inner with
  | nil => exact absurd made (createdBy?_root maker)
  | cons scope outer =>
      have isOpen := within List.mem_cons_self
      exact ⟨scope, isOpen, maker_eq (opens.made scope isOpen) made⟩

private theorem open_of_target {opened : List OpenScope} (opens : (bind program).Opens opened)
    {target : Target} {maker : NodeId}
    (made : (bind program).createdBy? maker = some ((bind program).target opened target)) :
    ∃ scope ∈ opened, scope.maker = maker := by
  cases target with
  | current => exact open_of_maker opens (List.Subset.refl _) made
  | closure => exact open_of_maker opens (List.dropWhile_sublist _).subset made
  | module => exact absurd made (createdBy?_root maker)

/-- Where a node stands is noted where the walk comes to it. -/
theorem enclosing?_eq_some_iff (unique : UniqueNodes program) {node : NodeId} {scope : ScopeId} :
    (bind program).enclosing? node = some scope ↔
      ∃ entry ∈ programNoted program, (bind program).locates entry = some (node, scope) := by
  rw [← List.mem_filterMap, ← List.mem_reverse, ← bind_enclosing unique]
  exact ⟨Table.mem_of_lookup, unique.enclosing?⟩

end Makers

private theorem locates_other {tree : ScopeTree} (other : ScopeTree) {opened : List OpenScope}
    {event : Event} {node : NodeId} {scope : ScopeId}
    (located : tree.locates (opened, event) = some (node, scope)) :
    scope = tree.innermost opened ∧
      other.locates (opened, event) = some (node, other.innermost opened) := by
  cases event with
  | refer id name => cases located; exact ⟨rfl, rfl⟩
  | returns id => cases located; exact ⟨rfl, rfl⟩
  | «variables» declaration => cases located; exact ⟨rfl, rfl⟩
  | _ => cases located

structure Reordered (before after : Program) : Prop where
  unique : UniqueNodes before
  alsoUnique : UniqueNodes after
  perm : before.body.Perm after.body

namespace Reordered

variable {before after : Program}

theorem noted (reordered : Reordered before after) :
    (programNoted before).Perm (programNoted after) := programNoted_perm reordered.perm

theorem createdBy? (reordered : Reordered before after) (maker : NodeId) :
    Option.Rel ((bind before).SameScope (bind after)) ((bind before).createdBy? maker)
      ((bind after).createdBy? maker) := by
  have both : (∃ id, (bind before).createdBy? maker = some id) ↔
      ∃ id, (bind after).createdBy? maker = some id := by
    rw [exists_createdBy?_iff reordered.unique, exists_createdBy?_iff reordered.alsoUnique,
      (reordered.noted.filterMap _).mem_iff]
  cases made : (bind before).createdBy? maker with
  | some scope =>
      obtain ⟨other, alsoMade⟩ := both.mp ⟨scope, made⟩
      rw [alsoMade]
      exact .some (.inr ⟨maker, made, alsoMade⟩)
  | none =>
      cases alsoMade : (bind after).createdBy? maker with
      | none => exact .none
      | some other =>
          obtain ⟨scope, impossible⟩ := both.mpr ⟨other, alsoMade⟩
          rw [made] at impossible
          cases impossible

private theorem sameScope_biUnique (before after : Program) :
    Relator.BiUnique ((bind before).SameScope (bind after)) := by
  refine ⟨?_, ?_⟩
  · rintro scope other common (⟨rfl, rfl⟩ | ⟨maker, made, alsoMade⟩)
      (⟨rfl, same⟩ | ⟨maker', made', alsoMade'⟩)
    · rfl
    · exact absurd alsoMade' (createdBy?_root maker')
    · rw [same] at alsoMade
      exact absurd alsoMade (createdBy?_root maker)
    · obtain rfl := maker_eq alsoMade alsoMade'
      exact Option.some.inj (made.symm.trans made')
  · rintro common scope other (⟨rfl, rfl⟩ | ⟨maker, made, alsoMade⟩)
      (⟨same, rfl⟩ | ⟨maker', made', alsoMade'⟩)
    · rfl
    · exact absurd made' (createdBy?_root maker')
    · rw [same] at made
      exact absurd made (createdBy?_root maker)
    · obtain rfl := maker_eq made made'
      exact Option.some.inj (alsoMade.symm.trans alsoMade')

section Opened

variable {opened inner : List OpenScope} {event : Event}

theorem alsoNoted (reordered : Reordered before after)
    (present : (opened, event) ∈ programNoted before) : (opened, event) ∈ programNoted after :=
  reordered.noted.mem_iff.mp present

private theorem sameScope_made (opens : (bind before).Opens opened)
    (alsoOpens : (bind after).Opens opened) {scope : OpenScope} (isOpen : scope ∈ opened) :
    (bind before).SameScope (bind after) ((bind before).scopeOf scope.maker)
      ((bind after).scopeOf scope.maker) :=
  .inr ⟨scope.maker, opens.made scope isOpen, alsoOpens.made scope isOpen⟩

private theorem sameScope_innermost (opens : (bind before).Opens opened)
    (alsoOpens : (bind after).Opens opened) (within : inner ⊆ opened) :
    (bind before).SameScope (bind after) ((bind before).innermost inner)
      ((bind after).innermost inner) := by
  cases inner with
  | nil => exact ScopeTree.sameScope_root _ _
  | cons scope outer => exact sameScope_made opens alsoOpens (within List.mem_cons_self)

private theorem sameScope_target (reordered : Reordered before after)
    (present : (opened, event) ∈ programNoted before) (target : Target) :
    (bind before).SameScope (bind after) ((bind before).target opened target)
      ((bind after).target opened target) := by
  have opens := opens_of_mem_noted reordered.unique present
  have alsoOpens := opens_of_mem_noted reordered.alsoUnique (reordered.alsoNoted present)
  cases target with
  | current => exact sameScope_innermost opens alsoOpens (List.Subset.refl _)
  | closure => exact sameScope_innermost opens alsoOpens (List.dropWhile_sublist _).subset
  | module => exact ScopeTree.sameScope_root _ _

end Opened

theorem ancestors (reordered : Reordered before after) {scope other : ScopeId}
    (same : (bind before).SameScope (bind after) scope other) :
    List.Forall₂ ((bind before).SameScope (bind after)) ((bind before).ancestors scope)
      ((bind after).ancestors other) := by
  have root := ScopeTree.sameScope_root (bind before) (bind after)
  rcases same with ⟨rfl, rfl⟩ | ⟨maker, made, alsoMade⟩
  · rw [ScopeTree.ancestors_root (bind_valid before), ScopeTree.ancestors_root (bind_valid after)]
    exact .cons root .nil
  · have makes : maker ∈ (programNoted before).filterMap Scoping.makes :=
      (exists_createdBy?_iff reordered.unique).mp ⟨scope, made⟩
    obtain ⟨⟨opened, event⟩, present, its⟩ := List.mem_filterMap.mp makes
    cases event with
    | enter kind creator =>
        cases its
        have opens := opens_of_enter reordered.unique present
        have alsoOpens := opens_of_enter reordered.alsoUnique (reordered.alsoNoted present)
        have inner : (bind before).innermost (⟨maker, kind.isClosure⟩ :: opened) = scope :=
          ScopeTree.scopeOf_of_createdBy? made
        have alsoInner : (bind after).innermost (⟨maker, kind.isClosure⟩ :: opened) = other :=
          ScopeTree.scopeOf_of_createdBy? alsoMade
        rw [← inner, ← alsoInner, opens.ancestors, alsoOpens.ancestors]
        refine List.rel_append ?_ (.cons root .nil)
        rw [List.forall₂_map_left_iff, List.forall₂_map_right_iff, List.forall₂_same]
        exact fun scope isOpen => sameScope_made opens alsoOpens isOpen
    | _ => cases its

/-- An event that is noted in both programs adds the same to the same scope. -/
theorem added_eq (reordered : Reordered before after) {scope other : ScopeId}
    (same : (bind before).SameScope (bind after) scope other) (name : String)
    {entry : List OpenScope × Event} (present : entry ∈ programNoted before) :
    (bind after).added other name entry = (bind before).added scope name entry := by
  obtain ⟨opened, event⟩ := entry
  cases event with
  | declare target declared definition =>
      have places := reordered.sameScope_target present target
      have unique := sameScope_biUnique before after
      have iff : (bind after).target opened target = other ↔
          (bind before).target opened target = scope := by
        constructor
        · rintro rfl
          exact unique.1 places same
        · rintro rfl
          exact unique.2 places same
      unfold ScopeTree.added
      dsimp only
      rw [if_congr (and_congr_right fun _ => iff) rfl rfl]
  | _ => rfl

/-- What is declared in a scope other than the module's is declared inside of one statement. -/
theorem definitions_apart (unique : UniqueNodes before) {maker : NodeId} {scope : ScopeId}
    (made : (bind before).createdBy? maker = some scope) (name : String) :
    before.body.Pairwise fun first second =>
      (Scoping.noted [] (stmtEvents first)).filterMap ((bind before).added scope name) = [] ∨
        (Scoping.noted [] (stmtEvents second)).filterMap ((bind before).added scope name) = [] := by
  have creators_eq : creators (programEvents before) =
      before.body.flatMap fun statement => creators (stmtEvents statement) := by
    rw [creators_eq_noted [], ← programNoted, programNoted_eq, List.filterMap_flatMap]
    apply List.flatMap_congr
    exact fun statement _ => (creators_eq_noted [] _).symm
  have once := (creators_sublist_claimed _).nodup unique.claimed
  rw [creators_eq, List.nodup_flatMap] at once
  -- A scope is open where something is declared in it, so it starts inside of that statement.
  have creates (statement : Stmt) (inBody : statement ∈ before.body)
      (within : (Scoping.noted [] (stmtEvents statement)).filterMap
        ((bind before).added scope name) ≠ []) : maker ∈ creators (stmtEvents statement) := by
    obtain ⟨definition, adds⟩ := List.exists_mem_of_ne_nil _ within
    obtain ⟨⟨opened, event⟩, present, added⟩ := List.mem_filterMap.mp adds
    have known : (opened, event) ∈ programNoted before := by
      rw [programNoted_eq]
      exact List.mem_flatMap.mpr ⟨statement, inBody, present⟩
    have opens := opens_of_mem_noted unique known
    cases event with
    | declare target declared definition =>
        unfold ScopeTree.added at added
        dsimp only at added
        split at added
        · rename_i here
          rw [← here.2] at made
          obtain ⟨inner, isOpen, same⟩ := open_of_target opens made
          rcases mem_creators_of_noted present isOpen with impossible | starts
          · cases impossible
          · rw [same] at starts
            exact starts
        · cases added
    | _ => cases added
  refine once.2.imp_of_mem fun {first second} inBody alsoInBody apart => ?_
  by_contra neither
  rw [not_or] at neither
  exact apart (creates first inBody neither.1) (creates second alsoInBody neither.2)

theorem enclosing? (reordered : Reordered before after) (node : NodeId) :
    Option.Rel ((bind before).SameScope (bind after)) ((bind before).enclosing? node)
      ((bind after).enclosing? node) := by
  cases here : (bind before).enclosing? node with
  | some scope =>
      obtain ⟨⟨opened, event⟩, present, located⟩ :=
        (enclosing?_eq_some_iff reordered.unique).mp here
      obtain ⟨rfl, alsoLocated⟩ := locates_other (bind after) located
      have there := (enclosing?_eq_some_iff reordered.alsoUnique).mpr
        ⟨_, reordered.alsoNoted present, alsoLocated⟩
      rw [there]
      exact .some (reordered.sameScope_target present .current)
  | none =>
      cases there : (bind after).enclosing? node with
      | none => exact .none
      | some other =>
          obtain ⟨⟨opened, event⟩, present, located⟩ :=
            (enclosing?_eq_some_iff reordered.alsoUnique).mp there
          have impossible := (enclosing?_eq_some_iff reordered.unique).mpr
            ⟨_, reordered.noted.mem_iff.mpr present, (locates_other (bind before) located).2⟩
          rw [here] at impossible
          cases impossible

/-- Where each name of the module has one definition, these do not depend on the order. -/
theorem rootDefinitions (reordered : Reordered before after)
    (single : (bind before).SinglyDefined) (name : String) :
    (bind after).definitionsOf ScopeTree.root name =
      (bind before).definitionsOf ScopeTree.root name := by
  have adds : (programNoted after).filterMap ((bind after).added ScopeTree.root name) =
      (programNoted after).filterMap ((bind before).added ScopeTree.root name) := by
    apply List.filterMap_congr
    exact fun entry present => reordered.added_eq (ScopeTree.sameScope_root _ _) name
      (reordered.noted.mem_iff.mpr present)
  have perm : ((bind after).definitionsOf ScopeTree.root name).Perm
      ((bind before).definitionsOf ScopeTree.root name) := by
    rw [bind_definitionsOf reordered.alsoUnique, bind_definitionsOf reordered.unique, adds]
    exact (reordered.noted.filterMap _).symm
  cases here : (bind before).declared? ScopeTree.root name with
  | none =>
      have nothing : (bind before).definitionsOf ScopeTree.root name = [] := by
        unfold ScopeTree.definitionsOf
        rw [here]
        rfl
      rw [nothing] at perm ⊢
      exact perm.eq_nil
  | some known =>
      obtain ⟨definition, only⟩ := List.length_eq_one_iff.mp (single.length_eq_one here)
      have alone : (bind before).definitionsOf ScopeTree.root name = [definition] := by
        unfold ScopeTree.definitionsOf
        rw [here]
        exact only
      rw [alone] at perm ⊢
      exact List.perm_singleton.mp perm

section SameRoot

variable (rootSame : ∀ name, (bind after).definitionsOf ScopeTree.root name =
  (bind before).definitionsOf ScopeTree.root name)

include rootSame

theorem definitionsOf (reordered : Reordered before after) {scope other : ScopeId}
    (same : (bind before).SameScope (bind after) scope other) (name : String) :
    (bind after).definitionsOf other name = (bind before).definitionsOf scope name := by
  rcases same with ⟨rfl, rfl⟩ | ⟨maker, made, alsoMade⟩
  · exact rootSame name
  · have adds : (programNoted after).filterMap ((bind after).added other name) =
        (programNoted after).filterMap ((bind before).added scope name) := by
      apply List.filterMap_congr
      exact fun entry present => reordered.added_eq (.inr ⟨maker, made, alsoMade⟩) name
        (reordered.noted.mem_iff.mpr present)
    have apart := definitions_apart reordered.unique made name
    rw [bind_definitionsOf reordered.alsoUnique, bind_definitionsOf reordered.unique, adds,
      programNoted_eq, programNoted_eq, List.filterMap_flatMap, List.filterMap_flatMap,
      flatMap_eq_of_perm reordered.perm apart]

theorem declared? (reordered : Reordered before after) {scope other : ScopeId}
    (same : (bind before).SameScope (bind after) scope other) (name : String) :
    Option.Rel ((bind before).SameVariable (bind after)) ((bind before).declared? scope name)
      ((bind after).declared? other name) := by
  rw [ScopeTree.declared?_eq (bind_tidy before) (bind_valid before),
    ScopeTree.declared?_eq (bind_tidy after) (bind_valid after),
    reordered.definitionsOf rootSame same]
  cases (bind before).definitionsOf scope name with
  | nil => exact .none
  | cons first rest => exact .some ⟨rfl, same, rfl⟩

/-- The scopes of the programs agree if those of the modules have the same definitions. -/
theorem agrees (reordered : Reordered before after) : (bind before).Agrees (bind after) where
  unique := sameScope_biUnique before after
  created := reordered.createdBy?
  enclosing := reordered.enclosing?
  declared := fun _ _ same name => reordered.declared? rootSame same name
  lookup := by
    intro scope other same name
    refine findSome?_rel ?_ (reordered.ancestors same)
    exact fun outer alsoOuter around => reordered.declared? rootSame around name

end SameRoot

end Reordered

end QueryTypes.Scoping
