import QueryTypes.Proofs.Scoping.Declarations
import QueryTypes.Proofs.Scoping.Surroundings

/-!
What an identifier means.

By the rules of the language an identifier means what is declared in the innermost region that it
stands in and that declares its name. The scope that is noted for an identifier is that of the
innermost construct around it, which holds all of the construct's regions, also those that the
identifier does not stand in. So what lookup finds is what the rules say exactly where no such
hidden region declares the name before a visible one does: regions are hidden from the test of a
switch statement and from the parameter of a catch clause.
-/

set_option autoImplicit false

namespace QueryTypes.Scoping

open QueryTypes.Script

def declares (program : Program) (name : String) (region : Region) : Bool :=
  (programDeclarations program).any fun declaration =>
    declaration.region == region && declaration.name == name

/-- The region whose declaration a name means: the innermost that it stands in and that declares
it. -/
def designated? (program : Program) (around : List Nesting) (name : String) : Option Region :=
  (around.flatMap Nesting.visible ++ [Region.module]).find? (declares program name)

/-- The region that comes first if those that the name does not stand in count as well, each after
the others of its construct. -/
def nearest? (program : Program) (around : List Nesting) (name : String) : Option Region :=
  (around.flatMap (fun nesting : Nesting => nesting.visible ++ nesting.hidden) ++
    [Region.module]).find? (declares program name)

structure Variable.IsOf (known : Variable) (program : Program) (region : Region)
    (name : String) : Prop where
  named : known.name = name
  scope : (bind program).holder? region = some known.scope
  definitions : ∀ declaration ∈ programDeclarations program, declaration.region = region →
    declaration.name = name → declaration.definition ∈ known.definitions

/-- What a lookup gives is the variable of the declarations of a name in a region, or nothing if
there is no region. -/
def Denotes (program : Program) (name : String) (region : Option Region) :
    Option Variable → Prop
  | none => region = none
  | some known => ∃ declaring, region = some declaring ∧ known.IsOf program declaring name

private theorem Nesting.maker_of_region {nesting : Nesting} {region : Region}
    (its : region ∈ nesting.visible ++ nesting.hidden) : region.maker? = some nesting.maker := by
  cases nesting with
  | function maker => obtain rfl := List.mem_singleton.mp its; rfl
  | functionName maker => obtain rfl := List.mem_singleton.mp its; rfl
  | block maker => obtain rfl := List.mem_singleton.mp its; rfl
  | switchTest maker => obtain rfl := List.mem_singleton.mp its; rfl
  | switchBranches maker => obtain rfl := List.mem_singleton.mp its; rfl
  | catchParameter maker => rcases List.mem_pair.mp its with rfl | rfl <;> rfl
  | catchBody maker => rcases List.mem_pair.mp its with rfl | rfl <;> rfl

theorem declares_iff {program : Program} {name : String} {region : Region} :
    declares program name region = true ↔ ∃ declaration ∈ programDeclarations program,
      declaration.region = region ∧ declaration.name = name := by
  unfold declares
  simp only [List.any_eq_true, Bool.and_eq_true, beq_iff_eq]

section Designation

variable {program : Program} {name : String}

private theorem mem_programDefinitions {id : ScopeId} {definition : Definition} :
    definition ∈ programDefinitions program id name ↔
      ∃ declaration ∈ programDeclarations program, (declaration.name = name ∧
        (bind program).holder? declaration.region = some id) ∧
          declaration.definition = definition := by
  unfold programDefinitions
  simp only [List.mem_map, List.mem_filter, decide_eq_true_eq, and_assoc]

private theorem declared?_none (unique : UniqueNodes program) {id : ScopeId}
    (absent : ∀ declaration ∈ programDeclarations program,
      (bind program).holder? declaration.region = some id → declaration.name ≠ name) :
    (bind program).declared? id name = none := by
  have nothing : programDefinitions program id name = [] := by
    apply List.eq_nil_iff_forall_not_mem.mpr
    intro definition held
    obtain ⟨declaration, present, ⟨named, holder⟩, _⟩ := mem_programDefinitions.mp held
    exact absent declaration present holder named
  rw [bind_declared? unique, nothing]
  rfl

private theorem variable_of_declares (unique : UniqueNodes program) {region : Region}
    (declared : declares program name region = true) :
    ∃ known, (bind program).declared? ((bind program).regionScope region) name = some known ∧
      known.IsOf program region name := by
  obtain ⟨declaration, present, rfl, rfl⟩ := declares_iff.mp declared
  have holder := holder?_of_declaration unique present
  have held : declaration.definition ∈ programDefinitions program
      ((bind program).regionScope declaration.region) declaration.name :=
    mem_programDefinitions.mpr ⟨declaration, present, ⟨rfl, holder⟩, rfl⟩
  have tables := bind_declared? unique ((bind program).regionScope declaration.region)
    declaration.name
  cases definitions : programDefinitions program ((bind program).regionScope declaration.region)
      declaration.name with
  | nil =>
      rw [definitions] at held
      cases held
  | cons first rest =>
      rw [definitions] at tables
      refine ⟨_, tables, rfl, holder, fun other alsoPresent sameRegion sameName => ?_⟩
      dsimp only
      rw [← definitions]
      exact mem_programDefinitions.mpr
        ⟨other, alsoPresent, ⟨sameName, by rw [sameRegion, holder]⟩, rfl⟩

private theorem holder?_root {region : Region}
    (holder : (bind program).holder? region = some ScopeTree.root) : region = .module := by
  cases made : region.maker? with
  | none =>
      cases region with
      | module => rfl
      | _ => cases made
  | some maker =>
      unfold ScopeTree.holder? at holder
      rw [made] at holder
      exact absurd holder (createdBy?_root maker)

private theorem holder?_of_maker {region : Region} {maker : NodeId} {id : ScopeId}
    (made : (bind program).createdBy? maker = some id)
    (holder : (bind program).holder? region = some id) : region.maker? = some maker := by
  unfold ScopeTree.holder? at holder
  cases its : region.maker? with
  | none =>
      rw [its] at holder
      cases holder
      exact absurd made (createdBy?_root maker)
  | some other =>
      rw [its] at holder
      rw [maker_eq holder made]

theorem lookup_cons {nesting : Nesting} {outer : List OpenScope}
    (opens : (bind program).Opens (nesting.opened :: outer)) (name : String) :
    (bind program).lookup ((bind program).scopeOf nesting.maker) name =
      ((bind program).declared? ((bind program).scopeOf nesting.maker) name).or
        ((bind program).lookup ((bind program).innermost outer) name) := by
  have valid := bind_valid program
  have above : (bind program).parent? ((bind program).scopeOf nesting.maker) =
      some ((bind program).innermost outer) := opens.parent? valid
  unfold ScopeTree.lookup
  rw [ScopeTree.ancestors_of_parent valid above, List.findSome?_cons]
  cases (bind program).declared? ((bind program).scopeOf nesting.maker) name <;> rfl

private theorem nearest?_cons (nesting : Nesting) (outer : List Nesting) :
    nearest? program (nesting :: outer) name =
      ((nesting.visible ++ nesting.hidden).find? (declares program name)).or
        (nearest? program outer name) := by
  unfold nearest?
  rw [List.flatMap_cons, List.append_assoc, List.find?_append]

private theorem designated?_cons (nesting : Nesting) (outer : List Nesting) :
    designated? program (nesting :: outer) name =
      (nesting.visible.find? (declares program name)).or (designated? program outer name) := by
  unfold designated?
  rw [List.flatMap_cons, List.append_assoc, List.find?_append]

/-- A declaration belongs to the scope of a construct only in one of its regions. -/
def OwnRegions (program : Program) (around : List Nesting) : Prop :=
  ∀ nesting ∈ around, ∀ declaration ∈ programDeclarations program,
    declaration.region.maker? = some nesting.maker →
      declaration.region ∈ nesting.visible ++ nesting.hidden

private theorem regionScope_of_nesting {nesting : Nesting} {region : Region}
    (its : region ∈ nesting.visible ++ nesting.hidden) :
    (bind program).regionScope region = (bind program).scopeOf nesting.maker := by
  unfold ScopeTree.regionScope
  rw [Nesting.maker_of_region its]

/-- Where one of the regions of a construct declares a name, lookup from inside gives that
variable. -/
theorem lookup_of_region (unique : UniqueNodes program) {nesting : Nesting}
    {outer : List OpenScope} (opens : (bind program).Opens (nesting.opened :: outer))
    {region : Region} (its : region ∈ nesting.visible ++ nesting.hidden)
    (declared : declares program name region = true) :
    ∃ known, (bind program).lookup ((bind program).scopeOf nesting.maker) name = some known ∧
      known.IsOf program region name := by
  obtain ⟨known, found, isOf⟩ := variable_of_declares unique declared
  rw [regionScope_of_nesting its] at found
  refine ⟨known, ?_, isOf⟩
  rw [lookup_cons opens, found, Option.some_or]

/-- Where none of the regions of a construct declares a name, lookup from inside goes on outside. -/
theorem lookup_without_region (unique : UniqueNodes program) {nesting : Nesting}
    {outer : List OpenScope} (opens : (bind program).Opens (nesting.opened :: outer))
    (own : ∀ declaration ∈ programDeclarations program,
      declaration.region.maker? = some nesting.maker →
        declaration.region ∈ nesting.visible ++ nesting.hidden)
    (absent : (nesting.visible ++ nesting.hidden).find? (declares program name) = none) :
    (bind program).lookup ((bind program).scopeOf nesting.maker) name =
      (bind program).lookup ((bind program).innermost outer) name := by
  have nothing : (bind program).declared? ((bind program).scopeOf nesting.maker) name = none := by
    apply declared?_none unique
    intro declaration present holder named
    have made := opens.made nesting.opened List.mem_cons_self
    have its := own declaration present (holder?_of_maker made holder)
    exact List.find?_eq_none.mp absent _ its (declares_iff.mpr ⟨declaration, present, rfl, named⟩)
  rw [lookup_cons opens, nothing, Option.none_or]

private theorem lookup_module (unique : UniqueNodes program) :
    Denotes program name ([Region.module].find? (declares program name))
      ((bind program).lookup ScopeTree.root name) := by
  have lookup : (bind program).lookup ScopeTree.root name =
      (bind program).declared? ScopeTree.root name := by
    unfold ScopeTree.lookup
    rw [ScopeTree.ancestors_root (bind_valid program), List.findSome?_cons]
    cases (bind program).declared? ScopeTree.root name <;> rfl
  rw [lookup]
  cases declared : declares program name .module with
  | true =>
      obtain ⟨known, found, isOf⟩ := variable_of_declares unique declared
      rw [List.find?_cons_of_pos declared, show (bind program).declared? ScopeTree.root name =
        some known from found]
      exact ⟨_, rfl, isOf⟩
  | false =>
      have nothing : (bind program).declared? ScopeTree.root name = none := by
        apply declared?_none unique
        intro declaration present holder named
        have inModule := declares_iff.mpr ⟨declaration, present, holder?_root holder, named⟩
        rw [declared] at inModule
        cases inModule
      rw [List.find?_cons_of_neg (by rw [declared]; exact Bool.false_ne_true), nothing]
      rfl

/-- Lookup from the innermost scope gives the variable of the nearest region. -/
theorem lookup_nearest (unique : UniqueNodes program) {around : List Nesting}
    (opens : (bind program).Opens (openScopes around)) (own : OwnRegions program around) :
    Denotes program name (nearest? program around name)
      ((bind program).lookup ((bind program).innermost (openScopes around)) name) := by
  induction around with
  | nil => exact lookup_module unique
  | cons nesting outer ih =>
      have further := ih (opens.tail (bind_valid program)) fun other inOuter =>
        own other (List.mem_cons_of_mem _ inOuter)
      rw [nearest?_cons]
      change Denotes program name _
        ((bind program).lookup ((bind program).scopeOf nesting.maker) name)
      cases found : (nesting.visible ++ nesting.hidden).find? (declares program name) with
      | some region =>
          obtain ⟨known, lookup, isOf⟩ := lookup_of_region unique opens
            (List.mem_of_find?_eq_some found) (List.find?_some found)
          rw [lookup, Option.some_or]
          exact ⟨region, rfl, isOf⟩
      | none =>
          rw [lookup_without_region unique opens (own nesting List.mem_cons_self) found,
            Option.none_or]
          exact further

private theorem regionScope_mem_ancestors {around : List Nesting}
    (opens : (bind program).Opens (openScopes around)) {region : Region}
    (visible : region ∈ around.flatMap Nesting.visible ++ [Region.module]) :
    (bind program).regionScope region ∈
      (bind program).ancestors ((bind program).innermost (openScopes around)) := by
  rw [opens.ancestors]
  unfold ScopeTree.regionScope
  rcases List.mem_append.mp visible with inside | outermost
  · obtain ⟨nesting, surrounds, its⟩ := List.mem_flatMap.mp inside
    rw [Nesting.maker_of_region (List.mem_append_left _ its)]
    exact List.mem_append_left _ (List.mem_map.mpr
      ⟨nesting.opened, List.mem_map_of_mem surrounds, rfl⟩)
  · rw [List.mem_singleton.mp outermost]
    exact List.mem_append_right _ List.mem_cons_self

private theorem regionScope_outside {nesting : Nesting} {outer : List Nesting}
    (opens : (bind program).Opens (openScopes (nesting :: outer))) {region : Region}
    (visible : region ∈ outer.flatMap Nesting.visible ++ [Region.module]) :
    (bind program).regionScope region ≠ (bind program).scopeOf nesting.maker := by
  have valid := bind_valid program
  intro place
  have outward := ScopeTree.le_of_mem_ancestors valid _
    (regionScope_mem_ancestors (opens.tail valid) visible)
  rw [place] at outward
  exact absurd (valid.parent_lt (opens.parent? valid)) (Nat.not_lt_of_le outward)

/-- Lookup gives the variable of the designated region only if no other region is nearer. -/
theorem nearest?_of_denotes (unique : UniqueNodes program) {around : List Nesting}
    (opens : (bind program).Opens (openScopes around)) (own : OwnRegions program around)
    (denotes : Denotes program name (designated? program around name)
      ((bind program).lookup ((bind program).innermost (openScopes around)) name)) :
    designated? program around name = nearest? program around name := by
  induction around with
  | nil => rfl
  | cons nesting outer ih =>
      change Denotes program name _
        ((bind program).lookup ((bind program).scopeOf nesting.maker) name) at denotes
      rw [designated?_cons] at denotes ⊢
      rw [nearest?_cons, List.find?_append]
      cases visible : nesting.visible.find? (declares program name) with
      | some region => rfl
      | none =>
          rw [visible, Option.none_or] at denotes
          rw [Option.none_or, Option.none_or]
          cases hidden : nesting.hidden.find? (declares program name) with
          | none =>
              have absent : (nesting.visible ++ nesting.hidden).find? (declares program name) =
                  none := by rw [List.find?_append, visible, hidden]; rfl
              rw [lookup_without_region unique opens (own nesting List.mem_cons_self) absent]
                at denotes
              rw [Option.none_or]
              exact ih (opens.tail (bind_valid program))
                (fun other inOuter => own other (List.mem_cons_of_mem _ inOuter)) denotes
          | some region =>
              -- The variable found is the construct's own, and the designated one is outside.
              have its := List.mem_append_right nesting.visible (List.mem_of_find?_eq_some hidden)
              obtain ⟨known, lookup, isOf⟩ := lookup_of_region unique opens its
                (List.find?_some hidden)
              rw [lookup] at denotes
              obtain ⟨declaring, designated, alsoOf⟩ := denotes
              have place : (bind program).regionScope declaring =
                  (bind program).scopeOf nesting.maker := by
                rw [ScopeTree.regionScope_of_holder? alsoOf.scope, ← regionScope_of_nesting its,
                  ScopeTree.regionScope_of_holder? isOf.scope]
              exact absurd place (regionScope_outside opens (List.mem_of_find?_eq_some designated))

/-- Nothing is hidden apart from the test of a switch statement and the parameter of a catch
clause. -/
theorem designated?_eq_nearest? {around : List Nesting}
    (seen : ∀ nesting ∈ around, nesting.hidden = []) :
    designated? program around name = nearest? program around name := by
  have sameRegions : around.flatMap Nesting.visible =
      around.flatMap fun nesting => nesting.visible ++ nesting.hidden := by
    apply List.flatMap_congr
    intro nesting surrounds
    rw [seen nesting surrounds, List.append_nil]
  unfold designated? nearest?
  rw [sameRegions]

/-- An identifier is looked up in the scope that is noted for it. What is found is the variable of
the declarations that the identifier means, and nothing if it means none, exactly if no region that
the identifier does not stand in comes before the one that it means. None does where nothing is
hidden from the identifier. -/
theorem identifier_designated_iff (unique : UniqueNodes program) {around : List Nesting}
    {mark : Mark} (present : ⟨around, .identifier mark name⟩ ∈ programSites program) :
    ∃ scope, (bind program).enclosing? mark.id = some scope ∧
      Denotes program name (nearest? program around name) ((bind program).lookup scope name) ∧
      (Denotes program name (designated? program around name)
          ((bind program).lookup scope name) ↔
        designated? program around name = nearest? program around name) ∧
      ((∀ nesting ∈ around, nesting.hidden = []) →
        Denotes program name (designated? program around name)
          ((bind program).lookup scope name)) := by
  have own : OwnRegions program around := fun _ surrounds _ declared made =>
    region_of_sameMaker unique present surrounds declared made
  have known : (openScopes around, Event.refer mark.id name) ∈ programNoted program :=
    mem_programNoted present List.mem_cons_self
  have opens := opens_of_mem_noted unique known
  have nearest : Denotes program name _ _ := lookup_nearest unique opens own
  refine ⟨_, (enclosing?_identifier unique present).1, nearest, ⟨?_, ?_⟩, ?_⟩
  · exact nearest?_of_denotes unique opens own
  · intro same
    rw [same]
    exact nearest
  · intro seen
    rw [designated?_eq_nearest? seen]
    exact nearest

end Designation

def queryDeclaration (id : NodeId) (text : String) : VariableDeclaration :=
  ⟨⟨id, .nowhere⟩, false, .constant,
    [⟨.name ⟨⟨id + 1, .nowhere⟩, "query"⟩, some (.string ⟨id + 2, .nowhere⟩ text)⟩], []⟩

/-- `const query = "outer"; switch (query) { default: const query = "inner"; query }` -/
def switchingProgram : Program :=
  ⟨⟨1, .nowhere⟩,
    [.variables (queryDeclaration 2 "outer"),
      .switch ⟨5, .nowhere⟩ (.identifier ⟨6, .nowhere⟩ "query")
        [⟨⟨7, .nowhere⟩, none,
          [.variables (queryDeclaration 8 "inner"),
            .expression ⟨11, .nowhere⟩ (.identifier ⟨12, .nowhere⟩ "query")]⟩]], ⟨[]⟩⟩

/-- The identifier in the branch is the branch's variable. -/
theorem branch_sees_its_variable :
    ∃ known, (bind switchingProgram).lookup 1 "query" = some known ∧
      known.IsOf switchingProgram (.branches 5) "query" := by
  have unique : UniqueNodes switchingProgram := by decide +kernel
  have present : ⟨[.switchBranches 5], .identifier ⟨12, .nowhere⟩ "query"⟩ ∈
      programSites switchingProgram := List.mem_of_getElem? (i := 4) rfl
  obtain ⟨scope, noted, _, _, denotes⟩ := identifier_designated_iff unique present
  cases noted
  obtain ⟨region, designated, isOf⟩ := denotes (List.forall_mem_singleton.mpr rfl)
  cases designated
  exact ⟨_, rfl, isOf⟩

/-- The identifier in the test means the module's variable, but it is looked up where the branches'
variables are. -/
theorem test_sees_branch_variable :
    UniqueNodes switchingProgram ∧
      ⟨[.switchTest 5], .identifier ⟨6, .nowhere⟩ "query"⟩ ∈ programSites switchingProgram ∧
      designated? switchingProgram [.switchTest 5] "query" = some .module ∧
      (bind switchingProgram).enclosing? 6 = some 1 ∧
      (bind switchingProgram).lookup 1 "query" =
        some ⟨"query", 1, [.declarator (queryDeclaration 8 "inner") 0]⟩ ∧
      ¬ Denotes switchingProgram "query"
        (designated? switchingProgram [.switchTest 5] "query")
        ((bind switchingProgram).lookup 1 "query") := by
  refine ⟨by decide +kernel, List.mem_of_getElem? (i := 2) rfl, rfl, rfl, rfl, ?_⟩
  rintro ⟨region, designated, isOf⟩
  cases designated
  cases isOf.scope

end QueryTypes.Scoping
