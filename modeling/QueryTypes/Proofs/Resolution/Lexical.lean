import Mathlib.Data.List.Forall2
import QueryTypes.Proofs.Resolution.Frames
import QueryTypes.Proofs.Resolution.Meaning
import QueryTypes.Proofs.Scoping.Grounding

/-!
Why the innermost frame of a function is the right one.

A closure takes along all frames of the place where it is made or where its name is used, also
those of functions that have nothing to do with it, and a function that calls itself occurs in
them more than once. But only frames of functions around a place are ever looked for there, and
for each of those the innermost one is the call that the place is in. `Covers` says so, and it is
all that evaluation preserves.
-/

set_option autoImplicit false

namespace QueryTypes.Resolution

open QueryTypes.Script
open QueryTypes.Scoping
open QueryTypes.Modules

/-- The module's scopes are those of its program, each node of which has a number of its own. -/
structure WellFormed (module : Module) : Prop where
  scopes : module.scopes = bind module.program
  unique : UniqueNodes module.program

theorem WellFormed.valid {module : Module} (formed : WellFormed module) :
    module.scopes.Valid := by
  rw [formed.scopes]
  exact bind_valid module.program

/-- Events of a part of a program, or of a tree that shares no node with it. -/
def Belongs (program : Program) (events : List Event) : Prop :=
  events <:+: programEvents program ∨ ∀ id ∈ nodeIds events, id ∉ nodeIds (programEvents program)

theorem Belongs.part {program : Program} {part whole : List Event}
    (belongs : Belongs program whole) (inside : part <:+: whole) : Belongs program part := by
  rcases belongs with own | foreign
  · exact .inl (inside.trans own)
  · exact .inr fun id present => foreign id (nodeIds_subset inside present)

private theorem creators_subset {program : Program} {node : NodeId} {id : ScopeId}
    (created : (bind program).createdBy? node = some id) :
    node ∈ nodeIds (programEvents program) := by
  obtain ⟨before, after, split, _⟩ := List.lookup_eq_some_iff.mp created
  have present : node ∈ (bind program).created.map (·.1) := by
    rw [split, List.map_append, List.map_cons]
    exact List.mem_append_right _ List.mem_cons_self
  have keys := Walk.run_created .start (programEvents program)
  change (bind program).created.map (·.1) = (creators (programEvents program)).reverse ++ [] at keys
  rw [keys, List.append_nil, List.mem_reverse] at present
  exact (programEvents_bracketed program).claimed_sublist.subset
    ((creators_sublist_claimed _).subset present)

/-- A function that made a scope of the program stands in it. -/
theorem Belongs.placed {program : Program} {function : Function}
    (belongs : Belongs program (functionEvents function)) {own : ScopeId}
    (created : (bind program).createdBy? function.mark.id = some own) :
    ∃ scope, Placed program scope (functionEvents function) := by
  rcases belongs with ⟨before, after, split⟩ | foreign
  · exact ⟨_, Walk.start.run before, ⟨before, after, split.symm, rfl⟩, rfl⟩
  · have present : function.mark.id ∈ nodeIds (functionEvents function) := by
      rw [functionEvents_eq]
      exact List.mem_cons_self
    exact absurd (creators_subset created) (foreign _ present)

def Stands (environment : Environment) (events : List Event) : Prop :=
  Placed environment.module.program environment.scope events ∨
    (environment.frame = none ∧ Belongs environment.module.program events)

def innermost (module : Module) (id : ScopeId) (chain : Option Frame) : Option Frame :=
  chain.bind (Frame.find? fun frame =>
    frame.functionScope == id && frame.module.path == module.path)

mutual

/-- For every function around a scope, the innermost of the frames is the call it is in. -/
inductive Covers : Module → ScopeId → Option Frame → (ScopeId → Option Activation) → Prop
  | intro {module : Module} {scope : ScopeId} {chain : Option Frame}
      {activations : ScopeId → Option Activation}
      (assigned : ∀ id frame, id ∈ module.scopes.functionsAround scope →
        innermost module id chain = some frame → (activations id).isSome = true)
      (represented : ∀ id frame activation, id ∈ module.scopes.functionsAround scope →
        innermost module id chain = some frame → activations id = some activation →
          Represents module id frame activation) : Covers module scope chain activations

inductive Represents : Module → ScopeId → Frame → Activation → Prop
  | intro {module : Module} {own outer : ScopeId} {frame : Frame} {activation : Activation}
      (sameModule : frame.module = module) (sameScope : frame.functionScope = own)
      (above : module.scopes.parent? own = some outer)
      (captured : Covers module outer frame.parent activation.captured)
      (supplied : ∀ name actual, frame.bindings.lookup name = some actual →
        (activation.bindings.lookup name).isSome = true)
      (alike : ∀ name actual given, frame.bindings.lookup name = some actual →
        activation.bindings.lookup name = some given → Alike module own actual given) :
      Represents module own frame activation

inductive Alike : Module → ScopeId → Actual → Supplied → Prop
  | argument {module : Module} {own : ScopeId} {value : Expr} {environment : Environment}
      {activations : ScopeId → Option Activation} (formed : WellFormed environment.module)
      (stands : Stands environment (exprEvents value))
      (covers : Covers environment.module environment.scope environment.frame activations) :
      Alike module own (.argument value environment)
        (.argument value ⟨environment.module, environment.scope, activations⟩)
  | default {module : Module} {own : ScopeId} {value : Expr}
      (placed : Placed module.program own (exprEvents value)) :
      Alike module own (.default value) (.default value)

end

section Covering

variable {module : Module} {scope : ScopeId} {chain : Option Frame}
  {activations : ScopeId → Option Activation}

theorem Covers.activation (covers : Covers module scope chain activations) {id : ScopeId}
    (around : id ∈ module.scopes.functionsAround scope) {frame : Frame}
    (found : innermost module id chain = some frame) :
    ∃ activation, activations id = some activation ∧ Represents module id frame activation := by
  cases covers with
  | intro assigned represented =>
      obtain ⟨activation, present⟩ := Option.isSome_iff_exists.mp (assigned id frame around found)
      exact ⟨activation, present, represented id frame activation around found present⟩

private theorem Covers.of_activations
    (each : ∀ id frame, id ∈ module.scopes.functionsAround scope →
      innermost module id chain = some frame →
        ∃ activation, activations id = some activation ∧ Represents module id frame activation) :
    Covers module scope chain activations := by
  constructor
  · intro id frame around found
    obtain ⟨activation, present, _⟩ := each id frame around found
    rw [present]
    rfl
  · intro id frame activation around found present
    obtain ⟨other, same, represents⟩ := each id frame around found
    rw [present] at same
    cases same
    exact represents

theorem covers_none (module : Module) (scope : ScopeId)
    (activations : ScopeId → Option Activation) : Covers module scope none activations := by
  apply Covers.of_activations
  intro id frame _ found
  cases found

/-- The calls of the functions around a scope cover it, and scopes with fewer functions around. -/
theorem Covers.around (covers : Covers module scope chain activations) {inner kept : ScopeId}
    (near : module.scopes.functionsAround inner ⊆ module.scopes.functionsAround scope)
    (held : module.scopes.functionsAround inner ⊆ module.scopes.functionsAround kept) :
    Covers module inner chain (Place.around ⟨module, scope, activations⟩ kept) := by
  apply Covers.of_activations
  intro id frame around found
  obtain ⟨activation, present, represents⟩ := covers.activation (near around) found
  refine ⟨activation, ?_, represents⟩
  unfold Place.around
  rw [if_pos (held around)]
  exact present

private theorem innermost_cons (id : ScopeId) (frame : Frame) :
    innermost module id (some frame) =
      if frame.functionScope == id && frame.module.path == module.path then some frame
      else innermost module id frame.parent := by
  unfold innermost
  rw [Option.bind_some, Frame.find?_eq]

theorem Represents.inside (formed : WellFormed module) {own : ScopeId} {frame : Frame}
    {activation : Activation} (represents : Represents module own frame activation) :
    Covers module own (some frame) (activation.inside own) := by
  have whole := represents
  cases represents with
  | intro sameModule sameScope above captured _ _ =>
      apply Covers.of_activations
      intro id found around here
      rw [innermost_cons, sameModule, sameScope, beq_self_eq_true, Bool.and_true] at here
      by_cases same : id = own
      · -- The function's own call is the frame in front.
        subst same
        rw [beq_self_eq_true, if_pos rfl] at here
        cases here
        exact ⟨activation, if_pos rfl, whole⟩
      · -- The functions further out are in the calls that they were in where it was defined.
        have different : (own == id) = false := beq_false_of_ne fun equal => same equal.symm
        rw [different, if_neg Bool.false_ne_true] at here
        have further := (ScopeTree.functionsAround_of_function formed.valid above
          around).resolve_left same
        obtain ⟨outerCall, present, outerRepresents⟩ := captured.activation further here
        refine ⟨outerCall, ?_, outerRepresents⟩
        unfold Activation.inside
        rw [if_neg same]
        exact present

end Covering

def AllAlike (module : Module) (own : ScopeId) : List (String × Actual) →
    List (String × Supplied) → Prop :=
  List.Forall₂ fun bound given => bound.1 = given.1 ∧ Alike module own bound.2 given.2

theorem AllAlike.lookup {module : Module} {own : ScopeId} {bindings : List (String × Actual)}
    {given : List (String × Supplied)} (alike : AllAlike module own bindings given) {name : String}
    {actual : Actual} (found : bindings.lookup name = some actual) :
    ∃ supplied, given.lookup name = some supplied ∧ Alike module own actual supplied := by
  induction alike with
  | nil => cases found
  | @cons bound first _ _ same _ ih =>
      obtain ⟨boundName, boundActual⟩ := bound
      obtain ⟨firstName, firstSupplied⟩ := first
      obtain ⟨sameName, sameMeaning⟩ := same
      dsimp only at sameName sameMeaning
      subst sameName
      rw [List.lookup_cons] at found ⊢
      cases here : name == boundName with
      | true =>
          rw [here] at found
          cases found
          exact ⟨firstSupplied, rfl, sameMeaning⟩
      | false =>
          rw [here] at found
          exact ih found

theorem AllAlike.represents {module : Module} {own outer : ScopeId} {chain : Option Frame}
    {captured : ScopeId → Option Activation} {bindings : List (String × Actual)}
    {given : List (String × Supplied)} (alike : AllAlike module own bindings given)
    (above : module.scopes.parent? own = some outer)
    (covers : Covers module outer chain captured) (trail : Trail) (site : Site) :
    Represents module own ⟨trail, site, module, own, bindings.reverse, chain⟩
      ⟨given.reverse, captured⟩ := by
  have reversed : AllAlike module own bindings.reverse given.reverse :=
    List.forall₂_reverse_iff.mpr alike
  refine .intro rfl rfl above covers ?_ ?_
  · intro name actual found
    obtain ⟨supplied, looked, _⟩ := reversed.lookup found
    exact Option.isSome_iff_exists.mpr ⟨supplied, looked⟩
  · intro name actual supplied found looked
    obtain ⟨same, present, actualAlike⟩ := reversed.lookup found
    cases present.symm.trans looked
    exact actualAlike

/-- What a value means. A closure's function, if it is one of its module's, stands in a scope that
the frames taken along cover. -/
inductive Means : Value → Denotation → Prop
  | text {text : String} : Means (.text text) (.text text)
  | function {closure : Closure} {captured : ScopeId → Option Activation}
      (formed : WellFormed closure.module)
      (placed : ∀ own, closure.module.scopes.createdBy? closure.function.mark.id = some own →
        ∃ scope, Placed closure.module.program scope (functionEvents closure.function) ∧
          Covers closure.module scope closure.frame captured) :
      Means (.function closure) (.function closure.function closure.module captured)

end QueryTypes.Resolution
