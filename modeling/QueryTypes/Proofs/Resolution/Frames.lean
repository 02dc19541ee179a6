import QueryTypes.Proofs.Tables
import QueryTypes.Resolution.Evaluate

/-!
The frames around a frame, from the inside out.
-/

set_option autoImplicit false

namespace QueryTypes.Resolution

open QueryTypes.Script
open QueryTypes.Scoping

namespace Frame

theorem find?_eq (condition : Frame → Bool) (frame : Frame) :
    frame.find? condition =
      if condition frame then some frame else frame.parent.bind (Frame.find? condition) := by
  obtain ⟨trail, site, module, functionScope, bindings, parent⟩ := frame
  rw [find?.eq_def]
  cases parent <;> rfl

/-- What passes from a frame to its parent passes to every frame found from it. -/
theorem find?_inherits {condition : Frame → Bool} (holds : Frame → Prop)
    (outward : ∀ frame outer, holds frame → frame.parent = some outer → holds outer) :
    ∀ {frame found : Frame}, holds frame → frame.find? condition = some found → holds found
  | ⟨trail, site, module, functionScope, bindings, parent⟩, found, held, here => by
      rw [find?_eq] at here
      split at here
      · exact Option.some.inj here ▸ held
      · match parent, held, here with
        | some outer, held, here =>
            exact find?_inherits holds outward (outward _ outer held rfl) here

private theorem sizeOf_parent {frame outer : Frame} (parent : frame.parent = some outer) :
    sizeOf outer < sizeOf frame := by
  obtain ⟨trail, site, module, functionScope, bindings, enclosing⟩ := frame
  dsimp only at parent
  subst parent
  simp only [Frame.mk.sizeOf_spec, Option.some.sizeOf_spec]
  omega

theorem eq_or_sizeOf_lt_of_find? {condition : Frame → Bool} {frame found : Frame}
    (here : frame.find? condition = some found) : found = frame ∨ sizeOf found < sizeOf frame := by
  refine find?_inherits (fun inner => inner = frame ∨ sizeOf inner < sizeOf frame) ?_ (.inl rfl)
    here
  intro inner outer near parent
  have smaller := sizeOf_parent parent
  rcases near with same | below
  · subst same
    exact .inr smaller
  · exact .inr (Nat.lt_trans smaller below)

theorem sizeOf_argument {frame : Frame} {name : String} {value : Expr} {caller : Environment}
    (present : (name, Actual.argument value caller) ∈ frame.bindings) :
    sizeOf caller.frame < sizeOf frame := by
  obtain ⟨trail, site, module, functionScope, bindings, parent⟩ := frame
  obtain ⟨callerModule, callerScope, callerFrame⟩ := caller
  have inBindings := List.sizeOf_lt_of_mem present
  simp only [Prod.mk.sizeOf_spec, Actual.argument.sizeOf_spec, Environment.mk.sizeOf_spec]
    at inBindings
  simp only [Frame.mk.sizeOf_spec]
  omega

end Frame

/-- What a parameter stands for: its argument, or its default if there is none that counts. -/
inductive BoundTo (caller : Environment) (parameter : Parameter) (given : Option Argument) :
    Actual → Prop
  | argument {argument : Argument} : given = some argument →
      isUndefined caller argument.value = false →
        BoundTo caller parameter given (.argument argument.value caller)
  | default {value : Expr} :
      (∀ argument, given = some argument → isUndefined caller argument.value = true) →
        parameter.default = some value → BoundTo caller parameter given (.default value)

theorem bindParameters_cons {caller : Environment} {parameter : Parameter}
    {parameters : List Parameter} {arguments : List Argument} {bindings : List (String × Actual)}
    (bound : bindParameters caller (parameter :: parameters) arguments = .ok bindings) :
    ∃ binding actual others, parameter.pattern = .name binding ∧ parameter.rest = false ∧
      BoundTo caller parameter arguments.head? actual ∧
      bindParameters caller parameters arguments.tail = .ok others ∧
      bindings = (binding.name, actual) :: others := by
  obtain ⟨mark, rest, pattern, default⟩ := parameter
  unfold bindParameters at bound
  split at bound
  · rename_i binding
    simp only [Bind.bind, Except.bind, Pure.pure, Except.pure] at bound
    cases bindsOthers : bindParameters caller parameters arguments.tail with
    | error error =>
        rw [bindsOthers] at bound
        dsimp only at bound
        repeat' split at bound
        all_goals cases bound
    | ok others =>
        rw [bindsOthers] at bound
        dsimp only at bound
        split at bound
        · rename_i argument given
          obtain ⟨first, counts⟩ := Option.filter_eq_some_iff.mp given
          exact ⟨binding, _, others, rfl, rfl, .argument first (by simpa using counts), rfl,
            (Except.ok.inj bound).symm⟩
        · rename_i absent
          split at bound
          · refine ⟨binding, _, others, rfl, rfl, .default ?_ rfl, rfl,
              (Except.ok.inj bound).symm⟩
            intro argument first
            rw [first] at absent
            simpa using absent
          · cases bound
  · cases bound

end QueryTypes.Resolution
