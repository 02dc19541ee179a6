import Mathlib.Data.List.Basic
import QueryTypes.Proofs.Resolution.Frames

/-!
Frames under other names.

A frame's trail only tells it apart from other frames. Whatever evaluation looks at, other than
the uses of identifiers that it has visited, stays the same when all trails are replaced, and those
uses are told apart as before as long as no two trails become one.
-/

set_option autoImplicit false

namespace QueryTypes.Resolution

open QueryTypes.Script
open QueryTypes.Source
open QueryTypes.Scoping
open QueryTypes.Modules

mutual

def Frame.rename (names : Trail → Trail) : Frame → Frame
  | ⟨trail, site, module, functionScope, bindings, parent⟩ =>
      ⟨names trail, site, module, functionScope, renameBindings names bindings,
        renameFrame names parent⟩

def renameFrame (names : Trail → Trail) : Option Frame → Option Frame
  | none => none
  | some frame => some (frame.rename names)

def renameBindings (names : Trail → Trail) : List (String × Actual) → List (String × Actual)
  | [] => []
  | (name, actual) :: rest => (name, actual.rename names) :: renameBindings names rest

def Actual.rename (names : Trail → Trail) : Actual → Actual
  | .argument value environment => .argument value (environment.rename names)
  | .default value => .default value

def Environment.rename (names : Trail → Trail) : Environment → Environment
  | ⟨module, scope, frame⟩ => ⟨module, scope, renameFrame names frame⟩

end

def Closure.rename (names : Trail → Trail) (closure : Closure) : Closure :=
  ⟨closure.function, closure.module, closure.frame.map (·.rename names)⟩

def Value.rename (names : Trail → Trail) : Value → Value
  | .text value => .text value
  | .function closure => .function (closure.rename names)

def Goal.rename (names : Trail → Trail) : Goal → Goal
  | .expression value environment => .expression value (environment.rename names)
  | .exported target name requester loc => .exported target name requester loc

def IdentifierKey.rename (names : Trail → Trail) (key : IdentifierKey) : IdentifierKey :=
  { key with trail := key.trail.map names }

def Visited.rename (names : Trail → Trail) (visited : Visited) : Visited :=
  { visited with identifiers := visited.identifiers.map (·.rename names) }

section Parts

variable (names : Trail → Trail)

theorem renameFrame_eq (frame : Option Frame) :
    renameFrame names frame = frame.map (·.rename names) := by
  cases frame <;> rw [renameFrame] <;> rfl

theorem renameBindings_eq (bindings : List (String × Actual)) :
    renameBindings names bindings = bindings.map fun bound => (bound.1, bound.2.rename names) := by
  induction bindings with
  | nil => rw [renameBindings, List.map_nil]
  | cons bound rest ih =>
      obtain ⟨name, actual⟩ := bound
      rw [renameBindings, ih, List.map_cons]

@[simp] theorem Frame.rename_trail (frame : Frame) :
    (frame.rename names).trail = names frame.trail := by
  cases frame
  rw [rename]

@[simp] theorem Frame.rename_site (frame : Frame) : (frame.rename names).site = frame.site := by
  cases frame
  rw [rename]

@[simp] theorem Frame.rename_module (frame : Frame) :
    (frame.rename names).module = frame.module := by
  cases frame
  rw [rename]

@[simp] theorem Frame.rename_functionScope (frame : Frame) :
    (frame.rename names).functionScope = frame.functionScope := by
  cases frame
  rw [rename]

@[simp] theorem Frame.rename_bindings (frame : Frame) :
    (frame.rename names).bindings =
      frame.bindings.map fun bound => (bound.1, bound.2.rename names) := by
  cases frame
  rw [rename, renameBindings_eq]

@[simp] theorem Frame.rename_parent (frame : Frame) :
    (frame.rename names).parent = frame.parent.map (·.rename names) := by
  cases frame
  rw [rename, renameFrame_eq]

@[simp] theorem Environment.rename_mk (module : Module) (scope : ScopeId) (frame : Option Frame) :
    (Environment.mk module scope frame).rename names =
      ⟨module, scope, frame.map (·.rename names)⟩ := by
  rw [rename, renameFrame_eq]

@[simp] theorem Environment.rename_module (environment : Environment) :
    (environment.rename names).module = environment.module := by
  cases environment
  rw [rename]

@[simp] theorem Environment.rename_scope (environment : Environment) :
    (environment.rename names).scope = environment.scope := by
  cases environment
  rw [rename]

@[simp] theorem Environment.rename_frame (environment : Environment) :
    (environment.rename names).frame = environment.frame.map (·.rename names) := by
  cases environment
  rw [rename_mk]

theorem Environment.rename_trail (environment : Environment) :
    (environment.rename names).frame.map (·.trail) =
      (environment.frame.map (·.trail)).map names := by
  rw [rename_frame]
  cases environment.frame with
  | none => rfl
  | some frame => exact congrArg some (Frame.rename_trail names frame)

theorem Environment.rename_site (environment : Environment) :
    (environment.rename names).frame.map (·.site) = environment.frame.map (·.site) := by
  rw [rename_frame]
  cases environment.frame with
  | none => rfl
  | some frame => exact congrArg some (Frame.rename_site names frame)

@[simp] theorem Environment.rename_withScope (environment : Environment) (scope : ScopeId) :
    (environment.withScope scope).rename names = (environment.rename names).withScope scope := by
  simp only [withScope, rename_mk, rename_module, rename_frame]

@[simp] theorem Environment.rename_ofModule (module : Module) :
    (Environment.ofModule module).rename names = .ofModule module := by
  simp only [ofModule, rename_mk, Option.map_none]

@[simp] theorem Environment.rename_failure (environment : Environment) (loc : Loc)
    (cause : Cause) : (environment.rename names).failure loc cause =
      environment.failure loc cause := by
  simp only [failure, rename_module]

@[simp] theorem Environment.rename_lookup (environment : Environment) (name : String) :
    (environment.rename names).lookup name = environment.lookup name := by
  simp only [lookup, rename_module, rename_scope]

@[simp] theorem Goal.rename_failure (goal : Goal) (cause : Cause) :
    (goal.rename names).failure cause = goal.failure cause := by
  cases goal with
  | expression value environment => exact Environment.rename_failure names environment _ _
  | exported target name requester loc => rfl

@[simp] theorem Actual.rename_argument (value : Expr) (environment : Environment) :
    (Actual.argument value environment).rename names =
      .argument value (environment.rename names) := by
  rw [rename]

@[simp] theorem Actual.rename_default (value : Expr) :
    (Actual.default value).rename names = .default value := by
  rw [rename]

/-- Frames are looked for by their functions. -/
theorem Frame.find?_rename {condition : Frame → Bool}
    (kept : ∀ frame, condition (frame.rename names) = condition frame) :
    ∀ frame : Frame, (frame.rename names).find? condition =
      (frame.find? condition).map (·.rename names)
  | ⟨trail, site, module, functionScope, bindings, parent⟩ => by
      rw [find?_eq, find?_eq, kept, rename_parent]
      split
      · rfl
      · match parent with
        | none => rfl
        | some outer => exact find?_rename kept outer

theorem Environment.find?_rename (condition : Frame → Bool)
    (kept : ∀ frame, condition (frame.rename names) = condition frame) (environment : Environment) :
    (environment.rename names).frame.bind (Frame.find? condition) =
      (environment.frame.bind (Frame.find? condition)).map (·.rename names) := by
  rw [rename_frame]
  cases environment.frame with
  | none => rfl
  | some frame => exact Frame.find?_rename names kept frame

theorem lookup_rename (bindings : List (String × Actual)) (name : String) :
    (bindings.map fun bound => (bound.1, bound.2.rename names)).lookup name =
      (bindings.lookup name).map (·.rename names) := by
  induction bindings with
  | nil => rfl
  | cons bound rest ih =>
      obtain ⟨first, actual⟩ := bound
      rw [List.map_cons, List.lookup_cons, List.lookup_cons, ih]
      cases name == first <;> rfl

end Parts

/-! ### What a step looks at -/

section Looks

variable (names : Trail → Trail)

@[simp] theorem isUndefined_rename (environment : Environment) (value : Expr) :
    isUndefined (environment.rename names) value = isUndefined environment value := by
  cases value with
  | identifier mark name => simp only [isUndefined, Environment.rename_lookup]
  | _ => rfl

@[simp] theorem wrapperName?_rename (options : Options) (environment : Environment)
    (callee : Expr) :
    wrapperName? options (environment.rename names) callee =
      wrapperName? options environment callee := by
  have imported (name : String) (expected : ImportKind) :
      wrapperImport? options (environment.rename names) name expected =
        wrapperImport? options environment name expected := by
    simp only [wrapperImport?, Environment.rename_lookup]
  cases callee with
  | identifier mark name => simp only [wrapperName?, imported]
  | member mark optional object property =>
      cases object with
      | identifier objectMark name => simp only [wrapperName?, imported]
      | _ => rfl
  | _ => rfl

theorem bindParameters_rename (caller : Environment) (parameters : List Parameter)
    (arguments : List Argument) :
    bindParameters (caller.rename names) parameters arguments =
      (bindParameters caller parameters arguments).map
        (·.map fun bound => (bound.1, bound.2.rename names)) := by
  induction parameters generalizing arguments with
  | nil => rfl
  | cons parameter rest ih =>
      obtain ⟨mark, spread, pattern, default⟩ := parameter
      unfold bindParameters
      simp only [ih, isUndefined_rename]
      cases pattern with
      | name binding =>
          cases spread with
          | true => rfl
          | false =>
              dsimp only
              have renamed (actual : Actual) :
                  (do
                    let others ← (bindParameters caller rest arguments.tail).map
                      (·.map fun bound => (bound.1, bound.2.rename names))
                    return (binding.name, actual.rename names) :: others :
                      Except BindingError (List (String × Actual))) =
                  (do
                    let others ← bindParameters caller rest arguments.tail
                    return (binding.name, actual) :: others : Except BindingError _).map
                      (·.map fun bound => (bound.1, bound.2.rename names)) := by
                cases bindParameters caller rest arguments.tail <;> rfl
              cases arguments.head?.filter fun argument => !isUndefined caller argument.value with
              | some argument =>
                  have given := renamed (.argument argument.value caller)
                  rw [Actual.rename_argument] at given
                  exact given
              | none =>
                  cases default with
                  | none => rfl
                  | some value =>
                      have default := renamed (.default value)
                      rw [Actual.rename_default] at default
                      exact default
      | array _ _ _ => rfl
      | object _ _ _ => rfl

variable {names}

private theorem IdentifierKey.rename_injective (injective : Function.Injective names) :
    Function.Injective (IdentifierKey.rename names) := by
  rintro ⟨site, scope, trail⟩ ⟨otherSite, otherScope, otherTrail⟩ same
  simp only [rename, IdentifierKey.mk.injEq] at same
  obtain ⟨rfl, rfl, sameTrail⟩ := same
  rw [Option.map_injective injective sameTrail]

theorem Visited.enterIdentifier_rename (injective : Function.Injective names) (visited : Visited)
    (guards : Guards) (key : IdentifierKey) :
    (visited.rename names).enterIdentifier guards (key.rename names) =
      (visited.enterIdentifier guards key).map (·.rename names) := by
  have same : (visited.identifiers.map (·.rename names)).contains (key.rename names) =
      visited.identifiers.contains key := by
    simp only [List.contains_eq_mem, decide_eq_decide]
    exact List.mem_map_of_injective (IdentifierKey.rename_injective injective)
  unfold enterIdentifier
  simp only [rename, same]
  cases guards.identifiers && visited.identifiers.contains key <;> rfl

variable (names)

theorem Visited.enterExport_rename (visited : Visited) (guards : Guards) (key : ExportKey) :
    (visited.rename names).enterExport guards key =
      (visited.enterExport guards key).map (·.rename names) := by
  by_cases repeated : (guards.exports && visited.exports.contains key) = true
  · have refused : visited.enterExport guards key = none := if_pos repeated
    rw [refused]
    exact if_pos repeated
  · have entered : visited.enterExport guards key =
        some { visited with exports := key :: visited.exports } := if_neg repeated
    rw [entered]
    exact if_neg repeated

theorem Visited.enterCall_rename (visited : Visited) (guards : Guards) (key : CallKey) :
    (visited.rename names).enterCall guards key =
      (visited.enterCall guards key).map (·.rename names) := by
  by_cases repeated : (guards.calls && visited.calls.contains key) = true
  · have refused : visited.enterCall guards key = none := if_pos repeated
    rw [refused]
    exact if_pos repeated
  · have entered : visited.enterCall guards key =
        some { visited with calls := key :: visited.calls } := if_neg repeated
    rw [entered]
    exact if_neg repeated

end Looks

end QueryTypes.Resolution
