import QueryTypes.Resolution.Failure

/-!
What expressions evaluate to, and where they are evaluated: a scope of a module together with
the arguments of the calls in progress.
-/

set_option autoImplicit false

namespace QueryTypes.Resolution

open QueryTypes.Script
open QueryTypes.Scoping
open QueryTypes.Modules

/-- Which of its parent's requests each evaluation was, from the innermost to the first. No two
evaluations of one resolution have the same trail. -/
abbrev Trail := List Nat

/-- When the clock is looked at: as an evaluation starts, and before a module is fetched for one
that is to start. -/
inductive Moment where
  | start (trail : Trail)
  | fetch (trail : Trail)

/-- How many milliseconds of a resolution are over, at each moment. -/
abbrev Clock := Moment → Nat

structure Site where
  path : String
  node : NodeId
deriving DecidableEq

mutual

structure Frame where
  /-- The evaluation that made the call. -/
  trail : Trail
  /-- The call expression. -/
  site : Site
  module : Module
  functionScope : ScopeId
  /-- Of several parameters of one name the first here counts. -/
  bindings : List (String × Actual)
  /-- The call around the function's definition, if there is one. -/
  parent : Option Frame

inductive Actual where
  /-- An argument, evaluated where the call was made. -/
  | argument (value : Expr) (environment : Environment)
  /-- The parameter's default, evaluated inside the function. -/
  | default (value : Expr)

structure Environment where
  module : Module
  scope : ScopeId
  frame : Option Frame

end

namespace Environment

def ofModule (module : Module) : Environment := ⟨module, ScopeTree.root, none⟩

def withScope (environment : Environment) (scope : ScopeId) : Environment :=
  ⟨environment.module, scope, environment.frame⟩

def failure (environment : Environment) (loc : Source.Loc) (cause : Cause) : Failure :=
  .within environment.module loc cause

def lookup (environment : Environment) (name : String) : Option Variable :=
  environment.module.scopes.lookup environment.scope name

end Environment

def Frame.find? (condition : Frame → Bool) : Frame → Option Frame
  | ⟨trail, site, module, functionScope, bindings, parent⟩ =>
      let frame : Frame := ⟨trail, site, module, functionScope, bindings, parent⟩
      if condition frame then some frame
      else match parent with
        | none => none
        | some outer => outer.find? condition

structure Closure where
  function : Function
  module : Module
  frame : Option Frame

inductive Value where
  | text (value : String)
  | function (closure : Closure)

structure IdentifierKey where
  site : Site
  scope : ScopeId
  trail : Option Trail
deriving DecidableEq

structure ExportKey where
  path : String
  name : String
deriving DecidableEq

/-- A call expression, the call expression that made the frame it runs in, and the function. A
function entered again from the same call expression under the same outer call repeats a state
that is already on the way. -/
structure CallKey where
  site : Site
  caller : Option Site
  callee : Site
deriving DecidableEq

structure Guards where
  identifiers : Bool
  exports : Bool
  calls : Bool
deriving DecidableEq

def Guards.all : Guards := ⟨true, true, true⟩

structure Visited where
  identifiers : List IdentifierKey
  exports : List ExportKey
  calls : List CallKey
deriving DecidableEq

namespace Visited

def empty : Visited := ⟨[], [], []⟩

/-- Notes a use of an identifier; nothing if it is a refused repetition. -/
def enterIdentifier (visited : Visited) (guards : Guards) (key : IdentifierKey) :
    Option Visited :=
  if guards.identifiers && visited.identifiers.contains key then none
  else some { visited with identifiers := key :: visited.identifiers }

def enterExport (visited : Visited) (guards : Guards) (key : ExportKey) : Option Visited :=
  if guards.exports && visited.exports.contains key then none
  else some { visited with exports := key :: visited.exports }

def enterCall (visited : Visited) (guards : Guards) (key : CallKey) : Option Visited :=
  if guards.calls && visited.calls.contains key then none
  else some { visited with calls := key :: visited.calls }

end Visited

end QueryTypes.Resolution
