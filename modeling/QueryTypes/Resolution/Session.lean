import QueryTypes.Resolution.Evaluate

/-!
Resolutions in a row, with what one leaves behind for the next.

A session keeps the modules that were fetched, so that none is fetched twice. It numbers the frames
of calls one after the other and counts how many evaluations are under way. All three outlive a
resolution, also one that fails. The steps are those that plans describe; here they are taken with
the memory at hand, one nested evaluation inside the other.
-/

set_option autoImplicit false

namespace QueryTypes.Resolution

open QueryTypes.Script
open QueryTypes.Source
open QueryTypes.Scoping
open QueryTypes.Modules

/-- What outlives a resolution. -/
structure Memory where
  /-- The modules fetched so far, in order. -/
  modules : List Module
  nextFrame : Nat
  /-- How many evaluations are under way. -/
  depth : Nat

/-- A computation with the memory at hand. What it changed there stays changed if it fails. -/
abbrev Run := ExceptT Failure (StateM Memory)

namespace Run

def fetch (context : Context) (moment : Moment) (specifier : String) (importer : Module)
    (loc : Loc) : Run Module := do
  let failure (cause : Cause) : Failure := .within importer loc cause
  if context.expired moment then throw (failure (.timeout context.options.timeoutMs))
  else match context.host.resolve specifier importer.path with
    | .error message => throw (failure (.host message))
    | .ok path =>
        match (← get).modules.find? fun known => known.path == path with
        | some known => return known
        | none =>
            match context.host.load path with
            | .error message => throw (failure (.host message))
            | .ok program =>
                let found := Module.ofProgram path program
                modify fun memory => { memory with modules := memory.modules ++ [found] }
                return found

def freshTrail : Run Trail := do
  let memory ← get
  set { memory with nextFrame := memory.nextFrame + 1 }
  return [memory.nextFrame]

/-- Counts as an evaluation under way until it ends, one way or the other. The time is looked at
first. -/
def nested (context : Context) (moment : Moment) (goal : Goal) (step : Run Value) :
    Run Value := do
  if context.expired moment then throw (goal.failure (.timeout context.options.timeoutMs))
  else
    modify fun memory => { memory with depth := memory.depth + 1 }
    try
      if context.options.maxDepth < (← get).depth then
        throw (goal.failure (.depthLimit context.options.maxDepth))
      else step
    finally
      modify fun memory => { memory with depth := memory.depth - 1 }

section Steps

/-! A step is taken on its trail. What it requests is evaluated by the number of the request. -/

variable (context : Context) (trail : Trail) (evaluate : Nat → Goal → Visited → Run Value)

def template (environment : Environment) (visited : Visited) (count : Nat) (before : String) :
    List TemplatePart → Run Value
  | [] => return .text before
  | .chunk text :: rest => template environment visited count (before ++ text) rest
  | .substitution value :: rest => do
      match ← evaluate count (.expression value environment) visited with
      | .text text => template environment visited (count + 1) (before ++ text) rest
      | .function _ => throw (environment.failure value.loc .notText)

def parameter (parameter : Variable) (loc : Loc) (environment : Environment)
    (visited : Visited) : Run Value :=
  let unbound := throw (environment.failure loc (.unboundParameter parameter.name))
  let frame := environment.frame.bind (Frame.find? fun frame =>
    frame.functionScope == parameter.scope && frame.module.path == environment.module.path)
  match frame with
  | none => unbound
  | some frame =>
      match frame.bindings.lookup parameter.name with
      | some (.argument value caller) => evaluate 0 (.expression value caller) visited
      | some (.default value) =>
          evaluate 0 (.expression value ⟨frame.module, frame.functionScope, some frame⟩) visited
      | none => unbound

def declarator (declared : Variable) (declaration : VariableDeclaration)
    (declarator : Declarator) (environment : Environment) (visited : Visited) : Run Value :=
  match declarator.pattern, declarator.initializer with
  | .name _, some initializer =>
      let scope := (environment.module.scopes.enclosing? declaration.mark.id).getD declared.scope
      evaluate 0 (.expression initializer (environment.withScope scope)) visited
  | .name binding, none =>
      throw (environment.failure binding.mark.loc (.missingInitializer declared.name))
  | pattern, _ => throw (environment.failure pattern.loc (.unsupportedDeclarator declared.name))

def declared (declared : Variable) (loc : Loc) (environment : Environment)
    (visited : Visited) : Run Value :=
  let unbound := throw (environment.failure loc (.unboundIdentifier declared.name))
  match declared.definitions.getLast? with
  | none => unbound
  | some (.declarator declaration index) =>
      match declaration.declarators[index]? with
      | none => unbound
      | some found => declarator evaluate declared declaration found environment visited
  | some (.importBinding declaration kind imported localName) =>
      if kind = .everything then
        throw (environment.failure localName.mark.loc (.namespaceImport declared.name))
      else do
        let target ← fetch context (.fetch (0 :: trail)) declaration.source environment.module
          declaration.mark.loc
        evaluate 0 (.exported target imported environment.module localName.mark.loc) visited
  | some (.functionName _ function) =>
      return .function ⟨function, environment.module, environment.frame⟩
  | some (.parameter _ _) => parameter evaluate declared loc environment visited
  | some (.catchParameter name) =>
      throw (environment.failure loc
        (.unsupportedBinding declared.name (Definition.catchParameter name).kindName))

def identifier (mark : Mark) (name : String) (environment : Environment) (visited : Visited) :
    Run Value :=
  let key : IdentifierKey :=
    ⟨⟨environment.module.path, mark.id⟩, environment.scope, environment.frame.map (·.trail)⟩
  match visited.enterIdentifier context.guards key with
  | none => throw (environment.failure mark.loc (.circularReference name))
  | some visited =>
      match environment.lookup name with
      | none => throw (environment.failure mark.loc (.unboundIdentifier name))
      | some found => declared context trail evaluate found mark.loc environment visited

/-- The callee was the first request. -/
def body (function : Function) (inside : Environment) (visited : Visited) : Run Value :=
  match function.body with
  | .expression value => evaluate 1 (.expression value inside) visited
  | .statements statements =>
      match Stmt.listReturns statements with
      | [statement] =>
          match statement.value with
          | none => throw (inside.failure statement.mark.loc .missingReturnArgument)
          | some value =>
              let scope := (inside.module.scopes.enclosing? statement.mark.id).getD inside.scope
              evaluate 1 (.expression value (inside.withScope scope)) visited
      | returns => throw (inside.failure function.mark.loc (.returnCount returns.length))

def apply (closure : Closure) (call : Mark) (arguments : List Argument) (caller : Environment)
    (visited : Visited) : Run Value :=
  let function := closure.function
  let callee := Environment.ofModule closure.module
  if function.async then throw (caller.failure call.loc (.notEvaluable "async"))
  else if function.generator then throw (caller.failure call.loc (.notEvaluable "generator"))
  else match arguments.find? (·.spread) with
    | some spread => throw (caller.failure spread.mark.loc .spreadArgument)
    | none =>
        match closure.module.scopes.createdBy? function.mark.id with
        | none => throw (callee.failure function.mark.loc (.unsupportedExpression "Function"))
        | some functionScope =>
            match bindParameters caller function.parameters arguments with
            | .error (.parameter loc) => throw (callee.failure loc .unsupportedParameter)
            | .error (.missing name) => throw (caller.failure call.loc (.missingArgument name))
            | .ok bindings => do
                let frame : Frame :=
                  { trail := ← freshTrail
                    site := ⟨caller.module.path, call.id⟩
                    module := closure.module
                    functionScope
                    bindings := bindings.reverse
                    parent := closure.frame }
                body evaluate function ⟨closure.module, functionScope, some frame⟩ visited

def callValue (mark : Mark) (callee : Expr) (arguments : List Argument)
    (environment : Environment) (visited : Visited) : Run Value := do
  match ← evaluate 0 (.expression callee environment) visited with
  | .text _ => throw (environment.failure callee.loc .notCallable)
  | .function closure =>
      let key : CallKey :=
        { site := ⟨environment.module.path, mark.id⟩
          caller := environment.frame.map (·.site)
          callee := ⟨closure.module.path, closure.function.mark.id⟩ }
      match visited.enterCall context.guards key with
      | none =>
          throw (environment.failure mark.loc (.circularReference (Plan.calleeName callee)))
      | some visited => apply evaluate closure mark arguments environment visited

def call (mark : Mark) (callee : Expr) (arguments : List Argument) (environment : Environment)
    (visited : Visited) : Run Value :=
  match wrapperName? context.options environment callee with
  | some wrapper =>
      match arguments.head? with
      | none => throw (environment.failure mark.loc (.missingQueryArgument wrapper))
      | some first =>
          if first.spread then throw (environment.failure first.mark.loc .spreadArgument)
          else evaluate 0 (.expression first.value environment) visited
  | none => callValue context evaluate mark callee arguments environment visited

def expression (value : Expr) (environment : Environment) (visited : Visited) : Run Value :=
  let unsupportedTag (mark : Mark) (tag : String) :=
    throw (environment.failure mark.loc (.unsupportedTag tag))
  match value with
  | .tagged mark (.identifier _ name) parts =>
      if context.options.isQueryTag name then template evaluate environment visited 0 "" parts
      else unsupportedTag mark name
  | .tagged mark tag _ => unsupportedTag mark tag.kindName
  | .template _ parts => template evaluate environment visited 0 "" parts
  | .string _ text => return .text text
  | .number _ number => return .text number.text
  | .boolean _ truth => return .text (if truth then "true" else "false")
  | .bigInteger _ digits => return .text digits
  | .null mark | .regex mark _ =>
      throw (environment.failure mark.loc (.unsupportedLiteral value.kindName))
  | .identifier mark name => identifier context trail evaluate mark name environment visited
  | .call mark _ callee arguments =>
      call context evaluate mark callee arguments environment visited
  | .arrow _ function | .function _ _ function =>
      return .function ⟨function, environment.module, environment.frame⟩
  | .binary mark _ _ _ | .member mark _ _ _ | .array mark _ | .object mark _ =>
      throw (environment.failure mark.loc (.unsupportedExpression value.kindName))

def wildcards (target : Module) (name : String) (visited : Visited) (missing : Failure)
    (count : Nat) : List (String × Loc) → Run Value
  | [] => throw missing
  | (source, loc) :: rest => do
      let found ← fetch context (.fetch (count :: trail)) source target loc
      try evaluate count (.exported found name target loc) visited
      catch failure =>
        if failure.cause.isExportMissing then
          wildcards target name visited missing (count + 1) rest
        else throw failure

def exportEntry (target : Module) (entry : ExportName) (source : Option String)
    (visited : Visited) : Run Value :=
  match source with
  | some source => do
      let found ← fetch context (.fetch (0 :: trail)) source target entry.mark.loc
      evaluate 0 (.exported found entry.target target entry.mark.loc) visited
  | none =>
      match target.scopes.declared? ScopeTree.root entry.target with
      | some found =>
          declared context trail evaluate found entry.mark.loc (.ofModule target) visited
      | none => throw (.within target entry.mark.loc (.unboundIdentifier entry.target))

def namedExport (target : Module) (name : String) (visited : Visited) (missing : Failure) :
    Run Value :=
  match target.scopes.declared? ScopeTree.root name with
  | some found =>
      declared context trail evaluate found target.program.mark.loc (.ofModule target) visited
  | none =>
      match exportEntry? target.body name with
      | some (entry, source) => exportEntry context trail evaluate target entry source visited
      | none =>
          wildcards context trail evaluate target name visited missing 0
            (wildcardSources target.body)

def exported (target : Module) (name : String) (requester : Module) (loc : Loc)
    (visited : Visited) : Run Value :=
  match visited.enterExport context.guards ⟨target.path, name⟩ with
  | none => throw (.within requester loc (.circularExport name target.path))
  | some visited =>
      match if name = "default" then defaultExport? target.body else none with
      | some (.expression value) => evaluate 0 (.expression value (.ofModule target)) visited
      | some (.function function) => return .function ⟨function, target, none⟩
      | none =>
          namedExport context trail evaluate target name visited
            (.within requester loc (.exportNotFound name target.path))

def step (goal : Goal) (visited : Visited) : Run Value :=
  match goal with
  | .expression value environment => expression context trail evaluate value environment visited
  | .exported target name requester loc =>
      exported context trail evaluate target name requester loc visited

end Steps

/-- The value of a goal. Evaluations nest no deeper than the options permit, so a stack with room
for one more is never used up. -/
def evaluate (context : Context) : (stack : Nat) → Trail → Goal → Visited → Run Value
  | 0, _, goal, _ => throw (goal.failure (.depthLimit context.options.maxDepth))
  | stack + 1, trail, goal, visited =>
      nested context (.start trail) goal
        (step context trail (fun number => evaluate context stack (number :: trail)) goal visited)

def text (context : Context) (trail : Trail) (value : Expr) (environment : Environment) :
    Run String := do
  let stack := context.options.maxDepth + 1
  match ← evaluate context stack trail (.expression value environment) .empty with
  | .text text => return text
  | .function _ => throw (environment.failure value.loc .notText)

end Run

/-- Several resolutions in a row, with one memory and one clock. -/
structure Session where
  context : Context
  memory : Memory
  /-- How many resolutions were done. -/
  served : Nat

namespace Session

def start (context : Context) : Session := ⟨context, ⟨[], 1, 0⟩, 0⟩

def loadedCount (session : Session) : Nat := session.memory.modules.length

/-- The text of an expression, and the session after that. The trails of each resolution end in its
number, so the clock may go on from one to the next. -/
def resolve (session : Session) (value : Expr) (environment : Environment) :
    Except Failure String × Session :=
  let (result, memory) :=
    (Run.text session.context [session.served] value environment) session.memory
  (result, { session with memory, served := session.served + 1 })

end Session

end QueryTypes.Resolution
