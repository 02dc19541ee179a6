import QueryTypes.Resolution.Returns
import QueryTypes.Resolution.Value

/-!
What one step of evaluation asks for.

A step evaluates one expression or looks up one export. It is written as a plan: the nested
evaluations that it requests, one after another, each with what to do with the answer, and in the
end its own answer. Plans do not recurse into each other, so how deeply evaluations nest is
decided by whoever follows the plan.
-/

set_option autoImplicit false

namespace QueryTypes.Resolution

open QueryTypes.Script
open QueryTypes.Source
open QueryTypes.Scoping
open QueryTypes.Modules

structure Context where
  host : Host
  options : Options
  guards : Guards
  clock : Clock

def Context.expired (context : Context) (moment : Moment) : Bool :=
  context.options.timeoutMs ≤ context.clock moment

inductive Goal where
  | expression (value : Expr) (environment : Environment)
  /-- What `target` exports as `name`; the last two say where it is requested. -/
  | exported (target : Module) (name : String) (requester : Module) (loc : Loc)

def Goal.failure (cause : Cause) : Goal → Failure
  | .expression value environment => environment.failure value.loc cause
  | .exported _ _ requester loc => .within requester loc cause

structure Task where
  goal : Goal
  visited : Visited
  trail : Trail

inductive Plan where
  | finish (result : Except Failure Value)
  /-- The clock is looked at. Once the time is over, the failure is the answer. -/
  | timed (late : Failure) (rest : Plan)
  /-- A module is fetched from the host. -/
  | load (path : String) (rest : Plan)
  /-- A nested evaluation is requested. -/
  | ask (goal : Goal) (visited : Visited) (next : Except Failure Value → Plan)

namespace Plan

def answer (value : Value) : Plan := .finish (.ok value)

def fail (failure : Failure) : Plan := .finish (.error failure)

def become (goal : Goal) (visited : Visited) : Plan := .ask goal visited .finish

def withValue (goal : Goal) (visited : Visited) (next : Value → Plan) : Plan :=
  .ask goal visited fun
    | .ok value => next value
    | .error failure => fail failure

/-- Goes on with the module that a specifier names. If it is too late, or the host fails to give
one, that shows at the given place of the importer. -/
def withModule (context : Context) (specifier : String) (importer : Module) (loc : Loc)
    (next : Module → Plan) : Plan :=
  .timed (.within importer loc (.timeout context.options.timeoutMs))
    (match context.host.fetch specifier importer.path with
      | .ok found => .load found.path (next found)
      | .error message => fail (.within importer loc (.host message)))

/-- The text of a template, after what its earlier parts came to. Each substitution starts from
what the way to the template went through, so substitutions do not hinder each other. -/
def template (environment : Environment) (visited : Visited) (before : String) :
    List TemplatePart → Plan
  | [] => answer (.text before)
  | .chunk text :: rest => template environment visited (before ++ text) rest
  | .substitution value :: rest =>
      withValue (.expression value environment) visited fun
        | .text text => template environment visited (before ++ text) rest
        | .function _ => fail (environment.failure value.loc .notText)

def parameter (parameter : Variable) (loc : Loc) (environment : Environment)
    (visited : Visited) : Plan :=
  let unbound := fail (environment.failure loc (.unboundParameter parameter.name))
  let frame := environment.frame.bind (Frame.find? fun frame =>
    frame.functionScope == parameter.scope && frame.module.path == environment.module.path)
  match frame with
  | none => unbound
  | some frame =>
      match frame.bindings.lookup parameter.name with
      | some (.argument value caller) => become (.expression value caller) visited
      | some (.default value) =>
          become (.expression value ⟨frame.module, frame.functionScope, some frame⟩) visited
      | none => unbound

def declarator (declared : Variable) (declaration : VariableDeclaration)
    (declarator : Declarator) (environment : Environment) (visited : Visited) : Plan :=
  match declarator.pattern, declarator.initializer with
  | .name _, some initializer =>
      let scope := (environment.module.scopes.enclosing? declaration.mark.id).getD declared.scope
      become (.expression initializer (environment.withScope scope)) visited
  | .name binding, none =>
      fail (environment.failure binding.mark.loc (.missingInitializer declared.name))
  | pattern, _ => fail (environment.failure pattern.loc (.unsupportedDeclarator declared.name))

/-- The value of a variable by its last definition. The place is where the variable is used, in
the environment's module. -/
def declared (context : Context) (declared : Variable) (loc : Loc) (environment : Environment)
    (visited : Visited) : Plan :=
  let unbound := fail (environment.failure loc (.unboundIdentifier declared.name))
  match declared.definitions.getLast? with
  | none => unbound
  | some (.declarator declaration index) =>
      match declaration.declarators[index]? with
      | none => unbound
      | some found => declarator declared declaration found environment visited
  | some (.importBinding declaration kind imported localName) =>
      if kind = .everything then
        fail (environment.failure localName.mark.loc (.namespaceImport declared.name))
      else
        withModule context declaration.source environment.module declaration.mark.loc
          fun target =>
            become (.exported target imported environment.module localName.mark.loc) visited
  | some (.functionName _ function) =>
      answer (.function ⟨function, environment.module, environment.frame⟩)
  | some (.parameter _ _) => parameter declared loc environment visited
  | some (.catchParameter name) =>
      fail (environment.failure loc
        (.unsupportedBinding declared.name (Definition.catchParameter name).kindName))

def identifier (context : Context) (mark : Mark) (name : String) (environment : Environment)
    (visited : Visited) : Plan :=
  let key : IdentifierKey :=
    ⟨⟨environment.module.path, mark.id⟩, environment.scope, environment.frame.map (·.trail)⟩
  match visited.enterIdentifier context.guards key with
  | none => fail (environment.failure mark.loc (.circularReference name))
  | some visited =>
      match environment.lookup name with
      | none => fail (environment.failure mark.loc (.unboundIdentifier name))
      | some found => declared context found mark.loc environment visited

end Plan

def wrapperImport? (options : Options) (environment : Environment) (name : String)
    (expected : ImportKind) : Option String :=
  match (environment.lookup name).bind (·.definitions.getLast?) with
  | some (.importBinding declaration kind imported _) =>
      if kind = expected ∧ options.isWrapperSource declaration.source = true then some imported
      else none
  | _ => none

/-- The wrapper that a callee is: a name imported as one, or a member of an import of everything
from a source of wrappers. -/
def wrapperName? (options : Options) (environment : Environment) : Expr → Option String
  | .identifier _ name =>
      (wrapperImport? options environment name .named).filter options.isWrapper
  | .member _ _ (.identifier _ name) property =>
      if options.isWrapper property then
        (wrapperImport? options environment name .everything).map fun _ => property
      else none
  | _ => none

/-- Whether an argument is the identifier `undefined`, which nothing declares; it counts as no
argument. -/
def isUndefined (environment : Environment) : Expr → Bool
  | .identifier _ name => name == "undefined" && (environment.lookup name).isNone
  | _ => false

inductive BindingError where
  | parameter (loc : Loc)
  | missing (name : String)

def bindParameters (caller : Environment) :
    List Parameter → List Argument → Except BindingError (List (String × Actual))
  | [], _ => .ok []
  | ⟨mark, rest, pattern, default⟩ :: parameters, arguments =>
      match pattern, rest with
      | .name binding, false => do
          let actual ← match arguments.head?.filter fun argument =>
              !isUndefined caller argument.value with
            | some argument => .ok (.argument argument.value caller)
            | none =>
                match default with
                | some value => .ok (.default value)
                | none => .error (.missing binding.name)
          let others ← bindParameters caller parameters arguments.tail
          return (binding.name, actual) :: others
      | _, _ => .error (.parameter mark.loc)

namespace Plan

def body (function : Function) (inside : Environment) (visited : Visited) : Plan :=
  match function.body with
  | .expression value => become (.expression value inside) visited
  | .statements statements =>
      match Stmt.listReturns statements with
      | [statement] =>
          match statement.value with
          | none => fail (inside.failure statement.mark.loc .missingReturnArgument)
          | some value =>
              let scope := (inside.module.scopes.enclosing? statement.mark.id).getD inside.scope
              become (.expression value (inside.withScope scope)) visited
      | returns => fail (inside.failure function.mark.loc (.returnCount returns.length))

def apply (trail : Trail) (closure : Closure) (call : Mark) (arguments : List Argument)
    (caller : Environment) (visited : Visited) : Plan :=
  let function := closure.function
  let callee := Environment.ofModule closure.module
  if function.async then fail (caller.failure call.loc (.notEvaluable "async"))
  else if function.generator then fail (caller.failure call.loc (.notEvaluable "generator"))
  else match arguments.find? (·.spread) with
    | some spread => fail (caller.failure spread.mark.loc .spreadArgument)
    | none =>
        match closure.module.scopes.createdBy? function.mark.id with
        | none => fail (callee.failure function.mark.loc (.unsupportedExpression "Function"))
        | some functionScope =>
            match bindParameters caller function.parameters arguments with
            | .error (.parameter loc) => fail (callee.failure loc .unsupportedParameter)
            | .error (.missing name) => fail (caller.failure call.loc (.missingArgument name))
            | .ok bindings =>
                let frame : Frame :=
                  { trail
                    site := ⟨caller.module.path, call.id⟩
                    module := closure.module
                    functionScope
                    bindings := bindings.reverse
                    parent := closure.frame }
                body function ⟨closure.module, functionScope, some frame⟩ visited

def calleeName : Expr → String
  | .identifier _ name => name
  | _ => "function"

def callValue (context : Context) (trail : Trail) (mark : Mark) (callee : Expr)
    (arguments : List Argument) (environment : Environment) (visited : Visited) : Plan :=
  withValue (.expression callee environment) visited fun
    | .text _ => fail (environment.failure callee.loc .notCallable)
    | .function closure =>
        let key : CallKey :=
          { site := ⟨environment.module.path, mark.id⟩
            caller := environment.frame.map (·.site)
            callee := ⟨closure.module.path, closure.function.mark.id⟩ }
        match visited.enterCall context.guards key with
        | none => fail (environment.failure mark.loc (.circularReference (calleeName callee)))
        | some visited => apply trail closure mark arguments environment visited

/-- The value of a call. A wrapper gives its first argument back. -/
def call (context : Context) (trail : Trail) (mark : Mark) (callee : Expr)
    (arguments : List Argument) (environment : Environment) (visited : Visited) : Plan :=
  match wrapperName? context.options environment callee with
  | some wrapper =>
      match arguments.head? with
      | none => fail (environment.failure mark.loc (.missingQueryArgument wrapper))
      | some first =>
          if first.spread then fail (environment.failure first.mark.loc .spreadArgument)
          else become (.expression first.value environment) visited
  | none => callValue context trail mark callee arguments environment visited

def expression (context : Context) (trail : Trail) (value : Expr) (environment : Environment)
    (visited : Visited) : Plan :=
  let unsupportedTag (mark : Mark) (tag : String) :=
    fail (environment.failure mark.loc (.unsupportedTag tag))
  match value with
  | .tagged mark (.identifier _ name) parts =>
      if context.options.isQueryTag name then template environment visited "" parts
      else unsupportedTag mark name
  | .tagged mark tag _ => unsupportedTag mark tag.kindName
  | .template _ parts => template environment visited "" parts
  | .string _ text => answer (.text text)
  | .number _ number => answer (.text number.text)
  | .boolean _ truth => answer (.text (if truth then "true" else "false"))
  | .bigInteger _ digits => answer (.text digits)
  | .null mark | .regex mark _ =>
      fail (environment.failure mark.loc (.unsupportedLiteral value.kindName))
  | .identifier mark name => identifier context mark name environment visited
  | .call mark _ callee arguments =>
      call context trail mark callee arguments environment visited
  | .arrow _ function | .function _ _ function =>
      answer (.function ⟨function, environment.module, environment.frame⟩)
  | .binary mark _ _ _ | .member mark _ _ _ | .array mark _ | .object mark _ =>
      fail (environment.failure mark.loc (.unsupportedExpression value.kindName))

end Plan

inductive DefaultExport where
  | expression (value : Expr)
  | function (function : Function)

def defaultExport? (body : List Stmt) : Option DefaultExport :=
  body.findSome? fun
    | .exportDefault _ value => some (.expression value)
    | .function ⟨_, _, true, _, function⟩ => some (.function function)
    | _ => none

/-- The entries of the export lists among top-level statements, type exports left out, with the
source of each re-export. -/
def exportEntries (body : List Stmt) : List (ExportName × Option String) :=
  body.flatMap fun
    | .exportList ⟨_, false, .some names, source⟩ => names.map fun name => (name, source)
    | _ => []

def exportEntry? (body : List Stmt) (name : String) : Option (ExportName × Option String) :=
  ((exportEntries body).filter fun entry => entry.1.exported == name).getLast?

def wildcardSources (body : List Stmt) : List (String × Loc) :=
  body.filterMap fun
    | .exportList ⟨mark, _, .all none, some source⟩ => some (source, mark.loc)
    | _ => none

namespace Plan

/-- Looks for a name in one source after another. A source that does not export it, or that leads
back to a lookup on the way, is passed over; any other failure is the answer. -/
def wildcards (context : Context) (target : Module) (name : String) (visited : Visited)
    (missing : Failure) : List (String × Loc) → Plan
  | [] => fail missing
  | (source, loc) :: rest =>
      withModule context source target loc fun found =>
        .ask (.exported found name target loc) visited fun
          | .ok value => answer value
          | .error failure =>
              if failure.cause.isExportMissing then
                wildcards context target name visited missing rest
              else fail failure

def exportEntry (context : Context) (target : Module) (entry : ExportName)
    (source : Option String) (visited : Visited) : Plan :=
  match source with
  | some source =>
      withModule context source target entry.mark.loc fun found =>
        become (.exported found entry.target target entry.mark.loc) visited
  | none =>
      match target.scopes.declared? ScopeTree.root entry.target with
      | some found =>
          declared context found entry.mark.loc (.ofModule target) visited
      | none => fail (.within target entry.mark.loc (.unboundIdentifier entry.target))

/-- The value of a name that no default export provides: a top-level variable, whether it is
exported or not, then an export list's entry, then what is re-exported as a whole. -/
def namedExport (context : Context) (target : Module) (name : String) (visited : Visited)
    (missing : Failure) : Plan :=
  match target.scopes.declared? ScopeTree.root name with
  | some found =>
      declared context found target.program.mark.loc (.ofModule target) visited
  | none =>
      match exportEntry? target.body name with
      | some (entry, source) => exportEntry context target entry source visited
      | none =>
          wildcards context target name visited missing (wildcardSources target.body)

def exported (context : Context) (target : Module) (name : String) (requester : Module) (loc : Loc)
    (visited : Visited) : Plan :=
  match visited.enterExport context.guards ⟨target.path, name⟩ with
  | none => fail (.within requester loc (.circularExport name target.path))
  | some visited =>
      match if name = "default" then defaultExport? target.body else none with
      | some (.expression value) => become (.expression value (.ofModule target)) visited
      | some (.function function) => answer (.function ⟨function, target, none⟩)
      | none =>
          namedExport context target name visited
            (.within requester loc (.exportNotFound name target.path))

end Plan

def Task.plan (context : Context) (task : Task) : Plan :=
  match task.goal with
  | .expression value environment =>
      Plan.expression context task.trail value environment task.visited
  | .exported target name requester loc =>
      Plan.exported context target name requester loc task.visited

end QueryTypes.Resolution
