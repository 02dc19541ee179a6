import QueryTypes.Proofs.Scoping.Growth
import QueryTypes.Resolution.Plan

/-!
What expressions mean, said without how they are evaluated.

A place is a scope together with the calls that its functions are in: at most one call for each
function around it, and none for any other. Nothing counts how deeply evaluations nest, remembers
what was visited or fetched, or keeps calls in the order in which they were made. Arguments are
passed unevaluated, with the place of the call.
-/

set_option autoImplicit false

namespace QueryTypes.Resolution

open QueryTypes.Script
open QueryTypes.Scoping
open QueryTypes.Modules

mutual

/-- A call of a function: what its parameters stand for, and the calls that the functions around
its definition are in. -/
structure Activation where
  /-- Of several parameters of one name the first here counts. -/
  bindings : List (String × Supplied)
  captured : ScopeId → Option Activation

inductive Supplied where
  /-- An argument and where the call stands. -/
  | argument (value : Expr) (place : Place)
  /-- The default of the parameter, which stands inside the function. -/
  | default (value : Expr)

structure Place where
  module : Module
  scope : ScopeId
  /-- The call that each function around the scope is in, by the function's scope. -/
  activations : ScopeId → Option Activation

end

def Activation.inside (activation : Activation) (own : ScopeId) : ScopeId → Option Activation :=
  fun id => if id = own then some activation else activation.captured id

namespace Place

def ofModule (module : Module) : Place := ⟨module, ScopeTree.root, fun _ => none⟩

/-- The calls that the functions around a scope are in, out of those here. -/
def around (place : Place) (scope : ScopeId) : ScopeId → Option Activation :=
  fun id => if id ∈ place.module.scopes.functionsAround scope then place.activations id else none

/-- A scope further out, or one in a block of the same function. -/
def moved (place : Place) (scope : ScopeId) : Place := ⟨place.module, scope, place.around scope⟩

def lexical (place : Place) : Environment := ⟨place.module, place.scope, none⟩

end Place

inductive Denotation where
  | text (value : String)
  /-- A function with the calls that the functions around its definition are in. -/
  | function (function : Function) (module : Module) (captured : ScopeId → Option Activation)

def Place.Counts (place : Place) (argument : Argument) : Prop :=
  isUndefined place.lexical argument.value = false

inductive Supplies (place : Place) :
    List Parameter → List Argument → List (String × Supplied) → Prop
  | nil {arguments : List Argument} : Supplies place [] arguments []
  | argument {parameter : Parameter} {binding : Binding} {argument : Argument}
      {parameters : List Parameter} {arguments : List Argument}
      {others : List (String × Supplied)} :
      parameter.pattern = .name binding → parameter.rest = false → place.Counts argument →
        Supplies place parameters arguments others →
          Supplies place (parameter :: parameters) (argument :: arguments)
            ((binding.name, .argument argument.value place) :: others)
  | default {parameter : Parameter} {binding : Binding} {value : Expr}
      {parameters : List Parameter} {arguments : List Argument}
      {others : List (String × Supplied)} :
      parameter.pattern = .name binding → parameter.rest = false →
        (∀ argument, arguments.head? = some argument → ¬ place.Counts argument) →
          parameter.default = some value → Supplies place parameters arguments.tail others →
            Supplies place (parameter :: parameters) arguments
              ((binding.name, .default value) :: others)

section Meaning

variable (host : Host) (options : Options)

mutual

inductive Evaluates : Expr → Place → Denotation → Prop
  | string {mark : Mark} {text : String} {place : Place} :
      Evaluates (.string mark text) place (.text text)
  | number {mark : Mark} {number : Number} {place : Place} :
      Evaluates (.number mark number) place (.text number.text)
  | boolean {mark : Mark} {truth : Bool} {place : Place} :
      Evaluates (.boolean mark truth) place (.text (if truth then "true" else "false"))
  | bigInteger {mark : Mark} {digits : String} {place : Place} :
      Evaluates (.bigInteger mark digits) place (.text digits)
  | template {mark : Mark} {parts : List TemplatePart} {place : Place} {text : String} :
      Composes parts place text → Evaluates (.template mark parts) place (.text text)
  | tagged {mark tagMark : Mark} {tag : String} {parts : List TemplatePart} {place : Place}
      {text : String} :
      options.isQueryTag tag = true → Composes parts place text →
        Evaluates (.tagged mark (.identifier tagMark tag) parts) place (.text text)
  | identifier {mark : Mark} {name : String} {place : Place} {known : Variable}
      {meant : Denotation} :
      place.lexical.lookup name = some known → Denotes known place meant →
        Evaluates (.identifier mark name) place meant
  /-- A function captures the calls of the functions around it. -/
  | arrow {mark : Mark} {function : Function} {place : Place} :
      Evaluates (.arrow mark function) place
        (.function function place.module (place.around place.scope))
  | function {mark : Mark} {name : Option Binding} {function : Function} {place : Place} :
      Evaluates (.function mark name function) place
        (.function function place.module (place.around place.scope))
  /-- A wrapper gives its first argument back. -/
  | wrapper {mark : Mark} {optional : Bool} {callee : Expr} {arguments : List Argument}
      {place : Place} {name : String} {first : Argument} {meant : Denotation} :
      wrapperName? options place.lexical callee = some name → arguments.head? = some first →
        first.spread = false → Evaluates first.value place meant →
          Evaluates (.call mark optional callee arguments) place meant
  | call {mark : Mark} {optional : Bool} {callee : Expr} {arguments : List Argument}
      {place : Place} {function : Function} {module : Module}
      {captured : ScopeId → Option Activation} {own : ScopeId}
      {bindings : List (String × Supplied)} {meant : Denotation} :
      wrapperName? options place.lexical callee = none →
        Evaluates callee place (.function function module captured) →
        function.async = false → function.generator = false →
        (∀ argument ∈ arguments, argument.spread = false) →
        module.scopes.createdBy? function.mark.id = some own →
        Supplies place function.parameters arguments bindings →
        Gives function ⟨module, own, Activation.inside ⟨bindings.reverse, captured⟩ own⟩ meant →
          Evaluates (.call mark optional callee arguments) place meant

inductive Composes : List TemplatePart → Place → String → Prop
  | nil {place : Place} : Composes [] place ""
  | chunk {first text : String} {rest : List TemplatePart} {place : Place} :
      Composes rest place text → Composes (.chunk first :: rest) place (first ++ text)
  | substitution {value : Expr} {first text : String} {rest : List TemplatePart} {place : Place} :
      Evaluates value place (.text first) → Composes rest place text →
        Composes (.substitution value :: rest) place (first ++ text)

/-- What a variable means by its last definition, used at a place. -/
inductive Denotes : Variable → Place → Denotation → Prop
  /-- A declarator's initializer stands where the declaration does. -/
  | declarator {known : Variable} {declaration : VariableDeclaration} {index : Nat}
      {binding : Binding} {initializer : Expr} {place : Place} {meant : Denotation} :
      known.definitions.getLast? = some (.declarator declaration index) →
        declaration.declarators[index]? = some ⟨.name binding, some initializer⟩ →
        Evaluates initializer (place.moved
          ((place.module.scopes.enclosing? declaration.mark.id).getD known.scope)) meant →
          Denotes known place meant
  | imported {known : Variable} {declaration : ImportDeclaration} {kind : ImportKind}
      {imported : String} {localName : Binding} {place : Place} {target : Module}
      {meant : Denotation} :
      known.definitions.getLast? = some (.importBinding declaration kind imported localName) →
        kind ≠ .everything → host.fetch declaration.source place.module.path = .ok target →
        Exports target imported meant → Denotes known place meant
  /-- A declared function captures the calls of the functions around its declaration. -/
  | functionName {known : Variable} {name : Binding} {function : Function} {place : Place} :
      known.definitions.getLast? = some (.functionName name function) →
        Denotes known place (.function function place.module (place.around known.scope))
  | argument {known : Variable} {function : Function} {index : Nat} {place caller : Place}
      {activation : Activation} {value : Expr} {meant : Denotation} :
      known.definitions.getLast? = some (.parameter function index) →
        place.activations known.scope = some activation →
        activation.bindings.lookup known.name = some (.argument value caller) →
        Evaluates value caller meant → Denotes known place meant
  | default {known : Variable} {function : Function} {index : Nat} {place : Place}
      {activation : Activation} {value : Expr} {meant : Denotation} :
      known.definitions.getLast? = some (.parameter function index) →
        place.activations known.scope = some activation →
        activation.bindings.lookup known.name = some (.default value) →
        Evaluates value ⟨place.module, known.scope, activation.inside known.scope⟩ meant →
          Denotes known place meant

inductive Gives : Function → Place → Denotation → Prop
  | expression {function : Function} {value : Expr} {place : Place} {meant : Denotation} :
      function.body = .expression value → Evaluates value place meant →
        Gives function place meant
  | returned {function : Function} {statements : List Stmt} {statement : Return} {value : Expr}
      {place : Place} {meant : Denotation} :
      function.body = .statements statements → Stmt.listReturns statements = [statement] →
        statement.value = some value →
        Evaluates value (place.moved
          ((place.module.scopes.enclosing? statement.mark.id).getD place.scope)) meant →
          Gives function place meant

/-- What a module exports under a name. A default export comes first, then a top-level variable,
then an entry of an export list; only then any source of which everything is re-exported. -/
inductive Exports : Module → String → Denotation → Prop
  | defaultExpression {target : Module} {value : Expr} {meant : Denotation} :
      defaultExport? target.body = some (.expression value) →
        Evaluates value (.ofModule target) meant → Exports target "default" meant
  | defaultFunction {target : Module} {function : Function} :
      defaultExport? target.body = some (.function function) →
        Exports target "default" (.function function target fun _ => none)
  | topLevel {target : Module} {name : String} {known : Variable} {meant : Denotation} :
      (name = "default" → defaultExport? target.body = none) →
        target.scopes.declared? ScopeTree.root name = some known →
        Denotes known (.ofModule target) meant → Exports target name meant
  | listed {target : Module} {name : String} {entry : ExportName} {known : Variable}
      {meant : Denotation} :
      (name = "default" → defaultExport? target.body = none) →
        target.scopes.declared? ScopeTree.root name = none →
        exportEntry? target.body name = some (entry, none) →
        target.scopes.declared? ScopeTree.root entry.target = some known →
        Denotes known (.ofModule target) meant → Exports target name meant
  | reexported {target found : Module} {name source : String} {entry : ExportName}
      {meant : Denotation} :
      (name = "default" → defaultExport? target.body = none) →
        target.scopes.declared? ScopeTree.root name = none →
        exportEntry? target.body name = some (entry, some source) →
        host.fetch source target.path = .ok found → Exports found entry.target meant →
          Exports target name meant
  | wildcard {target found : Module} {name source : String} {loc : Source.Loc}
      {meant : Denotation} :
      (name = "default" → defaultExport? target.body = none) →
        target.scopes.declared? ScopeTree.root name = none →
        exportEntry? target.body name = none → (source, loc) ∈ wildcardSources target.body →
        host.fetch source target.path = .ok found → Exports found name meant →
          Exports target name meant

end

end Meaning

end QueryTypes.Resolution
