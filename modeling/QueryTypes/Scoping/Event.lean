import QueryTypes.Script.Tree

/-!
One walk over a program, written down as a list of events.

The walk meets every node once, each before what is inside it, and brackets what belongs to a
scope by `enter` and `leave`. All that the scopes of a program hold follows from this list alone,
and so does the list of its variable declarations.
-/

set_option autoImplicit false

namespace QueryTypes.Scoping

open QueryTypes.Script

inductive ScopeKind where
  | module
  | function
  | arrowFunction
  | block
  | functionName
deriving DecidableEq

def ScopeKind.isClosure : ScopeKind → Bool
  | .module | .function | .arrowFunction => true
  | .block | .functionName => false

inductive ImportKind where
  | default
  | named
  | everything
deriving DecidableEq

inductive Definition where
  /-- The declarator with the given index of a declaration. -/
  | declarator (declaration : VariableDeclaration) (index : Nat)
  /-- The name is one that the source exports; for an import of everything as one object it is the
  local name. -/
  | importBinding (declaration : ImportDeclaration) (kind : ImportKind) (imported : String)
      (localName : Binding)
  | functionName (name : Binding) (function : Function)
  | parameter (function : Function) (index : Nat)
  | catchParameter (name : Binding)

def Definition.kindName : Definition → String
  | .declarator .. => "Variable"
  | .importBinding .. => "ImportBinding"
  | .functionName .. => "FunctionName"
  | .parameter .. => "Parameter"
  | .catchParameter .. => "CatchParam"

def Definition.initializer? : Definition → Option Expr
  | .declarator declaration index => (declaration.declarators[index]?).bind (·.initializer)
  | _ => none

/-- Where a name is declared, seen from where its declaration stands. -/
inductive Target where
  | current
  | closure
  | module
deriving DecidableEq

inductive Event where
  /-- A node is met. -/
  | node (mark : Mark)
  /-- A scope starts, made by the given node. -/
  | enter (kind : ScopeKind) (creator : NodeId)
  | leave
  | declare (target : Target) (name : String) (definition : Definition)
  /-- An identifier is used. -/
  | refer (id : NodeId) (name : String)
  /-- A return statement is met. -/
  | returns (id : NodeId)
  /-- A variable declaration is met. -/
  | variables (declaration : VariableDeclaration)

def targetOf : Mode → Target
  | .hoisted => .closure
  | .constant | .lexical => .current

def declaratorEvents (declaration : VariableDeclaration) (index : Nat)
    (declarator : Declarator) : List Event :=
  declarator.pattern.bindings.map fun binding =>
    .declare (targetOf declaration.mode) binding.name (.declarator declaration index)

def variableEvents (declaration : VariableDeclaration) : List Event :=
  .variables declaration ::
    (declaration.declarators.mapIdx (declaratorEvents declaration)).flatten

def parameterEvents (function : Function) : List Event :=
  (function.parameters.mapIdx fun index parameter =>
    parameter.pattern.bindings.map fun binding =>
      .declare .current binding.name (.parameter function index)).flatten

def catchEvents : Option Pattern → List Event
  | none => []
  | some pattern => pattern.bindings.map fun binding =>
      .declare .current binding.name (.catchParameter binding)

/-- Imports belong to the module wherever they stand. -/
def importEvents (declaration : ImportDeclaration) : List Event :=
  let single := match declaration.default with
    | none => []
    | some localName =>
        [.declare .module localName.name (.importBinding declaration .default "default" localName)]
  let others := match declaration.names with
    | none => []
    | some (.all localName) =>
        [.declare .module localName.name
          (.importBinding declaration .everything localName.name localName)]
    | some (.some names) => names.map fun name =>
        .declare .module name.localName.name
          (.importBinding declaration .named name.imported name.localName)
  single ++ others

def importNodes (declaration : ImportDeclaration) : List Event :=
  let single := declaration.default.toList.map fun localName => Event.node localName.mark
  let others := match declaration.names with
    | none => []
    | some (.all localName) => [Event.node localName.mark]
    | some (.some names) => names.map fun name => Event.node name.localName.mark
  single ++ others

def exportNodes (exports : ExportList) : List Event :=
  match exports.names with
  | .all exported => exported.toList.map fun binding => Event.node binding.mark
  | .some names => names.map fun name => Event.node name.mark

def bindingNode (name : Option Binding) : List Event :=
  name.toList.map fun binding => Event.node binding.mark

def functionKind (function : Function) : ScopeKind :=
  if function.arrow then .arrowFunction else .function

def functionNameEvents (name : Option Binding) (function : Function) : List Event :=
  match name with
  | none => []
  | some binding => [.declare .current binding.name (.functionName binding function)]

/-- A named function expression sees its own name in a scope made for it. -/
def enterFunctionName (mark : Mark) (name : Option Binding) (function : Function) : List Event :=
  match name with
  | none => []
  | some binding =>
      [.enter .functionName mark.id,
        .declare .current binding.name (.functionName binding function)]

def leaveFunctionName (name : Option Binding) : List Event :=
  match name with
  | none => []
  | some _ => [.leave]

mutual

def exprEvents : Expr → List Event
  | .arrow mark function => .node mark :: functionEvents function
  | .binary mark _ left right => .node mark :: (exprEvents left ++ exprEvents right)
  | .call mark _ callee arguments =>
      .node mark :: (exprEvents callee ++ argumentsEvents arguments)
  | .function mark name function =>
      .node mark :: (enterFunctionName mark name function ++ bindingNode name ++
        functionEvents function ++ leaveFunctionName name)
  | .identifier mark name => [.node mark, .refer mark.id name]
  | .member mark _ object _ => .node mark :: exprEvents object
  | .tagged mark tag parts => .node mark :: (exprEvents tag ++ partsEvents parts)
  | .array mark elements => .node mark :: exprsEvents elements
  | .bigInteger mark _ => [.node mark]
  | .boolean mark _ => [.node mark]
  | .null mark => [.node mark]
  | .number mark _ => [.node mark]
  | .object mark members => .node mark :: membersEvents members
  | .regex mark _ => [.node mark]
  | .string mark _ => [.node mark]
  | .template mark parts => .node mark :: partsEvents parts

def exprsEvents : List Expr → List Event
  | [] => []
  | first :: rest => exprEvents first ++ exprsEvents rest

def optionEvents : Option Expr → List Event
  | none => []
  | some value => exprEvents value

def membersEvents : List (String × Expr) → List Event
  | [] => []
  | (_, value) :: rest => exprEvents value ++ membersEvents rest

def partEvents : TemplatePart → List Event
  | .chunk _ => []
  | .substitution value => exprEvents value

def partsEvents : List TemplatePart → List Event
  | [] => []
  | first :: rest => partEvents first ++ partsEvents rest

def argumentsEvents : List Argument → List Event
  | [] => []
  | ⟨mark, _, value⟩ :: rest => .node mark :: (exprEvents value ++ argumentsEvents rest)

def functionEvents : Function → List Event
  | ⟨mark, arrow, async, generator, parameters, body⟩ =>
      let function : Function := ⟨mark, arrow, async, generator, parameters, body⟩
      .node mark :: .enter (functionKind function) mark.id ::
        (parameterEvents function ++ parametersEvents parameters ++ bodyEvents body ++ [.leave])

def parametersEvents : List Parameter → List Event
  | [] => []
  | ⟨mark, _, pattern, default⟩ :: rest =>
      .node mark :: (patternEvents pattern ++ optionEvents default ++ parametersEvents rest)

def bodyEvents : FunctionBody → List Event
  | .statements body => stmtsEvents body
  | .expression value => exprEvents value

def patternEvents : Pattern → List Event
  | .name binding => [.node binding.mark]
  | .array mark elements rest =>
      .node mark :: (elementsEvents elements ++ restEvents rest)
  | .object mark properties rest =>
      .node mark :: (propertiesEvents properties ++ restEvents rest)

def restEvents : Option Pattern → List Event
  | none => []
  | some pattern => patternEvents pattern

def elementsEvents : List (Option PatternElement) → List Event
  | [] => []
  | none :: rest => elementsEvents rest
  | some ⟨target, default⟩ :: rest =>
      patternEvents target ++ optionEvents default ++ elementsEvents rest

def propertiesEvents : List PatternProperty → List Event
  | [] => []
  | ⟨mark, _, target, default⟩ :: rest =>
      .node mark :: (patternEvents target ++ optionEvents default ++ propertiesEvents rest)

def stmtEvents : Stmt → List Event
  | .block block => blockEvents block
  | .empty mark => [.node mark]
  | .exportDefault mark value => .node mark :: exprEvents value
  | .exportList exports => .node exports.mark :: exportNodes exports
  | .expression mark value => .node mark :: exprEvents value
  | .function ⟨mark, _, _, name, function⟩ =>
      .node mark :: (functionNameEvents name function ++ bindingNode name ++
        functionEvents function)
  | .conditional mark test consequent alternate =>
      .node mark :: (exprEvents test ++ stmtEvents consequent ++ alternateEvents alternate)
  | .imports declaration =>
      .node declaration.mark :: (importEvents declaration ++ importNodes declaration)
  | .returns ⟨mark, value⟩ => .node mark :: .returns mark.id :: optionEvents value
  | .switch mark test branches =>
      .node mark :: .enter .block mark.id ::
        (exprEvents test ++ branchesEvents branches ++ [.leave])
  | .attempt mark wrapped handler cleanup =>
      .node mark :: (blockEvents wrapped ++ handlerEvents handler ++ cleanupEvents cleanup)
  | .variables ⟨mark, exported, mode, declarators, comments⟩ =>
      .node mark :: (variableEvents ⟨mark, exported, mode, declarators, comments⟩ ++
        declaratorsEvents declarators)
  | .loop mark condition body => .node mark :: (exprEvents condition ++ stmtEvents body)

def stmtsEvents : List Stmt → List Event
  | [] => []
  | first :: rest => stmtEvents first ++ stmtsEvents rest

def alternateEvents : Option Stmt → List Event
  | none => []
  | some statement => stmtEvents statement

def blockEvents : Block → List Event
  | ⟨mark, body⟩ => .node mark :: .enter .block mark.id :: (stmtsEvents body ++ [.leave])

def cleanupEvents : Option Block → List Event
  | none => []
  | some block => blockEvents block

def handlerEvents : Option CatchClause → List Event
  | none => []
  | some ⟨mark, parameter, body⟩ =>
      .node mark :: .enter .block mark.id ::
        (catchEvents parameter ++ restEvents parameter ++ stmtsEvents body ++ [.leave])

def branchesEvents : List SwitchBranch → List Event
  | [] => []
  | ⟨mark, test, body⟩ :: rest =>
      .node mark :: (optionEvents test ++ stmtsEvents body ++ branchesEvents rest)

def declaratorsEvents : List Declarator → List Event
  | [] => []
  | ⟨pattern, initializer⟩ :: rest =>
      patternEvents pattern ++ optionEvents initializer ++ declaratorsEvents rest

end

def programEvents (program : Program) : List Event :=
  .node program.mark :: stmtsEvents program.body

end QueryTypes.Scoping
