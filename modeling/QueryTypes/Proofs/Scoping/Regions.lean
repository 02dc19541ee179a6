import QueryTypes.Scoping.Event

/-!
Where the parts of a program stand, read from its syntax alone.

A construct with names of its own makes a region in which they are declared. A site is a part that
declares names, makes a region or uses a name, together with the constructs that it stands in, from
the inside out. Sites are listed in the order of the syntax tree, each before what is inside it.
There is no walk here that enters and leaves scopes: what a part stands in is handed down to it.

Not all that stands in a construct stands in its region. The test of a switch statement does not
see the names of its branches, and the parameter of a catch clause does not see those of the
clause's statements, which have a region of their own inside that of the parameter.
-/

set_option autoImplicit false

namespace QueryTypes.Scoping

open QueryTypes.Script

/-- Where names are declared, by the node that makes the place for them. The parameters and the body
of a function have one region together. -/
inductive Region where
  | module
  | function (maker : NodeId)
  /-- The own name of a function expression. -/
  | functionName (maker : NodeId)
  | block (maker : NodeId)
  /-- All branches of a switch statement together. -/
  | branches (maker : NodeId)
  | catchParameter (maker : NodeId)
  | catchBody (maker : NodeId)
deriving DecidableEq

def Region.maker? : Region → Option NodeId
  | .module => none
  | .function maker | .functionName maker | .block maker | .branches maker
  | .catchParameter maker | .catchBody maker => some maker

inductive Nesting where
  | function (maker : NodeId)
  | functionName (maker : NodeId)
  | block (maker : NodeId)
  | switchTest (maker : NodeId)
  | switchBranches (maker : NodeId)
  | catchParameter (maker : NodeId)
  | catchBody (maker : NodeId)
deriving DecidableEq

namespace Nesting

def maker : Nesting → NodeId
  | .function maker | .functionName maker | .block maker | .switchTest maker
  | .switchBranches maker | .catchParameter maker | .catchBody maker => maker

def isFunction : Nesting → Bool
  | .function _ => true
  | .functionName _ | .block _ | .switchTest _ | .switchBranches _ | .catchParameter _
  | .catchBody _ => false

def region : Nesting → Region
  | .function maker => .function maker
  | .functionName maker => .functionName maker
  | .block maker => .block maker
  | .switchTest maker | .switchBranches maker => .branches maker
  | .catchParameter maker => .catchParameter maker
  | .catchBody maker => .catchBody maker

/-- The regions of a construct that this part of it stands in, from the inside out. -/
def visible : Nesting → List Region
  | .function maker => [.function maker]
  | .functionName maker => [.functionName maker]
  | .block maker => [.block maker]
  | .switchTest _ => []
  | .switchBranches maker => [.branches maker]
  | .catchParameter maker => [.catchParameter maker]
  | .catchBody maker => [.catchBody maker, .catchParameter maker]

def hidden : Nesting → List Region
  | .switchTest maker => [.branches maker]
  | .catchParameter maker => [.catchBody maker]
  | .function _ | .functionName _ | .block _ | .switchBranches _ | .catchBody _ => []

end Nesting

def innermostRegion : List Nesting → Region
  | [] => .module
  | nesting :: _ => nesting.region

def functionRegion (around : List Nesting) : Region :=
  innermostRegion (around.dropWhile fun nesting => !nesting.isFunction)

def variableRegion (around : List Nesting) : Mode → Region
  | .hoisted => functionRegion around
  | .constant | .lexical => innermostRegion around

theorem Nesting.maker?_region (nesting : Nesting) : nesting.region.maker? = some nesting.maker := by
  cases nesting <;> rfl

section Around

variable {around : List Nesting} {maker : NodeId}

theorem innermostRegion_nesting (made : (innermostRegion around).maker? = some maker) :
    ∃ nesting ∈ around, nesting.region = innermostRegion around := by
  cases around with
  | nil => cases made
  | cons nesting outer => exact ⟨nesting, List.mem_cons_self, rfl⟩

private theorem functionRegion_nesting (made : (functionRegion around).maker? = some maker) :
    ∃ nesting ∈ around, nesting.region = functionRegion around := by
  obtain ⟨nesting, present, same⟩ := innermostRegion_nesting made
  exact ⟨nesting, (List.dropWhile_sublist _).subset present, same⟩

theorem variableRegion_nesting {mode : Mode}
    (made : (variableRegion around mode).maker? = some maker) :
    ∃ nesting ∈ around, nesting.region = variableRegion around mode := by
  cases mode with
  | hoisted => exact functionRegion_nesting made
  | constant => exact innermostRegion_nesting made
  | lexical => exact innermostRegion_nesting made

end Around

inductive Construct where
  | block (block : Block)
  | switch (mark : Mark)
  | catchClause (clause : CatchClause)
  | function (function : Function)
  /-- A function expression with a name of its own, which the function is inside. -/
  | namedFunction (mark : Mark) (name : Binding) (function : Function)
  | functionDeclaration (declaration : FunctionDeclaration)
  | variables (declaration : VariableDeclaration)
  | imports (declaration : ImportDeclaration)
  | returns (statement : Return)
  | identifier (mark : Mark) (name : String)

/-- A part of a program and what it stands in, from the inside out. The module is left out. -/
structure Site where
  around : List Nesting
  construct : Construct

/-- A function expression's own name, which is around the function. -/
def nameSite (around : List Nesting) (mark : Mark) (name : Option Binding) (function : Function) :
    List Site :=
  name.toList.map fun binding => ⟨around, .namedFunction mark binding function⟩

def insideName (around : List Nesting) (mark : Mark) : Option Binding → List Nesting
  | none => around
  | some _ => .functionName mark.id :: around

mutual

def exprSites (around : List Nesting) : Expr → List Site
  | .arrow _ function => functionSites around function
  | .binary _ _ left right => exprSites around left ++ exprSites around right
  | .call _ _ callee arguments => exprSites around callee ++ argumentsSites around arguments
  | .function mark name function =>
      nameSite around mark name function ++ functionSites (insideName around mark name) function
  | .identifier mark name => [⟨around, .identifier mark name⟩]
  | .member _ _ object _ => exprSites around object
  | .tagged _ tag parts => exprSites around tag ++ partsSites around parts
  | .array _ elements => exprsSites around elements
  | .bigInteger _ _ | .boolean _ _ | .null _ | .number _ _ | .regex _ _ | .string _ _ => []
  | .object _ members => membersSites around members
  | .template _ parts => partsSites around parts

def exprsSites (around : List Nesting) : List Expr → List Site
  | [] => []
  | first :: rest => exprSites around first ++ exprsSites around rest

def optionSites (around : List Nesting) : Option Expr → List Site
  | none => []
  | some value => exprSites around value

def membersSites (around : List Nesting) : List (String × Expr) → List Site
  | [] => []
  | (_, value) :: rest => exprSites around value ++ membersSites around rest

def partSites (around : List Nesting) : TemplatePart → List Site
  | .chunk _ => []
  | .substitution value => exprSites around value

def partsSites (around : List Nesting) : List TemplatePart → List Site
  | [] => []
  | first :: rest => partSites around first ++ partsSites around rest

def argumentsSites (around : List Nesting) : List Argument → List Site
  | [] => []
  | ⟨_, _, value⟩ :: rest => exprSites around value ++ argumentsSites around rest

def functionSites (around : List Nesting) : Function → List Site
  | ⟨mark, arrow, async, generator, parameters, body⟩ =>
      ⟨around, .function ⟨mark, arrow, async, generator, parameters, body⟩⟩ ::
        (parametersSites (.function mark.id :: around) parameters ++
          bodySites (.function mark.id :: around) body)

def parametersSites (around : List Nesting) : List Parameter → List Site
  | [] => []
  | ⟨_, _, pattern, default⟩ :: rest =>
      patternSites around pattern ++ optionSites around default ++ parametersSites around rest

def bodySites (around : List Nesting) : FunctionBody → List Site
  | .statements body => stmtsSites around body
  | .expression value => exprSites around value

def patternSites (around : List Nesting) : Pattern → List Site
  | .name _ => []
  | .array _ elements rest => elementsSites around elements ++ restSites around rest
  | .object _ properties rest => propertiesSites around properties ++ restSites around rest

def restSites (around : List Nesting) : Option Pattern → List Site
  | none => []
  | some pattern => patternSites around pattern

def elementsSites (around : List Nesting) : List (Option PatternElement) → List Site
  | [] => []
  | none :: rest => elementsSites around rest
  | some ⟨target, default⟩ :: rest =>
      patternSites around target ++ optionSites around default ++ elementsSites around rest

def propertiesSites (around : List Nesting) : List PatternProperty → List Site
  | [] => []
  | ⟨_, _, target, default⟩ :: rest =>
      patternSites around target ++ optionSites around default ++ propertiesSites around rest

def stmtSites (around : List Nesting) : Stmt → List Site
  | .block block => blockSites around block
  | .empty _ | .exportList _ => []
  | .exportDefault _ value | .expression _ value => exprSites around value
  | .function ⟨mark, exported, exportedAsDefault, name, function⟩ =>
      ⟨around, .functionDeclaration ⟨mark, exported, exportedAsDefault, name, function⟩⟩ ::
        functionSites around function
  | .conditional _ test consequent alternate =>
      exprSites around test ++ stmtSites around consequent ++ alternateSites around alternate
  | .imports declaration => [⟨around, .imports declaration⟩]
  | .returns ⟨mark, value⟩ => ⟨around, .returns ⟨mark, value⟩⟩ :: optionSites around value
  | .switch mark test branches =>
      ⟨around, .switch mark⟩ :: (exprSites (.switchTest mark.id :: around) test ++
        branchesSites (.switchBranches mark.id :: around) branches)
  | .attempt _ wrapped handler cleanup =>
      blockSites around wrapped ++ handlerSites around handler ++ cleanupSites around cleanup
  | .variables ⟨mark, exported, mode, declarators, comments⟩ =>
      ⟨around, .variables ⟨mark, exported, mode, declarators, comments⟩⟩ ::
        declaratorsSites around declarators
  | .loop _ condition body => exprSites around condition ++ stmtSites around body

def stmtsSites (around : List Nesting) : List Stmt → List Site
  | [] => []
  | first :: rest => stmtSites around first ++ stmtsSites around rest

def alternateSites (around : List Nesting) : Option Stmt → List Site
  | none => []
  | some statement => stmtSites around statement

def blockSites (around : List Nesting) : Block → List Site
  | ⟨mark, body⟩ => ⟨around, .block ⟨mark, body⟩⟩ :: stmtsSites (.block mark.id :: around) body

def cleanupSites (around : List Nesting) : Option Block → List Site
  | none => []
  | some block => blockSites around block

def handlerSites (around : List Nesting) : Option CatchClause → List Site
  | none => []
  | some ⟨mark, parameter, body⟩ =>
      ⟨around, .catchClause ⟨mark, parameter, body⟩⟩ ::
        (restSites (.catchParameter mark.id :: around) parameter ++
          stmtsSites (.catchBody mark.id :: around) body)

def branchesSites (around : List Nesting) : List SwitchBranch → List Site
  | [] => []
  | ⟨_, test, body⟩ :: rest =>
      optionSites around test ++ stmtsSites around body ++ branchesSites around rest

def declaratorsSites (around : List Nesting) : List Declarator → List Site
  | [] => []
  | ⟨pattern, initializer⟩ :: rest =>
      patternSites around pattern ++ optionSites around initializer ++
        declaratorsSites around rest

end

def programSites (program : Program) : List Site := stmtsSites [] program.body

/-! ### What sites declare -/

structure Declaration where
  region : Region
  name : String
  definition : Definition

def importedNames (declaration : ImportDeclaration) : List (ImportKind × String × Binding) :=
  let single := declaration.default.toList.map fun localName => (.default, "default", localName)
  let others := match declaration.names with
    | none => []
    | some (.all localName) => [(.everything, localName.name, localName)]
    | some (.some names) => names.map fun name => (.named, name.imported, name.localName)
  single ++ others

def indexedBindings (patterns : List Pattern) : List (Binding × Nat) :=
  patterns.zipIdx.flatMap fun (pattern, index) => pattern.bindings.map (·, index)

/-- The names that a site declares. A variable declaration is one node of the tree, which declares
the names of all its declarators; imports belong to the module wherever they stand. -/
def Site.declarations : Site → List Declaration
  | ⟨around, .variables declaration⟩ =>
      (indexedBindings (declaration.declarators.map (·.pattern))).map fun (binding, index) =>
        ⟨variableRegion around declaration.mode, binding.name, .declarator declaration index⟩
  | ⟨around, .functionDeclaration declaration⟩ =>
      declaration.name.toList.map fun binding =>
        ⟨innermostRegion around, binding.name, .functionName binding declaration.function⟩
  | ⟨_, .imports declaration⟩ =>
      (importedNames declaration).map fun (kind, imported, localName) =>
        ⟨.module, localName.name, .importBinding declaration kind imported localName⟩
  | ⟨_, .function function⟩ =>
      (indexedBindings (function.parameters.map (·.pattern))).map fun (binding, index) =>
        ⟨.function function.mark.id, binding.name, .parameter function index⟩
  | ⟨_, .namedFunction mark name function⟩ =>
      [⟨.functionName mark.id, name.name, .functionName name function⟩]
  | ⟨_, .catchClause clause⟩ =>
      (clause.parameter.toList.flatMap (·.bindings)).map fun binding =>
        ⟨.catchParameter clause.mark.id, binding.name, .catchParameter binding⟩
  | ⟨_, .block _⟩ | ⟨_, .switch _⟩ | ⟨_, .returns _⟩ | ⟨_, .identifier _ _⟩ => []

def programDeclarations (program : Program) : List Declaration :=
  (programSites program).flatMap Site.declarations

def Construct.scope? : Construct → Option (NodeId × ScopeKind)
  | .block statement => some (statement.mark.id, .block)
  | .switch mark => some (mark.id, .block)
  | .catchClause clause => some (clause.mark.id, .block)
  | .function made => some (made.mark.id, if made.arrow then .arrowFunction else .function)
  | .namedFunction mark _ _ => some (mark.id, .functionName)
  | .functionDeclaration _ | .variables _ | .imports _ | .returns _ | .identifier _ _ => none

def scopeMakers (program : Program) : List (NodeId × ScopeKind) :=
  (programSites program).filterMap (·.construct.scope?)

inductive Binds : Pattern → Binding → Prop
  | name (binding : Binding) : Binds (.name binding) binding
  | element {mark : Mark} {elements : List (Option PatternElement)} {rest : Option Pattern}
      {element : PatternElement} {binding : Binding} : some element ∈ elements →
        Binds element.target binding → Binds (.array mark elements rest) binding
  | arrayRest {mark : Mark} {elements : List (Option PatternElement)} {rest : Pattern}
      {binding : Binding} :
        Binds rest binding → Binds (.array mark elements (some rest)) binding
  | property {mark : Mark} {properties : List PatternProperty} {rest : Option Pattern}
      {property : PatternProperty} {binding : Binding} : property ∈ properties →
        Binds property.target binding → Binds (.object mark properties rest) binding
  | objectRest {mark : Mark} {properties : List PatternProperty} {rest : Pattern}
      {binding : Binding} :
        Binds rest binding → Binds (.object mark properties (some rest)) binding

end QueryTypes.Scoping
