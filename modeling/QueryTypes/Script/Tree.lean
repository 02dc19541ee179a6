import QueryTypes.Number.Text
import QueryTypes.Source.Location

/-!
The syntax tree of a script module.

Every node has a mark: a number that is its own within its program, and its place in the
source. The number only serves as an identity; what a node means never depends on it.
-/

set_option autoImplicit false

namespace QueryTypes.Script

open QueryTypes.Source

abbrev NodeId := Nat

structure Mark where
  id : NodeId
  loc : Loc
deriving DecidableEq

structure Binding where
  mark : Mark
  name : String
deriving DecidableEq

inductive Mode where
  | constant
  | lexical
  | hoisted
deriving DecidableEq

/-- `imported as localName` in an import. -/
structure ImportName where
  imported : String
  localName : Binding
deriving DecidableEq

inductive ImportNames where
  | all (localName : Binding)
  | some (names : List ImportName)
deriving DecidableEq

structure ImportDeclaration where
  mark : Mark
  typeOnly : Bool
  default : Option Binding
  names : Option ImportNames
  source : String
deriving DecidableEq

/-- `target as exported` in an export list. The target is a local binding, or a name that the source
of a re-export provides. -/
structure ExportName where
  mark : Mark
  target : String
  exported : String
deriving DecidableEq

/-- `all none` exports everything under its own name, `all` with a binding as one object. -/
inductive ExportNames where
  | all (exported : Option Binding)
  | some (names : List ExportName)
deriving DecidableEq

structure ExportList where
  mark : Mark
  typeOnly : Bool
  names : ExportNames
  source : Option String
deriving DecidableEq

mutual

inductive Expr where
  | arrow (mark : Mark) (function : Function)
  | binary (mark : Mark) (operator : String) (left right : Expr)
  | call (mark : Mark) (optional : Bool) (callee : Expr) (arguments : List Argument)
  | function (mark : Mark) (name : Option Binding) (function : Function)
  | identifier (mark : Mark) (name : String)
  | member (mark : Mark) (optional : Bool) (object : Expr) (property : String)
  | tagged (mark : Mark) (tag : Expr) (parts : List TemplatePart)
  | array (mark : Mark) (elements : List Expr)
  | bigInteger (mark : Mark) (digits : String)
  | boolean (mark : Mark) (value : Bool)
  | null (mark : Mark)
  | number (mark : Mark) (value : Number)
  | object (mark : Mark) (members : List (String × Expr))
  | regex (mark : Mark) (pattern : String)
  | string (mark : Mark) (value : String)
  | template (mark : Mark) (parts : List TemplatePart)

/-- A piece of a template; its text is taken after escapes have been replaced. -/
inductive TemplatePart where
  | chunk (text : String)
  | substitution (value : Expr)

structure Argument where
  mark : Mark
  spread : Bool
  value : Expr

structure Function where
  mark : Mark
  arrow : Bool
  async : Bool
  generator : Bool
  parameters : List Parameter
  body : FunctionBody

structure Parameter where
  mark : Mark
  rest : Bool
  pattern : Pattern
  default : Option Expr

/-- The statements of a body share the scope of the parameters. -/
inductive FunctionBody where
  | statements (body : List Stmt)
  | expression (value : Expr)

inductive Pattern where
  | name (binding : Binding)
  | array (mark : Mark) (elements : List (Option PatternElement)) (rest : Option Pattern)
  | object (mark : Mark) (properties : List PatternProperty) (rest : Option Pattern)

structure PatternElement where
  target : Pattern
  default : Option Expr

structure PatternProperty where
  mark : Mark
  key : String
  target : Pattern
  default : Option Expr

inductive Stmt where
  | block (block : Block)
  | empty (mark : Mark)
  | exportDefault (mark : Mark) (value : Expr)
  | exportList (exports : ExportList)
  | expression (mark : Mark) (value : Expr)
  | function (declaration : FunctionDeclaration)
  | conditional (mark : Mark) (test : Expr) (consequent : Stmt) (alternate : Option Stmt)
  | imports (declaration : ImportDeclaration)
  | returns (statement : Return)
  | switch (mark : Mark) (test : Expr) (branches : List SwitchBranch)
  | attempt (mark : Mark) (wrapped : Block) (handler : Option CatchClause)
      (cleanup : Option Block)
  | variables (declaration : VariableDeclaration)
  | loop (mark : Mark) (condition : Expr) (body : Stmt)

structure Block where
  mark : Mark
  body : List Stmt

/-- Only a default export may leave the name out. -/
structure FunctionDeclaration where
  mark : Mark
  exported : Bool
  exportedAsDefault : Bool
  name : Option Binding
  function : Function

structure Return where
  mark : Mark
  value : Option Expr

/-- A branch without a test is the default one. -/
structure SwitchBranch where
  mark : Mark
  test : Option Expr
  body : List Stmt

/-- The clause's scope starts with its parameter, so the body is no block of its own. -/
structure CatchClause where
  mark : Mark
  parameter : Option Pattern
  body : List Stmt

structure Declarator where
  pattern : Pattern
  initializer : Option Expr

/-- The comments are those directly before the declaration, without their delimiters. -/
structure VariableDeclaration where
  mark : Mark
  exported : Bool
  mode : Mode
  declarators : List Declarator
  comments : List String

end

structure Program where
  mark : Mark
  body : List Stmt
  lines : LineIndex

def Expr.kindName : Expr → String
  | .arrow .. => "ArrowFunctionExpression"
  | .binary .. => "BinaryExpression"
  | .call .. => "CallExpression"
  | .function .. => "FunctionExpression"
  | .identifier .. => "Identifier"
  | .member .. => "MemberExpression"
  | .tagged .. => "TaggedTemplateExpression"
  | .array .. => "ArrayExpression"
  | .bigInteger .. => "BigIntLiteral"
  | .boolean .. => "BooleanLiteral"
  | .null .. => "NullLiteral"
  | .number .. => "NumericLiteral"
  | .object .. => "ObjectExpression"
  | .regex .. => "RegExpLiteral"
  | .string .. => "StringLiteral"
  | .template .. => "TemplateLiteral"

def Expr.mark : Expr → Mark
  | .arrow mark .. => mark
  | .binary mark .. => mark
  | .call mark .. => mark
  | .function mark .. => mark
  | .identifier mark .. => mark
  | .member mark .. => mark
  | .tagged mark .. => mark
  | .array mark .. => mark
  | .bigInteger mark .. => mark
  | .boolean mark .. => mark
  | .null mark => mark
  | .number mark .. => mark
  | .object mark .. => mark
  | .regex mark .. => mark
  | .string mark .. => mark
  | .template mark .. => mark

def Expr.loc (expr : Expr) : Loc := expr.mark.loc

def Pattern.loc : Pattern → Loc
  | .name binding => binding.mark.loc
  | .array mark .. => mark.loc
  | .object mark .. => mark.loc

mutual

/-- Every name a pattern binds, depth first; a rest comes after what it is the rest of. -/
def Pattern.bindings : Pattern → List Binding
  | .name binding => [binding]
  | .array _ elements rest => Pattern.elementBindings elements ++ Pattern.restBindings rest
  | .object _ properties rest => Pattern.propertyBindings properties ++ Pattern.restBindings rest

def Pattern.restBindings : Option Pattern → List Binding
  | none => []
  | some rest => rest.bindings

def Pattern.elementBindings : List (Option PatternElement) → List Binding
  | [] => []
  | none :: rest => Pattern.elementBindings rest
  | some ⟨target, _⟩ :: rest => target.bindings ++ Pattern.elementBindings rest

def Pattern.propertyBindings : List PatternProperty → List Binding
  | [] => []
  | ⟨_, _, target, _⟩ :: rest => target.bindings ++ Pattern.propertyBindings rest

end

def Program.dependencies (program : Program) : List String :=
  program.body.filterMap fun
    | .imports declaration => some declaration.source
    | .exportList exports => exports.source
    | _ => none

end QueryTypes.Script
