import QueryTypes.Number.Text

/-!
The types and top-level declarations of a generated TypeScript file. Only what generation needs is
modelled.
-/

set_option autoImplicit false

namespace QueryTypes.Declared

inductive Keyword where
  | string
  | number
  | boolean
  | null
  | unknown
  | never
  | uniqueSymbol
deriving DecidableEq

inductive MemberKey where
  | identifier (name : String)
  | string (value : String)
  /-- `[name]`, for a unique symbol. -/
  | computed (name : String)
deriving DecidableEq

mutual

inductive TypeExpr where
  | keyword (keyword : Keyword)
  | stringLiteral (value : String)
  | numberLiteral (value : Number)
  | booleanLiteral (value : Bool)
  | reference (name : String) (arguments : List TypeExpr)
  | union (types : List TypeExpr)
  | intersection (types : List TypeExpr)
  | literal (members : List Member)
  /-- A type with a block comment after it. -/
  | annotated (type : TypeExpr) (comment : String)

structure Member where
  key : MemberKey
  optional : Bool
  type : TypeExpr

end

namespace TypeExpr

def named (name : String) : TypeExpr := .reference name []

def isUnknown : TypeExpr → Bool
  | .keyword .unknown => true
  | .annotated type _ => type.isUnknown
  | _ => false

def isUnion : TypeExpr → Bool
  | .union _ => true
  | _ => false

end TypeExpr

structure Interface where
  name : String
  members : List Member

/-- A statement of the generated file. The comments are written above it, each on a line. -/
inductive TopLevel where
  | importType (names : List String) (source : String) (comments : List String)
  | constant (name : String) (type : TypeExpr) (comments : List String)
  | alias (name : String) (parameters : List String) (type : TypeExpr) (exported : Bool)
      (comments : List String)
  | augmentation (target : String) (interface : Interface) (comments : List String)

namespace TopLevel

def exportedAlias (name : String) (type : TypeExpr) : TopLevel := .alias name [] type true []

def comments : TopLevel → List String
  | .importType _ _ comments => comments
  | .constant _ _ comments => comments
  | .alias _ _ _ _ comments => comments
  | .augmentation _ _ comments => comments

def withComments (lines : List String) : TopLevel → TopLevel
  | .importType names source comments => .importType names source (comments ++ lines)
  | .constant name type comments => .constant name type (comments ++ lines)
  | .alias name parameters type exported comments =>
      .alias name parameters type exported (comments ++ lines)
  | .augmentation target interface comments => .augmentation target interface (comments ++ lines)

end TopLevel

end QueryTypes.Declared
