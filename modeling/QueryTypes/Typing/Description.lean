import QueryTypes.Declared.Basic
import QueryTypes.Schema.Basic
import QueryTypes.Typing.Identifier

/-!
Schema types as TypeScript types.
-/

set_option autoImplicit false

namespace QueryTypes.Typing

open QueryTypes.Schema
open QueryTypes.Declared

/-- The unique symbol under which a reference carries the name of what it refers to. -/
def referenceSymbol : String := "internalGroqTypeReferenceTo"

def keyedArrayName : String := "ArrayOf"

structure Naming where
  schemaId : String
  identifiers : List (String × String)

namespace Naming

def missingComment (naming : Naming) (name : String) : String :=
  " Unable to locate the referenced type \"" ++ name ++ "\" in schema \"" ++ naming.schemaId ++
    "\" "

def inline (naming : Naming) (name : String) : TypeExpr :=
  match naming.identifiers.lookup name with
  | some identifier => .named identifier
  | none => .annotated (.keyword .unknown) (naming.missingComment name)

end Naming

def unionOf : List TypeExpr → TypeExpr
  | [] => .keyword .never
  | [single] => single
  | types => .union types

def arrayOf (element : TypeExpr) : TypeExpr := .reference "Array" [element]

def keyedArrayOf (element : TypeExpr) : TypeExpr := .reference keyedArrayName [element]

def selected (inline : Bool) (members : List ValueType) (types : List TypeExpr) :
    List TypeExpr :=
  ((members.zip types).filter fun pair => pair.1.isInline == inline).map (·.2)

/-- An array of a union: the members that are references and the others are kept apart. -/
def arrayOfUnion (members : List ValueType) (types : List TypeExpr) : TypeExpr :=
  match selected true members types, selected false members types with
  | [], others => arrayOf (unionOf others)
  | inlines, [] => keyedArrayOf (unionOf inlines)
  | inlines, others => .union [keyedArrayOf (unionOf inlines), arrayOf (unionOf others)]

def referenceMembers : Option String → List Member
  | none => []
  | some target => [⟨.computed referenceSymbol, true, .stringLiteral target⟩]

/-- An object with a rest that is a reference; a missing one makes the whole object unknown. -/
def withInlineRest (members : List Member) (rest : TypeExpr) : TypeExpr :=
  if rest.isUnknown then rest else .intersection [.literal members, rest]

mutual

def describe (naming : Naming) : ValueType → TypeExpr
  | .string none => .keyword .string
  | .string (some value) => .stringLiteral value
  | .number none => .keyword .number
  | .number (some value) => .numberLiteral value
  | .boolean none => .keyword .boolean
  | .boolean (some value) => .booleanLiteral value
  | .null => .keyword .null
  | .unknown => .keyword .unknown
  | .array (.inline name) => keyedArrayOf (naming.inline name)
  | .array (.union members) => arrayOfUnion members (describeAll naming members)
  | .array element => arrayOf (describe naming element)
  | .object shape => describeObject naming shape
  | .union members => unionOf (describeAll naming members)
  | .inline name => naming.inline name

def describeAll (naming : Naming) : List ValueType → List TypeExpr
  | [] => []
  | first :: rest => describe naming first :: describeAll naming rest

/-- Of a rest that is an object only its own attributes count. -/
def describeObject (naming : Naming) : ObjectType → TypeExpr
  | ⟨attributes, none, target⟩ =>
      .literal (describeAttributes naming attributes ++ referenceMembers target)
  | ⟨_, some .unknown, _⟩ => .keyword .unknown
  | ⟨attributes, some (.object ⟨others, _, _⟩), target⟩ =>
      .literal (describeAttributes naming attributes ++ describeAttributes naming others ++
        referenceMembers target)
  | ⟨attributes, some (.inline name), _⟩ =>
      withInlineRest (describeAttributes naming attributes) (naming.inline name)

def describeAttributes (naming : Naming) : List (String × Attribute) → List Member
  | [] => []
  | (name, ⟨value, optional⟩) :: rest =>
      ⟨.identifier (Identifier.sanitize name), optional, describe naming value⟩ ::
        describeAttributes naming rest

end

def describeDeclaration (naming : Naming) : Declaration → TypeExpr
  | .type _ value => describe naming value
  | .document _ attributes => .literal (describeAttributes naming attributes)

end QueryTypes.Typing
