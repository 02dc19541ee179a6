import QueryTypes.Number.Text

/-!
The types of a content schema and of query results.
-/

set_option autoImplicit false

namespace QueryTypes.Schema

mutual

/-- The type of a value; a literal type carries its one value. -/
inductive ValueType where
  | string (value : Option String)
  | number (value : Option Number)
  | boolean (value : Option Bool)
  | null
  | unknown
  | array (element : ValueType)
  | object (shape : ObjectType)
  | union (members : List ValueType)
  /-- A reference to a declaration of the schema. -/
  | inline (name : String)

/-- The attributes are in order and their names are distinct. -/
structure ObjectType where
  attributes : List (String × Attribute)
  rest : Option ObjectRest
  /-- The type of document that this object refers to. -/
  dereferencesTo : Option String

inductive ObjectRest where
  | unknown
  | object (shape : ObjectType)
  | inline (name : String)

structure Attribute where
  value : ValueType
  optional : Bool

end

inductive Declaration where
  | type (name : String) (value : ValueType)
  | document (name : String) (attributes : List (String × Attribute))

def Declaration.name : Declaration → String
  | .type name _ => name
  | .document name _ => name

def ValueType.isInline : ValueType → Bool
  | .inline _ => true
  | _ => false

def ValueType.isNull : ValueType → Bool
  | .null => true
  | _ => false

end QueryTypes.Schema
