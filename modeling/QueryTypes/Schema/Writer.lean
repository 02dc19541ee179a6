import QueryTypes.Json.Basic
import QueryTypes.Schema.Basic

/-!
The JSON form of a schema. How numbers are written is left to the caller; fields that say nothing
are left out.
-/

set_option autoImplicit false

namespace QueryTypes.Schema

def presentField (name : String) {α : Type} (write : α → Json) :
    Option α → List (String × Json)
  | none => []
  | some value => [(name, write value)]

def optionalField (optional : Bool) : List (String × Json) :=
  if optional then [("optional", .boolean true)] else []

mutual

def ValueType.toJson (number : Number → Json) : ValueType → Json
  | .string value => .record (("type", .text "string") :: presentField "value" Json.text value)
  | .number value => .record (("type", .text "number") :: presentField "value" number value)
  | .boolean value => .record (("type", .text "boolean") :: presentField "value" Json.boolean value)
  | .null => .record [("type", .text "null")]
  | .unknown => .record [("type", .text "unknown")]
  | .array element => .record [("type", .text "array"), ("of", element.toJson number)]
  | .object shape => .record (("type", .text "object") :: shape.fields number)
  | .union members => .record [("type", .text "union"), ("of", .list (typesJson number members))]
  | .inline name => .record [("type", .text "inline"), ("name", .text name)]

def typesJson (number : Number → Json) : List ValueType → List Json
  | [] => []
  | first :: rest => first.toJson number :: typesJson number rest

def ObjectType.fields (number : Number → Json) : ObjectType → List (String × Json)
  | ⟨attributes, rest, target⟩ =>
      ("attributes", .record (attributesJson number attributes)) ::
        (restField number rest ++ presentField "dereferencesTo" Json.text target)

def attributesJson (number : Number → Json) :
    List (String × Attribute) → List (String × Json)
  | [] => []
  | (name, ⟨value, optional⟩) :: rest =>
      (name, .record (("value", value.toJson number) :: optionalField optional)) ::
        attributesJson number rest

def restField (number : Number → Json) : Option ObjectRest → List (String × Json)
  | none => []
  | some rest => [("rest", rest.toJson number)]

def ObjectRest.toJson (number : Number → Json) : ObjectRest → Json
  | .unknown => .record [("type", .text "unknown")]
  | .object shape => .record (("type", .text "object") :: shape.fields number)
  | .inline name => .record [("type", .text "inline"), ("name", .text name)]

end

def Declaration.toJson (number : Number → Json) : Declaration → Json
  | .type name value =>
      .record [("type", .text "type"), ("name", .text name), ("value", value.toJson number)]
  | .document name attributes =>
      .record [("type", .text "document"), ("name", .text name),
        ("attributes", .record (attributesJson number attributes))]

def toJson (number : Number → Json) (schema : List Declaration) : Json :=
  .list (schema.map (Declaration.toJson number))

end QueryTypes.Schema
