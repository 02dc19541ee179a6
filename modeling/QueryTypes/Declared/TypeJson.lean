import QueryTypes.Declared.Basic
import QueryTypes.Json.Basic

/-!
The JSON form of generated types and declarations: objects that carry the name of their kind in
`$t` beside their fields.
-/

set_option autoImplicit false

namespace QueryTypes.Declared

def Keyword.toJson : Keyword → Json
  | .string => .text "String"
  | .number => .text "Number"
  | .boolean => .text "Boolean"
  | .null => .text "Null"
  | .unknown => .text "Unknown"
  | .never => .text "Never"
  | .uniqueSymbol => .text "UniqueSymbol"

def MemberKey.toJson : MemberKey → Json
  | .identifier name => .record [("$t", .text "Identifier"), ("name", .text name)]
  | .string value => .record [("$t", .text "String"), ("value", .text value)]
  | .computed name => .record [("$t", .text "Computed"), ("name", .text name)]

mutual

def TypeExpr.toJson : TypeExpr → Json
  | .keyword keyword => .record [("$t", .text "Keyword"), ("keyword", keyword.toJson)]
  | .stringLiteral value => .record [("$t", .text "StringLit"), ("value", .text value)]
  | .numberLiteral value => .record [("$t", .text "NumberLit"), ("value", .bits value)]
  | .booleanLiteral value => .record [("$t", .text "BooleanLit"), ("value", .boolean value)]
  | .reference name arguments =>
      .record [("$t", .text "Reference"), ("name", .text name),
        ("args", .list (typesJson arguments))]
  | .union types => .record [("$t", .text "Union"), ("types", .list (typesJson types))]
  | .intersection types =>
      .record [("$t", .text "Intersection"), ("types", .list (typesJson types))]
  | .literal members =>
      .record [("$t", .text "Literal"), ("members", .list (membersJson members))]
  | .annotated type comment =>
      .record [("$t", .text "Annotated"), ("ty", type.toJson), ("comment", .text comment)]

def typesJson : List TypeExpr → List Json
  | [] => []
  | first :: rest => first.toJson :: typesJson rest

def membersJson : List Member → List Json
  | [] => []
  | ⟨key, optional, type⟩ :: rest =>
      .record [("key", key.toJson), ("optional", .boolean optional), ("ty", type.toJson)] ::
        membersJson rest

end

def Interface.toJson (interface : Interface) : Json :=
  .record [("name", .text interface.name), ("members", .list (membersJson interface.members))]

def TopLevel.toJson : TopLevel → Json
  | .importType names source comments =>
      .record [("$t", .text "ImportType"), ("names", .ofList Json.text names),
        ("module", .text source), ("comments", .ofList Json.text comments)]
  | .constant name type comments =>
      .record [("$t", .text "DeclareConst"), ("name", .text name), ("ty", type.toJson),
        ("comments", .ofList Json.text comments)]
  | .alias name parameters type exported comments =>
      .record [("$t", .text "TypeAlias"), ("name", .text name),
        ("params", .ofList Json.text parameters), ("ty", type.toJson),
        ("exported", .boolean exported), ("comments", .ofList Json.text comments)]
  | .augmentation target interface comments =>
      .record [("$t", .text "DeclareModule"), ("module", .text target),
        ("interface", interface.toJson), ("comments", .ofList Json.text comments)]

end QueryTypes.Declared
