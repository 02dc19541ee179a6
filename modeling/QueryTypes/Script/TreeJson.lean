import QueryTypes.Json.Basic
import QueryTypes.Script.Tree

/-!
The JSON form of a syntax tree. Marks are left out. Expressions, patterns and statements carry
the name of their kind in `$t` beside their fields; the other alternatives are objects with one
member.
-/

set_option autoImplicit false

namespace QueryTypes.Script

def Binding.toJson (binding : Binding) : Json := .record [("name", .text binding.name)]

def Mode.toJson : Mode → Json
  | .constant => .text "Const"
  | .lexical => .text "Let"
  | .hoisted => .text "Var"

def ImportName.toJson (name : ImportName) : Json :=
  .record [("importable", .text name.imported), ("alias", name.localName.toJson)]

def ImportNames.toJson : ImportNames → Json
  | .all localName => .record [("All", localName.toJson)]
  | .some names => .record [("Specific", .ofList ImportName.toJson names)]

def ImportDeclaration.toJson (declaration : ImportDeclaration) : Json :=
  .record [
    ("$t", .text "Import"),
    ("type_only", .boolean declaration.typeOnly),
    ("default", .ofOption Binding.toJson declaration.default),
    ("names", .ofOption ImportNames.toJson declaration.names),
    ("module", .text declaration.source)]

def ExportName.toJson (name : ExportName) : Json :=
  .record [("target", .text name.target), ("alias", .text name.exported)]

def ExportNames.toJson : ExportNames → Json
  | .all exported => .record [("All", .ofOption Binding.toJson exported)]
  | .some names => .record [("Specific", .ofList ExportName.toJson names)]

def ExportList.toJson (exports : ExportList) : Json :=
  .record [
    ("$t", .text "ExportList"),
    ("type_only", .boolean exports.typeOnly),
    ("names", exports.names.toJson),
    ("from", .ofOption Json.text exports.source)]

mutual

def Expr.toJson : Expr → Json
  | .arrow _ function => .record [("$t", .text "ArrowFunc"), ("func", function.toJson)]
  | .binary _ operator left right =>
      .record [("$t", .text "Binary"), ("operator", .text operator), ("left", left.toJson),
        ("right", right.toJson)]
  | .call _ optional callee arguments =>
      .record [("$t", .text "Call"), ("optional_chaining", .boolean optional),
        ("callee", callee.toJson), ("arguments", .list (Argument.listJson arguments))]
  | .function _ name function =>
      .record [("$t", .text "Func"), ("name", .ofOption Binding.toJson name),
        ("func", function.toJson)]
  | .identifier _ name => .record [("$t", .text "Id"), ("name", .text name)]
  | .member _ optional object property =>
      .record [("$t", .text "Member"), ("optional_chaining", .boolean optional),
        ("left", object.toJson), ("right", .text property)]
  | .tagged _ tag parts =>
      .record [("$t", .text "TaggedTemplate"), ("function", tag.toJson),
        ("parts", .list (TemplatePart.listJson parts))]
  | .array _ elements =>
      .record [("$t", .text "LitArr"), ("elements", .list (Expr.listJson elements))]
  | .bigInteger _ digits => .record [("$t", .text "LitBigInt"), ("value", .text digits)]
  | .boolean _ value => .record [("$t", .text "LitBool"), ("value", .boolean value)]
  | .null _ => .record [("$t", .text "LitNull")]
  | .number _ value => .record [("$t", .text "LitNum"), ("value", .bits value)]
  | .object _ members =>
      .record [("$t", .text "LitObj"), ("members", .list (Expr.membersJson members))]
  | .regex _ pattern => .record [("$t", .text "LitRegex"), ("value", .text pattern)]
  | .string _ value => .record [("$t", .text "LitStr"), ("value", .text value)]
  | .template _ parts =>
      .record [("$t", .text "LitTemplate"), ("parts", .list (TemplatePart.listJson parts))]

def Expr.listJson : List Expr → List Json
  | [] => []
  | first :: rest => first.toJson :: Expr.listJson rest

def Expr.optionJson : Option Expr → Json
  | none => .null
  | some value => value.toJson

def Expr.membersJson : List (String × Expr) → List Json
  | [] => []
  | (key, value) :: rest =>
      .record [("key", .text key), ("value", value.toJson)] :: Expr.membersJson rest

def TemplatePart.toJson : TemplatePart → Json
  | .chunk text => .record [("String", .text text)]
  | .substitution value => .record [("Substitution", value.toJson)]

def TemplatePart.listJson : List TemplatePart → List Json
  | [] => []
  | first :: rest => first.toJson :: TemplatePart.listJson rest

def Argument.toJson : Argument → Json
  | ⟨_, spread, value⟩ => .record [("spread", .boolean spread), ("value", value.toJson)]

def Argument.listJson : List Argument → List Json
  | [] => []
  | first :: rest => first.toJson :: Argument.listJson rest

def Function.toJson : Function → Json
  | ⟨_, arrow, async, generator, parameters, body⟩ =>
      .record [("arrow", .boolean arrow), ("async_", .boolean async),
        ("generator", .boolean generator), ("parameters", .list (Parameter.listJson parameters)),
        ("body", body.toJson)]

def Parameter.toJson : Parameter → Json
  | ⟨_, rest, pattern, default⟩ =>
      .record [("rest", .boolean rest), ("pattern", pattern.toJson),
        ("default_value", Expr.optionJson default)]

def Parameter.listJson : List Parameter → List Json
  | [] => []
  | first :: rest => first.toJson :: Parameter.listJson rest

def FunctionBody.toJson : FunctionBody → Json
  | .statements body => .record [("Block", .list (Stmt.listJson body))]
  | .expression value => .record [("Expression", value.toJson)]

def Pattern.toJson : Pattern → Json
  | .name binding => .record [("$t", .text "Id"), ("name", .text binding.name)]
  | .array _ elements rest =>
      .record [("$t", .text "Arr"), ("elements", .list (Pattern.elementsJson elements)),
        ("rest", Pattern.optionJson rest)]
  | .object _ properties rest =>
      .record [("$t", .text "Obj"), ("properties", .list (Pattern.propertiesJson properties)),
        ("rest", Pattern.optionJson rest)]

def Pattern.optionJson : Option Pattern → Json
  | none => .null
  | some pattern => pattern.toJson

def Pattern.elementsJson : List (Option PatternElement) → List Json
  | [] => []
  | none :: rest => .null :: Pattern.elementsJson rest
  | some ⟨target, default⟩ :: rest =>
      .record [("target", target.toJson), ("default_value", Expr.optionJson default)]
        :: Pattern.elementsJson rest

def Pattern.propertiesJson : List PatternProperty → List Json
  | [] => []
  | ⟨_, key, target, default⟩ :: rest =>
      .record [("key", .text key), ("target", target.toJson),
        ("default_value", Expr.optionJson default)] :: Pattern.propertiesJson rest

def Stmt.toJson : Stmt → Json
  | .block ⟨_, body⟩ => .record [("$t", .text "Block"), ("body", .list (Stmt.listJson body))]
  | .empty _ => .record [("$t", .text "Empty")]
  | .exportDefault _ value =>
      .record [("$t", .text "ExportDefaultExpr"), ("expression", value.toJson)]
  | .exportList exports => exports.toJson
  | .expression _ value => .record [("$t", .text "Expr"), ("expr", value.toJson)]
  | .function ⟨_, exported, exportedAsDefault, name, function⟩ =>
      .record [("$t", .text "FuncDecl"), ("export", .boolean exported),
        ("export_default", .boolean exportedAsDefault), ("name", .ofOption Binding.toJson name),
        ("function", function.toJson)]
  | .conditional _ test consequent alternate =>
      .record [("$t", .text "If"), ("test", test.toJson), ("consequent", consequent.toJson),
        ("alternate", Stmt.optionJson alternate)]
  | .imports declaration => declaration.toJson
  | .returns ⟨_, value⟩ => .record [("$t", .text "Return"), ("value", Expr.optionJson value)]
  | .switch _ test branches =>
      .record [("$t", .text "Switch"), ("test", test.toJson),
        ("branches", .list (SwitchBranch.listJson branches))]
  | .attempt _ wrapped handler cleanup =>
      .record [("$t", .text "Try"), ("wrapped", wrapped.toJson),
        ("catch", CatchClause.optionJson handler), ("finally", Block.optionJson cleanup)]
  | .variables ⟨_, exported, mode, declarators, comments⟩ =>
      .record [("$t", .text "VarDecl"), ("export", .boolean exported), ("mode", mode.toJson),
        ("declarators", .list (Declarator.listJson declarators)),
        ("leading_comments", .ofList Json.text comments)]
  | .loop _ condition body =>
      .record [("$t", .text "While"), ("condition", condition.toJson), ("body", body.toJson)]

def Stmt.listJson : List Stmt → List Json
  | [] => []
  | first :: rest => first.toJson :: Stmt.listJson rest

def Stmt.optionJson : Option Stmt → Json
  | none => .null
  | some statement => statement.toJson

def Block.toJson : Block → Json
  | ⟨_, body⟩ => .record [("body", .list (Stmt.listJson body))]

def Block.optionJson : Option Block → Json
  | none => .null
  | some block => block.toJson

def SwitchBranch.listJson : List SwitchBranch → List Json
  | [] => []
  | ⟨_, test, body⟩ :: rest =>
      .record [("case", Expr.optionJson test), ("body", .list (Stmt.listJson body))]
        :: SwitchBranch.listJson rest

def CatchClause.optionJson : Option CatchClause → Json
  | none => .null
  | some ⟨_, parameter, body⟩ =>
      .record [("parameter", Pattern.optionJson parameter), ("body", .list (Stmt.listJson body))]

def Declarator.listJson : List Declarator → List Json
  | [] => []
  | ⟨pattern, initializer⟩ :: rest =>
      .record [("pattern", pattern.toJson), ("initializer", Expr.optionJson initializer)]
        :: Declarator.listJson rest

end

def Program.toJson (program : Program) : Json :=
  .record [("body", .list (Stmt.listJson program.body))]

end QueryTypes.Script
