import QueryTypes.Declared.Basic
import QueryTypes.Json.Basic

/-!
The text of generated types and declarations: two spaces for each level, one member on each line,
and a semicolon after every member and declaration.
-/

set_option autoImplicit false

namespace QueryTypes.Declared

def separated (separator : String) : List String → String
  | [] => ""
  | [last] => last
  | first :: second :: rest => first ++ separator ++ separated separator (second :: rest)

def Keyword.text : Keyword → String
  | .string => "string"
  | .number => "number"
  | .boolean => "boolean"
  | .null => "null"
  | .unknown => "unknown"
  | .never => "never"
  | .uniqueSymbol => "unique symbol"

def MemberKey.text : MemberKey → String
  | .identifier name => name
  | .string value => Json.quoted value
  | .computed name => "[" ++ name ++ "]"

def indentation (level : Nat) : String := String.ofList (List.replicate (2 * level) ' ')

def bracketed (names : List String) : String :=
  if names.isEmpty then "" else "<" ++ separated ", " names ++ ">"

def braced (level : Nat) (lines : List String) : String :=
  if lines.isEmpty then "\x7b\x7d"
  else "\x7b\n" ++ String.join lines ++ indentation level ++ "\x7d"

mutual

/-- The text of a type that starts on a line of the given level. -/
def TypeExpr.print (level : Nat) : TypeExpr → String
  | .keyword keyword => keyword.text
  | .stringLiteral value => Json.quoted value
  | .numberLiteral value => value.text
  | .booleanLiteral value => if value then "true" else "false"
  | .reference name arguments => name ++ bracketed (printTypes level arguments)
  | .union types => separated " | " (printTypes level types)
  | .intersection types => separated " & " (printOperands level types)
  | .literal members => braced level (printMembers (level + 1) members)
  | .annotated type comment => type.print level ++ " /*" ++ comment ++ "*/"

def printTypes (level : Nat) : List TypeExpr → List String
  | [] => []
  | first :: rest => first.print level :: printTypes level rest

/-- The parts of an intersection; a union among them needs parentheses. -/
def printOperands (level : Nat) : List TypeExpr → List String
  | [] => []
  | first :: rest =>
      (if first.isUnion then "(" ++ first.print level ++ ")" else first.print level) ::
        printOperands level rest

def printMembers (level : Nat) : List Member → List String
  | [] => []
  | ⟨key, optional, type⟩ :: rest =>
      (indentation level ++ key.text ++ (if optional then "?" else "") ++ ": " ++
        type.print level ++ ";\n") :: printMembers level rest

end

def TypeExpr.text (type : TypeExpr) : String := type.print 0

def TopLevel.statement : TopLevel → String
  | .importType names source _ =>
      "import type \x7b " ++ separated ", " names ++ " \x7d from " ++ Json.quoted source ++ ";"
  | .constant name type _ => "export declare const " ++ name ++ ": " ++ type.text ++ ";"
  | .alias name parameters type exported _ =>
      (if exported then "export " else "") ++ "type " ++ name ++ bracketed parameters ++ " = " ++
        type.text ++ ";"
  | .augmentation target interface _ =>
      "declare module " ++ Json.quoted target ++ " \x7b\n  interface " ++ interface.name ++ " " ++
        braced 1 (printMembers 2 interface.members) ++ "\n\x7d"

def commentLine (comment : String) : String := "//" ++ comment ++ "\n"

def TopLevel.text (declaration : TopLevel) : String :=
  String.join (declaration.comments.map commentLine) ++ declaration.statement

end QueryTypes.Declared
