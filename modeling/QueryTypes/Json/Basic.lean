import QueryTypes.Json.Numeral

/-!
JSON values whose objects keep the order of their members, and their compact text.
-/

set_option autoImplicit false

namespace QueryTypes

inductive Json where
  | null
  | boolean (value : Bool)
  | number (value : Numeral)
  | text (value : String)
  | list (items : List Json)
  | record (members : List (String × Json))

namespace Json

def nat (value : Nat) : Json := .number (.ofNat value)

def ofOption {α : Type} (encode : α → Json) : Option α → Json
  | none => .null
  | some value => encode value

def ofList {α : Type} (encode : α → Json) (values : List α) : Json :=
  .list (values.map encode)

/-- A number of a script, in place of the numeral that a writer of floating-point numbers gives for
it: no particular writer is meant, so the text after `f64:` holds the number's 64 bits, and finite
numbers have the same text only if they are the same. What is not finite is null, as it is for such
a writer. -/
def bits (value : Number) : Json :=
  if value.isFinite then
    let digits := Nat.toDigits 16 value.bits
    .text (String.ofList ("f64:".toList ++ List.replicate (16 - digits.length) '0' ++ digits))
  else .null

/-- One character of a quoted string: the quote, the backslash and control characters are
escaped and nothing else is. -/
def escapeChar (char : Char) : List Char :=
  match char with
  | '"' => ['\\', '"']
  | '\\' => ['\\', '\\']
  | '\n' => ['\\', 'n']
  | '\r' => ['\\', 'r']
  | '\t' => ['\\', 't']
  | '\x08' => ['\\', 'b']
  | '\x0c' => ['\\', 'f']
  | _ =>
      if char.toNat < 32 then
        ['\\', 'u', '0', '0', Nat.digitChar (char.toNat / 16), Nat.digitChar (char.toNat % 16)]
      else [char]

def quotedChars (text : List Char) : List Char :=
  '"' :: (text.flatMap escapeChar ++ ['"'])

def quoted (text : String) : String := String.ofList (quotedChars text.toList)

mutual

def chars : Json → List Char
  | .null => "null".toList
  | .boolean true => "true".toList
  | .boolean false => "false".toList
  | .number numeral => numeral.chars
  | .text value => quotedChars value.toList
  | .list [] => ['[', ']']
  | .list (first :: rest) => '[' :: (first.chars ++ itemChars rest)
  | .record [] => ['\x7b', '\x7d']
  | .record ((key, value) :: rest) =>
      '\x7b' :: (quotedChars key.toList ++ ':' :: (value.chars ++ memberChars rest))

def itemChars : List Json → List Char
  | [] => [']']
  | item :: rest => ',' :: (item.chars ++ itemChars rest)

def memberChars : List (String × Json) → List Char
  | [] => ['\x7d']
  | (key, value) :: rest =>
      ',' :: (quotedChars key.toList ++ ':' :: (value.chars ++ memberChars rest))

end

def render (value : Json) : String := String.ofList value.chars

mutual

/-- How many containers are nested in a value, itself counted. -/
def depth : Json → Nat
  | .list items => itemsDepth items + 1
  | .record members => membersDepth members + 1
  | _ => 0

def itemsDepth : List Json → Nat
  | [] => 0
  | item :: rest => max item.depth (itemsDepth rest)

def membersDepth : List (String × Json) → Nat
  | [] => 0
  | (_, value) :: rest => max value.depth (membersDepth rest)

end

def member? (name : String) : Json → Option Json
  | .record members => members.lookup name
  | _ => none

end Json

end QueryTypes
