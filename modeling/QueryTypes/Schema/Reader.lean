import QueryTypes.Json.Fields
import QueryTypes.Schema.Basic

/-!
Reading a schema from its JSON text.

Reading recurses on a bound for the nesting of the value at hand, which is the value's own depth.
-/

set_option autoImplicit false

namespace QueryTypes.Schema

/-- Puts a value under a name. A name that is there already keeps its place. -/
def putAttribute {α : Type} (name : String) (value : α) (entries : List (String × α)) :
    List (String × α) :=
  if entries.any fun entry => entry.1 == name then
    entries.map fun entry => if entry.1 == name then (name, value) else entry
  else entries ++ [(name, value)]

def distinctAttributes {α : Type} (entries : List (String × α)) : List (String × α) :=
  entries.foldl (fun kept entry => putAttribute entry.1 entry.2 kept) []

def readMembers? {α : Type} (read : Json → Option α) : Json → Option (List (String × α))
  | .record members =>
      (members.mapM fun member => (read member.2).map fun value => (member.1, value)).map
        distinctAttributes
  | _ => none

def readList? {α : Type} (read : Json → Option α) : Json → Option (List α)
  | .list items => items.mapM read
  | _ => none

def typeKinds : List String :=
  ["string", "number", "boolean", "null", "unknown", "array", "object", "union", "inline"]

def restKinds : List String := ["unknown", "object", "inline"]

def onlyField? (name : String) (content : Json) : Option (Option Json) :=
  match content.fields? [name] with
  | some [value] => some value
  | _ => none

mutual

/-- The type that a value writes; `kept` is set for all but outermost values. -/
def readType? (kept : Bool) : (bound : Nat) → Json → Option ValueType
  | 0, _ => none
  | bound + 1, source => do
      let (tag, content) ← source.tagged? "type"
      match ← Json.kind? typeKinds kept tag with
      | "string" => return .string (← Json.optional? Json.toText? (← onlyField? "value" content))
      | "number" =>
          return .number (← Json.optional? Json.toNumber? (← onlyField? "value" content))
      | "boolean" => return .boolean (← Json.optional? Json.toBool? (← onlyField? "value" content))
      | "null" =>
          content.noFields?
          return .null
      | "unknown" =>
          content.noFields?
          return .unknown
      | "array" => return .array (← readType? true bound (← (← onlyField? "of" content)))
      | "object" => return .object (← readObject? bound content)
      | "union" =>
          return .union (← readList? (readType? true bound) (← (← onlyField? "of" content)))
      | "inline" => return .inline (← Json.toText? (← (← onlyField? "name" content)))
      | _ => none

def readObject? : (bound : Nat) → Json → Option ObjectType
  | 0, _ => none
  | bound + 1, source => do
      match ← source.fields? ["attributes", "rest", "dereferencesTo"] with
      | [attributes, rest, target] =>
          return {
            attributes := ← Json.withDefault? [] (readMembers? (readAttribute? bound)) attributes
            rest := ← Json.optional? (readRest? bound) rest
            dereferencesTo := ← Json.optional? Json.toText? target }
      | _ => none

def readRest? : (bound : Nat) → Json → Option ObjectRest
  | 0, _ => none
  | bound + 1, source => do
      let (tag, content) ← source.tagged? "type"
      match ← Json.kind? restKinds true tag with
      | "unknown" =>
          content.noFields?
          return .unknown
      | "object" => return .object (← readObject? bound content)
      | "inline" => return .inline (← Json.toText? (← (← onlyField? "name" content)))
      | _ => none

def readAttribute? : (bound : Nat) → Json → Option Attribute
  | 0, _ => none
  | bound + 1, source => do
      match ← source.fields? ["value", "optional"] with
      | [value, optional] =>
          return {
            value := ← readType? true bound (← value)
            optional := ← Json.withDefault? false Json.toBool? optional }
      | _ => none

end

/-- A bound that suffices for a value: at most two steps of reading are taken for each of its
containers. -/
def boundFor (source : Json) : Nat := 2 * source.depth + 2

def readDeclaration? (source : Json) : Option Declaration := do
  let bound := boundFor source
  let (tag, content) ← source.tagged? "type"
  match ← Json.kind? ["type", "document"] false tag with
  | "type" =>
      match ← content.fields? ["name", "value"] with
      | [name, value] =>
          return .type (← Json.toText? (← name)) (← readType? true bound (← value))
      | _ => none
  | "document" =>
      match ← content.fields? ["name", "attributes"] with
      | [name, attributes] =>
          return .document (← Json.toText? (← name))
            (← readMembers? (readAttribute? bound) (← attributes))
      | _ => none
  | _ => none

def ofJson? (source : Json) : Option (List Declaration) := readList? readDeclaration? source

def parse? (source : String) : Option (List Declaration) := (Json.parse? source).bind ofJson?

def parseType? (source : String) : Option ValueType :=
  (Json.parse? source).bind fun value => readType? false (boundFor value) value

end QueryTypes.Schema
