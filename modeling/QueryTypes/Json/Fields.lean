import QueryTypes.Json.Reader

/-!
Taking known fields out of JSON values.

A value with named fields is an object, or a list of the fields' values in order from which only
final fields may be left out. Members with other names are ignored. A value of one of several
kinds names its kind in a tag: a member of the object, or the first item of the list.
-/

set_option autoImplicit false

namespace QueryTypes.Json

def occurrences (name : String) (members : List (String × Json)) : Nat :=
  members.countP fun member => member.1 == name

/-- The values of the named fields, absent ones included. A repeated field is an error. -/
def fields? (names : List String) : Json → Option (List (Option Json))
  | .record members =>
      if names.any fun name => decide (1 < occurrences name members) then none
      else some (names.map fun name => members.lookup name)
  | .list items =>
      if names.length < items.length then none
      else some ((List.range names.length).map fun index => items[index]?)
  | _ => none

/-- A value without its tag, and the tag. A repeated tag is an error. -/
def tagged? (tagName : String) : Json → Option (Json × Json)
  | .record members =>
      if 1 < occurrences tagName members then none
      else (members.lookup tagName).map fun tag =>
        (tag, .record (members.filter fun member => member.1 != tagName))
  | .list (tag :: rest) => some (tag, .list rest)
  | _ => none

/-- The kind that a tag names. A tag inside a value that was kept back may also be the number of
the kind. -/
def kind? (kinds : List String) (kept : Bool) : Json → Option String
  | .text name => if kinds.contains name then some name else none
  | .number numeral => if kept then numeral.toNat?.bind fun index => kinds[index]? else none
  | _ => none

/-- A value without fields: whatever an object holds is ignored, and a list must be empty. -/
def noFields? : Json → Option Unit
  | .record _ => some ()
  | .list [] => some ()
  | _ => none

def toText? : Json → Option String
  | .text value => some value
  | _ => none

def toBool? : Json → Option Bool
  | .boolean value => some value
  | _ => none

def toNumber? : Json → Option Number
  | .number numeral => numeral.toNumber?
  | _ => none

def toNat? : Json → Option Nat
  | .number numeral => numeral.toNat?
  | _ => none

def toTexts? : Json → Option (List String)
  | .list items => items.mapM toText?
  | _ => none

/-- A field that may be absent or null; otherwise it must have its form. -/
def optional? {α : Type} (read : Json → Option α) : Option Json → Option (Option α)
  | none => some none
  | some .null => some none
  | some value => (read value).map some

def withDefault? {α : Type} (default : α) (read : Json → Option α) : Option Json → Option α
  | none => some default
  | some value => read value

end QueryTypes.Json
