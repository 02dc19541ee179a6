import QueryTypes.Schema.Basic

/-!
Counts over a type: how many nodes it has, how many of them are unknown and how many are unions
without members.
-/

set_option autoImplicit false

namespace QueryTypes.Typing

open QueryTypes.Schema

structure Statistics where
  allTypes : Nat
  unknownTypes : Nat
  emptyUnions : Nat
deriving DecidableEq

namespace Statistics

def zero : Statistics := ⟨0, 0, 0⟩

def single : Statistics := ⟨1, 0, 0⟩

instance : Add Statistics where
  add left right :=
    ⟨left.allTypes + right.allTypes, left.unknownTypes + right.unknownTypes,
      left.emptyUnions + right.emptyUnions⟩

mutual

/-- Every node counts once, containers included. An object with an unknown rest counts as one
object and one unknown, whatever its attributes are. -/
def ofType : ValueType → Statistics
  | .unknown => ⟨1, 1, 0⟩
  | .array element => ofType element + single
  | .object shape => ofObject shape
  | .union [] => ⟨1, 0, 1⟩
  | .union (first :: rest) => single + ofTypes (first :: rest)
  | .string _ | .number _ | .boolean _ | .null | .inline _ => single

def ofTypes : List ValueType → Statistics
  | [] => zero
  | first :: rest => ofType first + ofTypes rest

def ofObject : ObjectType → Statistics
  | ⟨attributes, rest, _⟩ =>
      match rest with
      | none => single + ofAttributes attributes
      | some .unknown => ⟨2, 1, 0⟩
      | some (.object shape) => ofObject shape + single + ofAttributes attributes
      | some (.inline _) => single + single + ofAttributes attributes

def ofAttributes : List (String × Attribute) → Statistics
  | [] => zero
  | (_, ⟨value, _⟩) :: rest => ofType value + ofAttributes rest

end

def sum (counts : List Statistics) : Statistics := counts.foldl (· + ·) zero

end Statistics

end QueryTypes.Typing
