import QueryTypes.Declared.Basic

/-!
The keywords and names in a type.
-/

set_option autoImplicit false

namespace QueryTypes.Declared

/-- A word in a type. A keyword counts as noted where a comment belongs to it. -/
inductive Word where
  | keyword (keyword : Keyword) (noted : Bool)
  | reference (name : String)
deriving DecidableEq

def Word.reference? : Word → Option String
  | .keyword _ _ => none
  | .reference name => some name

mutual

/-- The words of a type from left to right, inside a comment's type or not. -/
def TypeExpr.words (noted : Bool) : TypeExpr → List Word
  | .keyword keyword => [.keyword keyword noted]
  | .stringLiteral _ | .numberLiteral _ | .booleanLiteral _ => []
  | .reference name arguments => .reference name :: wordsOfAll noted arguments
  | .union types | .intersection types => wordsOfAll noted types
  | .literal members => wordsOfMembers noted members
  | .annotated type _ => type.words true

def wordsOfAll (noted : Bool) : List TypeExpr → List Word
  | [] => []
  | first :: rest => first.words noted ++ wordsOfAll noted rest

def wordsOfMembers (noted : Bool) : List Member → List Word
  | [] => []
  | ⟨_, _, type⟩ :: rest => type.words noted ++ wordsOfMembers noted rest

end

theorem wordsOfAll_eq_flatMap (noted : Bool) (types : List TypeExpr) :
    wordsOfAll noted types = types.flatMap (TypeExpr.words noted) := by
  induction types with
  | nil => rw [wordsOfAll, List.flatMap_nil]
  | cons first rest ih => rw [wordsOfAll, List.flatMap_cons, ih]

private theorem wordsOfMembers_eq_flatMap (noted : Bool) (members : List Member) :
    wordsOfMembers noted members = members.flatMap fun member => member.type.words noted := by
  induction members with
  | nil => rw [wordsOfMembers, List.flatMap_nil]
  | cons first rest ih =>
      obtain ⟨key, optional, type⟩ := first
      rw [wordsOfMembers, List.flatMap_cons, ih]

theorem wordsOfMembers_append (noted : Bool) (first second : List Member) :
    wordsOfMembers noted (first ++ second) =
      wordsOfMembers noted first ++ wordsOfMembers noted second := by
  rw [wordsOfMembers_eq_flatMap, wordsOfMembers_eq_flatMap, wordsOfMembers_eq_flatMap,
    List.flatMap_append]

def TypeExpr.references (type : TypeExpr) : List String :=
  (type.words false).filterMap Word.reference?

@[simp] theorem TypeExpr.references_reference (name : String) (arguments : List TypeExpr) :
    (reference name arguments).references = name :: arguments.flatMap references := by
  unfold references
  rw [words, wordsOfAll_eq_flatMap, ← List.filterMap_flatMap]
  rfl

@[simp] theorem TypeExpr.references_named (name : String) : (named name).references = [name] := rfl

@[simp] theorem TypeExpr.references_union (types : List TypeExpr) :
    (union types).references = types.flatMap references := by
  unfold references
  rw [words, wordsOfAll_eq_flatMap, List.filterMap_flatMap]

@[simp] theorem TypeExpr.references_intersection (types : List TypeExpr) :
    (intersection types).references = types.flatMap references := by
  unfold references
  rw [words, wordsOfAll_eq_flatMap, List.filterMap_flatMap]

@[simp] theorem TypeExpr.references_literal (members : List Member) :
    (literal members).references = members.flatMap fun member => member.type.references := by
  unfold references
  rw [words, wordsOfMembers_eq_flatMap, List.filterMap_flatMap]

end QueryTypes.Declared
