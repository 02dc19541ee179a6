import Mathlib.Data.List.Forall2
import QueryTypes.Declared.Basic

/-!
Types that differ only in how they are nested.

A union in a union is as good as its members, and so is an intersection in an intersection; a single
type may stand in a union or intersection of its own. Up to this every type is a union of types that
are no unions, and these are intersections of types that are no intersections.
-/

set_option autoImplicit false

namespace QueryTypes.Declared

/-- The same type, however it is nested. Numbers are compared as numbers. -/
inductive Alike : TypeExpr → TypeExpr → Prop where
  | refl (type : TypeExpr) : Alike type type
  | symm {first second : TypeExpr} (alike : Alike first second) : Alike second first
  | trans {first second third : TypeExpr} (left : Alike first second)
      (right : Alike second third) : Alike first third
  | number {first second : Number} (same : first.same second = true) :
      Alike (.numberLiteral first) (.numberLiteral second)
  | flattenUnion (before inner after : List TypeExpr) :
      Alike (.union (before ++ .union inner :: after)) (.union (before ++ inner ++ after))
  | flattenIntersection (before inner after : List TypeExpr) :
      Alike (.intersection (before ++ .intersection inner :: after))
        (.intersection (before ++ inner ++ after))
  | unwrapUnion (type : TypeExpr) : Alike (.union [type]) type
  | unwrapIntersection (type : TypeExpr) : Alike (.intersection [type]) type
  | argument (name : String) (before after : List TypeExpr) {first second : TypeExpr}
      (alike : Alike first second) :
      Alike (.reference name (before ++ first :: after))
        (.reference name (before ++ second :: after))
  | member (before after : List TypeExpr) {first second : TypeExpr}
      (alike : Alike first second) :
      Alike (.union (before ++ first :: after)) (.union (before ++ second :: after))
  | operand (before after : List TypeExpr) {first second : TypeExpr}
      (alike : Alike first second) :
      Alike (.intersection (before ++ first :: after)) (.intersection (before ++ second :: after))
  | property (before after : List Member) (key : MemberKey) (optional : Bool)
      {first second : TypeExpr} (alike : Alike first second) :
      Alike (.literal (before ++ ⟨key, optional, first⟩ :: after))
        (.literal (before ++ ⟨key, optional, second⟩ :: after))

namespace Alike

/-- What may be done at one place may be done at all places. -/
theorem everywhere {Element : Type} {relation : Element → Element → Prop}
    {form : List Element → TypeExpr}
    (once : ∀ before after {first second}, relation first second →
      Alike (form (before ++ first :: after)) (form (before ++ second :: after)))
    {firsts seconds : List Element} (all : List.Forall₂ relation firsts seconds) :
    Alike (form firsts) (form seconds) := by
  induction all generalizing form with
  | nil => exact .refl _
  | @cons first second restFirst restSecond alike _ ih =>
      refine (once [] restFirst alike).trans ?_
      exact @ih (fun rest => form (second :: rest))
        fun before after => once (second :: before) after

theorem arguments (name : String) {firsts seconds : List TypeExpr}
    (all : List.Forall₂ Alike firsts seconds) :
    Alike (.reference name firsts) (.reference name seconds) :=
  everywhere (.argument name) all

theorem unions {firsts seconds : List TypeExpr} (all : List.Forall₂ Alike firsts seconds) :
    Alike (.union firsts) (.union seconds) :=
  everywhere .member all

private theorem intersections {firsts seconds : List TypeExpr}
    (all : List.Forall₂ Alike firsts seconds) :
    Alike (.intersection firsts) (.intersection seconds) :=
  everywhere .operand all

end Alike

structure SameMember (first second : Member) : Prop where
  key : first.key = second.key
  optional : first.optional = second.optional
  type : Alike first.type second.type

theorem Alike.members {firsts seconds : List Member}
    (all : List.Forall₂ SameMember firsts seconds) :
    Alike (.literal firsts) (.literal seconds) := by
  refine everywhere (fun before after {first second} same => ?_) all
  obtain ⟨key, optional, type⟩ := first
  obtain ⟨_, _, other⟩ := second
  obtain ⟨rfl, rfl, alike⟩ := same
  exact .property before after key optional alike

/-! ### Summands and operands -/

mutual

def TypeExpr.summands : TypeExpr → List TypeExpr
  | .union types => summandsOfAll types
  | type => [type]

def summandsOfAll : List TypeExpr → List TypeExpr
  | [] => []
  | first :: rest => first.summands ++ summandsOfAll rest

end

mutual

def TypeExpr.operands : TypeExpr → List TypeExpr
  | .intersection types => operandsOfAll types
  | type => [type]

def operandsOfAll : List TypeExpr → List TypeExpr
  | [] => []
  | first :: rest => first.operands ++ operandsOfAll rest

end

theorem summandsOfAll_eq_flatMap (types : List TypeExpr) :
    summandsOfAll types = types.flatMap TypeExpr.summands := by
  induction types with
  | nil => rfl
  | cons first rest ih => rw [summandsOfAll, ih, List.flatMap_cons]

theorem operandsOfAll_eq_flatMap (types : List TypeExpr) :
    operandsOfAll types = types.flatMap TypeExpr.operands := by
  induction types with
  | nil => rfl
  | cons first rest ih => rw [operandsOfAll, ih, List.flatMap_cons]

mutual

private theorem TypeExpr.alike_summands : ∀ type : TypeExpr, Alike type (.union type.summands)
  | .union types => alike_summandsOfAll [] types
  | .keyword _ | .stringLiteral _ | .numberLiteral _ | .booleanLiteral _ | .reference _ _
  | .intersection _ | .literal _ | .annotated _ _ => .symm (.unwrapUnion _)

private theorem alike_summandsOfAll (before : List TypeExpr) :
    ∀ types : List TypeExpr,
      Alike (.union (before ++ types)) (.union (before ++ summandsOfAll types))
  | [] => .refl _
  | first :: rest => by
      have flattened := (Alike.member before rest first.alike_summands).trans
        (.flattenUnion before first.summands rest)
      have others := alike_summandsOfAll (before ++ first.summands) rest
      rw [List.append_assoc before first.summands (summandsOfAll rest)] at others
      exact flattened.trans others

end

mutual

private theorem TypeExpr.alike_operands :
    ∀ type : TypeExpr, Alike type (.intersection type.operands)
  | .intersection types => alike_operandsOfAll [] types
  | .keyword _ | .stringLiteral _ | .numberLiteral _ | .booleanLiteral _ | .reference _ _
  | .union _ | .literal _ | .annotated _ _ => .symm (.unwrapIntersection _)

private theorem alike_operandsOfAll (before : List TypeExpr) :
    ∀ types : List TypeExpr,
      Alike (.intersection (before ++ types)) (.intersection (before ++ operandsOfAll types))
  | [] => .refl _
  | first :: rest => by
      have flattened := (Alike.operand before rest first.alike_operands).trans
        (.flattenIntersection before first.operands rest)
      have others := alike_operandsOfAll (before ++ first.operands) rest
      rw [List.append_assoc before first.operands (operandsOfAll rest)] at others
      exact flattened.trans others

end

/-- Types with the same summands are the same. -/
theorem Alike.of_summands {first second : TypeExpr}
    (all : List.Forall₂ Alike first.summands second.summands) : Alike first second :=
  first.alike_summands.trans ((Alike.unions all).trans second.alike_summands.symm)

theorem Alike.of_operands {first second : TypeExpr}
    (all : List.Forall₂ Alike first.operands second.operands) : Alike first second :=
  first.alike_operands.trans ((Alike.intersections all).trans second.alike_operands.symm)

end QueryTypes.Declared
