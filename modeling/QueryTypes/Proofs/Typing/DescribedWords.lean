import Mathlib.Data.List.Basic
import QueryTypes.Proofs.Declared.Words
import QueryTypes.Typing.Description

/-!
The words in the description of a union or an array.

An array of a union is described by up to two arrays, between which the members are distributed. Up
to their order the words are still those of the union, with the names of the arrays before them.
-/

set_option autoImplicit false

namespace QueryTypes.Typing

open QueryTypes.Schema
open QueryTypes.Declared

theorem unionOf_words {types : List TypeExpr} (some : types ≠ []) (noted : Bool) :
    (unionOf types).words noted = wordsOfAll noted types := by
  unfold unionOf
  split
  · exact absurd rfl some
  · rw [wordsOfAll_eq_flatMap, List.flatMap_singleton]
  · rw [TypeExpr.words]

theorem describeAll_eq_map (naming : Naming) (nodes : List ValueType) :
    describeAll naming nodes = nodes.map (describe naming) := by
  induction nodes with
  | nil => rw [describeAll, List.map_nil]
  | cons first rest ih => rw [describeAll, List.map_cons, ih]

/-- The members of both kinds are all of them. -/
theorem selected_perm {members : List ValueType} {types : List TypeExpr}
    (lengths : members.length = types.length) :
    (selected true members types ++ selected false members types).Perm types := by
  have kinds := List.filter_append_perm (fun pair => pair.1.isInline == true) (members.zip types)
  have others : (fun pair : ValueType × TypeExpr => !(pair.1.isInline == true)) =
      fun pair => pair.1.isInline == false := by
    funext pair
    cases pair.1.isInline <;> rfl
  rw [others] at kinds
  have typesOfAll := kinds.map Prod.snd
  rw [List.map_append, List.map_snd_zip (Nat.le_of_eq lengths.symm)] at typesOfAll
  exact typesOfAll

/-- The order of members changes nothing but the order of words. -/
theorem unionOf_words_perm {first second : List TypeExpr} (same : first.Perm second)
    (noted : Bool) : ((unionOf first).words noted).Perm ((unionOf second).words noted) := by
  by_cases empty : second = []
  · rw [empty] at same ⊢
    rw [same.eq_nil]
  · have filled : first ≠ [] := fun none => empty (List.nil_perm.mp (none ▸ same))
    rw [unionOf_words filled, unionOf_words empty, wordsOfAll_eq_flatMap, wordsOfAll_eq_flatMap]
    exact same.flatMap_right _

private theorem arrayOf_words (element : TypeExpr) (noted : Bool) :
    (arrayOf element).words noted = .reference "Array" :: element.words noted := by
  rw [arrayOf, TypeExpr.words, wordsOfAll_eq_flatMap, List.flatMap_singleton]

private theorem keyedArrayOf_words (element : TypeExpr) (noted : Bool) :
    (keyedArrayOf element).words noted = .reference keyedArrayName :: element.words noted := by
  rw [keyedArrayOf, TypeExpr.words, wordsOfAll_eq_flatMap, List.flatMap_singleton]

def arrayWords : List Word := [.reference "Array", .reference keyedArrayName]

private theorem arrayOfUnion_words {members : List ValueType} {types : List TypeExpr}
    (lengths : members.length = types.length) (noted : Bool) :
    ∃ arrays, arrays ⊆ arrayWords ∧
      ((arrayOfUnion members types).words noted).Perm (arrays ++ (unionOf types).words noted) := by
  have all := selected_perm lengths
  unfold arrayOfUnion
  split
  · rename_i noInline
    rw [noInline] at all
    refine ⟨[.reference "Array"], by decide, ?_⟩
    rw [arrayOf_words]
    exact (unionOf_words_perm all noted).cons _
  · rename_i noOther _
    rw [noOther, List.append_nil] at all
    refine ⟨[.reference keyedArrayName], by decide, ?_⟩
    rw [keyedArrayOf_words]
    exact (unionOf_words_perm all noted).cons _
  · rename_i someInline someOther
    refine ⟨[.reference keyedArrayName, .reference "Array"], by decide, ?_⟩
    have filled : selected true members types ++ selected false members types ≠ [] :=
      fun empty => someInline (List.append_eq_nil_iff.mp empty).1
    have parts := unionOf_words_perm all noted
    rw [unionOf_words filled, wordsOfAll_eq_flatMap, List.flatMap_append] at parts
    rw [TypeExpr.words, wordsOfAll, wordsOfAll, wordsOfAll, keyedArrayOf_words, arrayOf_words,
      unionOf_words someInline, unionOf_words someOther, wordsOfAll_eq_flatMap,
      wordsOfAll_eq_flatMap, List.append_nil]
    exact (List.perm_middle.trans (parts.cons _)).cons _

/-- An array has the words of its element, and names of arrays. -/
theorem describe_array_words (naming : Naming) (element : ValueType) (noted : Bool) :
    ∃ arrays, arrays ⊆ arrayWords ∧
      ((describe naming (.array element)).words noted).Perm
        (arrays ++ (describe naming element).words noted) := by
  have plain : (arrayOf (describe naming element)).words noted =
      [.reference "Array"] ++ (describe naming element).words noted := arrayOf_words _ noted
  cases element with
  | inline name =>
      refine ⟨[.reference keyedArrayName], by decide, ?_⟩
      rw [describe, describe, keyedArrayOf_words]
      exact List.Perm.refl _
  | union members =>
      rw [describe, describe]
      refine arrayOfUnion_words ?_ noted
      rw [describeAll_eq_map, List.length_map]
  | _ =>
      refine ⟨[.reference "Array"], by decide, ?_⟩
      rw [← plain]
      exact List.Perm.refl _

theorem referenceMembers_words (target : Option String) (noted : Bool) :
    wordsOfMembers noted (referenceMembers target) = [] := by
  cases target <;> rfl

end QueryTypes.Typing
