import QueryTypes.Proofs.Typing.DescribedWords
import QueryTypes.Typing.SchemaTypes

/-!
Statistics and descriptions.

The statistics of a type are counted over its nodes, but what they count can be found in its
description: the keyword `unknown` and, for a union without members, the keyword `never`. The
description holds no more of them than were counted. It holds fewer where a missing reference for a
rest has taken the place of the object, and nowhere else.
-/

set_option autoImplicit false

namespace QueryTypes.Schema

mutual

def ValueType.rests : ValueType → List ObjectRest
  | .array element => element.rests
  | .object shape => shape.rests
  | .union members => restsOfAll members
  | .string _ | .number _ | .boolean _ | .null | .unknown | .inline _ => []

def restsOfAll : List ValueType → List ObjectRest
  | [] => []
  | first :: others => first.rests ++ restsOfAll others

def ObjectType.rests : ObjectType → List ObjectRest
  | ⟨attributes, none, _⟩ => restsOfAttributes attributes
  | ⟨attributes, some .unknown, _⟩ => .unknown :: restsOfAttributes attributes
  | ⟨attributes, some (.inline name), _⟩ => .inline name :: restsOfAttributes attributes
  | ⟨attributes, some (.object shape), _⟩ =>
      .object shape :: (shape.rests ++ restsOfAttributes attributes)

def restsOfAttributes : List (String × Attribute) → List ObjectRest
  | [] => []
  | (_, ⟨value, _⟩) :: others => value.rests ++ restsOfAttributes others

end

end QueryTypes.Schema

namespace QueryTypes.Declared

def Word.bareUnknown : Word := .keyword .unknown false

def Word.isNever : Word → Bool
  | .keyword .never _ => true
  | .keyword _ _ | .reference _ => false

end QueryTypes.Declared

namespace QueryTypes.Typing

open QueryTypes.Schema
open QueryTypes.Declared

/-! ### Counting words -/

@[simp] theorem Statistics.unknownTypes_add (left right : Statistics) :
    (left + right).unknownTypes = left.unknownTypes + right.unknownTypes := rfl

@[simp] theorem Statistics.emptyUnions_add (left right : Statistics) :
    (left + right).emptyUnions = left.emptyUnions + right.emptyUnions := rfl

@[simp] theorem Statistics.unknownTypes_single : single.unknownTypes = 0 := rfl

@[simp] theorem Statistics.emptyUnions_single : single.emptyUnions = 0 := rfl

/-- Words hold no more of the counted keywords than the statistics say, and in the exact case as
many. -/
structure Tallied (exact : Prop) (words : List Word) (counts : Statistics) : Prop where
  unknown_le : words.count .bareUnknown ≤ counts.unknownTypes
  never_le : words.countP Word.isNever ≤ counts.emptyUnions
  unknown_eq : exact → words.count .bareUnknown = counts.unknownTypes
  never_eq : exact → words.countP Word.isNever = counts.emptyUnions

namespace Tallied

variable {exact : Prop} {words others : List Word} {counts more : Statistics}

private theorem of_eq (unknown : words.count .bareUnknown = counts.unknownTypes)
    (never : words.countP Word.isNever = counts.emptyUnions) : Tallied exact words counts :=
  ⟨Nat.le_of_eq unknown, Nat.le_of_eq never, fun _ => unknown, fun _ => never⟩

/-- Words without counted keywords. -/
theorem of_none (unknown : words.count .bareUnknown = 0) (never : words.countP Word.isNever = 0)
    (inexact : ¬exact) : Tallied exact words counts where
  unknown_le := unknown ▸ Nat.zero_le _
  never_le := never ▸ Nat.zero_le _
  unknown_eq := fun claimed => absurd claimed inexact
  never_eq := fun claimed => absurd claimed inexact

theorem append (first : Tallied exact words counts) (second : Tallied exact others more) :
    Tallied exact (words ++ others) (counts + more) where
  unknown_le := by
    rw [List.count_append]
    exact Nat.add_le_add first.unknown_le second.unknown_le
  never_le := by
    rw [List.countP_append]
    exact Nat.add_le_add first.never_le second.never_le
  unknown_eq := fun claimed => by
    rw [List.count_append, first.unknown_eq claimed, second.unknown_eq claimed]
    rfl
  never_eq := fun claimed => by
    rw [List.countP_append, first.never_eq claimed, second.never_eq claimed]
    rfl

theorem perm (tallied : Tallied exact words counts) (same : others.Perm words) :
    Tallied exact others counts where
  unknown_le := (same.count_eq _).symm ▸ tallied.unknown_le
  never_le := (same.countP_eq _).symm ▸ tallied.never_le
  unknown_eq := fun claimed => (same.count_eq _).trans (tallied.unknown_eq claimed)
  never_eq := fun claimed => (same.countP_eq _).trans (tallied.never_eq claimed)

theorem mono {weaker : Prop} (tallied : Tallied weaker words counts) (implied : exact → weaker) :
    Tallied exact words counts where
  unknown_le := tallied.unknown_le
  never_le := tallied.never_le
  unknown_eq := tallied.unknown_eq ∘ implied
  never_eq := tallied.never_eq ∘ implied

/-- Only two of the counts matter. -/
theorem recount (tallied : Tallied exact words counts)
    (unknown : more.unknownTypes = counts.unknownTypes)
    (never : more.emptyUnions = counts.emptyUnions) : Tallied exact words more where
  unknown_le := unknown ▸ tallied.unknown_le
  never_le := never ▸ tallied.never_le
  unknown_eq := unknown ▸ tallied.unknown_eq
  never_eq := never ▸ tallied.never_eq

/-- A node that is only counted among all. -/
theorem node (tallied : Tallied exact words counts) : Tallied exact words (.single + counts) :=
  tallied.recount (Nat.zero_add _) (Nat.zero_add _)

end Tallied

/-! ### Words of descriptions -/

def ShallowRests (rests : List ObjectRest) : Prop :=
  ∀ shape, .object shape ∈ rests → shape.rest = none

def KnownRests (naming : Naming) (rests : List ObjectRest) : Prop :=
  ∀ name, .inline name ∈ rests → naming.identifiers.lookup name ≠ none

theorem ShallowRests.mono {few many : List ObjectRest} (shallow : ShallowRests many)
    (within : few ⊆ many) : ShallowRests few :=
  fun shape present => shallow shape (within present)

theorem KnownRests.mono {naming : Naming} {few many : List ObjectRest}
    (known : KnownRests naming many) (within : few ⊆ many) : KnownRests naming few :=
  fun name present => known name (within present)

/-- The words and counts of two parts, each exact if its own rests are known. -/
theorem Tallied.join {naming : Naming} {rests others : List ObjectRest}
    {words further : List Word} {counts more : Statistics}
    (first : Tallied (KnownRests naming rests) words counts)
    (second : Tallied (KnownRests naming others) further more) :
    Tallied (KnownRests naming (rests ++ others)) (words ++ further) (counts + more) :=
  (first.mono fun known => known.mono (List.subset_append_left _ _)).append
    (second.mono fun known => known.mono (List.subset_append_right _ _))

private theorem arrays_tallied {exact : Prop} {arrays : List Word} (within : arrays ⊆ arrayWords) :
    Tallied exact arrays .single := by
  refine .of_eq ?_ ?_
  · refine List.count_eq_zero.mpr fun present => ?_
    exact absurd (within present) (by decide)
  · refine List.countP_eq_zero.mpr fun word present => ?_
    have names : ∀ name ∈ arrayWords, ¬name.isNever = true := by decide
    exact names word (within present)

private theorem inline_tallied {exact : Prop} (naming : Naming) (name : String) :
    Tallied exact ((naming.inline name).words false) .single := by
  unfold Naming.inline
  split
  · exact .of_eq rfl rfl
  · exact .of_eq rfl rfl

mutual

private theorem describe_tallied (naming : Naming) :
    ∀ node : ValueType, ShallowRests node.rests →
      Tallied (KnownRests naming node.rests) ((describe naming node).words false) (.ofType node)
  | .string none, _ | .number none, _ | .boolean none, _ | .null, _ | .unknown, _ =>
      .of_eq rfl rfl
  | .string (some _), _ | .number (some _), _ | .boolean (some _), _ => .of_eq rfl rfl
  | .array element, shallow => by
      obtain ⟨arrays, within, same⟩ := describe_array_words naming element false
      have parts := (arrays_tallied within).append (describe_tallied naming element shallow)
      refine (parts.perm same).recount ?_ ?_
      · exact Nat.add_comm _ _
      · exact Nat.add_comm _ _
  | .object shape, shallow => by
      rw [describe]
      exact describeObject_tallied naming shape shallow
  | .union [], _ => .of_eq rfl rfl
  | .union (first :: others), shallow => by
      have filled : describeAll naming (first :: others) ≠ [] := by
        rw [describeAll]
        exact List.cons_ne_nil _ _
      rw [describe, unionOf_words filled]
      exact (describeAll_tallied naming (first :: others) shallow).node
  | .inline name, _ => inline_tallied naming name

private theorem describeAll_tallied (naming : Naming) :
    ∀ nodes : List ValueType, ShallowRests (restsOfAll nodes) →
      Tallied (KnownRests naming (restsOfAll nodes))
        (wordsOfAll false (describeAll naming nodes)) (.ofTypes nodes)
  | [], _ => .of_eq rfl rfl
  | first :: others, shallow => by
      rw [describeAll, wordsOfAll, restsOfAll, Statistics.ofTypes]
      exact (describe_tallied naming first (shallow.mono (List.subset_append_left _ _))).join
        (describeAll_tallied naming others (shallow.mono (List.subset_append_right _ _)))

private theorem describeObject_tallied (naming : Naming) :
    ∀ shape : ObjectType, ShallowRests shape.rests →
      Tallied (KnownRests naming shape.rests) ((describeObject naming shape).words false)
        (.ofObject shape)
  | ⟨attributes, none, target⟩, shallow => by
      have own := describeAttributes_tallied naming attributes shallow
      rw [describeObject, TypeExpr.words, wordsOfMembers_append, referenceMembers_words,
        List.append_nil]
      exact own.node
  | ⟨_, some .unknown, _⟩, _ => .of_eq rfl rfl
  | ⟨attributes, some (.object ⟨others, some _, _⟩), _⟩, shallow =>
      absurd (shallow _ List.mem_cons_self) nofun
  | ⟨attributes, some (.object ⟨others, none, _⟩), target⟩, shallow => by
      rw [ObjectType.rests, ObjectType.rests] at shallow ⊢
      have inside := shallow.mono (List.subset_cons_self _ _)
      have own := describeAttributes_tallied naming attributes
        (inside.mono (List.subset_append_right _ _))
      have further := describeAttributes_tallied naming others
        (inside.mono (List.subset_append_left _ _))
      rw [describeObject, TypeExpr.words, wordsOfMembers_append, wordsOfMembers_append,
        referenceMembers_words, List.append_nil]
      refine (((further.join own).mono ?_).perm List.perm_append_comm).recount ?_ ?_
      · exact fun known => known.mono (List.subset_cons_self _ _)
      · simp [Statistics.ofObject]
      · simp [Statistics.ofObject]
  | ⟨attributes, some (.inline name), _⟩, shallow => by
      rw [ObjectType.rests] at shallow ⊢
      have own := describeAttributes_tallied naming attributes
        (shallow.mono (List.subset_cons_self _ _))
      rw [describeObject, withInlineRest, Naming.inline]
      cases found : naming.identifiers.lookup name with
      | none =>
          -- Nothing is left of the attributes that were counted.
          refine .of_none rfl rfl fun known => ?_
          exact known name List.mem_cons_self found
      | some identifier =>
          have named : Tallied (KnownRests naming (.inline name :: restsOfAttributes attributes))
              ((TypeExpr.named identifier).words false) .single := .of_eq rfl rfl
          have both := (own.mono fun known => known.mono (List.subset_cons_self _ _)).append named
          refine both.recount ?_ ?_
          · simp [Statistics.ofObject]
          · simp [Statistics.ofObject]

private theorem describeAttributes_tallied (naming : Naming) :
    ∀ attributes : List (String × Attribute), ShallowRests (restsOfAttributes attributes) →
      Tallied (KnownRests naming (restsOfAttributes attributes))
        (wordsOfMembers false (describeAttributes naming attributes))
        (.ofAttributes attributes)
  | [], _ => .of_eq rfl rfl
  | (name, ⟨value, optional⟩) :: others, shallow => by
      rw [describeAttributes, wordsOfMembers, restsOfAttributes, Statistics.ofAttributes]
      exact (describe_tallied naming value (shallow.mono (List.subset_append_left _ _))).join
        (describeAttributes_tallied naming others (shallow.mono (List.subset_append_right _ _)))

end

private theorem SchemaTypes.lookup_ne_none_of_has {types : SchemaTypes} {name : String}
    (has : types.has name = true) : types.naming.identifiers.lookup name ≠ none := by
  obtain ⟨entry, present, rfl⟩ := List.mem_map.mp (List.contains_iff_mem.mp has)
  intro missing
  exact absurd (List.lookup_eq_none_iff.mp missing entry present) (by simp)

/-- In a type whose rests have no rests of their own, the statistics count all the keywords
`unknown` and `never` of its description, but for those `unknown` that stand for a missing
reference. They count nothing else if the schema has all references that are rests. -/
theorem describe_keywords_counted (types : SchemaTypes) (node : ValueType)
    (shallow : ∀ shape, .object shape ∈ node.rests → shape.rest = none) :
    let words := (describe types.naming node).words false
    let counts := Statistics.ofType node
    (words.count .bareUnknown ≤ counts.unknownTypes ∧
        words.countP Word.isNever ≤ counts.emptyUnions) ∧
      ((∀ name, .inline name ∈ node.rests → types.has name = true) →
        words.count .bareUnknown = counts.unknownTypes ∧
          words.countP Word.isNever = counts.emptyUnions) := by
  intro words counts
  have tallied := describe_tallied types.naming node shallow
  refine ⟨⟨tallied.unknown_le, tallied.never_le⟩, fun hasRests => ?_⟩
  have known : KnownRests types.naming node.rests :=
    fun name present => SchemaTypes.lookup_ne_none_of_has (hasRests name present)
  exact ⟨tallied.unknown_eq known, tallied.never_eq known⟩

def mixedItems : ValueType :=
  .array (.union [
    .inline "missing",
    .union [.unknown],
    .object ⟨[("first", ⟨.unknown, false⟩)],
      some (.object ⟨[("second", ⟨.union [], true⟩)], none, some "tag"⟩), none⟩,
    .object ⟨[("third", ⟨.array (.union []), false⟩)], some (.inline "tag"), none⟩,
    .object ⟨[("fourth", ⟨.unknown, false⟩)], some .unknown, none⟩])

/-- The missing item is not counted, nor is what stands beside an unknown rest. -/
theorem mixedItems_keywords_counted :
    ∃ types, SchemaTypes.ofSchema "default" [.type "tag" (.string none)] = .ok types ∧
      (∀ shape, .object shape ∈ mixedItems.rests → shape.rest = none) ∧
      (∀ name, .inline name ∈ mixedItems.rests → types.has name = true) ∧
      let words := (describe types.naming mixedItems).words false
      words.count .bareUnknown = 3 ∧ words.countP Word.isNever = 2 := by
  obtain ⟨types, accepted, hasTag⟩ : ∃ types,
      SchemaTypes.ofSchema "default" [.type "tag" (.string none)] = .ok types ∧
        types.has "tag" = true := ⟨_, rfl, rfl⟩
  have rests : mixedItems.rests =
      [.object ⟨[("second", ⟨.union [], true⟩)], none, some "tag"⟩, .inline "tag", .unknown] := rfl
  have shallow : ∀ shape, .object shape ∈ mixedItems.rests → shape.rest = none := by
    simp [rests]
  have known : ∀ name, .inline name ∈ mixedItems.rests → types.has name = true := by
    simp [rests, hasTag]
  exact ⟨types, accepted, shallow, known,
    (describe_keywords_counted types mixedItems shallow).2 known⟩

end QueryTypes.Typing
