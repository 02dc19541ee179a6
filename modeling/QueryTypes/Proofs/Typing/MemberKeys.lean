import QueryTypes.Proofs.Schema.RoundTrip
import QueryTypes.Proofs.Typing.DescribedWords
import QueryTypes.Proofs.Typing.RestChains
import QueryTypes.Proofs.Typing.WellFormedIdentifiers

/-!
The keys of members in descriptions.

A description lists the attributes of an object and of its first rest, each under what its name
becomes as an identifier. Names that become the same identifier, or that the object and its rest
have in common, are the only way to two members with one key.
-/

set_option autoImplicit false

namespace QueryTypes.Declared.TypeExpr

def directParts : TypeExpr → List TypeExpr
  | .reference _ types | .union types | .intersection types => types
  | .literal members => members.map Member.type
  | .annotated type _ => [type]
  | .keyword _ | .stringLiteral _ | .numberLiteral _ | .booleanLiteral _ => []

inductive Occurs (type : TypeExpr) : TypeExpr → Prop where
  | here : Occurs type type
  | inside {part whole : TypeExpr} (direct : part ∈ whole.directParts)
      (deeper : Occurs type part) : Occurs type whole

/-- Wherever members are listed in a type, they have different keys. -/
def DistinctKeys (whole : TypeExpr) : Prop :=
  ∀ members, Occurs (.literal members) whole → (members.map Member.key).Nodup

def ownKeys : TypeExpr → List MemberKey
  | .literal members => members.map Member.key
  | _ => []

private theorem distinctKeys_iff (whole : TypeExpr) :
    whole.DistinctKeys ↔
      whole.ownKeys.Nodup ∧ ∀ part ∈ whole.directParts, part.DistinctKeys := by
  constructor
  · intro distinct
    constructor
    · unfold ownKeys
      split
      · exact distinct _ .here
      · exact List.nodup_nil
    · intro part direct members occurs
      exact distinct members (.inside direct occurs)
  · rintro ⟨own, distinct⟩ members occurs
    cases occurs with
    | here => exact own
    | inside direct deeper => exact distinct _ direct members deeper

section

variable {types : List TypeExpr}

private theorem distinctKeys_reference {name : String} :
    (reference name types).DistinctKeys ↔ ∀ type ∈ types, type.DistinctKeys :=
  (distinctKeys_iff _).trans (and_iff_right List.nodup_nil)

private theorem distinctKeys_union :
    (union types).DistinctKeys ↔ ∀ type ∈ types, type.DistinctKeys :=
  (distinctKeys_iff _).trans (and_iff_right List.nodup_nil)

private theorem distinctKeys_intersection :
    (intersection types).DistinctKeys ↔ ∀ type ∈ types, type.DistinctKeys :=
  (distinctKeys_iff _).trans (and_iff_right List.nodup_nil)

private theorem distinctKeys_literal {members : List Member} :
    (literal members).DistinctKeys ↔
      (members.map Member.key).Nodup ∧ ∀ member ∈ members, member.type.DistinctKeys :=
  (distinctKeys_iff _).trans (and_congr_right fun _ => List.forall_mem_map)

private theorem distinctKeys_annotated {type : TypeExpr} {comment : String} :
    (annotated type comment).DistinctKeys ↔ type.DistinctKeys :=
  (distinctKeys_iff _).trans ((and_iff_right List.nodup_nil).trans List.forall_mem_singleton)

end

/-- A type that lists no members and has nothing in it. -/
theorem distinctKeys_of_leaf {type : TypeExpr} (noKeys : type.ownKeys = [])
    (noParts : type.directParts = []) : type.DistinctKeys := by
  rw [distinctKeys_iff, noKeys, noParts]
  exact ⟨List.nodup_nil, List.forall_mem_nil _⟩

private theorem distinctKeys_of_isUnknown {type : TypeExpr} (unknown : type.isUnknown = true) :
    type.DistinctKeys := by
  fun_induction isUnknown type with
  | case1 => exact distinctKeys_of_leaf rfl rfl
  | case2 type comment ih => exact distinctKeys_annotated.mpr (ih unknown)
  | case3 => cases unknown

end QueryTypes.Declared.TypeExpr

namespace QueryTypes.Identifier

/-- No two of the names become the same identifier. -/
def NamedApart (names : List String) : Prop := (names.map sanitize).Nodup

section

variable {names : List String}

/-- A name that is given twice is the one way to a repeated identifier, two different names that are
sanitized alike are the other. -/
theorem namedApart_iff :
    NamedApart names ↔ names.Nodup ∧
      ∀ first ∈ names, ∀ second ∈ names, sanitize first = sanitize second → first = second := by
  constructor
  · intro apart
    exact ⟨apart.of_map sanitize, List.inj_on_of_nodup_map apart⟩
  · rintro ⟨distinct, injective⟩
    exact (List.nodup_map_iff_inj_on distinct).mpr injective

/-- Names that are identifiers already only have to differ. -/
theorem namedApart_iff_nodup (identifiers : ∀ name ∈ names, WellFormed name) :
    NamedApart names ↔ names.Nodup := by
  rw [namedApart_iff, and_iff_left]
  intro first firstAmong second secondAmong same
  rwa [sanitize_of_wellFormed (identifiers first firstAmong),
    sanitize_of_wellFormed (identifiers second secondAmong)] at same

end

end QueryTypes.Identifier

namespace QueryTypes.Typing

open QueryTypes.Schema
open QueryTypes.Declared

/-! ### Attributes listed together -/

def attributeNames (attributes : List (String × Attribute)) : List String := attributes.map (·.1)

mutual

/-- The names of the attributes that a description lists together, for each place where it does. An
object and its first rest have one place, unless something unknown stands for the whole object. -/
def listings (naming : Naming) : ValueType → List (List String)
  | .array element => listings naming element
  | .object shape => objectListings naming shape
  | .union members => listingsOfAll naming members
  | .string _ | .number _ | .boolean _ | .null | .unknown | .inline _ => []

def listingsOfAll (naming : Naming) : List ValueType → List (List String)
  | [] => []
  | first :: rest => listings naming first ++ listingsOfAll naming rest

def objectListings (naming : Naming) : ObjectType → List (List String)
  | ⟨attributes, none, _⟩ => attributeNames attributes :: attributeListings naming attributes
  | ⟨_, some .unknown, _⟩ => []
  | ⟨attributes, some (.object ⟨others, _, _⟩), _⟩ =>
      (attributeNames attributes ++ attributeNames others) ::
        (attributeListings naming attributes ++ attributeListings naming others)
  | ⟨attributes, some (.inline name), _⟩ =>
      if (naming.inline name).isUnknown then []
      else attributeNames attributes :: attributeListings naming attributes

def attributeListings (naming : Naming) : List (String × Attribute) → List (List String)
  | [] => []
  | (_, ⟨value, _⟩) :: rest => listings naming value ++ attributeListings naming rest

end

def declarationListings (naming : Naming) : Declaration → List (List String)
  | .type _ value => listings naming value
  | .document _ attributes => attributeNames attributes :: attributeListings naming attributes

/-! ### Keys of descriptions -/

section Keys

variable {naming : Naming}

private theorem distinctKeys_unionOf {types : List TypeExpr} :
    (unionOf types).DistinctKeys ↔ ∀ type ∈ types, type.DistinctKeys := by
  unfold unionOf
  split
  · exact iff_of_true (TypeExpr.distinctKeys_of_leaf rfl rfl) (List.forall_mem_nil _)
  · exact List.forall_mem_singleton.symm
  · exact TypeExpr.distinctKeys_union

private theorem distinctKeys_arrayOf {element : TypeExpr} :
    (arrayOf element).DistinctKeys ↔ element.DistinctKeys :=
  TypeExpr.distinctKeys_reference.trans List.forall_mem_singleton

private theorem distinctKeys_keyedArrayOf {element : TypeExpr} :
    (keyedArrayOf element).DistinctKeys ↔ element.DistinctKeys :=
  TypeExpr.distinctKeys_reference.trans List.forall_mem_singleton

/-- The members of a union are the same, however an array of it distributes them. -/
theorem distinctKeys_arrayOfUnion {members : List ValueType} {types : List TypeExpr}
    (lengths : members.length = types.length) :
    (arrayOfUnion members types).DistinctKeys ↔ ∀ type ∈ types, type.DistinctKeys := by
  have all : (∀ type ∈ types, type.DistinctKeys) ↔
      (∀ type ∈ selected true members types, type.DistinctKeys) ∧
        ∀ type ∈ selected false members types, type.DistinctKeys := by
    rw [← List.forall_mem_append]
    exact forall_congr' fun type => imp_congr_left (selected_perm lengths).mem_iff.symm
  rw [all]
  unfold arrayOfUnion
  split
  · rename_i noInline
    rw [distinctKeys_arrayOf, distinctKeys_unionOf, noInline]
    exact (and_iff_right (List.forall_mem_nil _)).symm
  · rename_i noOther _
    rw [distinctKeys_keyedArrayOf, distinctKeys_unionOf, noOther]
    exact (and_iff_left (List.forall_mem_nil _)).symm
  · rw [TypeExpr.distinctKeys_union, List.forall_mem_cons, List.forall_mem_singleton,
      distinctKeys_keyedArrayOf, distinctKeys_arrayOf, distinctKeys_unionOf, distinctKeys_unionOf]

private theorem distinctKeys_inline (name : String) : (naming.inline name).DistinctKeys := by
  unfold Naming.inline
  split
  · exact TypeExpr.distinctKeys_of_leaf rfl rfl
  · exact TypeExpr.distinctKeys_of_isUnknown rfl

private theorem distinctKeys_array (element : ValueType) :
    (describe naming (.array element)).DistinctKeys ↔ (describe naming element).DistinctKeys := by
  cases element with
  | inline name =>
      rw [describe, describe]
      exact distinctKeys_keyedArrayOf
  | union members =>
      rw [describe, describe, distinctKeys_unionOf]
      refine distinctKeys_arrayOfUnion ?_
      rw [describeAll_eq_map, List.length_map]
  | _ => exact distinctKeys_arrayOf

private theorem keys_describeAttributes (naming : Naming) (attributes : List (String × Attribute)) :
    (describeAttributes naming attributes).map Member.key =
      ((attributeNames attributes).map Identifier.sanitize).map .identifier := by
  rw [describeAttributes_eq_map, attributeNames, List.map_map, List.map_map, List.map_map]
  rfl

/-- A literal of members for attributes, and perhaps of one for a target. -/
theorem distinctKeys_listing {members : List Member} {names : List String} (target : Option String)
    (keys : members.map Member.key = (names.map Identifier.sanitize).map .identifier) :
    (TypeExpr.literal (members ++ referenceMembers target)).DistinctKeys ↔
      Identifier.NamedApart names ∧ ∀ member ∈ members, member.type.DistinctKeys := by
  have different : (members.map Member.key).Nodup ↔ Identifier.NamedApart names := by
    rw [keys]
    exact List.nodup_map_iff fun first second same => MemberKey.identifier.inj same
  rw [← different, TypeExpr.distinctKeys_literal]
  cases target with
  | none => rw [referenceMembers, List.append_nil]
  | some name =>
      have apart : MemberKey.computed referenceSymbol ∉ members.map Member.key := by
        rw [keys]
        intro present
        obtain ⟨_, _, same⟩ := List.mem_map.mp present
        cases same
      have value : (TypeExpr.stringLiteral name).DistinctKeys :=
        TypeExpr.distinctKeys_of_leaf rfl rfl
      rw [referenceMembers, List.map_append, List.forall_mem_append, List.forall_mem_singleton,
        and_iff_left value, List.map_singleton, (List.perm_append_singleton _ _).nodup_iff,
        List.nodup_cons, and_iff_right apart]

/-- A literal of members for attributes only. -/
theorem distinctKeys_attributes (naming : Naming) (attributes : List (String × Attribute)) :
    (TypeExpr.literal (describeAttributes naming attributes)).DistinctKeys ↔
      Identifier.NamedApart (attributeNames attributes) ∧
        ∀ member ∈ describeAttributes naming attributes, member.type.DistinctKeys := by
  have listing := distinctKeys_listing none (keys_describeAttributes naming attributes)
  rwa [referenceMembers, List.append_nil] at listing

mutual

private theorem distinctKeys_describe : ∀ node : ValueType,
    (describe naming node).DistinctKeys ↔
      ∀ names ∈ listings naming node, Identifier.NamedApart names
  | .string none | .number none | .boolean none | .null | .unknown
  | .string (some _) | .number (some _) | .boolean (some _) =>
      iff_of_true (TypeExpr.distinctKeys_of_leaf rfl rfl) (List.forall_mem_nil _)
  | .inline name => iff_of_true (distinctKeys_inline name) (List.forall_mem_nil _)
  | .array element => by
      rw [listings, distinctKeys_array]
      exact distinctKeys_describe element
  | .union members => by
      rw [listings, describe, distinctKeys_unionOf]
      exact distinctKeys_describeAll members
  | .object shape => by
      rw [listings, describe]
      exact distinctKeys_describeObject shape

private theorem distinctKeys_describeAll : ∀ nodes : List ValueType,
    (∀ type ∈ describeAll naming nodes, type.DistinctKeys) ↔
      ∀ names ∈ listingsOfAll naming nodes, Identifier.NamedApart names
  | [] => iff_of_true (List.forall_mem_nil _) (List.forall_mem_nil _)
  | first :: rest => by
      rw [describeAll, listingsOfAll, List.forall_mem_cons, List.forall_mem_append,
        distinctKeys_describe first, distinctKeys_describeAll rest]

private theorem distinctKeys_describeObject : ∀ shape : ObjectType,
    (describeObject naming shape).DistinctKeys ↔
      ∀ names ∈ objectListings naming shape, Identifier.NamedApart names
  | ⟨attributes, none, target⟩ => by
      rw [describeObject, objectListings, List.forall_mem_cons,
        distinctKeys_listing target (keys_describeAttributes naming attributes),
        distinctKeys_describeAttributes attributes]
  | ⟨_, some .unknown, _⟩ =>
      iff_of_true (TypeExpr.distinctKeys_of_leaf rfl rfl) (List.forall_mem_nil _)
  | ⟨attributes, some (.object ⟨others, _, _⟩), target⟩ => by
      have keys : (describeAttributes naming attributes ++ describeAttributes naming others).map
            Member.key =
          ((attributeNames attributes ++ attributeNames others).map Identifier.sanitize).map
            .identifier := by
        rw [List.map_append, List.map_append, List.map_append, keys_describeAttributes,
          keys_describeAttributes]
      rw [describeObject, objectListings, List.forall_mem_cons, List.forall_mem_append,
        distinctKeys_listing target keys, List.forall_mem_append,
        distinctKeys_describeAttributes attributes, distinctKeys_describeAttributes others]
  | ⟨attributes, some (.inline name), _⟩ => by
      rw [describeObject, objectListings, withInlineRest]
      split
      · exact iff_of_true (distinctKeys_inline name) (List.forall_mem_nil _)
      · rw [TypeExpr.distinctKeys_intersection, List.forall_mem_cons, List.forall_mem_singleton,
          and_iff_left (distinctKeys_inline name), distinctKeys_attributes, List.forall_mem_cons,
          distinctKeys_describeAttributes attributes]

private theorem distinctKeys_describeAttributes : ∀ attributes : List (String × Attribute),
    (∀ member ∈ describeAttributes naming attributes, member.type.DistinctKeys) ↔
      ∀ names ∈ attributeListings naming attributes, Identifier.NamedApart names
  | [] => iff_of_true (List.forall_mem_nil _) (List.forall_mem_nil _)
  | (_, ⟨value, _⟩) :: rest => by
      rw [describeAttributes, attributeListings, List.forall_mem_cons, List.forall_mem_append,
        distinctKeys_describe value, distinctKeys_describeAttributes rest]

end

private theorem distinctKeys_describeDeclaration (declaration : Declaration) :
    (describeDeclaration naming declaration).DistinctKeys ↔
      ∀ names ∈ declarationListings naming declaration, Identifier.NamedApart names := by
  cases declaration with
  | type name value => exact distinctKeys_describe value
  | document name attributes =>
      rw [describeDeclaration, declarationListings, distinctKeys_attributes, List.forall_mem_cons,
        distinctKeys_describeAttributes attributes]

/-- Where all names are identifiers, only a rest can repeat one. -/
theorem distinctKeys_of_identifiers {node : ValueType}
    (identifiers : ∀ names ∈ listings naming node, ∀ name ∈ names, Identifier.WellFormed name) :
    (describe naming node).DistinctKeys ↔ ∀ names ∈ listings naming node, names.Nodup :=
  (distinctKeys_describe node).trans (forall₂_congr fun names listed =>
    Identifier.namedApart_iff_nodup (identifiers names listed))

end Keys

/-- The members in the description of a type or a declaration have different keys, wherever it lists
members, if and only if the names of attributes that it lists together become different
identifiers. -/
theorem descriptions_distinctKeys_iff (naming : Naming) :
    (∀ node, (describe naming node).DistinctKeys ↔
        ∀ names ∈ listings naming node, Identifier.NamedApart names) ∧
      ∀ declaration, (describeDeclaration naming declaration).DistinctKeys ↔
        ∀ names ∈ declarationListings naming declaration, Identifier.NamedApart names :=
  ⟨distinctKeys_describe, distinctKeys_describeDeclaration⟩

/-- An object and its rest have a name in common, or two names of an object become one
identifier. -/
theorem repeated_keys :
    let text : Attribute := ⟨.string none, false⟩
    let shared : ValueType :=
      .object ⟨[("a", text)], some (.object ⟨[("a", text)], none, none⟩), none⟩
    let alike : ValueType := .object ⟨[("a-b", text), ("aB", text)], none, none⟩
    (shared.DistinctNames ∧ ¬ (describe ⟨"default", []⟩ shared).DistinctKeys) ∧
      alike.DistinctNames ∧ ¬ (describe ⟨"default", []⟩ alike).DistinctKeys := by
  have meet : Identifier.sanitize "a-b" = Identifier.sanitize "aB" := by
    apply String.toList_injective
    rw [Identifier.sanitize_toList, Identifier.sanitize_toList]
    rfl
  intro text shared alike
  rw [distinctKeys_describe, distinctKeys_describe]
  refine ⟨⟨?_, fun apart => ?_⟩, ?_, fun apart => ?_⟩
  · simp [shared, text, ValueType.DistinctNames, ObjectType.DistinctNames,
      DistinctNamesOfAttributes, DistinctNamesOfRest]
  · have distinct := (Identifier.namedApart_iff.mp (apart _ List.mem_cons_self)).1
    exact absurd distinct (by decide)
  · simp [alike, text, ValueType.DistinctNames, ObjectType.DistinctNames,
      DistinctNamesOfAttributes, DistinctNamesOfRest]
  · have injective := (Identifier.namedApart_iff.mp (apart _ List.mem_cons_self)).2
    exact absurd (injective "a-b" (by decide) "aB" (by decide) meet) (by decide)

end QueryTypes.Typing
