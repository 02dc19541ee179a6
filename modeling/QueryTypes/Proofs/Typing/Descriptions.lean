import QueryTypes.Proofs.Typing.Verdicts

/-!
What holds of every description.

A description is put together in a few ways only. What each of these ways keeps holds of the
description of every schema type, and with the wrapper of projections of the type of every result.
-/

set_option autoImplicit false

namespace QueryTypes.Typing

open QueryTypes.Schema
open QueryTypes.Declared
open QueryTypes.Query
open QueryTypes.Resolution

/-- A property that is kept by all ways in which a description is put together. -/
structure KeptByDescription (naming : Naming) (motive : TypeExpr → Prop) : Prop where
  keyword : ∀ keyword, motive (.keyword keyword)
  string : ∀ value, motive (.stringLiteral value)
  number : ∀ value, motive (.numberLiteral value)
  boolean : ∀ value, motive (.booleanLiteral value)
  named : ∀ {name identifier}, naming.identifiers.lookup name = some identifier →
    motive (.named identifier)
  missing : ∀ {name}, naming.identifiers.lookup name = none →
    motive (.annotated (.keyword .unknown) (naming.missingComment name))
  array : ∀ {element}, motive element → motive (arrayOf element)
  keyedArray : ∀ {element}, motive element → motive (keyedArrayOf element)
  union : ∀ {types}, (∀ type ∈ types, motive type) → motive (.union types)
  intersection : ∀ {types}, (∀ type ∈ types, motive type) → motive (.intersection types)
  literal : ∀ {members : List Member}, (∀ member ∈ members, motive member.type) →
    motive (.literal members)

private theorem selected_subset (inline : Bool) (members : List ValueType) (types : List TypeExpr) :
    selected inline members types ⊆ types := by
  intro type present
  obtain ⟨⟨member, _⟩, among, rfl⟩ := List.mem_map.mp present
  exact (List.of_mem_zip (List.mem_of_mem_filter among)).2

namespace KeptByDescription

variable {naming : Naming} {motive : TypeExpr → Prop}

theorem inline (kept : KeptByDescription naming motive) (name : String) :
    motive (naming.inline name) := by
  unfold Naming.inline
  split
  · rename_i identifier found
    exact kept.named found
  · rename_i missing
    exact kept.missing missing

theorem unionOf (kept : KeptByDescription naming motive) {types : List TypeExpr}
    (all : ∀ type ∈ types, motive type) : motive (unionOf types) := by
  unfold Typing.unionOf
  split
  · exact kept.keyword .never
  · exact all _ List.mem_cons_self
  · exact kept.union all

theorem arrayOfUnion (kept : KeptByDescription naming motive) (members : List ValueType)
    {types : List TypeExpr} (all : ∀ type ∈ types, motive type) :
    motive (arrayOfUnion members types) := by
  have part (inline : Bool) : motive (Typing.unionOf (selected inline members types)) :=
    kept.unionOf fun type present => all type (selected_subset inline members types present)
  unfold Typing.arrayOfUnion
  split
  · exact kept.array (part false)
  · exact kept.keyedArray (part true)
  · refine kept.union ?_
    simp only [List.forall_mem_cons, List.not_mem_nil, false_imp_iff, implies_true, and_true]
    exact ⟨kept.keyedArray (part true), kept.array (part false)⟩

theorem referenceMembers (kept : KeptByDescription naming motive) (target : Option String) :
    ∀ member ∈ referenceMembers target, motive member.type := by
  cases target with
  | none => exact nofun
  | some name => exact List.forall_mem_singleton.mpr (kept.string name)

mutual

theorem describe (kept : KeptByDescription naming motive) :
    ∀ node : ValueType, motive (Typing.describe naming node)
  | .string none | .number none | .boolean none | .null | .unknown => kept.keyword _
  | .string (some value) => kept.string value
  | .number (some value) => kept.number value
  | .boolean (some value) => kept.boolean value
  | .array (.inline name) => kept.keyedArray (kept.inline name)
  | .array (.union members) => kept.arrayOfUnion members (kept.describeAll members)
  | .array (.string value) => kept.array (kept.describe (.string value))
  | .array (.number value) => kept.array (kept.describe (.number value))
  | .array (.boolean value) => kept.array (kept.describe (.boolean value))
  | .array .null => kept.array (kept.describe .null)
  | .array .unknown => kept.array (kept.describe .unknown)
  | .array (.array element) => kept.array (kept.describe (.array element))
  | .array (.object shape) => kept.array (kept.describe (.object shape))
  | .object shape => kept.describeObject shape
  | .union members => kept.unionOf (kept.describeAll members)
  | .inline name => kept.inline name

theorem describeAll (kept : KeptByDescription naming motive) :
    ∀ nodes : List ValueType, ∀ type ∈ Typing.describeAll naming nodes, motive type
  | [] => nofun
  | first :: rest => List.forall_mem_cons.mpr ⟨kept.describe first, kept.describeAll rest⟩

theorem describeObject (kept : KeptByDescription naming motive) :
    ∀ shape : ObjectType, motive (Typing.describeObject naming shape)
  | ⟨attributes, none, target⟩ =>
      kept.literal (List.forall_mem_append.mpr
        ⟨kept.describeAttributes attributes, kept.referenceMembers target⟩)
  | ⟨_, some .unknown, _⟩ => kept.keyword .unknown
  | ⟨attributes, some (.object ⟨others, _, _⟩), target⟩ =>
      kept.literal (List.forall_mem_append.mpr
        ⟨List.forall_mem_append.mpr
          ⟨kept.describeAttributes attributes, kept.describeAttributes others⟩,
          kept.referenceMembers target⟩)
  | ⟨attributes, some (.inline name), _⟩ => by
      rw [Typing.describeObject, withInlineRest]
      split
      · exact kept.inline name
      · refine kept.intersection (List.forall_mem_cons.mpr ⟨?_, ?_⟩)
        · exact kept.literal (kept.describeAttributes attributes)
        · exact List.forall_mem_singleton.mpr (kept.inline name)

theorem describeAttributes (kept : KeptByDescription naming motive) :
    ∀ attributes : List (String × Attribute),
      ∀ member ∈ Typing.describeAttributes naming attributes, motive member.type
  | [] => nofun
  | (_, ⟨value, _⟩) :: rest =>
      List.forall_mem_cons.mpr ⟨kept.describe value, kept.describeAttributes rest⟩

end

theorem describeDeclaration (kept : KeptByDescription naming motive) (declaration : Declaration) :
    motive (Typing.describeDeclaration naming declaration) := by
  cases declaration with
  | type name value => exact kept.describe value
  | document name attributes => exact kept.literal (kept.describeAttributes attributes)

end KeptByDescription

/-! ### Projections -/

namespace SchemaTypes

variable {Ast : Type} {types : SchemaTypes} {language : Query.Language Ast}
  {motive : TypeExpr → Prop}

private theorem askProjection_kept (kept : KeptByDescription types.naming motive)
    (wrapped : ∀ {object document}, motive object →
      motive (.reference projectionBaseName [object, .stringLiteral document]))
    {projection document : String} {found : Option EvaluatedType}
    (succeeds : (types.askProjection language projection document).result = .ok found) :
    ∀ known ∈ found, motive known.type := by
  obtain ⟨parsed, _, goesOn⟩ := Asked.andThen_eq_ok succeeds
  obtain ⟨node, _, ends⟩ := Asked.andThen_eq_ok goesOn
  cases ends
  intro known present
  obtain ⟨shape, _, selects⟩ := Option.bind_eq_some_iff.mp present
  split at selects
  · cases selects
  · cases selects
    exact wrapped (kept.describeObject shape)

private theorem askProjections_kept (kept : KeptByDescription types.naming motive)
    (wrapped : ∀ {object document}, motive object →
      motive (.reference projectionBaseName [object, .stringLiteral document]))
    {projection : String} {documents : List String} {found : List EvaluatedType}
    (succeeds : (types.askProjections language projection documents).result = .ok found) :
    ∀ known ∈ found, motive known.type := by
  induction documents generalizing found with
  | nil =>
      cases succeeds
      exact nofun
  | cons document rest ih =>
      obtain ⟨first, firstFound, goesOn⟩ := Asked.andThen_eq_ok succeeds
      obtain ⟨others, othersFound, ends⟩ := Asked.andThen_eq_ok goesOn
      cases ends
      refine List.forall_mem_append.mpr ⟨?_, ih othersFound⟩
      intro known present
      exact askProjection_kept kept wrapped firstFound known (Option.mem_toList.mp present)

private theorem combined_kept
    (union : ∀ {types}, (∀ type ∈ types, motive type) → motive (.union types))
    {found : List EvaluatedType} (all : ∀ known ∈ found, motive known.type) :
    ∀ known ∈ combined found, motive known.type := by
  intro known present
  unfold combined at present
  split at present
  · cases present
  · cases present
    exact all known List.mem_cons_self
  · cases present
    exact union (List.forall_mem_map.mpr all)

/-- What descriptions and the wrapper of projections keep holds of the type of a projection. -/
theorem evaluateProjection_kept (kept : KeptByDescription types.naming motive)
    (wrapped : ∀ {object document}, motive object →
      motive (.reference projectionBaseName [object, .stringLiteral document]))
    {projection : String} {known : EvaluatedType}
    (succeeds : (types.evaluateProjection language projection).result = .ok (some known)) :
    motive known.type := by
  obtain ⟨parsed, _, goesOn⟩ := Asked.andThen_eq_ok succeeds
  obtain ⟨object, _, goesOn⟩ := Asked.andThen_eq_ok goesOn
  split at goesOn
  · obtain ⟨found, allFound, ends⟩ := Asked.andThen_eq_ok goesOn
    exact combined_kept kept.union (askProjections_kept kept wrapped allFound) known
      (Except.ok.inj ends)
  · cases goesOn

end SchemaTypes

end QueryTypes.Typing
