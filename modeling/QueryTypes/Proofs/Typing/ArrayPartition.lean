import QueryTypes.Proofs.Typing.DescribedWords
import QueryTypes.Proofs.Typing.RestChains

/-!
Arrays of unions are described apart by the kind of their members.

The rules below translate a type as it is said: an array of a union with members of both kinds is
the union of two arrays, each translated anew for a union of one kind. Although these unions are no
parts of the type, translating always comes to an end, and what it ends with is the description.
-/

set_option autoImplicit false

namespace QueryTypes.Typing

open QueryTypes.Schema
open QueryTypes.Declared

def ofKind (inline : Bool) (members : List ValueType) : List ValueType :=
  members.filter fun member => member.isInline == inline

mutual

/-- What a type is translated to, rule by rule. -/
inductive Translates (naming : Naming) : ValueType → TypeExpr → Prop where
  | string : Translates naming (.string none) (.keyword .string)
  | stringLiteral (value : String) :
      Translates naming (.string (some value)) (.stringLiteral value)
  | number : Translates naming (.number none) (.keyword .number)
  | numberLiteral (value : Number) :
      Translates naming (.number (some value)) (.numberLiteral value)
  | boolean : Translates naming (.boolean none) (.keyword .boolean)
  | booleanLiteral (value : Bool) :
      Translates naming (.boolean (some value)) (.booleanLiteral value)
  | null : Translates naming .null (.keyword .null)
  | unknown : Translates naming .unknown (.keyword .unknown)
  | inline (name : String) : Translates naming (.inline name) (naming.inline name)
  | never : Translates naming (.union []) (.keyword .never)
  | single {node : ValueType} {type : TypeExpr} (only : Translates naming node type) :
      Translates naming (.union [node]) type
  | union {members : List ValueType} {types : List TypeExpr} (several : 1 < members.length)
      (each : TranslatesAll naming members types) :
      Translates naming (.union members) (.union types)
  | array {element : ValueType} {type : TypeExpr} (items : TranslatesArray naming element type) :
      Translates naming (.array element) type
  | object {attributes : List (String × Attribute)} {members : List Member}
      (own : TranslatesAttributes naming attributes members) (target : Option String) :
      Translates naming (.object ⟨attributes, none, target⟩)
        (.literal (members ++ referenceMembers target))
  | unknownRest {attributes : List (String × Attribute)} {members : List Member}
      (own : TranslatesAttributes naming attributes members) (target : Option String) :
      Translates naming (.object ⟨attributes, some .unknown, target⟩) (.keyword .unknown)
  | objectRest {attributes others : List (String × Attribute)} {members further : List Member}
      (own : TranslatesAttributes naming attributes members)
      (more : TranslatesAttributes naming others further) (rest : Option ObjectRest)
      (target other : Option String) :
      Translates naming (.object ⟨attributes, some (.object ⟨others, rest, other⟩), target⟩)
        (.literal (members ++ further ++ referenceMembers target))
  | inlineRest {attributes : List (String × Attribute)} {members : List Member}
      (own : TranslatesAttributes naming attributes members) (name : String)
      (target : Option String) :
      Translates naming (.object ⟨attributes, some (.inline name), target⟩)
        (withInlineRest members (naming.inline name))

inductive TranslatesArray (naming : Naming) : ValueType → TypeExpr → Prop where
  | inline {name : String} {type : TypeExpr} (items : Translates naming (.inline name) type) :
      TranslatesArray naming (.inline name) (keyedArrayOf type)
  | keyed {members : List ValueType} {type : TypeExpr} (filled : members ≠ [])
      (only : ∀ member ∈ members, member.isInline = true)
      (items : Translates naming (.union members) type) :
      TranslatesArray naming (.union members) (keyedArrayOf type)
  | plain {members : List ValueType} {type : TypeExpr} (filled : members ≠ [])
      (only : ∀ member ∈ members, member.isInline = false)
      (items : Translates naming (.union members) type) :
      TranslatesArray naming (.union members) (arrayOf type)
  | both {members : List ValueType} {keyed plain : TypeExpr}
      (someInline : ofKind true members ≠ []) (someOther : ofKind false members ≠ [])
      (inlines : TranslatesArray naming (.union (ofKind true members)) keyed)
      (others : TranslatesArray naming (.union (ofKind false members)) plain) :
      TranslatesArray naming (.union members) (.union [keyed, plain])
  | other {element : ValueType} {type : TypeExpr} (noReference : element.isInline = false)
      (noUnion : ∀ members, element = .union members → members = [])
      (items : Translates naming element type) : TranslatesArray naming element (arrayOf type)

inductive TranslatesAll (naming : Naming) : List ValueType → List TypeExpr → Prop where
  | nil : TranslatesAll naming [] []
  | cons {first : ValueType} {rest : List ValueType} {type : TypeExpr} {types : List TypeExpr}
      (here : Translates naming first type) (later : TranslatesAll naming rest types) :
      TranslatesAll naming (first :: rest) (type :: types)

inductive TranslatesAttributes (naming : Naming) :
    List (String × Attribute) → List Member → Prop where
  | nil : TranslatesAttributes naming [] []
  | cons {value : ValueType} {type : TypeExpr} {rest : List (String × Attribute)}
      {members : List Member} (name : String) (optional : Bool)
      (here : Translates naming value type) (later : TranslatesAttributes naming rest members) :
      TranslatesAttributes naming ((name, ⟨value, optional⟩) :: rest)
        (⟨.identifier (Identifier.sanitize name), optional, type⟩ :: members)

end

variable {naming : Naming}

/-! ### Arrays of unions -/

private theorem selected_map (inline : Bool) (members : List ValueType)
    (type : ValueType → TypeExpr) :
    selected inline members (members.map type) = (ofKind inline members).map type := by
  induction members with
  | nil => rfl
  | cons first rest ih =>
      unfold selected ofKind at ih ⊢
      rw [List.map_cons, List.zip_cons_cons, List.filter_cons, List.filter_cons]
      split
      · rw [List.map_cons, List.map_cons, ih]
      · exact ih

private theorem describe_union (naming : Naming) (members : List ValueType) :
    describe naming (.union members) = unionOf (members.map (describe naming)) := by
  rw [describe, describeAll_eq_map]

private theorem ofKind_eq_self {inline : Bool} {members : List ValueType}
    (only : ∀ member ∈ members, member.isInline = inline) : ofKind inline members = members :=
  List.filter_eq_self.mpr fun member present => beq_iff_eq.mpr (only member present)

private theorem ofKind_eq_nil {inline : Bool} {members : List ValueType} :
    ofKind inline members = [] ↔ ∀ member ∈ members, member.isInline = !inline := by
  rw [ofKind, List.filter_eq_nil_iff]
  simp only [beq_iff_eq, Bool.eq_not, ne_eq]

/-- An array of references has one wrapper, the one for items with keys. -/
theorem describe_array_keyed {members : List ValueType} (filled : members ≠ [])
    (only : ∀ member ∈ members, member.isInline = true) :
    describe naming (.array (.union members)) =
      keyedArrayOf (describe naming (.union members)) := by
  have noOther : ofKind false members = [] := ofKind_eq_nil.mpr only
  rw [describe, describeAll_eq_map, arrayOfUnion, selected_map, selected_map,
    ofKind_eq_self only, noOther, describe_union]
  obtain ⟨first, rest, rfl⟩ := List.exists_cons_of_ne_nil filled
  rfl

private theorem describe_array_plain {members : List ValueType}
    (only : ∀ member ∈ members, member.isInline = false) :
    describe naming (.array (.union members)) = arrayOf (describe naming (.union members)) := by
  have noInline : ofKind true members = [] := ofKind_eq_nil.mpr only
  rw [describe, describeAll_eq_map, arrayOfUnion, selected_map, selected_map,
    ofKind_eq_self only, noInline, describe_union]
  rfl

/-- The two kinds of members are described apart. -/
theorem describe_array_both {members : List ValueType} (someInline : ofKind true members ≠ [])
    (someOther : ofKind false members ≠ []) :
    describe naming (.array (.union members)) =
      .union [keyedArrayOf (describe naming (.union (ofKind true members))),
        arrayOf (describe naming (.union (ofKind false members)))] := by
  rw [describe, describeAll_eq_map, arrayOfUnion, selected_map, selected_map, describe_union,
    describe_union]
  obtain ⟨firstInline, inlines, references⟩ := List.exists_cons_of_ne_nil someInline
  obtain ⟨firstOther, others, rest⟩ := List.exists_cons_of_ne_nil someOther
  rw [references, rest]
  rfl

private theorem isInline_of_mem_ofKind {inline : Bool} {members : List ValueType} :
    ∀ member ∈ ofKind inline members, member.isInline = inline :=
  fun _ present => beq_iff_eq.mp (List.mem_filter.mp present).2

private theorem unionOf_eq_union {types : List TypeExpr} (several : 1 < types.length) :
    unionOf types = .union types := by
  unfold unionOf
  split <;> simp_all

/-! ### The rules give the description -/

mutual

private theorem Translates.eq_describe : ∀ {node : ValueType} {type : TypeExpr},
    Translates naming node type → type = describe naming node
  | _, _, .string | _, _, .stringLiteral _ | _, _, .number | _, _, .numberLiteral _
  | _, _, .boolean | _, _, .booleanLiteral _ | _, _, .null | _, _, .unknown | _, _, .inline _
  | _, _, .never => rfl
  | _, _, .single only => only.eq_describe
  | _, _, .union several each => by
      rw [describe, each.eq_describe, describeAll_eq_map, unionOf_eq_union]
      rw [List.length_map]
      exact several
  | _, _, .array items => items.eq_describe
  | _, _, .object own target => by rw [own.eq_describe, describe, describeObject]
  | _, _, .unknownRest own target => by rw [describe, describeObject]
  | _, _, .objectRest own more rest target other => by
      rw [own.eq_describe, more.eq_describe, describe, describeObject]
  | _, _, .inlineRest own name target => by rw [own.eq_describe, describe, describeObject]

private theorem TranslatesArray.eq_describe : ∀ {element : ValueType} {type : TypeExpr},
    TranslatesArray naming element type → type = describe naming (.array element)
  | _, _, .inline items => by rw [items.eq_describe]; rfl
  | _, _, .keyed filled only items => by rw [items.eq_describe, describe_array_keyed filled only]
  | _, _, .plain _ only items => by rw [items.eq_describe, describe_array_plain only]
  | _, _, .both someInline someOther inlines others => by
      rw [inlines.eq_describe, others.eq_describe, describe_array_both someInline someOther,
        describe_array_keyed someInline isInline_of_mem_ofKind,
        describe_array_plain isInline_of_mem_ofKind]
  | element, _, .other noReference noUnion items => by
      rw [items.eq_describe]
      cases element with
      | inline name => exact absurd noReference Bool.noConfusion
      | union members =>
          rw [noUnion members rfl]
          rfl
      | _ => rfl

private theorem TranslatesAll.eq_describe : ∀ {nodes : List ValueType} {types : List TypeExpr},
    TranslatesAll naming nodes types → types = describeAll naming nodes
  | _, _, .nil => rfl
  | _, _, .cons here later => by rw [here.eq_describe, later.eq_describe, describeAll]

private theorem TranslatesAttributes.eq_describe :
    ∀ {attributes : List (String × Attribute)} {members : List Member},
      TranslatesAttributes naming attributes members →
        members = describeAttributes naming attributes
  | _, _, .nil => rfl
  | _, _, .cons name optional here later => by
      rw [here.eq_describe, later.eq_describe, describeAttributes]

end

private theorem translatesAll_of_each {nodes : List ValueType}
    (each : ∀ node ∈ nodes, Translates naming node (describe naming node)) :
    TranslatesAll naming nodes (describeAll naming nodes) := by
  induction nodes with
  | nil => exact .nil
  | cons first rest ih =>
      obtain ⟨here, later⟩ := List.forall_mem_cons.mp each
      exact .cons here (ih later)

private theorem translates_union_of_each {members : List ValueType}
    (each : ∀ member ∈ members, Translates naming member (describe naming member)) :
    Translates naming (.union members) (describe naming (.union members)) := by
  match members with
  | [] => exact .never
  | [only] => exact .single (each only List.mem_cons_self)
  | first :: second :: rest => exact .union (by simp) (translatesAll_of_each each)

/-- Translating an array of a union ends if translating each member does: the unions that are made
anew have members of one kind only. -/
theorem translatesArray_union_of_each {members : List ValueType}
    (each : ∀ member ∈ members, Translates naming member (describe naming member)) :
    TranslatesArray naming (.union members) (describe naming (.array (.union members))) := by
  have keyed {references : List ValueType} (filled : references ≠ [])
      (only : ∀ member ∈ references, member.isInline = true) (among : references ⊆ members) :
      TranslatesArray naming (.union references)
        (keyedArrayOf (describe naming (.union references))) :=
    .keyed filled only (translates_union_of_each fun member present => each member (among present))
  have plain {rest : List ValueType} (filled : rest ≠ [])
      (only : ∀ member ∈ rest, member.isInline = false) (among : rest ⊆ members) :
      TranslatesArray naming (.union rest) (arrayOf (describe naming (.union rest))) :=
    .plain filled only (translates_union_of_each fun member present => each member (among present))
  by_cases empty : members = []
  · subst empty
    exact .other rfl (fun members same => (ValueType.union.inj same).symm) .never
  by_cases noOther : ofKind false members = []
  · have only := ofKind_eq_nil.mp noOther
    rw [describe_array_keyed empty only]
    exact keyed empty only (List.Subset.refl members)
  by_cases noInline : ofKind true members = []
  · have only := ofKind_eq_nil.mp noInline
    rw [describe_array_plain only]
    exact plain empty only (List.Subset.refl members)
  · rw [describe_array_both noInline noOther]
    exact .both noInline noOther
      (keyed noInline isInline_of_mem_ofKind (List.filter_subset_self _))
      (plain noOther isInline_of_mem_ofKind (List.filter_subset_self _))

mutual

/-- Translating a type comes to an end. -/
theorem translates_describe (naming : Naming) :
    ∀ node : ValueType, Translates naming node (describe naming node)
  | .string none => .string
  | .string (some value) => .stringLiteral value
  | .number none => .number
  | .number (some value) => .numberLiteral value
  | .boolean none => .boolean
  | .boolean (some value) => .booleanLiteral value
  | .null => .null
  | .unknown => .unknown
  | .inline name => .inline name
  | .union members => translates_union_of_each (translates_each naming members)
  | .array element => .array (translatesArray_describe naming element)
  | .object shape => translates_object naming shape

private theorem translatesArray_describe (naming : Naming) :
    ∀ element : ValueType, TranslatesArray naming element (describe naming (.array element))
  | .inline name => .inline (.inline name)
  | .union members => translatesArray_union_of_each (translates_each naming members)
  | .string value => .other rfl nofun (translates_describe naming (.string value))
  | .number value => .other rfl nofun (translates_describe naming (.number value))
  | .boolean value => .other rfl nofun (translates_describe naming (.boolean value))
  | .null => .other rfl nofun .null
  | .unknown => .other rfl nofun .unknown
  | .array element => .other rfl nofun (.array (translatesArray_describe naming element))
  | .object shape => .other rfl nofun (translates_object naming shape)

private theorem translates_each (naming : Naming) :
    ∀ nodes : List ValueType, ∀ node ∈ nodes, Translates naming node (describe naming node)
  | [] => nofun
  | first :: rest =>
      List.forall_mem_cons.mpr ⟨translates_describe naming first, translates_each naming rest⟩

private theorem translates_object (naming : Naming) :
    ∀ shape : ObjectType, Translates naming (.object shape) (describeObject naming shape)
  | ⟨attributes, none, target⟩ => .object (translatesAttributes_describe naming attributes) target
  | ⟨attributes, some .unknown, target⟩ =>
      .unknownRest (translatesAttributes_describe naming attributes) target
  | ⟨attributes, some (.object ⟨others, rest, other⟩), target⟩ =>
      .objectRest (translatesAttributes_describe naming attributes)
        (translatesAttributes_describe naming others) rest target other
  | ⟨attributes, some (.inline name), target⟩ =>
      .inlineRest (translatesAttributes_describe naming attributes) name target

private theorem translatesAttributes_describe (naming : Naming) :
    ∀ attributes : List (String × Attribute),
      TranslatesAttributes naming attributes (describeAttributes naming attributes)
  | [] => .nil
  | (name, ⟨value, optional⟩) :: rest =>
      .cons name optional (translates_describe naming value)
        (translatesAttributes_describe naming rest)

end

/-- Every type is translated to its description and to nothing else. An array of a union has the
descriptions of its references under one wrapper and those of its other members under the other,
both in the order of the union. -/
theorem describe_array_partition (naming : Naming) :
    (∀ node type, Translates naming node type ↔ type = describe naming node) ∧
      ∀ members, members ≠ [] →
        let inlines := (ofKind true members).map (describe naming)
        let others := (ofKind false members).map (describe naming)
        (others = [] →
          describe naming (.array (.union members)) = keyedArrayOf (unionOf inlines)) ∧
        (inlines = [] → describe naming (.array (.union members)) = arrayOf (unionOf others)) ∧
        (inlines ≠ [] → others ≠ [] →
          describe naming (.array (.union members)) =
            .union [keyedArrayOf (unionOf inlines), arrayOf (unionOf others)]) := by
  refine ⟨fun node type => ⟨Translates.eq_describe, fun same => ?_⟩, fun members filled => ?_⟩
  · rw [same]
    exact translates_describe naming node
  · refine ⟨fun noOther => ?_, fun noInline => ?_, fun someInline someOther => ?_⟩
    · have only : ∀ member ∈ members, member.isInline = true :=
        ofKind_eq_nil.mp (List.map_eq_nil_iff.mp noOther)
      rw [describe_array_keyed filled only, describe_union, ofKind_eq_self only]
    · have only : ∀ member ∈ members, member.isInline = false :=
        ofKind_eq_nil.mp (List.map_eq_nil_iff.mp noInline)
      rw [describe_array_plain only, describe_union, ofKind_eq_self only]
    · rw [describe_array_both (fun none => someInline (List.map_eq_nil_iff.mpr none))
        (fun none => someOther (List.map_eq_nil_iff.mpr none)), describe_union, describe_union]

/-- References and other members that alternate, and a single one of a kind. -/
example : describe ⟨"default", [("block", "Block"), ("image", "Image")]⟩
    (.array (.union [.inline "block", .string none, .inline "image"])) =
      .union [keyedArrayOf (.union [.named "Block", .named "Image"]),
        arrayOf (.keyword .string)] := rfl

end QueryTypes.Typing
