import QueryTypes.Typing.Description

/-!
Objects whose rests have rests.

A rest may be an object with a rest of its own, and so on until one ends the chain. The description
of an object reads no further than its first rest: it tells what the chain holds if and only if that
rest hides nothing.
-/

set_option autoImplicit false

namespace QueryTypes.Schema

inductive ChainEnd where
  | closed
  | unknown
  | inline (name : String)

namespace ObjectType

/-- An object and the rests that are objects, from the outermost to the last. -/
def chain : ObjectType → List ObjectType
  | ⟨attributes, rest, target⟩ =>
      ⟨attributes, rest, target⟩ ::
        match rest with
        | some (.object next) => next.chain
        | none | some .unknown | some (.inline _) => []

def chainEnd : ObjectType → ChainEnd
  | ⟨_, none, _⟩ => .closed
  | ⟨_, some .unknown, _⟩ => .unknown
  | ⟨_, some (.inline name), _⟩ => .inline name
  | ⟨_, some (.object next), _⟩ => next.chainEnd

def chainAttributes (shape : ObjectType) : List (String × Attribute) :=
  shape.chain.flatMap ObjectType.attributes

def chainTargets (shape : ObjectType) : List String :=
  shape.chain.flatMap fun part => part.dereferencesTo.toList

section

variable (attributes : List (String × Attribute)) (target : Option String)

private theorem chain_object (next : ObjectType) :
    chain ⟨attributes, some (.object next), target⟩ =
      ⟨attributes, some (.object next), target⟩ :: next.chain := by
  rw [chain]

private theorem chainAttributes_object (next : ObjectType) :
    chainAttributes ⟨attributes, some (.object next), target⟩ =
      attributes ++ next.chainAttributes := by
  rw [chainAttributes, chain_object, List.flatMap_cons]
  rfl

private theorem chainTargets_object (next : ObjectType) :
    chainTargets ⟨attributes, some (.object next), target⟩ =
      target.toList ++ next.chainTargets := by
  rw [chainTargets, chain_object, List.flatMap_cons]
  rfl

variable (rest : Option ObjectRest) (last : ∀ next, rest ≠ some (.object next))
include last

/-- Without an object for a rest, an object is all of its chain. -/
theorem chain_last : chain ⟨attributes, rest, target⟩ = [⟨attributes, rest, target⟩] := by
  unfold chain
  split
  · exact absurd rfl (last _)
  all_goals rfl

private theorem chainAttributes_last : chainAttributes ⟨attributes, rest, target⟩ = attributes := by
  rw [chainAttributes, chain_last attributes target rest last, List.flatMap_singleton]

private theorem chainTargets_last : chainTargets ⟨attributes, rest, target⟩ = target.toList := by
  rw [chainTargets, chain_last attributes target rest last, List.flatMap_singleton]

end

/-- The attributes of the object itself come first. -/
theorem chainAttributes_eq (shape : ObjectType) :
    ∃ later, shape.chainAttributes = shape.attributes ++ later := by
  obtain ⟨attributes, rest, target⟩ := shape
  unfold chainAttributes chain
  exact ⟨_, List.flatMap_cons⟩

/-- An object as far as its description reads it. -/
def visible : ObjectType → ObjectType
  | ⟨attributes, none, target⟩ => ⟨attributes, none, target⟩
  | ⟨attributes, some .unknown, target⟩ => ⟨attributes, some .unknown, target⟩
  | ⟨attributes, some (.inline name), _⟩ => ⟨attributes, some (.inline name), none⟩
  | ⟨attributes, some (.object rest), target⟩ =>
      ⟨attributes, some (.object ⟨rest.attributes, none, none⟩), target⟩

section

variable (attributes : List (String × Attribute)) (rest : ObjectType) (target : Option String)

private theorem chainEnd_visible_object :
    (visible ⟨attributes, some (.object rest), target⟩).chainEnd = .closed := by
  rw [visible, chainEnd, chainEnd]

private theorem chainAttributes_visible_object :
    (visible ⟨attributes, some (.object rest), target⟩).chainAttributes =
      attributes ++ rest.attributes := by
  rw [visible, chainAttributes_object, chainAttributes_last _ _ none nofun]

private theorem chainTargets_visible_object :
    (visible ⟨attributes, some (.object rest), target⟩).chainTargets = target.toList := by
  rw [visible, chainTargets_object, chainTargets_last _ _ none nofun, Option.toList_none,
    List.append_nil]

end

end ObjectType

end QueryTypes.Schema

namespace QueryTypes.Typing

open QueryTypes.Schema
open QueryTypes.Declared

/-! ### Members -/

def attributeMember (naming : Naming) (entry : String × Attribute) : Member :=
  ⟨.identifier (Identifier.sanitize entry.1), entry.2.optional, describe naming entry.2.value⟩

def targetMember (target : String) : Member :=
  ⟨.computed referenceSymbol, true, .stringLiteral target⟩

def chainMembers (naming : Naming) (shape : ObjectType) : List Member :=
  shape.chainAttributes.map (attributeMember naming) ++ shape.chainTargets.map targetMember

private theorem chainMembers_length (naming : Naming) (shape : ObjectType) :
    (chainMembers naming shape).length =
      shape.chainAttributes.length + shape.chainTargets.length := by
  rw [chainMembers, List.length_append, List.length_map, List.length_map]

theorem describeAttributes_eq_map (naming : Naming) (attributes : List (String × Attribute)) :
    describeAttributes naming attributes = attributes.map (attributeMember naming) := by
  induction attributes with
  | nil => rw [describeAttributes, List.map_nil]
  | cons entry rest ih =>
      obtain ⟨name, value, optional⟩ := entry
      rw [describeAttributes, List.map_cons, ih]
      rfl

private theorem referenceMembers_eq_map (target : Option String) :
    referenceMembers target = target.toList.map targetMember := by
  cases target <;> rfl

/-- The members of an object that is all of its chain. -/
theorem chainMembers_last (naming : Naming) (attributes : List (String × Attribute))
    (target : Option String) (rest : Option ObjectRest)
    (last : ∀ next, rest ≠ some (.object next)) :
    chainMembers naming ⟨attributes, rest, target⟩ =
      describeAttributes naming attributes ++ referenceMembers target := by
  rw [chainMembers, ObjectType.chainAttributes_last attributes target rest last,
    ObjectType.chainTargets_last attributes target rest last, describeAttributes_eq_map,
    referenceMembers_eq_map]

/-! ### Types of chains -/

def EndsUnknown (naming : Naming) (shape : ObjectType) : Prop :=
  match shape.chainEnd with
  | .closed => False
  | .unknown => True
  | .inline name => naming.identifiers.lookup name = none

/-- A type that tells all that the chain holds: an unknown type if the chain ends in something that
is not known, else the members of the chain together with the declaration at its end. -/
inductive TellsChain (naming : Naming) (shape : ObjectType) : TypeExpr → Prop where
  | unknown {type : TypeExpr} (ends : EndsUnknown naming shape) (unsure : type.isUnknown = true) :
      TellsChain naming shape type
  | closed (ends : shape.chainEnd = .closed) :
      TellsChain naming shape (.literal (chainMembers naming shape))
  | inline {name identifier : String} (ends : shape.chainEnd = .inline name)
      (known : naming.identifiers.lookup name = some identifier) :
      TellsChain naming shape
        (.intersection [.literal (chainMembers naming shape), .named identifier])

variable {naming : Naming} {type : TypeExpr}

private theorem endsUnknown_inline {shape : ObjectType} {name : String}
    (ends : shape.chainEnd = .inline name) :
    EndsUnknown naming shape ↔ naming.identifiers.lookup name = none := by
  rw [EndsUnknown, ends]

private theorem TellsChain.isUnknown_iff {shape : ObjectType}
    (tells : TellsChain naming shape type) :
    type.isUnknown = true ↔ EndsUnknown naming shape := by
  cases tells with
  | unknown ends unsure => exact iff_of_true unsure ends
  | closed ends =>
      rw [EndsUnknown, ends]
      exact iff_of_false nofun id
  | inline ends known =>
      rw [endsUnknown_inline ends, known]
      exact iff_of_false nofun nofun

/-- A literal tells a chain only if the chain is closed and has as many members. -/
theorem TellsChain.of_literal {shape : ObjectType} {members : List Member}
    (tells : TellsChain naming shape (.literal members)) :
    shape.chainEnd = .closed ∧
      members.length = shape.chainAttributes.length + shape.chainTargets.length := by
  cases tells with
  | unknown ends unsure => cases unsure
  | closed ends => exact ⟨ends, chainMembers_length naming shape⟩

private theorem TellsChain.of_intersection {shape : ObjectType} {members : List Member}
    {others : List TypeExpr}
    (tells : TellsChain naming shape (.intersection (.literal members :: others))) :
    members.length = shape.chainAttributes.length + shape.chainTargets.length := by
  cases tells with
  | unknown ends unsure => cases unsure
  | inline ends known => exact chainMembers_length naming shape

/-- Chains with the same members and the same end are told by the same types. -/
theorem TellsChain.congr {first second : ObjectType}
    (members : chainMembers naming first = chainMembers naming second)
    (ends : first.chainEnd = second.chainEnd) (tells : TellsChain naming first type) :
    TellsChain naming second type := by
  cases tells with
  | unknown unknown unsure =>
      rw [EndsUnknown, ends] at unknown
      exact .unknown unknown unsure
  | closed closed =>
      rw [members]
      exact .closed (ends ▸ closed)
  | inline inline known =>
      rw [members]
      exact .inline (ends ▸ inline) known

/-! ### Descriptions -/

/-- A description tells what it reads. -/
theorem describe_tells_visible (naming : Naming) (shape : ObjectType) :
    TellsChain naming shape.visible (describe naming (.object shape)) := by
  rw [describe]
  match shape with
  | ⟨attributes, none, target⟩ =>
      rw [describeObject, ObjectType.visible,
        ← chainMembers_last naming attributes target none nofun]
      exact .closed (by rw [ObjectType.chainEnd])
  | ⟨_, some .unknown, _⟩ =>
      rw [describeObject, ObjectType.visible]
      refine .unknown ?_ rfl
      rw [EndsUnknown, ObjectType.chainEnd]
      trivial
  | ⟨attributes, some (.object ⟨others, rest, hidden⟩), target⟩ =>
      have members : chainMembers naming
            (ObjectType.visible ⟨attributes, some (.object ⟨others, rest, hidden⟩), target⟩) =
          describeAttributes naming attributes ++ describeAttributes naming others ++
            referenceMembers target := by
        rw [chainMembers, ObjectType.chainAttributes_visible_object,
          ObjectType.chainTargets_visible_object, List.map_append, describeAttributes_eq_map,
          describeAttributes_eq_map, referenceMembers_eq_map]
      rw [describeObject, ← members]
      exact .closed (ObjectType.chainEnd_visible_object _ _ _)
  | ⟨attributes, some (.inline name), _⟩ =>
      have ends : ObjectType.chainEnd ⟨attributes, some (.inline name), none⟩ = .inline name := by
        rw [ObjectType.chainEnd]
      have members := chainMembers_last naming attributes none (some (.inline name)) nofun
      rw [referenceMembers, List.append_nil] at members
      rw [describeObject, ObjectType.visible, withInlineRest, Naming.inline, ← members]
      cases known : naming.identifiers.lookup name with
      | none => exact .unknown ((endsUnknown_inline ends).mpr known) rfl
      | some identifier => exact .inline ends known

/-- What the description does not read adds nothing: no rest but the first has attributes, none has
a target and the last one is closed; beside a reference that is known there is no target. -/
def HidesNothing (naming : Naming) : ObjectType → Prop
  | ⟨_, none, _⟩ | ⟨_, some .unknown, _⟩ => True
  | ⟨_, some (.inline name), target⟩ => naming.identifiers.lookup name = none ∨ target = none
  | ⟨_, some (.object rest), _⟩ =>
      rest.chainEnd = .closed ∧ rest.chainAttributes = rest.attributes ∧ rest.chainTargets = []

/-- Where nothing is hidden, the description tells the whole chain. -/
theorem HidesNothing.tellsChain {shape : ObjectType} (hidesNothing : HidesNothing naming shape) :
    TellsChain naming shape (describe naming (.object shape)) := by
  have tells := describe_tells_visible naming shape
  match shape with
  | ⟨attributes, none, target⟩ => exact tells
  | ⟨attributes, some .unknown, target⟩ => exact tells
  | ⟨attributes, some (.inline name), target⟩ =>
      rcases hidesNothing with missing | noTarget
      · refine .unknown ?_ (tells.isUnknown_iff.mpr ?_)
        · exact (endsUnknown_inline (by rw [ObjectType.chainEnd])).mpr missing
        · exact (endsUnknown_inline (by rw [ObjectType.visible, ObjectType.chainEnd])).mpr missing
      · rw [noTarget]
        exact tells
  | ⟨attributes, some (.object rest), target⟩ =>
      obtain ⟨closed, ownAttributes, noTargets⟩ := hidesNothing
      refine tells.congr ?_ ?_
      · rw [chainMembers, chainMembers, ObjectType.chainAttributes_visible_object,
          ObjectType.chainTargets_visible_object, ObjectType.chainAttributes_object,
          ObjectType.chainTargets_object, ownAttributes, noTargets, List.append_nil]
      · rw [ObjectType.chainEnd_visible_object, ObjectType.chainEnd, closed]

/-- Where something is hidden the description has too few members for the chain, or is a literal
where the chain has another end. -/
theorem TellsChain.hidesNothing {shape : ObjectType}
    (tells : TellsChain naming shape (describe naming (.object shape))) :
    HidesNothing naming shape := by
  rw [describe] at tells
  match shape with
  | ⟨attributes, none, target⟩ => trivial
  | ⟨attributes, some .unknown, target⟩ => trivial
  | ⟨attributes, some (.inline name), target⟩ =>
      rw [describeObject, withInlineRest, Naming.inline, describeAttributes_eq_map] at tells
      cases known : naming.identifiers.lookup name with
      | none => exact .inl known
      | some identifier =>
          rw [known] at tells
          have lengths := tells.of_intersection
          rw [List.length_map, ObjectType.chainAttributes_last _ _ (some (.inline name)) nofun,
            ObjectType.chainTargets_last _ _ (some (.inline name)) nofun] at lengths
          cases target with
          | none => exact .inr rfl
          | some target => exact absurd lengths (by simp)
  | ⟨attributes, some (.object ⟨others, rest, hidden⟩), target⟩ =>
      rw [describeObject, describeAttributes_eq_map, describeAttributes_eq_map,
        referenceMembers_eq_map] at tells
      obtain ⟨closed, lengths⟩ := tells.of_literal
      obtain ⟨later, parts⟩ := ObjectType.chainAttributes_eq ⟨others, rest, hidden⟩
      rw [ObjectType.chainEnd] at closed
      rw [ObjectType.chainAttributes_object, ObjectType.chainTargets_object, parts] at lengths
      simp only [List.length_append, List.length_map] at lengths
      have noLater : later = [] := List.length_eq_zero_iff.mp (by omega)
      have noTargets : ObjectType.chainTargets ⟨others, rest, hidden⟩ = [] :=
        List.length_eq_zero_iff.mp (by omega)
      rw [noLater, List.append_nil] at parts
      exact ⟨closed, parts, noTargets⟩

/-- A description always tells the chain as far as it reads it. It tells the whole chain if and only
if nothing is hidden: what a rest has for a rest or refers to is lost, and so is what an object
refers to beside a rest that is a reference. -/
theorem describe_tells_chain_iff (naming : Naming) (shape : ObjectType) :
    TellsChain naming shape.visible (describe naming (.object shape)) ∧
      (TellsChain naming shape (describe naming (.object shape)) ↔ HidesNothing naming shape) :=
  ⟨describe_tells_visible naming shape, TellsChain.hidesNothing, HidesNothing.tellsChain⟩

/-- A rest with an unknown rest leaves the type of the object known. -/
theorem unknown_behind_rest_untold :
    let naming : Naming := ⟨"default", []⟩
    let rest : ObjectType := ⟨[("b", ⟨.number none, false⟩)], some .unknown, none⟩
    let shape : ObjectType := ⟨[("a", ⟨.string none, false⟩)], some (.object rest), none⟩
    EndsUnknown naming shape ∧ ¬ TellsChain naming shape (describe naming (.object shape)) := by
  intro naming rest shape
  have ends : EndsUnknown naming shape := trivial
  refine ⟨ends, fun tells => ?_⟩
  exact absurd (tells.isUnknown_iff.mpr ends) nofun

end QueryTypes.Typing
