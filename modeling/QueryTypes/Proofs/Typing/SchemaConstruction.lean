import QueryTypes.Proofs.Typing.DeclaredNames

/-!
What becomes of a list of declarations.

A schema is refused at the first declaration whose name another one had before it, and at nothing
else. Of an accepted schema no declaration is lost or listed twice, and each has the type that its
value is described by afterwards, wherever the declarations stand that it refers to.
-/

set_option autoImplicit false

namespace QueryTypes.Schema

def Declaration.valueType : Declaration → ValueType
  | .type _ value => value
  | .document _ attributes => .object ⟨attributes, none, none⟩

end QueryTypes.Schema

namespace QueryTypes.Typing

open QueryTypes.Schema
open QueryTypes.Declared

/-! ### Refused schemas -/

private theorem firstRepeated?_eq_none_of_nodup {before names : List String}
    (distinct : names.Nodup) (new : ∀ name ∈ names, name ∉ before) :
    firstRepeated? before names = none := by
  induction names generalizing before with
  | nil => rfl
  | cons first rest ih =>
      obtain ⟨once, others⟩ := List.nodup_cons.mp distinct
      unfold firstRepeated?
      rw [if_neg fun known => new first List.mem_cons_self (List.contains_iff_mem.mp known)]
      apply ih others
      intro name present known
      rcases List.mem_cons.mp known with same | earlier
      · subst same
        exact once present
      · exact new name (List.mem_cons_of_mem _ present) earlier

/-- The repeated name that is found stands where some name occurs again for the first time. -/
theorem firstRepeated?_eq_some {before names : List String} {name : String}
    (found : firstRepeated? before names = some name) :
    ∃ earlier later, names = earlier ++ name :: later ∧
      (name ∈ earlier ∨ name ∈ before) ∧ earlier.Nodup ∧ ∀ other ∈ earlier, other ∉ before := by
  induction names generalizing before with
  | nil => cases found
  | cons first rest ih =>
      unfold firstRepeated? at found
      split at found
      · rename_i known
        cases found
        exact ⟨[], rest, rfl, .inr (List.contains_iff_mem.mp known), List.nodup_nil,
          List.forall_mem_nil _⟩
      · rename_i new
        obtain ⟨earlier, later, rfl, again, distinct, others⟩ := ih found
        refine ⟨first :: earlier, later, rfl, ?_, ?_, ?_⟩
        · rcases again with inside | known
          · exact .inl (List.mem_cons_of_mem _ inside)
          · rcases List.mem_cons.mp known with same | outside
            · exact .inl (List.mem_cons.mpr (.inl same))
            · exact .inr outside
        · exact List.nodup_cons.mpr
            ⟨fun repeated => others first repeated List.mem_cons_self, distinct⟩
        · intro other present
          rcases List.mem_cons.mp present with same | inside
          · rw [same]
            exact fun known => new (List.contains_iff_mem.mpr known)
          · exact fun known => others other inside (List.mem_cons_of_mem _ known)

/-- A declaration of a schema before which all names differ and one is its own. -/
def FirstRepeated (schema : List Declaration) (repeated : Declaration) : Prop :=
  ∃ earlier later, schema = earlier ++ repeated :: later ∧
    (earlier.map Declaration.name).Nodup ∧ repeated.name ∈ earlier.map Declaration.name

private theorem firstRepeated_of_firstRepeated? {schema : List Declaration} {name : String}
    (found : firstRepeated? [] (schema.map Declaration.name) = some name) :
    ∃ repeated, FirstRepeated schema repeated ∧ repeated.name = name := by
  obtain ⟨earlier, later, split, again, distinct, _⟩ := firstRepeated?_eq_some found
  obtain ⟨before, rest, rfl, rfl, atRest⟩ := List.map_eq_append_iff.mp split
  obtain ⟨repeated, after, rfl, rfl, _⟩ := List.map_eq_cons_iff.mp atRest
  exact ⟨repeated, ⟨before, after, rfl, distinct, again.resolve_right List.not_mem_nil⟩, rfl⟩

/-! ### Accepted schemas -/

namespace SchemaTypes

structure Covers (types : SchemaTypes) (schemaId : String) (schema : List Declaration) : Prop where
  schemaId_eq : types.schemaId = schemaId
  declarations : types.declarations = schema
  names : types.names = schema.map Declaration.name
  distinct : types.names.Nodup
  identifiers : types.identifiers.Nodup
  unreserved : ∀ identifier ∈ types.identifiers, identifier ∉ reservedNames
  /-- Every declaration is listed once and in its place, under the identifier that references to it
  become and with the type that its value is described by. -/
  all : List.Forall₂ (fun (declaration : Declaration) (listed : NamedType) =>
      listed.name = declaration.name ∧ types.get? declaration.name = some listed ∧
        listed.type = (types.evaluated declaration.valueType).type ∧
        (types.evaluated (.inline declaration.name)).type = .named listed.identifier)
    schema types.all
  allIdentifiers : types.all.map (·.identifier) = types.identifiers

private theorem describe_valueType (naming : Naming) (declaration : Declaration) :
    describe naming declaration.valueType = describeDeclaration naming declaration := by
  cases declaration with
  | type name value => rfl
  | document name attributes =>
      rw [Declaration.valueType, describe, describeObject, describeDeclaration]
      exact congrArg TypeExpr.literal (List.append_nil _)

private theorem filterMap_forall₂ {Source Target : Type} {find : Source → Option Target}
    {Related : Source → Target → Prop} {sources : List Source}
    (each : ∀ source ∈ sources, ∃ target, find source = some target ∧ Related source target) :
    List.Forall₂ Related sources (sources.filterMap find) := by
  induction sources with
  | nil => exact .nil
  | cons first rest ih =>
      obtain ⟨target, found, related⟩ := each first List.mem_cons_self
      rw [List.filterMap_cons_some found]
      exact .cons related (ih fun source present => each source (List.mem_cons_of_mem _ present))

/-- What an accepted schema is made into, by the identifiers that its names were given. -/
theorem ofSchema_eq_ok {schemaId : String} {schema : List Declaration} {types : SchemaTypes}
    (accepted : ofSchema schemaId schema = .ok types) :
    ∃ identifiers : List (String × String),
      types = ⟨schema, ⟨schemaId, identifiers⟩, schema.map fun declaration =>
          (declaration.name, describeDeclaration ⟨schemaId, identifiers⟩ declaration)⟩ ∧
        (schema.map Declaration.name).Nodup ∧
        identifiers.map (·.1) = schema.map Declaration.name ∧
        identifiers.map (·.2) = (uniqueNames reservedNames
          ((schema.map Declaration.name).map Identifier.normalize)).1 := by
  have lengths := uniqueNames_length reservedNames
    ((schema.map Declaration.name).map Identifier.normalize)
  rw [List.length_map] at lengths
  unfold ofSchema at accepted
  dsimp only at accepted
  split at accepted
  · cases accepted
  · rename_i unrepeated
    exact ⟨_, (Except.ok.inj accepted).symm, (firstRepeated?_eq_none unrepeated).1,
      List.map_fst_zip (Nat.le_of_eq lengths.symm), List.map_snd_zip (Nat.le_of_eq lengths)⟩

/-- Every declaration of an accepted schema has an identifier, which references to it become, and
the type that its value is described by. -/
theorem get?_of_mem {schemaId : String} {schema : List Declaration} {types : SchemaTypes}
    (accepted : ofSchema schemaId schema = .ok types) {declaration : Declaration}
    (present : declaration ∈ schema) :
    ∃ identifier,
      types.get? declaration.name =
          some ⟨declaration.name, identifier, (types.evaluated declaration.valueType).type⟩ ∧
        (types.evaluated (.inline declaration.name)).type = .named identifier := by
  obtain ⟨identifiers, rfl, distinct, keys, _⟩ := ofSchema_eq_ok accepted
  have known : declaration.name ∈ identifiers.map (·.1) := keys ▸ List.mem_map_of_mem present
  obtain ⟨⟨name, identifier⟩, held, same⟩ := List.mem_map.mp known
  dsimp only at same
  subst same
  have named : identifiers.lookup declaration.name = some identifier :=
    Table.lookup_of_mem (keys ▸ distinct) held
  have described : (schema.map fun declaration => (declaration.name,
      describeDeclaration ⟨schemaId, identifiers⟩ declaration)).lookup declaration.name =
        some (describeDeclaration ⟨schemaId, identifiers⟩ declaration) := by
    apply Table.lookup_of_mem
    · rw [List.map_map]
      exact distinct
    · exact List.mem_map_of_mem present
  refine ⟨identifier, ?_, ?_⟩
  · unfold get? identifier? evaluated
    rw [named, described, describe_valueType]
    rfl
  · unfold evaluated
    rw [describe, Naming.inline, named]

/-- A list of declarations is accepted with types that cover all of it. -/
theorem covers_of_ofSchema {schemaId : String} {schema : List Declaration} {types : SchemaTypes}
    (accepted : ofSchema schemaId schema = .ok types) : types.Covers schemaId schema := by
  have listed (declaration : Declaration) (present : declaration ∈ schema) :=
    get?_of_mem accepted present
  have identifiers := identifiers_of_ofSchema accepted
  obtain ⟨given, unreserved⟩ := uniqueNames_fresh reservedNames
    ((schema.map Declaration.name).map Identifier.normalize)
  obtain ⟨pairs, rfl, distinct, keys, values⟩ := ofSchema_eq_ok accepted
  have namesDistinct : (pairs.map (·.1)).Nodup := by rwa [keys]
  have identifiersDistinct : (pairs.map (·.2)).Nodup := by rwa [values]
  have identifiersUnreserved : ∀ identifier ∈ pairs.map (·.2), identifier ∉ reservedNames := by
    rwa [values]
  refine ⟨rfl, rfl, keys, namesDistinct, identifiersDistinct, identifiersUnreserved, ?_,
    identifiers.trans values.symm⟩
  unfold all names
  rw [keys, List.filterMap_map]
  apply filterMap_forall₂
  intro declaration present
  obtain ⟨identifier, found, referred⟩ := listed declaration present
  exact ⟨_, found, rfl, found, rfl, referred⟩

end SchemaTypes

/-- A schema is accepted if and only if the names of its declarations differ, and is refused for the
first declaration with the name of an earlier one otherwise. The types of an accepted schema cover
all of its declarations, and what they refer to makes no difference to that: later declarations and
the declaration itself are referred to as earlier ones are. -/
theorem ofSchema_complete (schemaId : String) (schema : List Declaration) :
    ((∃ types, SchemaTypes.ofSchema schemaId schema = .ok types) ↔
        (schema.map Declaration.name).Nodup) ∧
      (∀ error, SchemaTypes.ofSchema schemaId schema = .error error →
        ∃ repeated, FirstRepeated schema repeated ∧ error = ⟨repeated.name, schemaId⟩) ∧
      ∀ types, SchemaTypes.ofSchema schemaId schema = .ok types →
        types.Covers schemaId schema := by
  refine ⟨⟨?_, ?_⟩, ?_, fun types accepted => SchemaTypes.covers_of_ofSchema accepted⟩
  · rintro ⟨types, accepted⟩
    obtain ⟨_, _, distinct, _⟩ := SchemaTypes.ofSchema_eq_ok accepted
    exact distinct
  · intro distinct
    have unrepeated : firstRepeated? [] (schema.map Declaration.name) = none :=
      firstRepeated?_eq_none_of_nodup distinct fun _ _ => List.not_mem_nil
    unfold SchemaTypes.ofSchema
    dsimp only
    rw [unrepeated]
    exact ⟨_, rfl⟩
  · intro error refused
    unfold SchemaTypes.ofSchema at refused
    dsimp only at refused
    split at refused
    · rename_i name found
      obtain ⟨repeated, first, rfl⟩ := firstRepeated_of_firstRepeated? found
      exact ⟨repeated, first, (Except.error.inj refused).symm⟩
    · cases refused

/-- A document that refers to a later one and that one to itself and back, and a type whose name
becomes the identifier of the first. -/
def librarySchema : List Declaration :=
  [.document "post" [("author", ⟨.inline "author", false⟩)],
    .document "author"
      [("mentor", ⟨.inline "author", true⟩), ("posts", ⟨.array (.inline "post"), false⟩)],
    .type "Post" (.union [.inline "post", .null])]

theorem librarySchema_covered :
    (∃ types, SchemaTypes.ofSchema "default" librarySchema = .ok types ∧
      types.Covers "default" librarySchema ∧
      types.identifiers = ["Post", "Author", "Post_2"] ∧
      (types.get? "author").map (·.type.text) =
        some "\x7b\n  mentor?: Author;\n  posts: ArrayOf<Post>;\n\x7d") ∧
      ∃ repeated, FirstRepeated (librarySchema ++ librarySchema) repeated ∧
        (⟨"post", "default"⟩ : DuplicateName) = ⟨repeated.name, "default"⟩ := by
  have accepted : SchemaTypes.ofSchema "default" librarySchema = .ok _ := rfl
  have refused :
      SchemaTypes.ofSchema "default" (librarySchema ++ librarySchema) =
        .error ⟨"post", "default"⟩ := by rfl
  have covered := (ofSchema_complete "default" librarySchema).2.2 _ accepted
  exact ⟨⟨_, accepted, covered, by decide +kernel, by decide +kernel⟩,
    (ofSchema_complete "default" (librarySchema ++ librarySchema)).2.1 _ refused⟩

end QueryTypes.Typing
