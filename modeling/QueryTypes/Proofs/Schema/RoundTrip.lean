import QueryTypes.Proofs.Json.RoundTrip
import QueryTypes.Proofs.Tables
import QueryTypes.Schema.Reader
import QueryTypes.Schema.Writer

/-!
Reading a schema undoes writing it.

A tag is written in front of the fields of what it tells apart, and no field has the tag's name;
attributes have an object of their own, so their names are never taken for fields. Each container of
the text takes at most two steps of reading.
-/

set_option autoImplicit false

namespace QueryTypes.Schema

/-! ### Attributes -/

section Attributes

variable {Value : Type}

private theorem putAttribute_new {name : String} {value : Value} {entries : List (String × Value)}
    (new : name ∉ entries.map (·.1)) :
    putAttribute name value entries = entries ++ [(name, value)] := by
  unfold putAttribute
  rw [if_neg]
  intro known
  obtain ⟨entry, present, same⟩ := List.any_eq_true.mp known
  exact new (List.mem_map.mpr ⟨entry, present, beq_iff_eq.mp same⟩)

/-- Attributes whose names are distinct stay as they are. -/
theorem distinctAttributes_of_nodup {entries : List (String × Value)}
    (distinct : (entries.map (·.1)).Nodup) : distinctAttributes entries = entries := by
  have gathered (kept : List (String × Value)) (left : List (String × Value))
      (distinct : ((kept ++ left).map (·.1)).Nodup) :
      left.foldl (fun kept entry => putAttribute entry.1 entry.2 kept) kept = kept ++ left := by
    induction left generalizing kept with
    | nil => exact (List.append_nil kept).symm
    | cons entry later ih =>
        have new : entry.1 ∉ kept.map (·.1) := by
          rw [List.map_append, List.map_cons] at distinct
          exact fun known =>
            (List.nodup_append.mp distinct).2.2 _ known _ List.mem_cons_self rfl
        rw [List.foldl_cons, putAttribute_new new, ih]
        · rw [List.append_assoc, List.singleton_append]
        · rwa [List.append_assoc, List.singleton_append]
  exact gathered [] entries distinct

end Attributes

mutual

def ValueType.numbers : ValueType → List Number
  | .number (some value) => [value]
  | .array element => element.numbers
  | .object shape => shape.numbers
  | .union members => numbersOfAll members
  | _ => []

def numbersOfAll : List ValueType → List Number
  | [] => []
  | first :: rest => first.numbers ++ numbersOfAll rest

def ObjectType.numbers : ObjectType → List Number
  | ⟨attributes, rest, _⟩ => numbersOfAttributes attributes ++ numbersOfRest rest

def numbersOfAttributes : List (String × Attribute) → List Number
  | [] => []
  | (_, ⟨value, _⟩) :: rest => value.numbers ++ numbersOfAttributes rest

def numbersOfRest : Option ObjectRest → List Number
  | some (.object shape) => shape.numbers
  | _ => []

end

mutual

def ValueType.DistinctNames : ValueType → Prop
  | .array element => element.DistinctNames
  | .object shape => shape.DistinctNames
  | .union members => DistinctNamesOfAll members
  | _ => True

def DistinctNamesOfAll : List ValueType → Prop
  | [] => True
  | first :: rest => first.DistinctNames ∧ DistinctNamesOfAll rest

def ObjectType.DistinctNames : ObjectType → Prop
  | ⟨attributes, rest, _⟩ =>
      (attributes.map (·.1)).Nodup ∧ DistinctNamesOfAttributes attributes ∧
        DistinctNamesOfRest rest

def DistinctNamesOfAttributes : List (String × Attribute) → Prop
  | [] => True
  | (_, ⟨value, _⟩) :: rest => value.DistinctNames ∧ DistinctNamesOfAttributes rest

def DistinctNamesOfRest : Option ObjectRest → Prop
  | some (.object shape) => shape.DistinctNames
  | _ => True

end

/-! ### Types -/

section Types

variable {number : Number → Json}

def ReadsBack (number : Number → Json) (value : Number) : Prop :=
  Json.toNumber? (number value) = some value

private theorem readType?_number (kept : Bool) (bound : Nat) {value : Number}
    (back : ReadsBack number value) :
    readType? kept (bound + 1) ((ValueType.number (some value)).toJson number) =
      some (.number (some value)) := by
  change ((Json.optional? Json.toNumber? (some (number value))).bind fun read =>
    some (ValueType.number read)) = _
  unfold ReadsBack at back
  cases written : number value with
  | number numeral =>
      rw [written] at back
      change (((Json.number numeral).toNumber?.map some).bind fun read =>
        some (ValueType.number read)) = _
      rw [back]
      rfl
  | _ =>
      rw [written] at back
      cases back

private theorem readType?_object (kept : Bool) (bound : Nat) (shape : ObjectType) :
    readType? kept (bound + 1) ((ValueType.object shape).toJson number) =
      (readObject? bound (.record (shape.fields number))).bind fun read => some (.object read) := by
  obtain ⟨attributes, rest, target⟩ := shape
  cases rest <;> cases target <;> rfl

private theorem readRest?_object (bound : Nat) (shape : ObjectType) :
    readRest? (bound + 1) ((ObjectRest.object shape).toJson number) =
      (readObject? bound (.record (shape.fields number))).bind fun read => some (.object read) := by
  obtain ⟨attributes, rest, target⟩ := shape
  cases rest <;> cases target <;> rfl

private theorem readObject?_fields {bound : Nat} {attributes : List (String × Attribute)}
    {rest : Option ObjectRest} (target : Option String)
    (given : readMembers? (readAttribute? bound) (.record (attributesJson number attributes)) =
      some attributes)
    (beyond : ∀ more ∈ rest, readRest? bound (more.toJson number) = some more) :
    readObject? (bound + 1) (.record (ObjectType.fields number ⟨attributes, rest, target⟩)) =
      some ⟨attributes, rest, target⟩ := by
  have restRead : Json.optional? (readRest? bound) (rest.map (ObjectRest.toJson number)) =
      some rest := by
    cases rest with
    | none => rfl
    | some more =>
        have read := beyond more rfl
        cases more <;>
          · change ((readRest? bound (ObjectRest.toJson number _)).map some) = _
            rw [read]
            rfl
  have fields : Json.fields? ["attributes", "rest", "dereferencesTo"]
      (.record (ObjectType.fields number ⟨attributes, rest, target⟩)) =
        some [some (.record (attributesJson number attributes)),
          rest.map (ObjectRest.toJson number), target.map Json.text] := by
    cases rest <;> cases target <;> rfl
  have targetRead : Json.optional? Json.toText? (target.map Json.text) = some target := by
    cases target <;> rfl
  rw [readObject?, fields]
  change ((readMembers? (readAttribute? bound) (.record (attributesJson number attributes))).bind
    fun attributes => (Json.optional? (readRest? bound) (rest.map (ObjectRest.toJson number))).bind
      fun rest => (Json.optional? Json.toText? (target.map Json.text)).bind
        fun target => some (⟨attributes, rest, target⟩ : ObjectType)) = _
  rw [given, restRead, targetRead]
  rfl

private theorem readAttribute?_record {bound : Nat} {value : ValueType} (optional : Bool)
    (given : readType? true bound (value.toJson number) = some value) :
    readAttribute? (bound + 1)
      (.record (("value", value.toJson number) :: optionalField optional)) =
        some ⟨value, optional⟩ := by
  cases optional with
  | false => 
      change ((readType? true bound (value.toJson number)).bind fun value =>
        some (⟨value, false⟩ : Attribute)) = _
      rw [given]
      rfl
  | true =>
      change ((readType? true bound (value.toJson number)).bind fun value =>
        some (⟨value, true⟩ : Attribute)) = _
      rw [given]
      rfl

private theorem membersDepth_append (first second : List (String × Json)) :
    Json.membersDepth (first ++ second) =
      max (Json.membersDepth first) (Json.membersDepth second) := by
  induction first with
  | nil => exact (Nat.zero_max _).symm
  | cons member others ih =>
      rw [List.cons_append, Json.membersDepth, Json.membersDepth, ih, Nat.max_assoc]

mutual

/-- A type is read back from its JSON form. -/
theorem readType?_toJson (value : ValueType) (kept : Bool) (bound : Nat)
    (enough : 2 * (value.toJson number).depth ≤ bound) (distinct : value.DistinctNames)
    (back : ∀ literal ∈ value.numbers, ReadsBack number literal) :
    readType? kept bound (value.toJson number) = some value := by
  have deep : 0 < (value.toJson number).depth := by
    cases value <;> exact Nat.zero_lt_succ _
  obtain ⟨bound, rfl⟩ := Nat.exists_eq_add_of_le' (show 1 ≤ bound by omega)
  match value with
  | .string none => rfl
  | .string (some text) => rfl
  | .number none => rfl
  | .number (some literal) => exact readType?_number kept bound (back literal List.mem_cons_self)
  | .boolean none => rfl
  | .boolean (some truth) => rfl
  | .null => rfl
  | .unknown => rfl
  | .inline name => rfl
  | .array element =>
      rw [ValueType.toJson, Json.depth, Json.membersDepth, Json.membersDepth] at enough
      have read := readType?_toJson element true bound (by omega) distinct back
      change ((readType? true bound (element.toJson number)).bind fun read =>
        some (ValueType.array read)) = _
      rw [read]
      rfl
  | .object shape =>
      rw [ValueType.toJson, Json.depth, Json.membersDepth] at enough
      have read := readObject?_toJson shape bound (by omega) distinct back
      rw [readType?_object, read]
      rfl
  | .union members =>
      rw [ValueType.toJson, Json.depth, Json.membersDepth, Json.membersDepth,
        Json.depth] at enough
      have read := mapM_typesJson members bound (by omega) distinct back
      change (((typesJson number members).mapM (readType? true bound)).bind fun read =>
        some (ValueType.union read)) = _
      rw [read]
      rfl

private theorem mapM_typesJson (types : List ValueType) (bound : Nat)
    (enough : 2 * Json.itemsDepth (typesJson number types) ≤ bound)
    (distinct : DistinctNamesOfAll types)
    (back : ∀ literal ∈ numbersOfAll types, ReadsBack number literal) :
    (typesJson number types).mapM (readType? true bound) = some types := by
  match types with
  | [] => rfl
  | first :: others =>
      rw [typesJson, Json.itemsDepth] at enough
      obtain ⟨backFirst, backOthers⟩ := List.forall_mem_append.mp back
      have read := readType?_toJson first true bound (by omega) distinct.1
        backFirst
      have further := mapM_typesJson others bound (by omega) distinct.2 backOthers
      rw [typesJson, List.mapM_cons, read, further]
      rfl

private theorem readObject?_toJson (shape : ObjectType) (bound : Nat)
    (enough : 2 * Json.membersDepth (shape.fields number) + 1 ≤ bound)
    (distinct : shape.DistinctNames)
    (back : ∀ literal ∈ shape.numbers, ReadsBack number literal) :
    readObject? bound (.record (shape.fields number)) = some shape := by
  obtain ⟨bound, rfl⟩ := Nat.exists_eq_add_of_le' (show 1 ≤ bound by omega)
  match shape with
  | ⟨attributes, rest, target⟩ =>
      rw [ObjectType.fields, Json.membersDepth, Json.depth, membersDepth_append] at enough
      obtain ⟨backAttributes, backRest⟩ := List.forall_mem_append.mp back
      have given := mapM_attributesJson attributes bound (by omega) distinct.2.1
        backAttributes
      have beyond := readRest?_restField rest bound (by omega) distinct.2.2 backRest
      refine readObject?_fields target ?_ beyond
      rw [readMembers?, given, Option.map_some, distinctAttributes_of_nodup distinct.1]

private theorem mapM_attributesJson (attributes : List (String × Attribute)) (bound : Nat)
    (enough : 2 * Json.membersDepth (attributesJson number attributes) ≤ bound)
    (distinct : DistinctNamesOfAttributes attributes)
    (back : ∀ literal ∈ numbersOfAttributes attributes, ReadsBack number literal) :
    ((attributesJson number attributes).mapM fun member =>
      (readAttribute? bound member.2).map fun value => (member.1, value)) = some attributes := by
  match attributes with
  | [] => rfl
  | (name, ⟨value, optional⟩) :: others =>
      rw [attributesJson, Json.membersDepth, Json.depth, Json.membersDepth] at enough
      obtain ⟨less, rfl⟩ := Nat.exists_eq_add_of_le' (show 1 ≤ bound by omega)
      obtain ⟨backValue, backOthers⟩ := List.forall_mem_append.mp back
      have read := readType?_toJson value true less (by omega) distinct.1
        backValue
      have further := mapM_attributesJson others (less + 1) (by omega) distinct.2
        backOthers
      rw [attributesJson, List.mapM_cons, readAttribute?_record optional read, further]
      rfl

private theorem readRest?_restField (rest : Option ObjectRest) (bound : Nat)
    (enough : 2 * Json.membersDepth (restField number rest) ≤ bound)
    (distinct : DistinctNamesOfRest rest)
    (back : ∀ literal ∈ numbersOfRest rest, ReadsBack number literal) :
    ∀ more ∈ rest, readRest? bound (more.toJson number) = some more := by
  match rest with
  | none => nofun
  | some .unknown =>
      rintro _ ⟨⟩
      rw [restField, Json.membersDepth, ObjectRest.toJson, Json.depth] at enough
      obtain ⟨bound, rfl⟩ := Nat.exists_eq_add_of_le' (show 1 ≤ bound by omega)
      rfl
  | some (.inline name) =>
      rintro _ ⟨⟩
      rw [restField, Json.membersDepth, ObjectRest.toJson, Json.depth] at enough
      obtain ⟨bound, rfl⟩ := Nat.exists_eq_add_of_le' (show 1 ≤ bound by omega)
      rfl
  | some (.object shape) =>
      rintro _ ⟨⟩
      rw [restField, ObjectRest.toJson, Json.membersDepth, Json.depth, Json.membersDepth,
        Json.membersDepth] at enough
      obtain ⟨bound, rfl⟩ := Nat.exists_eq_add_of_le' (show 1 ≤ bound by omega)
      have read := readObject?_toJson shape bound (by omega) distinct back
      rw [readRest?_object, read]
      rfl

end

theorem ReadsBack.inRange {value : Number} (back : ReadsBack number value) :
    (number value).InRange := by
  unfold ReadsBack at back
  cases written : number value with
  | number numeral =>
      rw [written] at back
      exact Option.isSome_iff_exists.mpr ⟨value, back⟩
  | _ =>
      rw [written] at back
      cases back

private theorem membersInRange_append {first second : List (String × Json)}
    (inFirst : Json.MembersInRange first) (inSecond : Json.MembersInRange second) :
    Json.MembersInRange (first ++ second) := by
  induction first with
  | nil => exact inSecond
  | cons member others ih => exact ⟨inFirst.1, ih inFirst.2⟩

mutual

/-- All numerals in the JSON form of a type are those of its literals. -/
theorem ValueType.toJson_inRange (value : ValueType)
    (back : ∀ literal ∈ value.numbers, ReadsBack number literal) :
    (value.toJson number).InRange := by
  match value with
  | .string none => exact ⟨trivial, trivial⟩
  | .string (some text) => exact ⟨trivial, trivial, trivial⟩
  | .number none => exact ⟨trivial, trivial⟩
  | .number (some literal) => exact ⟨trivial, (back literal List.mem_cons_self).inRange, trivial⟩
  | .boolean none => exact ⟨trivial, trivial⟩
  | .boolean (some truth) => exact ⟨trivial, trivial, trivial⟩
  | .null => exact ⟨trivial, trivial⟩
  | .unknown => exact ⟨trivial, trivial⟩
  | .inline name => exact ⟨trivial, trivial, trivial⟩
  | .array element => exact ⟨trivial, element.toJson_inRange back, trivial⟩
  | .object shape => exact ⟨trivial, shape.fields_inRange back⟩
  | .union members => exact ⟨trivial, typesJson_inRange members back, trivial⟩

private theorem typesJson_inRange (types : List ValueType)
    (back : ∀ literal ∈ numbersOfAll types, ReadsBack number literal) :
    Json.ItemsInRange (typesJson number types) := by
  match types with
  | [] => trivial
  | first :: others =>
      obtain ⟨backFirst, backOthers⟩ := List.forall_mem_append.mp back
      exact ⟨first.toJson_inRange backFirst, typesJson_inRange others backOthers⟩

private theorem ObjectType.fields_inRange (shape : ObjectType)
    (back : ∀ literal ∈ shape.numbers, ReadsBack number literal) :
    Json.MembersInRange (shape.fields number) := by
  match shape with
  | ⟨attributes, rest, target⟩ =>
      obtain ⟨backAttributes, backRest⟩ := List.forall_mem_append.mp back
      refine ⟨attributesJson_inRange attributes backAttributes,
        membersInRange_append (restField_inRange rest backRest) ?_⟩
      cases target with
      | none => trivial
      | some target => exact ⟨trivial, trivial⟩

private theorem attributesJson_inRange (attributes : List (String × Attribute))
    (back : ∀ literal ∈ numbersOfAttributes attributes, ReadsBack number literal) :
    Json.MembersInRange (attributesJson number attributes) := by
  match attributes with
  | [] => trivial
  | (name, ⟨value, optional⟩) :: others =>
      obtain ⟨backValue, backOthers⟩ := List.forall_mem_append.mp back
      refine ⟨⟨value.toJson_inRange backValue, ?_⟩, attributesJson_inRange others backOthers⟩
      cases optional with
      | false => trivial
      | true => exact ⟨trivial, trivial⟩

private theorem restField_inRange (rest : Option ObjectRest)
    (back : ∀ literal ∈ numbersOfRest rest, ReadsBack number literal) :
    Json.MembersInRange (restField number rest) := by
  match rest with
  | none => trivial
  | some .unknown => exact ⟨⟨trivial, trivial⟩, trivial⟩
  | some (.inline name) => exact ⟨⟨trivial, trivial, trivial⟩, trivial⟩
  | some (.object shape) => exact ⟨⟨trivial, shape.fields_inRange back⟩, trivial⟩

end

end Types

/-! ### Schemas -/

namespace Declaration

def numbers : Declaration → List Number
  | .type _ value => value.numbers
  | .document _ attributes => numbersOfAttributes attributes

def DistinctNames : Declaration → Prop
  | .type _ value => value.DistinctNames
  | .document _ attributes =>
      (attributes.map (·.1)).Nodup ∧ DistinctNamesOfAttributes attributes

variable {number : Number → Json}

/-- A declaration is read back from its JSON form. -/
theorem readDeclaration?_toJson (declaration : Declaration) (distinct : declaration.DistinctNames)
    (back : ∀ literal ∈ declaration.numbers, ReadsBack number literal) :
    readDeclaration? (declaration.toJson number) = some declaration := by
  cases declaration with
  | type name value =>
      have enough : 2 * (value.toJson number).depth ≤
          boundFor ((Declaration.type name value).toJson number) := by
        rw [boundFor, Declaration.toJson]
        simp only [Json.depth, Json.membersDepth]
        omega
      have read := readType?_toJson value true
        (boundFor ((Declaration.type name value).toJson number)) enough distinct back
      change ((readType? true (boundFor ((Declaration.type name value).toJson number))
        (value.toJson number)).bind fun read => some (Declaration.type name read)) = _
      rw [read]
      rfl
  | document name attributes =>
      have enough : 2 * Json.membersDepth (attributesJson number attributes) ≤
          boundFor ((Declaration.document name attributes).toJson number) := by
        rw [boundFor, Declaration.toJson]
        simp only [Json.depth, Json.membersDepth]
        omega
      have read := mapM_attributesJson attributes
        (boundFor ((Declaration.document name attributes).toJson number)) enough
        distinct.2 back
      change ((readMembers?
        (readAttribute? (boundFor ((Declaration.document name attributes).toJson number)))
        (.record (attributesJson number attributes))).bind
          fun read => some (Declaration.document name read)) = _
      rw [readMembers?, read, Option.map_some, distinctAttributes_of_nodup distinct.1]
      rfl

private theorem toJson_inRange (declaration : Declaration)
    (back : ∀ literal ∈ declaration.numbers, ReadsBack number literal) :
    (declaration.toJson number).InRange := by
  cases declaration with
  | type name value => exact ⟨trivial, trivial, value.toJson_inRange back, trivial⟩
  | document name attributes =>
      exact ⟨trivial, trivial, attributesJson_inRange attributes back, trivial⟩

end Declaration

section Schemas

variable {number : Number → Json}

private theorem itemsInRange_map {Item : Type} {write : Item → Json} {items : List Item}
    (each : ∀ item ∈ items, (write item).InRange) : Json.ItemsInRange (items.map write) := by
  induction items with
  | nil => trivial
  | cons first others ih =>
      obtain ⟨inFirst, inOthers⟩ := List.forall_mem_cons.mp each
      exact ⟨inFirst, ih inOthers⟩

private theorem mapM_map {Item : Type} {write : Item → Json} {read : Json → Option Item}
    {items : List Item} (each : ∀ item ∈ items, read (write item) = some item) :
    (items.map write).mapM read = some items := by
  induction items with
  | nil => rfl
  | cons first others ih =>
      obtain ⟨readFirst, readOthers⟩ := List.forall_mem_cons.mp each
      rw [List.map_cons, List.mapM_cons, readFirst, ih readOthers]
      rfl

/-- The declarations of a schema are what is read from its text, if every number that occurs in
it is read back from its own text and the text is not nested too deeply. -/
theorem render_toJson_reads_back {schema : List Declaration}
    (distinct : ∀ declaration ∈ schema, declaration.DistinctNames)
    (finite : ∀ declaration ∈ schema, ∀ literal ∈ declaration.numbers, literal.isFinite = true)
    (back : ∀ declaration ∈ schema, ∀ literal ∈ declaration.numbers,
      literal.isFinite = true → ReadsBack number literal)
    (shallow : (toJson number schema).depth ≤ Json.nestingLimit) :
    parse? (toJson number schema).render = some schema := by
  have reads (declaration : Declaration) (present : declaration ∈ schema) (literal : Number)
      (inside : literal ∈ declaration.numbers) : ReadsBack number literal :=
    back declaration present literal inside (finite declaration present literal inside)
  have inRange : (toJson number schema).InRange :=
    itemsInRange_map fun declaration present =>
      declaration.toJson_inRange (reads declaration present)
  have read : ofJson? (toJson number schema) = some schema :=
    mapM_map fun declaration present =>
      declaration.readDeclaration?_toJson (distinct declaration present)
        (reads declaration present)
  unfold parse?
  rw [Json.parse?_render shallow inRange, Option.bind_some, read]

end Schemas

/-- Attributes called like the fields of the format, a literal with a fraction, a negative zero,
an object within a rest, and a name with a quote and control characters. -/
def formatSchema : List Declaration :=
  [.document "post \"\n\x01\u00e9" [("type", ⟨.number (some (.ofRatio false 3 2)), true⟩),
      ("value", ⟨.union [.null, .inline "attributes", .string (some "\\u0041")], false⟩)],
    .type "reference"
      (.array (.object ⟨[("of", ⟨.number (some (.ofRatio true 0 1)), false⟩)],
        some (.object ⟨[("", ⟨.boolean (some false), false⟩)], some .unknown, none⟩),
        some "post"⟩))]

def formatNumber (value : Number) : Json :=
  if value = .ofRatio false 3 2 then .number ⟨false, 1, [⟨5, by decide⟩], none⟩
  else .number ⟨true, 0, [⟨0, by decide⟩], none⟩

theorem formatSchema_read_back :
    parse? (toJson formatNumber formatSchema).render = some formatSchema := by
  refine render_toJson_reads_back ?_ ?_ ?_ ?_
  · refine List.forall_mem_cons.mpr ⟨?_, List.forall_mem_singleton.mpr ?_⟩
    · exact ⟨by decide, trivial, ⟨trivial, trivial, trivial, trivial⟩, trivial⟩
    · exact ⟨by decide, ⟨trivial, trivial⟩, by decide, ⟨trivial, trivial⟩, trivial⟩
  · decide +kernel
  · unfold ReadsBack
    decide +kernel
  · decide +kernel

end QueryTypes.Schema
