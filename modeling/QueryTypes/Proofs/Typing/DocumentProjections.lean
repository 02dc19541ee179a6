import Mathlib.Algebra.Ring.Nat
import QueryTypes.Proofs.Json.RoundTrip
import QueryTypes.Typing.SchemaTypes

/-!
The type of a projection, document by document.

The language is asked for one document after the other, in the order of the schema, and for nothing
else. The first document that it fails for ends the matter. Without one, the documents that
something is selected from give the type: none, the type of the only one, or the union of all.
-/

set_option autoImplicit false

namespace QueryTypes.Query.Asked

variable {Ast Result Next : Type}

private theorem bind_of_ok (value : Result) (calls : List (Call Ast))
    (next : Result → Asked Ast Next) :
    (⟨.ok value, calls⟩ >>= next : Asked Ast Next) =
      ⟨(next value).result, calls ++ (next value).calls⟩ := rfl

private theorem bind_of_error (error : QueryError) (calls : List (Call Ast))
    (next : Result → Asked Ast Next) :
    (⟨.error error, calls⟩ >>= next : Asked Ast Next) = ⟨.error error, calls⟩ := rfl

private theorem pure_eq (value : Result) : (pure value : Asked Ast Result) = ⟨.ok value, []⟩ := rfl

end QueryTypes.Query.Asked

namespace QueryTypes.Typing

open QueryTypes.Schema
open QueryTypes.Declared
open QueryTypes.Query

/-! ### Documents that count -/

inductive Omitted : ObjectType → Prop where
  | unknownRest {attributes : List (String × Attribute)} {target : Option String} :
      Omitted ⟨attributes, some .unknown, target⟩
  | omittedRest {attributes : List (String × Attribute)} {shape : ObjectType}
      {target : Option String} (rest : Omitted shape) :
      Omitted ⟨attributes, some (.object shape), target⟩
  | nulls {attributes : List (String × Attribute)} {rest : Option ObjectRest}
      {target : Option String} (null : ∀ entry ∈ attributes, entry.2.value = .null) :
      Omitted ⟨attributes, rest, target⟩

private theorem isNull_iff (node : ValueType) : node.isNull = true ↔ node = .null := by
  cases node <;> simp [ValueType.isNull]

private theorem all_isNull_iff (attributes : List (String × Attribute)) :
    (attributes.all fun entry => entry.2.value.isNull) = true ↔
      ∀ entry ∈ attributes, entry.2.value = .null := by
  simp only [List.all_eq_true, isNull_iff]

private theorem selectsNothing_iff :
    (shape : ObjectType) → (selectsNothing shape = true ↔ Omitted shape)
  | ⟨attributes, none, target⟩ => by
      simp only [selectsNothing, Bool.false_or, all_isNull_iff]
      constructor
      · exact .nulls
      · rintro ⟨⟩
        assumption
  | ⟨attributes, some .unknown, target⟩ => by
      simp only [selectsNothing, Bool.true_or, true_iff]
      exact .unknownRest
  | ⟨attributes, some (.inline name), target⟩ => by
      simp only [selectsNothing, Bool.false_or, all_isNull_iff]
      constructor
      · exact .nulls
      · rintro ⟨⟩
        assumption
  | ⟨attributes, some (.object shape), target⟩ => by
      rw [selectsNothing, Bool.or_eq_true, all_isNull_iff, selectsNothing_iff shape]
      constructor
      · rintro (rest | null)
        · exact .omittedRest rest
        · exact .nulls null
      · intro omitted
        cases omitted with
        | omittedRest rest => exact .inl rest
        | nulls null => exact .inr null

/-- A result counts with an object: of its two members the first one that is not null is the
object, and something is selected from it. -/
def CountsWith (node : ValueType) (shape : ObjectType) : Prop :=
  ∃ first second, node = .union [first, second] ∧
    [first, second].find? (fun member => !member.isNull) = some (.object shape) ∧ ¬ Omitted shape

def countedObject? (node : ValueType) : Option ObjectType :=
  (projectedObject? node).filter fun shape => !selectsNothing shape

private theorem projectedObject?_pair (first second : ValueType) (shape : ObjectType) :
    projectedObject? (.union [first, second]) = some shape ↔
      [first, second].find? (fun member => !member.isNull) = some (.object shape) := by
  rw [projectedObject?, List.find?_cons, List.find?_singleton]
  cases first <;> cases second <;> simp [ValueType.isNull]

private theorem countedObject?_eq_some_iff (node : ValueType) (shape : ObjectType) :
    countedObject? node = some shape ↔ CountsWith node shape := by
  have selects : (!selectsNothing shape) = true ↔ ¬ Omitted shape := by
    rw [← selectsNothing_iff, Bool.not_eq_true', Bool.not_eq_true]
  unfold countedObject? CountsWith
  rw [Option.filter_eq_some_iff, selects]
  constructor
  · rintro ⟨found, some⟩
    unfold projectedObject? at found
    split at found
    · rename_i first second
      exact ⟨first, second, rfl, (projectedObject?_pair first second shape).mp found, some⟩
    · cases found
  · rintro ⟨first, second, rfl, found, some⟩
    exact ⟨(projectedObject?_pair first second shape).mpr found, some⟩

private theorem countedObject?_eq_none_iff (node : ValueType) :
    countedObject? node = none ↔ ∀ shape, ¬ CountsWith node shape := by
  rw [Option.eq_none_iff_forall_ne_some]
  exact forall_congr' fun shape => not_congr (countedObject?_eq_some_iff node shape)

/-! ### The query of a document -/

def IsPlain (char : Char) : Prop := char ≠ '"' ∧ char ≠ '\\' ∧ 32 ≤ char.toNat

private theorem escapeChar_of_isPlain {char : Char} (plain : IsPlain char) :
    Json.escapeChar char = [char] := by
  obtain ⟨notQuote, notBackslash, visible⟩ := plain
  have apart (control : Char) (below : control.toNat < 32) : char ≠ control := by
    rintro rfl
    omega
  unfold Json.escapeChar
  split
  · exact absurd rfl notQuote
  · exact absurd rfl notBackslash
  · exact absurd rfl (apart _ (by decide))
  · exact absurd rfl (apart _ (by decide))
  · exact absurd rfl (apart _ (by decide))
  · exact absurd rfl (apart _ (by decide))
  · exact absurd rfl (apart _ (by decide))
  · exact if_neg (Nat.not_lt.mpr visible)

/-- The query takes the documents of a name, applies the projection to each and keeps the first
result. The name stands in it as JSON, which is the name between quotes unless that has to be
escaped. -/
theorem projectionQuery_text (document projection : String) :
    ∃ name, Json.parse? name = some (.text document) ∧
      ((∀ char ∈ document.toList, IsPlain char) → name = "\"" ++ document ++ "\"") ∧
        projectionQuery document projection =
          "* [_type==" ++ name ++ "] " ++ projection ++ " [0]" := by
  have read : Json.parse? (Json.text document).render = some (.text document) :=
    Json.parse?_render (Nat.zero_le _) trivial
  refine ⟨_, read, fun plain => ?_, rfl⟩
  have unescaped : document.toList.flatMap Json.escapeChar = document.toList := by
    rw [List.flatMap_congr fun char present => escapeChar_of_isPlain (plain char present)]
    exact List.flatMap_singleton' _
  apply String.toList_inj.mp
  simp [Json.render, Json.chars, Json.quotedChars, unescaped]

example : projectionQuery "post" "\x7b_id, title\x7d" =
    "* [_type==\"post\"] \x7b_id, title\x7d [0]" := by decide

def wrappedType (naming : Naming) (counted : String × ObjectType) : TypeExpr :=
  .reference projectionBaseName [describeObject naming counted.2, .stringLiteral counted.1]

namespace SchemaTypes

variable {Ast : Type} (types : SchemaTypes) (language : Query.Language Ast) (projection : String)

/-! ### One document -/

def documentType (document : String) : Except QueryError ValueType :=
  let query := projectionQuery document projection
  match language.parse query (Language.sliceValues query) with
  | .ok parsed => language.evaluate parsed types.declarations
  | .error error => .error error

/-- What the language is asked for a document. A query that cannot be parsed is not evaluated. -/
def documentCalls (document : String) : List (Call Ast) :=
  let query := projectionQuery document projection
  .parse query (Language.sliceValues query) ::
    match language.parse query (Language.sliceValues query) with
    | .ok parsed => [.evaluate parsed types.declarations.length]
    | .error _ => []

private theorem askProjection_of_ok {document : String} {node : ValueType}
    (succeeds : types.documentType language projection document = .ok node) :
    types.askProjection language projection document =
      ⟨.ok ((countedObject? node).map fun shape =>
          ⟨wrappedType types.naming (document, shape), .ofObject shape⟩),
        types.documentCalls language projection document⟩ := by
  unfold documentType at succeeds
  unfold askProjection documentCalls Language.parsed Language.typed
  dsimp only at succeeds ⊢
  cases parses : language.parse (projectionQuery document projection)
      (Language.sliceValues (projectionQuery document projection)) with
  | error error =>
      rw [parses] at succeeds
      cases succeeds
  | ok parsed =>
      rw [parses] at succeeds
      dsimp only at succeeds
      rw [Asked.bind_of_ok, succeeds, Asked.bind_of_ok, Asked.pure_eq]
      unfold countedObject?
      cases projectedObject? node with
      | none => rfl
      | some shape =>
          cases nothing : selectsNothing shape <;>
            simp [nothing, wrappedType, Option.filter_some]

private theorem askProjection_of_error {document : String} {error : QueryError}
    (fails : types.documentType language projection document = .error error) :
    types.askProjection language projection document =
      ⟨.error error, types.documentCalls language projection document⟩ := by
  unfold documentType at fails
  unfold askProjection documentCalls Language.parsed Language.typed
  dsimp only at fails ⊢
  cases parses : language.parse (projectionQuery document projection)
      (Language.sliceValues (projectionQuery document projection)) with
  | error cause =>
      rw [parses] at fails
      cases fails
      rw [Asked.bind_of_error]
  | ok parsed =>
      rw [parses] at fails
      dsimp only at fails
      rw [Asked.bind_of_ok, fails, Asked.bind_of_error]
      rfl

/-! ### All documents -/

inductive Counted : List String → List (String × ObjectType) → Prop where
  | nil : Counted [] []
  | counts {document : String} {rest : List String} {node : ValueType} {shape : ObjectType}
      {found : List (String × ObjectType)}
      (answers : types.documentType language projection document = .ok node)
      (counts : CountsWith node shape) (others : Counted rest found) :
      Counted (document :: rest) ((document, shape) :: found)
  | skipped {document : String} {rest : List String} {node : ValueType}
      {found : List (String × ObjectType)}
      (answers : types.documentType language projection document = .ok node)
      (idle : ∀ shape, ¬ CountsWith node shape) (others : Counted rest found) :
      Counted (document :: rest) found

variable {types language projection} {documents : List String}

private theorem exists_counted
    (answered : ∀ document ∈ documents, ∃ node,
      types.documentType language projection document = .ok node) :
    ∃ found, types.Counted language projection documents found := by
  induction documents with
  | nil => exact ⟨[], .nil⟩
  | cons document rest ih =>
      obtain ⟨⟨node, answers⟩, others⟩ := List.forall_mem_cons.mp answered
      obtain ⟨found, counted⟩ := ih others
      cases object : countedObject? node with
      | none =>
          have skipped := (countedObject?_eq_none_iff node).mp object
          exact ⟨found, .skipped answers skipped counted⟩
      | some shape =>
          exact ⟨(document, shape) :: found,
            .counts answers ((countedObject?_eq_some_iff node shape).mp object) counted⟩

theorem Counted.askProjections {found : List (String × ObjectType)}
    (counted : types.Counted language projection documents found) :
    types.askProjections language projection documents =
      ⟨.ok (found.map fun single => ⟨wrappedType types.naming single, .ofObject single.2⟩),
        documents.flatMap (types.documentCalls language projection)⟩ := by
  induction counted with
  | nil => rfl
  | @counts document rest node shape found answers counts others ih =>
      rw [SchemaTypes.askProjections, askProjection_of_ok types language projection answers,
        (countedObject?_eq_some_iff node shape).mpr counts, Asked.bind_of_ok, ih, Asked.bind_of_ok,
        Asked.pure_eq]
      simp
  | @skipped document rest node found answers idle others ih =>
      rw [SchemaTypes.askProjections, askProjection_of_ok types language projection answers,
        (countedObject?_eq_none_iff node).mpr idle, Asked.bind_of_ok, ih, Asked.bind_of_ok,
        Asked.pure_eq]
      simp

private theorem askProjections_of_error {before after : List String} {document : String}
    {error : QueryError}
    (answered : ∀ earlier ∈ before, ∃ node,
      types.documentType language projection earlier = .ok node)
    (fails : types.documentType language projection document = .error error) :
    types.askProjections language projection (before ++ document :: after) =
      ⟨.error error,
        (before ++ [document]).flatMap (types.documentCalls language projection)⟩ := by
  induction before with
  | nil =>
      rw [List.nil_append, SchemaTypes.askProjections,
        askProjection_of_error types language projection fails, Asked.bind_of_error]
      simp
  | cons earlier rest ih =>
      obtain ⟨⟨node, answers⟩, others⟩ := List.forall_mem_cons.mp answered
      rw [List.cons_append, SchemaTypes.askProjections,
        askProjection_of_ok types language projection answers, Asked.bind_of_ok, ih others,
        Asked.bind_of_error]
      simp

/-- Where the language fails for some document, it fails for a first one. -/
theorem exists_first_failure
    (fails : ∃ document ∈ documents, ∃ error,
      types.documentType language projection document = .error error) :
    ∃ before document after error, documents = before ++ document :: after ∧
      (∀ earlier ∈ before, ∃ node, types.documentType language projection earlier = .ok node) ∧
      types.documentType language projection document = .error error := by
  induction documents with
  | nil => simp at fails
  | cons first rest ih =>
      cases answers : types.documentType language projection first with
      | error error => exact ⟨[], first, rest, error, rfl, nofun, answers⟩
      | ok node =>
          have later : ∃ document ∈ rest, ∃ error,
              types.documentType language projection document = .error error := by
            obtain ⟨document, present, error, failed⟩ := fails
            rcases List.mem_cons.mp present with same | present
            · subst same
              rw [answers] at failed
              cases failed
            · exact ⟨document, present, error, failed⟩
          obtain ⟨before, document, after, error, place, answered, failed⟩ := ih later
          refine ⟨first :: before, document, after, error, ?_, ?_, failed⟩
          · rw [place, List.cons_append]
          · exact List.forall_mem_cons.mpr ⟨⟨node, answers⟩, answered⟩

end SchemaTypes

/-! ### The type of a projection -/

private theorem Statistics.foldl_eq (start : Statistics) (counts : List Statistics) :
    counts.foldl (· + ·) start =
      ⟨start.allTypes + (counts.map (·.allTypes)).sum,
        start.unknownTypes + (counts.map (·.unknownTypes)).sum,
        start.emptyUnions + (counts.map (·.emptyUnions)).sum⟩ := by
  induction counts generalizing start with
  | nil => rfl
  | cons first rest ih =>
      rw [List.foldl_cons, ih]
      change Statistics.mk (start.allTypes + first.allTypes + _)
        (start.unknownTypes + first.unknownTypes + _)
        (start.emptyUnions + first.emptyUnions + _) = _
      simp only [List.map_cons, List.sum_cons, Nat.add_assoc]

private theorem combined_of_two_le {found : List EvaluatedType} (several : 2 ≤ found.length) :
    combined found =
      some ⟨.union (found.map (·.type)),
        ⟨(found.map (·.statistics.allTypes)).sum + 1,
          (found.map (·.statistics.unknownTypes)).sum,
          (found.map (·.statistics.emptyUnions)).sum⟩⟩ := by
  unfold combined
  split
  · simp at several
  · simp at several
  · unfold Statistics.sum
    rw [Statistics.foldl_eq]
    change some (EvaluatedType.mk _ (Statistics.mk (1 + (0 + _)) (0 + (0 + _)) (0 + (0 + _)))) = _
    simp only [Nat.zero_add, Nat.add_comm 1, List.map_map]
    rfl

/-- A projection that is an object is asked for with all documents. -/
theorem SchemaTypes.evaluateProjection_eq {Ast : Type} (types : SchemaTypes)
    {language : Query.Language Ast} {projection : String} {parsed : Ast}
    (parses : language.parse projection (Language.sliceValues projection) = .ok parsed)
    (bare : language.isObject parsed = true) :
    types.evaluateProjection language projection =
      ⟨(types.askProjections language projection
          (documentNames types.declarations)).result.map combined,
        [.parse projection (Language.sliceValues projection), .isObject parsed] ++
          (types.askProjections language projection
            (documentNames types.declarations)).calls⟩ := by
  change (language.parsed projection >>= _) = _
  unfold Language.parsed Language.object
  rw [parses, Asked.bind_of_ok, Asked.bind_of_ok, bare, if_pos rfl]
  generalize types.askProjections language projection (documentNames types.declarations) = found
  obtain ⟨result, calls⟩ := found
  cases result with
  | error error => rfl
  | ok found => rw [Asked.bind_of_ok, Asked.pure_eq, List.append_nil]; rfl

/-- The type of a projection comes from the documents of the schema, one by one. If the language
fails for one of them, the first such error is returned and nothing is asked afterwards. Otherwise
the documents that count give nothing, the type of the only one, or the union of theirs, with
counts that add up and one more for the union. Only documents are asked for. -/
theorem evaluateProjection_sums_documents {Ast : Type} {types : SchemaTypes}
    {language : Query.Language Ast} {projection : String} {parsed : Ast}
    (parses : language.parse projection (Language.sliceValues projection) = .ok parsed)
    (bare : language.isObject parsed = true) :
    let documents := documentNames types.declarations
    let asked := types.evaluateProjection language projection
    let opening := [Call.parse projection (Language.sliceValues projection), .isObject parsed]
    ((∃ document ∈ documents, ∃ error,
        types.documentType language projection document = .error error) →
      ∃ before document after error, documents = before ++ document :: after ∧
        (∀ earlier ∈ before, ∃ node, types.documentType language projection earlier = .ok node) ∧
        types.documentType language projection document = .error error ∧
        asked.result = .error error ∧
        asked.calls = opening ++
          (before ++ [document]).flatMap (types.documentCalls language projection)) ∧
    ((∀ document ∈ documents, ∃ node,
        types.documentType language projection document = .ok node) →
      ∃ found, types.Counted language projection documents found ∧
        asked.calls = opening ++ documents.flatMap (types.documentCalls language projection) ∧
        (found = [] → asked.result = .ok none) ∧
        (∀ single, found = [single] →
          asked.result = .ok (some ⟨wrappedType types.naming single, .ofObject single.2⟩)) ∧
        (2 ≤ found.length →
          asked.result = .ok (some ⟨.union (found.map (wrappedType types.naming)),
            ⟨(found.map fun single => (Statistics.ofObject single.2).allTypes).sum + 1,
              (found.map fun single => (Statistics.ofObject single.2).unknownTypes).sum,
              (found.map fun single => (Statistics.ofObject single.2).emptyUnions).sum⟩⟩))) := by
  intro documents asked opening
  have opened : asked =
      ⟨(types.askProjections language projection documents).result.map combined,
        opening ++ (types.askProjections language projection documents).calls⟩ :=
    types.evaluateProjection_eq parses bare
  constructor
  · intro fails
    obtain ⟨before, document, after, error, place, answered, failed⟩ :=
      SchemaTypes.exists_first_failure fails
    refine ⟨before, document, after, error, place, answered, failed, ?_⟩
    rw [opened, place, SchemaTypes.askProjections_of_error answered failed]
    exact ⟨rfl, rfl⟩
  · intro answered
    obtain ⟨found, counted⟩ := SchemaTypes.exists_counted answered
    refine ⟨found, counted, ?_⟩
    rw [opened, counted.askProjections]
    refine ⟨rfl, ?_, ?_, ?_⟩
    · intro none
      rw [none]
      rfl
    · intro single only
      rw [only]
      rfl
    · intro several
      have both : 2 ≤ (found.map fun single =>
          EvaluatedType.mk (wrappedType types.naming single) (.ofObject single.2)).length := by
        rw [List.length_map]
        exact several
      dsimp only [Except.map]
      rw [combined_of_two_le both]
      simp only [List.map_map]
      rfl

/-- A language in which a query is its own text. Of a page and a post it selects a title, the other
way round for a post, of a tag only null, and what it gives for a note is neither. -/
def titleLanguage : Query.Language String where
  parse := fun query _ => .ok query
  evaluate := fun query _ =>
    let titled (value : ValueType) : ValueType := .object ⟨[("title", ⟨value, false⟩)], none, none⟩
    let asks (document : String) : Bool := query == projectionQuery document "\x7btitle\x7d"
    if asks "page" then .ok (.union [titled .unknown, .null])
    else if asks "post" then .ok (.union [.null, titled (.string none)])
    else if asks "tag" then .ok (.union [titled .null, .null])
    else if asks "note" then .ok (.string none)
    else .error (.evaluate query)
  isObject := fun query => query == "\x7btitle\x7d"

def documentTypes (documents : List String) : SchemaTypes :=
  ⟨.type "label" (.string none) :: documents.map (.document · []), ⟨"default", []⟩, []⟩

theorem title_selected_from_page_and_post :
    let documents := ["page", "tag", "note", "post"]
    let asked := (documentTypes documents).evaluateProjection titleLanguage "\x7btitle\x7d"
    let failed :=
      (documentTypes ["page", "gone", "post"]).evaluateProjection titleLanguage "\x7btitle\x7d"
    (∃ found, (documentTypes documents).Counted titleLanguage "\x7btitle\x7d" documents found ∧
        (2 ≤ found.length →
          asked.result = .ok (some
            ⟨.union (found.map (wrappedType (documentTypes documents).naming)),
            ⟨(found.map fun single => (Statistics.ofObject single.2).allTypes).sum + 1,
              (found.map fun single => (Statistics.ofObject single.2).unknownTypes).sum,
              (found.map fun single => (Statistics.ofObject single.2).emptyUnions).sum⟩⟩))) ∧
      asked.result.toOption.join.map (·.statistics) = some ⟨5, 1, 0⟩ ∧ asked.calls.length = 10 ∧
      (∃ error, failed.result = .error error) ∧ failed.calls.length = 6 := by
  have answered : ∀ document ∈ ["page", "tag", "note", "post"], ∃ node,
      (documentTypes ["page", "tag", "note", "post"]).documentType titleLanguage
        "\x7btitle\x7d" document = .ok node := by
    simp only [List.forall_mem_cons]
    exact ⟨⟨_, rfl⟩, ⟨_, rfl⟩, ⟨_, rfl⟩, ⟨_, rfl⟩, nofun⟩
  obtain ⟨found, counted, _, _, _, several⟩ :=
    (@evaluateProjection_sums_documents String (documentTypes ["page", "tag", "note", "post"])
      titleLanguage "\x7btitle\x7d" _ rfl rfl).2 answered
  have fails : ∃ document ∈ ["page", "gone", "post"], ∃ error,
      (documentTypes ["page", "gone", "post"]).documentType titleLanguage "\x7btitle\x7d" document =
        .error error := ⟨"gone", by decide, _, rfl⟩
  obtain ⟨_, _, _, error, _, _, _, failed, _⟩ :=
    (@evaluateProjection_sums_documents String (documentTypes ["page", "gone", "post"])
      titleLanguage "\x7btitle\x7d" _ rfl rfl).1 fails
  exact ⟨⟨found, counted, several⟩, by decide +kernel, by decide +kernel, ⟨error, failed⟩,
    by decide +kernel⟩

end QueryTypes.Typing
