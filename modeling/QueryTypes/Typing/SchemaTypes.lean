import QueryTypes.Json.Basic
import QueryTypes.Query.Language
import QueryTypes.Typing.Statistics
import QueryTypes.Typing.Description

/-!
The types of a schema's declarations under identifiers of their own, and the types of query
results against the schema.
-/

set_option autoImplicit false

namespace QueryTypes.Typing

open QueryTypes.Schema
open QueryTypes.Declared
open QueryTypes.Query

def allTypesName : String := "AllSanitySchemaTypes"
def defaultSchemaName : String := "DefaultSchema"
def queriesName : String := "SanityQueries"
def schemasName : String := "SanitySchemas"
def projectionsName : String := "SanityDocumentProjections"

def projectionBaseName : String := "ProjectionBase"

/-- Names that a generated file declares itself, so that no declaration of the schema gets them. -/
def reservedNames : List String :=
  [keyedArrayName, allTypesName, defaultSchemaName, queriesName, schemasName, projectionsName,
    projectionBaseName]

structure DuplicateName where
  name : String
  schemaId : String
deriving DecidableEq

def DuplicateName.message (error : DuplicateName) : String :=
  "Duplicate type name \"" ++ error.name ++ "\" in schema \"" ++ error.schemaId ++
    "\". Type names must be unique within the same schema."

def firstRepeated? (before : List String) : List String → Option String
  | [] => none
  | name :: rest => if before.contains name then some name else firstRepeated? (name :: before) rest

def uniqueNames (taken : List String) : List String → List String × List String
  | [] => ([], taken)
  | desired :: rest =>
      let name := Identifier.unique taken desired
      let (names, all) := uniqueNames (name :: taken) rest
      (name :: names, all)

structure SchemaTypes where
  declarations : List Declaration
  naming : Naming
  types : List (String × TypeExpr)

structure NamedType where
  name : String
  identifier : String
  type : TypeExpr

namespace SchemaTypes

def defaultId : String := "default"

/-- Names and describes the declarations of a schema, whose names have to be distinct. All
identifiers are settled before the first description, so a declaration may refer to a later one and
to itself. -/
def ofSchema (schemaId : String) (schema : List Declaration) :
    Except DuplicateName SchemaTypes :=
  let names := schema.map Declaration.name
  match firstRepeated? [] names with
  | some name => .error ⟨name, schemaId⟩
  | none =>
      let identifiers := (uniqueNames reservedNames (names.map Identifier.normalize)).1
      let naming : Naming := ⟨schemaId, names.zip identifiers⟩
      .ok ⟨schema, naming, schema.map fun declaration =>
        (declaration.name, describeDeclaration naming declaration)⟩

def schemaId (types : SchemaTypes) : String := types.naming.schemaId

def names (types : SchemaTypes) : List String := types.naming.identifiers.map (·.1)

def identifiers (types : SchemaTypes) : List String := types.naming.identifiers.map (·.2)

def has (types : SchemaTypes) (name : String) : Bool := types.names.contains name

def identifier? (types : SchemaTypes) (name : String) : Option String :=
  types.naming.identifiers.lookup name

def get? (types : SchemaTypes) (name : String) : Option NamedType := do
  let identifier ← types.identifier? name
  let type ← types.types.lookup name
  return ⟨name, identifier, type⟩

def all (types : SchemaTypes) : List NamedType := types.names.filterMap types.get?

end SchemaTypes

/-- The type of a query's result, with counts over the schema type it describes. -/
structure EvaluatedType where
  type : TypeExpr
  statistics : Statistics

abbrev QueryCache := List (String × EvaluatedType)

/-- Whether a projection selects nothing: the object's rest is unknown or selects nothing itself,
or every attribute is null. -/
def selectsNothing : ObjectType → Bool
  | ⟨attributes, rest, _⟩ =>
      let restSelectsNothing := match rest with
        | some .unknown => true
        | some (.object shape) => selectsNothing shape
        | _ => false
      restSelectsNothing || attributes.all fun entry => entry.2.value.isNull

/-- The object in a result that is either an object or one other thing, null as a rule. -/
def projectedObject? : ValueType → Option ObjectType
  | .union [first, second] =>
      match if first.isNull then second else first with
      | .object shape => some shape
      | _ => none
  | _ => none

def projectionQuery (document projection : String) : String :=
  "* [_type==" ++ Json.quoted document ++ "] " ++ projection ++ " [0]"

def documentNames (schema : List Declaration) : List String :=
  schema.filterMap fun
    | .document name _ => some name
    | .type _ _ => none

def combined : List EvaluatedType → Option EvaluatedType
  | [] => none
  | [single] => some single
  | results =>
      some ⟨.union (results.map (·.type)),
        Statistics.single + Statistics.sum (results.map (·.statistics))⟩

namespace SchemaTypes

variable {Ast : Type}

def evaluated (types : SchemaTypes) (node : ValueType) : EvaluatedType :=
  ⟨describe types.naming node, .ofType node⟩

def askQuery (types : SchemaTypes) (language : Query.Language Ast) (query : String) :
    Asked Ast EvaluatedType := do
  let parsed ← language.parsed query
  let node ← language.typed types.declarations parsed
  return types.evaluated node

/-- The type of a query, from the cache if it was evaluated before. Errors are not kept. -/
def evaluateQuery (types : SchemaTypes) (language : Query.Language Ast) (cache : QueryCache)
    (query : String) : Asked Ast EvaluatedType × QueryCache :=
  match cache.lookup query with
  | some known => (.answer known, cache)
  | none =>
      let asked := types.askQuery language query
      match asked.result with
      | .ok evaluated => (asked, (query, evaluated) :: cache)
      | .error _ => (asked, cache)

def askProjection (types : SchemaTypes) (language : Query.Language Ast)
    (projection document : String) : Asked Ast (Option EvaluatedType) := do
  let parsed ← language.parsed (projectionQuery document projection)
  let node ← language.typed types.declarations parsed
  return (projectedObject? node).bind fun shape =>
    if selectsNothing shape then none
    else some
      ⟨.reference projectionBaseName [describeObject types.naming shape, .stringLiteral document],
        .ofObject shape⟩

def askProjections (types : SchemaTypes) (language : Query.Language Ast) (projection : String) :
    List String → Asked Ast (List EvaluatedType)
  | [] => return []
  | document :: rest => do
      let found ← types.askProjection language projection document
      let others ← askProjections types language projection rest
      return found.toList ++ others

def evaluateProjection (types : SchemaTypes) (language : Query.Language Ast) (projection : String) :
    Asked Ast (Option EvaluatedType) := do
  let parsed ← language.parsed projection
  if ← language.object parsed then
    return combined
      (← types.askProjections language projection (documentNames types.declarations))
  else .fail (.invalidProjection projection)

end SchemaTypes

end QueryTypes.Typing
