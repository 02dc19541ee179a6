import QueryTypes.Declared.Printer
import QueryTypes.Resolution.Extraction
import QueryTypes.Text.Blank
import QueryTypes.Typing.Options
import QueryTypes.Typing.SchemaTypes

/-!
The generated file: the types of a schema and of the queries found in modules, with the
declarations that tie the two together.
-/

set_option autoImplicit false

namespace QueryTypes.Typing

open QueryTypes.Declared
open QueryTypes.Query
open QueryTypes.Resolution

structure EvaluatedQuery where
  /-- The name of the result's type in the generated file. -/
  id : String
  extracted : ExtractedQuery
  evaluated : EvaluatedType

structure EvaluatedProjection where
  /-- The name of the result's type in the generated file. -/
  id : String
  extracted : ExtractedProjection
  evaluated : EvaluatedType

structure EvaluationError where
  declared : QueryVariable
  path : String
  cause : QueryError

def EvaluationError.message (error : EvaluationError) : String :=
  "Error while evaluating query from variable \"" ++ error.declared.name ++ "\" in " ++
    error.path ++ ": " ++ error.cause.message

inductive ModuleError where
  | extraction (error : ExtractionError)
  | evaluation (error : EvaluationError)

def ModuleError.message : ModuleError → String
  | .extraction error => error.message
  | .evaluation error => error.message

/-- The errors are those of extraction, then those of queries, then those of projections. A
projection that applies to no document leaves no trace. -/
structure EvaluatedModule where
  path : String
  queries : List EvaluatedQuery
  projections : List EvaluatedProjection
  errors : List ModuleError

structure Progress (Ast : Type) where
  taken : List String
  cache : QueryCache
  calls : List (Call Ast)

def threaded {State Input Output : Type} (step : State → Input → Output × State) :
    State → List Input → List Output × State
  | state, [] => ([], state)
  | state, input :: rest =>
      let (output, state) := step state input
      let (outputs, state) := threaded step state rest
      (output :: outputs, state)

def resultName (declared : QueryVariable) : String :=
  Identifier.normalize (declared.name ++ "Result")

inductive Verdict (Evaluated : Type) where
  | typed (evaluated : Evaluated)
  | omitted
  | failed (error : EvaluationError)

namespace Verdict

def typed? {Evaluated : Type} : Verdict Evaluated → Option Evaluated
  | .typed evaluated => some evaluated
  | _ => none

def error? {Evaluated : Type} : Verdict Evaluated → Option EvaluationError
  | .failed error => some error
  | _ => none

end Verdict

variable {Ast : Type}

/-- Finds the type of one query. A name is only used up by a type. -/
def queryStep (types : SchemaTypes) (language : Query.Language Ast) (path : String)
    (progress : Progress Ast) (extracted : ExtractedQuery) :
    Verdict EvaluatedQuery × Progress Ast :=
  let (asked, cache) := types.evaluateQuery language progress.cache extracted.query
  let calls := progress.calls ++ asked.calls
  match asked.result with
  | .ok evaluated =>
      let id := Identifier.unique progress.taken (resultName extracted.declared)
      (.typed ⟨id, extracted, evaluated⟩, ⟨id :: progress.taken, cache, calls⟩)
  | .error cause =>
      (.failed ⟨extracted.declared, path, cause⟩, ⟨progress.taken, cache, calls⟩)

def projectionStep (types : SchemaTypes) (language : Query.Language Ast) (path : String)
    (progress : Progress Ast) (extracted : ExtractedProjection) :
    Verdict EvaluatedProjection × Progress Ast :=
  let asked := types.evaluateProjection language extracted.projection
  let calls := progress.calls ++ asked.calls
  match asked.result with
  | .ok (some evaluated) =>
      let id := Identifier.unique progress.taken (resultName extracted.declared)
      (.typed ⟨id, extracted, evaluated⟩, ⟨id :: progress.taken, progress.cache, calls⟩)
  | .ok none => (.omitted, ⟨progress.taken, progress.cache, calls⟩)
  | .error cause =>
      (.failed ⟨extracted.declared, path, cause⟩, ⟨progress.taken, progress.cache, calls⟩)

def moduleStep (types : SchemaTypes) (language : Query.Language Ast) (progress : Progress Ast)
    (module : ExtractedModule) : EvaluatedModule × Progress Ast :=
  let (queries, progress) :=
    threaded (queryStep types language module.path) progress module.queries
  let (projections, progress) :=
    threaded (projectionStep types language module.path) progress module.projections
  ({ path := module.path
     queries := queries.filterMap Verdict.typed?
     projections := projections.filterMap Verdict.typed?
     errors := module.errors.map ModuleError.extraction ++
       (queries.filterMap Verdict.error? ++ projections.filterMap Verdict.error?).map
         ModuleError.evaluation }, progress)

def addToGroup (groups : List (String × List String)) (entry : String × String) :
    List (String × List String) :=
  if groups.any fun group => group.1 == entry.1 then
    groups.map fun group =>
      if group.1 == entry.1 then (group.1, group.2 ++ [entry.2]) else group
  else groups ++ [(entry.1, [entry.2])]

def grouped (entries : List (String × String)) : List (String × List String) :=
  entries.foldl addToGroup []

def mapMembers (entries : List (String × String)) : List Member :=
  (grouped entries).map fun group =>
    ⟨.string group.1, false, .union (group.2.map TypeExpr.named)⟩

def clientModule : String := "@sanity/client"
def languageModule : String := "groq"

def symbolDeclaration : TopLevel := .constant referenceSymbol (.keyword .uniqueSymbol) []

/-- `type ArrayOf<T> = Array<T & { _key: string; }>`. -/
def keyedArrayDeclaration : TopLevel :=
  .alias keyedArrayName ["T"]
    (.reference "Array"
      [.intersection [.named "T", .literal [⟨.identifier "_key", false, .keyword .string⟩]]])
    false []

def schemaDeclarations (types : SchemaTypes) : List TopLevel :=
  types.all.map fun named => .exportedAlias named.identifier named.type

def allTypesDeclaration (types : SchemaTypes) : TopLevel :=
  let identifiers := types.all.map (·.identifier)
  .exportedAlias allTypesName
    (if identifiers.isEmpty then .keyword .never else .union (identifiers.map TypeExpr.named))

def defaultSchemaDeclaration (options : Options) : TopLevel :=
  (TopLevel.exportedAlias defaultSchemaName (.named allTypesName)).withComments
    (options.schemaPath.toList.map fun path => " Source: " ++ Path.shown options.root path)

def resultComments (options : Options) (path : String) (declared : QueryVariable)
    (title text : String) : List String :=
  [" Source: " ++ Path.shown options.root path,
    " Variable: " ++ declared.name,
    " " ++ title ++ ": " ++ Text.flatten text]

def queryDeclaration (options : Options) (query : EvaluatedQuery) : TopLevel :=
  (TopLevel.exportedAlias query.id query.evaluated.type).withComments
    (resultComments options query.extracted.path query.extracted.declared "Query"
      query.extracted.query)

def projectionDeclaration (options : Options) (projection : EvaluatedProjection) : TopLevel :=
  (TopLevel.exportedAlias projection.id projection.evaluated.type).withComments
    (resultComments options projection.extracted.path projection.extracted.declared "Projection"
      projection.extracted.projection)

def moduleDeclarations (options : Options) (module : EvaluatedModule) : List TopLevel :=
  module.queries.map (queryDeclaration options) ++
    module.projections.map (projectionDeclaration options)

def schemasDeclaration (types : SchemaTypes) : TopLevel :=
  .augmentation languageModule
    ⟨schemasName, [⟨.string types.schemaId, false, .named defaultSchemaName⟩]⟩
    [" Schema TypeMap"]

/-- The map from queries to result types, in each module that is told of it; only the first one
is commented on. -/
def queryMapDeclarations (options : Options) (modules : List EvaluatedModule) : List TopLevel :=
  let entries := modules.flatMap fun module =>
    module.queries.map fun query => (query.extracted.query, query.id)
  let interface : Interface := ⟨queriesName, mapMembers entries⟩
  let targets := (if options.overloadClient then [clientModule] else []) ++
    (if options.augmentLanguage then [languageModule] else [])
  if entries.isEmpty then []
  else targets.mapIdx fun index target =>
    .augmentation target interface (if index = 0 then [" Query TypeMap"] else [])

def projectionMapDeclaration (modules : List EvaluatedModule) : TopLevel :=
  let entries := modules.flatMap fun module =>
    module.projections.map fun projection => (projection.extracted.projection, projection.id)
  .augmentation languageModule ⟨projectionsName, mapMembers entries⟩
    [" Document Projection TypeMap"]

def projectionImport : TopLevel := .importType [projectionBaseName] languageModule []

/-- All declarations of the file in order. What only projections need is left out when there are
none. -/
def fileDeclarations (types : SchemaTypes) (options : Options) (modules : List EvaluatedModule) :
    List TopLevel :=
  let projected := modules.any fun module => !module.projections.isEmpty
  (if projected then [projectionImport] else []) ++
    [symbolDeclaration, keyedArrayDeclaration] ++
    schemaDeclarations types ++
    [allTypesDeclaration types, defaultSchemaDeclaration options] ++
    modules.flatMap (moduleDeclarations options) ++
    (if options.augmentLanguage then [schemasDeclaration types] else []) ++
    queryMapDeclarations options modules ++
    (if projected && options.augmentLanguage then [projectionMapDeclaration modules] else [])

def fileText (declarations : List TopLevel) : String :=
  String.join (declarations.map fun declaration => declaration.text ++ "\n\n")

structure Generated (Ast : Type) where
  declarations : List TopLevel
  code : String
  modules : List EvaluatedModule
  calls : List (Call Ast)

def Generated.errors (generated : Generated Ast) : List ModuleError :=
  generated.modules.flatMap (·.errors)

def generate (types : SchemaTypes) (language : Query.Language Ast) (options : Options)
    (cache : QueryCache) (modules : List ExtractedModule) : Generated Ast :=
  let taken := types.all.map (·.identifier)
  let (evaluated, progress) := threaded (moduleStep types language) ⟨taken, cache, []⟩ modules
  let declarations := fileDeclarations types options evaluated
  ⟨declarations, fileText declarations, evaluated, progress.calls⟩

end QueryTypes.Typing
