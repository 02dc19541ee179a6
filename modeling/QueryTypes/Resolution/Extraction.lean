import QueryTypes.Resolution.Session

/-!
The queries of a module: the variable declarations that look like one, each resolved on its own.
-/

set_option autoImplicit false

namespace QueryTypes.Resolution

open QueryTypes.Script
open QueryTypes.Source
open QueryTypes.Scoping
open QueryTypes.Modules

structure QueryVariable where
  name : String
  loc : Loc
  range : Range
deriving DecidableEq

structure ExtractedQuery where
  path : String
  declared : QueryVariable
  query : String
deriving DecidableEq

structure ExtractedProjection where
  path : String
  declared : QueryVariable
  projection : String
deriving DecidableEq

structure ExtractionError where
  declared : QueryVariable
  path : String
  cause : Failure
deriving DecidableEq

namespace ExtractionError

def message (error : ExtractionError) : String :=
  "Error while extracting query from variable \"" ++ error.declared.name ++ "\" in " ++
    error.path ++ ": " ++ error.cause.message

end ExtractionError

/-- What was found in a module. Projections are collected elsewhere and only carried here. -/
structure ExtractedModule where
  path : String
  queries : List ExtractedQuery
  projections : List ExtractedProjection
  errors : List ExtractionError

structure Candidate where
  declaration : VariableDeclaration
  declared : QueryVariable
  initializer : Expr

/-- Whether an expression looks like a query: a template with a query's tag, or a call of
something named like a wrapper. What the name refers to is left to resolution. -/
def looksLikeQuery (options : Options) : Expr → Bool
  | .tagged _ (.identifier _ name) _ => options.isQueryTag name
  | .call _ _ (.identifier _ name) _ => options.isWrapper name
  | .call _ _ (.member _ _ _ property) _ => options.isWrapper property
  | _ => false

def isInside (part : List Char) : List Char → Bool
  | [] => part.isEmpty
  | first :: rest => part.isPrefixOf (first :: rest) || isInside part rest

def isIgnored (options : Options) (declaration : VariableDeclaration) : Bool :=
  declaration.comments.any fun comment =>
    isInside options.ignoreMarker.toList comment.toList

def candidate? (options : Options) (module : Module) (declaration : VariableDeclaration) :
    Declarator → Option Candidate
  | ⟨.name binding, some initializer⟩ =>
      if looksLikeQuery options initializer then
        some ⟨declaration, ⟨binding.name, binding.mark.loc, module.range binding.mark.loc⟩,
          initializer⟩
      else none
  | _ => none

def declarationCandidates (options : Options) (module : Module)
    (declaration : VariableDeclaration) : List Candidate :=
  if isIgnored options declaration then []
  else declaration.declarators.filterMap (candidate? options module declaration)

def candidates (options : Options) (module : Module) : List Candidate :=
  (programEvents module.program).flatMap fun
    | .variables declaration => declarationCandidates options module declaration
    | _ => []

namespace Candidate

def environment (candidate : Candidate) (module : Module) : Environment :=
  ⟨module, (module.scopes.enclosing? candidate.declaration.mark.id).getD ScopeTree.root, none⟩

def resolve (candidate : Candidate) (context : Context) (module : Module) :
    Except ExtractionError ExtractedQuery :=
  let environment := candidate.environment module
  match ((Session.start context).resolve candidate.initializer environment).1 with
  | .ok query => .ok ⟨module.path, candidate.declared, query⟩
  | .error cause => .error ⟨candidate.declared, module.path, cause⟩

end Candidate

/-- The queries of a module and the candidates that failed, both in order. The time of each
candidate goes by a clock of its own. -/
def extract (context : Context) (clocks : Nat → Clock) (module : Module) : ExtractedModule :=
  let results := (candidates context.options module).mapIdx fun number candidate =>
    candidate.resolve { context with clock := clocks number } module
  { path := module.path
    queries := results.filterMap fun
      | .ok query => some query
      | .error _ => none
    projections := []
    errors := results.filterMap fun
      | .ok _ => none
      | .error error => some error }

end QueryTypes.Resolution
