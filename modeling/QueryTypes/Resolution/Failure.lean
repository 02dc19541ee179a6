import QueryTypes.Modules.Host
import QueryTypes.Resolution.Options

/-!
Why an expression has no text that is known without running it, and where that shows.
-/

set_option autoImplicit false

namespace QueryTypes.Resolution

open QueryTypes.Source
open QueryTypes.Modules

inductive Cause where
  | unsupportedExpression (kind : String)
  | unsupportedTag (tag : String)
  | unsupportedLiteral (kind : String)
  | unsupportedDeclarator (name : String)
  | missingInitializer (name : String)
  | namespaceImport (name : String)
  | unsupportedBinding (name kind : String)
  | notEvaluable (kind : String)
  | unsupportedParameter
  | spreadArgument
  | missingArgument (name : String)
  | unboundParameter (name : String)
  | returnCount (count : Nat)
  | missingReturnArgument
  | missingQueryArgument (wrapper : String)
  | notText
  | notCallable
  | circularReference (name : String)
  | unboundIdentifier (name : String)
  | exportNotFound (name path : String)
  | circularExport (name path : String)
  | timeout (milliseconds : Nat)
  | host (message : String)
  | depthLimit (limit : Nat)
deriving DecidableEq

namespace Cause

def number : Cause → Nat
  | .unsupportedExpression _ => 1
  | .unsupportedTag _ => 2
  | .unsupportedLiteral _ => 3
  | .unsupportedDeclarator _ => 4
  | .missingInitializer _ => 5
  | .namespaceImport _ => 6
  | .unsupportedBinding _ _ => 7
  | .notEvaluable _ => 8
  | .unsupportedParameter => 9
  | .spreadArgument => 10
  | .missingArgument _ => 11
  | .unboundParameter _ => 12
  | .returnCount _ => 13
  | .missingReturnArgument => 14
  | .missingQueryArgument _ => 15
  | .notText => 16
  | .notCallable => 17
  | .circularReference _ => 18
  | .unboundIdentifier _ => 19
  | .exportNotFound _ _ => 20
  | .circularExport _ _ => 21
  | .timeout _ => 22
  | .host _ => 23
  | .depthLimit _ => 24

def code (cause : Cause) : String :=
  "RE00" ++ String.ofList [Nat.digitChar (cause.number / 10), Nat.digitChar (cause.number % 10)]

def message : Cause → String
  | .unsupportedExpression kind => "unsupported expression type: " ++ kind
  | .unsupportedTag tag => "unsupported template tag \"" ++ tag ++ "\""
  | .unsupportedLiteral kind => "unsupported literal type: " ++ kind
  | .unsupportedDeclarator name =>
      "unsupported declarator for \"" ++ name ++ "\": only simple identifiers can be resolved"
  | .missingInitializer name => "variable \"" ++ name ++ "\" has no initializer"
  | .namespaceImport name => "namespace import \"" ++ name ++ "\" cannot be resolved"
  | .unsupportedBinding name kind =>
      "cannot resolve \"" ++ name ++ "\": " ++ kind ++ " bindings are not supported"
  | .notEvaluable kind => kind ++ " functions are not statically evaluable"
  | .unsupportedParameter =>
      "unsupported parameter: only simple identifiers with optional defaults can be bound"
  | .spreadArgument => "spread arguments are not supported"
  | .missingArgument name => "no argument or default value for parameter \"" ++ name ++ "\""
  | .unboundParameter name => "parameter \"" ++ name ++ "\" is not bound outside of a call"
  | .returnCount count =>
      "expected exactly one reachable return statement, found " ++ toString count
  | .missingReturnArgument => "return statement has no argument"
  | .missingQueryArgument wrapper => wrapper ++ "() called without a query argument"
  | .notText => "expression evaluates to a function, not a string"
  | .notCallable => "callee does not evaluate to a function"
  | .circularReference name => "circular reference to \"" ++ name ++ "\""
  | .unboundIdentifier name => "could not find binding for \"" ++ name ++ "\""
  | .exportNotFound name path => "could not find export \"" ++ name ++ "\" in " ++ path
  | .circularExport name path => "circular re-export of \"" ++ name ++ "\" through " ++ path
  | .timeout milliseconds => "resolution timed out after " ++ durationText milliseconds
  | .host message => message
  | .depthLimit limit => "resolution nested deeper than " ++ toString limit ++ " steps"

/-- A name that nothing provides, export cycles included. -/
def isNotFound : Cause → Bool
  | .unboundIdentifier _ | .exportNotFound _ _ | .circularExport _ _ => true
  | _ => false

/-- A source that does not export the name, export cycles included. -/
def isExportMissing : Cause → Bool
  | .exportNotFound _ _ | .circularExport _ _ => true
  | _ => false

def isTimeout : Cause → Bool
  | .timeout _ => true
  | _ => false

end Cause

structure Failure where
  cause : Cause
  path : String
  loc : Loc
  position : Position
deriving DecidableEq

namespace Failure

def within (module : Module) (loc : Loc) (cause : Cause) : Failure :=
  ⟨cause, module.path, loc, (module.range loc).start⟩

def message (failure : Failure) : String :=
  failure.cause.message ++ " in " ++ failure.path ++ ":" ++ toString failure.position.line ++
    ":" ++ toString failure.position.column

end Failure

end QueryTypes.Resolution
