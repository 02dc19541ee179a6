import QueryTypes.Query.Slice
import QueryTypes.Schema.Basic

/-!
The query language as generation sees it: a parser and an evaluator of result types, supplied from
outside. What is asked of the language is written down call by call.
-/

set_option autoImplicit false

namespace QueryTypes.Query

open QueryTypes.Schema

inductive QueryError where
  | parse (message : String)
  | evaluate (message : String)
  | invalidProjection (projection : String)
deriving DecidableEq

def QueryError.message : QueryError → String
  | .parse message => "failed to parse query: " ++ message
  | .evaluate message => "failed to evaluate query type: " ++ message
  | .invalidProjection projection =>
      "Invalid projection syntax: Projections must be enclosed in curly braces, (e.g., " ++
        "\"\x7b_id, title\x7d\"). Received: \"" ++ projection ++ "\""

abbrev Parameters := List (String × Nat)

/-- A parser, and an evaluator for any dataset that conforms to a schema. -/
structure Language (Ast : Type) where
  parse : String → Parameters → Except QueryError Ast
  evaluate : Ast → List Declaration → Except QueryError ValueType
  /-- Whether a parsed query is a bare object projection. -/
  isObject : Ast → Bool

/-- A question to the language; of a schema only the number of declarations is kept. -/
inductive Call (Ast : Type) where
  | parse (query : String) (parameters : Parameters)
  | evaluate (parsed : Ast) (declarations : Nat)
  | isObject (parsed : Ast)

structure Asked (Ast Result : Type) where
  result : Except QueryError Result
  calls : List (Call Ast)

namespace Asked

variable {Ast Result Next : Type}

def answer (value : Result) : Asked Ast Result := ⟨.ok value, []⟩

def fail (error : QueryError) : Asked Ast Result := ⟨.error error, []⟩

def andThen (asked : Asked Ast Result) (next : Result → Asked Ast Next) : Asked Ast Next :=
  match asked.result with
  | .ok value => ⟨(next value).result, asked.calls ++ (next value).calls⟩
  | .error error => ⟨.error error, asked.calls⟩

instance : Monad (Asked Ast) where
  pure := answer
  bind := andThen

end Asked

namespace Language

variable {Ast : Type}

/-- Parameters that bound slices are given the value zero, so that a parser which looks at the
bounds accepts them. -/
def sliceValues (query : String) : Parameters := (sliceParameters query).map fun name => (name, 0)

def parsed (language : Language Ast) (query : String) : Asked Ast Ast :=
  ⟨language.parse query (sliceValues query), [.parse query (sliceValues query)]⟩

def typed (language : Language Ast) (schema : List Declaration) (query : Ast) :
    Asked Ast ValueType :=
  ⟨language.evaluate query schema, [.evaluate query schema.length]⟩

def object (language : Language Ast) (query : Ast) : Asked Ast Bool :=
  ⟨.ok (language.isObject query), [.isObject query]⟩

end Language

end QueryTypes.Query
