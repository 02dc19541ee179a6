import QueryTypes.Script.Tree

/-!
The return statements of a function body that evaluation takes into account: those in
straight-line code, in both arms of a condition, in nested blocks and in the first block of a
`try` statement. Loops, switches, handlers and nested functions are not searched.
-/

set_option autoImplicit false

namespace QueryTypes.Script

mutual

def Stmt.foundReturns : Stmt → List Return
  | .returns statement => [statement]
  | .conditional _ _ consequent alternate =>
      consequent.foundReturns ++ Stmt.alternateReturns alternate
  | .block ⟨_, body⟩ => Stmt.listReturns body
  | .attempt _ ⟨_, body⟩ _ _ => Stmt.listReturns body
  | .empty _ | .exportDefault _ _ | .exportList _ | .expression _ _ | .function _
  | .imports _ | .switch _ _ _ | .variables _ | .loop _ _ _ => []

def Stmt.alternateReturns : Option Stmt → List Return
  | none => []
  | some statement => statement.foundReturns

def Stmt.listReturns : List Stmt → List Return
  | [] => []
  | first :: rest => first.foundReturns ++ Stmt.listReturns rest

end

end QueryTypes.Script
