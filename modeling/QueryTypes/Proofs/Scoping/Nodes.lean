import QueryTypes.Proofs.Scoping.Phrases
import QueryTypes.Scoping.Tree

/-!
The nodes that a walk over a program meets. What is part of a tree is met in one stretch of the
walk over the whole, so its nodes are among those of the whole.
-/

set_option autoImplicit false

namespace QueryTypes.Scoping

open QueryTypes.Script

def nodeIds (events : List Event) : List NodeId :=
  events.filterMap fun
    | .node mark => some mark.id
    | _ => none

@[simp] theorem nodeIds_append (left right : List Event) :
    nodeIds (left ++ right) = nodeIds left ++ nodeIds right := by
  unfold nodeIds
  rw [List.filterMap_append]

@[simp] theorem nodeIds_cons_node (mark : Mark) (events : List Event) :
    nodeIds (.node mark :: events) = mark.id :: nodeIds events := rfl

theorem nodeIds_subset {part whole : List Event} (inside : part <:+: whole) :
    nodeIds part ⊆ nodeIds whole :=
  (inside.filterMap _).subset

theorem functionEvents_eq (function : Function) :
    functionEvents function =
      .node function.mark :: .enter (functionKind function) function.mark.id ::
        (parameterEvents function ++ parametersEvents function.parameters ++
          bodyEvents function.body ++ [.leave]) := by
  obtain ⟨mark, arrow, async, generator, parameters, body⟩ := function
  rw [functionEvents]

theorem parametersEvents_cons (parameter : Parameter) (rest : List Parameter) :
    parametersEvents (parameter :: rest) =
      .node parameter.mark :: (patternEvents parameter.pattern ++ optionEvents parameter.default ++
        parametersEvents rest) := by
  obtain ⟨mark, spread, pattern, default⟩ := parameter
  rw [parametersEvents]

theorem argument_inside {arguments : List Argument} {argument : Argument}
    (present : argument ∈ arguments) :
    exprEvents argument.value <:+: argumentsEvents arguments := by
  rw [Phrase.argumentsEvents_eq]
  have own : exprEvents argument.value <:+: (Phrase.argument argument).events :=
    (List.suffix_cons _ _).isInfix
  exact own.trans (Phrase.events_infix_flatMap (List.mem_map_of_mem present))

theorem substitution_inside {parts : List TemplatePart} {value : Expr}
    (present : .substitution value ∈ parts) : exprEvents value <:+: partsEvents parts := by
  rw [Phrase.partsEvents_eq]
  have among : Phrase.expr value ∈ parts.flatMap Phrase.ofTemplate :=
    List.mem_flatMap.mpr ⟨_, present, List.mem_singleton_self _⟩
  exact Phrase.events_infix_flatMap among

theorem default_inside {parameters : List Parameter} {parameter : Parameter} {value : Expr}
    (present : parameter ∈ parameters) (default : parameter.default = some value) :
    exprEvents value <:+: parametersEvents parameters := by
  rw [Phrase.parametersEvents_eq]
  have own : Phrase.expr value ∈ (Phrase.parameter parameter).inner := by
    rw [Phrase.inner, default]
    exact List.mem_cons_of_mem _ (List.mem_singleton_self _)
  exact (Phrase.infix_events_of_inner own).trans
    (Phrase.events_infix_flatMap (List.mem_map_of_mem present))

theorem initializer_inside {declarators : List Declarator} {declarator : Declarator} {value : Expr}
    (present : declarator ∈ declarators) (initializer : declarator.initializer = some value) :
    exprEvents value <:+: declaratorsEvents declarators := by
  rw [Phrase.declaratorsEvents_eq]
  obtain ⟨target, assigned⟩ := declarator
  dsimp only at initializer
  subst initializer
  have own : Phrase.expr value ∈ Phrase.ofDeclarator ⟨target, some value⟩ :=
    List.mem_cons_of_mem _ (List.mem_singleton_self _)
  exact Phrase.events_infix_flatMap (List.mem_flatMap.mpr ⟨_, present, own⟩)

theorem statement_inside {body : List Stmt} {statement : Stmt} (present : statement ∈ body) :
    stmtEvents statement <:+: stmtsEvents body := by
  rw [Phrase.stmtsEvents_eq]
  exact Phrase.events_infix_flatMap (List.mem_map_of_mem (f := Phrase.stmt) present)

/-- What is returned where a return statement counts is part of the body, however deep it stands. -/
theorem listReturns_inside (body : List Stmt) {found : Return} {value : Expr}
    (present : found ∈ Stmt.listReturns body) (argument : found.value = some value) :
    exprEvents value <:+: stmtsEvents body := by
  rw [Phrase.stmtsEvents_eq]
  obtain ⟨child, direct, inside⟩ := Phrase.listReturns_phrase body present
  have own : Phrase.expr value ∈ (Phrase.stmt (.returns found)).inner := by
    change Phrase.expr value ∈ Phrase.ofOption found.value
    rw [argument]
    exact List.mem_singleton_self _
  exact ((Phrase.infix_events_of_inner own).trans (Phrase.infix_events inside)).trans
    (Phrase.events_infix_flatMap direct)

end QueryTypes.Scoping
