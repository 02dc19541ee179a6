import QueryTypes.Proofs.Scoping.Phrases
import QueryTypes.Proofs.Scoping.Sites

/-!
What the definitions of a program's scopes are definitions by.

Every definition was declared at some event of the walk, so there is a phrase of the program that
bears it. Nothing is asked of the numbers of nodes here.
-/

set_option autoImplicit false

namespace QueryTypes.Scoping

open QueryTypes.Script

def Phrase.Bears (phrase : Phrase) : Definition → Prop
  | .declarator declaration _ => phrase = .stmt (.variables declaration)
  | .importBinding declaration _ _ localName =>
      phrase = .stmt (.imports declaration) ∧ .node localName.mark ∈ importNodes declaration
  | .functionName _ callee => .function callee ∈ phrase.inner
  | .parameter callee _ => phrase = .function callee
  | .catchParameter _ => True

/-- An event is one that the walk comes to at a phrase itself. -/
def Phrase.Meets (phrase : Phrase) : Event → Prop
  | .node _ | .enter _ _ | .refer _ _ | .returns _ => True
  | .leave => False
  | .declare _ _ definition => phrase.Bears definition
  | .variables declaration => phrase = .stmt (.variables declaration)

namespace Phrase

variable {event : Event}

private theorem meets_of_expr {value : Expr} (met : event ∈ openingOfExpr value) :
    (expr value).Meets event := by
  rcases List.mem_cons.mp met with rfl | own
  · trivial
  · cases value with
    | function mark name callee =>
        cases name with
        | none => cases own
        | some name =>
            simp only [enterFunctionName, bindingNode, List.cons_append, List.nil_append,
              Option.toList_some, List.map_cons, List.map_nil, List.mem_cons, List.not_mem_nil,
              or_false] at own
            rcases own with rfl | rfl | rfl
            · trivial
            · exact List.mem_singleton_self _
            · trivial
    | identifier mark name =>
        cases List.mem_singleton.mp own
        trivial
    | _ => cases own

private theorem meets_of_imports {declaration : ImportDeclaration}
    (met : event ∈ importEvents declaration) : (stmt (.imports declaration)).Meets event := by
  unfold importEvents at met
  unfold Meets Bears importNodes
  rcases List.mem_append.mp met with single | others
  · split at single
    · cases single
    · rename_i localName given
      cases List.mem_singleton.mp single
      refine ⟨rfl, List.mem_append_left _ ?_⟩
      rw [given]
      exact List.mem_singleton_self _
  · split at others
    · cases others
    · rename_i localName given
      cases List.mem_singleton.mp others
      refine ⟨rfl, List.mem_append_right _ ?_⟩
      rw [given]
      exact List.mem_singleton_self _
    · rename_i names given
      obtain ⟨imported, among, rfl⟩ := List.mem_map.mp others
      refine ⟨rfl, List.mem_append_right _ ?_⟩
      rw [given]
      exact List.mem_map_of_mem among

private theorem meets_of_stmt {statement : Stmt} (met : event ∈ openingOfStmt statement) :
    (stmt statement).Meets event := by
  cases statement with
  | exportList exports =>
      rcases List.mem_cons.mp met with rfl | own
      · trivial
      · obtain ⟨mark, rfl⟩ := mem_exportNodes own
        trivial
  | function declaration =>
      rcases List.mem_cons.mp met with rfl | own
      · trivial
      · rcases List.mem_append.mp own with named | node
        · obtain ⟨mark, exported, exportedAsDefault, name, callee⟩ := declaration
          cases name with
          | none => cases named
          | some binding =>
              cases List.mem_singleton.mp named
              exact List.mem_singleton_self _
        · obtain ⟨mark, rfl⟩ := mem_bindingNode node
          trivial
  | imports declaration =>
      rcases List.mem_cons.mp met with rfl | own
      · trivial
      · rcases List.mem_append.mp own with bound | node
        · exact meets_of_imports bound
        · obtain ⟨mark, rfl⟩ := mem_importNodes node
          trivial
  | «variables» declaration =>
      rcases List.mem_cons.mp met with rfl | own
      · trivial
      · rcases List.mem_cons.mp own with rfl | declared
        · rfl
        · obtain ⟨_, _, rfl⟩ := mem_declaredNames declared
          rfl
  | block statements =>
      simp only [openingOfStmt, List.mem_cons, List.not_mem_nil, or_false] at met
      rcases met with rfl | rfl
      all_goals trivial
  | returns statement =>
      simp only [openingOfStmt, List.mem_cons, List.not_mem_nil, or_false] at met
      rcases met with rfl | rfl
      all_goals trivial
  | switch mark test branches =>
      simp only [openingOfStmt, List.mem_cons, List.not_mem_nil, or_false] at met
      rcases met with rfl | rfl
      all_goals trivial
  | _ =>
      cases List.mem_singleton.mp met
      trivial

/-- What the walk comes to before the phrases inside of a phrase is met at the phrase itself. -/
theorem meets_of_opening {phrase : Phrase} (met : event ∈ phrase.opening) : phrase.Meets event := by
  cases phrase with
  | expr value => exact meets_of_expr met
  | stmt statement => exact meets_of_stmt met
  | function callee =>
      rcases List.mem_cons.mp met with rfl | own
      · trivial
      · rcases List.mem_cons.mp own with rfl | declared
        · trivial
        · obtain ⟨_, _, rfl⟩ := mem_parameterEvents declared
          rfl
  | handler clause =>
      rcases List.mem_cons.mp met with rfl | own
      · trivial
      · rcases List.mem_cons.mp own with rfl | caught
        · trivial
        · match parameter : clause.parameter with
          | none =>
              rw [parameter] at caught
              cases caught
          | some target =>
              rw [parameter] at caught
              obtain ⟨binding, _, rfl⟩ := List.mem_map.mp caught
              trivial
  | block statements =>
      simp only [opening, List.mem_cons, List.not_mem_nil, or_false] at met
      rcases met with rfl | rfl
      all_goals trivial
  | pattern target =>
      cases target with
      | _ =>
          cases List.mem_singleton.mp met
          trivial
  | _ =>
      cases List.mem_singleton.mp met
      trivial

end Phrase

/-! ### Definitions and the events that declare them -/

private theorem Walk.mem_definitionsOf_run {walk : Walk} (valid : walk.Valid) {events : List Event}
    {id : ScopeId} {name : String} {definition : Definition}
    (defines : definition ∈ (walk.run events).tree.definitionsOf id name) :
    definition ∈ walk.tree.definitionsOf id name ∨
      ∃ target declared, .declare target declared definition ∈ events := by
  induction events generalizing walk with
  | nil => exact .inl defines
  | cons event rest ih =>
      rcases ih (walk.step_valid valid event) defines with earlier | ⟨target, declared, later⟩
      · rw [definitionsOf_step valid, List.mem_append] at earlier
        rcases earlier with before | new
        · exact .inl before
        · split at new
          · split at new
            · rw [List.mem_singleton.mp new]
              exact .inr ⟨_, _, List.mem_cons_self⟩
            · cases new
          · cases new
      · exact .inr ⟨target, declared, List.mem_cons_of_mem _ later⟩

section Programs

variable {program : Program}

/-- Every definition that a program's scopes hold has a phrase of the program to it. -/
theorem exists_bearer {id : ScopeId} {name : String} {known : Variable}
    (found : (bind program).declared? id name = some known) {definition : Definition}
    (defines : definition ∈ known.definitions) :
    ∃ phrase ∈ programPhrases program, phrase.Bears definition := by
  have present : definition ∈ (bind program).definitionsOf id name := by
    unfold ScopeTree.definitionsOf
    rw [found]
    exact defines
  have nothing : Walk.start.tree.definitionsOf id name = [] := by
    cases id <;> rfl
  rcases Walk.mem_definitionsOf_run Walk.start_valid present with initially | declared
  · rw [nothing] at initially
    cases initially
  · obtain ⟨target, declared, met⟩ := declared
    obtain ⟨phrase, inside, opens⟩ := exists_phrase met nofun nofun
    exact ⟨phrase, inside, Phrase.meets_of_opening opens⟩

theorem lookup_bearer {id : ScopeId} {name : String} {known : Variable}
    (found : (bind program).lookup id name = some known) {definition : Definition}
    (defines : definition ∈ known.definitions) :
    ∃ phrase ∈ programPhrases program, phrase.Bears definition := by
  obtain ⟨outer, _, declared⟩ := List.exists_of_findSome?_eq_some found
  exact exists_bearer declared defines

end Programs

end QueryTypes.Scoping
