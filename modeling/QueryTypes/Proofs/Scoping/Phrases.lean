import Mathlib.Data.List.Basic
import QueryTypes.Resolution.Returns
import QueryTypes.Scoping.Event

/-!
The phrases of a syntax tree in source order.

The phrases right inside of one are told without recursion, by its form; what is inside of those in
turn comes before the next one. The walk over a program meets exactly these phrases, in this order:
all its events are those of single phrases.
-/

set_option autoImplicit false

namespace QueryTypes.Scoping

open QueryTypes.Script

inductive Phrase where
  | expr (value : Expr)
  | argument (argument : Argument)
  | function (function : Function)
  | parameter (parameter : Parameter)
  | pattern (pattern : Pattern)
  | property (property : PatternProperty)
  | stmt (statement : Stmt)
  | block (block : Block)
  | handler (clause : CatchClause)
  | branch (branch : SwitchBranch)

namespace Phrase

/-! ### Direct phrases -/

def ofOption (value : Option Expr) : List Phrase := value.toList.map expr

def ofTemplate : TemplatePart → List Phrase
  | .chunk _ => []
  | .substitution value => [expr value]

def ofElement : Option PatternElement → List Phrase
  | none => []
  | some ⟨target, default⟩ => pattern target :: ofOption default

def ofDeclarator : Declarator → List Phrase
  | ⟨target, initializer⟩ => pattern target :: ofOption initializer

def ofBody : FunctionBody → List Phrase
  | .statements body => body.map stmt
  | .expression value => [expr value]

def ofExpr : Expr → List Phrase
  | .arrow _ callee => [function callee]
  | .binary _ _ left right => [expr left, expr right]
  | .call _ _ callee arguments => expr callee :: arguments.map argument
  | .function _ _ callee => [function callee]
  | .identifier _ _ => []
  | .member _ _ object _ => [expr object]
  | .tagged _ tag parts => expr tag :: parts.flatMap ofTemplate
  | .array _ elements => elements.map expr
  | .bigInteger _ _ | .boolean _ _ | .null _ | .number _ _ | .regex _ _ | .string _ _ => []
  | .object _ members => members.map fun member => expr member.2
  | .template _ parts => parts.flatMap ofTemplate

def ofPattern : Pattern → List Phrase
  | .name _ => []
  | .array _ elements rest => elements.flatMap ofElement ++ rest.toList.map pattern
  | .object _ properties rest => properties.map property ++ rest.toList.map pattern

def ofStmt : Stmt → List Phrase
  | .block statements => statements.body.map stmt
  | .empty _ => []
  | .exportDefault _ value => [expr value]
  | .exportList _ => []
  | .expression _ value => [expr value]
  | .function declaration => [function declaration.function]
  | .conditional _ test consequent alternate =>
      expr test :: stmt consequent :: alternate.toList.map stmt
  | .imports _ => []
  | .returns statement => ofOption statement.value
  | .switch _ test branches => expr test :: branches.map branch
  | .attempt _ wrapped clause cleanup =>
      block wrapped :: (clause.toList.map handler ++ cleanup.toList.map block)
  | .variables declaration => declaration.declarators.flatMap ofDeclarator
  | .loop _ condition body => [expr condition, stmt body]

def inner : Phrase → List Phrase
  | expr value => ofExpr value
  | argument given => [expr given.value]
  | function callee => callee.parameters.map parameter ++ ofBody callee.body
  | parameter bound => pattern bound.pattern :: ofOption bound.default
  | pattern target => ofPattern target
  | property bound => pattern bound.target :: ofOption bound.default
  | stmt statement => ofStmt statement
  | block statements => statements.body.map stmt
  | handler clause => clause.parameter.toList.map pattern ++ clause.body.map stmt
  | branch taken => ofOption taken.test ++ taken.body.map stmt

/-! ### What a walk meets at a phrase -/

def events : Phrase → List Event
  | expr value => exprEvents value
  | argument given => .node given.mark :: exprEvents given.value
  | function callee => functionEvents callee
  | parameter bound =>
      .node bound.mark :: (patternEvents bound.pattern ++ optionEvents bound.default)
  | pattern target => patternEvents target
  | property bound =>
      .node bound.mark :: (patternEvents bound.target ++ optionEvents bound.default)
  | stmt statement => stmtEvents statement
  | block statements => blockEvents statements
  | handler clause => handlerEvents (some clause)
  | branch taken => .node taken.mark :: (optionEvents taken.test ++ stmtsEvents taken.body)

def openingOfExpr (value : Expr) : List Event :=
  .node value.mark :: match value with
    | .function mark name callee => enterFunctionName mark name callee ++ bindingNode name
    | .identifier mark name => [.refer mark.id name]
    | _ => []

def closingOfExpr : Expr → List Event
  | .function _ name _ => leaveFunctionName name
  | _ => []

def openingOfPattern : Pattern → List Event
  | .name binding => [.node binding.mark]
  | .array mark _ _ | .object mark _ _ => [.node mark]

def openingOfStmt : Stmt → List Event
  | .block statements => [.node statements.mark, .enter .block statements.mark.id]
  | .empty mark | .exportDefault mark _ | .expression mark _ | .conditional mark _ _ _
  | .attempt mark _ _ _ | .loop mark _ _ => [.node mark]
  | .exportList exports => .node exports.mark :: exportNodes exports
  | .function declaration =>
      .node declaration.mark :: (functionNameEvents declaration.name declaration.function ++
        bindingNode declaration.name)
  | .imports declaration =>
      .node declaration.mark :: (importEvents declaration ++ importNodes declaration)
  | .returns statement => [.node statement.mark, .returns statement.mark.id]
  | .switch mark _ _ => [.node mark, .enter .block mark.id]
  | .variables declaration => .node declaration.mark :: variableEvents declaration

def closingOfStmt : Stmt → List Event
  | .block _ | .switch _ _ _ => [.leave]
  | _ => []

/-- The events of a phrase before those of the phrases inside of it. -/
def opening : Phrase → List Event
  | expr value => openingOfExpr value
  | argument given => [.node given.mark]
  | function callee =>
      .node callee.mark :: .enter (functionKind callee) callee.mark.id :: parameterEvents callee
  | parameter bound => [.node bound.mark]
  | pattern target => openingOfPattern target
  | property bound => [.node bound.mark]
  | stmt statement => openingOfStmt statement
  | block statements => [.node statements.mark, .enter .block statements.mark.id]
  | handler clause =>
      .node clause.mark :: .enter .block clause.mark.id :: catchEvents clause.parameter
  | branch taken => [.node taken.mark]

def closing : Phrase → List Event
  | expr value => closingOfExpr value
  | stmt statement => closingOfStmt statement
  | function _ | block _ | handler _ => [.leave]
  | argument _ | parameter _ | pattern _ | property _ | branch _ => []

section Lists

private theorem optionEvents_eq (value : Option Expr) :
    optionEvents value = (ofOption value).flatMap events := by
  cases value with
  | none => rfl
  | some value => exact (List.append_nil _).symm

private theorem exprsEvents_eq (values : List Expr) :
    exprsEvents values = (values.map expr).flatMap events := by
  induction values with
  | nil => rfl
  | cons first rest ih => rw [exprsEvents, ih]; rfl

private theorem membersEvents_eq (members : List (String × Expr)) :
    membersEvents members = (members.map fun member => expr member.2).flatMap events := by
  induction members with
  | nil => rfl
  | cons first rest ih => rw [membersEvents, ih]; rfl

theorem argumentsEvents_eq (arguments : List Argument) :
    argumentsEvents arguments = (arguments.map argument).flatMap events := by
  induction arguments with
  | nil => rfl
  | cons first others ih =>
      obtain ⟨mark, spread, value⟩ := first
      rw [argumentsEvents, ih, List.map_cons, List.flatMap_cons, events]
      rfl

theorem partsEvents_eq (parts : List TemplatePart) :
    partsEvents parts = (parts.flatMap ofTemplate).flatMap events := by
  induction parts with
  | nil => rfl
  | cons first rest ih =>
      rw [partsEvents, ih, List.flatMap_cons, List.flatMap_append]
      cases first with
      | chunk text => rfl
      | substitution value => rw [partEvents, ofTemplate, List.flatMap_singleton]; rfl

theorem parametersEvents_eq (parameters : List Parameter) :
    parametersEvents parameters = (parameters.map parameter).flatMap events := by
  induction parameters with
  | nil => rfl
  | cons first others ih =>
      obtain ⟨mark, rest, target, default⟩ := first
      rw [parametersEvents, ih, List.map_cons, List.flatMap_cons, events]
      simp only [List.cons_append, List.append_assoc]

private theorem restEvents_eq (target : Option Pattern) :
    restEvents target = (target.toList.map pattern).flatMap events := by
  cases target with
  | none => rfl
  | some target => exact (List.append_nil _).symm

private theorem elementsEvents_eq (elements : List (Option PatternElement)) :
    elementsEvents elements = (elements.flatMap ofElement).flatMap events := by
  induction elements with
  | nil => rfl
  | cons first rest ih =>
      match first with
      | none => exact ih
      | some ⟨target, default⟩ =>
          rw [elementsEvents, ih, optionEvents_eq, List.flatMap_cons, List.flatMap_append]
          rfl

private theorem propertiesEvents_eq (properties : List PatternProperty) :
    propertiesEvents properties = (properties.map property).flatMap events := by
  induction properties with
  | nil => rfl
  | cons first others ih =>
      obtain ⟨mark, key, target, default⟩ := first
      rw [propertiesEvents, ih, List.map_cons, List.flatMap_cons, events]
      simp only [List.cons_append, List.append_assoc]

theorem stmtsEvents_eq (body : List Stmt) :
    stmtsEvents body = (body.map stmt).flatMap events := by
  induction body with
  | nil => rfl
  | cons first rest ih => rw [stmtsEvents, ih]; rfl

private theorem alternateEvents_eq (alternate : Option Stmt) :
    alternateEvents alternate = (alternate.toList.map stmt).flatMap events := by
  cases alternate with
  | none => rfl
  | some statement => exact (List.append_nil _).symm

private theorem handlerEvents_eq (clause : Option CatchClause) :
    handlerEvents clause = (clause.toList.map handler).flatMap events := by
  cases clause with
  | none => rfl
  | some clause => exact (List.append_nil _).symm

private theorem cleanupEvents_eq (cleanup : Option Block) :
    cleanupEvents cleanup = (cleanup.toList.map block).flatMap events := by
  cases cleanup with
  | none => rfl
  | some statements => exact (List.append_nil _).symm

private theorem branchesEvents_eq (branches : List SwitchBranch) :
    branchesEvents branches = (branches.map branch).flatMap events := by
  induction branches with
  | nil => rfl
  | cons first others ih =>
      obtain ⟨mark, test, body⟩ := first
      rw [branchesEvents, ih, List.map_cons, List.flatMap_cons, events]
      simp only [List.cons_append, List.append_assoc]

theorem declaratorsEvents_eq (declarators : List Declarator) :
    declaratorsEvents declarators = (declarators.flatMap ofDeclarator).flatMap events := by
  induction declarators with
  | nil => rfl
  | cons first rest ih =>
      obtain ⟨target, initializer⟩ := first
      rw [declaratorsEvents, ih, optionEvents_eq, List.flatMap_cons, List.flatMap_append]
      rfl

private theorem bodyEvents_eq (body : FunctionBody) :
    bodyEvents body = (ofBody body).flatMap events := by
  cases body with
  | statements body => exact stmtsEvents_eq body
  | expression value => exact (List.append_nil _).symm

end Lists

private theorem exprEvents_eq (value : Expr) :
    exprEvents value = openingOfExpr value ++ (ofExpr value).flatMap events ++
      closingOfExpr value := by
  cases value <;>
    simp [exprEvents, argumentsEvents_eq, partsEvents_eq, exprsEvents_eq, membersEvents_eq,
      openingOfExpr, ofExpr, closingOfExpr, events, Expr.mark]

private theorem patternEvents_eq (target : Pattern) :
    patternEvents target = openingOfPattern target ++ (ofPattern target).flatMap events := by
  cases target <;>
    simp [patternEvents, elementsEvents_eq, propertiesEvents_eq, restEvents_eq, openingOfPattern,
      ofPattern]

private theorem stmtEvents_eq (statement : Stmt) :
    stmtEvents statement = openingOfStmt statement ++ (ofStmt statement).flatMap events ++
      closingOfStmt statement := by
  cases statement with
  | block statements =>
      obtain ⟨mark, body⟩ := statements
      simp [stmtEvents, blockEvents, stmtsEvents_eq, openingOfStmt, ofStmt, closingOfStmt]
  | function declaration =>
      obtain ⟨mark, exported, exportedAsDefault, name, callee⟩ := declaration
      simp [stmtEvents, openingOfStmt, ofStmt, closingOfStmt, events]
  | returns statement =>
      obtain ⟨mark, value⟩ := statement
      simp [stmtEvents, optionEvents_eq, openingOfStmt, ofStmt, closingOfStmt]
  | «variables» declaration =>
      obtain ⟨mark, exported, mode, declarators, comments⟩ := declaration
      simp [stmtEvents, declaratorsEvents_eq, openingOfStmt, ofStmt, closingOfStmt]
  | _ =>
      simp [stmtEvents, alternateEvents_eq, branchesEvents_eq, handlerEvents_eq, cleanupEvents_eq,
        openingOfStmt, ofStmt, closingOfStmt, events]

/-- The events of a phrase are its own and those of the phrases right inside of it, in order. -/
theorem events_eq (phrase : Phrase) :
    phrase.events = phrase.opening ++ phrase.inner.flatMap events ++ phrase.closing := by
  cases phrase with
  | expr value => exact exprEvents_eq value
  | argument given => simp [events, opening, inner, closing]
  | function callee =>
      obtain ⟨mark, arrow, async, generator, parameters, body⟩ := callee
      simp [events, functionEvents, opening, inner, closing, parametersEvents_eq, bodyEvents_eq]
  | parameter bound =>
      simp [events, opening, inner, closing, optionEvents_eq]
  | pattern target => simp [events, opening, inner, closing, patternEvents_eq]
  | property bound => simp [events, opening, inner, closing, optionEvents_eq]
  | stmt statement => exact stmtEvents_eq statement
  | block statements =>
      obtain ⟨mark, body⟩ := statements
      simp [events, blockEvents, opening, inner, closing, stmtsEvents_eq]
  | handler clause =>
      obtain ⟨mark, target, body⟩ := clause
      simp [events, handlerEvents, opening, inner, closing, restEvents_eq, stmtsEvents_eq]
  | branch taken => simp [events, opening, inner, closing, optionEvents_eq, stmtsEvents_eq]

private theorem opening_ne_nil (phrase : Phrase) : phrase.opening ≠ [] := by
  cases phrase with
  | pattern target => cases target <;> exact List.cons_ne_nil _ _
  | stmt statement => cases statement <;> exact List.cons_ne_nil _ _
  | _ => exact List.cons_ne_nil _ _

theorem events_infix_flatMap {child : Phrase} {phrases : List Phrase} (present : child ∈ phrases) :
    child.events <:+: phrases.flatMap events := by
  obtain ⟨before, after, rfl⟩ := List.append_of_mem present
  rw [List.flatMap_append, List.flatMap_cons]
  exact List.infix_append_of_infix_right List.infix_append_left

private theorem length_events_lt {phrase child : Phrase} (present : child ∈ phrase.inner) :
    child.events.length < phrase.events.length := by
  have own := List.length_pos_iff.mpr phrase.opening_ne_nil
  have among := (events_infix_flatMap present).length_le
  rw [phrase.events_eq, List.length_append, List.length_append]
  omega

/-- What holds of a phrase if it holds of all phrases right inside of it holds of every phrase. -/
theorem induction {Holds : Phrase → Prop}
    (step : ∀ phrase, (∀ child ∈ phrase.inner, Holds child) → Holds phrase) (phrase : Phrase) :
    Holds phrase :=
  step phrase fun child _ => induction step child
termination_by phrase.events.length
decreasing_by exact length_events_lt ‹_›

/-! ### Parts at any depth -/

def preorder (phrase : Phrase) : List Phrase :=
  phrase :: phrase.inner.attach.flatMap fun child => child.val.preorder
termination_by phrase.events.length
decreasing_by exact length_events_lt child.property

theorem preorder_eq (phrase : Phrase) :
    phrase.preorder = phrase :: phrase.inner.flatMap preorder := by
  rw [preorder, List.flatMap_subtype fun _ _ => rfl, List.unattach_attach]

theorem mem_preorder {phrase other : Phrase} :
    other ∈ phrase.preorder ↔ other = phrase ∨ ∃ child ∈ phrase.inner, other ∈ child.preorder := by
  rw [preorder_eq, List.mem_cons, List.mem_flatMap]

theorem preorder_trans {phrase other third : Phrase} (inside : other ∈ phrase.preorder)
    (deeper : third ∈ other.preorder) : third ∈ phrase.preorder := by
  induction phrase using induction with
  | step phrase ih =>
      rcases mem_preorder.mp inside with rfl | ⟨child, direct, within⟩
      · exact deeper
      · exact mem_preorder.mpr (.inr ⟨child, direct, ih child direct within⟩)

private theorem mem_closing {phrase : Phrase} {event : Event} (present : event ∈ phrase.closing) :
    event = .leave := by
  cases phrase with
  | expr value =>
      cases value with
      | function mark name callee =>
          cases name with
          | none => cases present
          | some name => exact List.mem_singleton.mp present
      | _ => cases present
  | stmt statement =>
      cases statement with
      | block statements => exact List.mem_singleton.mp present
      | switch mark test branches => exact List.mem_singleton.mp present
      | _ => cases present
  | function callee => exact List.mem_singleton.mp present
  | block statements => exact List.mem_singleton.mp present
  | handler clause => exact List.mem_singleton.mp present
  | _ => cases present

theorem infix_events_of_inner {phrase child : Phrase} (direct : child ∈ phrase.inner) :
    child.events <:+: phrase.events := by
  rw [phrase.events_eq]
  exact List.infix_append_of_infix_left
    (List.infix_append_of_infix_right (events_infix_flatMap direct))

/-- What is inside of a phrase is walked in one stretch. -/
theorem infix_events {phrase other : Phrase} (inside : other ∈ phrase.preorder) :
    other.events <:+: phrase.events := by
  induction phrase using induction with
  | step phrase ih =>
      rcases mem_preorder.mp inside with rfl | ⟨child, direct, deeper⟩
      · exact List.infix_refl _
      · exact (ih child direct deeper).trans (infix_events_of_inner direct)

/-- An event that ends no scope stands before all that is inside of the phrase it belongs to. -/
theorem exists_phrase_of_mem_events {phrase : Phrase} {event : Event} (met : event ∈ phrase.events)
    (ends : event ≠ .leave) : ∃ other ∈ phrase.preorder, event ∈ other.opening := by
  induction phrase using induction with
  | step phrase ih =>
      rw [phrase.events_eq, List.mem_append, List.mem_append, List.mem_flatMap] at met
      rcases met with (own | ⟨child, direct, inside⟩) | last
      · exact ⟨phrase, mem_preorder.mpr (.inl rfl), own⟩
      · obtain ⟨other, deeper, own⟩ := ih child direct inside
        exact ⟨other, mem_preorder.mpr (.inr ⟨child, direct, deeper⟩), own⟩
      · exact absurd (mem_closing last) ends

/-- What is read off the events of single phrases is read off all events in their order. -/
theorem filterMap_events {Item : Type} {read : Event → Option Item} {item? : Phrase → Option Item}
    (own : ∀ phrase : Phrase, phrase.opening.filterMap read = (item? phrase).toList)
    (nothing : read .leave = none) (phrase : Phrase) :
    phrase.events.filterMap read = phrase.preorder.filterMap item? := by
  induction phrase using induction with
  | step phrase ih =>
      have ended : phrase.closing.filterMap read = [] := by
        refine List.filterMap_eq_nil_iff.mpr fun event present => ?_
        rw [mem_closing present, nothing]
      have inside : phrase.inner.flatMap (fun child => child.events.filterMap read) =
          phrase.inner.flatMap fun child => child.preorder.filterMap item? :=
        List.flatMap_congr ih
      have first : [phrase].filterMap item? = (item? phrase).toList := by
        cases found : item? phrase with
        | none => exact List.filterMap_cons_none found
        | some item => exact List.filterMap_cons_some found
      calc phrase.events.filterMap read
          = (item? phrase).toList ++
              phrase.inner.flatMap (fun child => child.events.filterMap read) := by
            rw [phrase.events_eq, List.filterMap_append, List.filterMap_append, own, ended,
              List.append_nil, List.filterMap_flatMap]
        _ = (item? phrase).toList ++
              phrase.inner.flatMap (fun child => child.preorder.filterMap item?) := by rw [inside]
        _ = phrase.preorder.filterMap item? := by
            rw [preorder_eq, ← List.singleton_append, List.filterMap_append, first,
              List.filterMap_flatMap]

theorem mem_preorder_of_inner {phrase child other : Phrase} (direct : child ∈ phrase.inner)
    (inside : other ∈ child.preorder) : other ∈ phrase.preorder :=
  mem_preorder.mpr (.inr ⟨child, direct, inside⟩)

mutual

/-- A return statement that counts is a phrase of the statement that it is found in. -/
theorem foundReturns_phrase : ∀ (statement : Stmt) {found : Return},
    found ∈ statement.foundReturns → .stmt (.returns found) ∈ (stmt statement).preorder
  | .returns statement, found, present => by
      rw [Stmt.foundReturns, List.mem_singleton] at present
      subst present
      exact mem_preorder.mpr (.inl rfl)
  | .conditional mark test consequent alternate, found, present => by
      rw [Stmt.foundReturns, List.mem_append] at present
      rcases present with first | second
      · exact mem_preorder_of_inner (List.mem_cons_of_mem _ List.mem_cons_self)
          (foundReturns_phrase consequent first)
      · obtain ⟨child, direct, inside⟩ := alternateReturns_phrase alternate second
        exact mem_preorder_of_inner
          (List.mem_cons_of_mem _ (List.mem_cons_of_mem _ direct)) inside
  | .block ⟨mark, body⟩, found, present => by
      rw [Stmt.foundReturns] at present
      obtain ⟨child, direct, inside⟩ := listReturns_phrase body present
      exact mem_preorder_of_inner direct inside
  | .attempt mark ⟨blockMark, body⟩ clause cleanup, found, present => by
      rw [Stmt.foundReturns] at present
      obtain ⟨child, direct, inside⟩ := listReturns_phrase body present
      have wrapped : .stmt (.returns found) ∈ (Phrase.block ⟨blockMark, body⟩).preorder :=
        mem_preorder_of_inner direct inside
      exact mem_preorder_of_inner List.mem_cons_self wrapped
  | .empty _, _, present | .exportDefault _ _, _, present | .exportList _, _, present
  | .expression _ _, _, present | .function _, _, present | .imports _, _, present
  | .switch _ _ _, _, present | .variables _, _, present | .loop _ _ _, _, present => by
      rw [Stmt.foundReturns] at present
      cases present

private theorem alternateReturns_phrase : ∀ (alternate : Option Stmt) {found : Return},
    found ∈ Stmt.alternateReturns alternate →
      ∃ child ∈ alternate.toList.map stmt, .stmt (.returns found) ∈ child.preorder
  | none, _, present => by
      rw [Stmt.alternateReturns] at present
      cases present
  | some statement, found, present => by
      rw [Stmt.alternateReturns] at present
      exact ⟨_, List.mem_singleton_self _, foundReturns_phrase statement present⟩

theorem listReturns_phrase : ∀ (body : List Stmt) {found : Return},
    found ∈ Stmt.listReturns body →
      ∃ child ∈ body.map stmt, .stmt (.returns found) ∈ child.preorder
  | [], _, present => by
      rw [Stmt.listReturns] at present
      cases present
  | first :: rest, found, present => by
      rw [Stmt.listReturns, List.mem_append] at present
      rcases present with here | later
      · exact ⟨_, List.mem_cons_self, foundReturns_phrase first here⟩
      · obtain ⟨child, direct, inside⟩ := listReturns_phrase rest later
        exact ⟨child, List.mem_cons_of_mem _ direct, inside⟩

end

end Phrase

/-! ### Programs -/

def programPhrases (program : Program) : List Phrase :=
  program.body.flatMap fun statement => (Phrase.stmt statement).preorder

section Programs

variable {program : Program}

theorem programEvents_eq (program : Program) :
    programEvents program =
      .node program.mark :: (program.body.map Phrase.stmt).flatMap Phrase.events := by
  rw [programEvents, Phrase.stmtsEvents_eq]

theorem mem_programPhrases {phrase : Phrase} :
    phrase ∈ programPhrases program ↔
      ∃ statement ∈ program.body, phrase ∈ (Phrase.stmt statement).preorder :=
  List.mem_flatMap

theorem infix_programEvents {phrase : Phrase} (inside : phrase ∈ programPhrases program) :
    phrase.events <:+: programEvents program := by
  obtain ⟨statement, present, deeper⟩ := mem_programPhrases.mp inside
  refine (Phrase.infix_events deeper).trans ?_
  rw [programEvents_eq]
  exact List.infix_cons (Phrase.events_infix_flatMap (List.mem_map_of_mem present))

theorem exists_phrase {event : Event} (met : event ∈ programEvents program) (ends : event ≠ .leave)
    (inside : event ≠ .node program.mark) :
    ∃ phrase ∈ programPhrases program, event ∈ phrase.opening := by
  rw [programEvents_eq, List.mem_cons, List.mem_flatMap] at met
  obtain ⟨phrase, among, own⟩ := met.resolve_left inside
  obtain ⟨statement, present, rfl⟩ := List.mem_map.mp among
  obtain ⟨other, deeper, opens⟩ := Phrase.exists_phrase_of_mem_events own ends
  exact ⟨other, mem_programPhrases.mpr ⟨statement, present, deeper⟩, opens⟩

end Programs

end QueryTypes.Scoping
