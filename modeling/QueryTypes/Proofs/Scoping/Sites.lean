import QueryTypes.Proofs.Scoping.Regions
import QueryTypes.Proofs.Scoping.Tables

/-!
The walk over a program notes what its sites say.

Site by site, with the scopes open that belong to the constructs around it, whichever part of these
it stands in. By induction on the syntax; all else about scopes follows from this and from the list
of sites.
-/

set_option autoImplicit false

namespace QueryTypes.Scoping

open QueryTypes.Script

def Nesting.opened (nesting : Nesting) : OpenScope := ⟨nesting.maker, nesting.isFunction⟩

def openScopes (around : List Nesting) : List OpenScope := around.map Nesting.opened

def Site.noted : Site → List (List OpenScope × Event)
  | ⟨around, .block statement⟩ => [(openScopes around, .enter .block statement.mark.id)]
  | ⟨around, .switch mark⟩ => [(openScopes around, .enter .block mark.id)]
  | ⟨around, .catchClause clause⟩ =>
      (openScopes around, .enter .block clause.mark.id) ::
        (catchEvents clause.parameter).map
          ((Nesting.catchParameter clause.mark.id).opened :: openScopes around, ·)
  | ⟨around, .function function⟩ =>
      (openScopes around, .enter (functionKind function) function.mark.id) ::
        (parameterEvents function).map
          ((Nesting.function function.mark.id).opened :: openScopes around, ·)
  | ⟨around, .namedFunction mark name function⟩ =>
      [(openScopes around, .enter .functionName mark.id),
        ((Nesting.functionName mark.id).opened :: openScopes around,
          .declare .current name.name (.functionName name function))]
  | ⟨around, .functionDeclaration declaration⟩ =>
      (functionNameEvents declaration.name declaration.function).map (openScopes around, ·)
  | ⟨around, .variables declaration⟩ => (variableEvents declaration).map (openScopes around, ·)
  | ⟨around, .imports declaration⟩ => (importEvents declaration).map (openScopes around, ·)
  | ⟨around, .returns statement⟩ => [(openScopes around, .returns statement.mark.id)]
  | ⟨around, .identifier mark name⟩ => [(openScopes around, .refer mark.id name)]

/-! ### Parts without sites inside -/

private theorem functionKind_isClosure (function : Function) :
    (functionKind function).isClosure = true := by
  unfold functionKind
  split <;> rfl

private theorem mem_catchEvents {parameter : Option Pattern} {event : Event}
    (present : event ∈ catchEvents parameter) : event.isDeclare = true := by
  cases parameter with
  | none => cases present
  | some pattern =>
      obtain ⟨binding, _, rfl⟩ := List.mem_map.mp present
      rfl

private theorem mem_importEvents {declaration : ImportDeclaration} {event : Event}
    (present : event ∈ importEvents declaration) : event.isDeclare = true := by
  unfold importEvents at present
  rcases List.mem_append.mp present with single | others
  · split at single
    · cases single
    · rw [List.mem_singleton.mp single]
      rfl
  · split at others
    · cases others
    · rw [List.mem_singleton.mp others]
      rfl
    · obtain ⟨name, _, rfl⟩ := List.mem_map.mp others
      rfl

private theorem mem_functionNameEvents {name : Option Binding} {function : Function} {event : Event}
    (present : event ∈ functionNameEvents name function) : event.isDeclare = true := by
  cases name with
  | none => cases present
  | some binding =>
      rw [List.mem_singleton.mp present]
      rfl

private theorem noted_nodes {events : List Event}
    (nodes : ∀ event ∈ events, ∃ mark, event = .node mark) (opened : List OpenScope) :
    noted opened events = [] := by
  induction events with
  | nil => rfl
  | cons event rest ih =>
      obtain ⟨mark, rfl⟩ := nodes event List.mem_cons_self
      rw [noted_node]
      exact ih fun other present => nodes other (List.mem_cons_of_mem _ present)

theorem mem_bindingNode {name : Option Binding} {event : Event}
    (present : event ∈ bindingNode name) : ∃ mark, event = .node mark := by
  obtain ⟨binding, _, rfl⟩ := List.mem_map.mp present
  exact ⟨_, rfl⟩

theorem mem_importNodes {declaration : ImportDeclaration} {event : Event}
    (present : event ∈ importNodes declaration) : ∃ mark, event = .node mark := by
  unfold importNodes at present
  rcases List.mem_append.mp present with single | others
  · obtain ⟨binding, _, rfl⟩ := List.mem_map.mp single
    exact ⟨_, rfl⟩
  · split at others
    · cases others
    · exact ⟨_, List.mem_singleton.mp others⟩
    · obtain ⟨name, _, rfl⟩ := List.mem_map.mp others
      exact ⟨_, rfl⟩

theorem mem_exportNodes {exports : ExportList} {event : Event}
    (present : event ∈ exportNodes exports) : ∃ mark, event = .node mark := by
  unfold exportNodes at present
  split at present
  · obtain ⟨binding, _, rfl⟩ := List.mem_map.mp present
    exact ⟨_, rfl⟩
  · obtain ⟨name, _, rfl⟩ := List.mem_map.mp present
    exact ⟨_, rfl⟩

/-! ### Apart from declarations -/

/-- What a walk notes at a site apart from declarations: the start of a scope, a use, a return
statement or a variable declaration as a whole. -/
def Site.marker? : Site → Option (List OpenScope × Event)
  | ⟨around, .block statement⟩ => some (openScopes around, .enter .block statement.mark.id)
  | ⟨around, .switch mark⟩ => some (openScopes around, .enter .block mark.id)
  | ⟨around, .catchClause clause⟩ => some (openScopes around, .enter .block clause.mark.id)
  | ⟨around, .function function⟩ =>
      some (openScopes around, .enter (functionKind function) function.mark.id)
  | ⟨around, .namedFunction mark _ _⟩ => some (openScopes around, .enter .functionName mark.id)
  | ⟨around, .variables declaration⟩ => some (openScopes around, .variables declaration)
  | ⟨around, .returns statement⟩ => some (openScopes around, .returns statement.mark.id)
  | ⟨around, .identifier mark name⟩ => some (openScopes around, .refer mark.id name)
  | ⟨_, .functionDeclaration _⟩ | ⟨_, .imports _⟩ => none

/-- What is read off the events at a site, but not off declarations, is read off its marker. -/
theorem Site.filterMap_noted {Item : Type} {read : List OpenScope × Event → Option Item}
    (skips : ∀ opened target name definition, read (opened, .declare target name definition) = none)
    (site : Site) : site.noted.filterMap read = (site.marker?.bind read).toList := by
  have nothing {events : List Event} (declares : ∀ event ∈ events, event.isDeclare = true)
      (opened : List OpenScope) : (events.map (opened, ·)).filterMap read = [] := by
    rw [List.filterMap_map, List.filterMap_eq_nil_iff]
    intro event present
    have declare := declares event present
    cases event with
    | declare target name definition => exact skips opened target name definition
    | _ => cases declare
  have first (start : List OpenScope × Event) {events : List Event}
      (declares : ∀ event ∈ events, event.isDeclare = true) (opened : List OpenScope) :
      (start :: events.map (opened, ·)).filterMap read = (read start).toList := by
    cases here : read start with
    | none => rw [List.filterMap_cons_none here, nothing declares, Option.toList_none]
    | some item => rw [List.filterMap_cons_some here, nothing declares, Option.toList_some]
  have alone (start : List OpenScope × Event) : [start].filterMap read = (read start).toList :=
    first start (fun _ impossible => absurd impossible List.not_mem_nil) []
  obtain ⟨around, construct⟩ := site
  cases construct with
  | block statement => exact alone _
  | switch mark => exact alone _
  | catchClause clause => exact first _ (fun _ => mem_catchEvents) _
  | function function => exact first _ (parameterEvents_declare function) _
  | namedFunction mark name function =>
      have declares :
          Event.isDeclare (.declare .current name.name (.functionName name function)) = true := rfl
      exact first _ (List.forall_mem_singleton.mpr declares) _
  | functionDeclaration declaration => exact nothing (fun _ => mem_functionNameEvents) _
  | «variables» declaration => exact first _ (declaredNames_declare declaration) _
  | imports declaration => exact nothing (fun _ => mem_importEvents) _
  | returns statement => exact alone _
  | identifier mark name => exact alone _

/-! ### All parts -/

mutual

private theorem exprSites_noted : ∀ (value : Expr) (around : List Nesting),
    noted (openScopes around) (exprEvents value) = (exprSites around value).flatMap Site.noted
  | .arrow mark function, around => by
      rw [exprEvents, exprSites, noted_node]
      exact functionSites_noted function around
  | .binary mark operator left right, around => by
      rw [exprEvents, exprSites, noted_node, (exprEvents_bracketed left).noted_append,
        List.flatMap_append, exprSites_noted left, exprSites_noted right]
  | .call mark optional callee arguments, around => by
      rw [exprEvents, exprSites, noted_node, (exprEvents_bracketed callee).noted_append,
        List.flatMap_append, exprSites_noted callee, argumentsSites_noted arguments]
  | .function mark none function, around => by
      rw [exprEvents, exprSites, noted_node]
      change noted _ (functionEvents function ++ []) = (functionSites around function).flatMap _
      rw [List.append_nil]
      exact functionSites_noted function around
  | .function mark (some binding) function, around => by
      rw [exprEvents, exprSites, noted_node]
      have inside := functionSites_noted function (.functionName mark.id :: around)
      have bracketed := functionEvents_bracketed function
      change _ :: _ :: noted _ (functionEvents function ++ [.leave]) =
        _ :: _ :: (functionSites (.functionName mark.id :: around) function).flatMap _
      rw [← inside, bracketed.noted_append, noted_leave, noted_nil, List.append_nil]
      rfl
  | .identifier mark name, around => by
      rw [exprEvents, exprSites]
      rfl
  | .member mark optional object property, around => by
      rw [exprEvents, exprSites, noted_node]
      exact exprSites_noted object around
  | .tagged mark tag parts, around => by
      rw [exprEvents, exprSites, noted_node, (exprEvents_bracketed tag).noted_append,
        List.flatMap_append, exprSites_noted tag, partsSites_noted parts]
  | .array mark elements, around => by
      rw [exprEvents, exprSites, noted_node]
      exact exprsSites_noted elements around
  | .bigInteger mark digits, around => by
      rw [exprEvents, exprSites]
      rfl
  | .boolean mark truth, around => by
      rw [exprEvents, exprSites]
      rfl
  | .null mark, around => by
      rw [exprEvents, exprSites]
      rfl
  | .number mark number, around => by
      rw [exprEvents, exprSites]
      rfl
  | .object mark members, around => by
      rw [exprEvents, exprSites, noted_node]
      exact membersSites_noted members around
  | .regex mark pattern, around => by
      rw [exprEvents, exprSites]
      rfl
  | .string mark text, around => by
      rw [exprEvents, exprSites]
      rfl
  | .template mark parts, around => by
      rw [exprEvents, exprSites, noted_node]
      exact partsSites_noted parts around

private theorem exprsSites_noted : ∀ (values : List Expr) (around : List Nesting),
    noted (openScopes around) (exprsEvents values) = (exprsSites around values).flatMap Site.noted
  | [], around => by
      rw [exprsEvents, exprsSites]
      rfl
  | first :: rest, around => by
      rw [exprsEvents, exprsSites, (exprEvents_bracketed first).noted_append, List.flatMap_append,
        exprSites_noted first, exprsSites_noted rest]

private theorem optionSites_noted : ∀ (value : Option Expr) (around : List Nesting),
    noted (openScopes around) (optionEvents value) = (optionSites around value).flatMap Site.noted
  | none, around => by
      rw [optionEvents, optionSites]
      rfl
  | some value, around => by
      rw [optionEvents, optionSites]
      exact exprSites_noted value around

private theorem membersSites_noted : ∀ (members : List (String × Expr)) (around : List Nesting),
    noted (openScopes around) (membersEvents members) =
      (membersSites around members).flatMap Site.noted
  | [], around => by
      rw [membersEvents, membersSites]
      rfl
  | (_, value) :: rest, around => by
      rw [membersEvents, membersSites, (exprEvents_bracketed value).noted_append,
        List.flatMap_append, exprSites_noted value, membersSites_noted rest]

private theorem partSites_noted : ∀ (part : TemplatePart) (around : List Nesting),
    noted (openScopes around) (partEvents part) = (partSites around part).flatMap Site.noted
  | .chunk text, around => by
      rw [partEvents, partSites]
      rfl
  | .substitution value, around => by
      rw [partEvents, partSites]
      exact exprSites_noted value around

private theorem partsSites_noted : ∀ (parts : List TemplatePart) (around : List Nesting),
    noted (openScopes around) (partsEvents parts) = (partsSites around parts).flatMap Site.noted
  | [], around => by
      rw [partsEvents, partsSites]
      rfl
  | first :: rest, around => by
      rw [partsEvents, partsSites, (partEvents_bracketed first).noted_append, List.flatMap_append,
        partSites_noted first, partsSites_noted rest]

private theorem argumentsSites_noted : ∀ (arguments : List Argument) (around : List Nesting),
    noted (openScopes around) (argumentsEvents arguments) =
      (argumentsSites around arguments).flatMap Site.noted
  | [], around => by
      rw [argumentsEvents, argumentsSites]
      rfl
  | ⟨mark, spread, value⟩ :: rest, around => by
      rw [argumentsEvents, argumentsSites, noted_node, (exprEvents_bracketed value).noted_append,
        List.flatMap_append, exprSites_noted value, argumentsSites_noted rest]

private theorem functionSites_noted : ∀ (function : Function) (around : List Nesting),
    noted (openScopes around) (functionEvents function) =
      (functionSites around function).flatMap Site.noted
  | ⟨mark, arrow, async, generator, parameters, body⟩, around => by
      rw [functionEvents, functionSites, noted_node, noted_enter, functionKind_isClosure]
      have bound := parametersSites_noted parameters (.function mark.id :: around)
      have inside := bodySites_noted body (.function mark.id :: around)
      have declares := parameterEvents_declare ⟨mark, arrow, async, generator, parameters, body⟩
      rw [List.append_assoc, List.append_assoc, noted_append, noted_declares declares,
        openAfter_declares declares, (parametersEvents_bracketed parameters).noted_append,
        (bodyEvents_bracketed body).noted_append, noted_leave, noted_nil, List.append_nil]
      rw [List.flatMap_cons, List.flatMap_append, ← bound, ← inside]
      rfl

private theorem parametersSites_noted : ∀ (parameters : List Parameter) (around : List Nesting),
    noted (openScopes around) (parametersEvents parameters) =
      (parametersSites around parameters).flatMap Site.noted
  | [], around => by
      rw [parametersEvents, parametersSites]
      rfl
  | ⟨mark, rest, pattern, default⟩ :: parameters, around => by
      rw [parametersEvents, parametersSites, noted_node, List.append_assoc, List.append_assoc,
        (patternEvents_bracketed pattern).noted_append,
        (optionEvents_bracketed default).noted_append, List.flatMap_append, List.flatMap_append,
        patternSites_noted pattern, optionSites_noted default, parametersSites_noted parameters]

private theorem bodySites_noted : ∀ (body : FunctionBody) (around : List Nesting),
    noted (openScopes around) (bodyEvents body) = (bodySites around body).flatMap Site.noted
  | .statements body, around => by
      rw [bodyEvents, bodySites]
      exact stmtsSites_noted body around
  | .expression value, around => by
      rw [bodyEvents, bodySites]
      exact exprSites_noted value around

private theorem patternSites_noted : ∀ (pattern : Pattern) (around : List Nesting),
    noted (openScopes around) (patternEvents pattern) =
      (patternSites around pattern).flatMap Site.noted
  | .name binding, around => by
      rw [patternEvents, patternSites]
      rfl
  | .array mark elements rest, around => by
      rw [patternEvents, patternSites, noted_node, (elementsEvents_bracketed elements).noted_append,
        List.flatMap_append, elementsSites_noted elements, restSites_noted rest]
  | .object mark properties rest, around => by
      rw [patternEvents, patternSites, noted_node,
        (propertiesEvents_bracketed properties).noted_append, List.flatMap_append,
        propertiesSites_noted properties, restSites_noted rest]

private theorem restSites_noted : ∀ (pattern : Option Pattern) (around : List Nesting),
    noted (openScopes around) (restEvents pattern) = (restSites around pattern).flatMap Site.noted
  | none, around => by
      rw [restEvents, restSites]
      rfl
  | some pattern, around => by
      rw [restEvents, restSites]
      exact patternSites_noted pattern around

private theorem elementsSites_noted :
    ∀ (elements : List (Option PatternElement)) (around : List Nesting),
    noted (openScopes around) (elementsEvents elements) =
      (elementsSites around elements).flatMap Site.noted
  | [], around => by
      rw [elementsEvents, elementsSites]
      rfl
  | none :: rest, around => by
      rw [elementsEvents, elementsSites]
      exact elementsSites_noted rest around
  | some ⟨target, default⟩ :: rest, around => by
      rw [elementsEvents, elementsSites, List.append_assoc, List.append_assoc,
        (patternEvents_bracketed target).noted_append,
          (optionEvents_bracketed default).noted_append,
        List.flatMap_append, List.flatMap_append, patternSites_noted target,
        optionSites_noted default, elementsSites_noted rest]

private theorem propertiesSites_noted :
    ∀ (properties : List PatternProperty) (around : List Nesting),
    noted (openScopes around) (propertiesEvents properties) =
      (propertiesSites around properties).flatMap Site.noted
  | [], around => by
      rw [propertiesEvents, propertiesSites]
      rfl
  | ⟨mark, key, target, default⟩ :: rest, around => by
      rw [propertiesEvents, propertiesSites, noted_node, List.append_assoc, List.append_assoc,
        (patternEvents_bracketed target).noted_append,
          (optionEvents_bracketed default).noted_append,
        List.flatMap_append, List.flatMap_append, patternSites_noted target,
        optionSites_noted default, propertiesSites_noted rest]

private theorem stmtSites_noted : ∀ (statement : Stmt) (around : List Nesting),
    noted (openScopes around) (stmtEvents statement) =
      (stmtSites around statement).flatMap Site.noted
  | .block block, around => by
      rw [stmtEvents, stmtSites]
      exact blockSites_noted block around
  | .empty mark, around => by
      rw [stmtEvents, stmtSites]
      rfl
  | .exportDefault mark value, around => by
      rw [stmtEvents, stmtSites, noted_node]
      exact exprSites_noted value around
  | .exportList exports, around => by
      rw [stmtEvents, stmtSites, noted_node, noted_nodes fun _ => mem_exportNodes]
      rfl
  | .expression mark value, around => by
      rw [stmtEvents, stmtSites, noted_node]
      exact exprSites_noted value around
  | .function ⟨mark, exported, exportedAsDefault, name, function⟩, around => by
      have declares : ∀ event ∈ functionNameEvents name function, event.isDeclare = true :=
        fun _ => mem_functionNameEvents
      rw [stmtEvents, stmtSites, noted_node, List.append_assoc, noted_append,
        noted_declares declares, openAfter_declares declares,
        (bindingNode_bracketed name).noted_append, noted_nodes fun _ => mem_bindingNode,
        List.nil_append, functionSites_noted function, List.flatMap_cons]
      rfl
  | .conditional mark test consequent alternate, around => by
      rw [stmtEvents, stmtSites, noted_node, List.append_assoc, List.append_assoc,
        (exprEvents_bracketed test).noted_append, (stmtEvents_bracketed consequent).noted_append,
        List.flatMap_append, List.flatMap_append, exprSites_noted test, stmtSites_noted consequent,
        alternateSites_noted alternate]
  | .imports declaration, around => by
      have declares : ∀ event ∈ importEvents declaration, event.isDeclare = true :=
        fun _ => mem_importEvents
      rw [stmtEvents, stmtSites, noted_node, noted_append, noted_declares declares,
        noted_nodes fun _ => mem_importNodes, List.flatMap_singleton, List.append_nil]
      rfl
  | .returns ⟨mark, value⟩, around => by
      rw [stmtEvents, stmtSites, noted_node, noted_returns, List.flatMap_cons,
        optionSites_noted value]
      rfl
  | .switch mark test branches, around => by
      have tested := exprSites_noted test (.switchTest mark.id :: around)
      have inside := branchesSites_noted branches (.switchBranches mark.id :: around)
      rw [stmtEvents, stmtSites, noted_node, noted_enter, List.append_assoc,
        (exprEvents_bracketed test).noted_append, (branchesEvents_bracketed branches).noted_append,
        noted_leave, noted_nil, List.append_nil, List.flatMap_cons, List.flatMap_append, ← tested,
        ← inside]
      rfl
  | .attempt mark wrapped handler cleanup, around => by
      rw [stmtEvents, stmtSites, noted_node, List.append_assoc, List.append_assoc,
        (blockEvents_bracketed wrapped).noted_append,
          (handlerEvents_bracketed handler).noted_append,
        List.flatMap_append, List.flatMap_append, blockSites_noted wrapped,
        handlerSites_noted handler, cleanupSites_noted cleanup]
  | .variables ⟨mark, exported, mode, declarators, comments⟩, around => by
      have declares := declaredNames_declare ⟨mark, exported, mode, declarators, comments⟩
      rw [stmtEvents, stmtSites, noted_node, List.flatMap_cons, ←
        declaratorsSites_noted declarators]
      change _ :: noted _ (declaredNames _ ++ _) = _
      rw [noted_append, noted_declares declares, openAfter_declares declares]
      rfl
  | .loop mark condition body, around => by
      rw [stmtEvents, stmtSites, noted_node, (exprEvents_bracketed condition).noted_append,
        List.flatMap_append, exprSites_noted condition, stmtSites_noted body]

private theorem stmtsSites_noted : ∀ (body : List Stmt) (around : List Nesting),
    noted (openScopes around) (stmtsEvents body) = (stmtsSites around body).flatMap Site.noted
  | [], around => by
      rw [stmtsEvents, stmtsSites]
      rfl
  | first :: rest, around => by
      rw [stmtsEvents, stmtsSites, (stmtEvents_bracketed first).noted_append, List.flatMap_append,
        stmtSites_noted first, stmtsSites_noted rest]

private theorem alternateSites_noted : ∀ (alternate : Option Stmt) (around : List Nesting),
    noted (openScopes around) (alternateEvents alternate) =
      (alternateSites around alternate).flatMap Site.noted
  | none, around => by
      rw [alternateEvents, alternateSites]
      rfl
  | some statement, around => by
      rw [alternateEvents, alternateSites]
      exact stmtSites_noted statement around

private theorem blockSites_noted : ∀ (block : Block) (around : List Nesting),
    noted (openScopes around) (blockEvents block) = (blockSites around block).flatMap Site.noted
  | ⟨mark, body⟩, around => by
      have inside := stmtsSites_noted body (.block mark.id :: around)
      rw [blockEvents, blockSites, noted_node, noted_enter,
        (stmtsEvents_bracketed body).noted_append,
        noted_leave, noted_nil, List.append_nil, List.flatMap_cons, ← inside]
      rfl

private theorem cleanupSites_noted : ∀ (cleanup : Option Block) (around : List Nesting),
    noted (openScopes around) (cleanupEvents cleanup) =
      (cleanupSites around cleanup).flatMap Site.noted
  | none, around => by
      rw [cleanupEvents, cleanupSites]
      rfl
  | some block, around => by
      rw [cleanupEvents, cleanupSites]
      exact blockSites_noted block around

private theorem handlerSites_noted : ∀ (handler : Option CatchClause) (around : List Nesting),
    noted (openScopes around) (handlerEvents handler) =
      (handlerSites around handler).flatMap Site.noted
  | none, around => by
      rw [handlerEvents, handlerSites]
      rfl
  | some ⟨mark, parameter, body⟩, around => by
      have bound := restSites_noted parameter (.catchParameter mark.id :: around)
      have inside := stmtsSites_noted body (.catchBody mark.id :: around)
      have declares : ∀ event ∈ catchEvents parameter, event.isDeclare = true :=
        fun _ => mem_catchEvents
      rw [handlerEvents, handlerSites, noted_node, noted_enter, List.append_assoc,
        List.append_assoc, noted_append, noted_declares declares, openAfter_declares declares,
        (restEvents_bracketed parameter).noted_append, (stmtsEvents_bracketed body).noted_append,
        noted_leave, noted_nil, List.append_nil, List.flatMap_cons, List.flatMap_append, ← bound,
        ← inside]
      rfl

private theorem branchesSites_noted : ∀ (branches : List SwitchBranch) (around : List Nesting),
    noted (openScopes around) (branchesEvents branches) =
      (branchesSites around branches).flatMap Site.noted
  | [], around => by
      rw [branchesEvents, branchesSites]
      rfl
  | ⟨mark, test, body⟩ :: rest, around => by
      rw [branchesEvents, branchesSites, noted_node, List.append_assoc, List.append_assoc,
        (optionEvents_bracketed test).noted_append, (stmtsEvents_bracketed body).noted_append,
        List.flatMap_append, List.flatMap_append, optionSites_noted test, stmtsSites_noted body,
        branchesSites_noted rest]

private theorem declaratorsSites_noted : ∀ (declarators : List Declarator) (around : List Nesting),
    noted (openScopes around) (declaratorsEvents declarators) =
      (declaratorsSites around declarators).flatMap Site.noted
  | [], around => by
      rw [declaratorsEvents, declaratorsSites]
      rfl
  | ⟨pattern, initializer⟩ :: rest, around => by
      rw [declaratorsEvents, declaratorsSites, List.append_assoc, List.append_assoc,
        (patternEvents_bracketed pattern).noted_append,
        (optionEvents_bracketed initializer).noted_append, List.flatMap_append,
        List.flatMap_append, patternSites_noted pattern, optionSites_noted initializer,
        declaratorsSites_noted rest]

end

theorem programSites_noted (program : Program) :
    programNoted program = (programSites program).flatMap Site.noted :=
  stmtsSites_noted program.body []

theorem mem_programNoted {program : Program} {site : Site} (inProgram : site ∈ programSites program)
    {entry : List OpenScope × Event} (atSite : entry ∈ site.noted) :
    entry ∈ programNoted program := by
  rw [programSites_noted]
  exact List.mem_flatMap.mpr ⟨site, inProgram, atSite⟩

theorem filterMap_programNoted {Item : Type} {read : List OpenScope × Event → Option Item}
    (skips : ∀ opened target name definition, read (opened, .declare target name definition) = none)
    (program : Program) :
    (programNoted program).filterMap read =
      (programSites program).filterMap fun site => site.marker?.bind read := by
  have eachSite : (fun site : Site => site.noted.filterMap read) =
      fun site => (site.marker?.bind read).toList := funext (Site.filterMap_noted skips)
  rw [programSites_noted, List.filterMap_flatMap, eachSite, List.filterMap_eq_flatMap_toList]

end QueryTypes.Scoping
