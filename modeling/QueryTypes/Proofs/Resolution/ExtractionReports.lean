import QueryTypes.Proofs.Resolution.Sessions
import QueryTypes.Proofs.Resolution.WrapperCalls
import QueryTypes.Proofs.Scoping.Declaring
import QueryTypes.Proofs.Scoping.Origins

/-!
What extraction reports about each declarator of a module.

The declarations of a program are told by its phrases, in source order. A declarator is passed over
or adds one entry, to the queries or to the errors, and the entry is what its initializer comes to
in a session of its own. Nothing else is reported.
-/

set_option autoImplicit false

namespace QueryTypes.Scoping

open QueryTypes.Script

def Phrase.declaration? : Phrase → Option VariableDeclaration
  | .stmt (.variables declaration) => some declaration
  | _ => none

def declarations (program : Program) : List VariableDeclaration :=
  (programPhrases program).filterMap Phrase.declaration?

def declarators (program : Program) : List (VariableDeclaration × Declarator) :=
  (declarations program).flatMap fun declaration =>
    declaration.declarators.map fun declarator => (declaration, declarator)

def Event.declaration? : Event → Option VariableDeclaration
  | .variables declaration => some declaration
  | _ => none

/-- A declaration is met where the walk comes to its phrase, and only there. -/
theorem Phrase.filterMap_opening (phrase : Phrase) :
    phrase.opening.filterMap Event.declaration? = phrase.declaration?.toList := by
  cases found : phrase.declaration? with
  | none =>
      refine List.filterMap_eq_nil_iff.mpr fun event opens => ?_
      cases event with
      | «variables» declaration =>
          obtain rfl : phrase = .stmt (.variables declaration) := meets_of_opening opens
          cases found
      | _ => rfl
  | some declaration =>
      obtain rfl : phrase = .stmt (.variables declaration) := by
        unfold declaration? at found
        split at found
        · cases found
          rfl
        · cases found
      have names : (declaredNames declaration).filterMap Event.declaration? = [] := by
        refine List.filterMap_eq_nil_iff.mpr fun event declared => ?_
        obtain ⟨_, _, rfl⟩ := mem_declaredNames declared
        rfl
      have met : (stmt (.variables declaration)).opening =
          .node declaration.mark :: .variables declaration :: declaredNames declaration := rfl
      rw [met, List.filterMap_cons_none rfl]
      exact congrArg (declaration :: ·) names

section Programs

variable {program : Program}

private theorem filterMap_programEvents (program : Program) :
    (programEvents program).filterMap Event.declaration? = declarations program := by
  have own (phrase : Phrase) : phrase.events.filterMap Event.declaration? =
      phrase.preorder.filterMap Phrase.declaration? :=
    Phrase.filterMap_events Phrase.filterMap_opening rfl phrase
  rw [programEvents_eq, List.filterMap_cons_none rfl, List.filterMap_flatMap, declarations,
    programPhrases, List.filterMap_flatMap, List.flatMap_map]
  exact List.flatMap_congr fun statement _ => own _

private theorem mem_declarations {declaration : VariableDeclaration} :
    declaration ∈ declarations program ↔ .variables declaration ∈ programEvents program := by
  rw [← filterMap_programEvents, List.mem_filterMap]
  constructor
  · rintro ⟨event, present, read⟩
    cases event with
    | «variables» found =>
        cases read
        exact present
    | _ => cases read
  · exact fun present => ⟨_, present, rfl⟩

/-- The declarations that are met are some of what has its scope noted. -/
theorem declarations_sublist_located (events : List Event) :
    ((events.filterMap Event.declaration?).map (·.mark.id)).Sublist (located events) := by
  induction events with
  | nil => exact .slnil
  | cons event rest ih =>
      cases event with
      | «variables» declaration => exact .cons_cons _ ih
      | refer id name => exact .cons _ ih
      | returns id => exact .cons _ ih
      | node mark => exact ih
      | enter kind creator => exact ih
      | leave => exact ih
      | declare target name definition => exact ih

/-- No declaration comes twice. -/
theorem UniqueNodes.declarations (unique : UniqueNodes program) :
    ((declarations program).map (·.mark.id)).Nodup := by
  rw [← filterMap_programEvents]
  exact ((declarations_sublist_located _).trans (located_sublist_claimed _)).nodup unique.claimed

end Programs

end QueryTypes.Scoping

namespace QueryTypes.Resolution

open QueryTypes.Script
open QueryTypes.Source
open QueryTypes.Scoping
open QueryTypes.Modules

/-! ### Declarators that count -/

/-- A template with a listed tag, or a call of something that is named like a listed wrapper. -/
inductive QueryShaped (options : Options) : Expr → Prop
  | tagged {mark tagMark : Mark} {name : String} {parts : List TemplatePart}
      (listed : name ∈ options.tags) :
      QueryShaped options (.tagged mark (.identifier tagMark name) parts)
  | named {mark calleeMark : Mark} {optional : Bool} {name : String} {arguments : List Argument}
      (listed : name ∈ options.wrappers) :
      QueryShaped options (.call mark optional (.identifier calleeMark name) arguments)
  | member {mark calleeMark : Mark} {optional chained : Bool} {object : Expr} {property : String}
      {arguments : List Argument} (listed : property ∈ options.wrappers) :
      QueryShaped options
        (.call mark optional (.member calleeMark chained object property) arguments)

/-- A declarator of a plain name that is initialized with what may be a query, where no comment
before the declaration contains the marker. -/
structure Counts (options : Options) (declaration : VariableDeclaration) (declarator : Declarator) :
    Prop where
  heeded : ∀ comment ∈ declaration.comments,
    ¬ options.ignoreMarker.toList <:+: comment.toList
  initialized : ∃ binding value, declarator = ⟨.name binding, some value⟩ ∧
    QueryShaped options value

/-- What becomes of declarators, one after another. Those that do not count are passed over; each
other one is resolved in a session of its own, by the next clock, in the scope that is noted for its
declaration, and adds either a query or an error. -/
inductive Reports (context : Context) (module : Module) :
    (clocks : Nat → Clock) → List (VariableDeclaration × Declarator) → List ExtractedQuery →
      List ExtractionError → Prop
  | nil {clocks : Nat → Clock} : Reports context module clocks [] [] []
  | passed {clocks : Nat → Clock} {declaration : VariableDeclaration} {declarator : Declarator}
      {rest : List (VariableDeclaration × Declarator)} {queries : List ExtractedQuery}
      {errors : List ExtractionError}
      (without : ¬ Counts context.options declaration declarator)
      (others : Reports context module clocks rest queries errors) :
      Reports context module clocks ((declaration, declarator) :: rest) queries errors
  | query {clocks : Nat → Clock} {declaration : VariableDeclaration} {binding : Binding}
      {value : Expr} {scope : ScopeId} {text : String}
      {rest : List (VariableDeclaration × Declarator)} {queries : List ExtractedQuery}
      {errors : List ExtractionError}
      (counts : Counts context.options declaration ⟨.name binding, some value⟩)
      (noted : module.scopes.enclosing? declaration.mark.id = some scope)
      (resolved : ((Session.start { context with clock := clocks 0 }).serve
        ⟨value, module, scope⟩).1 = .ok text)
      (others : Reports context module (fun number => clocks (number + 1)) rest queries errors) :
      Reports context module clocks ((declaration, ⟨.name binding, some value⟩) :: rest)
        (⟨module.path, variableOf module binding, text⟩ :: queries) errors
  | error {clocks : Nat → Clock} {declaration : VariableDeclaration} {binding : Binding}
      {value : Expr} {scope : ScopeId} {failure : Failure}
      {rest : List (VariableDeclaration × Declarator)} {queries : List ExtractedQuery}
      {errors : List ExtractionError}
      (counts : Counts context.options declaration ⟨.name binding, some value⟩)
      (noted : module.scopes.enclosing? declaration.mark.id = some scope)
      (resolved : ((Session.start { context with clock := clocks 0 }).serve
        ⟨value, module, scope⟩).1 = .error failure)
      (others : Reports context module (fun number => clocks (number + 1)) rest queries errors) :
      Reports context module clocks ((declaration, ⟨.name binding, some value⟩) :: rest) queries
        (⟨variableOf module binding, module.path, failure⟩ :: errors)

private theorem looksLikeQuery_iff {options : Options} {value : Expr} :
    looksLikeQuery options value = true ↔ QueryShaped options value := by
  constructor
  · intro looks
    unfold looksLikeQuery at looks
    split at looks
    · exact .tagged (List.contains_iff_mem.mp looks)
    · exact .named (List.contains_iff_mem.mp looks)
    · exact .member (List.contains_iff_mem.mp looks)
    · cases looks
  · intro shaped
    cases shaped with
    | tagged listed => exact List.contains_iff_mem.mpr listed
    | named listed => exact List.contains_iff_mem.mpr listed
    | member listed => exact List.contains_iff_mem.mpr listed

private theorem isInside_iff {part whole : List Char} :
    isInside part whole = true ↔ part <:+: whole := by
  induction whole with
  | nil => rw [isInside, List.isEmpty_iff, List.infix_nil]
  | cons first rest ih =>
      rw [isInside, Bool.or_eq_true, List.isPrefixOf_iff_prefix, ih, List.infix_cons_iff]

private theorem isIgnored_eq_false_iff {options : Options} {declaration : VariableDeclaration} :
    isIgnored options declaration = false ↔
      ∀ comment ∈ declaration.comments, ¬ options.ignoreMarker.toList <:+: comment.toList := by
  unfold isIgnored
  simp only [List.any_eq_false, isInside_iff]

section Candidates

variable {options : Options} {module : Module}

def candidateOf? (options : Options) (module : Module) :
    VariableDeclaration × Declarator → Option Candidate
  | (declaration, declarator) =>
      if isIgnored options declaration then none
      else candidate? options module declaration declarator

private theorem declarationCandidates_eq (declaration : VariableDeclaration) :
    declarationCandidates options module declaration =
      (declaration.declarators.map fun declarator => (declaration, declarator)).filterMap
        (candidateOf? options module) := by
  rw [List.filterMap_map]
  unfold declarationCandidates
  cases ignored : isIgnored options declaration with
  | true =>
      rw [if_pos rfl]
      refine (List.filterMap_eq_nil_iff.mpr fun declarator _ => ?_).symm
      exact if_pos ignored
  | false =>
      rw [if_neg Bool.false_ne_true]
      refine List.filterMap_congr fun declarator _ => ?_
      exact (if_neg (by rw [ignored]; exact Bool.false_ne_true)).symm

private theorem candidates_eq :
    candidates options module =
      (declarators module.program).filterMap (candidateOf? options module) := by
  have single (event : Event) :
      (match event with
        | .variables declaration => declarationCandidates options module declaration
        | _ => []) =
      event.declaration?.toList.flatMap (declarationCandidates options module) := by
    cases event with
    | «variables» declaration => exact (List.flatMap_singleton _ _).symm
    | _ => rfl
  calc candidates options module
      = (programEvents module.program).flatMap fun event =>
          event.declaration?.toList.flatMap (declarationCandidates options module) :=
        List.flatMap_congr fun event _ => single event
    _ = ((programEvents module.program).filterMap Event.declaration?).flatMap
          (declarationCandidates options module) := by
        rw [List.filterMap_eq_flatMap_toList, List.flatMap_assoc]
    _ = (declarators module.program).filterMap (candidateOf? options module) := by
        rw [filterMap_programEvents, declarators, List.filterMap_flatMap]
        exact List.flatMap_congr fun declaration _ => declarationCandidates_eq declaration

private theorem candidateOf?_eq_none {declaration : VariableDeclaration} {declarator : Declarator}
    (passed : candidateOf? options module (declaration, declarator) = none) :
    ¬ Counts options declaration declarator := by
  rintro ⟨heeded, binding, value, rfl, shaped⟩
  have kept := isIgnored_eq_false_iff.mpr heeded
  have looks := looksLikeQuery_iff.mpr shaped
  simp [candidateOf?, candidate?, kept, looks] at passed

private theorem candidateOf?_eq_some {declaration : VariableDeclaration} {declarator : Declarator}
    {candidate : Candidate}
    (made : candidateOf? options module (declaration, declarator) = some candidate) :
    ∃ binding value, declarator = ⟨.name binding, some value⟩ ∧
      Counts options declaration declarator ∧
        candidate = ⟨declaration, variableOf module binding, value⟩ := by
  cases ignored : isIgnored options declaration with
  | true => simp [candidateOf?, ignored] at made
  | false =>
    simp only [candidateOf?, ignored, Bool.false_eq_true, if_false] at made
    unfold candidate? at made
    split at made
    · rename_i binding value
      split at made
      · rename_i looks
        cases made
        refine ⟨binding, value, rfl, ⟨?_, binding, value, rfl, looksLikeQuery_iff.mp looks⟩, rfl⟩
        exact isIgnored_eq_false_iff.mp ignored
      · cases made
    · cases made

end Candidates

/-! ### Reports -/

section Reporting

variable {module : Module}

private theorem exists_enclosing {declaration : VariableDeclaration}
    (bound : module.scopes = bind module.program)
    (present : declaration ∈ declarations module.program) :
    ∃ scope, module.scopes.enclosing? declaration.mark.id = some scope := by
  obtain ⟨scope, noted, _⟩ := placed_of_declaration (mem_declarations.mp present)
  rw [bound]
  exact Option.isSome_iff_exists.mp
    (List.lookup_isSome_iff.mpr ⟨_, noted, beq_self_eq_true declaration.mark.id⟩)

/-- A candidate is resolved as in a session of its own. -/
theorem Candidate.resolve_eq (context : Context) (candidate : Candidate) {scope : ScopeId}
    (noted : module.scopes.enclosing? candidate.declaration.mark.id = some scope) :
    candidate.resolve context module =
      match ((Session.start context).serve ⟨candidate.initializer, module, scope⟩).1 with
      | .ok text => .ok ⟨module.path, candidate.declared, text⟩
      | .error failure => .error ⟨candidate.declared, module.path, failure⟩ := by
  unfold resolve environment
  rw [noted]
  rfl

private theorem reports_entries (context : Context) (bound : module.scopes = bind module.program)
    (clocks : Nat → Clock) (entries : List (VariableDeclaration × Declarator))
    (present : ∀ entry ∈ entries, entry.1 ∈ declarations module.program) :
    let results := (entries.filterMap (candidateOf? context.options module)).mapIdx
      fun number candidate => candidate.resolve { context with clock := clocks number } module
    Reports context module clocks entries
      (results.filterMap fun
        | .ok query => some query
        | .error _ => none)
      (results.filterMap fun
        | .ok _ => none
        | .error error => some error) := by
  induction entries generalizing clocks with
  | nil => exact .nil
  | cons entry rest ih =>
      have others (clocks : Nat → Clock) :=
        ih clocks fun other among => present other (List.mem_cons_of_mem _ among)
      obtain ⟨declaration, declarator⟩ := entry
      -- At most one candidate is made of an entry, and it has one result.
      cases made : candidateOf? context.options module (declaration, declarator) with
      | none =>
          rw [List.filterMap_cons_none made]
          exact .passed (candidateOf?_eq_none made) (others clocks)
      | some candidate =>
          rw [List.filterMap_cons_some made, List.mapIdx_cons]
          obtain ⟨binding, value, rfl, counts, rfl⟩ := candidateOf?_eq_some made
          obtain ⟨scope, noted⟩ := exists_enclosing bound (present _ List.mem_cons_self)
          have resolves := Candidate.resolve_eq { context with clock := clocks 0 }
            ⟨declaration, variableOf module binding, value⟩ noted
          cases served : ((Session.start { context with clock := clocks 0 }).serve
              ⟨value, module, scope⟩).1 with
          | ok text =>
              rw [served] at resolves
              dsimp only at resolves
              simp only [resolves]
              exact .query counts noted served (others fun number => clocks (number + 1))
          | error failure =>
              rw [served] at resolves
              dsimp only at resolves
              simp only [resolves]
              exact .error counts noted served (others fun number => clocks (number + 1))

/-- What is reported about declarators is determined. -/
theorem Reports.unique {context : Context} {clocks : Nat → Clock}
    {entries : List (VariableDeclaration × Declarator)}
    {queries otherQueries : List ExtractedQuery} {errors otherErrors : List ExtractionError}
    (reports : Reports context module clocks entries queries errors)
    (other : Reports context module clocks entries otherQueries otherErrors) :
    queries = otherQueries ∧ errors = otherErrors := by
  induction reports generalizing otherQueries otherErrors with
  | nil =>
      cases other
      exact ⟨rfl, rfl⟩
  | passed without _ ih =>
      cases other with
      | passed _ others => exact ih others
      | query counts => exact absurd counts without
      | error counts => exact absurd counts without
  | query counts noted resolved _ ih =>
      cases other with
      | passed without => exact absurd counts without
      | query _ alsoNoted alsoResolved others =>
          cases noted.symm.trans alsoNoted
          cases resolved.symm.trans alsoResolved
          obtain ⟨rfl, rfl⟩ := ih others
          exact ⟨rfl, rfl⟩
      | error _ alsoNoted alsoResolved =>
          cases noted.symm.trans alsoNoted
          cases resolved.symm.trans alsoResolved
  | error counts noted resolved _ ih =>
      cases other with
      | passed without => exact absurd counts without
      | query _ alsoNoted alsoResolved =>
          cases noted.symm.trans alsoNoted
          cases resolved.symm.trans alsoResolved
      | error _ alsoNoted alsoResolved others =>
          cases noted.symm.trans alsoNoted
          cases resolved.symm.trans alsoResolved
          obtain ⟨rfl, rfl⟩ := ih others
          exact ⟨rfl, rfl⟩

end Reporting

/-- Extraction reports the declarators of a module in source order, wherever their declarations
stand, whatever the others come to and whichever of them run out of time: each one that counts once,
as a query or as an error. -/
theorem extract_reports_in_source_order (context : Context) (clocks : Nat → Clock)
    {module : Module} (bound : module.scopes = bind module.program) :
    (∀ queries errors,
        Reports context module clocks (declarators module.program) queries errors ↔
          (extract context clocks module).queries = queries ∧
            (extract context clocks module).errors = errors) ∧
      (UniqueNodes module.program → ((declarations module.program).map (·.mark.id)).Nodup) := by
  refine ⟨fun queries errors => ?_, fun unique => unique.declarations⟩
  have reported : Reports context module clocks (declarators module.program)
      (extract context clocks module).queries (extract context clocks module).errors := by
    have entries := reports_entries context bound clocks (declarators module.program)
      fun entry among => by
        obtain ⟨declaration, present, own⟩ := List.mem_flatMap.mp among
        obtain ⟨_, _, rfl⟩ := List.mem_map.mp own
        exact present
    rw [← candidates_eq] at entries
    exact entries
  constructor
  · exact reported.unique
  · rintro ⟨rfl, rfl⟩
    exact reported

def taggedQuery (id : NodeId) (part : TemplatePart) : Expr :=
  .tagged (numbered id) (.identifier (numbered (id + 1)) "groq") [part]

/-- A declaration that is to be ignored, of a function in which a query refers to nothing, and then
`const first = groq…, plain = "*"`. -/
def markedModule : Module :=
  let inner : Stmt := .variables ⟨numbered 5, false, .constant, [⟨.name ⟨numbered 6, "inner"⟩,
    some (taggedQuery 7 (.substitution (.identifier (numbered 9) "nowhere")))⟩], []⟩
  .ofProgram "/page.ts" ⟨numbered 0, [
    .variables ⟨numbered 1, false, .constant, [⟨.name ⟨numbered 2, "load"⟩,
      some (.arrow (numbered 3) ⟨numbered 4, true, false, false, [], .statements [inner]⟩)⟩],
      [" @sanity-typegen-ignore "]⟩,
    .variables ⟨numbered 10, false, .constant, [
      ⟨.name ⟨numbered 11, "first"⟩, some (taggedQuery 12 (.chunk "*"))⟩,
      ⟨.name ⟨numbered 14, "plain"⟩, some (.string (numbered 15) "*")⟩], []⟩], ⟨[]⟩⟩

/-- What is inside of a declaration that is to be ignored is reported all the same. -/
theorem inside_of_ignored_declaration_reported :
    let context : Context := .still .empty
    Reports context markedModule (fun _ => .stopped) (declarators markedModule.program)
        [⟨"/page.ts", variableOf markedModule ⟨numbered 11, "first"⟩, "*"⟩]
        [⟨variableOf markedModule ⟨numbered 6, "inner"⟩, "/page.ts",
          .within markedModule .nowhere (.unboundIdentifier "nowhere")⟩] ∧
      (declarations markedModule.program).map (·.mark.id) = [1, 5, 10] := by
  refine ⟨((extract_reports_in_source_order _ _ rfl).1 _ _).mpr ⟨?_, ?_⟩, ?_⟩
  · decide +kernel
  · decide +kernel
  · rw [← filterMap_programEvents]
    rfl

end QueryTypes.Resolution
