import QueryTypes.Proofs.Typing.Verdicts

/-!
A query that fails is not seen in the generated file.

It takes no name and leaves nothing in the cache, so the run goes on as it would have without it.
All that is left of it, the calls to the language apart, is its error, at its place among the errors
of its module.
-/

set_option autoImplicit false

namespace QueryTypes.Typing

open QueryTypes.Query
open QueryTypes.Resolution

/-! ### Runs that differ in a few inputs -/

section Exchange

variable {State Input Output : Type} {step : State → Input → Output × State}
  {alike : State → State → Prop}

private theorem threaded_append (step : State → Input → Output × State) (state : State)
    (first second : List Input) :
    threaded step state (first ++ second) =
      ((threaded step state first).1 ++ (threaded step (threaded step state first).2 second).1,
        (threaded step (threaded step state first).2 second).2) := by
  induction first generalizing state with
  | nil => rfl
  | cons input rest ih =>
      rw [List.cons_append, threaded, threaded]
      dsimp only
      rw [ih, List.cons_append]

def Blind (step : State → Input → Output × State) (alike : State → State → Prop) : Prop :=
  ∀ first second input, alike first second →
    (step first input).1 = (step second input).1 ∧ alike (step first input).2 (step second input).2

theorem Blind.run (blind : Blind step alike) : Blind (threaded step) alike := by
  intro first second inputs same
  induction inputs generalizing first second with
  | nil => exact ⟨rfl, same⟩
  | cons input rest ih =>
      obtain ⟨output, next⟩ := blind first second input same
      obtain ⟨outputs, last⟩ := ih _ _ next
      exact ⟨List.cons_eq_cons.mpr ⟨output, outputs⟩, last⟩

/-- Where other inputs lead to a state that is alike, all later outputs stay the same. -/
theorem Blind.exchange (blind : Blind step alike) (state : State)
    (before taken given after : List Input)
    (same : alike (threaded step (threaded step state before).2 taken).2
      (threaded step (threaded step state before).2 given).2) :
    ∃ others,
      (threaded step state (before ++ (taken ++ after))).1 =
          (threaded step state before).1 ++
            ((threaded step (threaded step state before).2 taken).1 ++ others) ∧
        (threaded step state (before ++ (given ++ after))).1 =
          (threaded step state before).1 ++
            ((threaded step (threaded step state before).2 given).1 ++ others) ∧
        alike (threaded step state (before ++ (taken ++ after))).2
          (threaded step state (before ++ (given ++ after))).2 := by
  obtain ⟨outputs, last⟩ := blind.run _ _ after same
  refine ⟨(threaded step (threaded step (threaded step state before).2 taken).2 after).1, ?_⟩
  simp only [threaded_append]
  exact ⟨trivial, by rw [outputs], last⟩

/-- An input that leaves the state as it is, as far as steps can tell, may be left out. -/
theorem Blind.leaveOut (blind : Blind step alike) (state : State) (before : List Input)
    (idle : Input) (after : List Input)
    (same : alike (step (threaded step state before).2 idle).2 (threaded step state before).2) :
    ∃ first last,
      (threaded step state (before ++ idle :: after)).1 =
          first ++ (step (threaded step state before).2 idle).1 :: last ∧
        (threaded step state (before ++ after)).1 = first ++ last ∧
        alike (threaded step state (before ++ idle :: after)).2
          (threaded step state (before ++ after)).2 := by
  obtain ⟨last, full, less, alike⟩ := blind.exchange state before [idle] [] after same
  exact ⟨_, last, full, less, alike⟩

end Exchange

variable {Ast : Type} {types : SchemaTypes} {language : Query.Language Ast}

/-! ### What a step takes from the steps before it -/

def Progress.Alike (first second : Progress Ast) : Prop :=
  first.taken = second.taken ∧ first.cache = second.cache

private theorem queryStep_blind (types : SchemaTypes) (language : Query.Language Ast)
    (path : String) :
    Blind (queryStep types language path) Progress.Alike := by
  rintro ⟨taken, cache, calls⟩ ⟨_, _, others⟩ extracted ⟨rfl, rfl⟩
  unfold queryStep
  dsimp only
  split <;> exact ⟨rfl, rfl, rfl⟩

private theorem projectionStep_blind (types : SchemaTypes) (language : Query.Language Ast)
    (path : String) :
    Blind (projectionStep types language path) Progress.Alike := by
  rintro ⟨taken, cache, calls⟩ ⟨_, _, others⟩ extracted ⟨rfl, rfl⟩
  unfold projectionStep
  dsimp only
  split <;> exact ⟨rfl, rfl, rfl⟩

private theorem moduleStep_blind (types : SchemaTypes) (language : Query.Language Ast) :
    Blind (moduleStep types language) Progress.Alike := by
  intro first second module same
  obtain ⟨queries, between⟩ :=
    (queryStep_blind types language module.path).run first second module.queries same
  obtain ⟨projections, last⟩ :=
    (projectionStep_blind types language module.path).run _ _ module.projections between
  unfold moduleStep
  dsimp only
  rw [queries, projections]
  exact ⟨rfl, last⟩

private theorem queryStep_of_error (path : String) {progress : Progress Ast}
    {extracted : ExtractedQuery}
    {cause : QueryError}
    (fails : (types.evaluateQuery language progress.cache extracted.query).1.result =
      .error cause) :
    (queryStep types language path progress extracted).1 =
        .failed ⟨extracted.declared, path, cause⟩ ∧
      (queryStep types language path progress extracted).2.Alike progress := by
  have cache := SchemaTypes.evaluateQuery_cache_of_error fails
  unfold queryStep
  dsimp only
  rw [fails]
  exact ⟨rfl, rfl, cache⟩

private theorem projectionStep_of_error (path : String) (progress : Progress Ast)
    {extracted : ExtractedProjection} {cause : QueryError}
    (fails : (types.evaluateProjection language extracted.projection).result = .error cause) :
    (projectionStep types language path progress extracted).1 =
        .failed ⟨extracted.declared, path, cause⟩ ∧
      (projectionStep types language path progress extracted).2.Alike progress := by
  unfold projectionStep
  dsimp only
  rw [fails]
  exact ⟨rfl, rfl, rfl⟩

/-! ### Modules without a query that fails -/

/-- The second module is the first one without a query or projection that fails, and this is what it
fails with. -/
inductive WithoutFailed (types : SchemaTypes) (language : Query.Language Ast) (cache : QueryCache) :
    ExtractedModule → ExtractedModule → EvaluationError → Prop where
  | query {path : String} {before after : List ExtractedQuery} {failed : ExtractedQuery}
      {projections : List ExtractedProjection} {errors : List ExtractionError} {cause : QueryError}
      (fails : (types.evaluateQuery language cache failed.query).1.result = .error cause) :
      WithoutFailed types language cache ⟨path, before ++ failed :: after, projections, errors⟩
        ⟨path, before ++ after, projections, errors⟩ ⟨failed.declared, path, cause⟩
  | projection {path : String} {queries : List ExtractedQuery}
      {before after : List ExtractedProjection} {failed : ExtractedProjection}
      {errors : List ExtractionError} {cause : QueryError}
      (fails : (types.evaluateProjection language failed.projection).result = .error cause) :
      WithoutFailed types language cache ⟨path, queries, before ++ failed :: after, errors⟩
        ⟨path, queries, before ++ after, errors⟩ ⟨failed.declared, path, cause⟩

def LacksError (full shorter : EvaluatedModule) (error : EvaluationError) : Prop :=
  ∃ before after, full.errors = before ++ .evaluation error :: after ∧
    shorter = { full with errors := before ++ after }

private theorem EvaluatedModule.ofVerdicts_lacksError_query (path : String)
    (errors : List ExtractionError) (first last : List (Verdict EvaluatedQuery))
    (error : EvaluationError) (projections : List (Verdict EvaluatedProjection)) :
    LacksError (ofVerdicts path errors (first ++ .failed error :: last) projections)
      (ofVerdicts path errors (first ++ last) projections) error := by
  refine ⟨errors.map .extraction ++ (first.filterMap Verdict.error?).map .evaluation,
    (last.filterMap Verdict.error? ++ projections.filterMap Verdict.error?).map .evaluation, ?_, ?_⟩
  · simp [ofVerdicts, List.filterMap_cons, Verdict.error?]
  · simp [ofVerdicts, List.filterMap_cons, Verdict.typed?, Verdict.error?]

private theorem EvaluatedModule.ofVerdicts_lacksError_projection (path : String)
    (errors : List ExtractionError) (queries : List (Verdict EvaluatedQuery))
    (first last : List (Verdict EvaluatedProjection)) (error : EvaluationError) :
    LacksError (ofVerdicts path errors queries (first ++ .failed error :: last))
      (ofVerdicts path errors queries (first ++ last)) error := by
  refine ⟨errors.map .extraction ++
      (queries.filterMap Verdict.error? ++ first.filterMap Verdict.error?).map .evaluation,
    (last.filterMap Verdict.error?).map .evaluation, ?_, ?_⟩
  · simp [ofVerdicts, List.filterMap_cons, Verdict.error?]
  · simp [ofVerdicts, List.filterMap_cons, Verdict.typed?, Verdict.error?]

private theorem moduleStep_eq_ofVerdicts (progress : Progress Ast) (module : ExtractedModule) :
    (moduleStep types language progress module).1 =
      .ofVerdicts module.path module.errors
        (threaded (queryStep types language module.path) progress module.queries).1
        (threaded (projectionStep types language module.path)
          (threaded (queryStep types language module.path) progress module.queries).2
          module.projections).1 := rfl

/-- In any state that a run can come to, only the error tells the two modules apart. -/
theorem WithoutFailed.lacksError {cache : QueryCache} {module shorter : ExtractedModule}
    {error : EvaluationError} (without : WithoutFailed types language cache module shorter error)
    {progress : Progress Ast} (answers : progress.Answers types language cache) :
    LacksError (moduleStep types language progress module).1
        (moduleStep types language progress shorter).1 error ∧
      (moduleStep types language progress module).2.Alike
        (moduleStep types language progress shorter).2 := by
  rw [moduleStep_eq_ofVerdicts, moduleStep_eq_ofVerdicts]
  cases without with
  | @query path before after failed projections errors cause fails =>
      -- The cache of a run answers as the one at the start, so the query fails in the run too.
      have answered := (threaded_forall₂ (queryStep_verdict path) answers before).1
      obtain ⟨output, idle⟩ :=
        queryStep_of_error path ((answered failed.query).trans fails)
      obtain ⟨first, last, full, less, between⟩ :=
        (queryStep_blind types language path).leaveOut progress before failed after idle
      obtain ⟨same, ends⟩ :=
        (projectionStep_blind types language path).run _ _ projections between
      refine ⟨?_, ends⟩
      dsimp only
      rw [full, less, output, same]
      exact EvaluatedModule.ofVerdicts_lacksError_query _ _ _ _ _ _
  | @projection path queries before after failed errors cause fails =>
      obtain ⟨output, idle⟩ :=
        projectionStep_of_error path (threaded (projectionStep types language path)
          (threaded (queryStep types language path) progress queries).2 before).2 fails
      obtain ⟨first, last, full, less, ends⟩ :=
        (projectionStep_blind types language path).leaveOut _ before failed after idle
      refine ⟨?_, ends⟩
      dsimp only
      rw [full, less, output]
      exact EvaluatedModule.ofVerdicts_lacksError_projection _ _ _ _ _ _

/-! ### The whole file -/

private theorem fileDeclarations_lacksError (types : SchemaTypes) (options : Options)
    {first last : List EvaluatedModule} {full shorter : EvaluatedModule}
    {error : EvaluationError} (lacks : LacksError full shorter error) :
    fileDeclarations types options (first ++ shorter :: last) =
      fileDeclarations types options (first ++ full :: last) := by
  obtain ⟨before, after, _, rfl⟩ := lacks
  unfold fileDeclarations queryMapDeclarations projectionMapDeclaration
  simp only [List.flatMap_append, List.flatMap_cons, List.any_append, List.any_cons]
  rfl

/-- A query or projection that fails changes nothing but its own error. Without it the declarations,
the code and all results are the same, and its module has the same errors without the one that was
recorded for it. The errors of a module are those of extraction, of queries and of projections, in
this order, each as they come in the module. -/
theorem generate_without_failed (types : SchemaTypes) (language : Query.Language Ast)
    (options : Options) (cache : QueryCache) (earlier later : List ExtractedModule)
    {module shorter : ExtractedModule} {error : EvaluationError}
    (without : WithoutFailed types language cache module shorter error) :
    let full := generate types language options cache (earlier ++ module :: later)
    let less := generate types language options cache (earlier ++ shorter :: later)
    less.declarations = full.declarations ∧ less.code = full.code ∧
      full.modules.map (·.errors) =
        (earlier ++ module :: later).map (types.errorsOf language cache) ∧
      ∃ first last fullModule lessModule,
        first.length = earlier.length ∧
          full.modules = first ++ fullModule :: last ∧
          less.modules = first ++ lessModule :: last ∧
          LacksError fullModule lessModule error := by
  intro full less
  let start : Progress Ast := ⟨types.all.map (·.identifier), cache, []⟩
  have answers : start.Answers types language cache := fun _ => rfl
  have reached := (threaded_forall₂ moduleStep_accounted answers earlier).1
  obtain ⟨lacks, alike⟩ := without.lacksError reached
  obtain ⟨last, fullModules, lessModules, _⟩ := (moduleStep_blind types language).exchange start
    earlier [module] [shorter] later alike
  have same : less.declarations = full.declarations := by
    change fileDeclarations types options less.modules =
      fileDeclarations types options full.modules
    rw [show full.modules = _ from fullModules, show less.modules = _ from lessModules]
    exact fileDeclarations_lacksError types options lacks
  refine ⟨same, congrArg fileText same, generate_errors types language options cache _, ?_⟩
  exact ⟨_, last, _, _, threaded_length _ _ _, fullModules, lessModules, lacks⟩

/-- Three variables of one name, of which the second one holds a query that cannot be parsed, and a
projection that cannot be parsed either. -/
def exclaimingModule : ExtractedModule :=
  let origin : Source.Position := ⟨1, 0, 0⟩
  let declared : QueryVariable := ⟨"query", .nowhere, ⟨origin, origin⟩⟩
  ⟨"/page.ts", [⟨"/page.ts", declared, "*"⟩, ⟨"/page.ts", declared, "!"⟩,
    ⟨"/page.ts", declared, "*"⟩],
    [⟨"/page.ts", declared, "!"⟩], []⟩

def calmModule : ExtractedModule :=
  { exclaimingModule with queries := exclaimingModule.queries.eraseIdx 1 }

theorem failed_query_takes_no_name :
    let full := generate postTypes exclaimingLanguage .standard [] [calmModule, exclaimingModule]
    let less := generate postTypes exclaimingLanguage .standard [] [calmModule, calmModule]
    less.declarations = full.declarations ∧
      (full.modules.map fun module => module.queries.map (·.id)) =
        [["QueryResult", "QueryResult_2"], ["QueryResult_3", "QueryResult_4"]] ∧
      full.modules.map (fun module => module.errors.length) = [1, 2] := by
  have fails : (postTypes.evaluateQuery exclaimingLanguage [] "!").1.result =
      .error (.parse "no query") := rfl
  have without : WithoutFailed postTypes exclaimingLanguage [] exclaimingModule calmModule _ :=
    @WithoutFailed.query _ _ _ _ "/page.ts" (exclaimingModule.queries.take 1)
      (exclaimingModule.queries.drop 2) _ exclaimingModule.projections [] _ fails
  exact ⟨(generate_without_failed postTypes exclaimingLanguage .standard [] [calmModule] []
    without).1, by decide +kernel, by decide +kernel⟩

end QueryTypes.Typing
