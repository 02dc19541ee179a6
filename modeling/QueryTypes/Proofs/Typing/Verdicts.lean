import Mathlib.Data.List.Forall2
import QueryTypes.Proofs.Typing.QueryCaching

/-!
What becomes of each query and each projection when a file is generated.

A query is answered at its place as it would have been at the start: the cache only gains answers
that the language would give again. So what becomes of a query or projection, its name apart, does
not depend on what comes before it.
-/

set_option autoImplicit false

namespace QueryTypes.Typing

open QueryTypes.Query
open QueryTypes.Resolution

variable {Ast : Type} {types : SchemaTypes} {language : Query.Language Ast}

/-! ### Answers do not change -/

private theorem SchemaTypes.evaluateQuery_result_congr {first second : QueryCache} {text : String}
    (same : first.lookup text = second.lookup text) :
    (types.evaluateQuery language first text).1.result =
      (types.evaluateQuery language second text).1.result := by
  cases found : second.lookup text with
  | some known =>
      rw [evaluateQuery_of_some found, evaluateQuery_of_some (same.trans found)]
  | none =>
      rw [(types.evaluateQuery_of_none language found).1,
        (types.evaluateQuery_of_none language (same.trans found)).1]

def AnswersAs (types : SchemaTypes) (language : Query.Language Ast) (start cache : QueryCache) :
    Prop :=
  ∀ text, (types.evaluateQuery language cache text).1.result =
    (types.evaluateQuery language start text).1.result

theorem AnswersAs.evaluateQuery {start cache : QueryCache}
    (answers : AnswersAs types language start cache) (earlier : String) :
    AnswersAs types language start (types.evaluateQuery language cache earlier).2 := by
  intro text
  rw [← answers text]
  cases found : cache.lookup earlier with
  | some known => rw [SchemaTypes.evaluateQuery_of_some found]
  | none =>
      obtain ⟨asked, ⟨known, succeeds, kept⟩ | ⟨_, kept⟩⟩ :=
        types.evaluateQuery_of_none language found
      · rw [kept]
        by_cases same : text = earlier
        · subst same
          have held : List.lookup text ((text, known) :: cache) = some known := by simp
          rw [SchemaTypes.evaluateQuery_of_some held, asked, succeeds]
          rfl
        · refine SchemaTypes.evaluateQuery_result_congr ?_
          rw [List.lookup_cons, beq_false_of_ne same]
      · rw [kept]

theorem SchemaTypes.evaluateQuery_cache_of_error {cache : QueryCache} {text : String}
    {cause : QueryError}
    (fails : (types.evaluateQuery language cache text).1.result = .error cause) :
    (types.evaluateQuery language cache text).2 = cache := by
  cases found : cache.lookup text with
  | some known => rw [evaluateQuery_of_some found]
  | none =>
      obtain ⟨asked, ⟨known, succeeds, _⟩ | ⟨_, kept⟩⟩ :=
        types.evaluateQuery_of_none language found
      · rw [asked, succeeds] at fails
        cases fails
      · exact kept

/-! ### Verdicts -/

/-- A query gives its type or the error that it ends in, and nothing is left out. -/
def QueryVerdict (types : SchemaTypes) (language : Query.Language Ast) (cache : QueryCache)
    (path : String) (extracted : ExtractedQuery) (verdict : Verdict EvaluatedQuery) : Prop :=
  match (types.evaluateQuery language cache extracted.query).1.result with
  | .ok evaluated => ∃ id, verdict = .typed ⟨id, extracted, evaluated⟩
  | .error cause => verdict = .failed ⟨extracted.declared, path, cause⟩

/-- A projection that applies to some document gives its type, and one that applies to none is left
out. -/
def ProjectionVerdict (types : SchemaTypes) (language : Query.Language Ast) (path : String)
    (extracted : ExtractedProjection) (verdict : Verdict EvaluatedProjection) : Prop :=
  match (types.evaluateProjection language extracted.projection).result with
  | .ok (some evaluated) => ∃ id, verdict = .typed ⟨id, extracted, evaluated⟩
  | .ok none => verdict = .omitted
  | .error cause => verdict = .failed ⟨extracted.declared, path, cause⟩

def EvaluatedModule.ofVerdicts (path : String) (errors : List ExtractionError)
    (queries : List (Verdict EvaluatedQuery)) (projections : List (Verdict EvaluatedProjection)) :
    EvaluatedModule where
  path := path
  queries := queries.filterMap Verdict.typed?
  projections := projections.filterMap Verdict.typed?
  errors := errors.map ModuleError.extraction ++
    (queries.filterMap Verdict.error? ++ projections.filterMap Verdict.error?).map
      ModuleError.evaluation

/-- A module with one verdict on each of its queries and projections, in their order. -/
def Accounted (types : SchemaTypes) (language : Query.Language Ast) (cache : QueryCache)
    (module : ExtractedModule) (evaluated : EvaluatedModule) : Prop :=
  ∃ queries projections,
    List.Forall₂ (QueryVerdict types language cache module.path) module.queries queries ∧
      List.Forall₂ (ProjectionVerdict types language module.path) module.projections projections ∧
      evaluated = .ofVerdicts module.path module.errors queries projections

/-- What a step keeps, and what ties its output to its input in such states, holds of a run. -/
theorem threaded_forall₂ {State Input Output : Type} {step : State → Input → Output × State}
    {kept : State → Prop} {tied : Input → Output → Prop}
    (keeps : ∀ state input, kept state →
      kept (step state input).2 ∧ tied input (step state input).1)
    {state : State} (start : kept state) (inputs : List Input) :
    kept (threaded step state inputs).2 ∧
      List.Forall₂ tied inputs (threaded step state inputs).1 := by
  induction inputs generalizing state with
  | nil => exact ⟨start, .nil⟩
  | cons first rest ih =>
      obtain ⟨next, output⟩ := keeps state first start
      obtain ⟨last, outputs⟩ := ih next
      exact ⟨last, .cons output outputs⟩

section Steps

variable {start : QueryCache}

def Progress.Answers (types : SchemaTypes) (language : Query.Language Ast) (start : QueryCache)
    (progress : Progress Ast) : Prop :=
  AnswersAs types language start progress.cache

theorem queryStep_verdict (path : String) (progress : Progress Ast) (extracted : ExtractedQuery)
    (answers : progress.Answers types language start) :
    (queryStep types language path progress extracted).2.Answers types language start ∧
      QueryVerdict types language start path extracted
        (queryStep types language path progress extracted).1 := by
  have still := AnswersAs.evaluateQuery answers extracted.query
  unfold QueryVerdict
  rw [← answers extracted.query]
  unfold queryStep
  dsimp only
  cases (types.evaluateQuery language progress.cache extracted.query).1.result with
  | ok evaluated => exact ⟨still, _, rfl⟩
  | error cause => exact ⟨still, rfl⟩

private theorem projectionStep_verdict (path : String) (progress : Progress Ast)
    (extracted : ExtractedProjection) (answers : progress.Answers types language start) :
    (projectionStep types language path progress extracted).2.Answers types language start ∧
      ProjectionVerdict types language path extracted
        (projectionStep types language path progress extracted).1 := by
  unfold ProjectionVerdict projectionStep
  dsimp only
  cases (types.evaluateProjection language extracted.projection).result with
  | ok found =>
      cases found with
      | some evaluated => exact ⟨answers, _, rfl⟩
      | none => exact ⟨answers, rfl⟩
  | error cause => exact ⟨answers, rfl⟩

theorem moduleStep_accounted (progress : Progress Ast) (module : ExtractedModule)
    (answers : progress.Answers types language start) :
    (moduleStep types language progress module).2.Answers types language start ∧
      Accounted types language start module (moduleStep types language progress module).1 := by
  obtain ⟨afterQueries, queries⟩ :=
    threaded_forall₂ (queryStep_verdict module.path) answers module.queries
  obtain ⟨afterProjections, projections⟩ :=
    threaded_forall₂ (projectionStep_verdict module.path) afterQueries module.projections
  exact ⟨afterProjections, _, _, queries, projections, rfl⟩

end Steps

/-- Each module is accounted for, as if the run began with it. -/
theorem generate_accounted (types : SchemaTypes) (language : Query.Language Ast)
    (options : Options) (cache : QueryCache) (modules : List ExtractedModule) :
    List.Forall₂ (Accounted types language cache) modules
      (generate types language options cache modules).modules := by
  have start : Progress.Answers types language cache
      (⟨types.all.map (·.identifier), cache, []⟩ : Progress Ast) := fun _ => rfl
  exact (threaded_forall₂ moduleStep_accounted start modules).2

/-! ### Results -/

private theorem exists_of_mem_forall₂ {Input Output : Type} {tied : Input → Output → Prop}
    {inputs : List Input} {outputs : List Output} (all : List.Forall₂ tied inputs outputs)
    {output : Output} (present : output ∈ outputs) : ∃ input ∈ inputs, tied input output := by
  induction all with
  | nil => cases present
  | cons first rest ih =>
      rcases List.mem_cons.mp present with same | later
      · exact ⟨_, List.mem_cons_self, same ▸ first⟩
      · obtain ⟨input, among, matched⟩ := ih later
        exact ⟨input, List.mem_cons_of_mem _ among, matched⟩

section Results

variable {cache : QueryCache} {module : ExtractedModule} {evaluated : EvaluatedModule}

/-- The type of a query is what the query is answered with. -/
theorem Accounted.query (accounted : Accounted types language cache module evaluated)
    {query : EvaluatedQuery} (present : query ∈ evaluated.queries) :
    (types.evaluateQuery language cache query.extracted.query).1.result = .ok query.evaluated := by
  obtain ⟨queries, projections, forQueries, _, rfl⟩ := accounted
  obtain ⟨verdict, given, typed⟩ := List.mem_filterMap.mp present
  obtain ⟨extracted, _, matched⟩ := exists_of_mem_forall₂ forQueries given
  unfold QueryVerdict at matched
  split at matched
  · rename_i answered
    obtain ⟨id, rfl⟩ := matched
    cases typed
    exact answered
  · subst matched
    cases typed

theorem Accounted.projection (accounted : Accounted types language cache module evaluated)
    {projection : EvaluatedProjection} (present : projection ∈ evaluated.projections) :
    (types.evaluateProjection language projection.extracted.projection).result =
      .ok (some projection.evaluated) := by
  obtain ⟨queries, projections, _, forProjections, rfl⟩ := accounted
  obtain ⟨verdict, given, typed⟩ := List.mem_filterMap.mp present
  obtain ⟨extracted, _, matched⟩ := exists_of_mem_forall₂ forProjections given
  unfold ProjectionVerdict at matched
  split at matched
  · rename_i answered
    obtain ⟨id, rfl⟩ := matched
    cases typed
    exact answered
  · subst matched
    cases typed
  · subst matched
    cases typed

theorem exists_accounted {options : Options} {modules : List ExtractedModule}
    (present : evaluated ∈ (generate types language options cache modules).modules) :
    ∃ module ∈ modules, Accounted types language cache module evaluated :=
  exists_of_mem_forall₂ (generate_accounted types language options cache modules) present

end Results

/-! ### Errors -/

def SchemaTypes.queryError? (types : SchemaTypes) (language : Query.Language Ast)
    (cache : QueryCache) (path : String) (extracted : ExtractedQuery) : Option EvaluationError :=
  match (types.evaluateQuery language cache extracted.query).1.result with
  | .ok _ => none
  | .error cause => some ⟨extracted.declared, path, cause⟩

def SchemaTypes.projectionError? (types : SchemaTypes) (language : Query.Language Ast)
    (path : String) (extracted : ExtractedProjection) : Option EvaluationError :=
  match (types.evaluateProjection language extracted.projection).result with
  | .ok _ => none
  | .error cause => some ⟨extracted.declared, path, cause⟩

def SchemaTypes.errorsOf (types : SchemaTypes) (language : Query.Language Ast) (cache : QueryCache)
    (module : ExtractedModule) : List ModuleError :=
  module.errors.map ModuleError.extraction ++
    (module.queries.filterMap (types.queryError? language cache module.path) ++
      module.projections.filterMap (types.projectionError? language module.path)).map
        ModuleError.evaluation

theorem QueryVerdict.error {cache : QueryCache} {path : String} {extracted : ExtractedQuery}
    {verdict : Verdict EvaluatedQuery}
    (given : QueryVerdict types language cache path extracted verdict) :
    verdict.error? = types.queryError? language cache path extracted := by
  unfold QueryVerdict at given
  unfold SchemaTypes.queryError?
  cases answered : (types.evaluateQuery language cache extracted.query).1.result with
  | ok evaluated =>
      simp only [answered] at given
      obtain ⟨id, rfl⟩ := given
      rfl
  | error cause =>
      simp only [answered] at given
      rw [given]
      rfl

theorem ProjectionVerdict.error {path : String} {extracted : ExtractedProjection}
    {verdict : Verdict EvaluatedProjection}
    (given : ProjectionVerdict types language path extracted verdict) :
    verdict.error? = types.projectionError? language path extracted := by
  unfold ProjectionVerdict at given
  unfold SchemaTypes.projectionError?
  cases answered : (types.evaluateProjection language extracted.projection).result with
  | ok found =>
      cases found with
      | some evaluated =>
          simp only [answered] at given
          obtain ⟨id, rfl⟩ := given
          rfl
      | none =>
          simp only [answered] at given
          rw [given]
          rfl
  | error cause =>
      simp only [answered] at given
      rw [given]
      rfl

private theorem filterMap_of_forall₂ {Input Output Found : Type} {tied : Input → Output → Prop}
    {pick : Output → Option Found} {expected : Input → Option Found}
    (each : ∀ input output, tied input output → pick output = expected input)
    {inputs : List Input} {outputs : List Output} (all : List.Forall₂ tied inputs outputs) :
    outputs.filterMap pick = inputs.filterMap expected := by
  induction all with
  | nil => rfl
  | cons first rest ih => rw [List.filterMap_cons, List.filterMap_cons, each _ _ first, ih]

theorem Accounted.errors {cache : QueryCache} {module : ExtractedModule}
    {evaluated : EvaluatedModule} (accounted : Accounted types language cache module evaluated) :
    evaluated.errors = types.errorsOf language cache module := by
  obtain ⟨queries, projections, forQueries, forProjections, rfl⟩ := accounted
  unfold SchemaTypes.errorsOf EvaluatedModule.ofVerdicts
  have ofQueries := filterMap_of_forall₂ (fun _ _ given => given.error) forQueries
  have ofProjections := filterMap_of_forall₂ (fun _ _ given => given.error) forProjections
  rw [← ofQueries, ← ofProjections]

theorem generate_errors (types : SchemaTypes) (language : Query.Language Ast) (options : Options)
    (cache : QueryCache) (modules : List ExtractedModule) :
    (generate types language options cache modules).modules.map (·.errors) =
      modules.map (types.errorsOf language cache) := by
  have accounted := generate_accounted types language options cache modules
  have each : (generate types language options cache modules).modules.filterMap
      (fun evaluated => some evaluated.errors) =
        modules.filterMap fun module => some (types.errorsOf language cache module) :=
    filterMap_of_forall₂ (fun _ _ given => congrArg some given.errors) accounted
  simpa only [List.filterMap_eq_map'] using each

end QueryTypes.Typing
