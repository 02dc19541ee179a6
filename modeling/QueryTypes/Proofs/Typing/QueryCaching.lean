import QueryTypes.Typing.Generation

/-!
The cache of query types is not seen in what is returned.

After any calls the cache holds exactly the types of those queries that were asked for and that have
one. So a query is found in it if and only if it was answered with a type before, and what is found
is what the language would answer again. Projections leave the cache alone, also where the query
that they are turned into is one that the cache holds.
-/

set_option autoImplicit false

namespace QueryTypes.Query

namespace Asked

variable {Ast Result Next : Type}

/-- What goes on with an answer succeeds if the answer and what follows it do. -/
theorem andThen_eq_ok {asked : Asked Ast Result} {next : Result → Asked Ast Next} {value : Next}
    (succeeds : (asked.andThen next).result = .ok value) :
    ∃ first, asked.result = .ok first ∧ (next first).result = .ok value := by
  unfold andThen at succeeds
  cases answered : asked.result with
  | ok first =>
      rw [answered] at succeeds
      exact ⟨first, rfl, succeeds⟩
  | error error =>
      rw [answered] at succeeds
      cases succeeds

/-- The calls that an answer took come first, whatever follows. -/
theorem calls_isPrefix_andThen (asked : Asked Ast Result) (next : Result → Asked Ast Next) :
    asked.calls <+: (asked.andThen next).calls := by
  unfold andThen
  split
  · exact List.prefix_append _ _
  · exact List.prefix_refl _

end Asked

end QueryTypes.Query

namespace QueryTypes.Typing

open QueryTypes.Query

/-! ### Calls in a row -/

inductive Request where
  | query (text : String)
  | projection (text : String)
deriving DecidableEq

def Request.isQuery : Request → Bool
  | .query _ => true
  | .projection _ => false

inductive Reply where
  | query (result : Except QueryError EvaluatedType)
  | projection (result : Except QueryError (Option EvaluatedType))

structure Served (Ast : Type) where
  reply : Reply
  calls : List (Call Ast)

variable {Ast : Type}

def SchemaTypes.serve (types : SchemaTypes) (language : Query.Language Ast) (cache : QueryCache) :
    Request → Served Ast × QueryCache
  | .query text =>
      let (asked, cache) := types.evaluateQuery language cache text
      (⟨.query asked.result, asked.calls⟩, cache)
  | .projection text =>
      let asked := types.evaluateProjection language text
      (⟨.projection asked.result, asked.calls⟩, cache)

def SchemaTypes.serveAll (types : SchemaTypes) (language : Query.Language Ast)
    (requests : List Request) : List (Served Ast) × QueryCache :=
  threaded (types.serve language) [] requests

section Threading

variable {State Input Output : Type}

/-- Each output is that of its own step, taken in the state that the inputs before it led to. -/
theorem threaded_getElem? (step : State → Input → Output × State) (state : State)
    (inputs : List Input) (index : Nat) :
    (threaded step state inputs).1[index]? =
      inputs[index]?.map fun input =>
        (step (threaded step state (inputs.take index)).2 input).1 := by
  induction inputs generalizing state index with
  | nil => rfl
  | cons first rest ih =>
      cases index with
      | zero => rfl
      | succ index => exact ih (step state first).2 index

theorem threaded_length (step : State → Input → Output × State) (state : State)
    (inputs : List Input) : (threaded step state inputs).1.length = inputs.length := by
  induction inputs generalizing state with
  | nil => rfl
  | cons first rest ih => exact congrArg Nat.succ (ih (step state first).2)

/-- Inputs that leave every state as it is may be left out. -/
theorem threaded_filter {step : State → Input → Output × State} {matters : Input → Bool}
    (idle : ∀ input, matters input = false → ∀ state, (step state input).2 = state)
    (state : State) (inputs : List Input) :
    (threaded step state (inputs.filter matters)).2 = (threaded step state inputs).2 := by
  induction inputs generalizing state with
  | nil => rfl
  | cons first rest ih =>
      cases decided : matters first with
      | true =>
          rw [List.filter_cons_of_pos decided]
          exact ih (step state first).2
      | false =>
          rw [List.filter_cons_of_neg (Bool.eq_false_iff.mp decided), ih state]
          change _ = (threaded step (step state first).2 rest).2
          rw [idle first decided state]

end Threading

/-! ### What the cache holds -/

def Remembers (types : SchemaTypes) (language : Query.Language Ast) (asked : List Request)
    (cache : QueryCache) : Prop :=
  ∀ text known, cache.lookup text = some known ↔
    Request.query text ∈ asked ∧ (types.askQuery language text).result = .ok known

private theorem remembers_nothing (types : SchemaTypes) (language : Query.Language Ast) :
    Remembers types language [] [] := by
  intro text known
  constructor
  · intro found
    cases found
  · rintro ⟨asked, _⟩
    cases asked

theorem SchemaTypes.evaluateQuery_of_some {types : SchemaTypes} {language : Query.Language Ast}
    {cache : QueryCache} {text : String} {known : EvaluatedType}
    (found : cache.lookup text = some known) :
    types.evaluateQuery language cache text = (.answer known, cache) := by
  unfold evaluateQuery
  rw [found]

/-- A query that the cache does not hold is asked of the language, and kept if it has a type. -/
theorem SchemaTypes.evaluateQuery_of_none (types : SchemaTypes) (language : Query.Language Ast)
    {cache : QueryCache} {text : String} (missing : cache.lookup text = none) :
    (types.evaluateQuery language cache text).1 = types.askQuery language text ∧
      ((∃ known, (types.askQuery language text).result = .ok known ∧
          (types.evaluateQuery language cache text).2 = (text, known) :: cache) ∨
        (∃ error, (types.askQuery language text).result = .error error) ∧
          (types.evaluateQuery language cache text).2 = cache) := by
  unfold evaluateQuery
  rw [missing]
  dsimp only
  cases answered : (types.askQuery language text).result with
  | ok known => exact ⟨rfl, .inl ⟨known, rfl, rfl⟩⟩
  | error error => exact ⟨rfl, .inr ⟨⟨error, rfl⟩, rfl⟩⟩

/-- On its own a query is asked of the language. -/
theorem SchemaTypes.serve_query_alone (types : SchemaTypes) (language : Query.Language Ast)
    (text : String) :
    (types.serve language [] (.query text)).1 =
      ⟨.query (types.askQuery language text).result, (types.askQuery language text).calls⟩ := by
  have fresh : (types.evaluateQuery language [] text).1 = types.askQuery language text :=
    (types.evaluateQuery_of_none language rfl).1
  rw [← fresh]
  rfl

section Serving

variable {types : SchemaTypes} {language : Query.Language Ast} {asked : List Request}
  {cache : QueryCache}

private theorem Remembers.reply (remembers : Remembers types language asked cache)
    (request : Request) :
    (types.serve language cache request).1.reply =
      (types.serve language [] request).1.reply := by
  cases request with
  | projection text => rfl
  | query text =>
      rw [types.serve_query_alone language text]
      change Reply.query (types.evaluateQuery language cache text).1.result = _
      cases found : cache.lookup text with
      | some known =>
          rw [SchemaTypes.evaluateQuery_of_some found, ((remembers text known).mp found).2]
          rfl
      | none => rw [(types.evaluateQuery_of_none language found).1]

theorem Remembers.serve (remembers : Remembers types language asked cache) (request : Request) :
    Remembers types language (asked ++ [request]) (types.serve language cache request).2 := by
  intro text known
  rw [List.mem_append, List.mem_singleton]
  cases request with
  | projection projected =>
      rw [or_iff_left nofun]
      exact remembers text known
  | query queried =>
      rw [Request.query.injEq]
      change List.lookup text (types.evaluateQuery language cache queried).2 = some known ↔ _
      cases found : cache.lookup queried with
      | some held =>
          have before := ((remembers queried held).mp found).1
          rw [SchemaTypes.evaluateQuery_of_some found, remembers text known]
          refine and_congr_left' ⟨.inl, ?_⟩
          rintro (earlier | rfl)
          · exact earlier
          · exact before
      | none =>
          rcases (types.evaluateQuery_of_none language found).2 with
            ⟨held, answered, kept⟩ | ⟨⟨error, answered⟩, kept⟩
          · rw [kept, List.lookup_cons]
            by_cases same : text = queried
            · subst same
              rw [beq_self_eq_true, answered]
              simp only [or_true, true_and, Option.some.injEq, Except.ok.injEq]
            · rw [beq_false_of_ne same, or_iff_left same]
              exact remembers text known
          · rw [kept, remembers text known]
            refine and_congr_left fun succeeds => ?_
            refine (or_iff_left ?_).symm
            rintro rfl
            rw [answered] at succeeds
            cases succeeds

theorem Remembers.threaded (remembers : Remembers types language asked cache)
    (requests : List Request) :
    Remembers types language (asked ++ requests)
      (threaded (types.serve language) cache requests).2 := by
  induction requests generalizing asked cache with
  | nil =>
      rw [List.append_nil]
      exact remembers
  | cons request rest ih =>
      rw [List.append_cons]
      exact ih (remembers.serve request)

end Serving

/-- A query that is asked of the language is parsed at least. -/
theorem SchemaTypes.askQuery_calls_ne_nil (types : SchemaTypes) (language : Query.Language Ast)
    (text : String) : (types.askQuery language text).calls ≠ [] := by
  intro quiet
  have parses : (language.parsed text).calls <+: (types.askQuery language text).calls :=
    Asked.calls_isPrefix_andThen _ _
  rw [quiet] at parses
  cases List.prefix_nil.mp parses

def AnsweredBefore (requests : List Request) (served : List (Served Ast)) (index : Nat)
    (text : String) : Prop :=
  ∃ earlier < index, requests[earlier]? = some (.query text) ∧
    ∃ answer known, served[earlier]? = some answer ∧ answer.reply = .query (.ok known)

private theorem SchemaTypes.serveAll_getElem? (types : SchemaTypes) (language : Query.Language Ast)
    {requests : List Request} {index : Nat} {request : Request}
    (here : requests[index]? = some request) :
    (types.serveAll language requests).1[index]? =
      some (types.serve language (types.serveAll language (requests.take index)).2 request).1 := by
  unfold serveAll
  rw [threaded_getElem?, here]
  rfl

private theorem remembers_serveAll (types : SchemaTypes) (language : Query.Language Ast)
    (requests : List Request) :
    Remembers types language requests (types.serveAll language requests).2 :=
  (remembers_nothing types language).threaded requests

section Places

variable {types : SchemaTypes} {language : Query.Language Ast} {requests : List Request}
  {index : Nat} {text : String}

private theorem reply_of_served {request : Request} {answer : Served Ast}
    (here : requests[index]? = some request)
    (answered : (types.serveAll language requests).1[index]? = some answer) :
    answer.reply = (types.serve language [] request).1.reply := by
  rw [types.serveAll_getElem? language here, Option.some.injEq] at answered
  rw [← answered]
  exact (remembers_serveAll types language (requests.take index)).reply request

/-- A query was answered before if and only if the cache holds it now. -/
theorem answeredBefore_iff :
    AnsweredBefore requests (types.serveAll language requests).1 index text ↔
      ∃ known, (types.serveAll language (requests.take index)).2.lookup text = some known := by
  simp only [remembers_serveAll types language (requests.take index) text, exists_and_left]
  constructor
  · rintro ⟨earlier, before, asked, answer, known, answered, replied⟩
    have alone := reply_of_served asked answered
    rw [replied, SchemaTypes.serve_query_alone] at alone
    refine ⟨List.mem_of_getElem? (i := earlier) ?_, known, (Reply.query.inj alone).symm⟩
    rw [List.getElem?_take_of_lt before]
    exact asked
  · rintro ⟨asked, known, succeeds⟩
    obtain ⟨earlier, place⟩ := List.mem_iff_getElem?.mp asked
    have before : earlier < index := by
      have within := (List.getElem?_eq_some_iff.mp place).1
      rw [List.length_take] at within
      omega
    rw [List.getElem?_take_of_lt before] at place
    have answered := types.serveAll_getElem? language place
    refine ⟨earlier, before, place, _, known, answered, ?_⟩
    rw [reply_of_served place answered, SchemaTypes.serve_query_alone, succeeds]

private theorem serveAll_replies (types : SchemaTypes) (language : Query.Language Ast)
    (requests : List Request) :
    (types.serveAll language requests).1.map Served.reply =
      requests.map fun request => (types.serve language [] request).1.reply := by
  refine List.ext_getElem? fun index => ?_
  rw [List.getElem?_map, List.getElem?_map]
  cases here : requests[index]? with
  | none =>
      have outside : (types.serveAll language requests).1.length ≤ index :=
        Nat.le_trans (Nat.le_of_eq (threaded_length _ _ _)) (List.getElem?_eq_none_iff.mp here)
      rw [List.getElem?_eq_none outside]
      rfl
  | some request =>
      have answered := types.serveAll_getElem? language here
      rw [answered, Option.map_some, Option.map_some, reply_of_served here answered]

/-- The calls that a query takes at its place. -/
theorem serveAll_query_calls (here : requests[index]? = some (.query text)) :
    ∃ answer, (types.serveAll language requests).1[index]? = some answer ∧
      (AnsweredBefore requests (types.serveAll language requests).1 index text →
        answer.calls = []) ∧
      (¬ AnsweredBefore requests (types.serveAll language requests).1 index text →
        answer.calls = (types.askQuery language text).calls ∧ answer.calls ≠ []) := by
  refine ⟨_, types.serveAll_getElem? language here, ?_, ?_⟩
  · intro before
    obtain ⟨known, found⟩ := answeredBefore_iff.mp before
    change (types.evaluateQuery language _ text).1.calls = []
    rw [SchemaTypes.evaluateQuery_of_some found]
    rfl
  · intro never
    have missing : (types.serveAll language (requests.take index)).2.lookup text = none :=
      Option.eq_none_iff_forall_ne_some.mpr fun known found =>
        never (answeredBefore_iff.mpr ⟨known, found⟩)
    change (types.evaluateQuery language _ text).1.calls = _ ∧
      (types.evaluateQuery language _ text).1.calls ≠ []
    rw [(types.evaluateQuery_of_none language missing).1]
    exact ⟨rfl, types.askQuery_calls_ne_nil language text⟩

private theorem serveAll_cache_of_queries (types : SchemaTypes) (language : Query.Language Ast)
    (requests : List Request) :
    (types.serveAll language requests).2 =
      (types.serveAll language (requests.filter Request.isQuery)).2 := by
  have idle (request : Request) (projects : request.isQuery = false) (cache : QueryCache) :
      (types.serve language cache request).2 = cache := by
    cases request with
    | query text => cases projects
    | projection text => rfl
  exact (threaded_filter idle [] requests).symm

end Places

/-- Calls in a row, some of which may fail, return what each returns as the only one. A query is
asked of the language every time until it has been answered with its type, and then never again.
Projections are asked of it every time, and the cache is in the end what it is without them. -/
theorem serveAll_as_uncached (types : SchemaTypes) (language : Query.Language Ast)
    (requests : List Request) :
    let served := (types.serveAll language requests).1
    served.map Served.reply =
        requests.map (fun request => (types.serve language [] request).1.reply) ∧
      (∀ (index : Nat) (text : String), requests[index]? = some (Request.query text) →
        ∃ answer, served[index]? = some answer ∧
          (AnsweredBefore requests served index text → answer.calls = []) ∧
          (¬ AnsweredBefore requests served index text →
            answer.calls = (types.askQuery language text).calls ∧ answer.calls ≠ [])) ∧
      (∀ (index : Nat) (text : String), requests[index]? = some (Request.projection text) →
        served[index]? = some (types.serve language [] (.projection text)).1) ∧
      (types.serveAll language requests).2 =
        (types.serveAll language (requests.filter Request.isQuery)).2 := by
  intro served
  refine ⟨serveAll_replies types language requests, ?_, ?_, ?_⟩
  · intro index text here
    exact serveAll_query_calls here
  · intro index text here
    exact types.serveAll_getElem? language here
  · exact serveAll_cache_of_queries types language requests

def exclaimingLanguage : Query.Language String where
  parse := fun query _ => if query = "!" then .error (.parse "no query") else .ok query
  evaluate := fun _ _ => .ok .null
  isObject := fun _ => true

def postTypes : SchemaTypes :=
  ⟨[.document "post" []], ⟨"default", [("post", "Post")]⟩, [("post", .literal [])]⟩

/-- Queries that fail or repeat, and a projection that is turned into one of them. -/
def postRequests : List Request :=
  let applied := projectionQuery "post" "\x7b_id\x7d"
  [.query "!", .query applied, .projection "\x7b_id\x7d", .query applied, .query "!"]

theorem projection_asks_known_query_again :
    (postTypes.serveAll exclaimingLanguage postRequests).1.map Served.reply =
        postRequests.map (fun request =>
          (postTypes.serve exclaimingLanguage [] request).1.reply) ∧
      (postTypes.serveAll exclaimingLanguage postRequests).1.map (fun answer =>
        answer.calls.length) = [1, 2, 4, 0, 1] :=
  ⟨(serveAll_as_uncached postTypes exclaimingLanguage postRequests).1, by decide +kernel⟩

end QueryTypes.Typing
