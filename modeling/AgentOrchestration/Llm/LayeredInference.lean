import AgentOrchestration.EdgeEvaluator.Operators
import AgentOrchestration.Llm.CallOutcomes

/-!
# Layered inference

`LayeredInferenceOrchestrator` answers a request from the semantic cache, by a small model, or by
the requested one. What a model streams reaches the caller before its answer is accepted, and what
is cached is found by every user of the tenant.
-/

namespace AgentOrchestration.Llm.LayeredInference

set_option autoImplicit false

/-! ## The orchestrator -/

inductive InferenceLayer where
  | cache
  | slm
  | llm
  deriving DecidableEq

structure InferenceLayerPolicy where
  cacheEnabled : Bool := true
  cacheSimilarityThreshold : ℚ := 92 / 100
  cacheTtlSeconds : ℕ := 3600
  slmEnabled : Bool := true
  slmEligibleTasks : List LLMTaskType := [.intentSelection, .toolSelection]
  slmProvider : String := "SLM_LOCAL"
  slmModelAlias : String := "smollm2-360m"
  escalationOnSchemaMismatch : Bool := true

/-- A row of `semantic_answer_cache`, as far as it is read. -/
structure SemanticAnswerCache (𝕖 : Type) where
  tenantId : ℕ
  taskType : LLMTaskType
  queryHash : String
  embedding : 𝕖
  response : Value
  expiresAt : ℕ

/-- What a call of `LLMExecutor` streams, and what it comes to. -/
structure StreamedCall where
  deltas : List String
  outcome : Except LLMError LLMResult

/-- The services that the orchestrator calls. A layer may behave differently on the same request,
but what it returns is what some call of `execute_llm` returns. -/
structure LayerServices (𝕖 : Type) where
  executeLlm : InferenceLayer → LLMRequest → (provider : String) → StreamedCall
  /-- `jsonschema.validate`, of an instance and a schema. -/
  validate : Value → Fields → SchemaVerdict
  executes : ∀ layer request provider result,
    (executeLlm layer request provider).outcome = .ok result →
      ∃ call state next, call.arguments.request = request ∧ call.executor.validate = validate ∧
        Llm.executeLlm call state = .ok result next
  hasCacheService : Bool := true
  embed : String → Except LLMError 𝕖
  cosineDistance : 𝕖 → 𝕖 → ℚ
  hashText : String → String

/-- A call of the orchestrator, and the user for whom it is made. -/
structure InferenceCall where
  userId : String
  tenantId : ℕ
  policy : InferenceLayerPolicy
  now : ℕ
  request : LLMRequest
  provider : String

variable {𝕖 : Type} (services : LayerServices 𝕖) (call : InferenceCall)

/-- `request.user_message or request.prompt`. -/
def userQuery (request : LLMRequest) : String :=
  if request.userMessage.getD "" = "" then request.prompt else request.userMessage.getD ""

def cacheQuery : Option (LLMTaskType × String) :=
  if call.policy.cacheEnabled && services.hasCacheService && userQuery call.request ≠ "" then
    call.request.taskType.map fun task => (task, userQuery call.request)
  else none

/-- The conditions of `search_similar` but for the expiry. -/
def isSimilar (task : LLMTaskType) (embedding : 𝕖) (row : SemanticAnswerCache 𝕖) : Bool :=
  row.tenantId = call.tenantId && row.taskType = task &&
    services.cosineDistance row.embedding embedding ≤ 1 - call.policy.cacheSimilarityThreshold

def searchSimilar (task : LLMTaskType) (embedding : 𝕖) (rows : List (SemanticAnswerCache 𝕖)) :
    Option (SemanticAnswerCache 𝕖) :=
  (rows.filter fun row => isSimilar services call task embedding row && call.now < row.expiresAt
    ).argmin fun row => services.cosineDistance row.embedding embedding

/-- `SemanticCacheEntry(response=...)`, which takes a dictionary. -/
def cachedResponse (row : SemanticAnswerCache 𝕖) : Except LLMError Fields :=
  match row.response with
  | .dict response => .ok response
  | _ => .error (.other "ValidationError")

/-- `SemanticCacheService.lookup`, where the cache is used. -/
def lookup (rows : List (SemanticAnswerCache 𝕖)) : Except LLMError (Option Fields) :=
  match cacheQuery services call with
  | none => .ok none
  | some (task, query) => do
      let embedding ← services.embed query
      match searchSimilar services call task embedding rows with
      | some row => some <$> cachedResponse row
      | none => return none

/-- The row that a response is cached in, where the cache is used. The embedding is the one of the
lookup. -/
def newRow (response : Value) : Option (SemanticAnswerCache 𝕖) :=
  match cacheQuery services call with
  | none => none
  | some (task, query) =>
    match services.embed query with
    | .error _ => none
    | .ok embedding => some
        { tenantId := call.tenantId, taskType := task, queryHash := services.hashText query
          embedding, response, expiresAt := call.now + call.policy.cacheTtlSeconds }

/-- `uq_semantic_answer_cache_tenant_task_query`. -/
def SemanticAnswerCache.key (row : SemanticAnswerCache 𝕖) : ℕ × LLMTaskType × String :=
  (row.tenantId, row.taskType, row.queryHash)

/-- `SemanticCacheService.persist`, where there is an output. -/
def persist (result : LLMResult) (rows : List (SemanticAnswerCache 𝕖)) :
    List (SemanticAnswerCache 𝕖) :=
  match newRow services call result.output with
  | some row =>
    if result.output.truthy then rows.filter (fun old => old.key ≠ row.key) ++ [row] else rows
  | none => rows

/-- The keys that `_passes_confidence_gate` expects. -/
def expectedKeys (schema : Fields) : Except LLMError (List Value) :=
  match schema.lookup "required", schema.lookup "properties" with
  | some (.list keys), _ => .ok keys
  | _, some (.dict properties) => .ok (properties.map fun property => .str property.1)
  | _, some _ => .error (.other "AttributeError")
  | _, none => .ok []

/-- `_passes_confidence_gate`. The output may be any value, and `in` raises for some. -/
def passesConfidenceGate (request : LLMRequest) (result : LLMResult) : Except LLMError Bool :=
  if result.output.truthy = false then .ok false
  else if request.outputSchema = [] then .ok true
  else do
    let keys ← expectedKeys request.outputSchema
    match keys.allM fun key => result.output.contains key with
    | some passes => return passes
    | none => throw (.other "TypeError")

def slmEligible : Bool :=
  call.policy.slmEnabled &&
    call.request.taskType.any fun task => task ∈ call.policy.slmEligibleTasks

def smallCall : StreamedCall :=
  services.executeLlm .slm { call.request with modelAlias := call.policy.slmModelAlias }
    call.policy.slmProvider

def largeCall : StreamedCall := services.executeLlm .llm call.request call.provider

/-- The answer of the small model, if it is asked, does not raise and is not escalated. -/
def smallAnswer : Except LLMError (Option LLMResult) :=
  match slmEligible call, (smallCall services call).outcome with
  | true, .ok result =>
    if call.policy.escalationOnSchemaMismatch then do
      return if ← passesConfidenceGate call.request result then some result else none
    else .ok (some result)
  | _, _ => .ok none

/-- The answer of the models, and the layer it comes from. -/
def modelAnswer : Except LLMError (LLMResult × InferenceLayer) := do
  match ← smallAnswer services call with
  | some result => return (result, .slm)
  | none => return (← (largeCall services call).outcome, .llm)

/-- What the models stream. -/
def modelDeltas : List String :=
  let asked := if slmEligible call then (smallCall services call).deltas else []
  match smallAnswer services call with
  | .ok none => asked ++ (largeCall services call).deltas
  | _ => asked

/-- The cache after the models have answered. -/
def rowsAfter (rows : List (SemanticAnswerCache 𝕖)) : List (SemanticAnswerCache 𝕖) :=
  match modelAnswer services call with
  | .ok (result, _) => persist services call result rows
  | .error _ => rows

/-- What a call passes to `on_delta`, leaves in the cache and comes to. -/
structure Inference (𝕖 : Type) where
  deltas : List String
  rows : List (SemanticAnswerCache 𝕖)
  answer : Except LLMError (LLMResult × InferenceLayer)

/-- `LayeredInferenceOrchestrator.execute_llm`. -/
def executeLlm (rows : List (SemanticAnswerCache 𝕖)) : Inference 𝕖 :=
  match lookup services call rows with
  | .error raised => ⟨[], rows, .error raised⟩
  | .ok (some response) =>
    ⟨[], rows, .ok ({ output := .dict response, costUsd := some 0, latencyMs := some 0 }, .cache)⟩
  | .ok none =>
    ⟨modelDeltas services call, rowsAfter services call rows, modelAnswer services call⟩

/-! ## Streaming -/

def returnedText : InferenceLayer → String
  | .cache => ""
  | .slm => String.join (smallCall services call).deltas
  | .llm => String.join (largeCall services call).deltas

/-- The small model is asked and streams some text, and its answer is not used. -/
def StreamsInVain : Prop :=
  slmEligible call = true ∧ smallAnswer services call = .ok none ∧
    String.join (smallCall services call).deltas ≠ ""

variable {services call} {rows : List (SemanticAnswerCache 𝕖)} {result : LLMResult}
  {layer : InferenceLayer}

theorem slmEligible_of_smallAnswer (answer : smallAnswer services call = .ok (some result)) :
    slmEligible call = true := by
  by_contra other
  simp [smallAnswer, other] at answer

/-- **When the streamed text is the answer**: exactly if the cache has one or the small model does
not stream in vain. -/
theorem streamed_text_iff
    (returned : (executeLlm services call rows).answer = .ok (result, layer)) :
    String.join (executeLlm services call rows).deltas = returnedText services call layer ↔
      (lookup services call rows = .ok none → ¬ StreamsInVain services call) := by
  revert returned
  unfold executeLlm StreamsInVain
  cases found : lookup services call rows with
  | error raised => rintro ⟨⟩
  | ok cached =>
    cases cached with
    | some response =>
      rintro ⟨⟩
      simp [returnedText, String.join]
    | none =>
      unfold modelDeltas modelAnswer
      cases answer : smallAnswer services call with
      | error raised => rintro ⟨⟩
      | ok small =>
        cases small with
        | some result =>
          rintro ⟨⟩
          simp [returnedText, slmEligible_of_smallAnswer answer]
        | none =>
          cases called : (largeCall services call).outcome with
          | error raised => rintro ⟨⟩
          | ok result =>
            rintro ⟨⟩
            cases eligible : slmEligible call <;> simp [returnedText]

section

variable (outputs : InferenceLayer → LLMRequest → Fields) (deltas : InferenceLayer → List String)

def layerExecutor (layer : InferenceLayer) : LLMExecutor :=
  { provider := some fun request => .ok { output := .dict (outputs layer request) }
    loads := fun _ => none
    validate := fun _ _ => .valid }

def layerOutcome (layer : InferenceLayer) (request : LLMRequest) (provider : String) :
    EStateM.Result LLMError LLMState LLMResult :=
  Llm.executeLlm ⟨layerExecutor outputs layer, { request, tenantId := 1, flowRunId := 1, provider }⟩
    .empty

/-- Layers with providers of their own, whose outputs fit every schema. -/
def servicesOf (embed : String → Except LLMError 𝕖) (cosineDistance : 𝕖 → 𝕖 → ℚ) :
    LayerServices 𝕖 where
  executeLlm layer request provider :=
    { deltas := deltas layer
      outcome := match layerOutcome outputs layer request provider with
        | .ok result _ => .ok result
        | .error raised _ => .error raised }
  validate := fun _ _ => .valid
  executes layer request provider result returned := by
    cases ran : layerOutcome outputs layer request provider with
    | error raised state =>
      simp only [ran] at returned
      cases returned
    | ok answer state =>
      simp only [ran] at returned
      cases returned
      exact ⟨_, _, _, rfl, rfl, ran⟩
  embed
  cosineDistance
  hashText := id

end

/-- The small model streams a word and answers nothing; the large one streams and answers. -/
def wordyServices : LayerServices String :=
  servicesOf (fun layer _ => if layer = .llm then [("answer", .str "Yes.")] else [])
    (fun layer => if layer = .llm then ["Yes."] else ["Well, "]) .ok fun first second =>
      if first = second then 0 else 1

def question (userId prompt : String) (policy : InferenceLayerPolicy) : InferenceCall :=
  { userId, tenantId := 1, policy, now := 0, provider := "OPENAI"
    request := { modelAlias := "gpt", prompt, taskType := some .intentSelection } }

theorem one_model_streams :
    String.join (executeLlm wordyServices
        (question "u" "May I?" { slmEnabled := false }) []).deltas =
      returnedText wordyServices (question "u" "May I?" { slmEnabled := false }) .llm := by
  refine (streamed_text_iff rfl).mpr fun _ vain => ?_
  cases vain.1

/-- What the small model says is passed on, although its answer is escalated. -/
theorem escalated_text_streamed :
    (executeLlm wordyServices (question "u" "May I?" {}) []).answer.toOption.map Prod.snd =
        some .llm ∧
      returnedText wordyServices (question "u" "May I?" {}) .llm = "Yes." ∧
      String.join (executeLlm wordyServices (question "u" "May I?" {}) []).deltas =
        "Well, Yes." := by
  decide +kernel

/-! ## Sharing -/

variable (services call) in
/-- A row that answers the call as long as it has not expired. -/
def Answers (row : SemanticAnswerCache 𝕖) : Prop :=
  ∃ task query embedding, cacheQuery services call = some (task, query) ∧
    services.embed query = .ok embedding ∧ isSimilar services call task embedding row = true

variable (services) in
/-- What an output has to satisfy for `LLMExecutor` to return it. -/
def Satisfies (output : Value) (schema : Fields) : Prop :=
  schema = [] ∨ services.validate output schema = .valid

variable (services) in
def answers (rows : List (SemanticAnswerCache 𝕖)) :
    List InferenceCall → List (InferenceCall × Except LLMError (LLMResult × InferenceLayer))
  | [] => []
  | call :: rest =>
    (call, (executeLlm services call rows).answer) ::
      answers (executeLlm services call rows).rows rest

variable (services) in
/-- The requests of a user are apart from those of others: what another one asks is not cached in
the place of, and does not answer, what the user asks; and what the user asked before answers only
requests for the same schema. -/
structure Apart (user : String) (history : List InferenceCall) : Prop where
  foreign : ∀ own ∈ history, own.userId = user → ∀ other ∈ history, other.userId ≠ user →
    ∀ response row, newRow services other response = some row →
      ¬ Answers services own row ∧
        ∀ ownResponse ownRow, newRow services own ownResponse = some ownRow → row.key ≠ ownRow.key
  schema : ∀ own ∈ history, own.userId = user → ∀ earlier ∈ history, earlier.userId = user →
    ∀ response row, newRow services earlier response = some row → Answers services own row →
      earlier.request.outputSchema = own.request.outputSchema

/-! ### One call -/

theorem satisfies_of_outcome {request : LLMRequest} {provider : String}
    (returned : (services.executeLlm layer request provider).outcome = .ok result) :
    Satisfies services result.output request.outputSchema := by
  obtain ⟨call, state, next, rfl, same, ran⟩ := services.executes _ _ _ _ returned
  have validates := validates_of_executeLlm ran
  unfold validateSchema at validates
  split at validates
  · rename_i unchecked
    exact .inl unchecked
  · split at validates
    · rename_i valid
      exact .inr (same ▸ valid)
    all_goals cases validates

theorem outcome_of_smallAnswer (answer : smallAnswer services call = .ok (some result)) :
    (smallCall services call).outcome = .ok result := by
  unfold smallAnswer at answer
  split at answer
  · rename_i small _ called
    rw [called]
    split at answer
    · obtain ⟨passes, -, gave⟩ := Program.except_bind_eq_ok.mp answer
      cases passes <;> cases gave
      rfl
    · cases answer
      rfl
  · cases answer

theorem satisfies_of_modelAnswer (answer : modelAnswer services call = .ok (result, layer)) :
    Satisfies services result.output call.request.outputSchema := by
  obtain ⟨small, answered, answer⟩ := Program.except_bind_eq_ok.mp answer
  cases small with
  | some small =>
    cases answer
    have called := outcome_of_smallAnswer answered
    have satisfied := satisfies_of_outcome called
    exact satisfied
  | none =>
    obtain ⟨large, called, answer⟩ := Program.except_bind_eq_ok.mp answer
    cases answer
    exact satisfies_of_outcome called

/-- What is looked up is a row that answers the call. -/
theorem answers_of_lookup {response : Fields}
    (found : lookup services call rows = .ok (some response)) :
    ∃ row ∈ rows, Answers services call row ∧ row.response = .dict response := by
  unfold lookup at found
  split at found
  · cases found
  · rename_i task query queried
    obtain ⟨embedding, embedded, found⟩ := Program.except_bind_eq_ok.mp found
    split at found
    · rename_i row searched
      have listed := List.mem_filter.mp (List.argmin_mem searched)
      have similar : isSimilar services call task embedding row = true := by
        simp_all
      refine ⟨row, listed.1, ⟨task, query, embedding, queried, embedded, similar⟩, ?_⟩
      unfold cachedResponse at found
      split at found
      · rename_i stored
        cases found
        exact stored
      · cases found
    · cases found

/-- A lookup depends on the rows that answer the call. -/
theorem lookup_filter {keep : SemanticAnswerCache 𝕖 → Bool}
    (kept : ∀ row ∈ rows, Answers services call row → keep row = true) :
    lookup services call (rows.filter keep) = lookup services call rows := by
  unfold lookup
  cases queried : cacheQuery services call with
  | none => rfl
  | some asked =>
    obtain ⟨task, query⟩ := asked
    dsimp only
    cases embedded : services.embed query with
    | error raised => rfl
    | ok embedding =>
      have same : searchSimilar services call task embedding (rows.filter keep) =
          searchSimilar services call task embedding rows := by
        unfold searchSimilar
        rw [List.filter_filter]
        congr 1
        refine List.filter_congr fun row isIn => ?_
        cases similar : isSimilar services call task embedding row with
        | false => rfl
        | true => simp [kept row isIn ⟨task, query, embedding, queried, embedded, similar⟩]
      simp only [bind, Except.bind, same]

theorem response_newRow {response : Value} {row : SemanticAnswerCache 𝕖}
    (made : newRow services call response = some row) : row.response = response := by
  unfold newRow at made
  split at made
  · cases made
  · split at made
    · cases made
    · cases made
      rfl

/-! ### Whole histories -/

section

variable (services) (user : String) (history : List InferenceCall)

/-- Every row was written by a call of the history, for its own schema. -/
def Written (rows : List (SemanticAnswerCache 𝕖)) : Prop :=
  ∀ row ∈ rows, ∃ writer ∈ history, newRow services writer row.response = some row ∧
    Satisfies services row.response writer.request.outputSchema

/-- The row is the user's: one that a call of the user would be cached in. -/
def Own (row : SemanticAnswerCache 𝕖) : Prop :=
  ∃ own ∈ history, own.userId = user ∧
    ∃ response ownRow, newRow services own response = some ownRow ∧ ownRow.key = row.key

open Classical in
/-- The rows that are the user's. -/
noncomputable def ownRows (rows : List (SemanticAnswerCache 𝕖)) : List (SemanticAnswerCache 𝕖) :=
  rows.filter fun row => decide (Own services user history row)

end

section

variable {user : String} {history : List InferenceCall}

theorem written_executeLlm (written : Written services history rows) (isIn : call ∈ history) :
    Written services history (executeLlm services call rows).rows := by
  unfold executeLlm
  split
  · exact written
  · exact written
  unfold rowsAfter
  split
  · rename_i answer
    unfold persist
    split
    · rename_i row made
      split
      · intro old stored
        rcases List.mem_append.mp stored with stored | stored
        · exact written old (List.mem_of_mem_filter stored)
        · obtain rfl := List.mem_singleton.mp stored
          rw [response_newRow made]
          exact ⟨call, isIn, made, satisfies_of_modelAnswer answer⟩
      · exact written
    · exact written
  · exact written

variable (apart : Apart services user history) (written : Written services history rows)
  (isIn : call ∈ history)

include apart written isIn

/-- A row that answers the user is the user's, and fits the request. -/
theorem own_of_answers (own : call.userId = user) {row : SemanticAnswerCache 𝕖}
    (stored : row ∈ rows) (found : Answers services call row) :
    Own services user history row ∧
      Satisfies services row.response call.request.outputSchema := by
  obtain ⟨writer, wrote, made, satisfied⟩ := written row stored
  by_cases theirs : writer.userId = user
  · refine ⟨⟨writer, wrote, theirs, _, row, made, rfl⟩, ?_⟩
    rw [← apart.schema call isIn own writer wrote theirs _ row made found]
    exact satisfied
  · exact absurd found (apart.foreign call isIn own writer wrote theirs _ row made).1

theorem lookup_ownRows (own : call.userId = user) :
    lookup services call (ownRows services user history rows) = lookup services call rows :=
  lookup_filter fun row stored found => by
    simpa using (own_of_answers apart written isIn own stored found).1

/-- What the user is told satisfies the schema. -/
theorem satisfies_executeLlm (own : call.userId = user)
    (returned : (executeLlm services call rows).answer = .ok (result, layer)) :
    Satisfies services result.output call.request.outputSchema := by
  unfold executeLlm at returned
  split at returned
  · cases returned
  · rename_i response found
    cases returned
    obtain ⟨row, stored, found, same⟩ := answers_of_lookup found
    rw [← same]
    exact (own_of_answers apart written isIn own stored found).2
  · exact satisfies_of_modelAnswer returned

omit written in
/-- What the user's calls cache is the user's, and no other call touches it. -/
theorem ownRows_persist (result : LLMResult) :
    ownRows services user history (persist services call result rows) =
      if call.userId = user then persist services call result (ownRows services user history rows)
      else ownRows services user history rows := by
  unfold persist
  cases made : newRow services call result.output with
  | none => simp
  | some row =>
    dsimp only
    cases result.output.truthy with
    | false => simp
    | true =>
      simp only [if_true]
      unfold ownRows
      rw [List.filter_append]
      by_cases own : call.userId = user
      · have mine : Own services user history row := ⟨call, isIn, own, _, row, made, rfl⟩
        rw [if_pos own, List.filter_filter, List.filter_filter]
        simp only [List.filter_cons, mine, decide_true, if_true, List.filter_nil, Bool.and_comm]
      · have foreign : ¬ Own services user history row := by
          rintro ⟨owner, listed, owns, _, ownRow, ownMade, same⟩
          exact (apart.foreign owner listed owns call isIn own _ row made).2 _ ownRow ownMade
            same.symm
        have kept : ∀ old ∈ rows, Own services user history old → old.key ≠ row.key := by
          rintro old - ⟨owner, listed, owns, _, ownRow, ownMade, same⟩ eq
          exact foreign ⟨owner, listed, owns, _, ownRow, ownMade, same.trans eq⟩
        rw [if_neg own, List.filter_filter]
        simp only [List.filter_cons, foreign, decide_false, Bool.false_eq_true, if_false,
          List.filter_nil, List.append_nil]
        refine List.filter_congr fun old stored => ?_
        by_cases mine : Own services user history old <;> simp [mine, kept old stored]

/-- A call of the user does with all the rows what it does with the user's. -/
theorem executeLlm_ownRows (own : call.userId = user) :
    (executeLlm services call (ownRows services user history rows)).answer =
        (executeLlm services call rows).answer ∧
      (executeLlm services call (ownRows services user history rows)).rows =
        ownRows services user history (executeLlm services call rows).rows := by
  unfold executeLlm
  rw [lookup_ownRows apart written isIn own]
  split
  · exact ⟨rfl, rfl⟩
  · exact ⟨rfl, rfl⟩
  · refine ⟨rfl, ?_⟩
    unfold rowsAfter
    split
    · rw [ownRows_persist apart isIn, if_pos own]
    · rfl

omit written in
/-- A call of another user leaves the user's rows alone. -/
theorem ownRows_executeLlm (foreign : call.userId ≠ user) :
    ownRows services user history (executeLlm services call rows).rows =
      ownRows services user history rows := by
  unfold executeLlm
  split
  · rfl
  · rfl
  · unfold rowsAfter
    split
    · rw [ownRows_persist apart isIn, if_neg foreign]
    · rfl

end

/-- The answers to a user, among those to all. -/
def answersTo (user : String)
    (given : List (InferenceCall × Except LLMError (LLMResult × InferenceLayer))) :=
  given.filter fun entry => entry.1.userId = user

/-- What a user is told is what the user would be told without the others. -/
theorem answersTo_eq {user : String} {history : List InferenceCall}
    (apart : Apart services user history) (calls : List InferenceCall)
    (among : ∀ call ∈ calls, call ∈ history) (written : Written services history rows) :
    answersTo user (answers services rows calls) = answers services
        (ownRows services user history rows) (calls.filter fun call => call.userId = user) ∧
      ∀ entry ∈ answersTo user (answers services rows calls), ∀ result layer,
        entry.2 = .ok (result, layer) →
          Satisfies services result.output entry.1.request.outputSchema := by
  induction calls generalizing rows with
  | nil => exact ⟨rfl, fun _ isIn => nomatch isIn⟩
  | cons call rest ih =>
    have isIn := among call List.mem_cons_self
    obtain ⟨later, satisfied⟩ := ih (fun other listed => among other (.tail _ listed))
      (written_executeLlm written isIn)
    by_cases own : call.userId = user
    · have told : answersTo user (answers services rows (call :: rest)) =
          (call, (executeLlm services call rows).answer) ::
            answersTo user (answers services (executeLlm services call rows).rows rest) := by
        simp [answersTo, answers, own]
      have asked : (call :: rest).filter (fun call => call.userId = user) =
          call :: rest.filter fun call => call.userId = user := by simp [own]
      obtain ⟨answer, after⟩ := executeLlm_ownRows apart written isIn own
      rw [told, asked, later, answers, answer, after]
      refine ⟨rfl, fun entry listed result layer returned => ?_⟩
      rcases List.mem_cons.mp listed with rfl | listed
      · exact satisfies_executeLlm apart written isIn own returned
      · exact satisfied entry (later ▸ listed) result layer returned
    · have told : answersTo user (answers services rows (call :: rest)) =
          answersTo user (answers services (executeLlm services call rows).rows rest) := by
        simp [answersTo, answers, own]
      have asked : (call :: rest).filter (fun call => call.userId = user) =
          rest.filter fun call => call.userId = user := by simp [own]
      rw [told, asked]
      rw [ownRows_executeLlm apart isIn own] at later
      exact ⟨later, satisfied⟩

/-- Models that repeat what they are asked, and questions that are alike if they are as long. -/
def echoServices : LayerServices ℕ :=
  servicesOf (fun _ request => [("answer", .str request.prompt)]) (fun _ => [])
    (fun query => .ok query.length) fun first second => if first = second then 0 else 1

def ownQuestion : InferenceCall := question "u" "plan" {}

def lastAnswer (history : List InferenceCall) : Option String :=
  match (answers echoServices [] history).getLast? with
  | some (_, .ok ({ output := .dict [(_, .str text)], .. }, _)) => some text
  | _ => none

end AgentOrchestration.Llm.LayeredInference
