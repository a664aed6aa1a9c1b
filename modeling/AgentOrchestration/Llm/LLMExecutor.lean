import AgentOrchestration.Guardrails.GuardrailEngine

/-!
# The LLM executor

Model of `LLMExecutor.execute_llm`: the provider is chosen, the guardrails are asked, the provider
is called and its response priced, parsed, validated and checked against the limits of the request;
only then are the completion events appended and the cost recorded.

The provider, the event store, the circuit breaker, `orjson` and `jsonschema` belong to the
environment: an `LLMExecutor` says what each of them comes to. `LLMState.responses` keeps what the
providers returned, with the cost of each response, and `LLMState.contacts` how the provider and the
circuit breaker were called.
-/

namespace AgentOrchestration.Llm

set_option autoImplicit false

open Guardrails
open Interleaving (Thread)

/-! ## The environment -/

inductive LLMError where
  | domainValidation (message : String)
  /-- Anything raised by a provider, the event store, the circuit breaker or Python itself. -/
  | other (className : String)
  deriving DecidableEq

/-- What `jsonschema.validate` comes to. -/
inductive SchemaVerdict where
  | valid
  | invalid
  | broken
  deriving DecidableEq

/-- A provider to call: the model it serves and its `infer`. -/
structure ProviderInstance where
  providerModel : String
  infer : LLMRequest → Except LLMError LLMResult

inductive BreakerOperation where
  | ensureClosed
  | recordSuccess
  | recordFailure
  deriving DecidableEq

/-- `CircuitBreaker`, which has its own keys: what each of its operations comes to. -/
structure CircuitBreaker where
  perform : BreakerOperation → Except LLMError Unit

/-- `LLMExecutor`, with what its collaborators do during one call. -/
structure LLMExecutor where
  provider : Option (LLMRequest → Except LLMError LLMResult) := none
  /-- `provider_selector` and `provider_factory`: the instance for a model alias. -/
  select : Option (String → Except LLMError ProviderInstance) := none
  circuitBreaker : Option CircuitBreaker := none
  costEngine : Option CostEngine := none
  guardrailEngine : Option GuardrailEngine := none
  /-- The seconds that the provider takes. -/
  elapsed : ℕ := 0
  /-- What the append of the event with this number raises. -/
  appendFault : ℕ → Option LLMError := fun _ => none
  /-- `orjson.loads`. -/
  loads : String → Option Value
  /-- `jsonschema.validate`, of an instance and a schema. -/
  validate : Value → Fields → SchemaVerdict

/-- The arguments of `execute_llm` that are read here. -/
structure ExecuteArguments where
  request : LLMRequest
  tenantId : ℕ
  flowRunId : ℕ
  provider : String := "OPENAI"
  policyLlm : Option LLMPolicy := none

structure LLMCall where
  executor : LLMExecutor
  arguments : ExecuteArguments

structure Target where
  request : LLMRequest
  providerModel : String
  infer : LLMRequest → Except LLMError LLMResult

inductive LLMEvent where
  | llmCallStarted (modelAlias providerModel : String)
  | guardrailChecked (decision : GuardrailDecision)
  | guardrailBlocked (decision : GuardrailDecision)
  | guardrailDegraded (decision : GuardrailDecision) (modelAlias providerModel : String)
  | llmCallCompleted (providerModel : String) (result : LLMResult)
  | nodePromptExecuted (promptVersion : ℕ) (frozenHash : String) (result : LLMResult)
  | llmCallFailed (error : LLMError)

/-- A response of a provider, with its cost: the call it came in, the request that was sent, the
number of events appended before and the time. -/
structure ProviderResponse where
  call : LLMCall
  request : LLMRequest
  result : LLMResult
  appended : ℕ
  time : ℕ

/-- A call of `infer`, which may have raised, or of the circuit breaker. -/
inductive Contact where
  | infer (returned : Bool)
  | breaker (operation : BreakerOperation)
  deriving DecidableEq

structure LLMState where
  redis : Redis
  events : List (ℕ × LLMEvent)
  /-- How many appends were tried. -/
  appended : ℕ
  responses : List ProviderResponse
  contacts : List Contact

def LLMState.empty : LLMState := ⟨.empty, [], 0, [], []⟩

/-- A program of the executor. -/
abbrev LLM := EStateM LLMError LLMState

/-! ## The response -/

section

variable (executor : LLMExecutor)

def validateSchema (payload : Value) (schema : Fields) (errorCode : String) :
    Except LLMError Unit :=
  if schema = [] then .ok ()
  else
    match executor.validate payload schema with
    | .valid => .ok ()
    | .invalid => .error (.domainValidation errorCode)
    | .broken => .error (.domainValidation "internal_schema_validation_error")

variable (request : LLMRequest)

def inputToValidate : Fields :=
  if request.userPayload ≠ [] then request.userPayload
  else if request.inputPayload ≠ [] then request.inputPayload
  else
    match request.userMessage.filter (· ≠ "") with
    | some userMessage => [("user_message", .str userMessage)]
    | none => [("prompt", .str request.prompt)]

def outputText : Value → Option String
  | .str text => some text
  | .dict [("content", .str text)] => some text
  | _ => none

def parseOutput (output : Value) : Except LLMError Value :=
  match outputText output with
  | none => .ok output
  | some text =>
    match executor.loads text with
    | some parsed => .ok parsed
    | none => .error (.domainValidation "llm_output_json_parse_error")

/-- The completion tokens that `_enforce_policy` compares. -/
def completionTokens (tokenUsage : List (String × ℕ)) : ℕ :=
  (((tokenUsage.lookup "completion_tokens").or (tokenUsage.lookup "output_tokens")).or
    (tokenUsage.lookup "total_tokens")).getD 0

def enforcePolicy (result : LLMResult) : Except LLMError Unit :=
  if (exceeded request.maxTokens (completionTokens result.tokenUsage)).isSome then
    .error (.domainValidation "llm_policy_max_tokens_exceeded")
  else if (result.costUsd.bind (exceeded request.maxCostUsd)).isSome then
    .error (.domainValidation "llm_policy_cost_exceeded")
  else if (result.latencyMs.bind (exceeded (request.maxLatencyMs.map Nat.cast))).isSome then
    .error (.domainValidation "llm_policy_latency_exceeded")
  else .ok ()

def acceptResponse (result : LLMResult) : Except LLMError LLMResult := do
  let output ← parseOutput executor result.output
  let accepted := { result with output }
  validateSchema executor output request.outputSchema "llm_output_invalid"
  enforcePolicy request accepted
  return accepted

def priceResponse (provider providerModel : String) (result : LLMResult) :
    Except LLMError LLMResult :=
  match executor.costEngine with
  | none => .ok result
  | some costEngine =>
    match costEngine.computeCost provider providerModel result.tokenUsage with
    | some cost => .ok { result with costUsd := some cost }
    | none => .error (.domainValidation "llm_pricing_not_found")

end

/-! ## The call -/

section

variable (call : LLMCall) {α : Type}

/-- Return or raise. -/
def ofExcept : Except LLMError α → LLM α
  | .ok value => pure value
  | .error error => throw error

def onRedis (thread : Thread Redis LLMError α) : LLM α := fun state =>
  match thread.run state.redis with
  | .ok value redis => .ok value { state with redis }
  | .error error redis => .error error { state with redis }

def appendExecutionEvent (event : LLMEvent) : LLM PUnit := fun state =>
  match call.executor.appendFault state.appended with
  | some error => .error error { state with appended := state.appended + 1 }
  | none => .ok ⟨⟩ { state with
      appended := state.appended + 1
      events := state.events ++ [(call.arguments.flowRunId, event)] }

def target (select : String → Except LLMError ProviderInstance) (request : LLMRequest)
    (modelAlias : String) : Except LLMError Target := do
  let selection ← select modelAlias
  return ⟨{ request with modelAlias := selection.providerModel }, selection.providerModel,
    selection.infer⟩

def chooseProvider : Except LLMError Target :=
  match call.executor.select, call.executor.provider with
  | some select, _ => target select call.arguments.request call.arguments.request.modelAlias
  | none, some infer => .ok ⟨call.arguments.request, call.arguments.request.modelAlias, infer⟩
  | none, none => .error (.domainValidation "llm_provider_not_configured")

def contact (made : Contact) : LLM PUnit :=
  modify fun state => { state with contacts := state.contacts ++ [made] }

def onCircuitBreaker (operation : BreakerOperation) : LLM PUnit :=
  match call.executor.circuitBreaker with
  | some circuitBreaker => do
      contact (.breaker operation)
      ofExcept (circuitBreaker.perform operation)
  | none => pure ⟨⟩

variable (chosen : Target)

/-- A degraded call is sent to another model, where one can be selected. -/
def degradedTarget (overrides : GuardrailOverrides) : Except LLMError Target :=
  match overrides.modelAlias.filter (· ≠ ""), call.executor.select with
  | some modelAlias, some select => target select chosen.request modelAlias
  | _, _ => .ok chosen

def applyDecision (decision : GuardrailDecision) : LLM Target :=
  match decision.decision with
  | .allow => pure chosen
  | .block => do
      appendExecutionEvent call (.guardrailBlocked decision)
      throw (.domainValidation "guardrail_blocked")
  | .degrade => do
      let degraded ← ofExcept (degradedTarget call chosen decision.overrides)
      appendExecutionEvent call
        (.guardrailDegraded decision degraded.request.modelAlias degraded.providerModel)
      match decision.overrides.maxLatencyMs.filter (· ≠ 0) with
      | some maxLatencyMs =>
        return { degraded with
          request := { degraded.request with maxLatencyMs := some maxLatencyMs } }
      | none => return degraded

def askGuardrails : LLM Target :=
  match call.executor.guardrailEngine, call.arguments.policyLlm with
  | some engine, some policy => do
      let decision ← onRedis (engine.checkAndReserve call.arguments.tenantId
        call.arguments.flowRunId chosen.request policy call.arguments.provider chosen.providerModel)
      appendExecutionEvent call (.guardrailChecked decision)
      applyDecision call chosen decision
  | _, _ => pure chosen

/-- `infer`, as it is logged, and the time it takes. -/
def callProvider : LLM LLMResult := do
  contact (.infer (chosen.infer chosen.request).isOk)
  modify fun state => { state with redis := state.redis.wait call.executor.elapsed }
  ofExcept (chosen.infer chosen.request)

def inferResponse : LLM LLMResult := do
  let returned ← callProvider call chosen
  let result ← ofExcept
    (priceResponse call.executor call.arguments.provider chosen.providerModel returned)
  modify fun state => { state with
    responses := state.responses ++
      [⟨call, chosen.request, result, state.appended, state.redis.now⟩] }
  return result

def promptExecuted (request : LLMRequest) : Option (ℕ × String) :=
  match request.promptVersion.filter (· ≠ 0), request.promptFrozenHash.filter (· ≠ "") with
  | some promptVersion, some frozenHash => some (promptVersion, frozenHash)
  | _, _ => none

variable (result : LLMResult)

def appendPromptExecuted : LLM PUnit :=
  match promptExecuted call.arguments.request with
  | some (promptVersion, frozenHash) =>
    appendExecutionEvent call (.nodePromptExecuted promptVersion frozenHash result)
  | none => pure ⟨⟩

def recordCost : LLM PUnit :=
  match call.executor.guardrailEngine, call.arguments.policyLlm with
  | some _, some policy =>
    onRedis (recordPostCallCost call.arguments.tenantId call.arguments.flowRunId policy
      result.costUsd)
  | _, _ => pure ⟨⟩

def complete : LLM LLMResult := do
  let accepted ← ofExcept (acceptResponse call.executor chosen.request result)
  appendExecutionEvent call (.llmCallCompleted chosen.providerModel accepted)
  appendPromptExecuted call accepted
  recordCost call accepted
  onCircuitBreaker call .recordSuccess
  return accepted

/-- The `try` block of `execute_llm`. -/
def attemptCall : LLM LLMResult := do
  -- The span is named after the task type, which has to be there.
  let _ ← Program.ofOption (.other "AttributeError") call.arguments.request.taskType
  ofExcept (validateSchema call.executor (.dict (inputToValidate chosen.request))
    chosen.request.inputSchema "llm_input_invalid")
  let asked ← askGuardrails call chosen
  let result ← inferResponse call asked
  complete call asked result

/-- The `except` block of `execute_llm`. -/
def failCall (error : LLMError) : LLM α := do
  onCircuitBreaker call .recordFailure
  appendExecutionEvent call (.llmCallFailed error)
  throw error

/-- The part of `execute_llm` before its `try` block. -/
def startCall : LLM Target := do
  let chosen ← ofExcept (chooseProvider call)
  onCircuitBreaker call .ensureClosed
  appendExecutionEvent call (.llmCallStarted chosen.request.modelAlias chosen.providerModel)
  return chosen

def executeLlm : LLM LLMResult := do
  let chosen ← startCall call
  match ← Program.attempt (attemptCall call chosen) with
  | .ok result => pure result
  | .error error => failCall call error

end

inductive Occurrence where
  | pass (seconds : ℕ)
  | call (call : LLMCall)

def occur (state : LLMState) : Occurrence → LLMState
  | .pass seconds => { state with redis := state.redis.wait seconds }
  | .call call => Program.after (executeLlm call) state

/-- The state after calls made one after another and the time between them, whatever each call
comes to. -/
def executeAll (occurrences : List Occurrence) (state : LLMState) : LLMState :=
  occurrences.foldl occur state

end AgentOrchestration.Llm
