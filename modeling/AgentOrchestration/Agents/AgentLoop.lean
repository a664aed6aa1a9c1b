import AgentOrchestration.Agents.ToolGrant

/-!
# The cognitive loop of an agent run

`AgentCognitiveLoop.run` asks the model for a turn, dispatches the tool calls of the turn
one after another, and asks again, for at most `max_iterations` turns.
`AgentToolDispatcher` turns a call into a tool run or a delegated task.
-/

namespace AgentOrchestration.AgentRuntime

set_option autoImplicit false

open Agents (AgentRunStatus)
open Interleaving (Thread)
open Lifecycle (RunStatus)

/-! ## Turns -/

inductive AgentTurnRole where
  | system
  | developer
  | user
  | assistant
  | tool
  deriving DecidableEq, Repr

structure AgentToolCall where
  callId : String
  name : String
  arguments : Fields
  deriving DecidableEq

structure AgentTurnMessage where
  role : AgentTurnRole
  content : Option String
  toolCalls : List AgentToolCall
  toolCallId : Option String
  toolName : Option String
  deriving DecidableEq

structure AgentToolDefinition where
  name : String
  description : String
  parameters : Fields
  deriving DecidableEq

structure AgentTurnRequest where
  modelAlias : String
  messages : List AgentTurnMessage
  tools : List AgentToolDefinition
  principalId : String
  agentRunId : ℕ

structure AgentTurnCompletion where
  text : String
  toolCalls : List AgentToolCall
  stopReason : String
  tokenUsage : List (String × ℤ)

structure AgentRunPromptPart where
  source : String
  role : AgentTurnRole
  content : String
  trustLevel : String
  provenance : Fields

def AgentRunPromptPart.toMessage (part : AgentRunPromptPart) : AgentTurnMessage :=
  ⟨part.role, some part.content, [], none, none⟩

structure AgentRunScope where
  tenantId : ℕ
  principalId : String
  agentRunId : ℕ
  agentId : ℕ
  correlationId : ℕ
  rootAgentRunId : ℕ
  delegationDepth : ℕ

/-! ## What a run writes -/

/-- What `append_message` is given. -/
structure NewAgentRunMessage where
  role : AgentTurnRole
  content : Option String
  toolCalls : List AgentToolCall
  toolCallId : Option String
  toolName : Option String
  trustLevel : Option String
  source : String
  provenance : Fields

structure AgentRunMessageRow extends NewAgentRunMessage where
  messageSequence : ℕ

/-- `ExecutionEventType`, the events of agent runs. -/
inductive AgentRunEventType where
  | llmCallStarted
  | llmCallFailed
  | llmCallCompleted
  | toolInvocationRequested
  | toolInvocationDenied
  | toolInvocationSucceeded
  | toolInvocationFailed
  | agentDelegationCompleted
  | agentDelegationFailed
  | agentRunCompleted
  | agentRunFailed
  | agentRunAborted
  deriving DecidableEq, Repr

/-- A row of `tool_run`, as `create_tool_run` inserts it. -/
structure ToolRunRow where
  toolRunId : ℕ
  toolConfigId : ℕ
  correlationId : ℕ
  agentRunId : ℕ
  idempotencyKey : String
  hasSideEffect : Bool
  input : Fields
  toolCallId : String
  deriving DecidableEq

/-- `A2ATaskState`, the states that a task is given here. -/
inductive A2ATaskState where
  | submitted
  | completed
  | failed
  | rejected
  deriving DecidableEq, Repr

/-- The columns of a new row of `agent_delegation`. -/
structure NewDelegation where
  agentDelegationId : ℕ
  tenantId : ℕ
  parentAgentRunId : ℕ
  targetAgentId : ℕ
  a2aTaskId : String
  a2aContextId : String
  instruction : String
  payload : Fields
  correlationId : ℕ
  deriving DecidableEq

structure AgentDelegationRow extends NewDelegation where
  a2aTaskState : A2ATaskState
  childAgentRunId : Option ℕ
  error : Fields
  deriving DecidableEq

inductive AgentRunFinishReason where
  | finalOutput
  | maxIterations
  | llmError
  | cancelled
  deriving DecidableEq, Repr

def AgentRunFinishReason.text : AgentRunFinishReason → String
  | .finalOutput => "FINAL_OUTPUT"
  | .maxIterations => "MAX_ITERATIONS"
  | .llmError => "LLM_ERROR"
  | .cancelled => "CANCELLED"

/-- The columns of `agent_run` that an execution writes. -/
structure AgentRunColumns where
  status : RunStatus
  canonicalStatus : AgentRunStatus
  output : Fields
  error : Fields
  finishReason : Option AgentRunFinishReason
  iterationsUsed : ℕ
  inputTokens : Option ℤ
  outputTokens : Option ℤ
  estimatedCost : Option ℚ
  deriving DecidableEq

/-- What is written for a run; `requests` are the requests that the model was sent, and `calls`
counts the calls of the repository so far. -/
structure AgentRunRecord where
  run : AgentRunColumns
  requests : List AgentTurnRequest
  messages : List AgentRunMessageRow
  events : List (AgentRunEventType × Fields)
  toolRuns : List ToolRunRow
  delegations : List AgentDelegationRow
  artifacts : List String
  calls : ℕ

/-! ## The environment -/

/-- What a run raises. -/
inductive RuntimeError where
  /-- `DomainValidationException`, with `errors()`. -/
  | domainValidation (message : String) (errors : List String)
  /-- Another `Exception`: the name of its type, and its text. -/
  | exception (name text : String)
  /-- `CancelledError`, which `except Exception` does not catch. -/
  | cancelled
  deriving DecidableEq, Repr

/-- `type(exc).__name__`. -/
def RuntimeError.name : RuntimeError → String
  | .domainValidation _ _ => "DomainValidationException"
  | .exception name _ => name
  | .cancelled => "CancelledError"

/-- `str(exc)`. -/
def RuntimeError.text : RuntimeError → String
  | .domainValidation message _ => "400: " ++ message
  | .exception _ text => text
  | .cancelled => ""

structure A2ATaskExecution where
  tenantId : ℕ
  principalId : String
  targetAgentId : ℕ
  taskId : String
  contextId : String
  instruction : String
  payload : Fields
  parentAgentRunId : ℕ
  rootAgentRunId : ℕ
  delegationDepth : ℕ
  correlationId : ℕ

structure A2ATaskExecutionResult where
  state : A2ATaskState
  childAgentRunId : Option ℕ
  outputText : String
  error : Fields

/-- Everything that a run meets: the model, the tools, the other agents and the repository. -/
structure RuntimeEnvironment where
  /-- `complete_agent_turn`, in an iteration. -/
  completeAgentTurn : ℕ → AgentTurnRequest → Except RuntimeError AgentTurnCompletion
  /-- What `_record_turn_usage` returns in an iteration. -/
  turnCost : ℕ → ℚ
  /-- `execute_agent_tool_run`. -/
  executeAgentToolRun : ToolRunRow → Except RuntimeError Fields
  /-- `run_a2a_task`. -/
  runA2ATask : A2ATaskExecution → Except RuntimeError A2ATaskExecutionResult
  /-- `uuid4()`, by the calls of the repository before it. -/
  uuid4 : ℕ → ℕ
  /-- The `uuid4()` of `new_task_id`. -/
  taskUuid4 : ℕ → ℕ
  /-- What a call of the repository raises, by the calls before it. -/
  fault : ℕ → Option RuntimeError
  /-- `max_delegation_depth`. -/
  maxDelegationDepth : ℕ

abbrev Runtime := Thread AgentRunRecord RuntimeError

def write (env : RuntimeEnvironment) (f : AgentRunRecord → AgentRunRecord) : Runtime PUnit :=
  .atomic fun record =>
    match env.fault record.calls with
    | some raised => .error raised { record with calls := record.calls + 1 }
    | none => .ok ⟨⟩ { f record with calls := record.calls + 1 }

/-- `except Exception`: everything but a cancellation is handled. -/
def catchException {α β : Type} (body : Runtime α) (handle : RuntimeError → Runtime β)
    (go : α → Runtime β) :
    Runtime β := do
  match ← body.attempt with
  | .ok value => go value
  | .error .cancelled => .raised .cancelled
  | .error raised => handle raised

section

variable (env : RuntimeEnvironment)

def nextSequence (rows : List AgentRunMessageRow) : ℕ :=
  ((rows.map AgentRunMessageRow.messageSequence).max?).getD 0 + 1

def appendMessage (message : NewAgentRunMessage) : Runtime PUnit :=
  write env fun record => { record with
    messages := record.messages ++
      [{ message with messageSequence := nextSequence record.messages }] }

def freshUuid (uuid4 : ℕ → ℕ) : Runtime ℕ := .read fun record => .ok (uuid4 record.calls)

def appendEvent (eventType : AgentRunEventType) (payload : Fields) : Runtime PUnit :=
  write env fun record => { record with events := record.events ++ [(eventType, payload)] }

def AgentRunRecord.listMessages (record : AgentRunRecord) : List AgentRunMessageRow :=
  record.messages.mergeSort fun first second => first.messageSequence ≤ second.messageSequence

end

section

open Interleaving.Thread (Ensures)

variable {α β : Type} {env : RuntimeEnvironment} {law : AgentRunRecord → AgentRunRecord → Prop}
  {P R E : AgentRunRecord → Prop}

abbrev AnyStep : AgentRunRecord → AgentRunRecord → Prop := fun _ _ => True

/-- A program that keeps an invariant, whether it returns or raises. -/
abbrev Preserves (I : AgentRunRecord → Prop) (program : Runtime α) : Prop :=
  Ensures AnyStep I program (fun _ => I) I

theorem ensures_write {Q : PUnit → AgentRunRecord → Prop} {f} (writes : ∀ record, P record →
      law record { f record with calls := record.calls + 1 } ∧
        Q ⟨⟩ { f record with calls := record.calls + 1 })
    (raises : ∀ record, P record →
      law record { record with calls := record.calls + 1 } ∧
        E { record with calls := record.calls + 1 }) :
    Ensures law P (write env f) Q E := by
  refine .atomic ?_ ?_
  · intro record before
    cases fault : env.fault record.calls with
    | some raised => simpa only [fault] using (raises record before).2
    | none => simpa only [fault] using (writes record before).2
  · intro record before
    show law record (Program.after _ record)
    unfold Program.after
    cases fault : env.fault record.calls with
    | some raised => simpa only [fault] using (raises record before).1
    | none => simpa only [fault] using (writes record before).1

theorem ensures_freshUuid {uuid4} (reflexive : ∀ record, law record record) :
    Ensures law P (freshUuid uuid4) (fun _ => P) E :=
  ⟨fun record _ => ⟨reflexive record, trivial⟩, fun _ before => before⟩

theorem ensures_catchException {Q : α → AgentRunRecord → Prop} {T : β → AgentRunRecord → Prop}
    {body handle go} (inner : Ensures law P body Q R) (cancelled : ∀ record, R record → E record)
    (handles : ∀ raised, Ensures law R (handle raised) T E)
    (goes : ∀ val, Ensures law (Q val) (go val) T E) :
    Ensures law P (catchException body handle go) T E := by
  refine .bind (Ensures.attempt inner) fun res => ?_
  cases res with
  | ok val => exact goes val
  | error raised =>
    cases raised with
    | cancelled => exact .raised cancelled
    | domainValidation msg errors | exception name text => exact handles _

end

/-! ## `A2ADelegationService` -/

structure A2ADelegationRequest where
  tenantId : ℕ
  principalId : String
  parentAgentRunId : ℕ
  rootAgentRunId : ℕ
  delegationDepth : ℕ
  correlationId : ℕ
  targetAgentId : ℕ
  instruction : String
  payload : Fields

/-- `A2ADelegationOutcome`: the task that is made of the result. -/
structure A2ADelegationOutcome where
  taskId : String
  state : A2ATaskState
  childAgentRunId : Option ℕ
  outputText : String

section

variable (libraries : Libraries) (env : RuntimeEnvironment)

def createDelegation (delegation : NewDelegation) : Runtime PUnit :=
  write env fun record => { record with
    delegations := record.delegations ++
      [{ delegation with a2aTaskState := .submitted, childAgentRunId := none, error := [] }] }

def updateDelegationResult (agentDelegationId : ℕ) (state : A2ATaskState)
    (childAgentRunId : Option ℕ)
    (error : Fields) : Runtime PUnit :=
  write env fun record => { record with
    delegations := record.delegations.map fun row =>
      if row.agentDelegationId = agentDelegationId then
        { row with a2aTaskState := state, childAgentRunId, error }
      else row }

variable (request : A2ADelegationRequest) (uuid taskUuid : ℕ)

/-- The row that `delegate` inserts, and the task that it hands on. -/
def A2ADelegationRequest.newDelegation : NewDelegation :=
  { agentDelegationId := uuid, tenantId := request.tenantId
    parentAgentRunId := request.parentAgentRunId
    targetAgentId := request.targetAgentId, a2aTaskId := libraries.hex taskUuid
    a2aContextId := libraries.hex request.rootAgentRunId, instruction := request.instruction
    payload := request.payload, correlationId := request.correlationId }

def A2ADelegationRequest.execution : A2ATaskExecution :=
  { tenantId := request.tenantId, principalId := request.principalId,
    targetAgentId := request.targetAgentId
    taskId := libraries.hex taskUuid, contextId := libraries.hex request.rootAgentRunId
    instruction := request.instruction, payload := request.payload
    parentAgentRunId := request.parentAgentRunId, rootAgentRunId := request.rootAgentRunId
    delegationDepth := request.delegationDepth + 1, correlationId := request.correlationId }

def delegate : Runtime A2ADelegationOutcome := do
  Thread.raiseIf (env.maxDelegationDepth ≤ request.delegationDepth)
    (.domainValidation "a2a_delegation_depth_exceeded" [])
  let taskUuid ← freshUuid env.taskUuid4
  let uuid ← freshUuid env.uuid4
  createDelegation env (request.newDelegation libraries uuid taskUuid)
  catchException (.ofExcept (env.runA2ATask (request.execution libraries taskUuid)))
    (fun raised => do
      updateDelegationResult env uuid .failed none
        [("type", .str raised.name), ("message", .str raised.text)]
      .raised raised)
    (fun result => do
      updateDelegationResult env uuid result.state result.childAgentRunId result.error
      return ⟨libraries.hex taskUuid, result.state, result.childAgentRunId, result.outputText⟩)

end

/-! ## `AgentToolDispatcher` -/

inductive AgentToolCallStatus where
  | success
  | denied
  | invalidArguments
  | error
  deriving DecidableEq, Repr

def AgentToolCallStatus.text : AgentToolCallStatus → String
  | .success => "SUCCESS"
  | .denied => "DENIED"
  | .invalidArguments => "INVALID_ARGUMENTS"
  | .error => "ERROR"

def A2ATaskState.text : A2ATaskState → String
  | .submitted => "submitted"
  | .completed => "completed"
  | .failed => "failed"
  | .rejected => "rejected"

/-- `ToolCallOutcome`, what the loop reads of it. -/
structure ToolCallOutcome where
  toolCallId : String
  functionName : String
  status : AgentToolCallStatus
  resultText : String
  toolRunId : Option ℕ
  error : Fields
  childAgentRunId : Option ℕ
  a2aTaskId : Option String

def delegationToolName : String := "delegate_to_agent"

def maxResultTextChars : ℕ := 20000

section

variable (libraries : Libraries) (env : RuntimeEnvironment) (scope : AgentRunScope)
  (grant : ResolvedToolGrant)

def resultText (result : Fields) : String :=
  let text := libraries.jsonDumps (.dict result)
  if text.length ≤ maxResultTextChars then text
  else String.ofList (text.toList.take maxResultTextChars) ++ "...\"truncated\""

variable (call : AgentToolCall)

def failedCall (status : AgentToolCallStatus) (shown error : Fields) : ToolCallOutcome :=
  { toolCallId := call.callId, functionName := call.name, status,
    resultText := libraries.jsonDumps (.dict shown)
    toolRunId := none, error, childAgentRunId := none, a2aTaskId := none }

def denied (call : AgentToolCall) (reason : String) (detail : Fields) : ToolCallOutcome :=
  failedCall libraries call .denied (("error", .str reason) :: detail)
    (("error", .str reason) :: detail)

/-- `str(tool_call.arguments.get(key) or "")`. -/
def argumentText (key : String) : String :=
  let value := (call.arguments.lookup key).getD .null
  if value.truthy then libraries.str value else ""

/-- `payload if isinstance(payload, dict) else {}`. -/
def argumentPayload : Fields := (((call.arguments.lookup "payload").getD .null).asDict?).getD []

def delegationRequest (targetAgentId : ℕ) : A2ADelegationRequest :=
  { tenantId := scope.tenantId, principalId := scope.principalId,
    parentAgentRunId := scope.agentRunId
    rootAgentRunId := scope.rootAgentRunId, delegationDepth := scope.delegationDepth
    correlationId := scope.correlationId, targetAgentId
    instruction := String.ofList (strip (argumentText libraries call "instruction"))
    payload := argumentPayload call }

def dispatchDelegation : Runtime ToolCallOutcome :=
  let rawAgentId := argumentText libraries call "agent_id"
  if grant.allowAgentDelegation = false then
    return denied libraries call "agent_delegation_not_authorized_for_this_run" []
  else
    match libraries.parseUuid rawAgentId with
    | none =>
      let error : Fields := [("error", .str "invalid_agent_id"), ("value", .str rawAgentId)]
      return failedCall libraries call .invalidArguments error error
    | some targetAgentId =>
      if grant.isDelegationAllowedFor targetAgentId = false then
        return denied libraries call "delegate_agent_not_authorized_for_this_run"
          [("requested_agent_id", .str (libraries.uuidText targetAgentId)),
            ("authorized_agent_ids",
              .list (grant.delegateAgentIds.map fun id => .str (libraries.uuidText id)))]
      else if strip (argumentText libraries call "instruction") = [] then
        let error : Fields := [("error", .str "instruction_required")]
        return failedCall libraries call .invalidArguments error error
      else
        catchException
          (delegate libraries env (delegationRequest libraries scope call targetAgentId))
          (fun raised => pure (failedCall libraries call .error
            [("error", .str "delegation_failed"), ("detail", .str raised.name)]
            [("error", .str "delegation_failed"), ("detail", .str raised.text)]))
          (fun outcome => pure
            { toolCallId := call.callId, functionName := call.name, status := .success
              resultText := resultText libraries [("a2a_task_id", .str outcome.taskId),
                ("state", .str outcome.state.text), ("result", .str outcome.outputText)]
              toolRunId := none, error := [], childAgentRunId := outcome.childAgentRunId
              a2aTaskId := some outcome.taskId })

variable (binding : AgentToolBinding)

def newToolRun (uuid : ℕ) : ToolRunRow :=
  { toolRunId := uuid, toolConfigId := binding.toolConfigId, correlationId := scope.correlationId
    agentRunId := scope.agentRunId
    idempotencyKey := libraries.uuidText scope.agentRunId ++ ":" ++ call.callId,
    hasSideEffect := true
    input := call.arguments, toolCallId := call.callId }

def createToolRun (row : ToolRunRow) : Runtime PUnit :=
  write env fun record => { record with toolRuns := record.toolRuns ++ [row] }

/-- A call to a tool of the grant with arguments that its schema accepts. -/
def runTool : Runtime ToolCallOutcome := do
  let uuid ← freshUuid env.uuid4
  let row := newToolRun libraries scope call binding uuid
  createToolRun env row
  catchException (.ofExcept (env.executeAgentToolRun row)) (fun raised => pure
      { failedCall libraries call .error [("error", .str "tool_execution_failed"),
        ("detail", .str raised.name)]
          [("error", .str "tool_execution_failed"), ("detail", .str raised.text)] with
        toolRunId := some row.toolRunId })
    (fun result => pure
      { toolCallId := call.callId, functionName := call.name, status := .success
        resultText := resultText libraries result, toolRunId := some row.toolRunId, error := []
        childAgentRunId := none, a2aTaskId := none })

def dispatch : Runtime ToolCallOutcome :=
  if call.name = delegationToolName then dispatchDelegation libraries env scope grant call
  else
    match grant.bindingFor call.name with
    | none => pure (denied libraries call "tool_not_authorized_for_this_run"
        [("requested_tool", .str call.name),
          ("authorized_tools", .list (grant.tools.map fun tool => .str tool.functionName))])
    | some binding =>
      match libraries.validate binding.requestSchema call.arguments with
      | .schemaError text => .raised (.exception "SchemaError" text)
      | .invalid message =>
        let error : Fields := [("error", .str "invalid_arguments"), ("detail", .str message)]
        return failedCall libraries call .invalidArguments error error
      | .valid => runTool libraries env scope call binding

end

/-! ## `AgentCognitiveLoop` -/

structure AgentLoopResult where
  finishReason : AgentRunFinishReason
  outputText : String
  iterationsUsed : ℕ
  inputTokens : ℤ
  outputTokens : ℤ
  estimatedCost : Option ℚ
  error : Fields
  toolCallCount : ℕ
  deriving DecidableEq

structure LoopState where
  messages : List AgentTurnMessage
  inputTokens : ℤ
  outputTokens : ℤ
  cost : ℚ
  toolCallCount : ℕ
  lastText : String

def LoopState.result (state : LoopState) (finishReason : AgentRunFinishReason) (iterationsUsed : ℕ)
    (error : Fields) : AgentLoopResult :=
  { finishReason, outputText := state.lastText, iterationsUsed, inputTokens := state.inputTokens
    outputTokens := state.outputTokens, estimatedCost := if state.cost = 0 then none
                                                         else some state.cost, error
    toolCallCount := state.toolCallCount }

variable (completion : AgentTurnCompletion)

/-- `completion.text or None`. -/
def AgentTurnCompletion.content : Option String := if completion.text = "" then none
                                                   else some completion.text

def AgentTurnCompletion.tokens (key : String) : ℤ := (completion.tokenUsage.lookup key).getD 0

section

variable (libraries : Libraries) (env : RuntimeEnvironment) (scope : AgentRunScope)
  (definition : AgentDefinition)
  (grant : ResolvedToolGrant)

def delegationToolDefinition : AgentToolDefinition :=
  { name := delegationToolName
    description :=
      "Delegate a self-contained sub-task to another agent and wait for its result. " ++
      "Use it when the task needs a capability this agent does not have."
    parameters := [("type", .str "object"), ("properties", .dict [
        ("agent_id", .dict
          [("type", .str "string"), ("description", .str "Identifier of the agent to delegate to."),
          ("enum", .list (grant.delegateAgentIds.map fun id => .str (libraries.uuidText id)))]),
        ("instruction", .dict [("type", .str "string"),
          ("description", .str "The task for the other agent, stated on its own.")]),
        ("payload", .dict [("type", .str "object"),
          ("description", .str "Structured input for the delegated task."),
          ("additionalProperties", .bool true)])]),
      ("required", .list [.str "agent_id", .str "instruction"]),
        ("additionalProperties", .bool false)] }

def buildToolDefinitions : List AgentToolDefinition :=
  (grant.tools.map fun tool =>
    { name := tool.functionName
      description := if tool.description = "" then tool.toolName else tool.description
      parameters := tool.requestSchema }) ++
    if grant.allowAgentDelegation then [delegationToolDefinition libraries grant] else []

def seedTranscript : List AgentRunPromptPart → Runtime PUnit
  | [] => return
  | part :: rest => do
      appendMessage env
        { role := part.role, content := some part.content, toolCalls := [], toolCallId := none,
          toolName := none
          trustLevel := some part.trustLevel, source := part.source, provenance := part.provenance }
      seedTranscript rest

/-- The text of an id, or `None`. -/
def optionalId (id : Option ℕ) : Value :=
  (id.map fun id => Value.str (libraries.uuidText id)).getD .null

variable (iteration : ℕ) (outcome : ToolCallOutcome)

def recordToolOutcome : Runtime PUnit :=
  let payload : Fields :=
    [("iteration", .int iteration), ("tool_call_id", .str outcome.toolCallId),
      ("function_name", .str outcome.functionName), ("status", .str outcome.status.text),
      ("tool_run_id", optionalId libraries outcome.toolRunId)]
  match outcome.a2aTaskId, outcome.status with
  | some taskId, status =>
    appendEvent env (if status = .success then .agentDelegationCompleted
                     else .agentDelegationFailed)
      (payload ++ [("a2a_task_id", .str taskId),
        ("child_agent_run_id", optionalId libraries outcome.childAgentRunId)])
  | none, .denied =>
    appendEvent env .toolInvocationDenied (payload ++ [("error", .dict outcome.error)])
  | none, .success => appendEvent env .toolInvocationSucceeded payload
  | none, _ => appendEvent env .toolInvocationFailed (payload ++ [("error", .dict outcome.error)])

def ToolCallOutcome.message : AgentTurnMessage :=
  ⟨.tool, some outcome.resultText, [], some outcome.toolCallId, some outcome.functionName⟩

def dispatchCalls (iteration : ℕ) : List AgentToolCall → LoopState → Runtime LoopState
  | [], state => return state
  | call :: rest, state => do
      appendEvent env .toolInvocationRequested
        [("iteration", .int iteration), ("tool_call_id", .str call.callId),
          ("function_name", .str call.name)]
      let outcome ← dispatch libraries env scope grant call
      recordToolOutcome libraries env iteration outcome
      appendMessage env
        { role := .tool, content := some outcome.resultText, toolCalls := []
          toolCallId := some outcome.toolCallId, toolName := some outcome.functionName
          trustLevel := some "tool_result", source := "tool_result"
          provenance := [("iteration", .int iteration), ("status", .str outcome.status.text),
            ("tool_run_id", optionalId libraries outcome.toolRunId)] }
      dispatchCalls iteration rest
        { state with
          messages := state.messages ++ [outcome.message],
          toolCallCount := state.toolCallCount + 1 }

variable (state : LoopState)

def LoopState.afterTurn (iteration : ℕ) (completion : AgentTurnCompletion) : LoopState :=
  { state with
    messages := state.messages ++
      [⟨.assistant, completion.content, completion.toolCalls, none, none⟩]
    inputTokens := state.inputTokens + completion.tokens "input_tokens"
    outputTokens := state.outputTokens + completion.tokens "output_tokens"
    cost := state.cost + env.turnCost iteration
    lastText := if completion.text = "" then state.lastText else completion.text }

def recordTurn (completion : AgentTurnCompletion) : Runtime PUnit := do
  appendEvent env .llmCallCompleted
    [("iteration", .int iteration), ("stop_reason", .str completion.stopReason),
      ("tool_call_count", .int completion.toolCalls.length),
      ("token_usage", .dict (completion.tokenUsage.map fun entry => (entry.1, .int entry.2)))]
  appendMessage env
    { role := .assistant, content := completion.content, toolCalls := completion.toolCalls,
      toolCallId := none
      toolName := none, trustLevel := none, source := "llm_turn",
      provenance := [("iteration", .int iteration)] }

def turnRequest : AgentTurnRequest :=
  { modelAlias := definition.modelName, messages := state.messages,
    tools := buildToolDefinitions libraries grant
    principalId := scope.principalId, agentRunId := scope.agentRunId }

def sendRequest (request : AgentTurnRequest) : Runtime PUnit :=
  .update fun record => { record with requests := record.requests ++ [request] }

def runTurns (iteration : ℕ) : ℕ → LoopState → Runtime AgentLoopResult
  | 0, state =>
    let maxIterations := iteration - 1
    return state.result .maxIterations maxIterations
      [("error", .str "max_iterations_reached"), ("max_iterations", .int maxIterations)]
  | turns + 1, state => do
      appendEvent env .llmCallStarted
        [("iteration", .int iteration), ("model", .str definition.modelName),
          ("tool_count", .int (buildToolDefinitions libraries grant).length),
          ("message_count", .int state.messages.length)]
      let request := turnRequest libraries scope definition grant state
      sendRequest request
      match env.completeAgentTurn iteration request with
      | .error (.domainValidation message errors) =>
        appendEvent env .llmCallFailed [("iteration", .int iteration), ("error", .str message)]
        return state.result .llmError iteration
          [("error", .str message), ("detail", .list (errors.map .str))]
      | .error raised => .raised raised
      | .ok completion =>
        recordTurn env iteration completion
        let next := state.afterTurn env iteration completion
        if completion.toolCalls = [] then return next.result .finalOutput iteration []
        else
          let dispatched ← dispatchCalls libraries env scope grant iteration
            completion.toolCalls next
          runTurns (iteration + 1) turns dispatched

/-- `AgentCognitiveLoop.run`. -/
def runLoop (promptParts : List AgentRunPromptPart) (maxIterations : ℕ) :
    Runtime AgentLoopResult := do
  seedTranscript env promptParts
  runTurns libraries env scope definition grant 1 maxIterations
    { messages := promptParts.map AgentRunPromptPart.toMessage, inputTokens := 0,
      outputTokens := 0, cost := 0
      toolCallCount := 0, lastText := "" }

end

end AgentOrchestration.AgentRuntime
