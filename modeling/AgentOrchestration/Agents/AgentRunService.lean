import AgentOrchestration.Agents.AgentLoop

/-!
# Executing and cancelling an agent run

`AgentRunService._execute` reads the run, resolves its definition and its grant in the
tables as they are then, and runs the loop around two writes of the run's status.
`cancel_agent_run` reads the status and writes it without looking again.
-/

namespace AgentOrchestration.AgentRuntime

set_option autoImplicit false

open Agents (AgentRunStatus)
open Execution (ServiceError)
open Interleaving (Thread)

/-- A run as `_execute` reads it. -/
structure StoredRun extends Agents.AgentRunRow where
  principalId : String
  rootAgentRunId : Option ℕ
  delegationDepth : ℕ

/-- What the service is made with, and how a prompt is built for a run. -/
structure Runner where
  libraries : Libraries
  env : RuntimeEnvironment
  defaultMaxIterations : ℕ
  /-- `context_builder.build`, for the context and the input of the run. -/
  promptParts : AgentDefinition → ResolvedToolGrant → List AgentRunPromptPart

/-- A service exception as it passes through the runtime: its class and its text. -/
def raisedBy : ServiceError → RuntimeError
  | .domainValidation message => .domainValidation message []
  | .notFound message => .exception "NotFoundServiceException" ("404: " ++ message)
  | .resourceBlocked message => .exception "ResourceBlockedServiceException" ("409: " ++ message)
  | .domainConflict message => .exception "DomainConflictException" ("409: " ++ message)
  | .idempotencyInProgress =>
    .exception "IdempotencyInProgressException" "409: Idempotent request in progress."
  | .limitExceeded message => .exception "LimitExceededException" ("409: " ++ message)
  | .authorizationDenied message => .exception "AuthorizationDeniedException" ("403: " ++ message)
  | .schemaIncompatible message => .domainValidation message []
  | .hashIncompatible message => .domainValidation message []
  | .integrity constraint => .exception "IntegrityError" constraint
  | .unexpected errorClass => .exception errorClass ""

/-- What `_execute` resolves before the run starts. -/
def resolveExecution (libraries : Libraries) (tables : Tables) (run : StoredRun) :
    Except ServiceError (AgentDefinition × ResolvedToolGrant) := do
  let definition ← resolveDefinition libraries tables run.tenantId run.agentId
  let requested ← grantRequestFromSnapshot run.toolGrant
  let grant ← resolveGrant libraries tables run.tenantId definition requested
  return (definition, grant)

/-! ## The row of the run -/

def newRecord : AgentRunRecord :=
  { run := { status := .created, canonicalStatus := .created, output := [], error := [],
             finishReason := none
             iterationsUsed := 0, inputTokens := none, outputTokens := none, estimatedCost := none }
    requests := [], messages := [], events := [], toolRuns := [], delegations := [],
    artifacts := [], calls := 0 }

section

variable (env : RuntimeEnvironment)

def getAgentRun : Runtime AgentRunColumns :=
  .atomic fun record =>
    match env.fault record.calls with
    | some raised => .error raised { record with calls := record.calls + 1 }
    | none => .ok record.run { record with calls := record.calls + 1 }

def markRunning : Runtime PUnit :=
  write env fun record => { record with
    run := { record.run with status := .running, canonicalStatus := .running } }

def finishAgentRun (columns : AgentRunColumns) : Runtime PUnit :=
  write env fun record => { record with run := columns }

def appendArtifact (text : String) : Runtime PUnit :=
  write env fun record => { record with artifacts := record.artifacts ++ [text] }

end

/-! ## Execution -/

section

variable (env : RuntimeEnvironment)

/-- The columns that `_finalize` writes. -/
def AgentLoopResult.columns (result : AgentLoopResult) : AgentRunColumns :=
  let succeeded := result.finishReason = .finalOutput
  { status := if succeeded then .completed else .failed
    canonicalStatus := if succeeded then .completed else .failed
    output := [("text", .str result.outputText)], error := result.error,
    finishReason := some result.finishReason
    iterationsUsed := result.iterationsUsed, inputTokens := some result.inputTokens
    outputTokens := some result.outputTokens, estimatedCost := result.estimatedCost }

def storeOutput (result : AgentLoopResult) : Runtime PUnit :=
  if result.finishReason = .finalOutput ∧ result.outputText ≠ "" then
    appendArtifact env result.outputText
  else .done ⟨⟩

def finalize (result : AgentLoopResult) : Runtime PUnit := do
  storeOutput env result
  finishAgentRun env result.columns
  appendEvent env (if result.finishReason = .finalOutput then .agentRunCompleted
                   else .agentRunFailed)
    [("finish_reason", .str result.finishReason.text),
      ("iterations_used", .int result.iterationsUsed),
      ("tool_call_count", .int result.toolCallCount), ("input_tokens", .int result.inputTokens),
      ("output_tokens", .int result.outputTokens)]

/-- The columns that `_finalize_failure` writes. -/
def failureColumns (raised : RuntimeError) : AgentRunColumns :=
  { status := .failed, canonicalStatus := .failed, output := []
    error := [("error", .str raised.name), ("detail", .str raised.text)],
    finishReason := some .llmError
    iterationsUsed := 0, inputTokens := none, outputTokens := none, estimatedCost := none }

def finalizeFailure (raised : RuntimeError) : Runtime PUnit := do
  finishAgentRun env (failureColumns raised)
  appendEvent env .agentRunFailed [("error", .str raised.name)]

variable (runner : Runner) (run : StoredRun)

def StoredRun.scope : AgentRunScope :=
  { tenantId := run.tenantId, principalId := run.principalId, agentRunId := run.agentRunId,
    agentId := run.agentId
    correlationId := run.correlationId, rootAgentRunId := run.rootAgentRunId.getD run.agentRunId
    delegationDepth := run.delegationDepth }

/-- `int(model.max_iterations or self.default_max_iterations)`. -/
def Runner.maxIterations : ℕ := if run.maxIterations = 0 then runner.defaultMaxIterations
                                else run.maxIterations

def executeResolved (definition : AgentDefinition) (grant : ResolvedToolGrant) :
    Runtime AgentLoopResult := do
  markRunning runner.env
  catchException
    (runLoop runner.libraries runner.env run.scope definition grant
      (runner.promptParts definition grant)
      (runner.maxIterations run))
    (fun raised => do
      finalizeFailure runner.env raised
      .raised raised)
    (fun result => do
      finalize runner.env result
      return result)

/-- `_execute`, with the tables that the definition and the grant are resolved in. -/
def execute (tables : Tables) : Runtime AgentLoopResult := do
  let _ ← getAgentRun runner.env
  let (definition, grant) ← Thread.ofExcept
    ((resolveExecution runner.libraries tables run).mapError raisedBy)
  executeResolved runner run definition grant

end

/-! ## Cancellation -/

def isTerminal : AgentRunStatus → Bool
  | .created => false
  | .running => false
  | .completed => true
  | .failed => true
  | .cancelled => true

/-- The columns that `cancel_agent_run` writes: the counts as they were read. -/
def cancelledColumns (read : AgentRunColumns) : AgentRunColumns :=
  { status := .cancelled, canonicalStatus := .cancelled, output := [],
    error := [("error", .str "cancelled")]
    finishReason := some .cancelled, iterationsUsed := read.iterationsUsed,
    inputTokens := read.inputTokens
    outputTokens := read.outputTokens
    estimatedCost := read.estimatedCost.bind fun cost => if cost = 0 then none else some cost }

def cancelAgentRun (env : RuntimeEnvironment) : Runtime AgentRunColumns := do
  let read ← getAgentRun env
  Thread.raiseIf (isTerminal read.canonicalStatus = true)
    (raisedBy (.resourceBlocked "agent_run_not_cancellable"))
  finishAgentRun env (cancelledColumns read)
  appendEvent env .agentRunAborted [("reason", .str AgentRunFinishReason.cancelled.text)]
  getAgentRun env

end AgentOrchestration.AgentRuntime
