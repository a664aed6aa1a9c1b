import AgentOrchestration.Execution.IdempotentCreation

/-!
# Creating an agent run

`AgentRunService.create_agent_run` as the sequence of its repository operations, any of
which may raise. The definition of the agent and the tool grant are resolved before the
idempotency key is acquired; the insert of the run is the first step after it.
-/

namespace AgentOrchestration.Agents

set_option autoImplicit false

open Execution (ServiceError VersionStatus CallStage)
open Interleaving (Thread)
open IdempotencyKey (Operation)
open Lifecycle (RunStatus)
open Interleaving.Thread (raiseIf)

/-! ## The tables -/

structure AgentRow where
  agentId : ℕ
  tenantId : ℕ
  name : Option String

/-- A row of `agent_version`; `personaValidates` says whether its persona configuration, if it has
one, is a `PersonaConfig`. -/
structure AgentVersionRow where
  agentVersionId : ℕ
  agentId : ℕ
  status : VersionStatus
  isActive : Bool
  aiExecutionPolicyVersionId : Option ℕ
  personaValidates : Bool

/-- A row of `ai_execution_policy_version`. -/
structure AIExecutionPolicyVersionRow where
  aiExecutionPolicyVersionId : ℕ
  status : VersionStatus
  modelId : ℕ

structure ModelRow where
  modelId : ℕ
  name : String

structure BillingPolicyVersionRow where
  billingPolicyVersionId : ℕ
  tenantId : ℕ
  isActive : Bool

/-- `AgentToolBinding`, the entries that identify the tool. -/
structure AgentToolBinding where
  functionName : String
  toolId : ℕ
  toolConfigId : ℕ
  toolName : String
  deriving DecidableEq

structure ResolvedToolGrant where
  tools : List AgentToolBinding
  allowAgentDelegation : Bool
  delegateAgentIds : List ℕ
  deriving DecidableEq

inductive AgentRunStatus where
  | created
  | running
  | completed
  | failed
  | cancelled
  deriving DecidableEq, Repr

/-- A row of `agent_run` of a direct run. -/
structure AgentRunRow where
  agentRunId : ℕ
  tenantId : ℕ
  agentId : ℕ
  agentVersionId : ℕ
  correlationId : ℕ
  toolGrant : ResolvedToolGrant
  maxIterations : ℕ
  model : String
  billingPolicyVersionId : ℕ
  aiExecutionPolicyVersionId : ℕ
  status : RunStatus
  canonicalStatus : AgentRunStatus

structure AgentWorld where
  agents : List AgentRow
  versions : List AgentVersionRow
  policyVersions : List AIExecutionPolicyVersionRow
  models : List ModelRow
  billingPolicyVersions : List BillingPolicyVersionRow
  /-- What `list_agent_version_tools` returns for a version. -/
  catalog : List (ℕ × List AgentToolBinding)
  agentRuns : List AgentRunRow

namespace AgentWorld

variable (world : AgentWorld)

def getAgent (agentId : ℕ) : Option AgentRow := Table.byKey AgentRow.agentId world.agents agentId

def getActiveAgentVersionId (agentId : ℕ) : Option ℕ :=
  (world.versions.find? fun row => row.agentId = agentId ∧ row.isActive = true).map
    AgentVersionRow.agentVersionId

def getAgentVersion (agentVersionId : ℕ) : Option AgentVersionRow :=
  Table.byKey AgentVersionRow.agentVersionId world.versions agentVersionId

def getAIExecutionPolicyVersion (policyVersionId : ℕ) : Option AIExecutionPolicyVersionRow :=
  Table.byKey AIExecutionPolicyVersionRow.aiExecutionPolicyVersionId world.policyVersions
    policyVersionId

def getModel (modelId : ℕ) : Option ModelRow := Table.byKey ModelRow.modelId world.models modelId

def getActiveBillingPolicyVersionId (tenantId : ℕ) : Option ℕ :=
  (world.billingPolicyVersions.find? fun row =>
    row.tenantId = tenantId ∧ row.isActive = true).map
    BillingPolicyVersionRow.billingPolicyVersionId

def getAgentRun (tenantId agentRunId : ℕ) : Option AgentRunRow :=
  world.agentRuns.find? fun row => row.agentRunId = agentRunId ∧ row.tenantId = tenantId

end AgentWorld

/-- A program over the tables of agent runs. -/
abbrev AgentThread := Thread AgentWorld ServiceError

def fetch {α : Type} (query : AgentWorld → Option α) (missing : ServiceError) : AgentThread α :=
  .read fun world =>
    match query world with
    | some row => .ok row
    | none => .error missing

/-! ## `AgentDefinitionResolver` -/

/-- `AgentDefinition`, the entries that a run stores or its grant reads. -/
structure AgentDefinition where
  agentId : ℕ
  agentVersionId : ℕ
  modelName : String
  aiExecutionPolicyVersionId : ℕ
  billingPolicyVersionId : ℕ
  tools : List AgentToolBinding

def resolveDefinition (tenantId agentId : ℕ) : AgentThread AgentDefinition := do
  let agent ← fetch (·.getAgent agentId) (.notFound "agent_not_found")
  raiseIf (agent.tenantId ≠ tenantId) (.notFound "agent_not_found")
  let agentVersionId ← fetch (·.getActiveAgentVersionId agentId)
    (.resourceBlocked "agent_version_not_active")
  let version ← fetch (·.getAgentVersion agentVersionId) (.notFound "agent_version_not_found")
  raiseIf (version.status ≠ .published) (.resourceBlocked "agent_version_blocked")
  let policyVersionId ← Thread.ofExcept <|
    match version.aiExecutionPolicyVersionId with
    | some policyVersionId => .ok policyVersionId
    | none => .error (.resourceBlocked "ai_execution_policy_not_active")
  let policy ← fetch (·.getAIExecutionPolicyVersion policyVersionId)
    (.notFound "ai_execution_policy_version_not_found")
  raiseIf (policy.status ≠ .published) (.resourceBlocked "ai_execution_policy_blocked")
  let model ← fetch (·.getModel policy.modelId) (.notFound "model_not_found")
  raiseIf (model.name = "") (.notFound "model_not_found")
  let billingPolicyVersionId ← fetch (·.getActiveBillingPolicyVersionId tenantId)
    (.resourceBlocked "billing_policy_not_active")
  raiseIf (version.personaValidates = false) (.unexpected "ValidationError")
  let tools ← Thread.read fun world => .ok ((world.catalog.lookup agentVersionId).getD [])
  return { agentId, agentVersionId, modelName := model.name
           aiExecutionPolicyVersionId := policyVersionId, billingPolicyVersionId, tools }

/-! ## `ToolGrantResolver` -/

structure AgentRunToolGrant where
  allowedToolNames : Option (List String)
  allowAgentDelegation : Bool
  delegateAgentIds : List ℕ

/-- `available[name]`: of two tools with one name the later one counts. -/
def availableTool (definition : AgentDefinition) (name : String) : Option AgentToolBinding :=
  definition.tools.reverse.find? fun tool => tool.functionName = name

def grantedTools (definition : AgentDefinition) (requested : AgentRunToolGrant) :
    Except ServiceError (List AgentToolBinding) :=
  match requested.allowedToolNames with
  | none => .ok definition.tools
  | some names =>
    if ∀ name ∈ names, (availableTool definition name).isSome then
      .ok (names.eraseDups.filterMap (availableTool definition))
    else .error (.domainValidation "tool_not_bound_to_agent_version")

def checkDelegates (tenantId agentId : ℕ) : List ℕ → AgentThread (List ℕ)
  | [] => return []
  | delegateAgentId :: rest => do
      raiseIf (delegateAgentId = agentId) (.domainValidation "agent_cannot_delegate_to_itself")
      let delegate ← fetch (·.getAgent delegateAgentId)
        (.domainValidation "delegate_agent_not_found")
      raiseIf (delegate.tenantId ≠ tenantId) (.domainValidation "delegate_agent_not_found")
      let checked ← checkDelegates tenantId agentId rest
      return delegateAgentId :: checked

def resolveGrant (tenantId : ℕ) (definition : AgentDefinition) (requested : AgentRunToolGrant) :
    AgentThread ResolvedToolGrant := do
  let tools ← Thread.ofExcept (grantedTools definition requested)
  let delegateAgentIds ←
    if requested.allowAgentDelegation then
      checkDelegates tenantId definition.agentId requested.delegateAgentIds.eraseDups
    else pure []
  return { tools, allowAgentDelegation := requested.allowAgentDelegation, delegateAgentIds }

/-! ## `create_agent_run` -/

/-- `AgentRunCreate`, as far as it is read before the run is executed. -/
structure AgentRunCreate where
  agentId : ℕ
  tools : AgentRunToolGrant
  maxIterations : Option ℕ
  correlationId : Option ℕ

/-- `AgentRunSummary`; its id is what the response is about. -/
structure AgentRunSummary where
  agentId : ℕ
  agentVersionId : ℕ
  correlationId : ℕ
  model : String
  maxIterations : ℕ
  status : RunStatus
  canonicalStatus : AgentRunStatus
  deriving DecidableEq

/-- A call: its request, the settings, fresh identifiers, the steps that raise, and what `_execute`
does to the tables when the call waits for it. -/
structure AgentRunCall where
  request : AgentRunCreate
  wait : Bool
  defaultMaxIterations : ℕ
  freshAgentRunId : ℕ
  freshCorrelationId : ℕ
  failures : CallStage → ℕ → Option ServiceError
  execute : ℕ → AgentThread PUnit

section

variable (tenantId : ℕ) (call : AgentRunCall)

/-- The row that `_create_run_record` writes. -/
def newAgentRun (definition : AgentDefinition) (grant : ResolvedToolGrant) : AgentRunRow :=
  { agentRunId := call.freshAgentRunId, tenantId, agentId := definition.agentId
    agentVersionId := definition.agentVersionId
    correlationId := call.request.correlationId.getD call.freshCorrelationId
    toolGrant := grant
    maxIterations := call.request.maxIterations.getD call.defaultMaxIterations
    model := definition.modelName
    billingPolicyVersionId := definition.billingPolicyVersionId
    aiExecutionPolicyVersionId := definition.aiExecutionPolicyVersionId
    status := .created, canonicalStatus := .created }

/-- `repository.create_agent_run`. -/
def insertAgentRun (row : AgentRunRow) (world : AgentWorld) :
    Except ServiceError (ℕ × AgentWorld) :=
  match call.failures .insert 0 with
  | some error => .error error
  | none =>
    if row.agentRunId ∈ world.agentRuns.map AgentRunRow.agentRunId then
      .error (.integrity "agent_run_pkey")
    else .ok (row.agentRunId, { world with agentRuns := world.agentRuns ++ [row] })

def loadSummary (agentRunId : ℕ) : AgentThread AgentRunSummary := do
  let row ← fetch (·.getAgentRun tenantId agentRunId) (.notFound "agent_run_not_found")
  return { agentId := row.agentId, agentVersionId := row.agentVersionId
           correlationId := row.correlationId, model := row.model
           maxIterations := row.maxIterations, status := row.status
           canonicalStatus := row.canonicalStatus }

/-- What a call does between the insert and its response; a run that is not waited for is executed
by a task of its own. -/
def executeAgentRun (agentRunId : ℕ) : AgentThread AgentRunSummary := do
  -- `append_event`
  Thread.read fun _ => .ok ⟨⟩
  if call.wait then call.execute agentRunId else pure ⟨⟩
  loadSummary tenantId agentRunId

/-- What the checks before the key come to. -/
def resolveAgentRun : AgentThread AgentRunRow := do
  let definition ← resolveDefinition tenantId call.request.agentId
  let grant ← resolveGrant tenantId definition call.request.tools
  return newAgentRun tenantId call definition grant

/-- `create_agent_run` around its key. -/
def createAgentRunOperation : Operation AgentWorld ServiceError ℕ AgentRunSummary :=
  Thread.interrupted
    (do
      let row ← resolveAgentRun tenantId call
      return .done
        { insert := insertAgentRun call row
          execute := fun agentRunId =>
            (executeAgentRun tenantId call agentRunId).interrupted (call.failures .execute) })
    (call.failures .check)

end

end AgentOrchestration.Agents
