import AgentOrchestration.Agents.CreateAgentRun

/-!
# Tool catalogues and grants

`AgentToolCatalog` lists the tools that an agent version is bound to, `ToolGrantResolver`
picks from them what one run may use, and the run stores a snapshot of the result.
-/

namespace AgentOrchestration.AgentRuntime

set_option autoImplicit false

open Agents (AgentRow AgentVersionRow AIExecutionPolicyVersionRow ModelRow
  BillingPolicyVersionRow AgentWorld
  AgentRunToolGrant)
open Execution (ServiceError VersionStatus)

/-! ## Grants -/

/-- `AgentToolBinding`: a tool as a function that a model can call. -/
structure AgentToolBinding extends Agents.AgentToolBinding where
  description : String
  requestSchema : Fields
  deriving DecidableEq

structure ResolvedToolGrant where
  tools : List AgentToolBinding
  allowAgentDelegation : Bool
  delegateAgentIds : List ℕ
  deriving DecidableEq

namespace ResolvedToolGrant

variable (grant : ResolvedToolGrant)

def bindingFor (functionName : String) : Option AgentToolBinding :=
  grant.tools.find? fun tool => tool.functionName = functionName

def isDelegationAllowedFor (agentId : ℕ) : Bool :=
  grant.allowAgentDelegation && decide (agentId ∈ grant.delegateAgentIds)

end ResolvedToolGrant

/-- `AgentDefinition`, what the loop and the grant read of it. -/
structure AgentDefinition where
  agentId : ℕ
  agentVersionId : ℕ
  modelName : String
  tools : List AgentToolBinding

/-! ## The tables -/

structure ToolRow where
  toolId : ℕ
  name : Option String
  deriving DecidableEq

structure ToolConfigRow where
  toolConfigId : ℕ
  toolId : ℕ
  tenantId : ℕ
  status : VersionStatus
  config : Fields
  deriving DecidableEq

structure AgentVersionToolBindingRow where
  agentVersionId : ℕ
  toolConfigId : ℕ
  deriving DecidableEq

/-- The rows that Redis keeps of a query. Its key sorts the configurations. -/
structure PublishedBatch where
  tenantId : ℕ
  toolConfigIds : List ℕ
  rows : List (ToolConfigRow × ToolRow)
  deriving DecidableEq

def PublishedBatch.answers (batch : PublishedBatch) (tenantId : ℕ) (toolConfigIds : List ℕ) :
    Bool :=
  batch.tenantId = tenantId ∧ batch.toolConfigIds.Perm toolConfigIds

/-- The tables that a run's definition and grant are resolved in. -/
structure Tables where
  agents : List AgentRow
  versions : List AgentVersionRow
  policyVersions : List AIExecutionPolicyVersionRow
  models : List ModelRow
  billingPolicyVersions : List BillingPolicyVersionRow
  tools : List ToolRow
  toolConfigs : List ToolConfigRow
  toolBindings : List AgentVersionToolBindingRow
  nextId : ℕ
  publishedBatches : List PublishedBatch := []

/-- What `jsonschema.validate` comes to. -/
inductive SchemaVerdict where
  | valid
  | invalid (message : String)
  /-- The schema itself is not one. -/
  | schemaError (text : String)
  deriving DecidableEq, Repr

/-- How Python writes and reads values and identifiers, and `jsonschema`. -/
structure Libraries where
  /-- `str(value)`. -/
  str : Value → String
  /-- `json.dumps(value, default=str)`. -/
  jsonDumps : Value → String
  /-- `str(uuid)`. -/
  uuidText : ℕ → String
  /-- `UUID(text)`; `none` where it raises. -/
  parseUuid : String → Option ℕ
  /-- `jsonschema.validate`, of a schema and an instance. -/
  validate : Fields → Fields → SchemaVerdict

def Libraries.hex (libraries : Libraries) (uuid : ℕ) : String :=
  String.ofList ((libraries.uuidText uuid).toList.filter fun c => c ≠ '-')

/-! ## `AgentToolCatalog` -/

section

variable (libraries : Libraries)

/-- A character that `_UNSAFE_FUNCTION_NAME` does not match. -/
def isFunctionNameCharacter (c : Char) : Bool := c.isAlphanum || c = '_' || c = '-'

def normalizeToolFunctionName (name : Option String) (toolConfigId : ℕ) : String :=
  let base := (strip (name.getD "")).map fun c => if isFunctionNameCharacter c then c else '_'
  let named := if base = [] then "tool_".toList ++ (libraries.uuidText toolConfigId).toList.take 8
               else base
  String.ofList (named.take 64)

variable (config : Fields)

def toolRequestSchema : Fields :=
  match config.lookup "request_schema" with
  | some (.dict schema) =>
    if schema.lookup "type" = some (.str "object") then schema
    else if (schema.lookup "properties").isSome then
      schema.foldl (fun merged entry => OrderedDict.set merged entry.1 entry.2)
        [("type", .str "object")]
    else [("type", .str "object"), ("properties", .dict []), ("additionalProperties", .bool true)]
  | _ => [("type", .str "object"), ("properties", .dict []), ("additionalProperties", .bool true)]

/-- `config.get("description") or config.get("summary") or ""`. -/
def describedBy : Value :=
  let description := (config.lookup "description").getD .null
  let summary := (config.lookup "summary").getD .null
  if description.truthy then description else if summary.truthy then summary else .str ""

/-- `f"{function_name}_{suffix}"`. -/
def suffixed (functionName : String) (toolConfigId : ℕ) : String :=
  functionName ++ "_" ++ String.ofList ((libraries.hex toolConfigId).toList.take 8)

/-- The entries of a catalogue; a name that is taken gets a suffix, which is not compared again. -/
def catalogEntries (usedNames : List String) : List (ToolConfigRow × ToolRow) →
    List AgentToolBinding
  | [] => []
  | (toolConfig, tool) :: rest =>
    let normalized := normalizeToolFunctionName libraries tool.name toolConfig.toolConfigId
    let functionName :=
      if normalized ∈ usedNames then suffixed libraries normalized toolConfig.toolConfigId
      else normalized
    { functionName, toolId := toolConfig.toolId, toolConfigId := toolConfig.toolConfigId
      toolName := if tool.name.getD "" = "" then functionName else tool.name.getD ""
      description := String.ofList (strip (libraries.str (describedBy toolConfig.config)))
      requestSchema := toolRequestSchema toolConfig.config } ::
    catalogEntries (functionName :: usedNames) rest

namespace Tables

variable (tables : Tables) (tenantId agentVersionId : ℕ)

/-- `list_tool_bindings_by_agent_version_id`. -/
def listToolBindings : Except ServiceError (List AgentVersionToolBindingRow) :=
  if ∃ version ∈ tables.versions, version.agentVersionId = agentVersionId ∧
      ∃ agent ∈ tables.agents, agent.agentId = version.agentId ∧ agent.tenantId = tenantId then
    .ok (tables.toolBindings.filter fun binding => binding.agentVersionId = agentVersionId)
  else .error (.notFound "agent_version_not_found")

def publishedToolConfigs (tenantId : ℕ) (toolConfigIds : List ℕ) :
    List (ToolConfigRow × ToolRow) :=
  let published := tables.toolConfigs.filter fun row =>
    row.tenantId = tenantId ∧ row.toolConfigId ∈ toolConfigIds ∧ row.status = .published
  published.filterMap fun row =>
    (Table.byKey ToolRow.toolId tables.tools row.toolId).map fun tool => (row, tool)

/-- `list_published_tool_configs_with_tools_by_config_ids`: the cached rows where there are some. -/
def listPublishedToolConfigs (tenantId : ℕ) (toolConfigIds : List ℕ) :
    List (ToolConfigRow × ToolRow) :=
  match tables.publishedBatches.find? (·.answers tenantId toolConfigIds) with
  | some batch => batch.rows
  | none => tables.publishedToolConfigs tenantId toolConfigIds

def listAgentVersionTools : Except ServiceError (List AgentToolBinding) := do
  let bindings ← tables.listToolBindings tenantId agentVersionId
  return catalogEntries libraries [] (tables.listPublishedToolConfigs tenantId
    (bindings.map AgentVersionToolBindingRow.toolConfigId))

/-- The tables as the creation of a run reads them: of the catalogues the entries that are
stored. -/
def agentWorld (tenantId : ℕ) : AgentWorld :=
  { agents := tables.agents, versions := tables.versions, policyVersions := tables.policyVersions
    models := tables.models, billingPolicyVersions := tables.billingPolicyVersions
    catalog := tables.versions.map fun version => (version.agentVersionId,
      match tables.listAgentVersionTools libraries tenantId version.agentVersionId with
      | .ok tools => tools.map (·.toAgentToolBinding)
      | .error _ => [])
    agentRuns := [] }

end Tables

end

/-! ## Resolution -/

section

variable (libraries : Libraries) (tables : Tables) (tenantId : ℕ)

/-- `AgentDefinitionResolver.resolve`: the checks, and then the catalogue of the active version. -/
def resolveDefinition (agentId : ℕ) : Except ServiceError AgentDefinition := do
  let definition ←
    match (Agents.resolveDefinition tenantId agentId).run
      (tables.agentWorld libraries tenantId) with
    | .ok definition _ => .ok definition
    | .error raised _ => .error raised
  let tools ← tables.listAgentVersionTools libraries tenantId definition.agentVersionId
  return { agentId, agentVersionId := definition.agentVersionId,
           modelName := definition.modelName, tools }

variable (definition : AgentDefinition)

/-- `available[name]`: of two tools with one name the later one counts. -/
def AgentDefinition.available (name : String) : Option AgentToolBinding :=
  definition.tools.reverse.find? fun tool => tool.functionName = name

variable (requested : AgentRunToolGrant)

def grantedTools : Except ServiceError (List AgentToolBinding) :=
  match requested.allowedToolNames with
  | none => .ok definition.tools
  | some names =>
    if ∀ name ∈ names, (definition.available name).isSome then
      .ok (names.eraseDups.filterMap definition.available)
    else .error (.domainValidation "tool_not_bound_to_agent_version")

def delegateAgents (agentId : ℕ) (requested : AgentRunToolGrant) : Except ServiceError (List ℕ) :=
  if requested.allowAgentDelegation then
    match (Agents.checkDelegates tenantId agentId requested.delegateAgentIds.eraseDups).run
        (tables.agentWorld libraries tenantId) with
    | .ok delegateAgentIds _ => .ok delegateAgentIds
    | .error raised _ => .error raised
  else .ok []

def resolveGrant :
    Except ServiceError ResolvedToolGrant := do
  let tools ← grantedTools definition requested
  let delegateAgentIds ← delegateAgents libraries tables tenantId definition.agentId requested
  return { tools, allowAgentDelegation := requested.allowAgentDelegation, delegateAgentIds }

/-- `_grant_request_from_snapshot`; the request is validated as one of a caller is. -/
def grantRequestFromSnapshot (snapshot : Agents.ResolvedToolGrant) :
    Except ServiceError AgentRunToolGrant :=
  if snapshot.allowAgentDelegation = true ∧ snapshot.delegateAgentIds = [] then
    .error (.unexpected "ValidationError")
  else .ok
    { allowedToolNames := some (snapshot.tools.map (·.functionName))
      allowAgentDelegation := snapshot.allowAgentDelegation,
      delegateAgentIds := snapshot.delegateAgentIds }

end

end AgentOrchestration.AgentRuntime
