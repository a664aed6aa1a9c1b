import AgentOrchestration.Flows.ComposeDeployment
import AgentOrchestration.Flows.ContentAddress

/-!
# The flow authoring service

`FlowsService` over the tables of the flows domain. Every operation is the program of
its source: it reads, raises, and commits each repository write as it goes, so what was
written before it raised stays written.
-/

namespace AgentOrchestration.FlowsService

set_option autoImplicit false

open Execution (ServiceError VersionStatus FlowRow FlowVersionRow DeploymentRow)
open Flows (serviceErrorOf FlowNodeRow uniqueRagConfigId)
open Program (ofOption raiseIf collect)
open Table (byKey)

/-! ## Rows -/

structure NodeFlags where
  allowRagTenant : Bool
  allowUserMemoryStructured : Bool
  allowUserMemoryVector : Bool
  ragConfigId : Option ℕ
  allowSessionContext : Bool
  allowMemoryWrite : Bool
  deriving DecidableEq

/-- The columns of a new row of `node`. -/
structure NewNode where
  flowVersionId : ℕ
  nodePromptId : ℕ
  flags : NodeFlags
  nodeType : Option String
  config : Option Fields
  sourceNodeTemplateId : Option ℕ
  deriving DecidableEq

structure NodeRow extends NewNode where
  nodeId : ℕ
  deriving DecidableEq

def NodeRow.toFlowNodeRow (row : NodeRow) : FlowNodeRow :=
  ⟨row.flowVersionId, row.flags.allowMemoryWrite, row.flags.ragConfigId⟩

structure FlowGraphDraftRow where
  flowVersionId : ℕ
  definition : FlowGraphDefinition
  status : VersionStatus
  createdBy : String
  validatedBy : Option String
  validatedAt : Option ℕ
  deriving DecidableEq

structure FlowGraphRow where
  flowVersionId : ℕ
  definition : FlowGraphDefinition
  createdBy : String
  deriving DecidableEq

structure FlowGraphSnapshotRow where
  flowGraphSnapshotId : ℕ
  flowVersionId : ℕ
  snapshot : Value
  graphHash : String
  compiledBy : String
  deriving DecidableEq

/-- What `resolve_frozen_rag_snapshot_fields` returns. -/
structure FrozenRag where
  ragConfigId : Option ℕ
  ragChunkingRuleId : Option ℕ
  ragPolicyVersionId : Option ℕ
  ragMaterializationHash : Option String
  deriving DecidableEq

def FrozenRag.none : FrozenRag := ⟨.none, .none, .none, .none⟩

/-- What a row of `flow_snapshot` holds besides its keys. -/
structure FlowSnapshotContent where
  snapshotHash : String
  /-- `snapshot["flow_graph_snapshot_id"]`. -/
  flowGraphSnapshotId : ℕ
  /-- `snapshot["graph_hash"]`. -/
  graphHash : String
  /-- `snapshot["graph"]`. -/
  graph : Value
  runtimePolicy : Fields
  toolCatalog : Fields
  llmProviderConfigHash : Option String
  createdBy : String
  frozenRag : FrozenRag
  deriving DecidableEq

structure FlowSnapshotRow extends FlowSnapshotContent where
  flowSnapshotId : ℕ
  flowVersionId : ℕ
  deriving DecidableEq

structure RouterRow where
  routerId : ℕ
  nodeId : ℕ
  deriving DecidableEq

structure ConditionExpressionRow where
  conditionExpressionId : ℕ
  expression : Option String
  deriving DecidableEq

structure RoutingRuleRow where
  routingRuleId : ℕ
  routerId : ℕ
  conditionExpressionId : ℕ
  fromNodeId : ℕ
  toNodeId : ℕ
  deriving DecidableEq

structure Tables where
  flows : List FlowRow
  versions : List FlowVersionRow
  nodes : List NodeRow
  drafts : List FlowGraphDraftRow
  graphs : List FlowGraphRow
  graphSnapshots : List FlowGraphSnapshotRow
  flowSnapshots : List FlowSnapshotRow
  deployments : List DeploymentRow
  routers : List RouterRow
  conditionExpressions : List ConditionExpressionRow
  routingRules : List RoutingRuleRow
  nextId : ℕ

namespace Tables

variable (tables : Tables)

def getFlow (flowId : ℕ) : Option FlowRow := byKey FlowRow.flowId tables.flows flowId

variable (flowVersionId : ℕ)

def getFlowVersion : Option FlowVersionRow :=
  byKey FlowVersionRow.flowVersionId tables.versions flowVersionId

def getNode (nodeId : ℕ) : Option NodeRow := byKey NodeRow.nodeId tables.nodes nodeId

def getRouter (routerId : ℕ) : Option RouterRow := byKey RouterRow.routerId tables.routers routerId

/-- `list_nodes_for_flow_version`. -/
def nodesOf : List NodeRow := tables.nodes.filter fun row => row.flowVersionId = flowVersionId

/-- `get_flow_graph_by_flow_version`. -/
def getFlowGraph : Option FlowGraphRow :=
  byKey FlowGraphRow.flowVersionId tables.graphs flowVersionId

/-- `get_flow_graph_draft`. -/
def getDraft : Option FlowGraphDraftRow :=
  byKey FlowGraphDraftRow.flowVersionId tables.drafts flowVersionId

/-- `get_flow_graph_snapshot_by_flow_version`. -/
def getGraphSnapshot : Option FlowGraphSnapshotRow :=
  byKey FlowGraphSnapshotRow.flowVersionId tables.graphSnapshots flowVersionId

/-- `get_flow_snapshot_by_flow_version`. -/
def getFlowSnapshot : Option FlowSnapshotRow :=
  byKey FlowSnapshotRow.flowVersionId tables.flowSnapshots flowVersionId

/-! ## Repository writes -/

/-- `set_flow_version_status`. -/
def setStatus (status : VersionStatus) : Tables :=
  { tables with
    versions := tables.versions.map fun row =>
      if row.flowVersionId = flowVersionId then { row with status } else row }

/-- `upsert_active_flow_version`. -/
def setActive (flowId flowVersionId : ℕ) : Tables :=
  { tables with
    versions := tables.versions.map fun row =>
      if row.flowId = flowId then { row with isActive := row.flowVersionId = flowVersionId }
      else row }

/-- `create_node`, `create_node_from_template` and `create_custom_node`. -/
def insertNode (node : NewNode) : Tables :=
  { tables with
    nodes := tables.nodes ++ [{ node with nodeId := tables.nextId }], nextId := tables.nextId + 1 }

/-- `upsert_flow_graph_draft`. -/
def saveDraft (definition : FlowGraphDefinition) (principalId : String) : Tables :=
  { tables with
    drafts :=
      if (tables.getDraft flowVersionId).isSome then
        tables.drafts.map fun row =>
          if row.flowVersionId = flowVersionId then
            { row with definition, status := .draft, validatedBy := none, validatedAt := none }
          else row
      else tables.drafts ++ [⟨flowVersionId, definition, .draft, principalId, none, none⟩] }

/-- `validate_flow_graph_draft`. -/
def markValidated (principalId : String) (now : ℕ) : Tables :=
  { tables with
    drafts := tables.drafts.map fun row =>
      if row.flowVersionId = flowVersionId then
        { row with status := .validated, validatedBy := some principalId, validatedAt := some now }
      else row }

/-- `create_flow_graph_snapshot`, once its columns are known to be unique. -/
def insertGraphSnapshot (snapshot : Value) (graphHash compiledBy : String) : Tables :=
  { tables with
    graphSnapshots := tables.graphSnapshots ++
      [⟨tables.nextId, flowVersionId, snapshot, graphHash, compiledBy⟩]
    nextId := tables.nextId + 1 }

/-- `upsert_flow_snapshot`, once its columns are known to be unique. -/
def saveFlowSnapshot (content : FlowSnapshotContent) : Tables :=
  if (tables.getFlowSnapshot flowVersionId).isSome then
    { tables with
      flowSnapshots := tables.flowSnapshots.map fun row =>
        if row.flowVersionId = flowVersionId then { row with toFlowSnapshotContent := content }
        else row }
  else
    { tables with
      flowSnapshots := tables.flowSnapshots ++
        [{ content with flowSnapshotId := tables.nextId, flowVersionId }]
      nextId := tables.nextId + 1 }

/-- `upsert_flow_deployment`: the active deployment of the slot is replaced. -/
def replaceDeployment (flowId flowVersionId flowSnapshotId : ℕ) (environment : String) : Tables :=
  { tables with
    deployments :=
      (tables.deployments.map fun row =>
        if row.flowId = flowId ∧ row.environment = environment ∧ row.isActive = true then
          { row with isActive := false }
        else row) ++ [⟨tables.nextId, flowId, flowVersionId, flowSnapshotId, environment, true⟩]
    nextId := tables.nextId + 1 }

end Tables

/-! ## Requests -/

structure NodeTemplateRow where
  nodeTemplateId : ℕ
  nodeType : String
  scope : String
  ownerTenantId : Option ℕ
  isActive : Bool
  defaultConfig : Option Fields

structure NodeCreate where
  flowVersionId : ℕ
  nodePromptId : ℕ
  flags : NodeFlags

structure NodeTemplateCopyRequest where
  flowId : ℕ
  flowVersionId : ℕ
  nodeTemplateId : Option ℕ
  code : Option String
  overrides : Option Fields
  flags : NodeFlags

structure CustomNodeCreate where
  flowId : ℕ
  flowVersionId : ℕ
  nodeType : String
  nodePromptId : ℕ
  config : Option Fields
  flags : NodeFlags

structure RoutingRuleCreate where
  routerId : ℕ
  conditionExpressionId : ℕ
  fromNodeId : ℕ
  toNodeId : ℕ

structure FlowArtifactsBatchUpsertRequest where
  flowId : ℕ
  flowVersionId : ℕ
  principalId : String
  nodesFromTemplates : List NodeTemplateCopyRequest
  customNodes : List CustomNodeCreate
  /-- The nodes of the routers. -/
  routers : List ℕ
  conditionExpressions : List (Option String)
  routingRules : List RoutingRuleCreate

structure FlowGraphDraftCreate where
  flowId : ℕ
  flowVersionId : ℕ
  definition : FlowGraphDefinition
  principalId : String

structure FlowGraphCompileRequest where
  flowId : ℕ
  flowVersionId : ℕ
  principalId : String

/-- A lifecycle request on a version, with the justification of its `ChangeRequest`. -/
structure VersionRequest where
  flowId : ℕ
  flowVersionId : ℕ
  principalId : String
  justification : String

structure DeploymentComposeBinding where
  bindingKey : String
  valueType : String
  sourceKind : String
  value : Fields

/-- `binding.model_dump(mode="json")`. -/
def DeploymentComposeBinding.modelDump (binding : DeploymentComposeBinding) : Value :=
  .dict [("binding_key", .str binding.bindingKey), ("value_type", .str binding.valueType),
    ("source_kind", .str binding.sourceKind), ("value", .dict binding.value)]

/-- `DeploymentComposeRequest`; a graph that is `none` does not validate as a
`FlowGraphDefinition`. -/
structure DeploymentComposeRequest where
  flowId : ℕ
  flowVersionId : ℕ
  principalId : String
  environment : String
  graphDefinition : Option FlowGraphDefinition
  runtimePolicyDefinition : Option Fields
  toolCatalog : Option Fields
  llmProviderConfigHash : Option String
  bindings : List DeploymentComposeBinding

structure DeploymentComposeResponse where
  flowSnapshotId : ℕ
  flowDeploymentId : ℕ
  flowVersionId : ℕ
  environment : String
  deriving DecidableEq

structure Libraries where
  draft : DraftLibraries
  format : FloatFormat
  /-- `hashlib.sha256(text.encode()).hexdigest()`. -/
  sha256 : String → String
  /-- The RAG repository and policy service are given. -/
  ragConfigured : Bool

/-- What a call reads from tables of other domains, and the clock. -/
structure Environment where
  nodeTemplate : ℕ → Option NodeTemplateRow
  systemNodeTemplate : String → Option NodeTemplateRow
  activePrompt : String → Option ℕ
  /-- The rows of `node_prompt` and of `rag_config` that exist. -/
  promptExists : ℕ → Bool
  ragConfigExists : ℕ → Bool
  /-- The tenant's default execution limit policy, and whether a version of it is published. -/
  limitPolicy : Option Bool
  /-- `resolve_frozen_rag_snapshot_fields`. -/
  frozenRag : ℕ → Option ℕ → Except ServiceError FrozenRag
  /-- `try_acquire` of the idempotency key. -/
  acquired : Bool
  /-- The response stored under the idempotency key. -/
  stored : Option DeploymentComposeResponse
  now : ℕ

abbrev Service := EStateM ServiceError Tables

/-! ## Checks -/

def ofExcept {α : Type} : Except ServiceError α → Service α
  | .ok value => pure value
  | .error error => throw error

def ofValidator (verdict : Except DraftError Unit) : Service PUnit :=
  match verdict with
  | .ok () => pure ⟨⟩
  | .error error => throw (serviceErrorOf error)

def tenantFlow (tenantId flowId : ℕ) : Service FlowRow := do
  let tables ← get
  let flow ← ofOption (.notFound "flow_not_found") (tables.getFlow flowId)
  raiseIf (flow.tenantId ≠ tenantId) (.notFound "flow_not_found")
  return flow

def flowVersion (flowId flowVersionId : ℕ) : Service FlowVersionRow := do
  let tables ← get
  let version ← ofOption (.notFound "flow_version_not_found") (tables.getFlowVersion flowVersionId)
  raiseIf (version.flowId ≠ flowId) (.notFound "flow_version_not_found")
  return version

def publishedVersion (tenantId flowId flowVersionId : ℕ) : Service FlowRow := do
  let flow ← tenantFlow tenantId flowId
  let version ← flowVersion flowId flowVersionId
  raiseIf (version.status ≠ .published) (.resourceBlocked "flow_version_not_published")
  return flow

/-- `_assert_at_most_one_allow_memory_write_on_create`. -/
def assertNoSecondMemoryWrite (flowVersionId : ℕ) (allowMemoryWrite : Bool) : Service PUnit := do
  let tables ← get
  raiseIf (allowMemoryWrite = true ∧
      0 < (tables.nodesOf flowVersionId).countP fun row => row.flags.allowMemoryWrite)
    (.domainValidation "multiple_nodes_allow_memory_write")

/-- `_assert_flow_version_at_most_one_memory_write`. -/
def assertAtMostOneMemoryWrite (flowVersionId : ℕ) : Service PUnit := do
  let tables ← get
  raiseIf (1 < (tables.nodesOf flowVersionId).countP fun row => row.flags.allowMemoryWrite)
    (.domainValidation "multiple_nodes_allow_memory_write")

/-- `not change_request.justification.strip()`. -/
def assertJustified (justification : String) : Service PUnit :=
  raiseIf (strip justification = []) (.domainValidation "justification_required")

/-! ## Nodes -/

variable (libraries : Libraries) (env : Environment) (tenantId : ℕ)

section

def validateNodeConfig (nodeType : String) (config : Fields) : Service PUnit :=
  raiseIf (FlowGraphDraftValidator.validNodeConfig libraries.draft ⟨nodeType, some config⟩ = false)
    (.unexpected "ValidationError")

/-- The foreign keys of `node`, which the insert checks. -/
def insertable (node : NewNode) : Service NewNode := do
  raiseIf (env.promptExists node.nodePromptId = false)
    (.integrity "fk_node_node_prompt_id_node_prompt")
  raiseIf (∃ ragConfigId ∈ node.flags.ragConfigId, env.ragConfigExists ragConfigId = false)
    (.integrity "fk_node_rag_config_id_rag_config")
  return node

/-- The node that `create_node` inserts. -/
def plainNode (request : NodeCreate) : Service NewNode := do
  let tables ← get
  let version ← ofOption (.notFound "flow_version_not_found")
    (tables.getFlowVersion request.flowVersionId)
  let _ ← tenantFlow tenantId version.flowId
  assertNoSecondMemoryWrite request.flowVersionId request.flags.allowMemoryWrite
  insertable env ⟨request.flowVersionId, request.nodePromptId, request.flags, none, none, none⟩

def requestedTemplate (request : NodeTemplateCopyRequest) : Service ℕ :=
  match request.nodeTemplateId, request.code with
  | some nodeTemplateId, _ => pure nodeTemplateId
  | none, none => throw (.domainValidation "node_template_identifier_required")
  | none, some code => do
      raiseIf (code = "") (.domainValidation "node_template_identifier_required")
      let template ← ofOption (.notFound "node_template_not_found") (env.systemNodeTemplate code)
      return template.nodeTemplateId

/-- `{**base_config, **effective_overrides}`. -/
def mergeConfig (base overrides : Fields) : Fields :=
  overrides.foldl (fun config entry => OrderedDict.set config entry.1 entry.2) base

variable (flowId flowVersionId : ℕ)

/-- The node that `copy_node_from_template` inserts. -/
def templateNode (request : NodeTemplateCopyRequest) : Service NewNode := do
  raiseIf (request.flowId ≠ flowId ∨ request.flowVersionId ≠ flowVersionId)
    (.domainValidation "flow_id_or_version_mismatch")
  let nodeTemplateId ← requestedTemplate env request
  let _ ← tenantFlow tenantId flowId
  let _ ← flowVersion flowId flowVersionId
  let template ← ofOption (.notFound "node_template_not_found") (env.nodeTemplate nodeTemplateId)
  raiseIf (template.isActive = false) (.resourceBlocked "node_template_not_active")
  raiseIf (template.scope = "tenant" ∧ template.ownerTenantId ≠ some tenantId)
    (.resourceBlocked "node_template_not_available_for_tenant")
  let config := mergeConfig (template.defaultConfig.getD []) (request.overrides.getD [])
  validateNodeConfig libraries template.nodeType config
  let nodePromptId ← ofOption (.notFound "node_prompt_not_found")
    (env.activePrompt template.nodeType)
  assertNoSecondMemoryWrite flowVersionId request.flags.allowMemoryWrite
  insertable env ⟨flowVersionId, nodePromptId, request.flags, some template.nodeType, some config,
    some template.nodeTemplateId⟩

/-- The node that `create_custom_node` inserts. -/
def customNode (request : CustomNodeCreate) : Service NewNode := do
  raiseIf (request.flowId ≠ flowId ∨ request.flowVersionId ≠ flowVersionId)
    (.domainValidation "flow_id_or_version_mismatch")
  let _ ← tenantFlow tenantId flowId
  let _ ← flowVersion flowId flowVersionId
  let config := request.config.getD []
  validateNodeConfig libraries request.nodeType config
  assertNoSecondMemoryWrite flowVersionId request.flags.allowMemoryWrite
  insertable env
    ⟨flowVersionId, request.nodePromptId, request.flags, some request.nodeType, some config, none⟩

def withNode (draft : Option FlowGraphDraftRow) (nodeId : ℕ) (spec : FlowGraphNodeSpec) :
    FlowGraphDefinition :=
  match draft with
  | none =>
    { startNode := nodeId.repr, nodes := [(nodeId.repr, spec)], edges := []
      distinct := List.nodup_singleton _ }
  | some row =>
    { row.definition with
      nodes := OrderedDict.set row.definition.nodes nodeId.repr spec
      distinct := OrderedDict.nodup_keys_set row.definition.distinct _ _ }

def attachNode (node : NewNode) (principalId : String) : Service PUnit := do
  let nodeId := (← get).nextId
  modify fun tables => tables.insertNode node
  let draft := (← get).getDraft node.flowVersionId
  modify fun tables => tables.saveDraft node.flowVersionId
    (withNode draft nodeId ⟨node.nodeType.getD "", node.config⟩) principalId

def createNode (request : NodeCreate) : Service PUnit := do
  let node ← plainNode env tenantId request
  modify fun tables => tables.insertNode node

def copyNodeFromTemplate (principalId : String) (request : NodeTemplateCopyRequest) :
    Service PUnit := do
  let node ← templateNode libraries env tenantId flowId flowVersionId request
  attachNode node principalId

def createCustomNode (principalId : String) (request : CustomNodeCreate) :
    Service PUnit := do
  let node ← customNode libraries env tenantId flowId flowVersionId request
  attachNode node principalId

end

/-! ## Routing -/

def tenantNode (flowVersionId : ℕ) : Service PUnit := do
  let tables ← get
  let version ← ofOption (.notFound "flow_version_not_found") (tables.getFlowVersion flowVersionId)
  let _ ← tenantFlow tenantId version.flowId

def createRouter (nodeId : ℕ) : Service PUnit := do
  let tables ← get
  let node ← ofOption (.notFound "node_not_found") (tables.getNode nodeId)
  tenantNode tenantId node.flowVersionId
  modify fun tables =>
    { tables with
      routers := tables.routers ++ [⟨tables.nextId, nodeId⟩], nextId := tables.nextId + 1 }

def createConditionExpression (expression : Option String) : Service PUnit :=
  modify fun tables =>
    { tables with
      conditionExpressions := tables.conditionExpressions ++ [⟨tables.nextId, expression⟩]
      nextId := tables.nextId + 1 }

def createRoutingRule (request : RoutingRuleCreate) : Service PUnit := do
  let tables ← get
  let router ← ofOption (.notFound "router_not_found") (tables.getRouter request.routerId)
  let routerNode ← ofOption (.notFound "router_node_not_found") (tables.getNode router.nodeId)
  tenantNode tenantId routerNode.flowVersionId
  raiseIf (∀ row ∈ tables.conditionExpressions,
    row.conditionExpressionId ≠ request.conditionExpressionId)
    (.notFound "condition_expression_not_found")
  let fromNode ← ofOption (.notFound "from_node_not_found") (tables.getNode request.fromNodeId)
  let toNode ← ofOption (.notFound "to_node_not_found") (tables.getNode request.toNodeId)
  raiseIf (fromNode.flowVersionId ≠ toNode.flowVersionId ∨
    fromNode.flowVersionId ≠ routerNode.flowVersionId)
    (.domainValidation "nodes_must_belong_to_same_flow_version")
  modify fun tables =>
    { tables with
      routingRules :=
        tables.routingRules ++ [⟨tables.nextId, request.routerId, request.conditionExpressionId,
        request.fromNodeId, request.toNodeId⟩]
      nextId := tables.nextId + 1 }

def batchUpsertArtifacts (libraries : Libraries) (env : Environment)
    (request : FlowArtifactsBatchUpsertRequest) :
    Service PUnit := do
  let _ ← tenantFlow tenantId request.flowId
  let _ ← flowVersion request.flowId request.flowVersionId
  let _ ← collect (copyNodeFromTemplate libraries env tenantId request.flowId request.flowVersionId
    request.principalId) request.nodesFromTemplates
  let _ ← collect (createCustomNode libraries env tenantId request.flowId request.flowVersionId
    request.principalId) request.customNodes
  let _ ← collect (createRouter tenantId) request.routers
  let _ ← collect createConditionExpression request.conditionExpressions
  let _ ← collect (createRoutingRule tenantId) request.routingRules

/-! ## Graphs -/

section

variable (request : FlowGraphDraftCreate)

def createFlowGraph : Service PUnit := do
  let _ ← publishedVersion tenantId request.flowId request.flowVersionId
  ofValidator (FlowGraphValidator.validate request.definition)
  let tables ← get
  raiseIf ((tables.getFlowGraph request.flowVersionId).isSome = true)
    (.resourceBlocked "flow_graph_already_exists")
  modify fun tables =>
    { tables with
      graphs := tables.graphs ++
        [⟨request.flowVersionId, request.definition, request.principalId⟩] }

/-- The checks of `upsert_flow_graph_draft`. -/
def draftToSave : Service PUnit := do
  let _ ← tenantFlow tenantId request.flowId
  let _ ← flowVersion request.flowId request.flowVersionId
  ofValidator (FlowGraphValidator.validate request.definition)

def upsertFlowGraphDraft : Service PUnit := do
  draftToSave tenantId request
  modify fun tables => tables.saveDraft request.flowVersionId request.definition request.principalId

/-- The checks of `validate_flow_graph_draft`; whether the version belongs to the flow is not one of
them. -/
def draftToValidate (request : FlowGraphCompileRequest) : Service PUnit := do
  let _ ← tenantFlow tenantId request.flowId
  let tables ← get
  let draft ← ofOption (.notFound "flow_graph_draft_not_found")
    (tables.getDraft request.flowVersionId)
  ofValidator (FlowGraphDraftValidator.validate libraries.draft draft.definition)
  assertAtMostOneMemoryWrite request.flowVersionId

def validateFlowGraphDraft (request : FlowGraphCompileRequest) : Service PUnit := do
  draftToValidate libraries tenantId request
  modify fun tables => tables.markValidated request.flowVersionId request.principalId env.now

/-- `FlowGraphCompiler.compile`: the snapshot and its hash. -/
def compileGraph (definition : FlowGraphDefinition) : Except ServiceError (Value × String) :=
  match FlowGraphCompiler.document definition with
  | none => .error (.domainValidation "edge_condition_invalid")
  | some snapshot =>
    match snapshot.dumps libraries.format with
    | none => .error (.unexpected "TypeError")
    | some text => .ok (snapshot, libraries.sha256 text)

/-- `create_flow_graph_snapshot`; the version and the hash are unique columns. -/
def createFlowGraphSnapshot (flowVersionId : ℕ) (snapshot : Value) (graphHash compiledBy : String) :
    Service FlowGraphSnapshotRow := do
  let tables ← get
  raiseIf ((tables.getGraphSnapshot flowVersionId).isSome = true)
    (.notFound "flow_graph_snapshot_exists")
  raiseIf (∃ row ∈ tables.graphSnapshots, row.graphHash = graphHash)
    (.integrity "flow_graph_snapshot_graph_hash_key")
  modify fun tables => tables.insertGraphSnapshot flowVersionId snapshot graphHash compiledBy
  return ⟨tables.nextId, flowVersionId, snapshot, graphHash, compiledBy⟩

def compileFlowGraph (request : FlowGraphCompileRequest) : Service PUnit := do
  let _ ← publishedVersion tenantId request.flowId request.flowVersionId
  let tables ← get
  let draft ← ofOption (.notFound "flow_graph_draft_not_found")
    (tables.getDraft request.flowVersionId)
  raiseIf (draft.status ≠ .validated) (.resourceBlocked "flow_graph_draft_not_validated")
  ofValidator (FlowGraphDraftValidator.validate libraries.draft draft.definition)
  assertAtMostOneMemoryWrite request.flowVersionId
  let (snapshot, graphHash) ← ofExcept (compileGraph libraries draft.definition)
  let _ ← createFlowGraphSnapshot request.flowVersionId snapshot graphHash request.principalId

end

/-! ## Flow snapshots -/

/-- `_resolve_frozen_rag_for_flow_version`. -/
def resolveFrozenRag (tenantId flowVersionId : ℕ) : Service FrozenRag := do
  if libraries.ragConfigured = false then return FrozenRag.none
  else
    let tables ← get
    let ragConfigId ← ofExcept (uniqueRagConfigId none ((tables.nodesOf flowVersionId).map
      NodeRow.toFlowNodeRow))
    ofExcept (env.frozenRag tenantId ragConfigId)

/-- `_hash_dict` of what a flow snapshot is made of. -/
def snapshotHash (graphHash : String) (runtimePolicy toolCatalog : Fields) (bindings : List Value)
    (ragMaterializationHash : Option String) : Except ServiceError String :=
  let payload :=
    Value.dict [("graph_hash", .str graphHash), ("runtime_policy", .dict runtimePolicy),
    ("tool_catalog", .dict toolCatalog), ("bindings", .list bindings),
    ("frozen_rag_materialization_hash", (ragMaterializationHash.map Value.str).getD .null)]
  match payload.dumps libraries.format with
  | none => .error (.unexpected "TypeError")
  | some text => .ok (libraries.sha256 text)

/-- `upsert_flow_snapshot`; the hash is a unique column. -/
def upsertFlowSnapshot (flowVersionId : ℕ) (content : FlowSnapshotContent) : Service ℕ := do
  let tables ← get
  raiseIf (∃ row ∈ tables.flowSnapshots, row.flowVersionId ≠ flowVersionId ∧
      row.snapshotHash = content.snapshotHash) (.integrity "flow_snapshot_snapshot_hash_key")
  modify fun tables => tables.saveFlowSnapshot flowVersionId content
  match tables.getFlowSnapshot flowVersionId with
  | some row => return row.flowSnapshotId
  | none => return tables.nextId

def upsertFlowDeployment (flowId flowVersionId flowSnapshotId : ℕ) (environment : String) :
    Service ℕ := do
  let tables ← get
  modify fun tables => tables.replaceDeployment flowId flowVersionId flowSnapshotId environment
  return tables.nextId

/-- `_materialize_snapshot_for_flow_version`. -/
def materializeSnapshot (flowId flowVersionId : ℕ) (principalId : String)
    (attachDefaultDeployment : Bool) :
    Service PUnit := do
  let tables ← get
  match tables.getGraphSnapshot flowVersionId, tables.getFlow flowId with
  | some graph, some flow =>
    let frozen ← resolveFrozenRag libraries env flow.tenantId flowVersionId
    let hash ← ofExcept
      (snapshotHash libraries graph.graphHash [] [] [] frozen.ragMaterializationHash)
    let flowSnapshotId ← upsertFlowSnapshot flowVersionId
      { snapshotHash := hash, flowGraphSnapshotId := graph.flowGraphSnapshotId,
        graphHash := graph.graphHash
        graph := graph.snapshot, runtimePolicy := [], toolCatalog := [],
        llmProviderConfigHash := none
        createdBy := principalId, frozenRag := frozen }
    if attachDefaultDeployment then
      let _ ← upsertFlowDeployment flowId flowVersionId flowSnapshotId "default"
  | _, _ => return

/-! ## Flows and versions -/

section

def createFlow (name : String) : Service PUnit := do
  raiseIf (strip name = []) (.domainValidation "flow_name_required")
  modify fun tables =>
    { tables with
      flows := tables.flows ++ [⟨tables.nextId, tenantId⟩], nextId := tables.nextId + 1 }

def createFlowVersion (flowId : ℕ) (sourceVersionId : Option ℕ) : Service PUnit := do
  let _ ← tenantFlow tenantId flowId
  let tables ← get
  raiseIf (∃ source ∈ sourceVersionId, tables.getFlowVersion source = none)
    (.notFound "source_version_not_found")
  modify fun tables =>
    { tables with
      versions := tables.versions ++ [⟨tables.nextId, flowId, .draft, false⟩]
      nextId := tables.nextId + 1 }

def validateFlowVersion (flowId flowVersionId : ℕ) : Service PUnit := do
  let _ ← tenantFlow tenantId flowId
  let version ← flowVersion flowId flowVersionId
  raiseIf (version.status ≠ .draft) (.resourceBlocked "flow_version_not_draft")
  let tables ← get
  let draft ← ofOption (.domainValidation "flow_graph_draft_not_found")
    (tables.getDraft flowVersionId)
  raiseIf (draft.status ≠ .validated) (.domainValidation "flow_graph_draft_not_validated")
  let published ← ofOption (.resourceBlocked "execution_limit_policy_not_configured")
    env.limitPolicy
  raiseIf (published = false) (.resourceBlocked "execution_limit_policy_not_published")
  assertAtMostOneMemoryWrite flowVersionId
  modify fun tables => tables.setStatus flowVersionId .validated

variable (request : VersionRequest)

def publishFlowVersion : Service PUnit := do
  let _ ← tenantFlow tenantId request.flowId
  let version ← flowVersion request.flowId request.flowVersionId
  raiseIf (version.status ≠ .validated) (.resourceBlocked "flow_version_not_validated")
  assertJustified request.justification
  assertAtMostOneMemoryWrite request.flowVersionId
  modify fun tables => tables.setStatus request.flowVersionId .published
  materializeSnapshot libraries env request.flowId request.flowVersionId request.principalId false

def moveActiveVersion : Service PUnit := do
  let _ ← publishedVersion tenantId request.flowId request.flowVersionId
  assertJustified request.justification
  let tables ← get
  raiseIf (tables.getGraphSnapshot request.flowVersionId = none)
    (.resourceBlocked "flow_graph_snapshot_missing")
  modify fun tables => tables.setActive request.flowId request.flowVersionId

def activateFlowVersion : Service PUnit := do
  moveActiveVersion tenantId request
  materializeSnapshot libraries env request.flowId request.flowVersionId request.principalId true

/-- `rollback_flow_version`: the deployment is left where it is. -/
def rollbackFlowVersion : Service PUnit := moveActiveVersion tenantId request

end

/-! ## Deployments -/

section

variable (request : DeploymentComposeRequest)

/-- The posted graph parses and passes the draft validator; compiled, it has a snapshot and a
hash. -/
def composedGraph : Service (Value × String) := do
  let definition ← ofOption (.unexpected "ValidationError") request.graphDefinition
  ofValidator (FlowGraphDraftValidator.validate libraries.draft definition)
  assertAtMostOneMemoryWrite request.flowVersionId
  ofExcept (compileGraph libraries definition)

def composedHash (graphHash : String) (frozen : FrozenRag) : Except ServiceError String :=
  snapshotHash libraries graphHash (request.runtimePolicyDefinition.getD [])
    (request.toolCatalog.getD [])
    (request.bindings.map DeploymentComposeBinding.modelDump) frozen.ragMaterializationHash

/-- The compiled graph of the version, whatever graph it was compiled from; a new one if there is
none. -/
def ensureGraphSnapshot (snapshot : Value) (graphHash : String) : Service FlowGraphSnapshotRow := do
  let tables ← get
  match tables.getGraphSnapshot request.flowVersionId with
  | some graph => return graph
  | none => createFlowGraphSnapshot request.flowVersionId snapshot graphHash request.principalId

/-- `compose_deployment`, once the key is acquired. -/
def composeAcquired : Service DeploymentComposeResponse := do
  let _ ← publishedVersion tenantId request.flowId request.flowVersionId
  let (snapshot, graphHash) ← composedGraph libraries request
  let graph ← ensureGraphSnapshot request snapshot graphHash
  let frozen ← resolveFrozenRag libraries env tenantId request.flowVersionId
  let hash ← ofExcept (composedHash libraries request graph.graphHash frozen)
  let flowSnapshotId ← upsertFlowSnapshot request.flowVersionId
    { snapshotHash := hash, flowGraphSnapshotId := graph.flowGraphSnapshotId,
      graphHash := graph.graphHash
      graph := snapshot, runtimePolicy := request.runtimePolicyDefinition.getD []
      toolCatalog := request.toolCatalog.getD [],
      llmProviderConfigHash := request.llmProviderConfigHash
      createdBy := request.principalId, frozenRag := frozen }
  let flowDeploymentId ← upsertFlowDeployment request.flowId request.flowVersionId flowSnapshotId
    request.environment
  return ⟨flowSnapshotId, flowDeploymentId, request.flowVersionId, request.environment⟩

def composeDeployment : Service DeploymentComposeResponse :=
  if env.acquired then composeAcquired libraries env tenantId request
  else ofOption .idempotencyInProgress env.stored

/-- `validate_compose_deployment`: the hash of the flow snapshot. -/
def validateComposeDeployment : Service String := do
  let _ ← tenantFlow tenantId request.flowId
  let _ ← flowVersion request.flowId request.flowVersionId
  let (_, graphHash) ← composedGraph libraries request
  let frozen ← resolveFrozenRag libraries env tenantId request.flowVersionId
  ofExcept (composedHash libraries request graphHash frozen)

end

/-! ## Operations -/

inductive Operation where
  | createFlow (name : String)
  | createFlowVersion (flowId : ℕ) (sourceVersionId : Option ℕ)
  | createNode (request : NodeCreate)
  | copyNodeFromTemplate (flowId flowVersionId : ℕ) (principalId : String)
      (request : NodeTemplateCopyRequest)
  | createCustomNode (flowId flowVersionId : ℕ) (principalId : String) (request : CustomNodeCreate)
  | createRouter (nodeId : ℕ)
  | createConditionExpression (expression : Option String)
  | createRoutingRule (request : RoutingRuleCreate)
  | batchUpsertArtifacts (request : FlowArtifactsBatchUpsertRequest)
  | createFlowGraph (request : FlowGraphDraftCreate)
  | upsertFlowGraphDraft (request : FlowGraphDraftCreate)
  | validateFlowGraphDraft (request : FlowGraphCompileRequest)
  | compileFlowGraph (request : FlowGraphCompileRequest)
  | validateFlowVersion (flowId flowVersionId : ℕ)
  | publishFlowVersion (request : VersionRequest)
  | activateFlowVersion (request : VersionRequest)
  | rollbackFlowVersion (request : VersionRequest)
  | composeDeployment (request : DeploymentComposeRequest)

/-- A call: the caller's tenant, what it reads elsewhere, and the operation. -/
structure Call where
  tenantId : ℕ
  env : Environment
  operation : Operation

def perform (call : Call) : Service PUnit :=
  match call.operation with
  | .createFlow name => createFlow call.tenantId name
  | .createFlowVersion flowId sourceVersionId =>
    createFlowVersion call.tenantId flowId sourceVersionId
  | .createNode request => createNode call.env call.tenantId request
  | .copyNodeFromTemplate flowId flowVersionId principalId request =>
    copyNodeFromTemplate libraries call.env call.tenantId flowId flowVersionId principalId request
  | .createCustomNode flowId flowVersionId principalId request =>
    createCustomNode libraries call.env call.tenantId flowId flowVersionId principalId request
  | .createRouter nodeId => createRouter call.tenantId nodeId
  | .createConditionExpression expression => createConditionExpression expression
  | .createRoutingRule request => createRoutingRule call.tenantId request
  | .batchUpsertArtifacts request => batchUpsertArtifacts call.tenantId libraries call.env request
  | .createFlowGraph request => createFlowGraph call.tenantId request
  | .upsertFlowGraphDraft request => upsertFlowGraphDraft call.tenantId request
  | .validateFlowGraphDraft request =>
    validateFlowGraphDraft libraries call.env call.tenantId request
  | .compileFlowGraph request => compileFlowGraph libraries call.tenantId request
  | .validateFlowVersion flowId flowVersionId =>
    validateFlowVersion call.env call.tenantId flowId flowVersionId
  | .publishFlowVersion request => publishFlowVersion libraries call.env call.tenantId request
  | .activateFlowVersion request => activateFlowVersion libraries call.env call.tenantId request
  | .rollbackFlowVersion request => rollbackFlowVersion call.tenantId request
  | .composeDeployment request => do
      let _ ← composeDeployment libraries call.env call.tenantId request

def step (tables : Tables) (call : Call) : Tables := Program.after (perform libraries call) tables

def history (tables : Tables) (calls : List Call) : Tables := calls.foldl (step libraries) tables

end AgentOrchestration.FlowsService
