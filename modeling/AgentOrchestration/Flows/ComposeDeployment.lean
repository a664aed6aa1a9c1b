import AgentOrchestration.Execution.IdempotentCreation
import AgentOrchestration.Flows.FlowGraph

/-!
# Composing a deployment

`FlowsService.compose_deployment` as the sequence of its repository operations, any of
which may raise. Nothing is checked before the idempotency key is acquired.
-/

namespace AgentOrchestration.Flows

set_option autoImplicit false

open Execution
open Interleaving (Thread)
open IdempotencyKey (Draft)

/-- A row of `node`, as far as a deployment reads it. -/
structure FlowNodeRow where
  flowVersionId : ℕ
  allowMemoryWrite : Bool
  ragConfigId : Option ℕ

structure AuthoringWorld where
  db : Database
  nodes : List FlowNodeRow

/-- `list_nodes_for_flow_version`. -/
def AuthoringWorld.nodesOf (world : AuthoringWorld) (flowVersionId : ℕ) : List FlowNodeRow :=
  world.nodes.filter fun node => node.flowVersionId = flowVersionId

/-- `DeploymentComposeRequest`; a graph that is `none` does not validate as a
`FlowGraphDefinition`. -/
structure DeploymentComposeRequest where
  flowId : ℕ
  flowVersionId : ℕ
  environment : String
  graphDefinition : Option FlowGraphDefinition

/-- `DeploymentComposeResponse`; it is about the deployment. -/
structure DeploymentComposeResponse where
  flowSnapshotId : ℕ
  flowVersionId : ℕ
  environment : String
  deriving DecidableEq

/-- A call: its request, fresh identifiers, and the steps that raise. -/
structure ComposeCall where
  request : DeploymentComposeRequest
  libraries : DraftLibraries
  freshGraphSnapshotId : ℕ
  freshFlowSnapshotId : ℕ
  freshDeploymentId : ℕ
  failures : CallStage → ℕ → Option ServiceError

abbrev AuthoringThread := Thread AuthoringWorld ServiceError

def serviceErrorOf (error : DraftError) : ServiceError :=
  match error.message with
  | some message => .domainValidation message
  | none => .unexpected "TypeError"

/-- `_unique_rag_config_id_for_flow_nodes`, from what was found so far. -/
def uniqueRagConfigId : Option ℕ → List FlowNodeRow → Except ServiceError (Option ℕ)
  | found, [] => .ok found
  | found, node :: rest =>
    match node.ragConfigId, found with
    | none, _ => uniqueRagConfigId found rest
    | some ragConfigId, none => uniqueRagConfigId (some ragConfigId) rest
    | some ragConfigId, some other =>
      if other ≠ ragConfigId then .error (.domainValidation "flow_snapshot_rag_config_conflict")
      else uniqueRagConfigId found rest

section

variable (tenantId : ℕ) (call : ComposeCall)

def deployableVersion (db : Database) : Except ServiceError PUnit :=
  match db.getFlowVersion call.request.flowVersionId with
  | none => .error (.notFound "flow_version_not_found")
  | some version =>
    if version.flowId ≠ call.request.flowId then .error (.notFound "flow_version_not_found")
    else if version.status ≠ .published then
      .error (.resourceBlocked "flow_version_not_published")
    else .ok ⟨⟩

def acceptedDefinition : Except ServiceError FlowGraphDefinition :=
  match call.request.graphDefinition with
  | none => .error (.unexpected "ValidationError")
  | some definition =>
    match FlowGraphDraftValidator.validate call.libraries definition with
    | .error error => .error (serviceErrorOf error)
    | .ok () => .ok definition

/-- `_assert_flow_version_at_most_one_memory_write`. -/
def atMostOneMemoryWrite (world : AuthoringWorld) : Except ServiceError PUnit :=
  if 1 < (world.nodesOf call.request.flowVersionId).countP FlowNodeRow.allowMemoryWrite then
    .error (.domainValidation "multiple_nodes_allow_memory_write")
  else .ok ⟨⟩

/-- `create_flow_graph_snapshot`. -/
def createGraph : AuthoringThread GraphSnapshotRow :=
  .act
    (fun world =>
      { world with
        db := createFlowGraphSnapshot world.db call.request.flowVersionId
          call.freshGraphSnapshotId })
    fun world =>
      if world.db.getFlowGraphSnapshot call.freshGraphSnapshotId = none ∧
          world.db.getFlowGraphSnapshotByFlowVersion call.request.flowVersionId = none then
        .done ⟨call.freshGraphSnapshotId, call.request.flowVersionId⟩
      else .raised (.integrity "flow_graph_snapshot_flow_version_id_key")

def ensureGraph : AuthoringThread GraphSnapshotRow := do
  match ← Thread.read fun world =>
      .ok (world.db.getFlowGraphSnapshotByFlowVersion call.request.flowVersionId) with
  | some graph => return graph
  | none => createGraph call

def upsertSnapshot (graph : GraphSnapshotRow) : AuthoringThread FlowSnapshotRow :=
  .act (fun world =>
      { world with db := upsertFlowSnapshot world.db graph call.freshFlowSnapshotId })
    fun world =>
      match (upsertFlowSnapshot world.db graph
        call.freshFlowSnapshotId).getFlowSnapshotByFlowVersion
          graph.flowVersionId with
      | some snapshot => .done snapshot
      | none => .raised (.integrity "flow_snapshot_pkey")

def prepareDeployment : AuthoringThread FlowSnapshotRow := do
  Thread.read fun world => checkTenant tenantId call.request.flowId world.db
  Thread.read fun world => deployableVersion call world.db
  let definition ← Thread.ofExcept (acceptedDefinition call)
  Thread.read (atMostOneMemoryWrite call)
  let _ ← Thread.ofExcept <|
    match FlowGraphCompiler.compile definition with
    | some snapshot => .ok snapshot
    | none => .error (.domainValidation "edge_condition_invalid")
  let graph ← ensureGraph call
  let _ ← Thread.read fun world =>
    uniqueRagConfigId none (world.nodesOf call.request.flowVersionId)
  let snapshot ← upsertSnapshot call graph
  -- `upsert_snapshot_effective_policy`
  Thread.read fun _ => .ok ⟨⟩
  -- `replace_snapshot_bindings`
  Thread.read fun _ => .ok ⟨⟩
  return snapshot

/-- `upsert_flow_deployment`. -/
def insertDeployment (snapshot : FlowSnapshotRow) (world : AuthoringWorld) :
    Except ServiceError (ℕ × AuthoringWorld) :=
  match call.failures .insert 0 with
  | some error => .error error
  | none =>
    .ok (call.freshDeploymentId,
      { world with
        db := upsertFlowDeployment world.db call.request.flowId snapshot call.request.environment
          call.freshDeploymentId })

def deploymentDraft :
    AuthoringThread (Draft AuthoringWorld ServiceError ℕ DeploymentComposeResponse) :=
  do
    let snapshot ← prepareDeployment tenantId call
    return { insert := insertDeployment call snapshot
             execute := fun _ => .done
               { flowSnapshotId := snapshot.flowSnapshotId
                 flowVersionId := call.request.flowVersionId
                 environment := call.request.environment } }

/-- `compose_deployment` around its key. -/
def composeDeploymentOperation :
    IdempotencyKey.Operation AuthoringWorld ServiceError ℕ DeploymentComposeResponse :=
  .done ((deploymentDraft tenantId call).interrupted (call.failures .prepare))

end

end AgentOrchestration.Flows
