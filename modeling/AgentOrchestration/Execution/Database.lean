import AgentOrchestration.Library.Table
import AgentOrchestration.GraphRuntime.ExecutionPlan
import AgentOrchestration.Lifecycle.FlowRunLifecycle

/-!
# The tables behind a flow run

The rows `create_flow_run` and the flow authoring service read and write: flows
and their versions, compiled graph snapshots, flow snapshots, deployments,
sessions, flow runs and checkpoints. Identifiers are natural numbers.

`Database.WellFormed` collects what the schema enforces (primary keys, unique
columns, foreign keys) and what every write of a snapshot or deployment
establishes: a flow snapshot points to a graph of its own version, and a
deployment to a flow snapshot of its own version.
-/

namespace AgentOrchestration.Execution

set_option autoImplicit false

open Lifecycle (RunStatus FlowRunStatus)
open Table (byKey)

inductive ServiceError where
  | domainValidation (message : String)
  | notFound (message : String)
  | resourceBlocked (message : String)
  | domainConflict (message : String)
  | idempotencyInProgress
  | limitExceeded (message : String)
  | authorizationDenied (message : String)
  | schemaIncompatible (message : String)
  | hashIncompatible (message : String)
  | integrity (constraint : String)
  /-- An exception that is not one of the services' own, by its class. -/
  | unexpected (errorClass : String)
  deriving DecidableEq, Repr

/-- The message of a `DomainValidationException`, which its subclasses inherit. -/
def ServiceError.domainValidationMessage : ServiceError → Option String
  | domainValidation message => some message
  | schemaIncompatible message => some message
  | hashIncompatible message => some message
  | _ => none

/-- `type(exc).__name__`. -/
def ServiceError.errorClass : ServiceError → String
  | domainValidation _ => "DomainValidationException"
  | notFound _ => "NotFoundServiceException"
  | resourceBlocked _ => "ResourceBlockedServiceException"
  | domainConflict _ => "DomainConflictException"
  | idempotencyInProgress => "IdempotencyInProgressException"
  | limitExceeded _ => "LimitExceededException"
  | authorizationDenied _ => "AuthorizationDeniedException"
  | schemaIncompatible _ => "SchemaIncompatibleException"
  | hashIncompatible _ => "HashIncompatibleException"
  | integrity _ => "IntegrityError"
  | unexpected errorClass => errorClass

inductive VersionStatus where
  | draft
  | validated
  | published
  | deprecated
  | disabled
  deriving DecidableEq, Repr

/-! ## Rows -/

structure FlowRow where
  flowId : ℕ
  tenantId : ℕ
  deriving DecidableEq

structure FlowVersionRow where
  flowVersionId : ℕ
  flowId : ℕ
  status : VersionStatus
  isActive : Bool
  deriving DecidableEq

/-- A row of `flow_graph_snapshot`: a graph compiled for a version. -/
structure GraphSnapshotRow where
  flowGraphSnapshotId : ℕ
  flowVersionId : ℕ
  deriving DecidableEq

/-- A row of `flow_snapshot`, with the graph its `snapshot` column names. -/
structure FlowSnapshotRow where
  flowSnapshotId : ℕ
  flowVersionId : ℕ
  flowGraphSnapshotId : Option ℕ
  deriving DecidableEq

/-- A row of `flow_deployment`; `isActive` is `status = 'ACTIVE'`. -/
structure DeploymentRow where
  flowDeploymentId : ℕ
  flowId : ℕ
  flowVersionId : ℕ
  flowSnapshotId : ℕ
  environment : String
  isActive : Bool
  deriving DecidableEq

structure SessionRow where
  sessionId : ℕ
  tenantId : ℕ
  userId : String
  deriving DecidableEq

/-- A row of `flow_run`, as far as it is read here. -/
structure FlowRunRow where
  flowRunId : ℕ
  sessionId : ℕ
  flowVersionId : ℕ
  userId : String
  correlationId : ℕ
  originFlowRunId : Option ℕ
  flowGraphSnapshotId : Option ℕ
  status : RunStatus
  canonicalStatus : FlowRunStatus
  createdAt : ℕ
  deriving DecidableEq

/-- A row of `graph_state`; `none` is a state that does not validate. -/
structure GraphStateRow where
  flowRunId : ℕ
  state : Option GraphStateSnapshot
  deriving DecidableEq

/-- The tables, and the cache of active versions that `create_flow_run` reads first. -/
structure Database where
  flows : List FlowRow
  versions : List FlowVersionRow
  graphSnapshots : List GraphSnapshotRow
  flowSnapshots : List FlowSnapshotRow
  deployments : List DeploymentRow
  sessions : List SessionRow
  flowRuns : List FlowRunRow
  graphStates : List GraphStateRow
  activeVersionCache : List (ℕ × ℕ)

namespace Database

variable (db : Database)

/-! ## Queries -/

variable (flowId : ℕ)

def getFlow : Option FlowRow := byKey FlowRow.flowId db.flows flowId

variable (flowVersionId : ℕ)

def getFlowVersion : Option FlowVersionRow :=
  byKey FlowVersionRow.flowVersionId db.versions flowVersionId

def activeVersion : Option ℕ :=
  (db.versions.find? fun row => row.flowId = flowId ∧ row.isActive = true).map
    FlowVersionRow.flowVersionId

/-- `get_active_flow_version_id`: the cached value, if there is one. -/
def getActiveFlowVersionId : Option ℕ :=
  match db.activeVersionCache.lookup flowId with
  | some cached => some cached
  | none => db.activeVersion flowId

def getFlowGraphSnapshot (flowGraphSnapshotId : ℕ) : Option GraphSnapshotRow :=
  byKey GraphSnapshotRow.flowGraphSnapshotId db.graphSnapshots flowGraphSnapshotId

def getFlowGraphSnapshotByFlowVersion : Option GraphSnapshotRow :=
  byKey GraphSnapshotRow.flowVersionId db.graphSnapshots flowVersionId

def getFlowSnapshotById (flowSnapshotId : ℕ) : Option FlowSnapshotRow :=
  byKey FlowSnapshotRow.flowSnapshotId db.flowSnapshots flowSnapshotId

def getFlowSnapshotByFlowVersion : Option FlowSnapshotRow :=
  byKey FlowSnapshotRow.flowVersionId db.flowSnapshots flowVersionId

def getActiveFlowDeployment (environment : String) : Option DeploymentRow :=
  db.deployments.find? fun row =>
    row.flowId = flowId ∧ row.environment = environment ∧ row.isActive = true

def getSession (sessionId : ℕ) : Option SessionRow :=
  byKey SessionRow.sessionId db.sessions sessionId

variable (flowRunId : ℕ)

def getFlowRun : Option FlowRunRow := byKey FlowRunRow.flowRunId db.flowRuns flowRunId

def getGraphState : Option GraphStateRow := byKey GraphStateRow.flowRunId db.graphStates flowRunId

/-! ## Well-formed databases -/

/-- What the schema and the writers of snapshots and deployments guarantee. -/
structure WellFormed : Prop where
  flowKeys : Table.UniqueKeys FlowRow.flowId db.flows
  versionKeys : Table.UniqueKeys FlowVersionRow.flowVersionId db.versions
  graphSnapshotKeys : Table.UniqueKeys GraphSnapshotRow.flowGraphSnapshotId db.graphSnapshots
  flowSnapshotKeys : Table.UniqueKeys FlowSnapshotRow.flowSnapshotId db.flowSnapshots
  flowSnapshotVersions : Table.UniqueKeys FlowSnapshotRow.flowVersionId db.flowSnapshots
  sessionKeys : Table.UniqueKeys SessionRow.sessionId db.sessions
  flowRunKeys : Table.UniqueKeys FlowRunRow.flowRunId db.flowRuns
  graphStateKeys : Table.UniqueKeys GraphStateRow.flowRunId db.graphStates
  /-- `flow_run.session_id` is a foreign key. -/
  runSessions : ∀ run ∈ db.flowRuns, ∃ session ∈ db.sessions, session.sessionId = run.sessionId
  /-- A flow snapshot names a graph compiled for its own version. -/
  snapshotGraphs : ∀ row ∈ db.flowSnapshots, ∃ graph ∈ db.graphSnapshots,
    row.flowGraphSnapshotId = some graph.flowGraphSnapshotId ∧
      graph.flowVersionId = row.flowVersionId
  /-- A deployment names a flow snapshot of its own version. -/
  deploymentSnapshots : ∀ row ∈ db.deployments, ∃ snapshot ∈ db.flowSnapshots,
    snapshot.flowSnapshotId = row.flowSnapshotId ∧ snapshot.flowVersionId = row.flowVersionId

def empty : Database :=
  { flows := [], versions := [], graphSnapshots := [], flowSnapshots := [], deployments := []
    sessions := [], flowRuns := [], graphStates := [], activeVersionCache := [] }

end Database

abbrev Store := { db : Database // db.WellFormed }

end AgentOrchestration.Execution
