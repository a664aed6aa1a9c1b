import AgentOrchestration.Library.IdempotencyKey
import AgentOrchestration.Execution.OriginIsolation
import AgentOrchestration.Execution.ResumeFlowRun
import AgentOrchestration.Flows.Deployments

/-!
# Creating a flow run under an idempotency key

`ExecutionService.create_flow_run` with its idempotency key, as the sequence of its
repository operations, any of which may raise. Calls with one key are interleaved with
each other, with other writers of the tables, and with the workflows they dispatch,
whose finalization releases the key it was given.
-/

namespace AgentOrchestration.Execution

set_option autoImplicit false

open Lifecycle (RunStatus FlowRunStatus)
open Interleaving (Thread Crew)
open IdempotencyKey (Response Failure Draft Operation)

def buildKey (tenantId : ℕ) (endpoint idempotencyKey : String) : String :=
  "idempotency:" ++ toString tenantId ++ ":" ++ endpoint ++ ":" ++ idempotencyKey

/-! ## The world of a call -/

/-- `FlowRunDispatchRequest`, which the engine passes on as the input of the workflow. -/
structure FlowRunDispatchRequest where
  flowRunId : ℕ
  turnIndex : ℕ
  idempotencyKey : Option String
  deriving DecidableEq

/-- The request that `_dispatch_flow_run` builds; it names no idempotency key. -/
def dispatchRequest (flowRunId turnIndex : ℕ) : FlowRunDispatchRequest :=
  { flowRunId, turnIndex, idempotencyKey := none }

structure ExecutionWorld where
  db : Database
  workflows : List FlowRunDispatchRequest

/-- `FlowRun`, the response of a call; its id is what the response is about. -/
structure FlowRun where
  flowVersionId : ℕ
  sessionId : ℕ
  userId : String
  correlationId : ℕ
  originFlowRunId : Option ℕ
  flowGraphSnapshotId : ℕ
  status : RunStatus
  canonicalStatus : FlowRunStatus
  deriving DecidableEq

inductive CallStage where
  | check
  | prepare
  | insert
  | execute
  deriving DecidableEq

/-- A call: its request, what it depends on, the steps that raise, and what the runtime does to the
tables when the run is driven in process. -/
structure FlowRunCall where
  request : FlowRunCreate
  env : RequestEnvironment
  failures : CallStage → ℕ → Option ServiceError
  runtime : CreatedRun → Thread Database ServiceError PUnit

structure SelectedVersion where
  flowId : ℕ
  flowVersionId : ℕ

/-- A program over the tables and the engine. -/
abbrev CreationThread := Thread ExecutionWorld ServiceError

def readTables {α : Type} (query : Database → Except ServiceError α) : CreationThread α :=
  .read fun world => query world.db

variable (world : ExecutionWorld)

def ExecutionWorld.withTables (db : Database) : ExecutionWorld := { world with db }

def ExecutionWorld.hasWorkflow (request : FlowRunDispatchRequest) : Bool :=
  world.workflows.any fun accepted =>
    accepted.flowRunId = request.flowRunId ∧ accepted.turnIndex = request.turnIndex

def otherWrite : CreationThread PUnit := readTables fun _ => .ok ⟨⟩

section

variable (settings : ResumeSettings) (tenantId : ℕ) (call : FlowRunCall)

/-! ## Before the key -/

def checkTenant (flowId : ℕ) (db : Database) : Except ServiceError PUnit :=
  match db.getFlow flowId with
  | none => .error (.notFound "flow_not_found")
  | some flow => if flow.tenantId ≠ tenantId then .error (.notFound "flow_not_found") else .ok ⟨⟩

/-- `get_active_flow_version_id`, with the check of what it returns. -/
def selectActiveVersion (flowId : ℕ) : CreationThread ℕ :=
  .act (fun world => world.withTables (world.db.cacheActiveVersion flowId))
    fun world => .ofExcept (activeFor world.db flowId call.request)

/-- The checks made before the key is acquired. -/
def selectVersion : CreationThread SelectedVersion := do
  let flowId ← readTables (requestedFlow · call.request)
  Thread.raiseIf (strip call.request.userId = []) (.domainValidation "user_id_required")
  readTables (checkTenant tenantId flowId)
  let flowVersionId ← selectActiveVersion call flowId
  return { flowId, flowVersionId }

/-! ## Between the key and the insert -/

def createSession (row : SessionRow) : CreationThread PUnit :=
  .act
    (fun world =>
      match world.db.getSession row.sessionId with
      | none => world.withTables { world.db with sessions := world.db.sessions ++ [row] }
      | some _ => world)
    fun world =>
      match world.db.getSession row.sessionId with
      | none => .done ⟨⟩
      | some _ => .raised (.integrity "session_pkey")

/-- The session of the request is created, or must belong to the caller. -/
def ensureSession : CreationThread PUnit := do
  match ← readTables fun db => .ok (db.getSession call.request.sessionId) with
  | none =>
    createSession { sessionId := call.request.sessionId, tenantId, userId := call.request.userId }
  | some session =>
    Thread.raiseIf (session.tenantId ≠ tenantId ∨ session.userId ≠ call.request.userId)
      (.domainConflict "session_user_mismatch")

def normalizeFlowRunInput : CreationThread PUnit :=
  readTables fun _ =>
    if call.env.normalizes then .ok ⟨⟩
    else .error (.domainValidation "user_input_normalizer_required")

def adoptOrigin (flowVersionId : ℕ) : CreationThread Origin := do
  match ← readTables fun db => .ok (originOf db call.request flowVersionId) with
  | none => return Origin.none
  | some flowRunId => readTables (continueFrom · flowRunId)

variable (version : SelectedVersion)

def draftFlowRun : CreationThread CreatedRun := do
  normalizeFlowRunInput call
  -- `create_interaction`
  otherWrite
  let origin ← adoptOrigin call version.flowVersionId
  let graph ← readTables (selectGraph · call.env version.flowId version.flowVersionId)
  return { flowRunId := call.env.freshFlowRunId, flowId := version.flowId
           flowVersionId := version.flowVersionId
           flowGraphSnapshotId := graph.flowGraphSnapshotId, origin }

def prepareCreation : CreationThread CreatedRun := do
  Thread.raiseIf (call.env.validTraceId = false) (.domainValidation "invalid_trace_id")
  ensureSession tenantId call
  draftFlowRun call version

variable (run : CreatedRun)

/-- `repository.create_flow_run`. -/
def insertFlowRun (world : ExecutionWorld) : Except ServiceError (ℕ × ExecutionWorld) :=
  match call.failures .insert 0 with
  | some error => .error error
  | none =>
    match insertRun world.db call.env call.request run with
    | (db, .ok run) => .ok (run.flowRunId, world.withTables db)
    | (_, .error error) => .error error

/-! ## After the insert -/

/-- `start_workflow` with `REJECT_DUPLICATE`. -/
def startFlowRun (request : FlowRunDispatchRequest) : CreationThread PUnit :=
  .act
    (fun world =>
      if world.hasWorkflow request then world
      else { world with workflows := world.workflows ++ [request] })
    fun world =>
      if world.hasWorkflow request then .raised (.unexpected "WorkflowAlreadyStartedError")
      else .done ⟨⟩

/-- `_dispatch_flow_run` of a first turn. -/
def dispatchFlowRun (flowRunId : ℕ) : CreationThread PUnit := do
  Thread.raiseIf (settings.engineAvailable = false)
    (.domainValidation "workflow_engine_unavailable")
  startFlowRun (dispatchRequest flowRunId 0)
  Thread.update fun world =>
    world.withTables (world.db.setFlowRunStatus flowRunId Lifecycle.Turn.first.dispatchRow)
  -- `await_flow_run_turn`, which may end at any time
  otherWrite

def createdResponse : FlowRun :=
  { flowVersionId := run.flowVersionId, sessionId := call.request.sessionId
    userId := call.request.userId
    correlationId := call.request.correlationId.getD call.env.freshCorrelationId
    originFlowRunId := run.origin.originFlowRunId
    flowGraphSnapshotId := run.flowGraphSnapshotId
    status := .created, canonicalStatus := .created }

def mergeFlowRunResult (response : FlowRun) : Option FlowRunRow → FlowRun
  | none => response
  | some row => { response with status := row.status, canonicalStatus := row.canonicalStatus }

def executeFlowRun : CreationThread FlowRun := do
  -- the trace, the link of the interaction and the start event
  otherWrite
  if settings.temporalEnabled then dispatchFlowRun settings run.flowRunId
  else (call.runtime run).within ExecutionWorld.db ExecutionWorld.withTables id
  readTables fun db =>
    .ok (mergeFlowRunResult (createdResponse call run) (db.getFlowRun run.flowRunId))

/-- What is left to do once the key is acquired and the run can be inserted. -/
def flowRunDraft :
    CreationThread (Draft ExecutionWorld ServiceError ℕ FlowRun) := do
  let run ← prepareCreation tenantId call version
  return { insert := insertFlowRun call run
           execute := fun _ =>
             (executeFlowRun settings call run).interrupted (call.failures .execute) }

/-- `create_flow_run` around its key. -/
def createFlowRunOperation : Operation ExecutionWorld ServiceError ℕ FlowRun :=
  Thread.interrupted
    (do
      let version ← selectVersion tenantId call
      return (flowRunDraft settings tenantId call version).interrupted (call.failures .prepare))
    (call.failures .check)

end

/-! ## Workflows have no key -/

variable (world : ExecutionWorld)

def Keyless : Prop := ∀ request ∈ world.workflows, request.idempotencyKey = none

def KeepsKeyless (before after : ExecutionWorld) : Prop := Keyless before → Keyless after

theorem keepsKeyless_of_workflows {before after : ExecutionWorld}
    (eq : after.workflows = before.workflows) : KeepsKeyless before after := by
  intro keyless req mem
  rw [eq] at mem
  exact keyless req mem

theorem keepsKeyless_append (flowRunId turnIndex : ℕ) : KeepsKeyless world
      { world with workflows := world.workflows ++ [dispatchRequest flowRunId turnIndex] } := by
  intro keyless req mem
  rcases List.mem_append.mp mem with old | new
  · exact keyless req old
  · rw [List.mem_singleton.mp new]
    rfl

section

variable {settings : ResumeSettings} {tenantId : ℕ} {call : FlowRunCall}

theorem always_readTables {α : Type} {query : Database → Except ServiceError α} :
    (readTables query).Always KeepsKeyless fun _ => True :=
  .read (fun _ keyless => keyless) fun _ => trivial

theorem always_selectVersion : (selectVersion tenantId call).Always KeepsKeyless fun _ => True := by
  refine .bind (fun flowId _ => ?_) always_readTables
  refine .bind (fun _ _ => ?_) .raiseIf
  refine .bind (fun _ _ => ?_) always_readTables
  have selects : (selectActiveVersion call flowId).Always KeepsKeyless fun _ => True :=
    fun world => ⟨keepsKeyless_of_workflows rfl, .ofExcept fun _ => trivial⟩
  exact .bind (fun _ _ => trivial) selects

theorem always_ensureSession : (ensureSession tenantId call).Always KeepsKeyless fun _ => True := by
  refine .bind (fun found _ => ?_) always_readTables
  cases found with
  | none =>
    intro world
    refine ⟨?_, ?_⟩
    · dsimp only
      split <;> exact keepsKeyless_of_workflows rfl
    · dsimp only
      split <;> trivial
  | some session => exact .raiseIf

theorem always_adoptOrigin (flowVersionId : ℕ) :
    (adoptOrigin call flowVersionId).Always KeepsKeyless fun _ => True := by
  refine .bind (fun found _ => ?_) always_readTables
  cases found with
  | none => trivial
  | some flowRunId => exact always_readTables

theorem always_prepareCreation (version : SelectedVersion) :
    (prepareCreation tenantId call version).Always KeepsKeyless fun _ => True := by
  refine .bind (fun _ _ => ?_) .raiseIf
  refine .bind (fun _ _ => ?_) always_ensureSession
  refine .bind (fun _ _ => ?_) always_readTables
  refine .bind (fun _ _ => ?_) always_readTables
  refine .bind (fun _ _ => ?_) (always_adoptOrigin version.flowVersionId)
  exact .bind (fun _ _ => trivial) always_readTables

theorem always_dispatchFlowRun (flowRunId : ℕ) :
    (dispatchFlowRun settings flowRunId).Always KeepsKeyless fun _ => True := by
  refine .bind (fun _ _ => ?_) .raiseIf
  have starts : (startFlowRun (dispatchRequest flowRunId 0)).Always KeepsKeyless fun _ => True := by
    intro world
    refine ⟨?_, ?_⟩
    · dsimp only
      split
      · exact keepsKeyless_of_workflows rfl
      · exact keepsKeyless_append world flowRunId 0
    · dsimp only
      split <;> trivial
  refine .bind (fun _ _ => ?_) starts
  exact .bind (fun _ _ => always_readTables) (.update fun _ => keepsKeyless_of_workflows rfl)

theorem always_executeFlowRun (run : CreatedRun) :
    (executeFlowRun settings call run).Always KeepsKeyless fun _ => True := by
  refine .bind (fun _ _ => ?_) always_readTables
  split
  · exact .bind (fun _ _ => always_readTables) (always_dispatchFlowRun run.flowRunId)
  · exact .bind (fun _ _ => always_readTables)
      (.within fun _ _ => keepsKeyless_of_workflows rfl)

theorem keepsKeyless_insertFlowRun {run world after about}
    (ins : insertFlowRun call run world = .ok (about, after)) : KeepsKeyless world after := by
  rw [insertFlowRun] at ins
  split at ins
  · cases ins
  · split at ins
    · cases ins
      exact keepsKeyless_of_workflows rfl
    · cases ins

theorem keyless_createFlowRun (settings tenantId call) :
    (createFlowRunOperation settings tenantId call).Lawful KeepsKeyless := by
  refine .interrupted (.bind (fun version _ => ?_) always_selectVersion)
  refine Thread.Always.interrupted (.bind (fun run _ => ?_) (always_prepareCreation version))
  exact ⟨fun _ _ _ ins => keepsKeyless_insertFlowRun ins, fun _ =>
    .interrupted (always_executeFlowRun run)⟩

end

/-! ## Calls with one key -/

abbrev KeyedStore := IdempotencyKey.Store ExecutionWorld String ℕ FlowRun

/-- `_release_idempotency`: a record without a response, under the key that the workflow was
given. -/
def releaseIdempotency (ttl : Option ℕ) (payload : FlowRunDispatchRequest) (store : KeyedStore) :
    KeyedStore :=
  match payload.idempotencyKey with
  | none => store
  | some key => if key = "" then store else store.set ttl key .closed

inductive ExecutionEvent where
  /-- Other writers of the tables, and time. -/
  | others (change : Database → Database) (elapsed : ℕ)
  /-- Another call dispatches a turn. -/
  | dispatch (flowRunId turnIndex : ℕ)
  /-- A workflow is finalized. -/
  | finalize (index : ℕ)

def ExecutionEvent.apply : ExecutionEvent → KeyedStore → Option KeyedStore
  | .others change elapsed, store =>
    some { store with tables := store.tables.withTables (change store.tables.db)
                      now := store.now + elapsed }
  | .dispatch flowRunId turnIndex, store =>
    some { store with
      tables := { store.tables with
        workflows := store.tables.workflows ++ [dispatchRequest flowRunId turnIndex] } }
  | .finalize index, store =>
    (store.tables.workflows[index]?).map fun payload => releaseIdempotency none payload store

theorem apply_leavesAlone (key : String) :
    IdempotencyKey.LeavesAlone Keyless key ExecutionEvent.apply := by
  intro event st after keyless applied
  cases event with
  | others change elapsed =>
    cases applied
    exact ⟨⟨rfl, rfl, rfl, Nat.le_add_right _ _⟩, keepsKeyless_of_workflows rfl keyless⟩
  | dispatch flowRunId turnIndex =>
    cases applied
    exact ⟨⟨rfl, rfl, rfl, Nat.le_refl _⟩, keepsKeyless_append _ flowRunId turnIndex keyless⟩
  | finalize idx =>
    obtain ⟨payload, found, rfl⟩ := Option.map_eq_some_iff.mp applied
    have noKey := keyless payload (List.mem_of_getElem? found)
    rw [releaseIdempotency, noKey]
    exact ⟨.refl key st, keyless⟩

/-- Calls of `create_flow_run` with one tenant, endpoint and idempotency key. -/
abbrev FlowRunCalls := Crew KeyedStore (Failure ServiceError) (Response ℕ FlowRun)

def FlowRunCalls.after (settings : ResumeSettings) (tenantId : ℕ) (endpoint idempotencyKey : String)
    (calls : FlowRunCalls) (moves : List (Crew.Move FlowRunCall ExecutionEvent)) : FlowRunCalls :=
  IdempotencyKey.run (buildKey tenantId endpoint idempotencyKey)
    (createFlowRunOperation settings tenantId) ExecutionEvent.apply calls moves

def FlowRunCalls.initial (db : Database) : FlowRunCalls :=
  .idle { tables := { db, workflows := [] }, entries := fun _ => none, now := 0, created := []
          attempts := [] }

/-- **However the calls with one key are interleaved, at most one run is created; once a call has
returned a response, nothing more is created, and every later call that passes the checks before the
key returns that response. No call runs forever.** -/
theorem created_once_and_replayed (settings : ResumeSettings) (tenantId : ℕ)
    (endpoint idempotencyKey : String) (db : Database)
    (before after : List (Crew.Move FlowRunCall ExecutionEvent)) :
    let call := FlowRunCalls.after settings tenantId endpoint idempotencyKey
    let middle := call (.initial db) before
    let last := call middle after
    last.shared.created.length ≤ 1 ∧ (∀ n response, middle.outcome n = some (.ok response) →
        last.shared.created = [response.about] ∧
        ∀ m outcome, middle.threads.length ≤ m → last.outcome m = some outcome →
          outcome = .ok response ∨ ∃ error, outcome = .error (.refused error)) ∧
      ∀ m < last.threads.length, ∃ turns outcome,
        (call last (List.replicate turns (.advance m))).outcome m = some outcome := by
  intro call middle last
  have keeping : IdempotencyKey.Keeping Keyless (createFlowRunOperation settings tenantId) :=
    keyless_createFlowRun settings tenantId
  have alone := apply_leavesAlone (buildKey tenantId endpoint idempotencyKey)
  obtain ⟨roles, governed⟩ : ∃ roles,
      IdempotencyKey.Governed Keyless (buildKey tenantId endpoint idempotencyKey) middle roles :=
    IdempotencyKey.governed_run keeping alone
      (IdempotencyKey.governed_idle rfl rfl (by simp [Keyless])) before
  obtain ⟨_, governedLast⟩ := IdempotencyKey.governed_run keeping alone governed after
  refine ⟨governedLast.created_le_one, fun n response answered => ?_, fun m inside => ?_⟩
  · exact IdempotencyKey.replayed keeping alone governed after answered
  · exact Crew.finishes (List.getElem?_eq_getElem inside)

/-- A call of user `u` in process, in which nothing raises. -/
def ordinaryCall : FlowRunCall :=
  { request := requestFrom 30, env := plainEnvironment, failures := fun _ _ => none
    runtime := fun _ => .done ⟨⟩ }

/-- A call that names a version of flow 10. -/
def versionedCall : FlowRunCall :=
  { ordinaryCall with
    request := { requestFrom 30 with flowVersionId := some 11, originFlowRunId := none } }

/-- Version 15 of the flow is activated, and the cached active version runs out. -/
def newVersion : ExecutionEvent :=
  .others (fun db =>
    Flows.history db [.activateFlowVersion 1 10 15 (Flows.acceptingEnvironment 101),
    .expireActiveVersion 10]) 60

def inProcessCalls : FlowRunCalls → List (Crew.Move FlowRunCall ExecutionEvent) → FlowRunCalls :=
  FlowRunCalls.after { temporalEnabled := false, engineAvailable := false } 1 "flow-runs" "k"

/-- A call returns its run. The same call made again, after another version of the flow was
activated, is refused by a check that comes before the key. -/
theorem later_call_refused :
    let db := Flows.history Flows.twoVersions
      [.activateFlowVersion 1 10 11 (Flows.acceptingEnvironment 100)]
    let middle := inProcessCalls (.initial db)
      (.start versionedCall :: List.replicate 14 (.advance 0))
    let last := inProcessCalls middle
      (.other newVersion :: .start versionedCall :: List.replicate 3 (.advance 1))
    (middle.outcome 0).map (fun outcome => outcome.map Response.about) = some (.ok 40) ∧
      middle.threads.length = 1 ∧
      last.outcome 1 = some (.error (.refused (.resourceBlocked "flow_version_not_active"))) :=
  ⟨rfl, rfl, rfl⟩

end AgentOrchestration.Execution
