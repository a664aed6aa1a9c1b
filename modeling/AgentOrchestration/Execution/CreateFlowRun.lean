import AgentOrchestration.Execution.Database

/-!
# Creating a flow run

`ExecutionService.create_flow_run` up to the insert of the run: it selects the
flow version, opens the session, resolves the run to continue from, and selects
the compiled graph. The database is passed along, so that what a refused
request has already written stays written.
-/

namespace AgentOrchestration.Execution

set_option autoImplicit false

/-- `FlowRunCreate`, as far as it is read before the run is executed. -/
structure FlowRunCreate where
  flowId : Option ℕ
  flowVersionId : Option ℕ
  sessionId : ℕ
  userId : String
  correlationId : Option ℕ
  originFlowRunId : Option ℕ
  deriving DecidableEq

/-- What else a request depends on: the idempotency key, the trace id, the input normalizer, the
settings, fresh identifiers and the clock. -/
structure RequestEnvironment where
  /-- The idempotency key is acquired; otherwise no run is created. -/
  acquired : Bool
  validTraceId : Bool
  normalizes : Bool
  legacyGraphContract : Bool
  freshCorrelationId : ℕ
  freshFlowRunId : ℕ
  now : ℕ
  deriving DecidableEq

/-- The run to continue from, and what the new run takes over from it. -/
structure Origin where
  originFlowRunId : Option ℕ
  startNodeId : Option String
  initialState : Option Fields
  initialMemory : Option (List Value)
  deriving DecidableEq

def Origin.none : Origin :=
  { originFlowRunId := .none, startNodeId := .none, initialState := .none, initialMemory := .none }

structure CreatedRun where
  flowRunId : ℕ
  flowId : ℕ
  flowVersionId : ℕ
  flowGraphSnapshotId : ℕ
  origin : Origin
  deriving DecidableEq

/-! ## Selecting the version -/

variable (db : Database) (req : FlowRunCreate)

/-- The flow a request is about: that of the version it names, else the one it names. -/
def requestedFlow : Except ServiceError ℕ :=
  match req.flowVersionId with
  | some flowVersionId =>
    match db.getFlowVersion flowVersionId with
    | none => .error (.notFound "flow_version_not_found")
    | some version =>
      if version.status ≠ .published then
        .error (.resourceBlocked "flow_version_not_published")
      else .ok version.flowId
  | none =>
    match req.flowId with
    | none => .error (.domainValidation "flow_id_or_flow_version_id_required")
    | some flowId => .ok flowId

variable (tenantId : ℕ)

def tenantFlow (req : FlowRunCreate) : Except ServiceError ℕ :=
  match requestedFlow db req with
  | .error error => .error error
  | .ok flowId =>
    if strip req.userId = [] then .error (.domainValidation "user_id_required")
    else
      match db.getFlow flowId with
      | none => .error (.notFound "flow_not_found")
      | some flow =>
        if flow.tenantId ≠ tenantId then .error (.notFound "flow_not_found") else .ok flowId

variable (flowId : ℕ)

/-- The active version of the flow, which must be the one the request names. -/
def activeFor (req : FlowRunCreate) : Except ServiceError ℕ :=
  match db.getActiveFlowVersionId flowId with
  | none => .error (.resourceBlocked "flow_not_active")
  | some active =>
    if ∃ flowVersionId ∈ req.flowVersionId, active ≠ flowVersionId then
      .error (.resourceBlocked "flow_version_not_active")
    else .ok active

/-- `get_active_flow_version_id` keeps what it read. -/
def Database.cacheActiveVersion : Database :=
  match db.getActiveFlowVersionId flowId with
  | none => db
  | some active =>
    { db with activeVersionCache := OrderedDict.set db.activeVersionCache flowId active }

/-! ## The session -/

variable (env : RequestEnvironment)

/-- The session of the request is created, or must belong to the caller. -/
def openSession (req : FlowRunCreate) : Database × Except ServiceError Unit :=
  if env.acquired = false then (db, .error .idempotencyInProgress)
  else if env.validTraceId = false then (db, .error (.domainValidation "invalid_trace_id"))
  else
    match db.getSession req.sessionId with
    | none =>
      ({ db with
          sessions := db.sessions ++
            [{ sessionId := req.sessionId, tenantId, userId := req.userId }] },
        if env.normalizes then .ok ()
        else .error (.domainValidation "user_input_normalizer_required"))
    | some session =>
      if session.tenantId ≠ tenantId ∨ session.userId ≠ req.userId then
        (db, .error (.domainConflict "session_user_mismatch"))
      else
        (db, if env.normalizes then .ok ()
          else .error (.domainValidation "user_input_normalizer_required"))

/-! ## The run to continue from -/

def FlowRunRow.isWaiting (run : FlowRunRow) : Bool :=
  run.status = .waitingInput ∨ run.canonicalStatus = .waiting

/-- The order of `get_latest_waiting_flow_run_id`: by creation, then by id. -/
def FlowRunRow.isLater (run other : FlowRunRow) : Bool :=
  other.createdAt < run.createdAt ∨ other.createdAt = run.createdAt ∧
    other.flowRunId < run.flowRunId

def latest : List FlowRunRow → Option FlowRunRow
  | [] => none
  | run :: rest =>
    match latest rest with
    | none => some run
    | some best => if best.isLater run then some best else some run

def matchesLookup (sessionId correlationId flowVersionId : ℕ) (userId : String) (run : FlowRunRow) :
    Bool :=
  run.sessionId = sessionId ∧ run.correlationId = correlationId ∧
    run.flowVersionId = flowVersionId ∧ run.userId = userId ∧ run.isWaiting = true

/-- `get_latest_waiting_flow_run_id`. -/
def Database.latestWaitingFlowRunId (sessionId correlationId flowVersionId : ℕ) (userId : String) :
    Option ℕ :=
  (latest (db.flowRuns.filter (matchesLookup sessionId correlationId flowVersionId userId))).map
    FlowRunRow.flowRunId

/-- `snapshot.resume_to_node_id or snapshot.current_node_id`. -/
def resumeNode (snapshot : GraphStateSnapshot) : Option String :=
  match snapshot.resumeToNodeId with
  | some nodeId => if nodeId = "" then snapshot.currentNodeId else some nodeId
  | none => snapshot.currentNodeId

/-- What a new run takes over from the run it names: nothing unless that one waits and has a
checkpoint. The lock row refuses a run that does not exist. -/
def continueFrom (flowRunId : ℕ) : Except ServiceError Origin :=
  match db.getFlowRun flowRunId with
  | none => .error (.integrity "flow_run_lock_flow_run_id_fkey")
  | some run =>
    if run.isWaiting = true then
      match db.getGraphState flowRunId with
      | none => .ok Origin.none
      | some row =>
        match row.state with
        | none => .error (.domainValidation "invalid_graph_state")
        | some snapshot =>
          .ok
            { originFlowRunId := some flowRunId, startNodeId := resumeNode snapshot
              initialState := some snapshot.state, initialMemory := some snapshot.memory }
    else .ok Origin.none

/-- The run a request continues from: the one it names, else the latest waiting one with its
correlation id. -/
def originOf (flowVersionId : ℕ) : Option ℕ :=
  match req.originFlowRunId with
  | some flowRunId => some flowRunId
  | none =>
    match req.correlationId with
    | none => none
    | some correlationId =>
      db.latestWaitingFlowRunId req.sessionId correlationId flowVersionId req.userId

def resolveOrigin (flowVersionId : ℕ) : Except ServiceError Origin :=
  match originOf db req flowVersionId with
  | none => .ok Origin.none
  | some flowRunId => continueFrom db flowRunId

/-! ## The graph -/

def selectFlowSnapshot (flowId flowVersionId : ℕ) : Option FlowSnapshotRow :=
  match (db.getActiveFlowDeployment flowId "default").bind fun deployment =>
      db.getFlowSnapshotById deployment.flowSnapshotId with
  | some snapshot => some snapshot
  | none => db.getFlowSnapshotByFlowVersion flowVersionId

def namedGraph (flowId flowVersionId : ℕ) : Except ServiceError (Option GraphSnapshotRow) :=
  match selectFlowSnapshot db flowId flowVersionId with
  | some snapshot =>
    match snapshot.flowGraphSnapshotId with
    | some graphId => .ok (db.getFlowGraphSnapshot graphId)
    | none => .ok (db.getFlowGraphSnapshotByFlowVersion flowVersionId)
  | none =>
    if env.legacyGraphContract = false then .error (.resourceBlocked "flow_snapshot_required")
    else .ok (db.getFlowGraphSnapshotByFlowVersion flowVersionId)

def selectGraph (flowId flowVersionId : ℕ) : Except ServiceError GraphSnapshotRow :=
  match namedGraph db env flowId flowVersionId with
  | .error error => .error error
  | .ok none => .error (.resourceBlocked "flow_graph_snapshot_missing")
  | .ok (some graph) => .ok graph

/-! ## The request -/

def newRunRow (req : FlowRunCreate) (run : CreatedRun) : FlowRunRow :=
  { flowRunId := run.flowRunId, sessionId := req.sessionId, flowVersionId := run.flowVersionId
    userId := req.userId, correlationId := req.correlationId.getD env.freshCorrelationId
    originFlowRunId := run.origin.originFlowRunId
    flowGraphSnapshotId := some run.flowGraphSnapshotId
    status := .created, canonicalStatus := .created, createdAt := env.now }

def insertRun (req : FlowRunCreate) (run : CreatedRun) :
    Database × Except ServiceError CreatedRun :=
  match db.getFlowRun run.flowRunId with
  | some _ => (db, .error (.integrity "flow_run_pkey"))
  | none =>
      ({ db with flowRuns := db.flowRuns ++ [newRunRow env req run] }, .ok run)

/-- `create_flow_run` up to the insert of the run. -/
def createFlowRun (req : FlowRunCreate) : Database × Except ServiceError CreatedRun :=
  match tenantFlow db tenantId req with
  | .error error => (db, .error error)
  | .ok flowId =>
    match activeFor db flowId req with
    | .error error => (db.cacheActiveVersion flowId, .error error)
    | .ok flowVersionId =>
      match openSession (db.cacheActiveVersion flowId) tenantId env req with
      | (db, .error error) => (db, .error error)
      | (db, .ok ()) =>
        match resolveOrigin db req flowVersionId with
        | .error error => (db, .error error)
        | .ok origin =>
          match selectGraph db env flowId flowVersionId with
          | .error error => (db, .error error)
          | .ok graph =>
            insertRun db env req
              { flowRunId := env.freshFlowRunId, flowId, flowVersionId
                flowGraphSnapshotId := graph.flowGraphSnapshotId, origin }

/-! ## What a request leaves alone -/

structure SameTables (db db' : Database) : Prop where
  flows : db'.flows = db.flows
  versions : db'.versions = db.versions
  graphSnapshots : db'.graphSnapshots = db.graphSnapshots
  flowSnapshots : db'.flowSnapshots = db.flowSnapshots
  deployments : db'.deployments = db.deployments
  flowRuns : db'.flowRuns = db.flowRuns
  graphStates : db'.graphStates = db.graphStates

theorem sameTables_cacheActiveVersion : SameTables db (db.cacheActiveVersion flowId) := by
  unfold Database.cacheActiveVersion
  cases db.getActiveFlowVersionId flowId <;> constructor <;> rfl

@[simp] theorem sessions_cacheActiveVersion :
    (db.cacheActiveVersion flowId).sessions = db.sessions := by
  unfold Database.cacheActiveVersion
  cases db.getActiveFlowVersionId flowId <;> rfl

theorem openSession_congr {db db'} (eq : db'.sessions = db.sessions) (tenantId env req) :
    (openSession db' tenantId env req).2 = (openSession db tenantId env req).2 := by
  unfold openSession Database.getSession
  rw [eq]
  split
  · rfl
  · split
    · rfl
    · split
      · rfl
      · split <;> rfl

theorem sameTables_openSession (req : FlowRunCreate) :
    SameTables db (openSession db tenantId env req).1 := by
  unfold openSession
  split
  · exact ⟨rfl, rfl, rfl, rfl, rfl, rfl, rfl⟩
  · split
    · exact ⟨rfl, rfl, rfl, rfl, rfl, rfl, rfl⟩
    · split
      · exact ⟨rfl, rfl, rfl, rfl, rfl, rfl, rfl⟩
      · split <;> exact ⟨rfl, rfl, rfl, rfl, rfl, rfl, rfl⟩

theorem SameTables.trans {first second third} (left : SameTables first second)
    (right : SameTables second third) : SameTables first third :=
  ⟨right.flows.trans left.flows, right.versions.trans left.versions,
    right.graphSnapshots.trans left.graphSnapshots, right.flowSnapshots.trans left.flowSnapshots,
    right.deployments.trans left.deployments, right.flowRuns.trans left.flowRuns,
    right.graphStates.trans left.graphStates⟩

/-- What a request does before the insert leaves these tables alone. -/
theorem sameTables_beforeInsert (flowId tenantId env req) :
    SameTables db (openSession (db.cacheActiveVersion flowId) tenantId env req).1 :=
  (sameTables_cacheActiveVersion db flowId).trans (sameTables_openSession _ tenantId env req)

theorem SameTables.getFlowRun {db db'} (eq : SameTables db db') (flowRunId : ℕ) :
    db'.getFlowRun flowRunId = db.getFlowRun flowRunId := by
  unfold Database.getFlowRun
  rw [eq.flowRuns]

theorem SameTables.resolveOrigin {db db'} (eq : SameTables db db') (req flowVersionId) :
    resolveOrigin db' req flowVersionId = resolveOrigin db req flowVersionId := by
  unfold Execution.resolveOrigin originOf continueFrom Database.latestWaitingFlowRunId
    Database.getFlowRun Database.getGraphState
  rw [eq.flowRuns, eq.graphStates]

theorem SameTables.selectGraph {db db'} (eq : SameTables db db') (env flowId flowVersionId) :
    selectGraph db' env flowId flowVersionId = selectGraph db env flowId flowVersionId := by
  unfold Execution.selectGraph namedGraph selectFlowSnapshot Database.getActiveFlowDeployment
    Database.getFlowSnapshotById Database.getFlowSnapshotByFlowVersion
    Database.getFlowGraphSnapshot Database.getFlowGraphSnapshotByFlowVersion
  rw [eq.graphSnapshots, eq.flowSnapshots, eq.deployments]

/-- A request whose session check passes has the caller's session, or none before. -/
structure SessionChecked (db : Database) (tenantId : ℕ) (req : FlowRunCreate) : Prop where
  owned : ∀ session ∈ db.getSession req.sessionId, session.tenantId = tenantId ∧
    session.userId = req.userId

theorem sessionChecked_of_openSession {db tenantId env req}
    (opened : (openSession db tenantId env req).2 = .ok ()) :
    SessionChecked db tenantId req := by
  constructor
  intro session found
  unfold openSession at opened
  rw [show db.getSession req.sessionId = some session from found] at opened
  by_contra foreign
  have mismatch : session.tenantId ≠ tenantId ∨ session.userId ≠ req.userId := by
    by_contra neither
    exact foreign (by simpa using neither)
  simp only [mismatch, if_true] at opened
  split at opened
  · cases opened
  · split at opened <;> cases opened

/-- What a request that succeeds has gone through, read off the database it started with. -/
structure Created (db : Database) (tenantId : ℕ) (env : RequestEnvironment) (req : FlowRunCreate)
    (run : CreatedRun) : Prop where
  flow : tenantFlow db tenantId req = .ok run.flowId
  active : activeFor db run.flowId req = .ok run.flowVersionId
  opened : (openSession (db.cacheActiveVersion run.flowId) tenantId env req).2 = .ok ()
  origin : resolveOrigin db req run.flowVersionId = .ok run.origin
  graph : ∃ graph, selectGraph db env run.flowId run.flowVersionId = .ok graph ∧
    graph.flowGraphSnapshotId = run.flowGraphSnapshotId
  fresh : db.getFlowRun env.freshFlowRunId = none
  flowRunId : run.flowRunId = env.freshFlowRunId

theorem insertRun_ok_iff {db env req new run} :
    (insertRun db env req new).2 = .ok run ↔ db.getFlowRun new.flowRunId = none ∧ new = run := by
  unfold insertRun
  cases found : db.getFlowRun new.flowRunId with
  | none | some row => simp

/-- The tables a request that succeeds leaves behind: those it found, and the new run. -/
theorem Created.createFlowRun_eq {db tenantId env req run}
    (made : Created db tenantId env req run) :
    ∃ after, SameTables db after ∧ createFlowRun db tenantId env req =
      ({ after with flowRuns := after.flowRuns ++ [newRunRow env req run] }, .ok run) := by
  obtain ⟨graph, selected, graphId⟩ := made.graph
  have tables := sameTables_beforeInsert db run.flowId tenantId env req
  have opened := made.opened
  rcases session : openSession (db.cacheActiveVersion run.flowId) tenantId env req with
    ⟨after, error | ok⟩
  · rw [session] at opened
    cases opened
  rw [session] at tables
  dsimp only at tables
  refine ⟨after, tables, ?_⟩
  have new : ({ flowRunId := env.freshFlowRunId, flowId := run.flowId
                flowVersionId := run.flowVersionId
                flowGraphSnapshotId := graph.flowGraphSnapshotId, origin := run.origin } :
      CreatedRun) = run := by
    rw [graphId, ← made.flowRunId]
  have unused : after.getFlowRun run.flowRunId = none := by
    rw [tables.getFlowRun, made.flowRunId, made.fresh]
  have ins : insertRun after env req run =
      ({ after with flowRuns := after.flowRuns ++ [newRunRow env req run] }, .ok run) := by
    simp [insertRun, unused]
  simp [createFlowRun, made.flow, made.active, session, tables.resolveOrigin,
    tables.selectGraph, made.origin, selected, new, ins]

theorem createFlowRun_ok_iff {db tenantId env req run} :
    (createFlowRun db tenantId env req).2 = .ok run ↔ Created db tenantId env req run := by
  constructor
  · intro succeeded
    unfold createFlowRun at succeeded
    cases flow : tenantFlow db tenantId req with
    | error err => simp [flow] at succeeded
    | ok flowId =>
      simp only [flow] at succeeded
      cases active : activeFor db flowId req with
      | error err => simp [active] at succeeded
      | ok flowVersionId =>
        simp only [active] at succeeded
        have tabs := sameTables_beforeInsert db flowId tenantId env req
        rcases opened : openSession (db.cacheActiveVersion flowId) tenantId env req with
          ⟨after, err | ok⟩
        · simp [opened] at succeeded
        rw [opened] at tabs
        dsimp only at tabs
        simp only [opened, tabs.resolveOrigin, tabs.selectGraph] at succeeded
        cases origin : resolveOrigin db req flowVersionId with
        | error err => simp [origin] at succeeded
        | ok found =>
          simp only [origin] at succeeded
          cases graph : selectGraph db env flowId flowVersionId with
          | error err => simp [graph] at succeeded
          | ok selected =>
            simp only [graph] at succeeded
            obtain ⟨unused, rfl⟩ := insertRun_ok_iff.mp succeeded
            exact ⟨flow, active, by rw [opened], origin, ⟨selected, graph, rfl⟩,
              (tabs.getFlowRun _).symm.trans unused, rfl⟩
  · intro made
    obtain ⟨after, -, eq⟩ := made.createFlowRun_eq
    rw [eq]

/-! ## Requests keep the database well formed -/

theorem wellFormed_cacheActiveVersion {db : Database} (wf : db.WellFormed) (flowId : ℕ) :
    (db.cacheActiveVersion flowId).WellFormed := by
  unfold Database.cacheActiveVersion
  cases db.getActiveFlowVersionId flowId with
  | none => exact wf
  | some active => exact { wf with }

theorem wellFormed_addSession {db : Database} (wf : db.WellFormed) {session : SessionRow}
    (fresh : db.getSession session.sessionId = none) :
    ({ db with sessions := db.sessions ++ [session] } : Database).WellFormed := by
  refine { wf with sessionKeys := wf.sessionKeys.append fresh, runSessions := ?_ }
  intro run mem
  obtain ⟨old, inside, eq⟩ := wf.runSessions run mem
  exact ⟨old, List.mem_append_left _ inside, eq⟩

theorem wellFormed_openSession {db : Database} (wf : db.WellFormed) (tenantId env req) :
    (openSession db tenantId env req).1.WellFormed := by
  unfold openSession
  split
  · exact wf
  · split
    · exact wf
    · split
      · rename_i absent
        exact wellFormed_addSession wf absent
      · split <;> exact wf

theorem session_of_openSession {db tenantId env req}
    (opened : (openSession db tenantId env req).2 = .ok ()) :
    ∃ session ∈ (openSession db tenantId env req).1.sessions,
      session.sessionId = req.sessionId := by
  unfold openSession at opened ⊢
  split at opened
  · cases opened
  · rename_i got
    rw [if_neg got]
    split at opened
    · cases opened
    · rename_i traced
      rw [if_neg traced]
      cases found : db.getSession req.sessionId with
      | none => exact ⟨_, List.mem_append_right _ List.mem_cons_self, rfl⟩
      | some session =>
        simp only
        split <;> exact ⟨session, Table.mem_of_byKey found, Table.key_of_byKey found⟩

theorem wellFormed_insertRun {db} (wf : db.WellFormed) (env) {req} (run)
    (session : ∃ session ∈ db.sessions, session.sessionId = req.sessionId) :
    (insertRun db env req run).1.WellFormed := by
  unfold insertRun
  cases found : db.getFlowRun run.flowRunId with
  | some row => exact wf
  | none =>
    refine { wf with flowRunKeys := ?_, runSessions := ?_ }
    · exact wf.flowRunKeys.append found
    · exact List.forall_mem_append.mpr ⟨wf.runSessions, List.forall_mem_singleton.mpr session⟩

theorem wellFormed_createFlowRun {db : Database} (wf : db.WellFormed) (tenantId env req) :
    (createFlowRun db tenantId env req).1.WellFormed := by
  unfold createFlowRun
  cases tenantFlow db tenantId req with
  | error err => exact wf
  | ok flowId =>
    dsimp only
    cases activeFor db flowId req with
    | error err => exact wellFormed_cacheActiveVersion wf flowId
    | ok flowVersionId =>
      dsimp only
      have wfOpened :=
        wellFormed_openSession (wellFormed_cacheActiveVersion wf flowId) tenantId env req
      rcases opened : openSession (db.cacheActiveVersion flowId) tenantId env req with
        ⟨after, err | ok⟩
      · rw [opened] at wfOpened
        exact wfOpened
      have session := session_of_openSession (congrArg Prod.snd opened)
      rw [opened] at wfOpened session
      dsimp only at wfOpened session ⊢
      cases resolveOrigin after req flowVersionId with
      | error err => exact wfOpened
      | ok origin =>
        dsimp only
        cases selectGraph after env flowId flowVersionId with
        | error err => exact wfOpened
        | ok graph => exact wellFormed_insertRun wfOpened env _ session

end AgentOrchestration.Execution
