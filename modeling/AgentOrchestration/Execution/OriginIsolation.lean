import AgentOrchestration.Execution.CreateFlowRun

/-!
# Isolation of the run to continue from

A request of a tenant for a user may name the run it continues from, or a
correlation id to look one up. The lookup only meets runs of the caller's own
session; the named run is not checked at all.
-/

namespace AgentOrchestration.Execution

set_option autoImplicit false

variable (tenantId : ℕ) (userId : String)

/-! ## Whose rows -/

variable (db : Database)

def belongs (run : FlowRunRow) : Bool :=
  match db.getSession run.sessionId with
  | some session => session.tenantId = tenantId ∧ run.userId = userId
  | none => false

def stateBelongs (row : GraphStateRow) : Bool :=
  match db.getFlowRun row.flowRunId with
  | some run => belongs tenantId userId db run
  | none => false

def flowOfTenant (flowId : ℕ) : Bool :=
  match db.getFlow flowId with
  | some flow => flow.tenantId = tenantId
  | none => false

/-- Two databases that agree on the runs and checkpoints of a tenant's user, and on the tenant's
flows, versions, deployments and sessions. -/
structure Agree (db db' : Database) : Prop where
  runs : db.flowRuns.filter (belongs tenantId userId db) =
    db'.flowRuns.filter (belongs tenantId userId db')
  states : db.graphStates.filter (stateBelongs tenantId userId db) =
    db'.graphStates.filter (stateBelongs tenantId userId db')
  flows : db.flows.filter (fun flow => flow.tenantId = tenantId) =
    db'.flows.filter (fun flow => flow.tenantId = tenantId)
  versions : db.versions.filter (fun version => flowOfTenant tenantId db version.flowId) =
    db'.versions.filter (fun version => flowOfTenant tenantId db' version.flowId)
  deployments : db.deployments.filter (fun row => flowOfTenant tenantId db row.flowId) =
    db'.deployments.filter (fun row => flowOfTenant tenantId db' row.flowId)
  sessions : db.sessions.filter (fun session => session.tenantId = tenantId) =
    db'.sessions.filter (fun session => session.tenantId = tenantId)
  cachedVersions : ∀ flowId, flowOfTenant tenantId db flowId →
    db.activeVersionCache.lookup flowId = db'.activeVersionCache.lookup flowId

/-- The request reads nothing but the caller's rows: whatever database agrees with this one, a run
it creates starts at the same node with the same state and memory. -/
def Isolated (db : Store) (env : RequestEnvironment) (req : FlowRunCreate) : Prop :=
  ∀ db' : Store, Agree tenantId req.userId db.1 db'.1 → ∀ run run' : CreatedRun,
    (createFlowRun db.1 tenantId env req).2 = .ok run →
    (createFlowRun db'.1 tenantId env req).2 = .ok run' →
    run.origin.startNodeId = run'.origin.startNodeId ∧
      run.origin.initialState = run'.origin.initialState ∧
      run.origin.initialMemory = run'.origin.initialMemory

/-- The run the request names, if it names one, is the caller's. -/
def OwnOrigin (req : FlowRunCreate) : Prop :=
  ∀ flowRunId ∈ req.originFlowRunId, ∀ run ∈ db.getFlowRun flowRunId,
    belongs tenantId req.userId db run

variable {tenantId userId} {db db' : Store} {env : RequestEnvironment} {req : FlowRunCreate}

/-! ## What the caller's rows determine -/

theorem flowOfTenant_of_tenantFlow {db} {flowId : ℕ}
    (found : tenantFlow db tenantId req = .ok flowId) :
    flowOfTenant tenantId db flowId = true ∧ requestedFlow db req = .ok flowId := by
  unfold tenantFlow at found
  cases requested : requestedFlow db req with
  | error err => simp [requested] at found
  | ok requestedId =>
    simp only [requested] at found
    split at found
    · cases found
    · cases flow : db.getFlow requestedId with
      | none => simp [flow] at found
      | some row =>
        simp only [flow] at found
        split at found
        · cases found
        · rename_i sameTenant
          cases found
          refine ⟨?_, rfl⟩
          simpa [flowOfTenant, flow] using sameTenant

theorem Agree.flow (agree : Agree tenantId userId db.1 db'.1) {flowId flowId' : ℕ}
    (found : tenantFlow db.1 tenantId req = .ok flowId)
    (found' : tenantFlow db'.1 tenantId req = .ok flowId') : flowId = flowId' := by
  obtain ⟨ofTenant, requested⟩ := flowOfTenant_of_tenantFlow found
  obtain ⟨_, requested'⟩ := flowOfTenant_of_tenantFlow found'
  unfold requestedFlow at requested requested'
  cases named : req.flowVersionId with
  | none =>
    simp only [named] at requested requested'
    cases direct : req.flowId with
    | none => simp [direct] at requested
    | some id =>
      simp only [direct, Except.ok.injEq] at requested requested'
      exact requested.symm.trans requested'
  | some flowVersionId =>
    simp only [named] at requested requested'
    cases version : db.1.getFlowVersion flowVersionId with
    | none => simp [version] at requested
    | some row =>
      simp only [version] at requested
      split at requested
      · cases requested
      · cases requested
        have version' := (Table.byKey_agree agree.versions db'.2.versionKeys version ofTenant).1
        simp only [show db'.1.getFlowVersion flowVersionId = some row from version'] at requested'
        split at requested'
        · cases requested'
        · cases requested'
          rfl

theorem Agree.activeFor (agree : Agree tenantId userId db.1 db'.1) (req) {flowId}
    (ofTenant : flowOfTenant tenantId db.1 flowId = true)
    (ofTenant' : flowOfTenant tenantId db'.1 flowId = true) :
    activeFor db.1 flowId req = activeFor db'.1 flowId req := by
  have active : db.1.activeVersion flowId = db'.1.activeVersion flowId := by
    unfold Database.activeVersion
    rw [Table.find_agree agree.versions]
    · intro row _ hit
      have sameFlow : row.flowId = flowId := (of_decide_eq_true hit).1
      rw [sameFlow]
      exact ofTenant
    · intro row _ hit
      have sameFlow : row.flowId = flowId := (of_decide_eq_true hit).1
      rw [sameFlow]
      exact ofTenant'
  unfold Execution.activeFor Database.getActiveFlowVersionId
  rw [agree.cachedVersions flowId ofTenant, active]

theorem Agree.continueFrom (agree : Agree tenantId userId db.1 db'.1) {flowRunId run}
    (found : db.1.getFlowRun flowRunId = some run) (owned : belongs tenantId userId db.1 run) :
    continueFrom db.1 flowRunId = continueFrom db'.1 flowRunId := by
  obtain ⟨found', owned'⟩ := Table.byKey_agree agree.runs db'.2.flowRunKeys found owned
  have state : db.1.getGraphState flowRunId = db'.1.getGraphState flowRunId := by
    refine Table.find_agree agree.states ?_ ?_
    · intro row _ hit
      simpa [stateBelongs, of_decide_eq_true hit, found] using owned
    · intro row _ hit
      simpa [stateBelongs, of_decide_eq_true hit,
        show db'.1.getFlowRun flowRunId = some run from found'] using owned'
  unfold Execution.continueFrom
  rw [found, state, show db'.1.getFlowRun flowRunId = some run from found']

theorem mem_of_latest : ∀ {runs run}, latest runs = some run → run ∈ runs := by
  intro runs
  induction runs with
  | nil => exact fun found => nomatch found
  | cons first rest ih =>
    intro run found
    rw [latest] at found
    cases best : latest rest with
    | none =>
      simp only [best, Option.some.injEq] at found
      exact found ▸ List.mem_cons_self
    | some other =>
      simp only [best] at found
      split at found
      · cases found
        exact List.mem_cons_of_mem _ (ih best)
      · cases found
        exact List.mem_cons_self

variable (store : Store) {run : FlowRunRow}

theorem belongs_of_lookup (checked : SessionChecked store.1 tenantId req)
    (member : run ∈ store.1.flowRuns) (sameSession : run.sessionId = req.sessionId)
    (sameUser : run.userId = req.userId) : belongs tenantId req.userId store.1 run := by
  obtain ⟨session, inside, sessionId⟩ := store.2.runSessions run member
  have found : store.1.getSession req.sessionId = some session :=
    (Table.byKey_eq_some_iff store.2.sessionKeys).mpr ⟨inside, sessionId.trans sameSession⟩
  have tenant := (checked.owned session found).1
  simp [belongs, sameSession, found, tenant, sameUser]

/-- The lookup by correlation id finds the same run in both databases, one of the caller. -/
theorem Agree.latestWaiting (agree : Agree tenantId req.userId db.1 db'.1)
    (checked : SessionChecked db.1 tenantId req) (checked' : SessionChecked db'.1 tenantId req)
    (correlationId flowVersionId : ℕ) :
    db.1.latestWaitingFlowRunId req.sessionId correlationId flowVersionId req.userId =
      db'.1.latestWaitingFlowRunId req.sessionId correlationId flowVersionId req.userId := by
  unfold Database.latestWaitingFlowRunId
  rw [Table.filter_agree agree.runs]
  · intro run member hit
    have fields := of_decide_eq_true hit
    exact belongs_of_lookup db checked member fields.1 fields.2.2.2.1
  · intro run member hit
    have fields := of_decide_eq_true hit
    exact belongs_of_lookup db' checked' member fields.1 fields.2.2.2.1

theorem owned_of_latestWaiting (checked : SessionChecked db.1 tenantId req)
    {correlationId flowVersionId flowRunId : ℕ}
    (found : db.1.latestWaitingFlowRunId req.sessionId correlationId flowVersionId req.userId =
      some flowRunId) :
    ∃ run, db.1.getFlowRun flowRunId = some run ∧ belongs tenantId req.userId db.1 run := by
  obtain ⟨run, isLatest, rfl⟩ := Option.map_eq_some_iff.mp found
  obtain ⟨member, hit⟩ := List.mem_filter.mp (mem_of_latest isLatest)
  have fields := of_decide_eq_true hit
  exact ⟨run, (Table.byKey_eq_some_iff db.2.flowRunKeys).mpr ⟨member, rfl⟩,
    belongs_of_lookup db checked member fields.1 fields.2.2.2.1⟩

/-- Both databases resolve the same origin, when the run the request names is the caller's. -/
theorem Agree.resolveOrigin (agree : Agree tenantId req.userId db.1 db'.1)
    (checked : SessionChecked db.1 tenantId req) (checked' : SessionChecked db'.1 tenantId req)
    (own : OwnOrigin tenantId db.1 req) (flowVersionId) {origin}
    (got : resolveOrigin db.1 req flowVersionId = .ok origin) :
    resolveOrigin db'.1 req flowVersionId = .ok origin := by
  unfold Execution.resolveOrigin originOf at got ⊢
  cases named : req.originFlowRunId with
  | some flowRunId =>
    simp only [named] at got ⊢
    cases found : db.1.getFlowRun flowRunId with
    | none => simp [Execution.continueFrom, found] at got
    | some run =>
      rw [← agree.continueFrom found (own flowRunId named run found)]
      exact got
  | none =>
    simp only [named] at got ⊢
    cases correlated : req.correlationId with
    | none =>
      simp only [correlated] at got ⊢
      exact got
    | some correlationId =>
      simp only [correlated] at got ⊢
      rw [← agree.latestWaiting checked checked' correlationId flowVersionId]
      cases lookup :
        db.1.latestWaitingFlowRunId req.sessionId correlationId flowVersionId req.userId with
      | none =>
        simp only [lookup] at got ⊢
        exact got
      | some flowRunId =>
        simp only [lookup] at got ⊢
        obtain ⟨run, found, owned⟩ := owned_of_latestWaiting checked lookup
        rw [← agree.continueFrom found owned]
        exact got

theorem sessionChecked_of_created {db run} (made : Created db tenantId env req run) :
    SessionChecked db tenantId req := by
  obtain ⟨owned⟩ := sessionChecked_of_openSession made.opened
  refine ⟨fun session found => owned session ?_⟩
  unfold Database.getSession
  rw [sessions_cacheActiveVersion]
  exact found

/-- **Requests that continue from a run of their own are isolated.** -/
theorem isolated_of_ownOrigin (own : OwnOrigin tenantId db.1 req) :
    Isolated tenantId db env req := by
  intro db' agree run run' succeeded succeeded'
  have created := createFlowRun_ok_iff.mp succeeded
  have created' := createFlowRun_ok_iff.mp succeeded'
  have sameFlow : run.flowId = run'.flowId := agree.flow created.flow created'.flow
  have sameVersion : run.flowVersionId = run'.flowVersionId := by
    have actives := agree.activeFor req (flowOfTenant_of_tenantFlow created.flow).1
      (sameFlow ▸ (flowOfTenant_of_tenantFlow created'.flow).1)
    have active' := created'.active
    rw [created.active, sameFlow, active'] at actives
    exact Except.ok.inj actives
  have resolved := agree.resolveOrigin (sessionChecked_of_created created)
    (sessionChecked_of_created created') own run.flowVersionId created.origin
  have sameOrigin : run.origin = run'.origin := by
    have resolved' := created'.origin
    rw [← sameVersion, resolved] at resolved'
    exact Except.ok.inj resolved'
  rw [sameOrigin]
  exact ⟨rfl, rfl, rfl⟩

/-! ## A request that names a foreign run -/

def Database.withCheckpoint (db : Database) (flowRunId : ℕ) (snapshot : GraphStateSnapshot) :
    Database :=
  { db with
    flowRuns := db.flowRuns.map fun run =>
      if run.flowRunId = flowRunId then { run with status := .waitingInput } else run
    graphStates := db.graphStates.filter (fun row => row.flowRunId ≠ flowRunId) ++
      [{ flowRunId, state := some snapshot }] }

theorem getFlowRun_withCheckpoint (db : Database) (flowRunId other snap) :
    (db.withCheckpoint flowRunId snap).getFlowRun other =
      (db.getFlowRun other).map fun run =>
        if run.flowRunId = flowRunId then { run with status := .waitingInput } else run := by
  unfold Database.getFlowRun Database.withCheckpoint Table.byKey
  rw [List.find?_map]
  congr 1
  refine List.find?_congr fun run _ => ?_
  by_cases eq : run.flowRunId = flowRunId <;> simp [eq]

theorem getGraphState_withCheckpoint (db : Database) (flowRunId snap) :
    (db.withCheckpoint flowRunId snap).getGraphState flowRunId = some { flowRunId,
                                                                        state := some snap } := by
  unfold Database.getGraphState Database.withCheckpoint Table.byKey
  rw [List.find?_append, List.find?_eq_none.mpr]
  · simp
  · intro row mem
    simpa using (List.mem_filter.mp mem).2

theorem wellFormed_withCheckpoint {db : Database} (wf : db.WellFormed) (flowRunId snap) :
    (db.withCheckpoint flowRunId snap).WellFormed := by
  refine { wf with flowRunKeys := ?_, graphStateKeys := ?_, runSessions := ?_ }
  · refine Table.UniqueKeys.map wf.flowRunKeys fun run => ?_
    split <;> rfl
  · refine Table.UniqueKeys.append ?_ ?_
    · exact wf.graphStateKeys.sublist (List.filter_sublist.map _)
    · refine Table.byKey_eq_none_iff.mpr fun row mem => ?_
      simpa using (List.mem_filter.mp mem).2
  · intro run mem
    obtain ⟨old, inside, rfl⟩ := List.mem_map.mp mem
    obtain ⟨session, present, eq⟩ := wf.runSessions old inside
    refine ⟨session, present, eq.trans ?_⟩
    split <;> rfl

theorem stateBelongs_withCheckpoint (db : Database) (flowRunId snap) :
    stateBelongs tenantId userId (db.withCheckpoint flowRunId snap) =
      stateBelongs tenantId userId db := by
  funext row
  unfold stateBelongs
  rw [getFlowRun_withCheckpoint]
  cases db.getFlowRun row.flowRunId with
  | none => rfl
  | some run =>
    simp only [Option.map_some]
    split <;> rfl

variable {flowRunId : ℕ}

/-- A checkpoint of a run that is not the caller's is not among the caller's rows. -/
theorem agree_withCheckpoint (found : store.1.getFlowRun flowRunId = some run)
    (foreign : belongs tenantId userId store.1 run = false) (snap) :
    Agree tenantId userId store.1 (store.1.withCheckpoint flowRunId snap) := by
  refine ⟨(Table.filter_map_of_foreign fun row mem => ?_).symm, ?_, rfl, rfl, rfl, rfl,
    fun _ _ => rfl⟩
  · by_cases same : row.flowRunId = flowRunId
    · have isRun : row = run := store.2.flowRunKeys.eq mem (Table.mem_of_byKey found)
        (same.trans (Table.key_of_byKey found).symm)
      subst isRun
      refine .inr ⟨foreign, ?_⟩
      rw [if_pos same]
      exact foreign
    · exact .inl (if_neg same)
  · have notOwned : ∀ row : GraphStateRow, row.flowRunId = flowRunId →
        stateBelongs tenantId userId store.1 row = false := by
      intro row same
      simpa [stateBelongs, same, found] using foreign
    rw [stateBelongs_withCheckpoint, Database.withCheckpoint, List.filter_append,
      List.filter_filter]
    have newDropped : [({ flowRunId, state := some snap } : GraphStateRow)].filter
        (stateBelongs tenantId userId store.1) = [] := by
      simp [notOwned { flowRunId, state := some snap } rfl]
    rw [newDropped, List.append_nil]
    refine List.filter_congr fun row _ => ?_
    by_cases same : row.flowRunId = flowRunId
    · simp [notOwned row same]
    · simp [same]

variable (state : Option Fields)

def otherSnapshot : GraphStateSnapshot :=
  { currentNodeId := none, resumeToNodeId := none
    state := if state = some [] then [("x", .null)] else []
    memory := [], metadata := [] }

theorem otherSnapshot_ne : some (otherSnapshot state).state ≠ state := by
  unfold otherSnapshot
  by_cases empty : state = some []
  · simp [empty]
  · intro eq
    simp only [empty, if_false] at eq
    exact empty eq.symm

theorem created_withCheckpoint {db run}
    (made : Created db tenantId env req run) (named : req.originFlowRunId = some flowRunId)
    (snap : GraphStateSnapshot) :
    ∃ run', Created (db.withCheckpoint flowRunId snap) tenantId env req run' ∧
      run'.origin.initialState = some snap.state := by
  obtain ⟨row, found⟩ : ∃ row, db.getFlowRun flowRunId = some row := by
    have origin := made.origin
    unfold resolveOrigin originOf at origin
    simp only [named] at origin
    cases found : db.getFlowRun flowRunId with
    | none => simp [continueFrom, found] at origin
    | some row => exact ⟨row, rfl⟩
  have rowId : row.flowRunId = flowRunId := Table.key_of_byKey found
  let origin : Origin :=
    { originFlowRunId := some flowRunId, startNodeId := resumeNode snap
      initialState := some snap.state, initialMemory := some snap.memory }
  have resolved : resolveOrigin (db.withCheckpoint flowRunId snap) req run.flowVersionId =
      .ok origin := by
    unfold resolveOrigin originOf
    simp only [named, continueFrom, getFlowRun_withCheckpoint, found, Option.map_some, rowId,
      if_true, FlowRunRow.isWaiting, getGraphState_withCheckpoint]
    rfl
  refine ⟨{ run with origin := origin }, ?_, rfl⟩
  refine ⟨made.flow, made.active, ?_, resolved, made.graph, ?_, made.flowRunId⟩
  · rw [← made.opened]
    apply openSession_congr
    rw [sessions_cacheActiveVersion, sessions_cacheActiveVersion]
    rfl
  · rw [getFlowRun_withCheckpoint, made.fresh]
    rfl

/-- **Origin isolation holds exactly for requests that name no foreign run.** -/
theorem isolated_iff_ownOrigin (tenantId : ℕ) (db : Store) (env : RequestEnvironment)
    (req : FlowRunCreate) (run : CreatedRun)
    (succeeded : (createFlowRun db.1 tenantId env req).2 = .ok run) :
    Isolated tenantId db env req ↔ OwnOrigin tenantId db.1 req := by
  refine ⟨fun isolated flowRunId named row found => ?_, isolated_of_ownOrigin⟩
  by_contra notOwned
  have foreign : belongs tenantId req.userId db.1 row = false := by simpa using notOwned
  have created := createFlowRun_ok_iff.mp succeeded
  obtain ⟨run', created', state⟩ := created_withCheckpoint created named
    (otherSnapshot run.origin.initialState)
  have same := isolated ⟨db.1.withCheckpoint flowRunId (otherSnapshot run.origin.initialState),
      wellFormed_withCheckpoint db.2 flowRunId _⟩
    (agree_withCheckpoint db found foreign _) run run' succeeded
    (createFlowRun_ok_iff.mpr created')
  exact otherSnapshot_ne run.origin.initialState (state.symm.trans same.2.1.symm)

/-! ## Two tenants -/

/-- Tenant 1 with user `u` and tenant 2 with user `v`: each has a flow, a session and a waiting
run. -/
def twoTenants : Database :=
  { flows := [⟨10, 1⟩, ⟨50, 2⟩]
    versions := [⟨11, 10, .published, true⟩, ⟨51, 50, .published, true⟩]
    graphSnapshots := [⟨12, 11⟩, ⟨52, 51⟩]
    flowSnapshots := [⟨13, 11, some 12⟩, ⟨53, 51, some 52⟩]
    deployments := [⟨14, 10, 11, 13, "default", true⟩, ⟨54, 50, 51, 53, "default", true⟩]
    sessions := [⟨20, 1, "u"⟩, ⟨21, 2, "v"⟩]
    flowRuns :=
      [⟨30, 20, 11, "u", 5, none, some 12, .waitingInput, .waiting, 0⟩,
       ⟨31, 21, 51, "v", 6, none, some 52, .waitingInput, .waiting, 1⟩]
    graphStates :=
      [⟨30, some { currentNodeId := some "a", resumeToNodeId := none
                   state := [("topic", .str "mine")], memory := [], metadata := [] }⟩,
       ⟨31, some { currentNodeId := some "b", resumeToNodeId := none
                   state := [("topic", .str "theirs")], memory := [], metadata := [] }⟩]
    activeVersionCache := [] }

theorem wellFormed_twoTenants : twoTenants.WellFormed := by
  constructor <;> decide

def plainEnvironment : RequestEnvironment :=
  { acquired := true, validTraceId := true, normalizes := true, legacyGraphContract := false
    freshCorrelationId := 7, freshFlowRunId := 40, now := 2 }

/-- A request of user `u` that names the run it continues from. -/
def requestFrom (flowRunId : ℕ) : FlowRunCreate :=
  { flowId := some 10, flowVersionId := none, sessionId := 20, userId := "u"
    correlationId := none, originFlowRunId := some flowRunId }

def createdFrom (flowRunId : ℕ) (node topic : String) : CreatedRun :=
  { flowRunId := 40, flowId := 10, flowVersionId := 11, flowGraphSnapshotId := 12
    origin :=
      { originFlowRunId := some flowRunId, startNodeId := some node
        initialState := some [("topic", .str topic)], initialMemory := some [] } }

theorem isolated_from_own_run :
    Isolated 1 ⟨twoTenants, wellFormed_twoTenants⟩ plainEnvironment (requestFrom 30) :=
  (isolated_iff_ownOrigin 1 ⟨twoTenants, wellFormed_twoTenants⟩ plainEnvironment (requestFrom 30)
    (createdFrom 30 "a" "mine") rfl).mpr
    (by rintro flowRunId ⟨⟩ run ⟨⟩; decide)

/-- User `u` of tenant 1 names the run of user `v` of tenant 2, and the new run starts from its
checkpoint: the request is not isolated. -/
theorem foreign_checkpoint_adopted :
    (createFlowRun twoTenants 1 plainEnvironment (requestFrom 31)).2 =
        .ok (createdFrom 31 "b" "theirs") ∧
      ¬ Isolated 1 ⟨twoTenants, wellFormed_twoTenants⟩ plainEnvironment (requestFrom 31) := by
  refine ⟨rfl, fun isolated => ?_⟩
  have same := isolated ⟨twoTenants.withCheckpoint 31 (otherSnapshot none),
      wellFormed_withCheckpoint wellFormed_twoTenants 31 _⟩
    (agree_withCheckpoint ⟨twoTenants, wellFormed_twoTenants⟩ rfl (by decide) _)
    (createdFrom 31 "b" "theirs") _ rfl rfl
  exact absurd same.2.1 (by decide)

end AgentOrchestration.Execution
