import AgentOrchestration.Execution.CreateFlowRun

/-!
# Versions, deployments and the graph a run executes

The operations of the flow authoring service that move a flow's pointers: the
active version, the flow snapshot of a version, and the active deployment.
`create_flow_run` takes the version from the first and the graph from the last.
-/

namespace AgentOrchestration.Flows

set_option autoImplicit false

open Execution
open Table (mem_of_byKey key_of_byKey)

/-! ## Repository writes -/

variable (db : Database)

def upsertActiveFlowVersion (flowId flowVersionId : ℕ) : Database :=
  { db with
    versions := db.versions.map fun row =>
      if row.flowId = flowId then { row with isActive := row.flowVersionId = flowVersionId }
      else row }

/-- `create_flow_graph_snapshot`; the version column is unique. -/
def createFlowGraphSnapshot (flowVersionId freshId : ℕ) : Database :=
  if db.getFlowGraphSnapshot freshId = none ∧
      db.getFlowGraphSnapshotByFlowVersion flowVersionId = none then
    { db with graphSnapshots := db.graphSnapshots ++ [⟨freshId, flowVersionId⟩] }
  else db

/-- `upsert_flow_snapshot`, for the graph of a version. -/
def upsertFlowSnapshot (graph : GraphSnapshotRow) (freshId : ℕ) : Database :=
  match db.getFlowSnapshotByFlowVersion graph.flowVersionId with
  | some existing =>
    { db with
      flowSnapshots := db.flowSnapshots.map fun row =>
        if row.flowSnapshotId = existing.flowSnapshotId then
          { row with flowGraphSnapshotId := some graph.flowGraphSnapshotId }
        else row }
  | none =>
    if db.getFlowSnapshotById freshId = none then
      { db with
        flowSnapshots := db.flowSnapshots ++
          [⟨freshId, graph.flowVersionId, some graph.flowGraphSnapshotId⟩] }
    else db

/-- `upsert_flow_deployment`: the active deployment of the slot is replaced. -/
def upsertFlowDeployment (flowId : ℕ) (snapshot : FlowSnapshotRow) (environment : String)
    (freshId : ℕ) : Database :=
  { db with
    deployments :=
      (db.deployments.map fun row =>
        if row.flowId = flowId ∧ row.environment = environment ∧ row.isActive = true then
          { row with isActive := false }
        else row) ++
      [⟨freshId, flowId, snapshot.flowVersionId, snapshot.flowSnapshotId, environment, true⟩] }

/-! ## Operations -/

/-- What an operation depends on besides the tables: whether its request is well justified, whether
the posted graph is accepted, whether the snapshot can be materialized, and fresh identifiers. -/
structure OperationEnvironment where
  justified : Bool
  accepted : Bool
  materializes : Bool
  freshGraphSnapshotId : ℕ
  freshFlowSnapshotId : ℕ
  freshDeploymentId : ℕ

/-- `_materialize_snapshot_for_flow_version`. -/
def materializeSnapshot (env : OperationEnvironment) (flowId flowVersionId : ℕ)
    (attachDefaultDeployment : Bool) : Database :=
  if env.materializes = false then db
  else
    match db.getFlowGraphSnapshotByFlowVersion flowVersionId with
    | none => db
    | some graph =>
      let db := upsertFlowSnapshot db graph env.freshFlowSnapshotId
      match db.getFlowSnapshotByFlowVersion flowVersionId with
      | none => db
      | some snapshot =>
        if attachDefaultDeployment then
          upsertFlowDeployment db flowId snapshot "default" env.freshDeploymentId
        else db

/-- The version an operation is about: one of the tenant's flow, with the status it requires. -/
def versionFor (tenantId flowId flowVersionId : ℕ) (status : VersionStatus) :
    Option FlowVersionRow :=
  match db.getFlow flowId with
  | none => none
  | some flow =>
    if flow.tenantId ≠ tenantId then none
    else
      match db.getFlowVersion flowVersionId with
      | none => none
      | some version =>
        if version.flowId = flowId ∧ version.status = status then some version else none

/-- The operations of the authoring service on these tables, with the requests that read them. -/
inductive Operation where
  | compileFlowGraph (tenantId flowId flowVersionId : ℕ) (env : OperationEnvironment)
  | publishFlowVersion (tenantId flowId flowVersionId : ℕ) (env : OperationEnvironment)
  | activateFlowVersion (tenantId flowId flowVersionId : ℕ) (env : OperationEnvironment)
  | rollbackFlowVersion (tenantId flowId flowVersionId : ℕ) (env : OperationEnvironment)
  | composeDeployment (tenantId flowId flowVersionId : ℕ) (environment : String)
      (env : OperationEnvironment)
  | createFlowRun (tenantId : ℕ) (env : RequestEnvironment) (req : FlowRunCreate)
  /-- The cached active version of a flow runs out. -/
  | expireActiveVersion (flowId : ℕ)

def moveActiveVersion (tenantId flowId flowVersionId : ℕ) (env : OperationEnvironment) :
    Option Database :=
  match versionFor db tenantId flowId flowVersionId .published with
  | none => none
  | some _ =>
    if env.justified = false ∨ db.getFlowGraphSnapshotByFlowVersion flowVersionId = none then
      none
    else some (upsertActiveFlowVersion db flowId flowVersionId)

/-- The tables after an operation; a refused one changes nothing. -/
def apply : Operation → Database
  | .compileFlowGraph tenantId flowId flowVersionId env =>
    match versionFor db tenantId flowId flowVersionId .published with
    | none => db
    | some _ =>
      if env.accepted then createFlowGraphSnapshot db flowVersionId env.freshGraphSnapshotId
      else db
  | .publishFlowVersion tenantId flowId flowVersionId env =>
    match versionFor db tenantId flowId flowVersionId .validated with
    | none => db
    | some _ =>
      if env.justified then
        materializeSnapshot
          { db with
            versions := db.versions.map fun row =>
              if row.flowVersionId = flowVersionId then { row with status := .published }
              else row }
          env flowId flowVersionId false
      else db
  | .activateFlowVersion tenantId flowId flowVersionId env =>
    match moveActiveVersion db tenantId flowId flowVersionId env with
    | none => db
    | some db => materializeSnapshot db env flowId flowVersionId true
  | .rollbackFlowVersion tenantId flowId flowVersionId env =>
    (moveActiveVersion db tenantId flowId flowVersionId env).getD db
  | .composeDeployment tenantId flowId flowVersionId environment env =>
    match versionFor db tenantId flowId flowVersionId .published with
    | none => db
    | some _ =>
      if env.accepted = false then db
      else
        let db := createFlowGraphSnapshot db flowVersionId env.freshGraphSnapshotId
        match db.getFlowGraphSnapshotByFlowVersion flowVersionId with
        | none => db
        | some graph =>
          let db := upsertFlowSnapshot db graph env.freshFlowSnapshotId
          match db.getFlowSnapshotByFlowVersion flowVersionId with
          | none => db
          | some snapshot =>
            upsertFlowDeployment db flowId snapshot environment env.freshDeploymentId
  | .createFlowRun tenantId env req => (Execution.createFlowRun db tenantId env req).1
  | .expireActiveVersion flowId =>
    { db with activeVersionCache := db.activeVersionCache.filter fun entry => entry.1 ≠ flowId }

def history (operations : List Operation) : Database := operations.foldl apply db

/-! ## Operations keep the database well formed -/

variable {db : Database}

theorem wellFormed_mapVersions (wf : db.WellFormed) {update}
    (kept : ∀ row, (update row).flowVersionId = row.flowVersionId) :
    ({ db with versions := db.versions.map update } : Database).WellFormed :=
  { wf with versionKeys := wf.versionKeys.map kept }

theorem wellFormed_upsertActiveFlowVersion (wf : db.WellFormed) (flowId flowVersionId : ℕ) :
    (upsertActiveFlowVersion db flowId flowVersionId).WellFormed := by
  refine wellFormed_mapVersions wf fun row => ?_
  split <;> rfl

theorem wellFormed_createFlowGraphSnapshot (wf : db.WellFormed) (flowVersionId freshId : ℕ) :
    (createFlowGraphSnapshot db flowVersionId freshId).WellFormed := by
  unfold createFlowGraphSnapshot
  split
  · rename_i fresh
    refine { wf with graphSnapshotKeys := wf.graphSnapshotKeys.append fresh.1
                     snapshotGraphs := ?_ }
    intro row mem
    obtain ⟨graph, inside, named⟩ := wf.snapshotGraphs row mem
    exact ⟨graph, List.mem_append_left _ inside, named⟩
  · exact wf

theorem wellFormed_upsertFlowSnapshot (wf : db.WellFormed) {graph}
    (compiled : graph ∈ db.graphSnapshots) (freshId) :
    (upsertFlowSnapshot db graph freshId).WellFormed := by
  unfold upsertFlowSnapshot
  cases found : db.getFlowSnapshotByFlowVersion graph.flowVersionId with
  | some existing =>
    refine { wf with flowSnapshotKeys := ?_, flowSnapshotVersions := ?_, snapshotGraphs := ?_
                     deploymentSnapshots := ?_ }
    · refine wf.flowSnapshotKeys.map fun row => ?_
      split <;> rfl
    · refine wf.flowSnapshotVersions.map fun row => ?_
      split <;> rfl
    · intro row mem
      obtain ⟨old, inside, rfl⟩ := List.mem_map.mp mem
      by_cases eq : old.flowSnapshotId = existing.flowSnapshotId
      · have isExisting := wf.flowSnapshotKeys.eq inside (mem_of_byKey found) eq
        rw [if_pos eq]
        refine ⟨graph, compiled, rfl, ?_⟩
        rw [isExisting]
        exact (key_of_byKey found).symm
      · rw [if_neg eq]
        exact wf.snapshotGraphs old inside
    · intro row mem
      obtain ⟨snap, inside, sameId, sameVersion⟩ := wf.deploymentSnapshots row mem
      refine ⟨_, List.mem_map_of_mem inside, ?_, ?_⟩
      · rw [← sameId]
        split <;> rfl
      · rw [← sameVersion]
        split <;> rfl
  | none =>
    simp only
    split
    · rename_i fresh
      refine { wf with flowSnapshotKeys := wf.flowSnapshotKeys.append fresh
                       flowSnapshotVersions := wf.flowSnapshotVersions.append found
                       snapshotGraphs := ?_, deploymentSnapshots := ?_ }
      · exact List.forall_mem_append.mpr
          ⟨wf.snapshotGraphs, List.forall_mem_singleton.mpr ⟨graph, compiled, rfl, rfl⟩⟩
      · intro row mem
        obtain ⟨snap, inside, named⟩ := wf.deploymentSnapshots row mem
        exact ⟨snap, List.mem_append_left _ inside, named⟩
    · exact wf

theorem wellFormed_upsertFlowDeployment (wf : db.WellFormed) (flowId) {snap}
    (stored : snap ∈ db.flowSnapshots) (environment freshId) :
    (upsertFlowDeployment db flowId snap environment freshId).WellFormed := by
  refine { wf with deploymentSnapshots := ?_ }
  intro row mem
  rcases List.mem_append.mp mem with old | new
  · obtain ⟨before, inside, rfl⟩ := List.mem_map.mp old
    obtain ⟨named, present, sameId, sameVersion⟩ := wf.deploymentSnapshots before inside
    refine ⟨named, present, ?_, ?_⟩
    · rw [sameId]
      split <;> rfl
    · rw [sameVersion]
      split <;> rfl
  · rw [List.mem_singleton.mp new]
    exact ⟨snap, stored, rfl, rfl⟩

theorem wellFormed_materializeSnapshot (wf : db.WellFormed) (env flowId flowVersionId attach) :
    (materializeSnapshot db env flowId flowVersionId attach).WellFormed := by
  unfold materializeSnapshot
  split
  · exact wf
  · cases compiled : db.getFlowGraphSnapshotByFlowVersion flowVersionId with
    | none => exact wf
    | some graph =>
      have wfSnapshot :=
        wellFormed_upsertFlowSnapshot wf (mem_of_byKey compiled) env.freshFlowSnapshotId
      simp only
      split
      · exact wfSnapshot
      · rename_i stored
        split
        · exact wellFormed_upsertFlowDeployment wfSnapshot flowId (mem_of_byKey stored) _ _
        · exact wfSnapshot

theorem wellFormed_moveActiveVersion {db next : Database} (wf : db.WellFormed)
    {tenantId flowId flowVersionId env}
    (moved : moveActiveVersion db tenantId flowId flowVersionId env = some next) :
    next.WellFormed := by
  unfold moveActiveVersion at moved
  split at moved
  · cases moved
  · split at moved
    · cases moved
    · cases moved
      exact wellFormed_upsertActiveFlowVersion wf flowId flowVersionId

/-- **Every operation keeps the database well formed.** -/
theorem wellFormed_apply (wf : db.WellFormed) (op : Operation) : (apply db op).WellFormed := by
  cases op with
  | compileFlowGraph tenantId flowId flowVersionId env =>
    simp only [apply]
    split
    · exact wf
    · split
      · exact wellFormed_createFlowGraphSnapshot wf _ _
      · exact wf
  | publishFlowVersion tenantId flowId flowVersionId env =>
    simp only [apply]
    split
    · exact wf
    · split
      · refine wellFormed_materializeSnapshot (wellFormed_mapVersions wf fun row => ?_) env
          flowId flowVersionId false
        split <;> rfl
      · exact wf
  | activateFlowVersion tenantId flowId flowVersionId env =>
    simp only [apply]
    split
    · exact wf
    · rename_i moved
      exact wellFormed_materializeSnapshot (wellFormed_moveActiveVersion wf moved) env flowId
        flowVersionId true
  | rollbackFlowVersion tenantId flowId flowVersionId env =>
    simp only [apply]
    cases moved : moveActiveVersion db tenantId flowId flowVersionId env with
    | none => exact wf
    | some next => exact wellFormed_moveActiveVersion wf moved
  | composeDeployment tenantId flowId flowVersionId environment env =>
    simp only [apply]
    split
    · exact wf
    · split
      · exact wf
      · have wfGraph := wellFormed_createFlowGraphSnapshot wf flowVersionId
          env.freshGraphSnapshotId
        split
        · exact wfGraph
        · rename_i compiled
          have wfSnapshot := wellFormed_upsertFlowSnapshot wfGraph (mem_of_byKey compiled)
            env.freshFlowSnapshotId
          split
          · exact wfSnapshot
          · rename_i stored
            exact wellFormed_upsertFlowDeployment wfSnapshot flowId (mem_of_byKey stored) _ _
  | createFlowRun tenantId env req => exact wellFormed_createFlowRun wf tenantId env req
  | expireActiveVersion flowId => exact { wf with }

theorem wellFormed_history (wf : db.WellFormed) (operations : List Operation) :
    (history db operations).WellFormed := by
  induction operations generalizing db with
  | nil => exact wf
  | cons op rest ih => exact ih (wellFormed_apply wf op)

/-- **Along every history each deployment leads to a graph that was compiled for its own
version.** -/
theorem deployment_leads_to_graph (db : { db : Database // db.WellFormed })
    (operations : List Operation) :
    ∀ deployment ∈ (history db.1 operations).deployments,
      ∃ snapshot ∈ (history db.1 operations).flowSnapshots,
      ∃ graph ∈ (history db.1 operations).graphSnapshots,
        snapshot.flowSnapshotId = deployment.flowSnapshotId ∧
        snapshot.flowGraphSnapshotId = some graph.flowGraphSnapshotId ∧
        graph.flowVersionId = deployment.flowVersionId := by
  have wf := wellFormed_history db.2 operations
  intro deployment deployed
  obtain ⟨snapshot, there, same, version⟩ := wf.deploymentSnapshots deployment deployed
  obtain ⟨graph, compiled, names, own⟩ := wf.snapshotGraphs snapshot there
  exact ⟨snapshot, there, graph, compiled, same, names, own.trans version⟩

/-! ## The graph of a new run -/

/-- The version whose graph a run of a flow executes: that of the active deployment, if any. -/
def deployedVersion (db : Database) (flowId flowVersionId : ℕ) : ℕ :=
  match db.getActiveFlowDeployment flowId "default" with
  | some deployment => deployment.flowVersionId
  | none => flowVersionId

variable {flowId flowVersionId : ℕ}

/-- The snapshot of an active deployment is there, and it is of the deployed version. -/
theorem selectFlowSnapshot_deployed (wf : db.WellFormed) {deployment}
    (deployed : db.getActiveFlowDeployment flowId "default" = some deployment) :
    ∃ named ∈ db.flowSnapshots, selectFlowSnapshot db flowId flowVersionId = some named ∧
      named.flowVersionId = deployment.flowVersionId := by
  obtain ⟨named, stored, sameId, sameVersion⟩ :=
    wf.deploymentSnapshots deployment (List.mem_of_find?_eq_some deployed)
  have found : db.getFlowSnapshotById deployment.flowSnapshotId = some named :=
    (Table.byKey_eq_some_iff wf.flowSnapshotKeys).mpr ⟨stored, sameId⟩
  refine ⟨named, stored, ?_, sameVersion⟩
  rw [selectFlowSnapshot, deployed, Option.bind_some, found]

theorem version_of_selectFlowSnapshot (wf : db.WellFormed) {snap : FlowSnapshotRow}
    (selected : selectFlowSnapshot db flowId flowVersionId = some snap) :
    snap ∈ db.flowSnapshots ∧ snap.flowVersionId = deployedVersion db flowId flowVersionId := by
  unfold deployedVersion
  cases deployed : db.getActiveFlowDeployment flowId "default" with
  | none =>
    rw [selectFlowSnapshot, deployed] at selected
    exact ⟨mem_of_byKey selected, key_of_byKey selected⟩
  | some deployment =>
    obtain ⟨named, stored, found, sameVersion⟩ := selectFlowSnapshot_deployed wf deployed
    cases found.symm.trans selected
    exact ⟨stored, sameVersion⟩

theorem deployedVersion_of_unselected (wf : db.WellFormed)
    (unselected : selectFlowSnapshot db flowId flowVersionId = none) :
    deployedVersion db flowId flowVersionId = flowVersionId := by
  unfold deployedVersion
  cases deployed : db.getActiveFlowDeployment flowId "default" with
  | none => rfl
  | some deployment =>
    obtain ⟨named, _, found, _⟩ := selectFlowSnapshot_deployed wf deployed
    cases found.symm.trans unselected

theorem version_of_selectGraph (wf : db.WellFormed) {env} {graph : GraphSnapshotRow}
    (selected : selectGraph db env flowId flowVersionId = .ok graph) :
    graph ∈ db.graphSnapshots ∧ graph.flowVersionId = deployedVersion db flowId flowVersionId := by
  have named : namedGraph db env flowId flowVersionId = .ok (some graph) := by
    unfold selectGraph at selected
    split at selected <;> cases selected
    assumption
  unfold namedGraph at named
  cases snap : selectFlowSnapshot db flowId flowVersionId with
  | some row =>
    obtain ⟨stored, ofVersion⟩ := version_of_selectFlowSnapshot wf snap
    obtain ⟨own, compiled, ownId, ownVersion⟩ := wf.snapshotGraphs row stored
    simp only [snap, ownId, Except.ok.injEq] at named
    have eq : own = graph :=
      wf.graphSnapshotKeys.eq compiled (mem_of_byKey named) (key_of_byKey named).symm
    rw [← eq]
    exact ⟨compiled, ownVersion.trans ofVersion⟩
  | none =>
    simp only [snap] at named
    split at named
    · cases named
    · rw [Except.ok.injEq] at named
      rw [deployedVersion_of_unselected wf snap]
      exact ⟨mem_of_byKey named, key_of_byKey named⟩

structure OwnGraph (db : Database) (run : CreatedRun) : Prop where
  recorded : ∃ row, db.getFlowRun run.flowRunId = some row ∧
    row.flowVersionId = run.flowVersionId ∧ ∃ graph ∈ db.graphSnapshots,
      row.flowGraphSnapshotId = some graph.flowGraphSnapshotId ∧
        graph.flowVersionId = run.flowVersionId
  active : db.activeVersion run.flowId = some run.flowVersionId

structure PointersAgree (db : Database) (flowId : ℕ) : Prop where
  cached : ∀ flowVersionId ∈ db.activeVersionCache.lookup flowId,
    db.activeVersion flowId = some flowVersionId
  deployed : ∀ deployment ∈ db.getActiveFlowDeployment flowId "default",
    db.activeVersion flowId = some deployment.flowVersionId

theorem version_of_activeFor {req : FlowRunCreate}
    (selected : activeFor db flowId req = .ok flowVersionId) :
    db.getActiveFlowVersionId flowId = some flowVersionId := by
  unfold activeFor at selected
  split at selected
  · cases selected
  · split at selected <;> cases selected
    assumption

theorem pointersAgree_iff (selected : db.getActiveFlowVersionId flowId = some flowVersionId) :
    PointersAgree db flowId ↔ db.activeVersion flowId = some flowVersionId ∧
      deployedVersion db flowId flowVersionId = flowVersionId := by
  unfold Database.getActiveFlowVersionId at selected
  unfold deployedVersion
  constructor
  · rintro ⟨cached, deployed⟩
    have active : db.activeVersion flowId = some flowVersionId := by
      cases hit : db.activeVersionCache.lookup flowId with
      | some version =>
        rw [hit, Option.some.injEq] at selected
        rw [← selected]
        exact cached version hit
      | none => rwa [hit] at selected
    refine ⟨active, ?_⟩
    cases found : db.getActiveFlowDeployment flowId "default" with
    | none => rfl
    | some deployment => exact Option.some.inj ((deployed deployment found).symm.trans active)
  · rintro ⟨active, eq⟩
    refine ⟨fun version hit => ?_, fun deployment found => ?_⟩
    · rw [Option.mem_def] at hit
      rw [hit, Option.some.injEq] at selected
      rw [active, selected]
    · rw [Option.mem_def] at found
      rw [found] at eq
      rw [active, ← eq]

theorem recorded_iff (wf : db.WellFormed) {tenantId env req} {run : CreatedRun}
    (made : Created db tenantId env req run) :
    OwnGraph (createFlowRun db tenantId env req).1 run ↔
      db.activeVersion run.flowId = some run.flowVersionId ∧
        deployedVersion db run.flowId run.flowVersionId = run.flowVersionId := by
  obtain ⟨graph, selected, graphId⟩ := made.graph
  obtain ⟨compiled, ofVersion⟩ := version_of_selectGraph wf selected
  obtain ⟨after, tables, out⟩ := made.createFlowRun_eq
  have stored : (createFlowRun db tenantId env req).1.getFlowRun run.flowRunId =
      some (newRunRow env req run) := by
    have unused : after.getFlowRun run.flowRunId = none := by
      rw [tables.getFlowRun, made.flowRunId, made.fresh]
    rw [out]
    unfold Database.getFlowRun Table.byKey at unused ⊢
    rw [List.find?_append, unused]
    simp [newRunRow]
  have graphs : (createFlowRun db tenantId env req).1.graphSnapshots = db.graphSnapshots := by
    rw [out]
    exact tables.graphSnapshots
  have active : (createFlowRun db tenantId env req).1.activeVersion run.flowId =
      db.activeVersion run.flowId := by
    rw [out]
    unfold Database.activeVersion
    rw [tables.versions]
  constructor
  · rintro ⟨⟨row, found, -, own, inside, ownId, ownVersion⟩, isActive⟩
    rw [stored, Option.some.injEq] at found
    rw [graphs] at inside
    rw [← found, newRunRow, Option.some.injEq] at ownId
    have eq : own = graph := wf.graphSnapshotKeys.eq inside compiled (ownId.symm.trans graphId.symm)
    refine ⟨active ▸ isActive, ?_⟩
    rw [← ofVersion, ← eq, ownVersion]
  · rintro ⟨isActive, eq⟩
    refine ⟨⟨newRunRow env req run, stored, rfl, graph, ?_, ?_, ofVersion.trans eq⟩, ?_⟩
    · rw [graphs]
      exact compiled
    · rw [newRunRow, graphId]
    · rw [active, isActive]

/-- **A new run executes its own version's graph exactly when the pointers of the flow agree**,
after any history of the authoring service. -/
theorem ownGraph_iff (db : Store) (operations : List Operation) (tenantId : ℕ)
    (env : RequestEnvironment) (req : FlowRunCreate) (run : CreatedRun)
    (succeeded : (createFlowRun (history db.1 operations) tenantId env req).2 = .ok run) :
    OwnGraph (createFlowRun (history db.1 operations) tenantId env req).1 run ↔
      PointersAgree (history db.1 operations) run.flowId := by
  have created := createFlowRun_ok_iff.mp succeeded
  rw [recorded_iff (wellFormed_history db.2 operations) created,
    pointersAgree_iff (version_of_activeFor created.active)]

def twoVersions : Database :=
  { Database.empty with
    flows := [⟨10, 1⟩]
    versions := [⟨11, 10, .published, false⟩, ⟨15, 10, .published, false⟩]
    graphSnapshots := [⟨12, 11⟩, ⟨16, 15⟩] }

theorem wellFormed_twoVersions : twoVersions.WellFormed := by
  constructor <;> decide

def acceptingEnvironment (freshId : ℕ) : OperationEnvironment :=
  { justified := true, accepted := true, materializes := true
    freshGraphSnapshotId := freshId, freshFlowSnapshotId := freshId, freshDeploymentId := freshId }

def bothActivated : List Operation :=
  [.activateFlowVersion 1 10 11 (acceptingEnvironment 100),
    .activateFlowVersion 1 10 15 (acceptingEnvironment 101)]

def firstRequest : RequestEnvironment × FlowRunCreate :=
  ({ acquired := true, validTraceId := true, normalizes := true, legacyGraphContract := false
     freshCorrelationId := 7, freshFlowRunId := 40, now := 2 },
   { flowId := some 10, flowVersionId := none, sessionId := 20, userId := "u"
     correlationId := none, originFlowRunId := none })

def firstRun (flowVersionId flowGraphSnapshotId : ℕ) : CreatedRun :=
  { flowRunId := 40, flowId := 10, flowVersionId, flowGraphSnapshotId, origin := Origin.none }

theorem ownGraph_after_activation :
    OwnGraph (createFlowRun (history twoVersions bothActivated) 1 firstRequest.1
      firstRequest.2).1 (firstRun 15 16) :=
  (ownGraph_iff ⟨twoVersions, wellFormed_twoVersions⟩ bothActivated 1 firstRequest.1
    firstRequest.2 (firstRun 15 16) rfl).mpr
    ⟨by rintro flowVersionId ⟨⟩, by rintro deployment ⟨⟩; decide⟩

theorem bothActivated_lead_to_graph :
    ∃ deployment ∈ (history twoVersions bothActivated).deployments,
    ∃ graph ∈ (history twoVersions bothActivated).graphSnapshots,
      graph.flowVersionId = deployment.flowVersionId := by
  obtain ⟨deployment, deployed⟩ := List.exists_mem_of_ne_nil
    (history twoVersions bothActivated).deployments (by decide)
  obtain ⟨_, _, graph, compiled, _, _, own⟩ :=
    deployment_leads_to_graph ⟨_, wellFormed_twoVersions⟩ bothActivated deployment deployed
  exact ⟨deployment, deployed, graph, compiled, own⟩

/-- After a rollback to version 11 the deployment still is one of version 15, and a run of version
11 executes the graph of version 15. -/
theorem rollback_keeps_deployment : (createFlowRun (history twoVersions (bothActivated ++
        [.rollbackFlowVersion 1 10 11 (acceptingEnvironment 102)])) 1 firstRequest.1
        firstRequest.2).2 = .ok (firstRun 11 16) ∧
      ¬ OwnGraph (createFlowRun (history twoVersions (bothActivated ++
        [.rollbackFlowVersion 1 10 11 (acceptingEnvironment 102)])) 1 firstRequest.1
        firstRequest.2).1 (firstRun 11 16) := by
  refine ⟨rfl, ?_⟩
  rintro ⟨⟨row, found, -, graph, compiled, recorded, ofVersion⟩, -⟩
  cases found
  fin_cases compiled
  · exact absurd recorded (by decide)
  · exact absurd ofVersion (by decide)

end AgentOrchestration.Flows
