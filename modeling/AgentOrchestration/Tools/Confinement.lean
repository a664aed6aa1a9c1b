import AgentOrchestration.Tools.ToolOrchestrator

/-!
# Tenant confinement of flow tools

Everything by which a tenant makes the orchestrator run a tool of a flow: the
`ToolExecutor` steps of its flow runs, the API calls that create and execute tool
runs, and the schedules that fire.
-/

namespace AgentOrchestration.Tools

set_option autoImplicit false

open Execution (ServiceError)
open LabelledSystem (trace)
open Program (Triple Keeps raiseIf ofOption)

/-! ## Creating tool runs -/

structure ToolRunCreate where
  toolConfigId : ℕ
  agentRunId : Option ℕ
  nodeRunId : Option ℕ
  input : Fields
  deriving DecidableEq

def newToolRun (toolRunId : ℕ) (body : ToolRunCreate) : ToolRunRow :=
  { toolRunId, toolConfigId := body.toolConfigId, agentRunId := body.agentRunId
    nodeRunId := body.nodeRunId, input := body.input, status := .created
    canonicalStatus := .created, finished := false, output := [], error := [] }

variable (tables : ToolTables)

/-- The foreign keys of `tool_run`. -/
def brokenForeignKey (body : ToolRunCreate) : Option String :=
  if tables.getToolConfig body.toolConfigId = none then some "tool_run_tool_config_id_fkey"
  else if ∃ id ∈ body.agentRunId, tables.getAgentRun id = none then
    some "tool_run_agent_run_id_fkey"
  else if ∃ id ∈ body.nodeRunId, tables.getNodeRun id = none then some "tool_run_node_run_id_fkey"
  else none

section

variable (w : ToolWorld) (tables : ToolTables)

/-- `create_tool_run` of the repository. -/
def insertToolRun (body : ToolRunCreate) : ToolM ℕ := do
  call w .createToolRun
  let store ← get
  match brokenForeignKey tables body with
  | some constraint => throw (.integrity constraint)
  | none =>
    if store.getToolRun (w.uuid4 store) = none then
      set { store with toolRuns := store.toolRuns ++ [newToolRun (w.uuid4 store) body] }
      return w.uuid4 store
    else throw (.integrity "tool_run_pkey")

/-- The tool runs that `count_tool_runs_for_flow_run` counts. -/
def ToolTables.countsFor (flowRunId : ℕ) (toolRun : ToolRunRow) : Bool :=
  ((toolRun.nodeRunId.bind tables.getNodeRun).any fun nodeRun => nodeRun.flowRunId = flowRunId) ||
    (((toolRun.agentRunId.bind tables.getAgentRun).bind fun agentRun =>
      agentRun.nodeRunId.bind tables.getNodeRun).any fun nodeRun => nodeRun.flowRunId = flowRunId)

structure ApiEnvironment where
  /-- Rate limits and access policies refuse the call. -/
  refused : Option ServiceError
  billingPolicyVersionId : Option ℕ
  /-- `max_tool_runs_per_flow_run`, of the published limit policy. -/
  maxToolRuns : Except ServiceError ℕ
  /-- The idempotency key is acquired; otherwise no tool run is created. -/
  acquired : Bool

def parentNodeRun (body : ToolRunCreate) : Except ServiceError NodeRunKey :=
  match body.nodeRunId with
  | some nodeRunId =>
    match tables.getNodeRun nodeRunId with
    | none => .error (.notFound "node_run_not_found")
    | some nodeRun => .ok nodeRun
  | none =>
    match body.agentRunId with
    | none => .error (.domainValidation "tool_run_missing_parent")
    | some agentRunId =>
      match tables.getAgentRun agentRunId with
      | none => .error (.notFound "agent_run_not_found")
      | some agentRun =>
        match agentRun.nodeRunId.bind tables.getNodeRun with
        | none => .error (.notFound "node_run_not_found")
        | some nodeRun => .ok nodeRun

def checkCompatible (version : AgentVersionKey) (toolConfig : ToolConfigRow) :
    Except ServiceError PUnit :=
  if ∃ supported ∈ version.supportedToolSchemaVersion, ∃ actual ∈ toolConfig.schemaVersion,
      supported ≠ actual then
    .error (.schemaIncompatible "tool_config_schema_incompatible")
  else if ∃ supported ∈ version.supportedToolConfigHashPrefix, ∃ actual ∈ toolConfig.configHash,
      supported ≠ "" ∧ actual ≠ "" ∧ ¬ supported.toList <+: actual.toList then
    .error (.hashIncompatible "tool_config_hash_incompatible")
  else .ok ⟨⟩

def checkAgentRun (body : ToolRunCreate) (toolConfig : ToolConfigRow) : Except ServiceError PUnit :=
  match body.agentRunId with
  | none => .ok ⟨⟩
  | some agentRunId =>
    match tables.getAgentRun agentRunId with
    | none => .error (.notFound "agent_run_not_found")
    | some agentRun =>
      match tables.getAgentVersion agentRun.agentVersionId with
      | none => .error (.notFound "agent_version_not_found")
      | some version => checkCompatible version toolConfig

variable (env : ApiEnvironment)

/-- `ExecutionBoundary.create_tool_run`, with the service behind it. -/
def createToolRun (body : ToolRunCreate) : ToolM ℕ := do
  raised (env.refused.elim (.ok PUnit.unit) .error)
  raiseIf (body.nodeRunId = none ∧ body.agentRunId = none)
    (.domainValidation "tool_run_missing_parent")
  raiseIf (env.billingPolicyVersionId = none) (.resourceBlocked "billing_policy_not_active")
  let nodeRun ← raised (parentNodeRun tables body)
  let limit ← raised env.maxToolRuns
  let store ← get
  raiseIf (limit ≤ store.toolRuns.countP (tables.countsFor nodeRun.flowRunId))
    (.limitExceeded "max_tool_runs_exceeded")
  let toolConfig ← ofOption (.notFound "tool_config_not_found")
    (tables.getToolConfig body.toolConfigId)
  raiseIf (toolConfig.status ≠ .published) (.resourceBlocked "tool_config_blocked")
  raised (checkAgentRun tables body toolConfig)
  raiseIf (env.acquired = false) .idempotencyInProgress
  let toolRunId ← insertToolRun w tables body
  call w .getFlowRunId
  let flowRunId ← raised (tables.flowRunOf (newToolRun toolRunId body))
  raiseIf (tables.execution.getFlowRun flowRunId = none) (.notFound "flow_run_not_found")
  call w .invocationRequestedEvent
  return toolRunId

/-- `_assert_flow_run_tenant` for the flow run of a node run, as a tool run reports it. -/
def assertNodeRunTenant (tenantId nodeRunId : ℕ) : Except ServiceError PUnit :=
  match tables.getNodeRun nodeRunId with
  | none => .error (.notFound "tool_run_not_found")
  | some nodeRun =>
    match tables.flowTenant nodeRun.flowRunId with
    | .error _ => .error (.notFound "tool_run_not_found")
    | .ok owner => if owner = tenantId then .ok ⟨⟩ else .error (.notFound "tool_run_not_found")

def assertToolRunTenant (tenantId : ℕ) (toolRun : ToolRunRow) : Except ServiceError PUnit :=
  let nodeRunId :=
    match toolRun.nodeRunId with
    | some nodeRunId => some nodeRunId
    | none => (toolRun.agentRunId.bind tables.getAgentRun).bind AgentRunKey.nodeRunId
  match nodeRunId with
  | none => .error (.notFound "tool_run_not_found")
  | some nodeRunId => assertNodeRunTenant tables tenantId nodeRunId

/-- `ExecutionBoundary.execute_tool_run`. -/
def executeOwnToolRun (tenantId toolRunId : ℕ) : ToolM Value := do
  raised (env.refused.elim (.ok PUnit.unit) .error)
  let store ← get
  let toolRun ← ofOption (.notFound "tool_run_not_found") (store.getToolRun toolRunId)
  raised (assertToolRunTenant tables tenantId toolRun)
  executeToolRun w tables toolRunId

variable (clock : ToolClock) (context : ToolContext)

def scheduleToolRun (toolRunId : ℕ) (runAt : ℤ) :
    ToolM (String × ℤ) := do
  call w .startWorkflow
  modify fun store =>
    { store with schedules := store.schedules ++ [⟨toolRunId, context.tenantId, runAt⟩] }
  return ("tool-run-" ++ clock.uuidText toolRunId, runAt)

def nodeBody (input : ToolRunInput) (toolConfigId : ℕ) : ToolRunCreate :=
  { toolConfigId, agentRunId := none, nodeRunId := some context.currentNodeRunId
    input := input.params }

/-- The backend of the `ToolExecutor` node. -/
def nodeBackend (hasScheduler : Bool) : ToolBackend ToolStore where
  createToolRun context input := do
    let toolConfigId ← ofOption (.unexpected "ValueError") (w.readUuid input.toolConfigId)
    insertToolRun w tables (nodeBody context input toolConfigId)
  executeToolRun toolRunId := do
    let result ← executeToolRun w tables toolRunId
    ofOption (.unexpected "ValidationError") result.asDict?
  scheduleToolRun := if hasScheduler then some (scheduleToolRun w clock) else none

end

variable (store : ToolStore)

def ToolStore.created (toolRun : ToolRunRow) : ToolStore :=
  { store with toolRuns := store.toolRuns ++ [toolRun] }

variable (w : ToolWorld)

/-- What can come of an insert: it raises and changes nothing, or a new row is there. -/
def InsertsOrRaises (store : ToolStore) (body : ToolRunCreate)
    (outcome : EStateM.Result ServiceError ToolStore ℕ) : Prop :=
  (∃ error, outcome = .error error store) ∨ store.getToolRun (w.uuid4 store) = none ∧
      outcome = .ok (w.uuid4 store) (store.created (newToolRun (w.uuid4 store) body))

variable (tables : ToolTables)

theorem insertToolRun_outcome (st body) :
    InsertsOrRaises w st body (insertToolRun w tables body st) := by
  have quiet (err : ServiceError) : InsertsOrRaises w st body (.error err st) := .inl ⟨err, rfl⟩
  refine Program.bind_outcome_of_reads (fun _ => call_keeps _) quiet fun _ _ => ?_
  refine Program.bind_outcome_of_reads (fun _ => .get) quiet fun _ run => ?_
  cases run
  cases brokenForeignKey tables body with
  | some constraint => exact quiet _
  | none =>
    by_cases fresh : st.getToolRun (w.uuid4 st) = none
    · simp only [if_pos fresh]
      exact .inr ⟨fresh, rfl⟩
    · simp only [if_neg fresh]
      exact quiet _

theorem getToolRun_created {st : ToolStore} {toolRunId body}
    (fresh : st.getToolRun toolRunId = none) :
    (st.created (newToolRun toolRunId body)).getToolRun toolRunId =
      some (newToolRun toolRunId body) := by
  unfold ToolStore.getToolRun Table.byKey at fresh ⊢
  rw [ToolStore.created, List.find?_append, fresh, Option.none_or]
  simp [newToolRun]

/-! ## The system -/

variable (tenantId : ℕ)

/-- The tool run belongs to a node run, directly or through its agent run, of a flow run of the
tenant. -/
def HangsOff (toolRun : ToolRunRow) : Prop :=
  ∃ flowRunId, tables.flowRunOf toolRun = .ok flowRunId ∧ tables.flowTenant flowRunId = .ok tenantId

inductive Action where
  /-- A `ToolExecutor` step of one of the tenant's flow runs. -/
  | toolExecutorStep (w : ToolWorld) (clock : ToolClock) (hasScheduler : Bool)
      (context : ToolContext) (config : Fields)
  | createToolRun (w : ToolWorld) (env : ApiEnvironment) (body : ToolRunCreate)
  | executeToolRun (w : ToolWorld) (env : ApiEnvironment) (toolRunId : ℕ)
  /-- A schedule fires, or its activity is attempted again. -/
  | runSchedule (w : ToolWorld) (toolRunId : ℕ)

def ownNodeRun (tenantId nodeRunId : ℕ) : Bool :=
  match tables.flowRunOfNodeRun nodeRunId with
  | .error _ => false
  | .ok flowRunId =>
    match tables.flowTenant flowRunId with
    | .error _ => false
    | .ok owner => owner = tenantId

def step (store : ToolStore) : Action → Option ToolStore
  | .toolExecutorStep w clock hasScheduler context config =>
    if ownNodeRun tables tenantId context.currentNodeRunId then
      some (Program.after (execute (nodeBackend w tables clock hasScheduler) clock context config)
        store)
    else none
  | .createToolRun w env body => some (Program.after (createToolRun w tables env body) store)
  | .executeToolRun w env toolRunId =>
    some (Program.after (executeOwnToolRun w tables env tenantId toolRunId) store)
  | .runSchedule w toolRunId =>
    if toolRunId ∈ store.schedules.map ScheduledToolRun.toolRunId then
      some (Program.after (executeToolRun w tables toolRunId) store)
    else none

/-- Every configuration that an action names, and that exists, is one of a kind: those of the
selected tools that ready operations ask for, or the one in the request body. -/
def Names (Allowed : ToolConfigRow → Prop) : Action → Prop
  | .toolExecutorStep w _ _ context _ =>
    ∀ operation tool, ReadyOperation context.state operation → Selected context.state tool →
      tool.name = operation.toolName → ∀ toolConfigId ∈ w.readUuid tool.toolConfigId,
        ∀ toolConfig ∈ tables.getToolConfig toolConfigId, Allowed toolConfig
  | .createToolRun _ _ body =>
    ∀ toolConfig ∈ tables.getToolConfig body.toolConfigId, Allowed toolConfig
  | .executeToolRun _ _ _ => True
  | .runSchedule _ _ => True

/-- A tenant that has not run any tool: nothing has been executed or scheduled, and the tool runs in
the table, if any, belong to others. -/
structure Unused (tables : ToolTables) (tenantId : ℕ) (store : ToolStore) : Prop where
  schedules : store.schedules = []
  executed : store.executed = []
  requests : store.requests = []
  toolRuns : ∀ toolRun ∈ store.toolRuns, ¬ HangsOff tables tenantId toolRun

/-! ## The invariant -/

section

variable {tables : ToolTables} {tenantId : ℕ} {Allowed : ToolConfigRow → Prop}

def ConfigAllowed (tables : ToolTables) (Allowed : ToolConfigRow → Prop) (toolRun : ToolRunRow) :
    Prop :=
  ∀ toolConfig ∈ tables.getToolConfig toolRun.toolConfigId, Allowed toolConfig

def Anchored (tables : ToolTables) (tenantId toolRunId : ℕ) (store : ToolStore) : Prop :=
  ∃ toolRun, store.getToolRun toolRunId = some toolRun ∧ HangsOff tables tenantId toolRun

/-- What a tenant that only names allowed configurations keeps up. -/
structure Confined (tables : ToolTables) (tenantId : ℕ) (Allowed : ToolConfigRow → Prop)
    (store : ToolStore) : Prop where
  toolRuns : ∀ toolRun ∈ store.toolRuns, HangsOff tables tenantId toolRun →
    ConfigAllowed tables Allowed toolRun
  schedules : ∀ scheduled ∈ store.schedules, Anchored tables tenantId scheduled.toolRunId store
  executed : ∀ toolRun ∈ store.executed, HangsOff tables tenantId toolRun
  requests : ∀ request ∈ store.requests, Allowed request.toolConfig

variable {store : ToolStore}

theorem Unused.confined (unused : Unused tables tenantId store) :
    Confined tables tenantId Allowed store where
  toolRuns toolRun member hangs := absurd hangs (unused.toolRuns toolRun member)
  schedules := by simp [unused.schedules]
  executed := by simp [unused.executed]
  requests := by simp [unused.requests]

variable {toolRunId : ℕ} {toolRun : ToolRunRow}

variable {status : Lifecycle.RunStatus} {canonicalStatus : ToolRunStatus} {output error : Fields}

theorem hangsOff_update : HangsOff tables tenantId
        (updateToolRunResult toolRunId status canonicalStatus output error toolRun) ↔
      HangsOff tables tenantId toolRun := by
  unfold updateToolRunResult
  split <;> rfl

theorem configAllowed_update : ConfigAllowed tables Allowed
        (updateToolRunResult toolRunId status canonicalStatus output error toolRun) ↔
      ConfigAllowed tables Allowed toolRun := by
  unfold updateToolRunResult
  split <;> rfl

theorem getToolRun_update (st : ToolStore) (toolRunId status canonicalStatus output err id) :
    (st.updateToolRunResult toolRunId status canonicalStatus output err).getToolRun id =
      (st.getToolRun id).map (updateToolRunResult toolRunId status canonicalStatus output err) := by
  unfold ToolStore.getToolRun ToolStore.updateToolRunResult Table.byKey
  rw [List.find?_map]
  congr 2
  funext toolRun
  unfold updateToolRunResult
  simp only [Function.comp_apply]
  split <;> rfl

theorem storeKeeps_confined :
    StoreKeeps tables (Confined tables tenantId Allowed) fun toolRun =>
      HangsOff tables tenantId toolRun ∧ ConfigAllowed tables Allowed toolRun where
  updates store toolRunId status canonicalStatus output error confined := by
    refine ⟨?_, ?_, confined.executed, confined.requests⟩
    · intro toolRun mem hangs
      obtain ⟨before, inside, rfl⟩ := List.mem_map.mp mem
      exact configAllowed_update.mpr (confined.toolRuns before inside (hangsOff_update.mp hangs))
    · intro scheduled mem
      obtain ⟨toolRun, found, hangs⟩ := confined.schedules scheduled mem
      refine ⟨updateToolRunResult toolRunId status canonicalStatus output error toolRun, ?_,
        hangsOff_update.mpr hangs⟩
      rw [getToolRun_update, found]
      rfl
  loads store toolRun confined executable := by
    refine ⟨confined.toolRuns, confined.schedules, ?_, confined.requests⟩
    exact List.forall_mem_append.mpr ⟨confined.executed, List.forall_mem_singleton.mpr executable.1⟩
  sends store request confined executable named := by
    refine ⟨confined.toolRuns, confined.schedules, confined.executed, ?_⟩
    exact List.forall_mem_append.mpr
      ⟨confined.requests, List.forall_mem_singleton.mpr (executable.2 request.toolConfig named)⟩

variable (w : ToolWorld)

theorem executeToolRun_confined (toolRunId : ℕ) :
    Triple (fun st => Confined tables tenantId Allowed st ∧
        Anchored tables tenantId toolRunId st)
      (executeToolRun w tables toolRunId) (fun _ => Confined tables tenantId Allowed)
      (Confined tables tenantId Allowed) := by
  refine (executeToolRun_keeps storeKeeps_confined toolRunId).imp ?_ (fun _ _ after => after)
    fun _ after => after
  rintro st ⟨confined, toolRun, found, hangs⟩
  refine ⟨confined, fun other eq => ?_⟩
  rw [Option.mem_def, found, Option.some.injEq] at eq
  rw [← eq]
  exact ⟨hangs, confined.toolRuns toolRun (Table.mem_of_byKey found) hangs⟩

/-- A new row leaves the tool runs that are there where they are. -/
theorem getToolRun_append {toolRun other id} (found : store.getToolRun id = some other) :
    ({ store with toolRuns := store.toolRuns ++ [toolRun] } : ToolStore).getToolRun id =
      some other := by
  unfold ToolStore.getToolRun Table.byKey at found ⊢
  rw [List.find?_append, found, Option.some_or]

variable {body : ToolRunCreate}

theorem Confined.append (confined : Confined tables tenantId Allowed store)
    (fresh : store.getToolRun toolRunId = none)
    (ok : ∀ toolConfig ∈ tables.getToolConfig body.toolConfigId, Allowed toolConfig) :
    Confined tables tenantId Allowed
        { store with toolRuns := store.toolRuns ++ [newToolRun toolRunId body] } ∧
      ({ store with toolRuns := store.toolRuns ++ [newToolRun toolRunId body] } :
        ToolStore).getToolRun toolRunId = some (newToolRun toolRunId body) := by
  refine ⟨⟨?_, ?_, confined.executed, confined.requests⟩, ?_⟩
  · intro toolRun mem hangs
    rcases List.mem_append.mp mem with old | new
    · exact confined.toolRuns toolRun old hangs
    · rw [List.mem_singleton.mp new]
      exact ok
  · intro scheduled mem
    obtain ⟨toolRun, found, hangs⟩ := confined.schedules scheduled mem
    exact ⟨toolRun, getToolRun_append found, hangs⟩
  · exact getToolRun_created fresh

theorem insertToolRun_confined
    (ok : ∀ toolConfig ∈ tables.getToolConfig body.toolConfigId, Allowed toolConfig) :
    Triple (Confined tables tenantId Allowed) (insertToolRun w tables body)
      (fun toolRunId st => Confined tables tenantId Allowed st ∧
        st.getToolRun toolRunId = some (newToolRun toolRunId body))
      (Confined tables tenantId Allowed) := by
  refine .bind (call_keeps _) fun _ => ?_
  refine .bind (Triple.get (R := fun st after => Confined tables tenantId Allowed after ∧
    Confined tables tenantId Allowed st) fun _ holds => ⟨holds, holds⟩) fun st => ?_
  refine .of_fact fun confined => ?_
  cases brokenForeignKey tables body with
  | some constraint => exact .throw fun _ holds => holds
  | none =>
    simp only
    split
    · rename_i fresh
      refine .bind (Triple.set (R := fun _ after => Confined tables tenantId Allowed after ∧
        after.getToolRun (w.uuid4 st) = some (newToolRun (w.uuid4 st) body))
        (confined.append fresh ok)) fun _ => ?_
      exact .pure fun _ holds => holds
    · exact .throw fun _ holds => holds

/-! ## Every action keeps the invariant -/

variable (env : ApiEnvironment)

theorem createToolRun_confined
    (ok : ∀ toolConfig ∈ tables.getToolConfig body.toolConfigId, Allowed toolConfig) :
    Keeps (Confined tables tenantId Allowed) (createToolRun w tables env body) := by
  have ins : Keeps (Confined tables tenantId Allowed) (insertToolRun w tables body) :=
    (insertToolRun_confined w ok).imp (fun _ before => before) (fun _ _ after => after.1)
      fun _ after => after
  exact
    .bind (raised_keeps _) fun _ => .bind (.raiseIf _ _) fun _ => .bind (.raiseIf _ _) fun _ =>
    .bind (raised_keeps _) fun _ => .bind (raised_keeps _) fun _ => .bind .get fun _ =>
    .bind (.raiseIf _ _) fun _ => .bind (.ofOption _ _) fun _ => .bind (.raiseIf _ _) fun _ =>
    .bind (raised_keeps _) fun _ => .bind (.raiseIf _ _) fun _ => .bind ins fun _ =>
    .bind (call_keeps _) fun _ => .bind (raised_keeps _) fun _ => .bind (.raiseIf _ _) fun _ =>
    .bind (call_keeps _) fun _ => .pure _

theorem flowRun_of_assertNodeRunTenant {nodeRunId : ℕ}
    (passed : assertNodeRunTenant tables tenantId nodeRunId = .ok ⟨⟩) :
    ∃ flowRunId, tables.flowRunOfNodeRun nodeRunId = .ok flowRunId ∧
      tables.flowTenant flowRunId = .ok tenantId := by
  unfold assertNodeRunTenant at passed
  unfold ToolTables.flowRunOfNodeRun
  cases found : tables.getNodeRun nodeRunId with
  | none =>
    rw [found] at passed
    cases passed
  | some nodeRun =>
    rw [found] at passed
    refine ⟨nodeRun.flowRunId, rfl, ?_⟩
    cases tenant : tables.flowTenant nodeRun.flowRunId with
    | error err =>
      simp only [tenant] at passed
      cases passed
    | ok owner =>
      simp only [tenant] at passed
      split at passed
      · rename_i eq
        rw [eq]
      · cases passed

theorem hangsOff_of_assert (passed : assertToolRunTenant tables tenantId toolRun = .ok ⟨⟩) :
    HangsOff tables tenantId toolRun := by
  unfold assertToolRunTenant at passed
  unfold HangsOff ToolTables.flowRunOf
  cases direct : toolRun.nodeRunId with
  | some nodeRunId =>
    rw [direct] at passed
    exact flowRun_of_assertNodeRunTenant passed
  | none =>
    rw [direct] at passed
    cases agent : toolRun.agentRunId.bind tables.getAgentRun with
    | none =>
      simp only [agent] at passed
      cases passed
    | some agentRun =>
      obtain ⟨agentRunId, named, found⟩ := Option.bind_eq_some_iff.mp agent
      simp only [agent, Option.bind_some] at passed
      simp only [named, found]
      cases parent : agentRun.nodeRunId with
      | none =>
        rw [parent] at passed
        cases passed
      | some nodeRunId =>
        rw [parent] at passed
        exact flowRun_of_assertNodeRunTenant passed

theorem executeOwnToolRun_confined (toolRunId : ℕ) : Keeps (Confined tables tenantId Allowed)
      (executeOwnToolRun w tables env tenantId toolRunId) := by
  refine .bind (raised_keeps _) fun _ => ?_
  refine Triple.bind (Triple.get (R := fun st after =>
    Confined tables tenantId Allowed after ∧ after = st) fun _ holds => ⟨holds, rfl⟩)
    fun st => ?_
  refine .bind (Triple.ofOption (Q := fun toolRun after =>
      Confined tables tenantId Allowed after ∧ after.getToolRun toolRunId = some toolRun)
    (fun _ holds => holds.1) fun toolRun found after holds => ⟨holds.1, holds.2 ▸ found⟩)
    fun toolRun => ?_
  refine .bind (raised_triple _ fun _ holds => holds.1) fun _ => .of_fact fun passed => ?_
  refine (executeToolRun_confined w toolRunId).imp ?_ (fun _ _ after => after) fun _ after => after
  rintro after ⟨confined, found⟩
  exact ⟨confined, toolRun, found, hangsOff_of_assert passed⟩

variable {context : ToolContext}

theorem hangsOff_nodeBody (own : ownNodeRun tables tenantId context.currentNodeRunId = true)
    (input toolRunId toolConfigId) :
    HangsOff tables tenantId (newToolRun toolRunId (nodeBody context input toolConfigId)) := by
  unfold ownNodeRun at own
  split at own
  · cases own
  · rename_i flowRunId found
    split at own
    · cases own
    · rename_i owner tenant
      exact ⟨flowRunId, found, of_decide_eq_true own ▸ tenant⟩

variable (clock : ToolClock)

theorem scheduleToolRun_confined (ctx toolRunId runAt) : Triple
      (fun st => Confined tables tenantId Allowed st ∧ Anchored tables tenantId toolRunId st)
      (scheduleToolRun w clock ctx toolRunId runAt)
      (fun _ => Confined tables tenantId Allowed) (Confined tables tenantId Allowed) := by
  refine .bind ((call_keeps _).imp (fun _ before => before) (fun _ _ after => after)
    fun _ after => after.1) fun _ => ?_
  refine .bind (Triple.modify (R := fun _ => Confined tables tenantId Allowed) ?_) fun _ =>
    Keeps.pure _
  rintro st ⟨confined, anchored⟩
  refine ⟨confined.toolRuns, ?_, confined.executed, confined.requests⟩
  exact List.forall_mem_append.mpr ⟨confined.schedules, List.forall_mem_singleton.mpr anchored⟩

theorem nodeBackend_keeps (hasScheduler : Bool)
    (own : ownNodeRun tables tenantId context.currentNodeRunId = true) :
    BackendKeeps (nodeBackend w tables clock hasScheduler) context
      (Confined tables tenantId Allowed) (Anchored tables tenantId) fun input =>
        ∀ toolConfigId ∈ w.readUuid input.toolConfigId,
          ∀ toolConfig ∈ tables.getToolConfig toolConfigId, Allowed toolConfig where
  creates input allowed := by
    refine .bind (Triple.ofOption (Q := fun toolConfigId st =>
        Confined tables tenantId Allowed st ∧ w.readUuid input.toolConfigId = some toolConfigId)
      (fun _ holds => holds) fun toolConfigId read _ holds => ⟨holds, read⟩) fun toolConfigId => ?_
    refine .of_fact fun read => ?_
    refine (insertToolRun_confined w (allowed toolConfigId read)).imp (fun _ before => before)
      ?_ fun _ after => after
    rintro toolRunId st ⟨confined, found⟩
    exact ⟨confined, _, found, hangsOff_nodeBody own input toolRunId toolConfigId⟩
  executes toolRunId := .bind (executeToolRun_confined w toolRunId) fun _ => Keeps.ofOption _ _
  schedules schedule scheduler toolRunId runAt := by
    cases hasScheduler with
    | false => cases scheduler
    | true =>
      cases scheduler
      exact scheduleToolRun_confined w clock context toolRunId runAt

theorem step_confined {st next action} (confined : Confined tables tenantId Allowed st)
    (names : Names tables Allowed action) (ran : step tables tenantId st action = some next) :
    Confined tables tenantId Allowed next := by
  cases action with
  | toolExecutorStep w clock hasScheduler ctx cfg =>
    simp only [step] at ran
    split at ran
    · rename_i own
      cases ran
      refine (execute_keeps (nodeBackend_keeps w clock hasScheduler own) ?_).after confined
      intro inputs results parsed input member toolConfigId read
      obtain ⟨op, tool, ready, selected, named, eq⟩ := selected_of_stepInputs parsed member
      exact names op tool ready selected named toolConfigId (eq ▸ read)
    · cases ran
  | createToolRun w env body =>
    cases ran
    exact (createToolRun_confined w env names).after confined
  | executeToolRun w env toolRunId =>
    cases ran
    exact (executeOwnToolRun_confined w env toolRunId).after confined
  | runSchedule w toolRunId =>
    simp only [step] at ran
    split at ran
    · rename_i pending
      cases ran
      obtain ⟨scheduled, member, rfl⟩ := List.mem_map.mp pending
      exact (executeToolRun_confined w scheduled.toolRunId).after
        ⟨confined, confined.schedules scheduled member⟩
    · cases ran

theorem trace_confined (unused : Unused tables tenantId store) {actions}
    (names : ∀ t ∈ trace (step tables tenantId) store actions, Names tables Allowed t.action) :
    ∀ t ∈ trace (step tables tenantId) store actions,
      (∀ toolRun ∈ t.after.executed, HangsOff tables tenantId toolRun) ∧
        ∀ req ∈ t.after.requests, Allowed req.toolConfig := by
  refine LabelledSystem.trace_law (I := Confined tables tenantId Allowed)
    (G := fun _ action => Names tables Allowed action) ?_ ?_ actions store unused.confined names
  · intro before action after confined ok ran
    exact step_confined confined ok ran
  · intro before action after confined ok ran
    have kept := step_confined confined ok ran
    exact ⟨kept.executed, kept.requests⟩

end

/-! ## The results -/

variable (tables : ToolTables) (tenantId : ℕ) (store : ToolStore)

/-- **Whatever the models and the callers supply, the tool runs that are executed hang off flow runs
of the tenant.** -/
theorem executed_hangOff (unused : Unused tables tenantId store) (actions : List Action) :
    ∀ t ∈ trace (step tables tenantId) store actions,
      ∀ toolRun ∈ t.after.executed, HangsOff tables tenantId toolRun := by
  have names : ∀ t ∈ trace (step tables tenantId) store actions,
      Names tables (fun _ => True) t.action := by
    intro t _
    unfold Names
    split <;> simp
  exact fun t mem => (trace_confined unused names t mem).1

/-- **A tenant that names only its own configurations is confined**: every request sent for it has
one of its configurations, and every tool run executed hangs off one of its flow runs. -/
theorem requests_confined (tables : ToolTables) (tenantId : ℕ) (store : ToolStore)
    (unused : Unused tables tenantId store) (actions : List Action)
    (names : ∀ t ∈ trace (step tables tenantId) store actions,
      Names tables (fun toolConfig => toolConfig.tenantId = tenantId) t.action) :
    ∀ t ∈ trace (step tables tenantId) store actions,
      (∀ toolRun ∈ t.after.executed, HangsOff tables tenantId toolRun) ∧
        ∀ request ∈ t.after.requests, request.toolConfig.tenantId = tenantId :=
  trace_confined unused names

def twoTenantTools : ToolTables :=
  { execution :=
      { Execution.Database.empty with
        sessions := [⟨20, 1, "u"⟩]
        flowRuns := [⟨30, 20, 11, "u", 5, none, some 12, .running, .running, 0⟩] }
    nodeRuns := [⟨40, 30⟩], agentRuns := [], agentVersions := []
    toolConfigs :=
      [⟨50, 1, .published, none, none, [("url", .str "tools/own")]⟩,
        ⟨51, 2, .published, none, none, [("url", .str "tools/foreign")]⟩] }

def noToolRuns : ToolStore := { toolRuns := [], schedules := [], executed := [], requests := [] }

theorem unused_noToolRuns : Unused tables tenantId noToolRuns :=
  ⟨rfl, rfl, rfl, by simp [noToolRuns]⟩

def plainWorld : ToolWorld :=
  { fails := fun _ _ => none, resolveSecret := fun ref => .ok ref
    interactionMetadata := fun _ => some []
    executeHttp := fun _ => .ok (.dict [("status_code", .int 200)])
    validHttpResult := fun _ => true, text := fun _ => "", errorText := fun _ => ""
    parseFloat := fun _ => none
    readUuid := fun text =>
      if text = "own" then some 50 else if text = "foreign" then some 51 else none
    uuid4 := fun store => store.toolRuns.length }

def plainClock : ToolClock :=
  { now := 0, fromIsoformat := fun _ => none, isoformat := fun _ => "", uuidText := fun _ => ""
    validateScheduling := fun _ => none }

/-- A step of tenant 1 with payments that are ready, all by the selected configuration. -/
def paymentsBy (toolConfigId : String) (operationIds : List String) : ToolContext :=
  { tenantId := 1, correlationId := 5, currentNodeRunId := 40
    state :=
      [("ToolInputFiller", .dict [("result", .list (operationIds.map fun operationId => .dict
          [("operation_id", .str operationId), ("tool_name", .str "pay"),
            ("status", .str "ready")]))]),
        ("ToolResolver", .dict [("result", .list [.dict [("selected_tool", .dict
            [("name", .str "pay"), ("tool_config_id", .str toolConfigId)])]])])]
    metadata := [] }

def stepSelecting (toolConfigId : String) : Action :=
  .toolExecutorStep plainWorld plainClock false (paymentsBy toolConfigId ["op"]) []

theorem selected_stepSelecting {toolConfigId tool ctx cfg} (eq : stepSelecting toolConfigId =
      .toolExecutorStep plainWorld plainClock false ctx cfg) (selected : Selected ctx.state tool) :
        tool.toolConfigId = toolConfigId := by
  cases eq
  obtain ⟨items, result, item, member, valid⟩ := selected
  cases result
  rw [List.mem_singleton.mp member] at valid
  cases valid
  rfl

theorem own_config_called : (step twoTenantTools 1 noToolRuns (stepSelecting "own")).map
        (fun next => next.requests.length) = some 1 ∧
      ∀ t ∈ trace (step twoTenantTools 1) noToolRuns [stepSelecting "own"],
        (∀ toolRun ∈ t.after.executed, HangsOff twoTenantTools 1 toolRun) ∧
          ∀ request ∈ t.after.requests, request.toolConfig.tenantId = 1 := by
  refine ⟨rfl, requests_confined twoTenantTools 1 noToolRuns (unused_noToolRuns _ _) _ ?_⟩
  intro t member
  rw [List.mem_singleton.mp (LabelledSystem.action_mem_of_trace member)]
  intro operation tool _ selected _ toolConfigId read toolConfig found
  rw [selected_stepSelecting rfl selected] at read
  cases read
  cases found
  rfl

/-- The model selects a configuration of tenant 2 in a step of tenant 1, and the request it
describes is sent. -/
theorem foreign_config_called :
    ∃ t ∈ trace (step twoTenantTools 1) noToolRuns [stepSelecting "foreign"],
      ∃ request ∈ t.after.requests, request.toolConfig.tenantId ≠ 1 := by
  have sent : (step twoTenantTools 1 noToolRuns (stepSelecting "foreign")).map
      (fun next => next.requests.map fun request => request.toolConfig.tenantId) = some [2] := rfl
  obtain ⟨next, performed, tenants⟩ := Option.map_eq_some_iff.mp sent
  have member : 2 ∈ next.requests.map fun request => request.toolConfig.tenantId := by
    rw [tenants]
    exact List.mem_singleton_self 2
  obtain ⟨request, inside, foreign⟩ := List.mem_map.mp member
  refine ⟨⟨noToolRuns, stepSelecting "foreign", next⟩, ?_, request, inside, ?_⟩
  · rw [trace, performed]
    exact List.mem_cons_self
  · rw [foreign]
    decide

end AgentOrchestration.Tools
