import AgentOrchestration.Library.Amortized
import AgentOrchestration.Tools.ToolRunHistory

/-!
# The quota of tool runs

The two ways in which tool runs of a flow run come about: `create_tool_run` of the API,
which counts the rows of the flow run and later inserts one more, and the steps of
`ToolExecutor`, whose operations insert a row each without counting. Calls and
operations are interleaved in any way.
-/

namespace AgentOrchestration.Tools

set_option autoImplicit false

open Execution (ServiceError)
open Interleaving (Thread Pool Move)
open LabelledSystem (trace)
open Interleaving.Thread (ofExcept raiseIf atomic run_bind run_atomic run_attempt)

/-! ## The creations in atomic steps -/

section

variable (w : ToolWorld) (tables : ToolTables)

/-- `count_tool_runs_for_flow_run`. -/
def toolRunsOf (flowRunId : ℕ) (store : ToolStore) : ℕ :=
  store.toolRuns.countP (tables.countsFor flowRunId)

/-- `assert_can_create_tool_run`, once the limit is known. -/
def assertBelowLimit (limit flowRunId : ℕ) : ToolM PUnit := do
  let store ← get
  Program.raiseIf (limit ≤ toolRunsOf tables flowRunId store)
    (.limitExceeded "max_tool_runs_exceeded")

/-- `ExecutionBoundary.create_tool_run`, in its atomic steps. -/
def createToolRunThread (env : ApiEnvironment) (body : ToolRunCreate) : ToolThread ℕ := do
  ofExcept (env.refused.elim (.ok PUnit.unit) .error)
  raiseIf (body.nodeRunId = none ∧ body.agentRunId = none)
    (.domainValidation "tool_run_missing_parent")
  raiseIf (env.billingPolicyVersionId = none) (.resourceBlocked "billing_policy_not_active")
  let nodeRun ← ofExcept (parentNodeRun tables body)
  let limit ← ofExcept env.maxToolRuns
  atomic (assertBelowLimit tables limit nodeRun.flowRunId)
  let toolConfig ← atomic (Program.ofOption (.notFound "tool_config_not_found")
    (tables.getToolConfig body.toolConfigId))
  raiseIf (toolConfig.status ≠ .published) (.resourceBlocked "tool_config_blocked")
  ofExcept (checkAgentRun tables body toolConfig)
  raiseIf (env.acquired = false) .idempotencyInProgress
  let toolRunId ← atomic (insertToolRun w tables body)
  let flowRunId ← atomic (getFlowRunIdForToolRun w tables (newToolRun toolRunId body))
  raiseIf (tables.execution.getFlowRun flowRunId = none) (.notFound "flow_run_not_found")
  atomic (call w .invocationRequestedEvent)
  return toolRunId

variable (clock : ToolClock) (hasScheduler : Bool) (context : ToolContext) (input : ToolRunInput)

def nodeCreateThread : ToolThread ℕ :=
  atomic ((nodeBackend w tables clock hasScheduler).createToolRun context input)

def nodeExecuteThread (toolRunId : ℕ) : ToolThread Fields := do
  let result ← executeToolRunThread w tables toolRunId
  atomic (Program.ofOption (.unexpected "ValidationError") result.asDict?)

/-- `_execute_one`, of a tool run that is not scheduled. -/
def executeImmediatelyThread : ToolThread ToolRunResult := do
  match ← (nodeCreateThread w tables clock hasScheduler context input).attempt with
  | .error error =>
    return immediateResult input .error (errorPayload clock error "tool_run_creation_failed" none)
  | .ok toolRunId =>
    match ← (nodeExecuteThread w tables toolRunId).attempt with
    | .error error =>
      return immediateResult input .error
        (errorPayload clock error "tool_execution_failed" (some toolRunId))
    | .ok result => return immediateResult input .success result

def scheduleOneThread (runAt : ℤ) : ToolThread ToolRunResult := do
  if hasScheduler then
    match ← (nodeCreateThread w tables clock hasScheduler context input).attempt with
    | .error error =>
      return scheduledResult clock input .error
        (errorPayload clock error ToolSchedulingError.scheduleFailed.message none) none runAt
    | .ok toolRunId =>
      match ← (atomic (scheduleToolRun w clock context toolRunId runAt)).attempt with
      | .error error =>
        return scheduledResult clock input .error
          (errorPayload clock error ToolSchedulingError.scheduleFailed.message (some toolRunId))
            none runAt
      | .ok (scheduleId, scheduledAt) =>
        return scheduledResult clock input .scheduled
          [("tool_run_id", .str (clock.uuidText toolRunId))] (some scheduleId) scheduledAt
  else
    return scheduledResult clock input .error
      [("message", .str ToolSchedulingError.schedulerUnavailable.message)] none runAt

def executeOneThread : ToolThread ToolRunResult :=
  match input.runAt with
  | some runAt => scheduleOneThread w tables clock hasScheduler context input runAt
  | none => executeImmediatelyThread w tables clock hasScheduler context input

/-- The operations that a step of `ToolExecutor` runs side by side. -/
def stepThreads (config : Fields) : List (ToolThread ToolRunResult) :=
  match stepInputs clock context config, maxConcurrency context.metadata with
  | .ok (inputs, precomputed), .ok _ =>
    (selectRetries context.state inputs precomputed).1.map
      (executeOneThread w tables clock hasScheduler context)
  | _, _ => []

end

variable {w : ToolWorld} {tables : ToolTables} {clock : ToolClock} {hasScheduler : Bool}
  {context : ToolContext}

section

theorem run_createToolRunThread (env body) :
    (createToolRunThread w tables env body).run = createToolRun w tables env body := by
  unfold createToolRunThread createToolRun assertBelowLimit getFlowRunIdForToolRun toolRunsOf
  simp only [run_bind, run_atomic, run_ofExcept, run_raiseIf, Thread.run_pure, bind_assoc]

variable (clock hasScheduler) in
theorem run_nodeExecuteThread (toolRunId : ℕ) : (nodeExecuteThread w tables toolRunId).run =
      (nodeBackend w tables clock hasScheduler).executeToolRun toolRunId := by
  unfold nodeExecuteThread
  simp only [run_bind, run_atomic, run_executeToolRunThread]
  rfl

variable (input : ToolRunInput)

theorem run_executeImmediatelyThread :
    (executeImmediatelyThread w tables clock hasScheduler context input).run =
      executeImmediately (nodeBackend w tables clock hasScheduler) clock context input := by
  unfold executeImmediatelyThread executeImmediately nodeCreateThread
  simp only [run_bind, run_atomic, run_attempt]
  refine bind_congr fun made => ?_
  cases made with
  | error err => rfl
  | ok toolRunId =>
    simp only [run_bind, run_attempt, run_nodeExecuteThread clock hasScheduler]
    refine bind_congr fun ran => ?_
    cases ran <;> rfl

theorem run_scheduleOneThread (runAt : ℤ) :
    (scheduleOneThread w tables clock hasScheduler context input runAt).run =
      scheduleOne (nodeBackend w tables clock hasScheduler) clock context input runAt := by
  unfold scheduleOneThread scheduleOne nodeCreateThread
  cases hasScheduler with
  | false => rfl
  | true =>
    simp only [if_true, run_bind, run_atomic, run_attempt]
    refine bind_congr fun made => ?_
    cases made with
    | error err => rfl
    | ok toolRunId =>
      simp only [run_bind, run_atomic, run_attempt]
      refine bind_congr fun scheduled => ?_
      cases scheduled <;> rfl

/-- **An operation that is not interrupted is the node's operation.** -/
theorem run_executeOneThread : (executeOneThread w tables clock hasScheduler context input).run =
      executeOne (nodeBackend w tables clock hasScheduler) clock context input := by
  unfold executeOneThread executeOne
  cases input.runAt with
  | none => exact run_executeImmediatelyThread input
  | some runAt => exact run_scheduleOneThread input runAt

end

/-! ## What a creation adds -/

section

variable {flowRunId : ℕ}

theorem toolRunsOf_update (st : ToolStore) (toolRunId status canonicalStatus output err) :
    toolRunsOf tables flowRunId
        (st.updateToolRunResult toolRunId status canonicalStatus output err) =
      toolRunsOf tables flowRunId st := by
  unfold toolRunsOf ToolStore.updateToolRunResult
  rw [List.countP_map]
  refine List.countP_congr fun toolRun _ => ?_
  unfold updateToolRunResult
  simp only [Function.comp_apply]
  split <;> rfl

theorem storeKeeps_toolRunsOf (n : ℕ) :
    StoreKeeps tables (fun st => toolRunsOf tables flowRunId st = n) fun _ => True :=
  ⟨fun st _ _ _ _ _ eq => (toolRunsOf_update st _ _ _ _ _).trans eq, fun _ _ eq _ =>
    eq, fun _ _ eq _ _ => eq⟩

def CreatesNone (tables : ToolTables) (flowRunId : ℕ) (write : ToolStore → ToolStore) : Prop :=
  ∀ store, toolRunsOf tables flowRunId (write store) ≤ toolRunsOf tables flowRunId store

variable {α : Type}

theorem createsNone {m : ToolM α}
    (keeps : ∀ n, Program.Keeps (fun st => toolRunsOf tables flowRunId st = n) m) :
    (atomic m).Steps (CreatesNone tables flowRunId) :=
  .atomic fun st => ((keeps (toolRunsOf tables flowRunId st)).after rfl).le

variable (point : ToolCall)

theorem markToolRun_createsNone (toolRunId status canonicalStatus output err) :
    (atomic (markToolRun w point toolRunId status canonicalStatus output err)).Steps
      (CreatesNone tables flowRunId) :=
  createsNone fun n => markToolRun_keeps (storeKeeps_toolRunsOf n) _ _ _ _ _ _

theorem call_createsNone : (atomic (call w point)).Steps (CreatesNone tables flowRunId) :=
  createsNone fun _ => call_keeps _

theorem getFlowContext_createsNone (runId) :
    (atomic (getFlowContext w tables runId)).Steps (CreatesNone tables flowRunId) :=
  createsNone fun _ => getFlowContext_keeps _ _

variable (toolRun : ToolRunRow)

theorem getFlowRunId_createsNone :
    (atomic (getFlowRunIdForToolRun w tables toolRun)).Steps (CreatesNone tables flowRunId) :=
  createsNone fun _ => getFlowRunIdForToolRun_reads _ _

theorem recordSuccessThread_createsNone (res : Value) :
    (recordSuccessThread w tables toolRun res).Steps (CreatesNone tables flowRunId) := by
  refine .andThen (.raiseIf _ _) fun _ => ?_
  refine .andThen (getFlowRunId_createsNone _) fun _ =>
    .andThen (getFlowContext_createsNone _) fun _ => ?_
  refine .andThen (markToolRun_createsNone _ _ _ _ _ _) fun _ => ?_
  refine .andThen (call_createsNone _) fun _ => ?_
  refine .andThen (createsNone fun _ => .bind (call_keeps _) fun _ => .raiseIf _ _) fun _ => ?_
  trivial

theorem recordFailureThread_createsNone (err : ServiceError) :
    (recordFailureThread w tables toolRun err).Steps (CreatesNone tables flowRunId) := by
  refine .andThen (getFlowRunId_createsNone _) fun _ =>
    .andThen (getFlowContext_createsNone _) fun _ => ?_
  -- after a validation failure, which is announced, or another one, the same writes follow
  refine .ite (.andThen (call_createsNone _) fun _ => ?_) ?_
  all_goals
    refine .andThen (markToolRun_createsNone _ _ _ _ _ _) fun _ => ?_
    exact .andThen (call_createsNone _) fun _ => .andThen (call_createsNone _) fun _ => trivial

theorem sendRequestThread_createsNone
    (runId secretRefs toolRun toolConfig method url headers timeoutSeconds) :
    (sendRequestThread w tables runId secretRefs toolRun toolConfig method url headers
      timeoutSeconds).Steps (CreatesNone tables flowRunId) := by
  unfold sendRequestThread
  -- with secrets or without, the same exchange follows
  refine .ite (.andThen (getFlowContext_createsNone _) fun _ =>
    .andThen (call_createsNone _) fun _ => ?_) ?_
  all_goals
    split
    · exact createsNone fun _ => .bind (.modify fun _ eq => eq) fun _ =>
        .bind (raised_keeps _) fun _ => .ite (.pure _) (.throw _)
    · trivial

theorem executeToolRunThread_createsNone (toolRunId : ℕ) :
    (executeToolRunThread w tables toolRunId).Steps (CreatesNone tables flowRunId) := by
  refine .andThen (createsNone fun _ => .bind (call_keeps _) fun _ => .bind .get fun _ =>
    .bind (.ofOption _ _) fun _ => .bind (.modify fun _ eq => eq) fun _ => .pure _)
    fun toolRun => ?_
  refine .andThen (createsNone fun _ => .bind (call_keeps _) fun _ => .ofOption _ _) fun _ => ?_
  refine .andThen (.ofExcept _) fun _ => .andThen (.ofExcept _) fun _ => ?_
  refine .andThen (getFlowRunId_createsNone _) fun _ => .andThen (call_createsNone _) fun _ => ?_
  refine .andThen (.ofExcept _) fun _ => .andThen (.ofExcept _) fun _ =>
    .andThen (.raiseIf _ _) fun _ => ?_
  refine .andThen (markToolRun_createsNone _ _ _ _ _ _) fun _ => ?_
  refine .andThen (sendRequestThread_createsNone _ _ _ _ _ _ _ _).attempt fun out => ?_
  cases out with
  | error err => exact recordFailureThread_createsNone toolRun err
  | ok res => exact recordSuccessThread_createsNone toolRun res

/-- However the store changes between its steps, the thread creates no more tool runs of the flow
run than it has credit for. -/
def Creates (tables : ToolTables) (flowRunId : ℕ) : ℕ → ToolThread α → Prop :=
  Thread.Pays (toolRunsOf tables flowRunId) (fun _ => True) fun _ => 0

variable (input : ToolRunInput)

theorem nodeCreateThread_creates :
    Creates tables flowRunId 1
      (nodeCreateThread w tables clock hasScheduler context input).attempt := by
  refine .attempt (fun _ => Nat.le_refl 0) (.atomic fun store => ?_)
  rcases nodeBackend_creates w tables clock hasScheduler store context input with
    ⟨raised, failed⟩ | ⟨toolRunId, toolRun, made, -⟩
  · rw [Program.after, failed]
    exact Nat.le_succ _
  · rw [Program.after, made]
    simp only [toolRunsOf, ToolStore.created, List.countP_append, List.countP_singleton]
    split <;> omega

theorem Creates.andThen {α β : Type} {t : ToolThread α} {k : α → ToolThread β} {credit : ℕ}
    (first : Creates tables flowRunId credit t)
    (next : ∀ val, (k val).Steps (CreatesNone tables flowRunId)) :
    Creates tables flowRunId credit (t >>= k) :=
  Thread.Pays.bind (fun _ => Nat.le_refl 0)
    (fun val => Thread.Steps.pays (fun _ => Nat.le_refl 0) (next val)) first

theorem executeImmediatelyThread_creates : Creates tables flowRunId 1
      (executeImmediatelyThread w tables clock hasScheduler context input) := by
  refine .andThen (nodeCreateThread_creates input) fun made => ?_
  cases made with
  | error err => trivial
  | ok toolRunId =>
    have executes : (nodeExecuteThread w tables toolRunId).Steps (CreatesNone tables flowRunId) :=
      .andThen (executeToolRunThread_createsNone _) fun _ => createsNone fun _ => .ofOption _ _
    refine .andThen executes.attempt fun ran => ?_
    cases ran <;> trivial

theorem scheduleOneThread_creates (runAt : ℤ) : Creates tables flowRunId 1
      (scheduleOneThread w tables clock hasScheduler context input runAt) := by
  unfold scheduleOneThread
  split
  · refine .andThen (nodeCreateThread_creates input) fun made => ?_
    cases made with
    | error err => trivial
    | ok toolRunId =>
      have schedules : (atomic (scheduleToolRun w clock context toolRunId runAt)).Steps
          (CreatesNone tables flowRunId) :=
        createsNone fun _ => .bind (call_keeps _) fun _ =>
          .bind (.modify fun _ eq => eq) fun _ => .pure _
      refine .andThen schedules.attempt fun scheduled => ?_
      cases scheduled <;> trivial
  · exact Nat.zero_le 1

/-- An operation creates at most one tool run, whatever happens beside it. -/
theorem executeOneThread_creates :
    Creates tables flowRunId 1 (executeOneThread w tables clock hasScheduler context input) := by
  unfold executeOneThread
  cases input.runAt with
  | none => exact executeImmediatelyThread_creates input
  | some runAt => exact scheduleOneThread_creates input runAt

end

/-! ## What a call of the API checks -/

section

variable {flowRunId limit : ℕ}

def StaysWithin (tables : ToolTables) (flowRunId limit : ℕ) (before after : ToolStore) : Prop :=
  toolRunsOf tables flowRunId before ≤ limit → toolRunsOf tables flowRunId after ≤ limit

def bodyCounts (tables : ToolTables) (flowRunId : ℕ) (body : ToolRunCreate) : Bool :=
  tables.countsFor flowRunId (newToolRun 0 body)

theorem toolRunsOf_created (st : ToolStore) (toolRunId body) :
    toolRunsOf tables flowRunId (st.created (newToolRun toolRunId body)) =
      toolRunsOf tables flowRunId st + if bodyCounts tables flowRunId body then 1 else 0 := by
  have eq : tables.countsFor flowRunId (newToolRun toolRunId body) =
      bodyCounts tables flowRunId body := rfl
  simp only [toolRunsOf, ToolStore.created, List.countP_append, List.countP_singleton, eq]

def Room (tables : ToolTables) (flowRunId limit : ℕ) (body : ToolRunCreate) (store : ToolStore) :
    Prop :=
  toolRunsOf tables flowRunId store ≤ limit ∧
    (bodyCounts tables flowRunId body = true → toolRunsOf tables flowRunId store < limit)

variable {body : ToolRunCreate}

theorem assertBelowLimit_room {nodeRun : NodeRunKey} {checked : ℕ} (within : checked ≤ limit)
    (own : bodyCounts tables flowRunId body = true → nodeRun.flowRunId = flowRunId) :
    Program.Triple (fun st => toolRunsOf tables flowRunId st ≤ limit)
      (assertBelowLimit tables checked nodeRun.flowRunId)
      (fun _ => Room tables flowRunId limit body)
      (fun st => toolRunsOf tables flowRunId st ≤ limit) := by
  refine .bind (Program.Triple.get (R := fun st after =>
    after = st ∧ toolRunsOf tables flowRunId after ≤ limit) fun _ before => ⟨rfl, before⟩)
    fun st => ?_
  refine .raiseIf (fun _ before _ => before.2) ?_
  rintro _ ⟨rfl, before⟩ below
  refine ⟨before, fun counts => ?_⟩
  rw [own counts] at below
  omega

theorem insertToolRun_within : Program.Triple (Room tables flowRunId limit body)
    (insertToolRun w tables body)
      (fun _ store => toolRunsOf tables flowRunId store ≤ limit)
      (fun store => toolRunsOf tables flowRunId store ≤ limit) := by
  intro store room
  rcases insertToolRun_outcome w tables store body with ⟨error, failed⟩ | ⟨-, inserted⟩
  · rw [failed]
    exact room.1
  · rw [inserted]
    show toolRunsOf tables flowRunId (store.created (newToolRun _ body)) ≤ limit
    rw [toolRunsOf_created]
    split
    · rename_i counts
      exact room.2 counts
    · exact room.1

/-- **A call of the API that is not disturbed keeps a limit it checks.** -/
theorem createToolRunThread_within (w : ToolWorld) {env : ApiEnvironment}
    (limits : ∀ checked, env.maxToolRuns = .ok checked → checked ≤ limit)
    (own : bodyCounts tables flowRunId body = true →
      ∀ nodeRun, parentNodeRun tables body = .ok nodeRun → nodeRun.flowRunId = flowRunId) :
    Thread.Ensures (StaysWithin tables flowRunId limit)
      (fun st => toolRunsOf tables flowRunId st ≤ limit)
      (createToolRunThread w tables env body)
      (fun _ st => toolRunsOf tables flowRunId st ≤ limit)
      (fun st => toolRunsOf tables flowRunId st ≤ limit) := by
  have refl (st : ToolStore) : StaysWithin tables flowRunId limit st st := fun eq => eq
  refine .bind (.ofExcept _ fun _ kept => kept) fun _ => ?_
  refine .bind (.raiseIf _ _ fun _ kept => kept) fun _ => ?_
  refine .bind (.raiseIf _ _ fun _ kept => kept) fun _ => ?_
  refine .bind_ofExcept (fun _ kept => kept) fun nodeRun parent => ?_
  refine .bind_ofExcept (fun _ kept => kept) fun checked known => ?_
  refine .bind (.atomic (assertBelowLimit_room (limits checked known)
    fun counts => own counts nodeRun parent) ?_) fun _ => ?_
  · intro st _
    have reads (I : ToolStore → Prop) :
        Program.Keeps I (assertBelowLimit tables checked nodeRun.flowRunId) :=
      .bind .get fun _ => .raiseIf _ _
    rw [show Program.after (assertBelowLimit tables checked nodeRun.flowRunId) st = st from
      (reads (· = st)).after rfl]
    exact refl st
  refine .bind (.reads refl (fun _ => .ofOption _ _) fun _ room => room.1) fun toolConfig => ?_
  refine .bind (.raiseIf _ _ fun _ room => room.1) fun _ => ?_
  refine .bind (.ofExcept _ fun _ room => room.1) fun _ => ?_
  refine .bind (.raiseIf _ _ fun _ room => room.1) fun _ => ?_
  refine .bind (.atomic insertToolRun_within fun st room _ =>
    insertToolRun_within.after room) fun toolRunId => ?_
  refine .bind (.reads refl (getFlowRunIdForToolRun_reads _) fun _ kept => kept) fun _ => ?_
  refine .bind (.raiseIf _ _ fun _ kept => kept) fun _ => ?_
  refine .bind (.reads refl (fun _ => call_keeps _) fun _ kept => kept) fun _ => ?_
  exact .done fun _ kept => kept

end

/-! ## The system -/

inductive Creation where
  | createToolRun (w : ToolWorld) (env : ApiEnvironment) (body : ToolRunCreate)
  | toolExecutorStep (w : ToolWorld) (clock : ToolClock) (hasScheduler : Bool)
      (context : ToolContext) (config : Fields)

def forget {α : Type} (t : ToolThread α) : ToolThread PUnit := do
  let _ ← t
  return ⟨⟩

variable (tables : ToolTables)

def Creation.threads : Creation → List (ToolThread PUnit)
  | .createToolRun w env body => [forget (createToolRunThread w tables env body)]
  | .toolExecutorStep w clock hasScheduler context config =>
    (stepThreads w tables clock hasScheduler context config).map forget

abbrev Creations := Pool ToolStore ServiceError PUnit Creation

def creationStep : Creations → Move Creation → Option Creations :=
  Interleaving.step (Creation.threads tables)

def Suits (flowRunId limit : ℕ) (store : ToolStore) : Creation → Prop
  | .createToolRun _ env body =>
    (∀ checked, env.maxToolRuns = .ok checked → checked ≤ limit) ∧
      (bodyCounts tables flowRunId body = true →
        ∀ nodeRun, parentNodeRun tables body = .ok nodeRun → nodeRun.flowRunId = flowRunId)
  | .toolExecutorStep w clock hasScheduler context config =>
    toolRunsOf tables flowRunId store +
      (stepThreads w tables clock hasScheduler context config).length ≤ limit

instance decidableForallOk {ε α : Type} {P : α → Prop} [DecidablePred P] :
    ∀ out : Except ε α, Decidable (∀ value, out = .ok value → P value)
  | .ok value => decidable_of_iff (P value) (by simp)
  | .error _ => isTrue nofun

instance (tables : ToolTables) (flowRunId limit : ℕ) (store : ToolStore) :
    ∀ creation, Decidable (Suits tables flowRunId limit store creation)
  | .createToolRun _ env body =>
    inferInstanceAs (Decidable ((∀ checked, env.maxToolRuns = .ok checked → checked ≤ limit) ∧
      (bodyCounts tables flowRunId body = true →
        ∀ nodeRun, parentNodeRun tables body = .ok nodeRun → nodeRun.flowRunId = flowRunId)))
  | .toolExecutorStep .. => inferInstanceAs (Decidable (_ ≤ _))

section

variable {tables : ToolTables} {flowRunId limit : ℕ} {pool after : Creations}

/-- Between the moves: what is running fits in, or it is a call of the API on its own. -/
def QuotaKept (tables : ToolTables) (flowRunId limit : ℕ) (pool : Creations) : Prop :=
  Interleaving.Solvent (toolRunsOf tables flowRunId) (fun _ _ => True) (fun _ _ => 0) limit pool ∨
    Interleaving.OneLawful (StaysWithin tables flowRunId limit) pool ∧
      toolRunsOf tables flowRunId pool.shared ≤ limit

theorem QuotaKept.bounded (kept : QuotaKept tables flowRunId limit pool) :
    toolRunsOf tables flowRunId pool.shared ≤ limit := by
  rcases kept with solvent | ⟨-, bounded⟩
  · exact solvent.bounded
  · exact bounded

theorem quotaKept_of_idle (idle : pool.running = [])
    (bounded : toolRunsOf tables flowRunId pool.shared ≤ limit) :
    Interleaving.Solvent (toolRunsOf tables flowRunId) (fun _ _ => True) (fun _ _ => 0)
      limit pool :=
  .of_idle idle (by simpa [Pool.outcomeWeight] using bounded)

theorem forget_creates {w : ToolWorld} {clock : ToolClock} {hasScheduler : Bool}
    {ctx : ToolContext} {cfg : Fields} {t : ToolThread PUnit}
    (mem : t ∈ (stepThreads w tables clock hasScheduler ctx cfg).map forget) :
    Creates tables flowRunId 1 t := by
  obtain ⟨op, inside, rfl⟩ := List.mem_map.mp mem
  unfold stepThreads at inside
  split at inside
  · obtain ⟨input, -, rfl⟩ := List.mem_map.mp inside
    exact (executeOneThread_creates input).andThen fun _ => trivial
  · cases inside

theorem quotaKept_start {label : Creation} (kept : QuotaKept tables flowRunId limit pool)
    (idle : pool.running = []) (suits : Suits tables flowRunId limit pool.shared label) :
    QuotaKept tables flowRunId limit
      ((label.threads tables).foldl (fun pool thread => pool.put label thread) pool) := by
  cases label with
  | createToolRun w env body =>
    right
    have within : Thread.Ensures (StaysWithin tables flowRunId limit)
        (fun st => toolRunsOf tables flowRunId st ≤ limit)
        (forget (createToolRunThread w tables env body)) (fun _ _ => True)
        (fun st => toolRunsOf tables flowRunId st ≤ limit) :=
      (createToolRunThread_within w suits.1 suits.2).bind fun _ => .done fun _ _ => trivial
    have obeys := within.obeys pool.shared kept.bounded
    refine ⟨Interleaving.oneLawful_put idle obeys, ?_⟩
    rw [Creation.threads, List.foldl_cons, List.foldl_nil, Pool.put_shared]
    exact kept.bounded
  | toolExecutorStep w clock hasScheduler ctx cfg =>
    left
    have start := quotaKept_of_idle idle (Nat.le_refl (toolRunsOf tables flowRunId pool.shared))
    have creates : ∀ t ∈ (stepThreads w tables clock hasScheduler ctx cfg).map forget,
        t.Pays (toolRunsOf tables flowRunId) (fun _ => True) (fun _ => 0) 1 :=
      fun _ mem => forget_creates mem
    obtain ⟨pays, within⟩ := start.putAll creates
    refine ⟨pays, within.trans ?_⟩
    rw [List.length_map, Nat.mul_one]
    exact suits

theorem step_quotaKept {move} (kept : QuotaKept tables flowRunId limit pool)
    (exclusive : Interleaving.Exclusive (Suits tables flowRunId limit) pool move)
    (ran : creationStep tables pool move = some after) :
    QuotaKept tables flowRunId limit after := by
  cases move with
  | start label =>
    cases ran
    exact quotaKept_start kept exclusive.1 exclusive.2
  | advance idx =>
    obtain ⟨label, write, next, found, rfl⟩ := Interleaving.step_advance ran
    rcases kept with solvent | ⟨lawful, bounded⟩
    · exact .inl (solvent.advance found trivial)
    · obtain ⟨ahead, stays⟩ := lawful.advance found
      refine .inr ⟨ahead, ?_⟩
      rw [Pool.advance_shared]
      exact stays bounded
  | drop idx =>
    obtain ⟨isIn, rfl⟩ := Interleaving.step_drop ran
    rcases kept with solvent | ⟨lawful, bounded⟩
    · exact .inl (solvent.drop isIn)
    · exact .inr ⟨lawful.drop isIn, bounded⟩

end

/-- **The limit is kept, as long as creations do not overlap, calls check the limit for the flow run
they add to, and no step has more operations than there is room for.** -/
theorem quota_kept_of_exclusive (tables : ToolTables) (flowRunId limit : ℕ) (pool : Creations)
    (idle : pool.running = []) (bounded : toolRunsOf tables flowRunId pool.shared ≤ limit)
    (moves : List (Move Creation))
    (exclusive : ∀ t ∈ trace (creationStep tables) pool moves,
      Interleaving.Exclusive (Suits tables flowRunId limit) t.before t.action) :
    ∀ t ∈ trace (creationStep tables) pool moves, toolRunsOf tables flowRunId t.after.shared
      ≤ limit := by
  refine LabelledSystem.trace_law (I := QuotaKept tables flowRunId limit)
    (G := Interleaving.Exclusive (Suits tables flowRunId limit)) ?_ ?_ moves pool
    (.inl (quotaKept_of_idle idle bounded)) exclusive
  · intro before move after kept exclusive performed
    exact step_quotaKept kept exclusive performed
  · intro before move after kept exclusive performed
    exact (step_quotaKept kept exclusive performed).bounded

def createWithin (maxToolRuns : ℕ) : Creation :=
  .createToolRun plainWorld
    { refused := none, billingPolicyVersionId := some 1, maxToolRuns := .ok maxToolRuns
      acquired := true }
    { toolConfigId := 50, agentRunId := none, nodeRunId := some 40, input := [] }

def executeOnePayment : Creation :=
  .toolExecutorStep plainWorld plainClock false (paymentsBy "own" ["op"]) []

def noCreations : Creations := { shared := noToolRuns, running := [], finished := [] }

/-- A creation, a step of `ToolExecutor` and another creation, one after another. -/
def threeCreations : List (Move Creation) :=
  [createWithin 2, executeOnePayment, createWithin 2].flatMap fun creation =>
    .start creation :: List.replicate 13 (.advance 0)

/-- The quota of two is kept: the third creation is refused. -/
theorem third_creation_refused :
    ((trace (creationStep twoTenantTools) noCreations threeCreations).getLast?.map fun t =>
        (t.after.finished.map fun done => done.2.toOption.isSome,
          toolRunsOf twoTenantTools 30 t.after.shared)) = some ([true, true, false], 2) ∧
      ∀ t ∈ trace (creationStep twoTenantTools) noCreations threeCreations,
        toolRunsOf twoTenantTools 30 t.after.shared ≤ 2 :=
  ⟨by decide +kernel, quota_kept_of_exclusive twoTenantTools 30 2 noCreations rfl (Nat.zero_le 2)
    threeCreations (by decide +kernel)⟩

/-- The quota of one is exceeded by a step of `ToolExecutor` that follows a call, and by two calls
that both count before either inserts. -/
theorem quota_exceeded : ((trace (creationStep twoTenantTools) noCreations
        (.start (createWithin 1) :: List.replicate 5 (.advance 0) ++
          [.start executeOnePayment, .advance 0])).getLast?.map fun t =>
        toolRunsOf twoTenantTools 30 t.after.shared) = some 2 ∧
      ((trace (creationStep twoTenantTools) noCreations
        (.start (createWithin 1) :: .start (createWithin 1) ::
          List.replicate 6 (.advance 0))).getLast?.map fun t =>
            toolRunsOf twoTenantTools 30 t.after.shared) = some 2 := by
  decide +kernel

end AgentOrchestration.Tools
