import AgentOrchestration.Execution.OriginIsolation
import AgentOrchestration.Temporal.TurnInputs

/-!
# Continuing from a waiting run

A new run that continues from a waiting one is handed the checkpoint of that run. In
process it is passed to the executor. The workflow engine is told the node to start at
only: `prepare_flow_run` seeds the checkpoint of the new run without the saved state and
memory.
-/

namespace AgentOrchestration.Execution

set_option autoImplicit false

open NodeStepRunner FlowRunActivities

/-! ## The first turn of a created run -/

/-- What executes a run. -/
inductive Engine where
  | inProcess
  | temporal
  deriving DecidableEq

/-- What the first turn of a run depends on besides the request: the nodes, the compiled plans, the
policy `create_flow_run` selects and the one the resolver gives `prepare_flow_run`. -/
structure TurnWorld where
  nodes : NodeWorld
  pyStr : Value → String
  planOf : ℕ → ExecutionPlan
  definition : Fields
  liveDefinition : Fields

variable (world : TurnWorld) (run : CreatedRun)

/-- `create_flow_run` from the dispatch on: the traversal of the new run. -/
def firstTurn : Engine → Traversal
  | .inProcess =>
    RuntimeExecutor.run world.nodes world.pyStr world.definition
      (world.planOf run.flowGraphSnapshotId) run.origin.startNodeId
      (run.origin.initialState.getD []) (run.origin.initialMemory.getD [])
      { nodeRuns := [], graphState := none }
  -- the dispatch request has a field for the start node, and none for state or memory
  | .temporal =>
    FlowRunWorkflow.run world.nodes world.liveDefinition (world.planOf run.flowGraphSnapshotId)
      run.origin.startNodeId { nodeRuns := [], graphState := none }

variable (saved : GraphStateSnapshot)

def Carried (traversal : Traversal) : Prop :=
  ∀ first ∈ traversal.store.inputs.head?,
    resumeNode saved = some first.nodeId ∧ first.state = saved.state ∧ first.memory = saved.memory

def seededState : Engine → Fields
  | .inProcess => mergeGate world.pyStr world.definition saved.state
  | .temporal =>
    (initialSnapshot world.liveDefinition (world.planOf run.flowGraphSnapshotId)
      (resumeNode saved)).state

def seededMemory : Engine → List Value
  | .inProcess => saved.memory
  | .temporal => []

def continuedNode : String := startNode (world.planOf run.flowGraphSnapshotId) (resumeNode saved)

def Enterable : Prop :=
  ∃ spec nodeType, entry world.nodes (world.planOf run.flowGraphSnapshotId)
    (continuedNode world run saved) = .enters spec nodeType

/-- What a new run takes over from a checkpoint. -/
def Origin.of (originId : ℕ) (saved : GraphStateSnapshot) : Origin :=
  { originFlowRunId := some originId, startNodeId := resumeNode saved
    initialState := some saved.state, initialMemory := some saved.memory }

theorem continueFrom_eq_ok {db : Database} {flowRunId originId : ℕ} {origin : Origin}
    (got : continueFrom db flowRunId = .ok origin)
    (continues : origin.originFlowRunId = some originId) :
    originId = flowRunId ∧ ∃ row saved, db.getGraphState flowRunId = some row ∧
      row.state = some saved ∧ origin = Origin.of flowRunId saved := by
  unfold continueFrom at got
  cases found : db.getFlowRun flowRunId with
  | none => simp [found] at got
  | some run =>
    by_cases waits : run.isWaiting = true
    · cases checkpoint : db.getGraphState flowRunId with
      | none =>
        simp only [found, waits, checkpoint, if_true, Except.ok.injEq] at got
        rw [← got] at continues
        cases continues
      | some row =>
        cases state : row.state with
        | none => simp [found, waits, checkpoint, state] at got
        | some saved =>
          simp only [found, waits, checkpoint, state, if_true, Except.ok.injEq] at got
          rw [← got] at continues
          exact ⟨(Option.some.inj continues).symm, row, saved, rfl, state, got.symm⟩
    · simp only [found, waits, Bool.false_eq_true, if_false, Except.ok.injEq] at got
      rw [← got] at continues
      cases continues

theorem origin_of_created {db : Database} {tenantId env req} {run : CreatedRun} {originId}
    {row : GraphStateRow} {saved} (made : (createFlowRun db tenantId env req).2 = .ok run)
    (continues : run.origin.originFlowRunId = some originId)
    (checkpoint : db.getGraphState originId = some row) (valid : row.state = some saved) :
    run.origin = Origin.of originId saved := by
  have got := (createFlowRun_ok_iff.mp made).origin
  unfold resolveOrigin at got
  cases named : originOf db req run.flowVersionId with
  | none =>
    simp only [named, Except.ok.injEq] at got
    rw [← got] at continues
    cases continues
  | some flowRunId =>
    simp only [named] at got
    obtain ⟨rfl, row', saved', checkpoint', valid', origin⟩ := continueFrom_eq_ok got continues
    cases checkpoint.symm.trans checkpoint'
    cases valid.symm.trans valid'
    exact origin

/-! ## When the checkpoint is carried over -/

def seededContext : Engine → ExecutionContext
  | .inProcess =>
    RuntimeExecutor.entryContext world.pyStr world.definition
      (world.planOf run.flowGraphSnapshotId) (resumeNode saved) saved.state saved.memory
  | .temporal =>
    contextOf (continuedNode world run saved)
      (initialSnapshot world.liveDefinition (world.planOf run.flowGraphSnapshotId)
        (resumeNode saved))

theorem head_inputs_firstTurn {run : CreatedRun} {originId saved}
    (origin : run.origin = Origin.of originId saved) (engine) :
    (firstTurn world run engine).store.inputs.head?
      = (entryInput world.nodes (world.planOf run.flowGraphSnapshotId)
          (seededContext world run saved engine)).head? := by
  cases engine with
  | inProcess =>
    simp only [firstTurn, origin, Origin.of, Option.getD_some]
    exact head_inputs_executorRun world.nodes _ _ _ world.pyStr _ _ rfl
  | temporal =>
    simp only [firstTurn, origin, Origin.of]
    exact head_inputs_workflowRun world.nodes _ _ _ rfl rfl

variable (engine : Engine)

theorem seededContext_currentNodeId :
    (seededContext world run saved engine).currentNodeId = continuedNode world run saved := by
  cases engine <;> rfl

theorem seededContext_state :
    (seededContext world run saved engine).state = seededState world run saved engine := by
  cases engine <;> rfl

theorem seededContext_memory :
    (seededContext world run saved engine).memory = seededMemory saved engine := by
  cases engine <;> rfl

/-- **When a continued run receives what was saved.** If its start node can be entered, this is the
resume node of the checkpoint, and the engine seeds the run with the state and memory saved there:
in process the state with the read gate merged in and the memory, in the workflow engine the read
gate alone and no memory. -/
theorem continuation_carried_iff (world : TurnWorld) {db : Database} {tenantId : ℕ}
    {env : RequestEnvironment} {req : FlowRunCreate} {run : CreatedRun} {originId : ℕ}
    {row : GraphStateRow} {saved : GraphStateSnapshot}
    (created : (createFlowRun db tenantId env req).2 = .ok run)
    (continues : run.origin.originFlowRunId = some originId)
    (checkpoint : db.getGraphState originId = some row) (valid : row.state = some saved)
    (engine : Engine) :
    Carried saved (firstTurn world run engine)
      ↔ (Enterable world run saved → resumeNode saved = some (continuedNode world run saved) ∧
          seededState world run saved engine = saved.state ∧
          seededMemory saved engine = saved.memory) := by
  have origin := origin_of_created created continues checkpoint valid
  rw [Carried, head_inputs_firstTurn world origin engine, forall_entryInput_iff]
  simp only [nodeInput, stamp, seededContext_currentNodeId, seededContext_state,
    seededContext_memory, Enterable, forall_exists_index]

/-- A flow that starts at `s` and asks at `a`, without a policy. -/
def askingWorld : TurnWorld :=
  { nodes := blandWorld
    pyStr := fun _ => ""
    planOf := fun _ =>
      { startNodeId := "s"
        orderedNodes := ["s", "a"]
        adjacencyMap := [("s", [⟨"s", "a", .normal, [], 0⟩])]
        terminalNodes := ["a"]
        nodes :=
          [("s", { type := some "ContentModeration", resumeToNodeId := none }),
           ("a", { type := some "HumanFallback", resumeToNodeId := none })] }
    definition := []
    liveDefinition := [] }

/-- The checkpoint of user `u`'s waiting run. -/
def askedSnapshot : GraphStateSnapshot :=
  { currentNodeId := some "a", resumeToNodeId := none, state := [("topic", .str "mine")]
    memory := [], metadata := [] }

theorem continuation_in_process : (createFlowRun twoTenants 1 plainEnvironment (requestFrom 30)).2
        = .ok (createdFrom 30 "a" "mine") ∧
      (firstTurn askingWorld (createdFrom 30 "a" "mine") .inProcess).store.executedNodes = ["a"] ∧
      Carried askedSnapshot (firstTurn askingWorld (createdFrom 30 "a" "mine") .inProcess) := by
  have created : (createFlowRun twoTenants 1 plainEnvironment (requestFrom 30)).2
      = .ok (createdFrom 30 "a" "mine") := rfl
  have checkpoint : twoTenants.getGraphState 30 = some ⟨30, some askedSnapshot⟩ := rfl
  exact ⟨created, by decide, (continuation_carried_iff askingWorld created rfl checkpoint rfl
    .inProcess).mpr
      fun _ => ⟨rfl, rfl, rfl⟩⟩

/-- Dispatched to the workflow engine, the run starts at the resume node with an empty state. -/
theorem continuation_state_lost : (createFlowRun twoTenants 1 plainEnvironment (requestFrom 30)).2
        = .ok (createdFrom 30 "a" "mine") ∧
      ((firstTurn askingWorld (createdFrom 30 "a" "mine") .temporal).store.inputs.map
        fun input => (input.nodeId, input.state)) = [("a", [])] ∧
      ¬ Carried askedSnapshot (firstTurn askingWorld (createdFrom 30 "a" "mine") .temporal) := by
  refine ⟨rfl, by decide, fun carried => ?_⟩
  exact absurd (carried _ rfl).2.1 (by decide)

end AgentOrchestration.Execution
