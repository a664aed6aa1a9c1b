import AgentOrchestration.GraphRuntime.RuntimeExecutor

/-!
# The durable engine

`FlowRunWorkflow.run` drives the same plan through activities. Each
`executeNode` rebuilds the context from the checkpoint and starts with empty
loop counters; the workflow recounts the loop edges of every step itself.
-/

namespace AgentOrchestration

set_option autoImplicit false

/-! ## Activities -/

namespace FlowRunActivities

/-- The status literal of `ExecuteNodeOutput`. -/
inductive NodeStatus where
  | success
  | error
  | needsInput
  deriving DecidableEq, Repr

structure ExecuteNodeOutput where
  nodeType : String
  nodeRunId : Option ℕ
  status : NodeStatus
  terminal : Bool := false
  nextNodeId : Option String := none
  loopEdgeKeys : List String := []
  failureReason : Option FlowFailureReason := none
  resumeToNodeId : Option String := none

variable (definition : Fields) (plan : ExecutionPlan) (startNodeId : Option String)

/-- The checkpoint `prepare_flow_run` writes when the run has none. -/
def initialSnapshot :
    GraphStateSnapshot :=
  { currentNodeId := some (startNode plan startNodeId)
    resumeToNodeId := none
    state :=
      match userContextPolicy definition with
      | none => []
      | some policy =>
        OrderedDict.set [] userContextKey <|
          .dict [("enabled", .bool true), ("published", .bool false),
           ("published_by_node_id", .null), ("published_at", .null), ("layers", .dict []),
           ("mode", .str (gateMode policy))]
    memory := []
    metadata := initialMetadata definition }

variable (store : RunStore)

/-- `prepare_flow_run`, as far as it writes the checkpoint: one that exists is left alone. -/
def prepareFlowRun : RunStore :=
  match store.graphState with
  | some _ => store
  | none => store.upsertGraphState (initialSnapshot definition plan startNodeId)

/-- The context `execute_node` rebuilds from the checkpoint. -/
def contextOf (nodeId : String) (snapshot : GraphStateSnapshot) : ExecutionContext :=
  { currentNodeId := nodeId, state := snapshot.state, memory := snapshot.memory,
    metadata := snapshot.metadata, nodeOutput := [], iterationCounters := [] }

/-- The output of `execute_node` for a step outcome. -/
def outputOf (outcome : NodeStepOutcome) : ExecuteNodeOutput :=
  match outcome.status with
  | .failed =>
    { nodeType := outcome.nodeType.getD "", nodeRunId := outcome.nodeRunId, status := .error
      loopEdgeKeys := outcome.loopEdgeKeys
      failureReason := some (outcome.failureReason.getD .structuralError) }
  | .needsInput =>
    { nodeType := outcome.nodeType.getD "", nodeRunId := outcome.nodeRunId
      status := .needsInput, resumeToNodeId := outcome.resumeToNodeId }
  | .terminal =>
    { nodeType := outcome.nodeType.getD "", nodeRunId := outcome.nodeRunId
      status := .success, terminal := true }
  | .advance =>
    { nodeType := outcome.nodeType.getD "", nodeRunId := outcome.nodeRunId
      status := .success, nextNodeId := outcome.nextNodeId
      loopEdgeKeys := outcome.loopEdgeKeys }

/-- `execute_node`; no output when the activity fails. -/
def executeNode (w : NodeWorld) (plan : ExecutionPlan) (loopLimit : ℕ) (nodeId : String)
    (store : RunStore) : Option ExecuteNodeOutput × RunStore :=
  match store.graphState with
  | none => (none, store)
  | some snapshot =>
    let run := NodeStepRunner.runStep w plan loopLimit (contextOf nodeId snapshot) [] store
    (run.outcome.map outputOf, run.store)

/-- `_last_node_output`: the data of the node run's result. -/
def lastNodeOutput (nodeRunId : Option ℕ) : Fields :=
  match nodeRunId.bind fun id => store.nodeRuns[id]? with
  | some row => (row.output.map NodeResult.data).getD []
  | none => []

/-- `finalize_flow_run`: what it writes to the run. -/
def finalizeFlowRun (outcome : FlowOutcome) (failureReason : Option FlowFailureReason)
    (lastNodeRunId : Option ℕ) (store : RunStore) : Traversal :=
  { ending := some <|
      match outcome with
      | .failed => .failed failureReason
      | _ =>
        { outcome, failureReason := none, output := some (lastNodeOutput store lastNodeRunId) }
    store }

end FlowRunActivities

/-! ## The workflow -/

namespace FlowRunWorkflow

open FlowRunActivities

/-- The state of the loop of `FlowRunWorkflow.run`. -/
structure Config where
  currentNodeId : String
  counters : List (String × ℕ)
  store : RunStore

def afterNode (loopLimit : ℕ) (config : Config) (output : ExecuteNodeOutput)
    (store : RunStore) : BoundedRun.Outcome Config Traversal :=
  match Tally.recount loopLimit config.counters output.loopEdgeKeys with
  | none => .stopped (finalizeFlowRun .failed (some .edgeEvaluationError) output.nodeRunId store)
  | some counters =>
    if output.status = .needsInput then
      .stopped (finalizeFlowRun .waiting none output.nodeRunId store)
    else if output.terminal then
      .stopped (finalizeFlowRun .completed none output.nodeRunId store)
    else
      match output.status, output.nextNodeId with
      | .success, some next => .running { currentNodeId := next, counters, store }
      | _, _ =>
        .stopped (finalizeFlowRun .failed (some (output.failureReason.getD .structuralError))
            output.nodeRunId store)

variable (w : NodeWorld) (plan : ExecutionPlan)

/-- One iteration of the loop of `FlowRunWorkflow.run`. -/
def step (loopLimit : ℕ) (config : Config) : BoundedRun.Outcome Config Traversal :=
  match executeNode w plan loopLimit config.currentNodeId config.store with
  | (none, store) => .stopped { ending := none, store }
  | (some output, store) => afterNode loopLimit config output store

/-- The loop of `FlowRunWorkflow.run` and the failure after it. -/
def traverse (loopLimit steps : ℕ) (config : Config) :
    Traversal :=
  match BoundedRun.runFor (step w plan loopLimit) steps config with
  | .running last => finalizeFlowRun .failed (some .maxStepsExceeded) none last.store
  | .stopped traversal => traversal

def run (definition : Fields) (plan : ExecutionPlan) (startNodeId : Option String)
    (store : RunStore) : Traversal :=
  let loopLimit := loopLimitOf definition
  traverse w plan loopLimit (maxSteps plan loopLimit)
    { currentNodeId := startNode plan startNodeId
      counters := []
      store := prepareFlowRun definition plan startNodeId store }

/-- One iteration in a world that changes from step to step. -/
def stepIn (worlds : ℕ → NodeWorld) (plan : ExecutionPlan) (loopLimit : ℕ) (state : ℕ × Config) :
    BoundedRun.Outcome (ℕ × Config) Traversal :=
  match step (worlds state.1) plan loopLimit state.2 with
  | .running next => .running (state.1 + 1, next)
  | .stopped traversal => .stopped traversal

/-- `FlowRunWorkflow.run` in a world that changes from step to step. -/
def runIn (worlds : ℕ → NodeWorld) (definition : Fields) (plan : ExecutionPlan)
    (startNodeId : Option String) (store : RunStore) : Traversal :=
  let loopLimit := loopLimitOf definition
  ended (fun state => state.2.store) <|
    BoundedRun.runFor (stepIn worlds plan loopLimit) (maxSteps plan loopLimit)
      (0, { currentNodeId := startNode plan startNodeId, counters := []
            store := prepareFlowRun definition plan startNodeId store })

/-- In a world that stays the same it is `FlowRunWorkflow.run`. -/
theorem runIn_const (w definition plan startNodeId store) :
    runIn (fun _ => w) definition plan startNodeId store =
      run w definition plan startNodeId store := by
  have traversed (loopLimit steps : ℕ) (cfg : Config) : traverse w plan loopLimit steps cfg =
      ended Config.store (BoundedRun.runFor (step w plan loopLimit) steps cfg) := by
    unfold traverse
    cases BoundedRun.runFor _ steps cfg <;> rfl
  simp only [runIn, run, traversed]
  refine ended_eq_of_related (R := fun (state : ℕ × Config) cfg => state.2 = cfg)
    (fun _ _ eq => congrArg _ eq) (BoundedRun.runFor_lockstep ?_ _ _ _ rfl)
  rintro ⟨count, cfg⟩ _ rfl
  unfold stepIn
  cases step w plan (loopLimitOf definition) cfg with
  | running next => exact .running rfl
  | stopped traversal => exact .stopped rfl

end FlowRunWorkflow

end AgentOrchestration
