import AgentOrchestration.Value

/-!
# Execution plans and the data of a node step

The plan a compiled flow graph executes, the context handed from node to
node, what a node returns, and the two tables a step writes: node runs and
the checkpoint of the run.
-/

namespace AgentOrchestration

set_option autoImplicit false

/-! ## Enumerations -/

inductive NodeType where
  | contentModeration
  | contextSummarizer
  | intentClassifier
  | toolInputFiller
  | queryClarifier
  | toolResolver
  | toolExecutor
  | toolErrorHandlerNode
  | responseBuilder
  | humanFallback
  | memoryCommitNode
  deriving DecidableEq, Repr

namespace NodeType

def name : NodeType → String
  | contentModeration => "ContentModeration"
  | contextSummarizer => "ContextSummarizer"
  | intentClassifier => "IntentClassifier"
  | toolInputFiller => "ToolInputFiller"
  | queryClarifier => "QueryClarifier"
  | toolResolver => "ToolResolver"
  | toolExecutor => "ToolExecutor"
  | toolErrorHandlerNode => "ToolErrorHandlerNode"
  | responseBuilder => "ResponseBuilder"
  | humanFallback => "HumanFallback"
  | memoryCommitNode => "MemoryCommitNode"

def all : List NodeType :=
  [contentModeration, contextSummarizer, intentClassifier, toolInputFiller, queryClarifier,
    toolResolver, toolExecutor, toolErrorHandlerNode, responseBuilder, humanFallback,
    memoryCommitNode]

/-- `NodeRegistry.resolve`: the node class registered under a name. -/
def resolve (name : Option String) : Option NodeType := all.find? fun t => name = some t.name

def terminalNodeTypes : List String := ["ResponseBuilder", "HumanFallback"]

theorem name_of_resolve {name : Option String} {t : NodeType} (found : resolve name = some t) :
    name = some t.name := by
  simpa using List.find?_some found

end NodeType

inductive EdgeKind where
  | normal
  | loop
  deriving DecidableEq, Repr

inductive NodeExecutionStatus where
  | success
  | error
  | needsInput
  deriving DecidableEq, Repr

/-- `NodeRunStatus`, as far as a step writes it. -/
inductive NodeRunStatus where
  | running
  | completed
  | failed
  | pending
  deriving DecidableEq, Repr

inductive FlowFailureReason where
  | policyViolation
  | timeout
  | structuralError
  | circuitBreakerOpen
  | missingGraph
  | maxStepsExceeded
  | nodeNotFound
  | unknownNodeType
  | noMatchingEdge
  | edgeEvaluationError
  | multipleMatchingEdges
  deriving DecidableEq, Repr

/-! ## Plans -/

/-- `CompiledEdge`: its condition is the serialized form, which is always a list. -/
structure CompiledEdge where
  fromNode : String
  toNode : String
  edgeKind : EdgeKind
  compiledCondition : List Value
  order : ℕ
  deriving DecidableEq

def CompiledEdge.loopKey (edge : CompiledEdge) : String := edge.fromNode ++ "->" ++ edge.toNode

/-- The entries of a node of the snapshot that the runtime reads: its type, and the
`resume_to_node_id` of its configuration. -/
structure NodeSpec where
  type : Option String
  resumeToNodeId : Option String
  deriving DecidableEq

structure ExecutionPlan where
  startNodeId : String
  orderedNodes : List String
  adjacencyMap : List (String × List CompiledEdge)
  terminalNodes : List String
  nodes : List (String × NodeSpec)
  deriving DecidableEq

variable (plan : ExecutionPlan) (nodeId : String)

/-- `plan.adjacency_map.get(node_id, [])`. -/
def ExecutionPlan.edgesFrom : List CompiledEdge := (plan.adjacencyMap.lookup nodeId).getD []

/-- Whether the plan has a node of that id whose type is `HumanFallback`. -/
def ExecutionPlan.isHumanFallback : Bool :=
  match plan.nodes.lookup nodeId with
  | some spec => spec.type = some NodeType.humanFallback.name
  | none => false

/-! ## Contexts and results -/

/-- The fields of `ExecutionContext` that change from step to step. -/
structure ExecutionContext where
  currentNodeId : String
  state : Fields
  memory : List Value
  metadata : Fields
  nodeOutput : Fields
  iterationCounters : List (String × ℕ)

/-- `NodeResult`, without its error and metrics, which only events carry. -/
structure NodeResult where
  status : NodeExecutionStatus
  data : Fields
  nextState : Option Fields
  memory : Option (List Value)

/-- What a node can read when it is executed. -/
structure NodeInput where
  nodeId : String
  state : Fields
  memory : List Value
  metadata : Fields
  deriving DecidableEq

/-! ## The tables a step writes -/

structure NodeRunRow where
  input : NodeInput
  status : NodeRunStatus
  output : Option NodeResult

/-- `GraphStateSnapshot`: the checkpoint of a run. -/
structure GraphStateSnapshot where
  currentNodeId : Option String
  resumeToNodeId : Option String
  state : Fields
  memory : List Value
  metadata : Fields
  deriving DecidableEq

/-- The node runs of one flow run, oldest first, and its checkpoint. -/
structure RunStore where
  nodeRuns : List NodeRunRow
  graphState : Option GraphStateSnapshot

namespace RunStore

variable (store : RunStore)

/-- `create_node_run`: the id of the new row is its position. -/
def createNodeRun (input : NodeInput) : RunStore :=
  { store with nodeRuns := store.nodeRuns ++ [{ input, status := .running, output := none }] }

def updateNodeRunResult (nodeRunId : ℕ) (result : NodeResult) (status : NodeRunStatus) : RunStore :=
  { store with
    nodeRuns := store.nodeRuns.modify nodeRunId fun row =>
      { row with status := status, output := some result } }

def upsertGraphState (snapshot : GraphStateSnapshot) : RunStore :=
  { store with graphState := some snapshot }

def inputs : List NodeInput := store.nodeRuns.map NodeRunRow.input

def executedNodes : List String := store.inputs.map NodeInput.nodeId

variable (store : RunStore) (input : NodeInput)

@[simp] theorem inputs_upsertGraphState (snap : GraphStateSnapshot) :
    (store.upsertGraphState snap).inputs = store.inputs := rfl

/-- The row a step creates and completes is the last one, with the result it was given. -/
theorem nodeRuns_create_update (res status) :
    ((store.createNodeRun input).updateNodeRunResult store.nodeRuns.length res
      status).nodeRuns = store.nodeRuns ++ [{ input, status, output := some res }] := by
  simp [createNodeRun, updateNodeRunResult, List.modify_eq_set_getElem?]

end RunStore

end AgentOrchestration
