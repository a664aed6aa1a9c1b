import AgentOrchestration.GraphRuntime.ExecutionPlan

/-!
# One node step

`NodeStepRunner.runStep` executes a single node and decides the next one. Both
engines share it: the in-process executor threads the context it returns, and
the durable workflow rebuilds the context from the checkpoint it wrote.

What the step depends on and this development does not fix is collected in
`NodeWorld`: which node classes can be constructed, which node ids are UUIDs,
what a node computes and how an edge condition evaluates.
-/

namespace AgentOrchestration

set_option autoImplicit false

open Tally (tick bump recount)

/-- What lies outside the step: the node classes, the node behaviours and the edge evaluator. -/
structure NodeWorld where
  /-- Whether the constructor of a node class returns. -/
  constructs : NodeType → Bool
  /-- Whether `UUID(node_id)` returns. -/
  isUuid : String → Bool
  /-- What a node computes; `none` when it raises. -/
  execute : NodeInput → Option NodeResult
  /-- `EdgeEvaluator.is_true`; `none` when it raises. -/
  isTrue : List Value → Fields → Option Bool

/-! ## Fallback reasons -/

/-- `SLAFallbackReason`, as far as the resolver returns it. -/
inductive SLAFallbackReason where
  | lowConfidence
  | toolFailure
  | policyBlock
  | unknownIntent
  deriving DecidableEq, Repr

def SLAFallbackReason.value : SLAFallbackReason → String
  | lowConfidence => "LOW_CONFIDENCE"
  | toolFailure => "TOOL_FAILURE"
  | policyBlock => "POLICY_BLOCK"
  | unknownIntent => "UNKNOWN_INTENT"

/-- `_has_intent`: the first result names a non-blank intent type. -/
def hasIntent (nodeOutput : Fields) : Bool :=
  match nodeOutput.lookup "result" with
  | some (.list (.dict first :: _)) =>
    match first.lookup "intent_type" with
    | some (.str intent) => strip intent ≠ []
    | _ => false
  | _ => false

def resolveFallbackReason (sourceNodeType : NodeType) (nodeOutput : Fields) : SLAFallbackReason :=
  match sourceNodeType with
  | .contentModeration => .policyBlock
  | .toolErrorHandlerNode => .toolFailure
  | .toolExecutor => .toolFailure
  | .intentClassifier => if hasIntent nodeOutput then .lowConfidence else .unknownIntent
  | _ => .lowConfidence

/-! ## State keys -/

def nodeOutputsByNodeIdKey : String := "_node_outputs_by_node_id"

def currentNodeTypeKey : String := "current_node_type"

/-- `FALLBACK_SOURCE_NODE_METADATA_KEY`. -/
def fallbackSourceNodeKey : String := "fallback_source_node"

/-- `FALLBACK_REASON_METADATA_KEY`. -/
def fallbackReasonKey : String := "fallback_reason"

/-! ## Outcomes -/

inductive NodeStepStatus where
  | advance
  | terminal
  | needsInput
  | failed
  deriving DecidableEq, Repr

structure NodeStepOutcome where
  status : NodeStepStatus
  nodeType : Option String := none
  nodeRunId : Option ℕ := none
  nodeData : Fields := []
  context : ExecutionContext
  nextNodeId : Option String := none
  resumeToNodeId : Option String := none
  loopEdgeKeys : List String := []
  failureReason : Option FlowFailureReason := none

/-- The effect of a step: its outcome, `none` when an exception leaves `run_step`; the counters
it was handed, which it mutates; and the tables after it. -/
structure StepRun where
  outcome : Option NodeStepOutcome
  counters : List (String × ℕ)
  store : RunStore

/-! ## Edges -/

/-- The two ways `_evaluate_edges` raises. -/
inductive EdgeFault where
  | loopIterationLimitExceeded
  | evaluationError
  deriving DecidableEq, Repr

/-- The result of `_evaluate_edges`, with the counters and the list of loop keys it fills. -/
structure EdgeEvaluation where
  counters : List (String × ℕ)
  loopEdgeKeys : List String
  matching : Except EdgeFault (List String)

/-- `EdgeEvaluator.is_true` on one edge, then the edges after it. -/
def EdgeEvaluation.afterCondition (verdict : Option Bool) (toNode : String)
    (counters : List (String × ℕ)) (rest : EdgeEvaluation) : EdgeEvaluation :=
  match verdict with
  | none => { counters, loopEdgeKeys := [], matching := .error .evaluationError }
  | some true => { rest with matching := rest.matching.map (toNode :: ·) }
  | some false => rest

/-- `_evaluate_edges`: conditions are evaluated in order, a loop edge being counted first. -/
def evaluateEdges (w : NodeWorld) (loopLimit : ℕ) (currentNodeId : String) (nodeOutput : Fields) :
    List CompiledEdge → List (String × ℕ) → EdgeEvaluation
  | [], counters => { counters, loopEdgeKeys := [], matching := .ok [] }
  | edge :: rest, counters =>
    if edge.fromNode ≠ currentNodeId then
      evaluateEdges w loopLimit currentNodeId nodeOutput rest counters
    else if edge.edgeKind = .loop then
      match tick loopLimit counters edge.loopKey with
      | none =>
        { counters := bump counters edge.loopKey
          loopEdgeKeys := [edge.loopKey]
          matching := .error .loopIterationLimitExceeded }
      | some counted =>
        let evaluated :=
          EdgeEvaluation.afterCondition (w.isTrue edge.compiledCondition nodeOutput) edge.toNode
            counted (evaluateEdges w loopLimit currentNodeId nodeOutput rest counted)
        { evaluated with loopEdgeKeys := edge.loopKey :: evaluated.loopEdgeKeys }
    else
      EdgeEvaluation.afterCondition (w.isTrue edge.compiledCondition nodeOutput) edge.toNode
        counters (evaluateEdges w loopLimit currentNodeId nodeOutput rest counters)

/-! ## Counting during and after the evaluation -/

/-- How an evaluation against cumulative counters and one against smaller counters compare: either
the first ran into the limit, and recounting the loop keys of the second does too, or both decide
the same and the recount yields the counters of the first. -/
inductive EdgesAgree (loopLimit : ℕ) (counters : List (String × ℕ)) (full fresh : EdgeEvaluation) :
    Prop where
  | exceeded (fault : full.matching = .error .loopIterationLimitExceeded)
      (recounted : recount loopLimit counters fresh.loopEdgeKeys = none)
  | same (matching : fresh.matching = full.matching)
      (recounted : recount loopLimit counters fresh.loopEdgeKeys = some full.counters)

theorem EdgesAgree.afterCondition {loopLimit counters full fresh}
    (agree : EdgesAgree loopLimit counters full fresh) (verdict toNode other) :
    EdgesAgree loopLimit counters (EdgeEvaluation.afterCondition verdict toNode counters full)
      (EdgeEvaluation.afterCondition verdict toNode other fresh) := by
  cases verdict with
  | none => exact .same rfl rfl
  | some holds =>
    cases agree with
    | exceeded fault recounted =>
      cases holds with
      | false => exact .exceeded fault recounted
      | true => exact .exceeded (by simp [EdgeEvaluation.afterCondition, fault]; rfl) recounted
    | same matching recounted =>
      cases holds with
      | false => exact .same matching recounted
      | true =>
        exact .same (by simp only [EdgeEvaluation.afterCondition, matching]) recounted

variable {loopLimit : ℕ} {counters : List (String × ℕ)}

theorem EdgesAgree.cons {key full fresh} (room : Tally.count counters key < loopLimit)
    (agree : EdgesAgree loopLimit (bump counters key) full fresh) :
    EdgesAgree loopLimit counters { full with loopEdgeKeys := key :: full.loopEdgeKeys }
      { fresh with loopEdgeKeys := key :: fresh.loopEdgeKeys } := by
  have ticked : tick loopLimit counters key = some (bump counters key) :=
    Tally.tick_eq_some_iff.mpr ⟨room, rfl⟩
  cases agree with
  | exceeded fault recounted =>
    exact .exceeded fault (by simpa [recount, ticked] using recounted)
  | same matching recounted =>
    exact .same matching (by simpa [recount, ticked] using recounted)

variable (w : NodeWorld)

/-- **Counting while evaluating, or recounting afterwards, decides the same.** -/
theorem evaluateEdges_agree (loopLimit currentNodeId nodeOutput) :
    ∀ (edges : List CompiledEdge) (counters smaller : List (String × ℕ)),
    Tally.Below smaller counters →
    EdgesAgree loopLimit counters
      (evaluateEdges w loopLimit currentNodeId nodeOutput edges counters)
      (evaluateEdges w loopLimit currentNodeId nodeOutput edges smaller) := by
  intro edges
  induction edges with
  | nil => exact fun counters smaller _ => .same rfl rfl
  | cons edge rest ih =>
    intro counters smaller below
    rw [evaluateEdges, evaluateEdges]
    by_cases foreign : edge.fromNode ≠ currentNodeId
    · rw [if_pos foreign, if_pos foreign]
      exact ih counters smaller below
    rw [if_neg foreign, if_neg foreign]
    by_cases loop : edge.edgeKind = .loop
    · rw [if_pos loop, if_pos loop]
      by_cases room : Tally.count counters edge.loopKey < loopLimit
      · have roomBelow := lt_of_le_of_lt (below edge.loopKey) room
        rw [Tally.tick_eq_some_iff.mpr ⟨room, rfl⟩, Tally.tick_eq_some_iff.mpr ⟨roomBelow, rfl⟩]
        exact ((ih _ _ (below.bump edge.loopKey)).afterCondition _ _ _).cons room
      · -- the cumulative counter is exhausted; whatever the smaller one does, its first key is
        -- the one the recount stops at
        have spent : tick loopLimit counters edge.loopKey = none :=
          Tally.tick_eq_none_iff.mpr (Nat.le_of_not_lt room)
        rw [spent]
        refine .exceeded rfl ?_
        cases tick loopLimit smaller edge.loopKey <;>
          simp [recount, spent]
    · rw [if_neg loop, if_neg loop]
      exact (ih counters smaller below).afterCondition _ _ _

/-! ## The step -/

namespace NodeStepRunner

def mapStatus : NodeExecutionStatus → NodeRunStatus
  | .success => .completed
  | .error => .failed
  | .needsInput => .pending

/-- The state after a node: what it returned, or the state it was given when it returned nothing,
with its output recorded under its id. `none` where `dict(...)` raises. -/
def nextState (context : ExecutionContext) (result : NodeResult) : Option Fields :=
  let base := match result.nextState with
    | some (entry :: rest) => entry :: rest
    | _ => context.state
  let recorded := match base.lookup nodeOutputsByNodeIdKey with
    | some outputs => if outputs.truthy then outputs.toDict? else some []
    | none => some []
  recorded.map fun outputs =>
    OrderedDict.set base nodeOutputsByNodeIdKey <| .dict <|
      if context.currentNodeId = "" then outputs
      else OrderedDict.set outputs context.currentNodeId (.dict result.data)

variable (context : ExecutionContext)

def nextMemory (result : NodeResult) : List Value := result.memory.getD context.memory

/-- `config.get("resume_to_node_id") or context.current_node_id`. -/
def resumeTarget (spec : NodeSpec) (currentNodeId : String) : String :=
  match spec.resumeToNodeId with
  | some target => if target = "" then currentNodeId else target
  | none => currentNodeId

variable (plan : ExecutionPlan) (nodeType : NodeType)

def metadataInto (context : ExecutionContext) (data : Fields) (nextNodeId : String) : Fields :=
  if plan.isHumanFallback nextNodeId then
    OrderedDict.set
      (OrderedDict.set context.metadata fallbackSourceNodeKey (.str context.currentNodeId))
      fallbackReasonKey (.str (resolveFallbackReason nodeType data).value)
  else context.metadata

def route : Except EdgeFault (List String) → Except FlowFailureReason String
  | .error _ => .error .edgeEvaluationError
  | .ok [] => .error .noMatchingEdge
  | .ok [next] => .ok next
  | .ok (_ :: _ :: _) => .error .multipleMatchingEdges

/-- The outcome of a step once the edges of its node have been evaluated. -/
def routeOutcome (nodeRunId : ℕ) (context : ExecutionContext) (result : NodeResult) (state : Fields)
    (evaluation : EdgeEvaluation) : NodeStepOutcome :=
  match route evaluation.matching with
  | .error reason =>
    { status := .failed, nodeType := some nodeType.name, nodeRunId := some nodeRunId,
      nodeData := result.data, context, loopEdgeKeys := evaluation.loopEdgeKeys,
      failureReason := some reason }
  | .ok next =>
    { status := .advance, nodeType := some nodeType.name, nodeRunId := some nodeRunId,
      nodeData := result.data
      context :=
        { context with
          currentNodeId := next
          state := state
          memory := nextMemory context result
          metadata := metadataInto plan nodeType context result.data next
          nodeOutput := result.data }
      nextNodeId := some next, loopEdgeKeys := evaluation.loopEdgeKeys }

def settle (loopLimit : ℕ) (spec : NodeSpec) (nodeType : NodeType) (nodeRunId : ℕ)
    (context : ExecutionContext) (result : NodeResult) (counters : List (String × ℕ))
    (store : RunStore) : StepRun :=
  match nextState context result with
  | none => { outcome := none, counters, store }
  | some state =>
    let resumeToNodeId :=
      if result.status = .needsInput then some (resumeTarget spec context.currentNodeId)
      else none
    let store := store.upsertGraphState
      { currentNodeId := some context.currentNodeId, resumeToNodeId, state
        memory := nextMemory context result, metadata := context.metadata }
    if result.status = .needsInput then
      { outcome := some
          { status := .needsInput, nodeType := some nodeType.name, nodeRunId := some nodeRunId,
            nodeData := result.data, context, resumeToNodeId }
        counters, store }
    else if nodeType.name ∈ NodeType.terminalNodeTypes then
      { outcome := some
          { status := .terminal, nodeType := some nodeType.name, nodeRunId := some nodeRunId,
            nodeData := result.data, context }
        counters, store }
    else
      let evaluation := evaluateEdges w loopLimit context.currentNodeId result.data
        (plan.edgesFrom context.currentNodeId) counters
      { outcome := some (routeOutcome plan nodeType nodeRunId context result state evaluation)
        counters := evaluation.counters, store }

def nodeInput : NodeInput :=
  { nodeId := context.currentNodeId, state := context.state, memory := context.memory,
    metadata := context.metadata }

/-- The context with the type of the node it enters written into its metadata. -/
def stamp : ExecutionContext :=
  { context with
    metadata := OrderedDict.set context.metadata currentNodeTypeKey (.str nodeType.name) }

/-- What the checks before the node run is created come to. -/
inductive Entry where
  /-- The step fails; the type it had resolved by then has been stamped on the context. -/
  | refused (nodeType : Option String) (resolved : Option NodeType) (reason : FlowFailureReason)
  /-- `UUID(node_id)` raises. -/
  | raises
  | enters (spec : NodeSpec) (nodeType : NodeType)

/-- The checks of `run_step` before the node run is created, in order. -/
def entry (nodeId : String) : Entry :=
  match plan.nodes.lookup nodeId with
  | none => .refused none none .nodeNotFound
  | some spec =>
    match NodeType.resolve spec.type with
    | none => .refused spec.type none .unknownNodeType
    | some nodeType =>
      if w.constructs nodeType = false then .refused spec.type (some nodeType) .structuralError
      else if w.isUuid nodeId = false then .raises
      else .enters spec nodeType

def enterNode (loopLimit : ℕ) (spec : NodeSpec) (nodeType : NodeType) (context : ExecutionContext)
    (counters : List (String × ℕ)) (store : RunStore) : StepRun :=
  let nodeRunId := store.nodeRuns.length
  let store := store.createNodeRun (nodeInput context)
  match w.execute (nodeInput context) with
  | none =>
    { outcome := some
        { status := .failed, nodeType := some nodeType.name, nodeRunId := some nodeRunId
          context, failureReason := some .structuralError }
      counters, store }
  | some result =>
    let context :=
        { context with nodeOutput := result.data }
    settle w plan loopLimit spec nodeType nodeRunId context result counters
      (store.updateNodeRunResult nodeRunId result (mapStatus result.status))

def runStep (loopLimit : ℕ) (context : ExecutionContext) (counters : List (String × ℕ))
    (store : RunStore) : StepRun :=
  match entry w plan context.currentNodeId with
  | .refused nodeType resolved reason =>
    { outcome := some
        { status := .failed, nodeType, context := (resolved.map (stamp context)).getD context
          failureReason := some reason }
      counters, store }
  | .raises => { outcome := none, counters, store }
  | .enters spec nodeType =>
    enterNode w plan loopLimit spec nodeType (stamp context nodeType) counters store

/-! ## What a step does -/

variable (context : ExecutionContext) (nodeType : NodeType) {w : NodeWorld} {plan : ExecutionPlan}

@[simp] theorem stamp_currentNodeId :
    (stamp context nodeType).currentNodeId = context.currentNodeId := rfl

@[simp] theorem stamp_state : (stamp context nodeType).state = context.state := rfl

@[simp] theorem stamp_memory : (stamp context nodeType).memory = context.memory := rfl

theorem type_of_entry {nodeId : String} {spec : NodeSpec} {nodeType : NodeType}
    (enters : entry w plan nodeId = .enters spec nodeType) :
    plan.nodes.lookup nodeId = some spec ∧ spec.type = some nodeType.name := by
  unfold entry at enters
  cases specFound : plan.nodes.lookup nodeId with
  | none => simp [specFound] at enters
  | some found =>
    cases typeFound : NodeType.resolve found.type with
    | none => simp [specFound, typeFound] at enters
    | some foundType =>
      simp only [specFound, typeFound] at enters
      split at enters
      · cases enters
      · split at enters
        · cases enters
        · cases enters
          exact ⟨rfl, NodeType.name_of_resolve typeFound⟩

theorem nodeRuns_settle (w plan loopLimit spec nodeType nodeRunId ctx res counters)
    (st : RunStore) :
    (settle w plan loopLimit spec nodeType nodeRunId ctx res counters st).store.nodeRuns =
      st.nodeRuns := by
  unfold settle
  cases nextState ctx res with
  | none => rfl
  | some state =>
    dsimp only
    split
    · rfl
    · split <;> rfl

section

variable (w : NodeWorld) (plan : ExecutionPlan) (loopLimit : ℕ) (context : ExecutionContext)
  (counters : List (String × ℕ)) (store : RunStore)

/-- The node run a step leaves: what its node returned, or nothing if it raised. -/
theorem nodeRuns_enterNode (spec nodeType) :
    (enterNode w plan loopLimit spec nodeType context counters store).store.nodeRuns =
      store.nodeRuns ++
        [{ input := nodeInput context
           status := (w.execute (nodeInput context)).elim .running fun res =>
             mapStatus res.status
           output := w.execute (nodeInput context) }] := by
  unfold enterNode
  cases w.execute (nodeInput context) with
  | none => rfl
  | some res => simp only [nodeRuns_settle, RunStore.nodeRuns_create_update, Option.elim_some]

def entryInput (w : NodeWorld) (plan : ExecutionPlan) (context : ExecutionContext) :
    List NodeInput :=
  match entry w plan context.currentNodeId with
  | .enters _ nodeType => [nodeInput (stamp context nodeType)]
  | _ => []

theorem inputs_runStep : (runStep w plan loopLimit context counters store).store.inputs =
      store.inputs ++ entryInput w plan context := by
  unfold runStep entryInput
  cases entry w plan context.currentNodeId with
  | refused nodeType got reason | raises => simp
  | enters spec nodeType => simp [RunStore.inputs, nodeRuns_enterNode]

/-! ## Closed node runs -/

/-- `RunLifecycleStateMachine.node_transitions`, without `SKIPPED`, which no step writes. -/
def nodeTransitions : NodeRunStatus → List NodeRunStatus
  | .pending => [.running]
  | .running => [.completed, .failed]
  | .completed => []
  | .failed => []

/-- **The node run of a step is closed along the table exactly if its node returns and does not ask
for input.** -/
theorem node_run_closed_iff :
    (∀ row ∈ (runStep w plan loopLimit context counters store).store.nodeRuns.drop
        store.nodeRuns.length, row.status ≠ .running ∧ row.status ∈ nodeTransitions .running) ↔
      ∀ input ∈ entryInput w plan context, ∃ result ∈ w.execute input,
        result.status ≠ .needsInput := by
  unfold runStep entryInput
  cases entry w plan context.currentNodeId with
  | refused nodeType resolved reason | raises => simp
  | enters spec nodeType =>
    rw [nodeRuns_enterNode, List.drop_left]
    cases executed : w.execute (nodeInput (stamp context nodeType)) with
    | none => simp [executed]
    | some result =>
      obtain ⟨status, data, nextState, memory⟩ := result
      cases status <;> simp [executed, mapStatus, nodeTransitions]

end

def soloPlan : ExecutionPlan :=
  { startNodeId := "ask", orderedNodes := ["ask"], adjacencyMap := []
    terminalNodes := ["ask"], nodes := [("ask", ⟨some "ResponseBuilder", none⟩)] }

def soloStatuses (returned : Option NodeResult) : List NodeRunStatus :=
  (runStep ⟨fun _ => true, fun _ => true, fun _ => returned, fun _ _ => none⟩ soloPlan 1
    ⟨"ask", [], [], [], [], []⟩ [] ⟨[], none⟩).store.nodeRuns.map NodeRunRow.status

/-- The node run of a node that raises stays `RUNNING`; that of a node that asks for input becomes
`PENDING`, which is not allowed. -/
theorem node_runs_left_open : soloStatuses none = [.running] ∧
      soloStatuses (some ⟨.needsInput, [], none, none⟩) = [.pending] ∧
      NodeRunStatus.pending ∉ nodeTransitions .running := by
  decide +kernel

/-! ## Steps that advance -/

/-- What a step that advances has done, once its node has returned `data`; `context` is the
context the node was executed with. -/
structure Routed (w : NodeWorld) (plan : ExecutionPlan) (loopLimit : ℕ)
    (context : ExecutionContext) (counters : List (String × ℕ)) (run : StepRun)
    (outcome : NodeStepOutcome) (nodeType : NodeType) (data : Fields) (next : String) : Prop where
  notTerminal : nodeType.name ∉ NodeType.terminalNodeTypes
  matching : (evaluateEdges w loopLimit context.currentNodeId data
    (plan.edgesFrom context.currentNodeId) counters).matching = .ok [next]
  counters_eq : run.counters = (evaluateEdges w loopLimit context.currentNodeId data
    (plan.edgesFrom context.currentNodeId) counters).counters
  nextNodeId : outcome.nextNodeId = some next
  metadata : outcome.context.metadata = metadataInto plan nodeType context data next
  checkpoint : run.store.graphState = some
    { currentNodeId := some context.currentNodeId, resumeToNodeId := none
      state := outcome.context.state, memory := outcome.context.memory
      metadata := context.metadata }

theorem matching_of_route {matching next} (routed : route matching = .ok next) :
    matching = .ok [next] := by
  match matching with
  | .error _ => cases routed
  | .ok [] => cases routed
  | .ok [only] =>
    cases routed
    rfl
  | .ok (_ :: _ :: _) => cases routed

theorem routeOutcome_advance {nodeType nodeRunId ctx res st} {evaluation : EdgeEvaluation}
    (advances : (routeOutcome plan nodeType nodeRunId ctx res st evaluation).status = .advance) :
    ∃ next, route evaluation.matching = .ok next := by
  unfold routeOutcome at advances
  cases routed : route evaluation.matching with
  | error reason =>
    simp only [routed] at advances
    cases advances
  | ok next => exact ⟨next, rfl⟩

variable {store : RunStore} {outcome : NodeStepOutcome}

theorem settle_advance {spec nodeType nodeRunId ctx} {res : NodeResult}
    (gave : (settle w plan loopLimit spec nodeType nodeRunId ctx res counters
      store).outcome = some outcome) (advances : outcome.status = .advance) :
    ∃ next, Routed w plan loopLimit ctx counters
      (settle w plan loopLimit spec nodeType nodeRunId ctx res counters store) outcome
      nodeType res.data next := by
  unfold settle at gave ⊢
  cases settled : nextState ctx res with
  | none =>
    simp only [settled] at gave
    cases gave
  | some st =>
    simp only [settled] at gave ⊢
    by_cases waits : res.status = .needsInput
    · simp only [waits, if_true, Option.some.injEq] at gave
      subst gave
      cases advances
    by_cases terminal : nodeType.name ∈ NodeType.terminalNodeTypes
    · simp only [waits, terminal, if_true, if_false, Option.some.injEq] at gave
      subst gave
      cases advances
    simp only [waits, terminal, if_false, Option.some.injEq] at gave ⊢
    subst gave
    obtain ⟨next, found⟩ := routeOutcome_advance advances
    refine ⟨next, terminal, matching_of_route found, rfl, ?_, ?_, ?_⟩ <;>
      simp only [routeOutcome, found]
    rfl

theorem runStep_advance {ctx : ExecutionContext}
    (gave : (runStep w plan loopLimit ctx counters store).outcome = some outcome)
    (advances : outcome.status = .advance) :
    ∃ spec nodeType result next, entry w plan ctx.currentNodeId = .enters spec nodeType ∧
      w.execute (nodeInput (stamp ctx nodeType)) = some result ∧
      Routed w plan loopLimit (stamp ctx nodeType) counters
        (runStep w plan loopLimit ctx counters store) outcome nodeType result.data next := by
  unfold runStep at gave ⊢
  cases enters : entry w plan ctx.currentNodeId with
  | refused nodeType got reason =>
    simp only [enters, Option.some.injEq] at gave
    subst gave
    cases advances
  | raises =>
    simp only [enters] at gave
    cases gave
  | enters spec nodeType =>
    simp only [enters] at gave ⊢
    unfold enterNode at gave ⊢
    cases executed : w.execute (nodeInput (stamp ctx nodeType)) with
    | none =>
      simp only [executed, Option.some.injEq] at gave
      subst gave
      cases advances
    | some result =>
      simp only [executed] at gave ⊢
      obtain ⟨next, routed⟩ := settle_advance gave advances
      exact ⟨spec, nodeType, result, next, rfl, executed, routed.notTerminal, routed.matching,
        routed.counters_eq, routed.nextNodeId, routed.metadata, routed.checkpoint⟩

/-! ## Steps that fail -/

/-- The run has missed a node, or run out of steps. -/
def Astray (reason : Option FlowFailureReason) : Prop :=
  reason = some .nodeNotFound ∨ reason = some .maxStepsExceeded

/-- At a node of the plan a step does not fail for want of a node, or of steps. -/
theorem not_astray_of_runStep {ctx : ExecutionContext}
    (known : ctx.currentNodeId ∈ plan.nodes.map Prod.fst)
    (gave : (runStep w plan loopLimit ctx counters store).outcome = some outcome) :
    ¬ Astray outcome.failureReason := by
  unfold runStep at gave
  cases enters : entry w plan ctx.currentNodeId with
  | refused nodeType resolved reason =>
    rw [enters] at gave
    cases gave
    have found : plan.nodes.lookup ctx.currentNodeId ≠ none := by
      simpa [List.lookup_eq_none_iff] using known
    unfold entry at enters
    grind [Astray]
  | raises =>
    rw [enters] at gave
    cases gave
  | enters spec nodeType =>
    simp only [enters] at gave
    unfold enterNode settle routeOutcome route at gave
    grind [Astray]

end NodeStepRunner

end AgentOrchestration
