import AgentOrchestration.Temporal.FlowRunWorkflow
import AgentOrchestration.GraphRuntime.Termination

/-!
# The two engines agree on control flow

The in-process executor and the durable workflow walk the same plan in
lockstep. A position of the one corresponds to a position of the other when
they are at the same node with the same counters, and the checkpoint holds the
state and memory of the in-process context (`Lockstep`).
-/

namespace AgentOrchestration

set_option autoImplicit false

open NodeStepRunner FlowRunActivities
open NodeStepRunner (stamp)
open FlowRunWorkflow (afterNode)

/-! ## One step in both engines -/

structure SameView (left right : ExecutionContext) : Prop where
  nodeId : left.currentNodeId = right.currentNodeId
  state : left.state = right.state
  memory : left.memory = right.memory

/-- How the step of the in-process engine compares with that of the durable one, whose counters
are recounted afterwards. -/
inductive StepsAgree (loopLimit : ℕ) (counters : List (String × ℕ)) (left right : StepRun) :
    Prop where
  | raised (leftRaised : left.outcome = none) (rightRaised : right.outcome = none)
  | exceeded {ours theirs : NodeStepOutcome} (leftReturned : left.outcome = some ours)
      (rightReturned : right.outcome = some theirs) (failed : ours.status = .failed)
      (reason : ours.failureReason = some .edgeEvaluationError)
      (routed : theirs.status = .failed ∨ theirs.status = .advance)
      (recounted : Tally.recount loopLimit counters theirs.loopEdgeKeys = none)
  | failed {ours theirs : NodeStepOutcome} (leftReturned : left.outcome = some ours)
      (rightReturned : right.outcome = some theirs) (oursFailed : ours.status = .failed)
      (theirsFailed : theirs.status = .failed)
      (reason : ∃ why, ours.failureReason = some why ∧ theirs.failureReason = some why)
      (recounted : ∃ after, Tally.recount loopLimit counters theirs.loopEdgeKeys = some after)
  | ended {ours theirs : NodeStepOutcome} (leftReturned : left.outcome = some ours)
      (rightReturned : right.outcome = some theirs) (status : ours.status = theirs.status)
      (final : ours.status = .needsInput ∨ ours.status = .terminal)
      (output : lastNodeOutput right.store theirs.nodeRunId = ours.nodeData)
  | advanced {ours theirs : NodeStepOutcome} (next : String)
      (leftReturned : left.outcome = some ours) (rightReturned : right.outcome = some theirs)
      (oursAdvance : ours.status = .advance) (theirsAdvance : theirs.status = .advance)
      (oursNext : ours.nextNodeId = some next) (theirsNext : theirs.nextNodeId = some next)
      (state : ours.context.state = theirs.context.state)
      (memory : ours.context.memory = theirs.context.memory)
      (recounted : Tally.recount loopLimit counters theirs.loopEdgeKeys = some left.counters)

variable (w : NodeWorld) (plan : ExecutionPlan) (loopLimit : ℕ) {left right : ExecutionContext}

theorem nextState_congr (view : SameView left right) (res : NodeResult) :
    nextState left res = nextState right res := by
  unfold nextState
  rw [view.nodeId, view.state]

theorem nextMemory_congr (view : SameView left right) (res : NodeResult) :
    nextMemory left res = nextMemory right res := by
  unfold nextMemory
  rw [view.memory]

theorem SameView.stamp {left right} (view : SameView left right) (nodeType) :
    SameView (stamp left nodeType) (stamp right nodeType) :=
  ⟨view.nodeId, view.state, view.memory⟩

/-- After the node, the in-process engine counts while it evaluates the edges and the durable
one recounts. -/
theorem settle_agree (view : SameView left right) (spec nodeType nodeRunId) (res : NodeResult)
    (counters leftStore rightStore) (row : lastNodeOutput rightStore (some nodeRunId) = res.data) :
    StepsAgree loopLimit counters
      (settle w plan loopLimit spec nodeType nodeRunId left res counters leftStore)
      (settle w plan loopLimit spec nodeType nodeRunId right res [] rightStore) := by
  unfold settle
  rw [nextState_congr view res, nextMemory_congr view res]
  cases nextState right res with
  | none => exact .raised rfl rfl
  | some st =>
    dsimp only
    by_cases waits : res.status = .needsInput
    · rw [if_pos waits, if_pos waits, if_pos waits, if_pos waits]
      exact .ended rfl rfl rfl (.inl rfl) row
    rw [if_neg waits, if_neg waits, if_neg waits, if_neg waits]
    by_cases terminal : nodeType.name ∈ NodeType.terminalNodeTypes
    · rw [if_pos terminal, if_pos terminal]
      exact .ended rfl rfl rfl (.inr rfl) row
    rw [if_neg terminal, if_neg terminal, view.nodeId]
    have agree := evaluateEdges_agree w loopLimit right.currentNodeId res.data
      (plan.edgesFrom right.currentNodeId) counters [] (Tally.Below.empty counters)
    generalize evaluateEdges w loopLimit right.currentNodeId res.data
      (plan.edgesFrom right.currentNodeId) counters = full at agree
    generalize evaluateEdges w loopLimit right.currentNodeId res.data
      (plan.edgesFrom right.currentNodeId) [] = fresh at agree
    cases agree with
    | exceeded fault recounted =>
      refine .exceeded rfl rfl ?_ ?_ ?_ ?_
      · simp only [routeOutcome, fault, route]
      · simp only [routeOutcome, fault, route]
      · unfold routeOutcome
        split <;> simp
      · unfold routeOutcome
        split <;> exact recounted
    | same matching recounted =>
      cases routed : route full.matching with
      | error reason =>
        refine .failed rfl rfl ?_ ?_ ⟨reason, ?_, ?_⟩ ⟨full.counters, ?_⟩ <;>
          simp only [routeOutcome, matching, routed]
        exact recounted
      | ok next =>
        refine .advanced next rfl rfl ?_ ?_ ?_ ?_ ?_ ?_ ?_ <;>
          simp only [routeOutcome, matching, routed]
        · exact nextMemory_congr view res
        · exact recounted

/-- Executing a node whose behaviour does not tell the two contexts apart. -/
theorem enterNode_agree (view : SameView left right)
    (behaves : w.execute (nodeInput left) = w.execute (nodeInput right)) (spec nodeType counters)
    (leftStore rightStore : RunStore)
    (rows : leftStore.nodeRuns.length = rightStore.nodeRuns.length) :
    StepsAgree loopLimit counters (enterNode w plan loopLimit spec nodeType left counters leftStore)
      (enterNode w plan loopLimit spec nodeType right [] rightStore) := by
  unfold enterNode
  rw [behaves, rows]
  cases w.execute (nodeInput right) with
  | none => exact .failed rfl rfl rfl rfl ⟨_, rfl, rfl⟩ ⟨counters, rfl⟩
  | some res =>
    have viewAfter : SameView { left with nodeOutput := res.data }
        { right with nodeOutput := res.data } := ⟨view.nodeId, view.state, view.memory⟩
    refine settle_agree w plan loopLimit viewAfter spec nodeType _ res counters _ _ ?_
    simp [lastNodeOutput, RunStore.nodeRuns_create_update]

/-- **One step of the two engines agrees**, when the node behaves the same in both. -/
theorem runStep_agree (view : SameView left right)
    (behaves : ∀ nodeType, w.execute (nodeInput (stamp left nodeType)) =
      w.execute (nodeInput (stamp right nodeType))) (counters) (leftStore rightStore : RunStore)
    (rows : leftStore.nodeRuns.length = rightStore.nodeRuns.length) :
    StepsAgree loopLimit counters (runStep w plan loopLimit left counters leftStore)
      (runStep w plan loopLimit right [] rightStore) := by
  unfold runStep
  rw [view.nodeId]
  cases entry w plan right.currentNodeId with
  | refused nodeType got reason =>
    exact .failed rfl rfl rfl rfl ⟨reason, rfl, rfl⟩ ⟨counters, rfl⟩
  | raises => exact .raised rfl rfl
  | enters spec nodeType =>
    exact enterNode_agree w plan loopLimit (view.stamp nodeType) (behaves nodeType) spec
      nodeType counters leftStore rightStore rows

/-! ## The two loops in lockstep -/

/-- Corresponding positions of the two loops: same node, same counters, the same nodes executed
so far, and a checkpoint that holds the state and memory of the in-process context. -/
structure Lockstep (left : RuntimeExecutor.Config) (right : FlowRunWorkflow.Config)
    (snapshot : GraphStateSnapshot) : Prop where
  nodeId : left.context.currentNodeId = right.currentNodeId
  counters : left.context.iterationCounters = right.counters
  checkpoint : right.store.graphState = some snapshot
  state : left.context.state = snapshot.state
  memory : left.context.memory = snapshot.memory
  executed : left.store.executedNodes = right.store.executedNodes

/-- The context the durable engine rebuilds at a position. -/
def rebuilt (right : FlowRunWorkflow.Config) (snapshot : GraphStateSnapshot) : ExecutionContext :=
  contextOf right.currentNodeId snapshot

variable {snapshot : GraphStateSnapshot}

theorem Lockstep.view {left right} (lock : Lockstep left right snapshot) :
    SameView left.context (rebuilt right snapshot) :=
  ⟨lock.nodeId, lock.state, lock.memory⟩

theorem Lockstep.rows {left right} (lock : Lockstep left right snapshot) :
    left.store.nodeRuns.length = right.store.nodeRuns.length := by
  simpa [RunStore.executedNodes, RunStore.inputs] using congrArg List.length lock.executed

theorem executedNodes_runStep (view : SameView left right) (leftCounters rightCounters)
    {leftStore rightStore} (ran : leftStore.executedNodes = rightStore.executedNodes) :
    (runStep w plan loopLimit left leftCounters leftStore).store.executedNodes =
      (runStep w plan loopLimit right rightCounters rightStore).store.executedNodes := by
  unfold RunStore.executedNodes at ran ⊢
  rw [inputs_runStep, inputs_runStep, List.map_append, List.map_append, ran]
  unfold entryInput
  rw [view.nodeId]
  cases entry w plan right.currentNodeId with
  | refused nodeType got reason | raises => rfl
  | enters spec nodeType => simp [nodeInput, view.nodeId]

/-- The ends of two traversals agree: outcome, failure reason, output and executed nodes. -/
def SameEnd (left right : Traversal) : Prop :=
  left.ending = right.ending ∧ left.store.executedNodes = right.store.executedNodes

/-- An iteration of the durable loop, with the activity written out. -/
theorem workflowStep_eq {cfg} (checkpoint : cfg.store.graphState = some snapshot) :
    FlowRunWorkflow.step w plan loopLimit cfg =
      let run := runStep w plan loopLimit (rebuilt cfg snapshot) [] cfg.store
      match run.outcome with
      | none => .stopped { ending := none, store := run.store }
      | some out => afterNode loopLimit cfg (outputOf out) run.store := by
  unfold FlowRunWorkflow.step executeNode
  simp only [checkpoint, rebuilt]
  cases (runStep w plan loopLimit (contextOf cfg.currentNodeId snapshot) [] cfg.store).outcome <;>
    rfl

theorem step_agree {left right} (lock : Lockstep left right snapshot)
    (behaves : ∀ nodeType, w.execute (nodeInput (stamp left.context nodeType)) =
      w.execute (nodeInput (stamp (rebuilt right snapshot) nodeType))) :
    BoundedRun.Outcome.Related (fun left' right' => ∃ next, Lockstep left' right' next) SameEnd
      (RuntimeExecutor.step w plan loopLimit left)
        (FlowRunWorkflow.step w plan loopLimit right) := by
  have agree := runStep_agree w plan loopLimit lock.view behaves right.counters left.store
    right.store lock.rows
  have ran := executedNodes_runStep w plan loopLimit lock.view right.counters [] lock.executed
  have written : ∀ {out : NodeStepOutcome},
      (runStep w plan loopLimit (rebuilt right snapshot) [] right.store).outcome = some out →
      out.status = .advance → ∃ next : GraphStateSnapshot,
        (runStep w plan loopLimit (rebuilt right snapshot) [] right.store).store.graphState =
          some next ∧ next.state = out.context.state ∧
          next.memory = out.context.memory := by
    intro out gave advances
    obtain ⟨_, _, _, _, _, _, routed⟩ := runStep_advance gave advances
    exact ⟨_, routed.checkpoint, rfl, rfl⟩
  unfold RuntimeExecutor.step
  rw [workflowStep_eq w plan loopLimit lock.checkpoint, lock.counters]
  generalize runStep w plan loopLimit left.context right.counters left.store = ours at agree ran
  generalize runStep w plan loopLimit (rebuilt right snapshot) [] right.store =
    theirs at agree ran written
  cases agree with
  | raised leftRaised rightRaised =>
    simp only [leftRaised, rightRaised]
    exact .stopped ⟨rfl, ran⟩
  | exceeded leftReturned rightReturned failed reason routed recounted =>
    simp only [leftReturned, rightReturned, failed, reason]
    unfold afterNode outputOf
    rcases routed with theirsFailed | theirsAdvance
    · simp only [theirsFailed, recounted]
      exact .stopped ⟨rfl, ran⟩
    · simp only [theirsAdvance, recounted]
      exact .stopped ⟨rfl, ran⟩
  | failed leftReturned rightReturned oursFailed theirsFailed reason recounted =>
    obtain ⟨why, oursReason, theirsReason⟩ := reason
    obtain ⟨after, recounted⟩ := recounted
    simp only [leftReturned, rightReturned, oursFailed, oursReason]
    unfold afterNode outputOf
    simp only [theirsFailed, theirsReason, recounted]
    exact .stopped ⟨rfl, ran⟩
  | ended leftReturned rightReturned status final output =>
    simp only [leftReturned, rightReturned]
    unfold afterNode outputOf finalizeFlowRun
    rcases final with waits | terminal
    · simp only [waits, ← status, Tally.recount, output, if_true]
      exact .stopped ⟨rfl, ran⟩
    · simp only [terminal, ← status, Tally.recount, output]
      exact .stopped ⟨rfl, ran⟩
  | advanced next leftReturned rightReturned oursAdvance theirsAdvance oursNext theirsNext state
      memory recounted =>
      obtain ⟨after, stored, afterState, afterMemory⟩ := written rightReturned theirsAdvance
      simp only [leftReturned, rightReturned, oursAdvance, oursNext]
      unfold afterNode outputOf
      simp only [theirsAdvance, theirsNext, recounted]
      exact .running ⟨after, rfl, rfl, stored, state.trans afterState.symm,
        memory.trans afterMemory.symm, ran⟩

/-! ## Whole traversals -/

/-- The world whose nodes compute a function of their id, state and memory. -/
def NodeWorld.withBehaviour (w : NodeWorld)
    (behaviour : String → Fields → List Value → Option NodeResult) : NodeWorld :=
  { w with execute := fun input => behaviour input.nodeId input.state input.memory }

/-- Such a node does not tell apart two contexts with the same view. -/
theorem NodeWorld.withBehaviour_congr (w : NodeWorld) (behaviour) (view : SameView left right)
    (nodeType) :
    (w.withBehaviour behaviour).execute (nodeInput (stamp left nodeType)) =
      (w.withBehaviour behaviour).execute (nodeInput (stamp right nodeType)) := by
  simp only [withBehaviour, nodeInput, stamp_currentNodeId, stamp_state, stamp_memory, view.nodeId,
    view.state, view.memory]

theorem traverse_agree (behaviour steps) {left right} (lock : Lockstep left right snapshot) :
    SameEnd (RuntimeExecutor.traverse (w.withBehaviour behaviour) plan loopLimit steps left)
      (FlowRunWorkflow.traverse (w.withBehaviour behaviour) plan loopLimit steps right) := by
  have related := BoundedRun.runFor_lockstep
    (fun _ _ (corresponding : ∃ snapshot, Lockstep _ _ snapshot) =>
      step_agree (w.withBehaviour behaviour) plan loopLimit corresponding.choose_spec
        (w.withBehaviour_congr behaviour corresponding.choose_spec.view))
    steps left right ⟨snapshot, lock⟩
  unfold RuntimeExecutor.traverse FlowRunWorkflow.traverse
  generalize BoundedRun.runFor (RuntimeExecutor.step (w.withBehaviour behaviour) plan loopLimit)
    steps left = ours at related
  generalize BoundedRun.runFor (FlowRunWorkflow.step (w.withBehaviour behaviour) plan loopLimit)
    steps right = theirs at related
  cases related with
  | running corresponding =>
    obtain ⟨_, last⟩ := corresponding
    exact ⟨rfl, last.executed⟩
  | stopped same => exact same

/-- **The engines agree on control flow.** For every plan, loop limit and step bound, and every
node behaviour that depends on the node id, the state and the memory: started at the same node with
the same state and memory, the two traversals execute the same sequence of nodes and end with the
same outcome, failure reason and output. -/
theorem traversals_agree (w : NodeWorld) (plan : ExecutionPlan) (loopLimit steps : ℕ)
    (behaviour : String → Fields → List Value → Option NodeResult)
    (startNodeId : Option String) (snapshot : GraphStateSnapshot) (metadata : Fields) :
    let world := w.withBehaviour behaviour
    let nodeId := startNode plan startNodeId
    let inProcess := RuntimeExecutor.traverse world plan loopLimit steps
      { context := { contextOf nodeId snapshot with metadata := metadata }
        store := { nodeRuns := [], graphState := none } }
    let durable := FlowRunWorkflow.traverse world plan loopLimit steps
      { currentNodeId := nodeId, counters := []
        store := { nodeRuns := [], graphState := some snapshot } }
    inProcess.store.executedNodes = durable.store.executedNodes ∧
      inProcess.ending = durable.ending := by
  intro world nodeId inProcess durable
  have lock : Lockstep
      { context := { contextOf nodeId snapshot with metadata := metadata }
        store := { nodeRuns := [], graphState := none } }
      { currentNodeId := nodeId, counters := []
        store := { nodeRuns := [], graphState := some snapshot } } snapshot :=
    ⟨rfl, rfl, rfl, rfl, rfl, rfl⟩
  have same := traverse_agree w plan loopLimit behaviour steps lock
  exact ⟨same.2, same.1⟩

/-! ## Runs of accepted graphs -/

/-- The in-process configuration at the position of the workflow. -/
def shadow (cfg : FlowRunWorkflow.Config) (snapshot : GraphStateSnapshot) :
    RuntimeExecutor.Config :=
  { context := { rebuilt cfg snapshot with iterationCounters := cfg.counters }, store := cfg.store }

/-- In any world the workflow steps as the in-process engine does from its own position. -/
theorem shadow_agree {cfg} (checkpoint : cfg.store.graphState = some snapshot) :
    BoundedRun.Outcome.Related (fun left' right' => ∃ next, Lockstep left' right' next) SameEnd
      (RuntimeExecutor.step w plan loopLimit (shadow cfg snapshot))
      (FlowRunWorkflow.step w plan loopLimit cfg) :=
  step_agree w plan loopLimit ⟨rfl, rfl, checkpoint, rfl, rfl, rfl⟩ fun _ => rfl

/-- Where the loop of the workflow is, with the counters it keeps. -/
def FlowRunWorkflow.Config.position (cfg : FlowRunWorkflow.Config) : ExecutionContext :=
  { currentNodeId := cfg.currentNodeId, state := [], memory := [], metadata := [], nodeOutput := []
    iterationCounters := cfg.counters }

/-- The durable engine walks its plan, since the in-process one does. -/
theorem walks_workflow : Walks plan loopLimit (FlowRunWorkflow.step w plan loopLimit)
    FlowRunWorkflow.Config.position where
  goes cfg next within stepped := by
    cases checkpoint : cfg.store.graphState with
    | none => simp [FlowRunWorkflow.step, executeNode, checkpoint] at stepped
    | some snapshot =>
      have agree := shadow_agree w plan loopLimit checkpoint
      rw [stepped] at agree
      generalize ran : RuntimeExecutor.step w plan loopLimit (shadow cfg snapshot) = ours at agree
      cases agree with
      | running lock =>
        obtain ⟨_, lock⟩ := lock
        obtain ⟨mem, counted⟩ := (walks_step w plan loopLimit).goes _ _ within ran
        rw [lock.counters, lock.nodeId] at counted
        exact ⟨mem, counted⟩
  stops cfg traversal known stepped := by
    cases checkpoint : cfg.store.graphState with
    | none =>
      simp only [FlowRunWorkflow.step, executeNode, checkpoint] at stepped
      cases stepped
      nofun
    | some snapshot =>
      have agree := shadow_agree w plan loopLimit checkpoint
      rw [stepped] at agree
      generalize ran : RuntimeExecutor.step w plan loopLimit (shadow cfg snapshot) = ours at agree
      cases agree with
      | stopped same =>
        rw [← same.1]
        exact (walks_step w plan loopLimit).stops _ _ known ran

theorem walks_workflowIn (worlds : ℕ → NodeWorld) :
    Walks plan loopLimit (FlowRunWorkflow.stepIn worlds plan loopLimit)
      fun state => state.2.position :=
  Walks.indexed (fun count => walks_workflow (worlds count) plan loopLimit) fun state => by
    unfold FlowRunWorkflow.stepIn
    cases FlowRunWorkflow.step (worlds state.1) plan loopLimit state.2 <;> rfl

/-- **A run of an accepted graph keeps on track.** Started at one of its nodes it never misses a
node, and without loop edges it never runs out of steps: in process and durably, whatever its world
does from step to step. -/
theorem accepted_graph_on_track (snapshot : GraphSnapshot) (plan : ExecutionPlan)
    (accepted : GraphCompiler.compile snapshot = .ok plan) (startNodeId : Option String)
    (known : startNode plan startNodeId ∈ plan.nodes.map Prod.fst) (pyStr : Value → String)
    (flow : Fields) (worlds : ℕ → NodeWorld) (store : RunStore) :
    (∀ state memory,
        plan.OnTrack (runIn worlds pyStr flow plan startNodeId state memory store)) ∧
      plan.OnTrack (FlowRunWorkflow.runIn worlds flow plan startNodeId store) := by
  refine ⟨fun state memory => onTrack_runIn accepted known worlds pyStr flow state memory store, ?_⟩
  let start : FlowRunWorkflow.Config :=
    { currentNodeId := startNode plan startNodeId, counters := []
      store := prepareFlowRun flow plan startNodeId store }
  have walks := walks_workflowIn plan (loopLimitOf flow) worlds
  exact walks.onTrack (0, start) accepted rfl known _

/-- Both engines keep on track through a graph without loop edges, so they do not run out of
steps. -/
theorem onceThrough_on_track : ∃ plan, GraphCompiler.compile onceThrough = .ok plan ∧
    plan.loopKeys = ∅ ∧ ∀ (worlds : ℕ → NodeWorld) (store : RunStore),
      plan.OnTrack (runIn worlds (fun _ => "") [] plan none [] [] store) ∧
        plan.OnTrack (FlowRunWorkflow.runIn worlds [] plan none store) := by
  refine ⟨_, rfl, rfl, fun worlds store => ?_⟩
  obtain ⟨inProcess, durable⟩ :=
    accepted_graph_on_track onceThrough _ rfl none (by decide) (fun _ => "") [] worlds store
  exact ⟨inProcess [] [], durable⟩

end AgentOrchestration
