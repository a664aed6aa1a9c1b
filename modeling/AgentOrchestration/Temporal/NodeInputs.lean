import AgentOrchestration.Temporal.EngineAgreement

/-!
# What the nodes see in the two engines

Both engines hand every node a state, a memory and metadata. The in-process
executor threads the context a step returns; the durable one reloads the
checkpoint the step wrote. The two carry the same state and memory, but a step
that advances into a `HumanFallback` node writes the source node and the reason
of the fallback only into the context it returns: the checkpoint has been
written before.
-/

namespace AgentOrchestration

set_option autoImplicit false

open NodeStepRunner FlowRunActivities
open NodeStepRunner (stamp)
open FlowRunWorkflow (afterNode)

variable (w : NodeWorld) (plan : ExecutionPlan) (loopLimit : ℕ)

/-! ## The node runs an iteration adds -/

/-- The tables after an iteration of the in-process loop. -/
def executorStore : BoundedRun.Outcome RuntimeExecutor.Config Traversal → RunStore
  | .running config => config.store
  | .stopped traversal => traversal.store

/-- The tables after an iteration of the durable loop. -/
def workflowStore : BoundedRun.Outcome FlowRunWorkflow.Config Traversal → RunStore
  | .running config => config.store
  | .stopped traversal => traversal.store

theorem inputs_executorStep (cfg : RuntimeExecutor.Config) :
    (executorStore (RuntimeExecutor.step w plan loopLimit cfg)).inputs =
      cfg.store.inputs ++ entryInput w plan cfg.context := by
  rw [← inputs_runStep w plan loopLimit cfg.context cfg.context.iterationCounters]
  unfold RuntimeExecutor.step
  generalize runStep w plan loopLimit cfg.context cfg.context.iterationCounters cfg.store = run
  cases gave : run.outcome with
  | none => simp only [gave]; rfl
  | some out => cases status : out.status <;> simp only [gave, status] <;> rfl

theorem store_afterNode (cfg output st) :
    workflowStore (afterNode loopLimit cfg output st) = st := by
  unfold afterNode
  split
  · rfl
  · split
    · rfl
    · split
      · rfl
      · split <;> rfl

variable {snapshot : GraphStateSnapshot}

theorem inputs_workflowStep {cfg} (checkpoint : cfg.store.graphState = some snapshot) :
    (workflowStore (FlowRunWorkflow.step w plan loopLimit cfg)).inputs =
      cfg.store.inputs ++ entryInput w plan (rebuilt cfg snapshot) := by
  rw [← inputs_runStep w plan loopLimit (rebuilt cfg snapshot) [],
    workflowStep_eq w plan loopLimit checkpoint]
  generalize runStep w plan loopLimit (rebuilt cfg snapshot) [] cfg.store = run
  cases gave : run.outcome with
  | none => simp only [gave]; rfl
  | some out => simp only [gave, store_afterNode]

/-! ## The metadata an iteration leaves -/

theorem executorStep_running {cfg next}
    (goes : RuntimeExecutor.step w plan loopLimit cfg = .running next) :
    ∃ spec nodeType data, entry w plan cfg.context.currentNodeId = .enters spec nodeType ∧
      nodeType.name ∉ NodeType.terminalNodeTypes ∧
      next.context.metadata = metadataInto plan nodeType (stamp cfg.context nodeType)
        data next.context.currentNodeId := by
  unfold RuntimeExecutor.step at goes
  cases gave :
    (runStep w plan loopLimit cfg.context cfg.context.iterationCounters cfg.store).outcome with
  | none => simp [gave] at goes
  | some out =>
    cases status : out.status with
    | failed | needsInput | terminal => simp [gave, status] at goes
    | advance =>
      obtain ⟨spec, nodeType, result, target, enters, -, routed⟩ := runStep_advance gave status
      simp only [gave, status, routed.nextNodeId, BoundedRun.Outcome.running.injEq] at goes
      subst goes
      exact ⟨spec, nodeType, result.data, enters, routed.notTerminal, routed.metadata⟩

theorem workflowStep_running {cfg next} (checkpoint : cfg.store.graphState = some snapshot)
    (goes : FlowRunWorkflow.step w plan loopLimit cfg = .running next) :
    ∃ spec nodeType after, entry w plan cfg.currentNodeId = .enters spec nodeType ∧
      nodeType.name ∉ NodeType.terminalNodeTypes ∧ next.store.graphState = some after ∧
      after.metadata = (stamp (rebuilt cfg snapshot) nodeType).metadata := by
  rw [workflowStep_eq w plan loopLimit checkpoint] at goes
  cases gave : (runStep w plan loopLimit (rebuilt cfg snapshot) [] cfg.store).outcome with
  | none => simp [gave] at goes
  | some out =>
    simp only [gave] at goes
    have kept := store_afterNode loopLimit cfg (outputOf out)
      (runStep w plan loopLimit (rebuilt cfg snapshot) [] cfg.store).store
    rw [goes] at kept
    cases status : out.status with
    | failed =>
      unfold afterNode outputOf at goes
      simp only [status] at goes
      split at goes <;> simp at goes
    | needsInput | terminal =>
      unfold afterNode outputOf at goes
      simp [status, Tally.recount] at goes
    | advance =>
      obtain ⟨spec, nodeType, result, target, enters, -, routed⟩ := runStep_advance gave status
      exact ⟨spec, nodeType, _, enters, routed.notTerminal,
        (congrArg RunStore.graphState kept).trans routed.checkpoint, rfl⟩

/-! ## The phases of the two traversals -/

/-- No node executed after the first is a `HumanFallback`. -/
def NoFallbackEntered (store : RunStore) : Prop :=
  ∀ nodeId ∈ store.executedNodes.tail, plan.isHumanFallback nodeId = false

/-- The two traversals are in lockstep, their nodes have seen the same, and the checkpoint names no
source. -/
structure SameInputs (left : RuntimeExecutor.Config) (right : FlowRunWorkflow.Config)
    (snapshot : GraphStateSnapshot) : Prop extends Lockstep left right snapshot where
  inputs : left.store.inputs = right.store.inputs
  unmarked : snapshot.metadata.lookup fallbackSourceNodeKey = none
  clean : NoFallbackEntered plan left.store

/-- Where the two traversals stand, compared by what the next node will see. -/
inductive InputPhase (left : RuntimeExecutor.Config) (right : FlowRunWorkflow.Config) : Prop where
  /-- The same metadata. -/
  | same {snapshot : GraphStateSnapshot} (lock : SameInputs plan left right snapshot)
      (metadata : left.context.metadata = snapshot.metadata)
      (ahead : left.store.inputs ≠ [] → plan.isHumanFallback left.context.currentNodeId = false)
  /-- A `HumanFallback` is about to be executed, and only one side names its source. -/
  | parted {snapshot : GraphStateSnapshot} (lock : SameInputs plan left right snapshot)
      (marked : left.context.metadata.lookup fallbackSourceNodeKey ≠ none)
      (started : left.store.inputs ≠ [])
      (ahead : plan.isHumanFallback left.context.currentNodeId = true)

/-- The node inputs are the same exactly when no `HumanFallback` was entered along an edge. -/
def InputsDecided (left right : Traversal) : Prop :=
  left.store.inputs = right.store.inputs ↔ NoFallbackEntered plan left.store

variable {nodeType : NodeType} {context : ExecutionContext} {data : Fields} {next : String}

theorem metadataInto_plain (plain : plan.isHumanFallback next = false) :
    metadataInto plan nodeType context data next = context.metadata := by
  simp [metadataInto, plain]

theorem metadataInto_marked (fallback : plan.isHumanFallback next = true) :
    (metadataInto plan nodeType context data next).lookup fallbackSourceNodeKey ≠ none := by
  have differ : fallbackSourceNodeKey ≠ fallbackReasonKey := by decide
  simp [metadataInto, fallback, OrderedDict.lookup_set_of_ne _ _ differ]

theorem lookup_stamp (ctx : ExecutionContext) (nodeType : NodeType) :
    (stamp ctx nodeType).metadata.lookup fallbackSourceNodeKey =
      ctx.metadata.lookup fallbackSourceNodeKey := by
  have differ : fallbackSourceNodeKey ≠ currentNodeTypeKey := by decide
  exact OrderedDict.lookup_set_of_ne _ _ differ

variable {spec : NodeSpec}

/-- A node entered as a `HumanFallback` has that type, which is terminal. -/
theorem terminal_of_isHumanFallback {nodeId} (fallback : plan.isHumanFallback nodeId = true)
    (enters : entry w plan nodeId = .enters spec nodeType) :
    nodeType.name ∈ NodeType.terminalNodeTypes := by
  obtain ⟨found, typed⟩ := type_of_entry enters
  have named : nodeType.name = NodeType.humanFallback.name := by
    simpa [ExecutionPlan.isHumanFallback, found, typed] using fallback
  rw [named]
  decide

/-- Entering one more node keeps the record clean unless it is a `HumanFallback` and not the
first. -/
theorem NoFallbackEntered.append {plan before after} {added} (clean : NoFallbackEntered plan before)
    (grown : after.inputs = before.inputs ++ added)
    (fine : before.inputs ≠ [] → ∀ input ∈ added, plan.isHumanFallback input.nodeId = false)
    (short : added.length ≤ 1) : NoFallbackEntered plan after := by
  unfold NoFallbackEntered RunStore.executedNodes at clean ⊢
  rw [grown, List.map_append]
  cases started : before.inputs with
  | nil =>
    intro nodeId mem
    match added, short with
    | [], _ => simp at mem
    | [_], _ => simp at mem
  | cons first rest =>
    intro nodeId mem
    rw [started] at clean
    simp only [List.map_cons, List.cons_append, List.tail_cons, List.mem_append] at mem
    rcases mem with old | new
    · exact clean nodeId old
    · obtain ⟨input, present, rfl⟩ := List.mem_map.mp new
      exact fine (by simp [started]) input present

theorem length_entryInput_le (ctx : ExecutionContext) : (entryInput w plan ctx).length ≤ 1 := by
  unfold entryInput
  split <;> simp

theorem nodeId_of_mem_entryInput {input} (mem : input ∈ entryInput w plan context) :
    input.nodeId = context.currentNodeId := by
  unfold entryInput at mem
  split at mem
  · rw [List.mem_singleton.mp mem]
    rfl
  · cases mem

theorem entryInput_of_enters (enters : entry w plan context.currentNodeId = .enters spec nodeType) :
    entryInput w plan context = [nodeInput (stamp context nodeType)] := by
  simp only [entryInput, enters]

/-! ## One step -/

variable {left : RuntimeExecutor.Config} {right : FlowRunWorkflow.Config}

/-- While the metadata agree, a step keeps them so or advances into a `HumanFallback`. -/
theorem InputPhase.step_same (lock : SameInputs plan left right snapshot)
    (metadata : left.context.metadata = snapshot.metadata) (ahead : left.store.inputs ≠ [] →
      plan.isHumanFallback left.context.currentNodeId = false) :
    BoundedRun.Outcome.Related (InputPhase plan) (InputsDecided plan)
      (RuntimeExecutor.step w plan loopLimit left)
      (FlowRunWorkflow.step w plan loopLimit right) := by
  have sameInput : ∀ nodeType, nodeInput (stamp left.context nodeType) =
      nodeInput (stamp (rebuilt right snapshot) nodeType) := by
    intro nodeType
    simp only [nodeInput, stamp, lock.nodeId, lock.state, lock.memory, metadata]
    rfl
  have related := step_agree w plan loopLimit lock.toLockstep fun nodeType =>
    congrArg w.execute (sameInput nodeType)
  have leftInputs := inputs_executorStep w plan loopLimit left
  have rightInputs := inputs_workflowStep w plan loopLimit lock.checkpoint
  have sameEntry : entryInput w plan left.context = entryInput w plan (rebuilt right snapshot) := by
    unfold entryInput
    rw [lock.view.nodeId]
    cases entry w plan (rebuilt right snapshot).currentNodeId with
    | refused nodeType got reason | raises => rfl
    | enters spec nodeType => simp only [sameInput]
  rw [← sameEntry, ← lock.inputs, ← leftInputs] at rightInputs
  have cleanAfter := lock.clean.append leftInputs (fun started input mem => by
      rw [nodeId_of_mem_entryInput w plan mem]
      exact ahead started)
    (length_entryInput_le w plan left.context)
  generalize ours : RuntimeExecutor.step w plan loopLimit left = out at *
  generalize theirs : FlowRunWorkflow.step w plan loopLimit right = other at *
  cases related with
  | stopped _ => exact .stopped (iff_of_true rightInputs.symm cleanAfter)
  | running corresponding =>
    obtain ⟨next, lockAfter⟩ := corresponding
    obtain ⟨spec, nodeType, data, enters, _, leftMetadata⟩ :=
      executorStep_running w plan loopLimit ours
    obtain ⟨spec', nodeType', after, enters', _, stored, rightMetadata⟩ :=
      workflowStep_running w plan loopLimit lock.checkpoint theirs
    obtain rfl : after = next := Option.some.inj (stored.symm.trans lockAfter.checkpoint)
    rw [← lock.nodeId, enters] at enters'
    cases enters'
    have unmarked : after.metadata.lookup fallbackSourceNodeKey = none := by
      rw [rightMetadata, lookup_stamp]
      exact lock.unmarked
    refine .running ?_
    cases fallback : plan.isHumanFallback _ with
    | false =>
      rw [metadataInto_plain plan fallback] at leftMetadata
      have stamped := congrArg NodeInput.metadata (sameInput nodeType)
      exact .same ⟨lockAfter, rightInputs.symm, unmarked, cleanAfter⟩
        (leftMetadata.trans (stamped.trans rightMetadata.symm)) fun _ => fallback
    | true =>
      refine .parted ⟨lockAfter, rightInputs.symm, unmarked, cleanAfter⟩ ?_ ?_ fallback
      · rw [leftMetadata]
        exact metadataInto_marked plan fallback
      · rw [entryInput_of_enters w plan enters] at leftInputs
        exact leftInputs.trans_ne (by simp)

/-- The step that executes the `HumanFallback` is the last one, and its inputs differ. -/
theorem InputPhase.step_parted (lock : SameInputs plan left right snapshot)
    (marked : left.context.metadata.lookup fallbackSourceNodeKey ≠ none)
    (started : left.store.inputs ≠ [])
    (ahead : plan.isHumanFallback left.context.currentNodeId = true) :
    BoundedRun.Outcome.Related (InputPhase plan) (InputsDecided plan)
      (RuntimeExecutor.step w plan loopLimit left)
      (FlowRunWorkflow.step w plan loopLimit right) := by
  have leftInputs := inputs_executorStep w plan loopLimit left
  have rightInputs := inputs_workflowStep w plan loopLimit lock.checkpoint
  have sameNode : (rebuilt right snapshot).currentNodeId = left.context.currentNodeId :=
    lock.nodeId.symm
  cases ours : RuntimeExecutor.step w plan loopLimit left with
  | running cfg =>
    obtain ⟨spec, nodeType, _, enters, notTerminal, _⟩ := executorStep_running w plan loopLimit ours
    exact absurd (terminal_of_isHumanFallback w plan ahead enters) notTerminal
  | stopped traversal =>
    cases theirs : FlowRunWorkflow.step w plan loopLimit right with
    | running cfg =>
      obtain ⟨spec, nodeType, _, enters, notTerminal, _⟩ :=
        workflowStep_running w plan loopLimit lock.checkpoint theirs
      rw [← lock.nodeId] at enters
      exact absurd (terminal_of_isHumanFallback w plan ahead enters) notTerminal
    | stopped other =>
      rw [ours] at leftInputs
      rw [theirs] at rightInputs
      refine .stopped ?_
      cases enters : entry w plan left.context.currentNodeId with
      | enters spec nodeType =>
        rw [entryInput_of_enters w plan enters] at leftInputs
        rw [entryInput_of_enters w plan (sameNode ▸ enters)] at rightInputs
        refine iff_of_false (fun eq => ?_) (fun cleanAfter => ?_)
        · -- the last rows differ in what their metadata say about the source
          rw [show traversal.store.inputs = _ from leftInputs,
            show other.store.inputs = _ from rightInputs, lock.inputs] at eq
          have lastSame := List.cons.inj (List.append_cancel_left eq)
          have metadataSame := congrArg NodeInput.metadata lastSame.1
          apply marked
          rw [← lookup_stamp left.context nodeType]
          exact (congrArg (List.lookup fallbackSourceNodeKey) metadataSame).trans
            ((lookup_stamp (rebuilt right snapshot) nodeType).trans lock.unmarked)
        · have mem : left.context.currentNodeId ∈ traversal.store.executedNodes.tail := by
            rw [RunStore.executedNodes, show traversal.store.inputs = _ from leftInputs]
            obtain ⟨first, rest, split⟩ := List.exists_cons_of_ne_nil started
            simp [split, nodeInput]
          rw [cleanAfter _ mem] at ahead
          cases ahead
      | refused _ _ _ | raises =>
        -- no node is entered, and the inputs are those of before
        simp only [entryInput, sameNode, enters, List.append_nil] at leftInputs rightInputs
        refine iff_of_true (leftInputs.trans (lock.inputs.trans rightInputs.symm)) ?_
        unfold NoFallbackEntered RunStore.executedNodes
        rw [show traversal.store.inputs = _ from leftInputs]
        exact lock.clean

theorem InputPhase.step {left right} (phase : InputPhase plan left right) :
    BoundedRun.Outcome.Related (InputPhase plan) (InputsDecided plan)
      (RuntimeExecutor.step w plan loopLimit left)
      (FlowRunWorkflow.step w plan loopLimit right) := by
  cases phase with
  | same lock metadata ahead => exact InputPhase.step_same w plan loopLimit lock metadata ahead
  | parted lock marked started ahead =>
    exact InputPhase.step_parted w plan loopLimit lock marked started ahead

/-! ## Whole traversals -/

theorem InputPhase.traverse {left right} (phase : InputPhase plan left right) (steps) :
    InputsDecided plan (RuntimeExecutor.traverse w plan loopLimit steps left)
      (FlowRunWorkflow.traverse w plan loopLimit steps right) := by
  have related := BoundedRun.runFor_lockstep
    (fun _ _ (phase : InputPhase plan _ _) => phase.step w plan loopLimit) steps left right phase
  unfold RuntimeExecutor.traverse FlowRunWorkflow.traverse
  generalize BoundedRun.runFor (RuntimeExecutor.step w plan loopLimit) steps left = ours at related
  generalize BoundedRun.runFor (FlowRunWorkflow.step w plan loopLimit) steps right =
    theirs at related
  cases related with
  | stopped decided => exact decided
  | running reached =>
    cases reached with
    | same lock | parted lock => exact iff_of_true lock.inputs lock.clean

theorem lookup_initialMetadata (flow : Fields) :
    (initialMetadata flow).lookup fallbackSourceNodeKey = none := by
  unfold initialMetadata
  split
  · rfl
  · have differ : (fallbackSourceNodeKey == "runtime_policy") = false := by decide
    simp [List.lookup_cons, differ]

/-- **What the nodes see.** Started at the same node with the same state, memory and policy, the
two traversals hand every executed node the same state, memory and metadata exactly when no node
executed after the first is a `HumanFallback`. -/
theorem nodeInputs_agree_iff (w : NodeWorld) (plan : ExecutionPlan) (loopLimit steps : ℕ)
    (definition : Fields) (startNodeId : Option String) (state : Fields) (memory : List Value) :
    let nodeId := startNode plan startNodeId
    let snapshot : GraphStateSnapshot :=
      { currentNodeId := some nodeId, resumeToNodeId := none, state, memory
        metadata := initialMetadata definition }
    let inProcess := RuntimeExecutor.traverse w plan loopLimit steps
      { context := contextOf nodeId snapshot, store := { nodeRuns := [], graphState := none } }
    let durable := FlowRunWorkflow.traverse w plan loopLimit steps
      { currentNodeId := nodeId, counters := []
        store := { nodeRuns := [], graphState := some snapshot } }
    inProcess.store.inputs = durable.store.inputs ↔
      ∀ entered ∈ inProcess.store.executedNodes.tail, plan.isHumanFallback entered = false := by
  intro nodeId snapshot inProcess durable
  have lock : Lockstep
      { context := contextOf nodeId snapshot, store := { nodeRuns := [], graphState := none } }
      { currentNodeId := nodeId, counters := []
        store := { nodeRuns := [], graphState := some snapshot } } snapshot :=
    ⟨rfl, rfl, rfl, rfl, rfl, rfl⟩
  have phase : InputPhase plan _ _ := .same
    ⟨lock, rfl, lookup_initialMetadata definition, fun _ member => nomatch member⟩ rfl
    fun started => absurd rfl started
  exact phase.traverse w plan loopLimit steps

/-! ## A divergence -/

/-- A moderation node with one edge into a `HumanFallback`. -/
def fallbackPlan : ExecutionPlan :=
  { startNodeId := "m"
    orderedNodes := ["m", "h"]
    adjacencyMap := [("m", [⟨"m", "h", .normal, [], 0⟩])]
    terminalNodes := ["h"]
    nodes :=
      [("m", { type := some "ContentModeration", resumeToNodeId := none }),
       ("h", { type := some "HumanFallback", resumeToNodeId := none })] }

/-- Every node succeeds with an empty result and every condition holds. -/
def blandWorld : NodeWorld :=
  { constructs := fun _ => true
    isUuid := fun _ => true
    execute := fun _ => some { status := .success, data := [], nextState := none, memory := none }
    isTrue := fun _ _ => some true }

/-- In process the `HumanFallback` is told its source node and reason; in the durable engine it
is told neither. -/
theorem fallback_metadata_lost :
    let snapshot : GraphStateSnapshot :=
      { currentNodeId := some "m", resumeToNodeId := none, state := [], memory := []
        metadata := initialMetadata [] }
    let inProcess := RuntimeExecutor.traverse blandWorld fallbackPlan 10 12
      { context := contextOf "m" snapshot, store := { nodeRuns := [], graphState := none } }
    let durable := FlowRunWorkflow.traverse blandWorld fallbackPlan 10 12
      { currentNodeId := "m", counters := []
        store := { nodeRuns := [], graphState := some snapshot } }
    inProcess.store.inputs.map NodeInput.metadata =
      [[("current_node_type", .str "ContentModeration")],
         [("current_node_type", .str "HumanFallback"), ("fallback_source_node", .str "m"),
          ("fallback_reason", .str "POLICY_BLOCK")]] ∧
      durable.store.inputs.map NodeInput.metadata =
        [[("current_node_type", .str "ContentModeration")],
         [("current_node_type", .str "HumanFallback")]] := by
  decide

end AgentOrchestration
