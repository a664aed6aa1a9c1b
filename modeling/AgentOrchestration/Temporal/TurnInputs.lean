import AgentOrchestration.Temporal.NodeInputs

/-!
# What the nodes of a turn are given

A turn enters the node it starts at, if it enters any. That node receives the context
the turn is seeded with: in process the one the executor is handed, in the durable
engine the checkpoint. The policy in the metadata is the same for all nodes of a turn.
-/

namespace AgentOrchestration

set_option autoImplicit false

open NodeStepRunner FlowRunActivities

/-! ## The inputs of a traversal -/

section

variable (w : NodeWorld) (plan : ExecutionPlan) (loopLimit : ℕ)

def runtimePolicyKey : String := "runtime_policy"

theorem lookup_policy_stamp (ctx : ExecutionContext) (nodeType : NodeType) :
    (stamp ctx nodeType).metadata.lookup runtimePolicyKey =
      ctx.metadata.lookup runtimePolicyKey := by
  have differ : runtimePolicyKey ≠ currentNodeTypeKey := by decide
  exact OrderedDict.lookup_set_of_ne _ _ differ

theorem lookup_policy_metadataInto (nodeType) (ctx : ExecutionContext) (data next) :
    (metadataInto plan nodeType ctx data next).lookup runtimePolicyKey
      = ctx.metadata.lookup runtimePolicyKey := by
  have source : runtimePolicyKey ≠ fallbackSourceNodeKey := by decide
  have reason : runtimePolicyKey ≠ fallbackReasonKey := by decide
  unfold metadataInto
  split
  · rw [OrderedDict.lookup_set_of_ne _ _ reason, OrderedDict.lookup_set_of_ne _ _ source]
  · rfl

theorem lookup_policy_entryInput {ctx input} (entered : input ∈ entryInput w plan ctx) :
    input.metadata.lookup runtimePolicyKey = ctx.metadata.lookup runtimePolicyKey := by
  unfold entryInput at entered
  split at entered
  · rw [List.mem_singleton.mp entered]
    exact lookup_policy_stamp ctx _
  · cases entered

theorem entryInput_ne_nil_iff {ctx} : entryInput w plan ctx ≠ [] ↔
      ∃ spec nodeType, entry w plan ctx.currentNodeId = .enters spec nodeType := by
  unfold entryInput
  cases entry w plan ctx.currentNodeId <;> simp

/-- A traversal in process enters the node it starts at, if it enters any, and gives every node the
policy it starts with. -/
theorem executorTraverse_inputs (steps : ℕ) (cfg : RuntimeExecutor.Config) :
    ∃ more, (RuntimeExecutor.traverse w plan loopLimit (steps + 1) cfg).store.inputs
        = cfg.store.inputs ++ (entryInput w plan cfg.context ++ more) ∧
      (∀ input ∈ more, input.metadata.lookup runtimePolicyKey
        = cfg.context.metadata.lookup runtimePolicyKey) ∧
      (more ≠ [] → entryInput w plan cfg.context ≠ []) := by
  have keep (before after : RuntimeExecutor.Config)
      (eq : before.context.metadata.lookup runtimePolicyKey
        = cfg.context.metadata.lookup runtimePolicyKey)
      (moved : RuntimeExecutor.step w plan loopLimit before = .running after) :
      after.context.metadata.lookup runtimePolicyKey =
        cfg.context.metadata.lookup runtimePolicyKey := by
    obtain ⟨_, nodeType, _, _, _, metadata⟩ := executorStep_running w plan loopLimit moved
    rw [metadata, lookup_policy_metadataInto, lookup_policy_stamp]
    exact eq
  obtain ⟨more, added, given, goes⟩ :=
    BoundedRun.runFor_added (fun out => (executorStore out).inputs)
    (fun cfg => entryInput w plan cfg.context)
    (fun before _ => inputs_executorStep w plan loopLimit before)
    (fun _ eq _ entered => (lookup_policy_entryInput w plan entered).trans eq)
    keep steps (s := cfg) rfl
  refine ⟨more, ?_, given, fun nonempty => ?_⟩
  · rw [RuntimeExecutor.traverse]
    generalize BoundedRun.runFor _ _ _ = out at added
    cases out <;> exact added
  · obtain ⟨next, moved⟩ := goes nonempty
    obtain ⟨spec, nodeType, _, enters, _⟩ := executorStep_running w plan loopLimit moved
    exact (entryInput_ne_nil_iff w plan).mpr ⟨spec, nodeType, enters⟩

/-- So does a durable traversal, with the policy of the checkpoint. -/
theorem workflowTraverse_inputs (steps : ℕ) (cfg : FlowRunWorkflow.Config)
    {snap} (checkpoint : cfg.store.graphState = some snap) :
    ∃ more, (FlowRunWorkflow.traverse w plan loopLimit (steps + 1) cfg).store.inputs
        = cfg.store.inputs ++ (entryInput w plan (rebuilt cfg snap) ++ more) ∧
      (∀ input ∈ more, input.metadata.lookup runtimePolicyKey =
        snap.metadata.lookup runtimePolicyKey) ∧
      (more ≠ [] → entryInput w plan (rebuilt cfg snap) ≠ []) := by
  -- the invariant: there is a checkpoint, and its policy is the one of the start
  have keep (before after : FlowRunWorkflow.Config) (eq : ∃ saved, before.store.graphState =
      some saved ∧ saved.metadata.lookup runtimePolicyKey = snap.metadata.lookup runtimePolicyKey)
      (moved : FlowRunWorkflow.step w plan loopLimit before = .running after) :
      ∃ saved, after.store.graphState = some saved ∧
        saved.metadata.lookup runtimePolicyKey = snap.metadata.lookup runtimePolicyKey := by
    obtain ⟨saved, stored, policy⟩ := eq
    obtain ⟨_, nodeType, next, _, _, written, metadata⟩ :=
      workflowStep_running w plan loopLimit stored moved
    refine ⟨next, written, ?_⟩
    rw [metadata, lookup_policy_stamp]
    exact policy
  obtain ⟨more, added, given, goes⟩ :=
    BoundedRun.runFor_added (fun out => (workflowStore out).inputs)
    (fun cfg => (cfg.store.graphState.map fun saved =>
      entryInput w plan (rebuilt cfg saved)).getD [])
    (fun before eq => by
      obtain ⟨saved, stored, _⟩ := eq
      simp only [stored, Option.map_some, Option.getD_some]
      exact inputs_workflowStep w plan loopLimit stored)
    (fun before eq input entered => by
      obtain ⟨saved, stored, policy⟩ := eq
      simp only [stored, Option.map_some, Option.getD_some] at entered
      exact (lookup_policy_entryInput w plan entered).trans policy)
    keep steps (s := cfg) ⟨snap, checkpoint, rfl⟩
  simp only [checkpoint, Option.map_some, Option.getD_some] at added
  refine ⟨more, ?_, given, fun nonempty => ?_⟩
  · rw [FlowRunWorkflow.traverse]
    generalize BoundedRun.runFor _ _ _ = out at added
    cases out <;> exact added
  · obtain ⟨next, moved⟩ := goes nonempty
    obtain ⟨spec, nodeType, _, enters, _⟩ := workflowStep_running w plan loopLimit checkpoint moved
    exact (entryInput_ne_nil_iff w plan).mpr ⟨spec, nodeType, enters⟩

theorem head?_of_inputs {first more : List NodeInput} (goes : more ≠ [] → first ≠ []) :
    (first ++ more).head? = first.head? := by
  cases first with
  | cons input rest => rfl
  | nil =>
    have none : more = [] := by
      by_contra nonempty
      exact goes nonempty rfl
    rw [none]
    rfl

theorem forall_entryInput_iff {ctx : ExecutionContext} {P : NodeInput → Prop} :
    (∀ first ∈ (entryInput w plan ctx).head?, P first) ↔
      ∀ spec nodeType, entry w plan ctx.currentNodeId = .enters spec nodeType →
        P (nodeInput (stamp ctx nodeType)) := by
  unfold entryInput
  cases entry w plan ctx.currentNodeId with
  | refused nodeType got reason | raises | enters spec nodeType => simp

theorem exists_maxSteps_eq : ∃ steps, maxSteps plan loopLimit = steps + 1 := by
  have positive : 0 < maxSteps plan loopLimit := lt_max_of_lt_right (Nat.succ_pos _)
  exact Nat.exists_eq_succ_of_ne_zero (Nat.pos_iff_ne_zero.mp positive)

end

/-! ## The first turn of a run -/

section

variable (w : NodeWorld) (definition : Fields) (plan : ExecutionPlan) (startNodeId : Option String)

theorem head_inputs_executorRun (pyStr state memory) {store : RunStore}
    (fresh : store.inputs = []) :
    (RuntimeExecutor.run w pyStr definition plan startNodeId state memory store).store.inputs.head?
      = (entryInput w plan
          (RuntimeExecutor.entryContext pyStr definition plan startNodeId state memory)).head? := by
  obtain ⟨steps, positive⟩ := exists_maxSteps_eq plan (loopLimitOf definition)
  rw [RuntimeExecutor.run, positive]
  obtain ⟨more, inputs, _, goes⟩ := executorTraverse_inputs w plan (loopLimitOf definition) steps
    { context := RuntimeExecutor.entryContext pyStr definition plan startNodeId state memory,
      store }
  rw [inputs, fresh, List.nil_append]
  exact head?_of_inputs goes

theorem head_inputs_workflowRun {store : RunStore} (fresh : store.inputs = [])
    (unprepared : store.graphState = none) :
    (FlowRunWorkflow.run w definition plan startNodeId store).store.inputs.head?
      = (entryInput w plan (contextOf (startNode plan startNodeId)
          (initialSnapshot definition plan startNodeId))).head? := by
  obtain ⟨steps, positive⟩ := exists_maxSteps_eq plan (loopLimitOf definition)
  have prepared : prepareFlowRun definition plan startNodeId store
      = store.upsertGraphState (initialSnapshot definition plan startNodeId) := by
    simp only [prepareFlowRun, unprepared]
  rw [FlowRunWorkflow.run, positive, prepared]
  obtain ⟨more, inputs, _, goes⟩ := workflowTraverse_inputs w plan (loopLimitOf definition) steps
    { currentNodeId := startNode plan startNodeId, counters := []
      store := store.upsertGraphState (initialSnapshot definition plan startNodeId) } rfl
  rw [inputs, RunStore.inputs_upsertGraphState, fresh, List.nil_append]
  exact head?_of_inputs goes

end

end AgentOrchestration
