import AgentOrchestration.Execution.Continuation

/-!
# The policy that governs a run

A run created against a flow snapshot records the hash of the policy in that snapshot.
The policy of a turn is derived again each time: in process from the snapshot, and in
the durable engine by `prepare_flow_run` from the live policies of the flow and tenant,
while the nodes are given what the checkpoint was seeded with.
-/

namespace AgentOrchestration.Execution

set_option autoImplicit false

open NodeStepRunner FlowRunActivities
open LabelledSystem (trace)

/-! ## Policies -/

structure PolicyTables where
  flowPolicies : List ((ℕ × ℕ) × Fields)
  tenantPolicies : List (ℕ × Fields)
  defaultPolicy : Fields
  snapshotPolicies : List (ℕ × Fields)

/-- `RuntimePolicyResolver.resolve`: the policy of the flow, else of the tenant, else the
default. -/
def PolicyTables.resolve (tables : PolicyTables) (tenantId flowId : ℕ) : Fields :=
  match tables.flowPolicies.lookup (tenantId, flowId) with
  | some policy => policy
  | none => (tables.tenantPolicies.lookup tenantId).getD tables.defaultPolicy

/-- A run created against a flow snapshot: the policy found there, and the hash recorded. -/
structure PinnedRun (hashDict : Fields → String) where
  tenantId : ℕ
  flowId : ℕ
  flowSnapshotId : ℕ
  plan : ExecutionPlan
  runtimePolicy : Fields
  runtimePolicyHash : String
  hashed : runtimePolicyHash = hashDict runtimePolicy

/-- `create_flow_run` against a flow snapshot, as far as the policy goes. -/
def pinRun (hashDict : Fields → String) (tables : PolicyTables)
    (tenantId flowId flowSnapshotId : ℕ) (plan : ExecutionPlan) : PinnedRun hashDict :=
  let runtimePolicy := (tables.snapshotPolicies.lookup flowSnapshotId).getD []
  { tenantId, flowId, flowSnapshotId, plan, runtimePolicy
    runtimePolicyHash := hashDict runtimePolicy, hashed := rfl }

/-! ## Turns -/

/-- The first turn, with what it may take over from another run, or a resumed one. -/
inductive TurnKind where
  | first (startNodeId : Option String) (initialState : Fields) (initialMemory : List Value)
  | resumed

/-- A turn: what it is, what executes it, and the policies in force when it starts. -/
structure Turn where
  kind : TurnKind
  engine : Engine
  nodes : NodeWorld
  tables : PolicyTables

structure TurnStart where
  startNodeId : Option String
  state : Fields
  memory : List Value

def TurnKind.start (store : RunStore) : TurnKind → Option TurnStart
  | .first startNodeId initialState initialMemory =>
    some { startNodeId, state := initialState, memory := initialMemory }
  | .resumed =>
    store.graphState.map fun snapshot =>
      { startNodeId := resumeNode snapshot, state := snapshot.state, memory := snapshot.memory }

section

variable (validate : Fields → Fields) (pyStr : Value → String) {hashDict : Fields → String}
  (run : PinnedRun hashDict)

variable (turn : Turn)

/-- The policy a turn takes its limits from; `validate` is the dump of the validated definition. -/
def policyOf : Fields :=
  match turn.engine, turn.kind with
  | .temporal, _ => validate (turn.tables.resolve run.tenantId run.flowId)
  | .inProcess, .first _ _ _ => validate run.runtimePolicy
  | .inProcess, .resumed =>
    match turn.tables.snapshotPolicies.lookup run.flowSnapshotId with
    | some policy => validate policy
    | none => validate (turn.tables.resolve run.tenantId run.flowId)

variable (store : RunStore)

def executeTurn : Option Traversal :=
  (turn.kind.start store).map fun start =>
    match turn.engine with
    | .inProcess =>
      RuntimeExecutor.run turn.nodes pyStr (policyOf validate run turn) run.plan
        start.startNodeId start.state start.memory store
    | .temporal =>
      FlowRunWorkflow.run turn.nodes (policyOf validate run turn) run.plan start.startNodeId store

/-- What governs a turn: its limits, and the policy in the metadata of each node it executes. -/
structure Governance where
  loopLimit : ℕ
  stepBound : ℕ
  nodePolicies : List (Option Value)

def governance (traversal : Traversal) : Governance :=
  let loopLimit := loopLimitOf (policyOf validate run turn)
  { loopLimit
    stepBound := maxSteps run.plan loopLimit
    nodePolicies := (traversal.store.inputs.drop store.inputs.length).map
      fun input => input.metadata.lookup runtimePolicyKey }

variable (definition : Fields)

def policyEntry : Option Value := (initialMetadata definition).lookup runtimePolicyKey

/-- The limits and the metadata are those of the policy the run has recorded. -/
def GovernedByPinned (governance : Governance) : Prop :=
  governance.loopLimit = loopLimitOf (validate run.runtimePolicy) ∧
    governance.stepBound = maxSteps run.plan (loopLimitOf (validate run.runtimePolicy)) ∧
    ∀ policy ∈ governance.nodePolicies, policy = policyEntry (validate run.runtimePolicy)

def seededPolicy : Option Value :=
  match turn.engine, store.graphState with
  | .temporal, some snapshot => snapshot.metadata.lookup runtimePolicyKey
  | _, _ => policyEntry (policyOf validate run turn)

def TurnEnters : Prop :=
  ∃ start ∈ turn.kind.start store, ∃ spec nodeType,
    entry turn.nodes run.plan (startNode run.plan start.startNodeId) = .enters spec nodeType

/-! ## What a turn gives to its nodes -/

variable (start : TurnStart)

def turnContext : ExecutionContext :=
  match turn.engine with
  | .inProcess =>
    RuntimeExecutor.entryContext pyStr (policyOf validate run turn) run.plan start.startNodeId
      start.state start.memory
  | .temporal =>
    contextOf (startNode run.plan start.startNodeId) (store.graphState.getD
        (initialSnapshot (policyOf validate run turn) run.plan start.startNodeId))

theorem turnContext_currentNodeId : (turnContext validate pyStr run turn store start).currentNodeId
      = startNode run.plan start.startNodeId := by
  unfold turnContext
  cases turn.engine <;> rfl

theorem turnContext_policy :
    (turnContext validate pyStr run turn store start).metadata.lookup runtimePolicyKey
      = seededPolicy validate run turn store := by
  unfold turnContext seededPolicy
  cases turn.engine with
  | inProcess => rfl
  | temporal => cases store.graphState <;> rfl

variable (plan : ExecutionPlan) (startNodeId : Option String)

/-- The preparation leaves a checkpoint: the one it found, or a fresh one. -/
theorem graphState_prepareFlowRun (st : RunStore) :
    (prepareFlowRun definition plan startNodeId st).graphState
      = some (st.graphState.getD (initialSnapshot definition plan startNodeId)) := by
  unfold prepareFlowRun
  cases found : st.graphState with
  | none => rfl
  | some snap => exact found

theorem inputs_prepareFlowRun (st : RunStore) :
    (prepareFlowRun definition plan startNodeId st).inputs = st.inputs := by
  unfold prepareFlowRun
  cases st.graphState <;> rfl

variable {traversal : Traversal}

/-- A turn gives the policy it was seeded with to every node it executes. -/
theorem turn_inputs {turn : Turn} {store : RunStore}
    (ran : executeTurn validate pyStr run turn store = some traversal) :
    ∃ start more, turn.kind.start store = some start ∧ traversal.store.inputs = store.inputs ++
        (entryInput turn.nodes run.plan (turnContext validate pyStr run turn store start) ++ more) ∧
      (∀ input ∈ more, input.metadata.lookup runtimePolicyKey =
        seededPolicy validate run turn store) ∧
      (more ≠ [] → entryInput turn.nodes run.plan
        (turnContext validate pyStr run turn store start) ≠ []) := by
  obtain ⟨start, started, eq⟩ := Option.map_eq_some_iff.mp ran
  obtain ⟨steps, positive⟩ := exists_maxSteps_eq run.plan (loopLimitOf (policyOf validate run turn))
  refine ⟨start, ?_⟩
  rw [← turnContext_policy validate pyStr run turn store start]
  rw [← eq]
  cases engine : turn.engine with
  | inProcess =>
    have context : turnContext validate pyStr run turn store start
        = RuntimeExecutor.entryContext pyStr (policyOf validate run turn) run.plan
            start.startNodeId start.state start.memory := by
      simp only [turnContext, engine]
    obtain ⟨more, inputs, given, goes⟩ := executorTraverse_inputs turn.nodes run.plan
      (loopLimitOf (policyOf validate run turn)) steps
      { context := turnContext validate pyStr run turn store start, store }
    rw [context] at inputs given goes ⊢
    refine ⟨more, started, ?_, given, goes⟩
    simp only [RuntimeExecutor.run, positive]
    exact inputs
  | temporal =>
    have context : turnContext validate pyStr run turn store start
        = contextOf (startNode run.plan start.startNodeId) (store.graphState.getD
            (initialSnapshot (policyOf validate run turn) run.plan start.startNodeId)) := by
      simp only [turnContext, engine]
    obtain ⟨more, inputs, given, goes⟩ := workflowTraverse_inputs turn.nodes run.plan
      (loopLimitOf (policyOf validate run turn)) steps
      { currentNodeId := startNode run.plan start.startNodeId, counters := []
        store := prepareFlowRun (policyOf validate run turn) run.plan start.startNodeId store }
      (graphState_prepareFlowRun _ _ _ _)
    rw [inputs_prepareFlowRun] at inputs
    rw [context]
    refine ⟨more, started, ?_, given, goes⟩
    simp only [FlowRunWorkflow.run, positive]
    exact inputs

theorem nodePolicies_seeded {turn st}
    (ran : executeTurn validate pyStr run turn st = some traversal) :
    (∀ policy ∈ (governance validate run turn st traversal).nodePolicies,
        policy = seededPolicy validate run turn st) ∧
      ((governance validate run turn st traversal).nodePolicies ≠ [] ↔ TurnEnters run turn st) := by
  obtain ⟨start, more, started, inputs, given, goes⟩ := turn_inputs validate pyStr run ran
  have seeded := turnContext_policy validate pyStr run turn st start
  simp only [governance, inputs, List.drop_left]
  constructor
  · intro policy mem
    obtain ⟨input, inside, rfl⟩ := List.mem_map.mp mem
    rcases List.mem_append.mp inside with first | later
    · exact (lookup_policy_entryInput turn.nodes run.plan first).trans seeded
    · exact given input later
  · have enters : TurnEnters run turn st ↔ entryInput turn.nodes run.plan
        (turnContext validate pyStr run turn st start) ≠ [] := by
      rw [entryInput_ne_nil_iff, turnContext_currentNodeId]
      simp only [TurnEnters, started, Option.mem_some_iff, exists_eq_left']
    rw [enters]
    constructor
    · intro nonempty first
      have none : more = [] := by
        by_contra added
        exact goes added first
      rw [first, none] at nonempty
      exact nonempty rfl
    · intro first
      simp [first]

/-- The policy in force for a turn has the loop limit of the recorded one, and the turn, unless it
enters no node, is seeded with the recorded policy. -/
def PolicyAgrees (turn : Turn) (store : RunStore) : Prop :=
  loopLimitOf (validate (turn.tables.resolve run.tenantId run.flowId))
      = loopLimitOf (validate run.runtimePolicy) ∧
    (TurnEnters run turn store → seededPolicy validate run turn store
      = policyEntry (validate run.runtimePolicy))

/-- A turn is governed by the recorded policy: always in process, and in the durable engine exactly
if the policy in force agrees. -/
theorem governed_iff {turn : Turn} {store : RunStore} {traversal : Traversal}
    (executed : executeTurn validate pyStr run turn store = some traversal)
    (kept : turn.tables.snapshotPolicies.lookup run.flowSnapshotId = some run.runtimePolicy) :
    GovernedByPinned validate run (governance validate run turn store traversal) ↔
      (turn.engine = .temporal → PolicyAgrees validate run turn store) := by
  obtain ⟨seeded, nonempty⟩ := nodePolicies_seeded validate pyStr run executed
  cases engine : turn.engine with
  | inProcess =>
    have policy : policyOf validate run turn = validate run.runtimePolicy := by
      unfold policyOf
      cases turn.kind <;> simp only [engine, kept]
    have entry : seededPolicy validate run turn store =
        policyEntry (validate run.runtimePolicy) := by
      simp only [seededPolicy, engine, policy]
    refine iff_of_true ⟨?_, ?_, ?_⟩ nofun
    · simp only [governance, policy]
    · simp only [governance, policy]
    · rw [← entry]
      exact seeded
  | temporal =>
    have policy : policyOf validate run turn =
        validate (turn.tables.resolve run.tenantId run.flowId) := by
      simp only [policyOf, engine]
    rw [PolicyAgrees, ← policy]
    constructor
    · rintro ⟨limit, _, given⟩ _
      refine ⟨limit, fun enters => ?_⟩
      obtain ⟨first, inside⟩ := List.exists_mem_of_ne_nil _ (nonempty.mpr enters)
      exact (seeded first inside).symm.trans (given first inside)
    · intro holds
      obtain ⟨limit, entry⟩ := holds rfl
      refine ⟨limit, ?_, fun given inside => ?_⟩
      · simp only [governance, limit]
      · rw [seeded given inside]
        exact entry (nonempty.mp (List.ne_nil_of_mem inside))

/-! ## The turns of a run -/

/-- A turn takes place, unless it resumes a run without a checkpoint. -/
def turnStep (store : RunStore) (turn : Turn) : Option RunStore :=
  (executeTurn validate pyStr run turn store).map Traversal.store

/-- **Every turn of a run is governed by the policy the run has recorded exactly if, at each turn
in the durable engine, the policy in force agrees with it.** -/
theorem pinned_policy_iff (store : RunStore) (turns : List Turn) (kept : ∀ turn ∈ turns,
      turn.tables.snapshotPolicies.lookup run.flowSnapshotId = some run.runtimePolicy) :
    (∀ t ∈ trace (turnStep validate pyStr run) store turns,
        ∀ traversal ∈ executeTurn validate pyStr run t.action t.before,
          GovernedByPinned validate run (governance validate run t.action t.before traversal)) ↔
      ∀ t ∈ trace (turnStep validate pyStr run) store turns,
        t.action.engine = .temporal → PolicyAgrees validate run t.action t.before := by
  refine forall₂_congr fun t taken => ?_
  obtain ⟨traversal, executed, -⟩ := Option.map_eq_some_iff.mp (LabelledSystem.step_of_trace taken)
  have unchanged := kept t.action (LabelledSystem.action_mem_of_trace taken)
  simp only [executed, Option.mem_some_iff, forall_eq']
  exact governed_iff validate pyStr run executed unchanged

end

def limitPolicy (limit : ℕ) : Fields := [("limits", .dict [("max_loop_iterations", .int limit)])]

variable (live : ℕ)

def policyTables : PolicyTables :=
  { flowPolicies := [((1, 10), limitPolicy live)]
    tenantPolicies := []
    defaultPolicy := []
    snapshotPolicies := [(13, limitPolicy 2)] }

/-- A run of that flow, created against the snapshot. -/
def limitedRun : PinnedRun fun _ => "hash" :=
  pinRun _ (policyTables 2) 1 10 13 (askingWorld.planOf 12)

def durableTurn (kind : TurnKind) : Turn :=
  { kind, engine := .temporal, nodes := blandWorld, tables := policyTables live }

def noTurns : RunStore := { nodeRuns := [], graphState := none }

def durableTraversal : Traversal :=
  FlowRunWorkflow.run blandWorld (limitPolicy live) (askingWorld.planOf 12) none noTurns

/-- The first turn, and a later one that finds its checkpoint. -/
def twoTurns : List Turn := [durableTurn 2 (.first none [] []), durableTurn 2 .resumed]

theorem unchanged_policy_governs :
    ((trace (turnStep id (fun _ => "") limitedRun) noTurns twoTurns).map fun t =>
        t.after.executedNodes) = [["s", "a"], ["s", "a", "a"]] ∧
      ∀ t ∈ trace (turnStep id (fun _ => "") limitedRun) noTurns twoTurns,
        ∀ traversal ∈ executeTurn id (fun _ => "") limitedRun t.action t.before,
          GovernedByPinned id limitedRun
            (governance id limitedRun t.action t.before traversal) := by
  have agrees : ∀ t ∈ trace (turnStep id (fun _ => "") limitedRun) noTurns twoTurns,
      loopLimitOf (t.action.tables.resolve 1 10) = loopLimitOf limitedRun.runtimePolicy ∧
        seededPolicy id limitedRun t.action t.before = policyEntry limitedRun.runtimePolicy := by
    decide +kernel
  refine ⟨by decide +kernel, (pinned_policy_iff id (fun _ => "") limitedRun noTurns twoTurns
    (by decide +kernel)).mpr fun t taken _ => ?_⟩
  exact ⟨(agrees t taken).1, fun _ => (agrees t taken).2⟩

/-- After an edit of the flow's policy the turn runs under the edited policy. -/
theorem edited_policy_governs :
    executeTurn id (fun _ => "") limitedRun (durableTurn 5 (.first none [] [])) noTurns
        = some (durableTraversal 5) ∧
      (governance id limitedRun (durableTurn 5 (.first none [] [])) noTurns
        (durableTraversal 5)).nodePolicies
          = [some (.dict (limitPolicy 5)), some (.dict (limitPolicy 5))] ∧
      ¬ GovernedByPinned id limitedRun
        (governance id limitedRun (durableTurn 5 (.first none [] [])) noTurns
          (durableTraversal 5)) := by
  refine ⟨rfl, by decide +kernel, fun governed => ?_⟩
  exact absurd governed.1 (by decide +kernel)

end AgentOrchestration.Execution
