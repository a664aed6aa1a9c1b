import AgentOrchestration.Library.BoundedRun
import AgentOrchestration.GraphRuntime.NodeStepRunner

/-!
# The in-process engine

`RuntimeExecutor.run` drives a flow run in one process: it threads the context
returned by each step and keeps one cumulative table of loop counters.
-/

namespace AgentOrchestration

set_option autoImplicit false

/-! ## Limits -/

/-- The default number of iterations of a loop edge, in both engines. -/
def defaultLoopLimit : ℕ := 10

variable (definition : Fields)

/-- The limits object of a policy definition: `definition.get("limits")`, or `{}`. -/
def policyLimits : Fields := ((definition.lookup "limits").bind Value.asDict?).getD []

/-- `_positive_int`: `int(raw)` when that is at least one, else the fallback. -/
def positiveInt (raw : Option Value) (fallback : ℕ) : ℕ :=
  match raw.bind Value.toInt? with
  | some value => if 1 ≤ value then value.toNat else fallback
  | none => fallback

def loopLimitOf : ℕ :=
  positiveInt ((policyLimits definition).lookup "max_loop_iterations") defaultLoopLimit

/-- `max_steps`, computed by both engines in the same way. -/
def maxSteps (plan : ExecutionPlan) (loopLimit : ℕ) : ℕ :=
  let edgeCount := (plan.adjacencyMap.map fun entry => entry.2.length).sum
  max (plan.orderedNodes.length + (if edgeCount = 0 then 1 else edgeCount) + 2)
    (loopLimit * max plan.adjacencyMap.length 1 + 2)

/-- `start_node_id or plan.start_node_id`. -/
def startNode (plan : ExecutionPlan) (startNodeId : Option String) : String :=
  match startNodeId with
  | some nodeId => if nodeId = "" then plan.startNodeId else nodeId
  | none => plan.startNodeId

/-! ## The read gate of the user context -/

/-- `USER_CONTEXT_READ_GATE_STATE_KEY`, and the policy entry of the same name. -/
def userContextKey : String := "user_context_enrichment"

def userContextPolicy : Option Fields :=
  match definition.lookup userContextKey with
  | some (.dict policy) =>
    if ((policy.lookup "enabled").getD .null).truthy then some policy else none
  | _ => none

/-- `UserContextEnrichmentMode` of a policy. -/
def gateMode (policy : Fields) : String :=
  if ((policy.lookup "gating").getD .null).truthy then "GATED" else "LEGACY"

variable (pyStr : Value → String)

/-- `str(handle.get("mode") or mode)`; `pyStr` is Python's `str` on values that are no strings. -/
def handleMode (handle : Fields) (mode : String) : String :=
  match handle.lookup "mode" with
  | some (.str text) => if text = "" then mode else text
  | some value => if value.truthy then pyStr value else mode
  | none => mode

def mergedHandle (policy handle : Fields) : Fields :=
  [("enabled", .bool true),
    ("published", .bool ((handle.lookup "published").getD (.bool false)).truthy),
   ("published_by_node_id", (handle.lookup "published_by_node_id").getD .null),
   ("published_at", (handle.lookup "published_at").getD .null),
   ("layers", .dict (((handle.lookup "layers").bind Value.asDict?).getD [])),
   ("mode", .str (handleMode pyStr handle (gateMode policy)))]

def mergeGate (definition state : Fields) : Fields :=
  match userContextPolicy definition with
  | none => state
  | some policy =>
    let handle := ((state.lookup userContextKey).bind Value.asDict?).getD []
    OrderedDict.set state userContextKey (.dict (mergedHandle pyStr policy handle))

def initialMetadata : Fields := if definition = [] then []
                                else [("runtime_policy", .dict definition)]

/-! ## Ends of a traversal -/

inductive FlowOutcome where
  | completed
  | waiting
  | failed
  deriving DecidableEq, Repr

/-- What an engine writes when a traversal ends; a failed run keeps its output. -/
structure RunEnd where
  outcome : FlowOutcome
  failureReason : Option FlowFailureReason
  output : Option Fields
  deriving DecidableEq

/-- A finished traversal: its end, `none` when an exception left the engine, and the tables. -/
structure Traversal where
  ending : Option RunEnd
  store : RunStore

def RunEnd.failed (reason : Option FlowFailureReason) : RunEnd :=
  { outcome := .failed, failureReason := reason, output := none }

namespace RuntimeExecutor

/-- The state of the loop of `RuntimeExecutor.run`. -/
structure Config where
  context : ExecutionContext
  store : RunStore

variable (w : NodeWorld)

/-- One iteration of the loop of `RuntimeExecutor.run`. The counters handed to the step are the
context's own dictionary, so the step's changes to them are seen in the context it returns. -/
def step (plan : ExecutionPlan) (loopLimit : ℕ) (config : Config) :
    BoundedRun.Outcome Config Traversal :=
  let run := NodeStepRunner.runStep w plan loopLimit config.context
    config.context.iterationCounters config.store
  match run.outcome with
  | none => .stopped { ending := none, store := run.store }
  | some outcome =>
    match outcome.status with
    | .failed => .stopped
        { ending := some (.failed outcome.failureReason), store := run.store }
    | .needsInput =>
      .stopped
        { ending := some
            { outcome := .waiting, failureReason := none, output := some outcome.nodeData }
          store := run.store }
    | .terminal =>
      .stopped
        { ending := some
            { outcome := .completed, failureReason := none, output := some outcome.nodeData }
          store := run.store }
    | .advance =>
      .running
        { context :=
            { outcome.context with
              currentNodeId := outcome.nextNodeId.getD outcome.context.currentNodeId
              iterationCounters := run.counters }
          store := run.store }

/-- The loop of `RuntimeExecutor.run` and the failure after it. -/
def traverse (plan : ExecutionPlan) (loopLimit steps : ℕ) (config : Config) :
    Traversal :=
  match BoundedRun.runFor (step w plan loopLimit) steps config with
  | .running last => { ending := some (.failed (some .maxStepsExceeded)), store := last.store }
  | .stopped traversal => traversal

/-- The context `RuntimeExecutor.run` starts its loop with. -/
def entryContext (definition : Fields) (plan : ExecutionPlan) (startNodeId : Option String)
    (initialState : Fields) (initialMemory : List Value) :
    ExecutionContext :=
  { currentNodeId := startNode plan startNodeId
    state := mergeGate pyStr definition initialState
    memory := initialMemory
    metadata := initialMetadata definition
    nodeOutput := []
    iterationCounters := [] }

def run (pyStr : Value → String) (definition : Fields) (plan : ExecutionPlan)
    (startNodeId : Option String) (initialState : Fields) (initialMemory : List Value)
    (store : RunStore) : Traversal :=
  let loopLimit := loopLimitOf definition
  traverse w plan loopLimit (maxSteps plan loopLimit)
    { context := entryContext pyStr definition plan startNodeId initialState initialMemory
      store }

end RuntimeExecutor

/-! ## Worlds that change -/

/-- One iteration of the loop of `RuntimeExecutor.run` in a world that changes from step to step;
the state carries the number of steps made. -/
def stepIn (worlds : ℕ → NodeWorld) (plan : ExecutionPlan) (loopLimit : ℕ)
    (state : ℕ × RuntimeExecutor.Config) :
    BoundedRun.Outcome (ℕ × RuntimeExecutor.Config) Traversal :=
  match RuntimeExecutor.step (worlds state.1) plan loopLimit state.2 with
  | .running next => .running (state.1 + 1, next)
  | .stopped traversal => .stopped traversal

theorem running_of_stepIn {worlds plan loopLimit st next}
    (stepped : stepIn worlds plan loopLimit st = .running next) :
    RuntimeExecutor.step (worlds st.1) plan loopLimit st.2 = .running next.2 := by
  unfold stepIn at stepped
  split at stepped
  · cases stepped
    assumption
  · cases stepped

/-- What a traversal has come to: a loop that is still going has made all its steps. -/
def ended {σ : Type} (store : σ → RunStore) : BoundedRun.Outcome σ Traversal → Traversal
  | .running last => { ending := some (.failed (some .maxStepsExceeded)), store := store last }
  | .stopped traversal => traversal

theorem ended_eq_of_related {σ τ : Type} {R : σ → τ → Prop} {store store'}
    (stores : ∀ s t, R s t → store s = store' t) {first second}
    (related : BoundedRun.Outcome.Related R Eq first second) :
    ended store first = ended store' second := by
  cases related with
  | running related => rw [ended, ended, stores _ _ related]
  | stopped eq => exact eq

/-- `RuntimeExecutor.run` in a world that changes from step to step. -/
def runIn (worlds : ℕ → NodeWorld) (pyStr : Value → String) (definition : Fields)
    (plan : ExecutionPlan) (startNodeId : Option String) (initialState : Fields)
    (initialMemory : List Value) (store : RunStore) : Traversal :=
  let loopLimit := loopLimitOf definition
  ended (fun state => state.2.store) <|
    BoundedRun.runFor (stepIn worlds plan loopLimit) (maxSteps plan loopLimit)
      (0, { context := RuntimeExecutor.entryContext pyStr definition plan startNodeId initialState
              initialMemory
            store })

/-- In a world that stays the same it is `RuntimeExecutor.run`. -/
theorem runIn_const (w pyStr flow plan startNodeId initialState initialMemory st) :
    runIn (fun _ => w) pyStr flow plan startNodeId initialState initialMemory st =
      RuntimeExecutor.run w pyStr flow plan startNodeId initialState initialMemory st := by
  have traversed (steps : ℕ) (cfg : RuntimeExecutor.Config) :
      RuntimeExecutor.traverse w plan (loopLimitOf flow) steps cfg =
        ended RuntimeExecutor.Config.store
          (BoundedRun.runFor (RuntimeExecutor.step w plan (loopLimitOf flow)) steps cfg) := by
    unfold RuntimeExecutor.traverse
    cases BoundedRun.runFor _ steps cfg <;> rfl
  simp only [runIn, RuntimeExecutor.run, traversed]
  refine ended_eq_of_related (R := fun (state : ℕ × RuntimeExecutor.Config) cfg => state.2 = cfg)
    (fun _ _ eq => congrArg _ eq)
    (BoundedRun.runFor_lockstep ?_ _ _ _ rfl)
  rintro ⟨count, cfg⟩ _ rfl
  unfold stepIn
  cases RuntimeExecutor.step w plan (loopLimitOf flow) cfg with
  | running next => exact .running rfl
  | stopped traversal => exact .stopped rfl

end AgentOrchestration
