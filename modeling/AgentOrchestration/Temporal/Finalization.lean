import AgentOrchestration.Library.Retry
import AgentOrchestration.Temporal.FlowRunWorkflow

/-!
# Whether a workflow is finalized

`FlowRunWorkflow.run` over arbitrary activities: every attempt of
`prepare_flow_run` and `execute_node` may return, raise or time out, and is
retried under the policy the workflow gives it. The history records the
activities in the order the workflow calls them. Attempts of `finalize_flow_run`
may be lost after any of their calls, which are then made again.
-/

namespace AgentOrchestration.Temporal

set_option autoImplicit false

open FlowRunActivities
open Retry (Attempt Policy perform FailsForGood)

/-! ## Activities and the history of a workflow -/

/-- `FlowRunPlanSummary`, the entries the workflow reads. -/
structure FlowRunPlanSummary where
  startNodeId : String
  maxSteps : ℕ
  loopLimit : ℕ
  toolsMaxRetries : ℕ

/-- `ExecuteNodeInput`, the entries that change from call to call. -/
structure ExecuteNodeInput where
  nodeId : String
  stepIndex : ℕ
  loopLimit : ℕ
  deriving DecidableEq

/-- `FinalizeFlowRunInput`, the entries that `_finalize` does not copy from the payload. -/
structure FinalizeFlowRunInput where
  outcome : FlowOutcome
  failureReason : Option FlowFailureReason
  lastNodeId : Option String
  lastNodeRunId : Option ℕ
  deriving DecidableEq

structure FlowRunWorkflowResult where
  outcome : FlowOutcome
  failureReason : Option FlowFailureReason
  stepsExecuted : ℕ

/-- The activities over a database: attempts that may fail, and a finalization that succeeds. -/
structure Activities (σ : Type) where
  prepareFlowRun : ℕ → σ → Attempt FlowRunPlanSummary × σ
  executeNode : ExecuteNodeInput → ℕ → σ → Attempt ExecuteNodeOutput × σ
  finalizeFlowRun : FinalizeFlowRunInput → σ → σ

inductive ActivityCall where
  | prepareFlowRun
  | executeNode (input : ExecuteNodeInput)
  | finalizeFlowRun (input : FinalizeFlowRunInput)
  deriving DecidableEq

def finalizations (history : List ActivityCall) : List FinalizeFlowRunInput :=
  history.filterMap fun
    | .finalizeFlowRun input => some input
    | _ => none

structure WorkflowEnd (σ : Type) where
  result : Option FlowRunWorkflowResult
  history : List ActivityCall
  store : σ

/-! ## The workflow -/

def nonRetryableErrorTypes : List String :=
  ["DomainValidationException", "NotFoundServiceException", "TypeError", "AttributeError"]

/-- The retry policy of `prepare_flow_run`. -/
def prepareRetryPolicy : Policy := { maximumAttempts := 3, nonRetryableErrorTypes }

def nodeRetryPolicy (summary : FlowRunPlanSummary) : Policy :=
  { maximumAttempts := summary.toolsMaxRetries + 1, nonRetryableErrorTypes }

/-- The state of the loop of `FlowRunWorkflow.run`. -/
structure Config (σ : Type) where
  currentNodeId : String
  stepIndex : ℕ
  counters : List (String × ℕ)
  history : List ActivityCall
  store : σ

section

variable {σ : Type} (acts : Activities σ)

def finalize (stepsExecuted : ℕ) (history : List ActivityCall) (input : FinalizeFlowRunInput)
    (store : σ) : WorkflowEnd σ :=
  { result :=
      some { outcome := input.outcome, failureReason := input.failureReason, stepsExecuted }
    history := history ++ [.finalizeFlowRun input]
    store := acts.finalizeFlowRun input store }

variable (summary : FlowRunPlanSummary) (config : Config σ)

/-- What the workflow passes to `execute_node` at a position. -/
def nodeInput : ExecuteNodeInput :=
  { nodeId := config.currentNodeId, stepIndex := config.stepIndex, loopLimit := summary.loopLimit }

def afterNode (loopLimit : ℕ) (config : Config σ) (output : ExecuteNodeOutput) :
    BoundedRun.Outcome (Config σ) (WorkflowEnd σ) :=
  let ending (outcome : FlowOutcome) (failureReason : Option FlowFailureReason) :=
    finalize acts config.stepIndex config.history
      { outcome, failureReason, lastNodeId := some config.currentNodeId,
        lastNodeRunId := output.nodeRunId } config.store
  match Tally.recount loopLimit config.counters output.loopEdgeKeys with
  | none => .stopped (ending .failed (some .edgeEvaluationError))
  | some counters =>
    if output.status = .needsInput then .stopped (ending .waiting none)
    else if output.terminal then .stopped (ending .completed none)
    else
      match output.status, output.nextNodeId with
      | .success, some next => .running { config with currentNodeId := next, counters }
      | _, _ => .stopped (ending .failed (some (output.failureReason.getD .structuralError)))

/-- One iteration of the loop of `FlowRunWorkflow.run`: an `execute_node` that fails for good
raises out of it. -/
def step : BoundedRun.Outcome (Config σ) (WorkflowEnd σ) :=
  let input := nodeInput summary config
  let history := config.history ++ [.executeNode input]
  match perform (nodeRetryPolicy summary) (acts.executeNode input) config.store with
  | (none, store) => .stopped { result := none, history, store }
  | (some output, store) =>
    afterNode acts summary.loopLimit { config with
                                       stepIndex := config.stepIndex + 1, history, store } output

variable (startNodeId : Option String) (store : σ)

/-- `payload.start_node_id or summary.start_node_id`, with the state the loop begins in. -/
def start : Config σ :=
  { currentNodeId := (startNodeId.filter (· ≠ "")).getD summary.startNodeId
    stepIndex := 0
    counters := []
    history := [.prepareFlowRun]
    store }

/-- The loop of `FlowRunWorkflow.run` and the failure after it. -/
def traverse : WorkflowEnd σ :=
  match BoundedRun.runFor (step acts summary) summary.maxSteps config with
  | .running last =>
    finalize acts last.stepIndex last.history
      { outcome := .failed, failureReason := some .maxStepsExceeded,
        lastNodeId := some last.currentNodeId, lastNodeRunId := none } last.store
  | .stopped ended => ended

/-- `FlowRunWorkflow.run`; only the failure of the preparation is caught. -/
def run : WorkflowEnd σ :=
  match perform prepareRetryPolicy acts.prepareFlowRun store with
  | (none, store) =>
    finalize acts 0 [.prepareFlowRun]
      { outcome := .failed, failureReason := some .structuralError,
        lastNodeId := none, lastNodeRunId := none } store
  | (some summary, store) => traverse acts summary (start summary startNodeId store)

end

/-! ## The summary of a plan -/

def defaultMaxRetries : ℕ := 3

variable (definition : Fields)

/-- `tools_max_retries` of a policy. -/
def toolsMaxRetriesOf : ℕ :=
  match definition.lookup "tools" with
  | some (.dict policy) => positiveInt (policy.lookup "max_retries") defaultMaxRetries
  | _ => defaultMaxRetries

/-- The summary `prepare_flow_run` returns. -/
def summaryOf (plan : ExecutionPlan) (startNodeId : Option String) :
    FlowRunPlanSummary :=
  { startNodeId := startNode plan startNodeId
    maxSteps := maxSteps plan (loopLimitOf definition)
    loopLimit := loopLimitOf definition
    toolsMaxRetries := toolsMaxRetriesOf definition }

/-! ## The activities of the model -/

/-- The modelled activities, one attempt each. -/
def modelled (w : NodeWorld) (plan : ExecutionPlan) (startNodeId : Option String) :
    Activities Traversal where
  prepareFlowRun _ traversal :=
    (.returned (summaryOf definition plan startNodeId),
      { traversal with store := prepareFlowRun definition plan startNodeId traversal.store })
  executeNode input _ traversal :=
    match executeNode w plan input.loopLimit input.nodeId traversal.store with
    | (some output, store) => (.returned output, { traversal with store })
    | (none, store) => (.failed "NotFoundServiceException" true, { traversal with store })
  finalizeFlowRun input traversal :=
    FlowRunActivities.finalizeFlowRun input.outcome input.failureReason input.lastNodeRunId
      traversal.store

/-- A position of the workflow over the modelled activities, and the one it stands for. -/
structure SamePosition (config : Config Traversal) (position : FlowRunWorkflow.Config) : Prop where
  node : config.currentNodeId = position.currentNodeId
  counters : config.counters = position.counters
  store : config.store = { ending := none, store := position.store }

section

variable (w : NodeWorld) (plan : ExecutionPlan) (startNodeId : Option String)

/-- The two models of an iteration end alike, or go on alike. -/
abbrev SameOutcome :
    BoundedRun.Outcome (Config Traversal) (WorkflowEnd Traversal) →
      BoundedRun.Outcome FlowRunWorkflow.Config Traversal → Prop :=
  BoundedRun.Outcome.Related SamePosition fun ended traversal => ended.store = traversal

theorem afterNode_modelled (loopLimit : ℕ) {config : Config Traversal}
    {position : FlowRunWorkflow.Config} {store : RunStore} (output : ExecuteNodeOutput)
    (same : SamePosition config { position with store := store }) :
    SameOutcome (afterNode (modelled definition w plan startNodeId) loopLimit config output)
      (FlowRunWorkflow.afterNode loopLimit position output store) := by
  obtain ⟨node, counters, stored⟩ := same
  have finalized (input : FinalizeFlowRunInput) :
      (finalize (modelled definition w plan startNodeId) config.stepIndex config.history input
        config.store).store
        = finalizeFlowRun input.outcome input.failureReason input.lastNodeRunId store := by
    rw [stored]
    rfl
  simp only [afterNode, FlowRunWorkflow.afterNode, counters]
  cases Tally.recount loopLimit position.counters output.loopEdgeKeys with
  | none => exact .stopped (finalized _)
  | some counted =>
      by_cases waits : output.status = .needsInput
      · simp only [waits, if_true]
        exact .stopped (finalized _)
      by_cases terminal : output.terminal = true
      · simp only [waits, terminal, if_true, if_false]
        exact .stopped (finalized _)
      simp only [waits, terminal, if_false]
      cases output.status <;> cases output.nextNodeId
      case success.some next => exact .running ⟨rfl, rfl, stored⟩
      all_goals exact .stopped (finalized _)

/-- One iteration over the modelled activities is one iteration of the model. -/
theorem step_modelled (summary : FlowRunPlanSummary) (config : Config Traversal)
    (position : FlowRunWorkflow.Config) (same : SamePosition config position) :
    SameOutcome (step (modelled definition w plan startNodeId) summary config)
      (FlowRunWorkflow.step w plan summary.loopLimit position) := by
  have allowed : 0 < (nodeRetryPolicy summary).maximumAttempts := Nat.succ_pos _
  obtain ⟨node, counters, stored⟩ := same
  rw [FlowRunWorkflow.step]
  cases executed : executeNode w plan summary.loopLimit position.currentNodeId position.store with
  | mk output store =>
      cases output with
      | none =>
          have failed : (modelled definition w plan startNodeId).executeNode
              (nodeInput summary config) 0 config.store
                = (.failed "NotFoundServiceException" true, { ending := none, store }) := by
            simp only [modelled, nodeInput, node, stored, executed]
          simp only [step, Retry.perform_of_first allowed failed rfl]
          exact .stopped rfl
      | some output =>
          have returned : (modelled definition w plan startNodeId).executeNode
              (nodeInput summary config) 0 config.store
                = (.returned output, { ending := none, store }) := by
            simp only [modelled, nodeInput, node, stored, executed]
          simp only [step, Retry.perform_of_first allowed returned rfl]
          exact afterNode_modelled definition w plan startNodeId summary.loopLimit output
            ⟨node, counters, rfl⟩

theorem traverse_modelled (summary : FlowRunPlanSummary) (config : Config Traversal)
    (position : FlowRunWorkflow.Config) (same : SamePosition config position) :
    (traverse (modelled definition w plan startNodeId) summary config).store
      = FlowRunWorkflow.traverse w plan summary.loopLimit summary.maxSteps position := by
  have walked := BoundedRun.runFor_lockstep (step_modelled definition w plan startNodeId summary)
    summary.maxSteps config position same
  rw [traverse, FlowRunWorkflow.traverse]
  generalize BoundedRun.runFor (step _ summary) summary.maxSteps config = left,
    BoundedRun.runFor (FlowRunWorkflow.step w plan _) summary.maxSteps position = right at walked
  cases walked with
  | running last =>
      simp only [finalize, last.store]
      rfl
  | stopped same => exact same

theorem start_modelled (store : RunStore) :
    SamePosition
      (start (summaryOf definition plan startNodeId) startNodeId { ending := none, store })
      { currentNodeId := startNode plan startNodeId, counters := [], store } := by
  refine ⟨?_, rfl, rfl⟩
  cases startNodeId with
  | none => rfl
  | some nodeId =>
    by_cases empty : nodeId = "" <;> simp [start, summaryOf, startNode, Option.filter_some, empty]

/-- With the modelled activities, the workflow leaves what the model says it does. -/
theorem run_modelled (store : RunStore) :
    (run (modelled definition w plan startNodeId) startNodeId { ending := none, store }).store
      = FlowRunWorkflow.run w definition plan startNodeId store := by
  have allowed : 0 < prepareRetryPolicy.maximumAttempts := by decide
  have prepared : perform prepareRetryPolicy (modelled definition w plan startNodeId).prepareFlowRun
      { ending := none, store }
        = (some (summaryOf definition plan startNodeId),
            { ending := none, store := prepareFlowRun definition plan startNodeId store }) :=
    Retry.perform_of_first allowed (show _ = (Retry.Attempt.returned _, _) from rfl) rfl
  rw [run, prepared]
  exact traverse_modelled definition w plan startNodeId _ _ _
    (start_modelled definition plan startNodeId _)

end

/-! ## What one iteration does -/

theorem finalizations_append (history later : List ActivityCall) :
    finalizations (history ++ later) = finalizations history ++ finalizations later :=
  List.filterMap_append

section

variable {σ : Type} (acts : Activities σ)

theorem afterNode_cases (loopLimit) (cfg : Config σ) (output) :
    (∃ next, afterNode acts loopLimit cfg output = .running next ∧
        next.history = cfg.history ∧ next.store = cfg.store) ∨
      ∃ input, afterNode acts loopLimit cfg output
        = .stopped (finalize acts cfg.stepIndex cfg.history input cfg.store) := by
  rw [afterNode]
  cases Tally.recount loopLimit cfg.counters output.loopEdgeKeys with
  | none => exact .inr ⟨_, rfl⟩
  | some counted =>
    by_cases waits : output.status = .needsInput
    · simp only [waits, if_true]
      exact .inr ⟨_, rfl⟩
    by_cases terminal : output.terminal = true
    · simp only [waits, terminal, if_true, if_false]
      exact .inr ⟨_, rfl⟩
    simp only [waits, terminal, if_false]
    cases output.status <;> cases output.nextNodeId
    case success.some next => exact .inl ⟨_, rfl, rfl, rfl⟩
    all_goals exact .inr ⟨_, rfl⟩

inductive StepEnds (summary : FlowRunPlanSummary) (config : Config σ) :
    Option ExecuteNodeOutput × σ → BoundedRun.Outcome (Config σ) (WorkflowEnd σ) → Prop where
  | raised (after : σ) : StepEnds summary config (none, after) (.stopped
        { result := none, store := after
          history := config.history ++ [.executeNode (nodeInput summary config)] })
  | advanced (output : ExecuteNodeOutput) (after : σ) (next : Config σ) (kept : next.store = after)
      (history : next.history = config.history ++ [.executeNode (nodeInput summary config)]) :
      StepEnds summary config (some output, after) (.running next)
  | finalized (output : ExecuteNodeOutput) (after : σ) (input : FinalizeFlowRunInput) :
      StepEnds summary config (some output, after) (.stopped (finalize acts (config.stepIndex + 1)
          (config.history ++ [.executeNode (nodeInput summary config)]) input after))

variable (summary : FlowRunPlanSummary) (config : Config σ)

theorem step_ends : StepEnds acts summary config
      (perform (nodeRetryPolicy summary) (acts.executeNode (nodeInput summary config)) config.store)
      (step acts summary config) := by
  rw [step]
  obtain ⟨_ | output, after⟩ :=
    perform (nodeRetryPolicy summary) (acts.executeNode (nodeInput summary config)) config.store
  · exact .raised after
  obtain ⟨next, result, history, kept⟩ | ⟨input, result⟩ := afterNode_cases acts summary.loopLimit
    { config with
      stepIndex := config.stepIndex + 1
      history := config.history ++ [.executeNode (nodeInput summary config)]
      store := after } output
  · dsimp only
    rw [result]
    exact .advanced output after next kept history
  · dsimp only
    rw [result]
    exact .finalized output after input

/-- How an iteration ends, by whether its activity fails for good. -/
inductive Iteration (summary : FlowRunPlanSummary) (config : Config σ) :
    BoundedRun.Outcome (Config σ) (WorkflowEnd σ) → Prop where
  | raised (ended : WorkflowEnd σ)
      (fails : FailsForGood (nodeRetryPolicy summary) (acts.executeNode (nodeInput summary config))
        config.store)
      (history : finalizations ended.history = finalizations config.history) :
      Iteration summary config (.stopped ended)
  | advanced (next : Config σ)
      (returns : ¬ FailsForGood (nodeRetryPolicy summary)
        (acts.executeNode (nodeInput summary config)) config.store)
      (history : finalizations next.history = finalizations config.history) :
      Iteration summary config (.running next)
  | finalized (ended : WorkflowEnd σ)
      (returns : ¬ FailsForGood (nodeRetryPolicy summary)
        (acts.executeNode (nodeInput summary config)) config.store)
      (input : FinalizeFlowRunInput)
      (history : finalizations ended.history = finalizations config.history ++ [input]) :
      Iteration summary config (.stopped ended)

theorem step_iteration : Iteration acts summary config (step acts summary config) := by
  have called : finalizations (config.history ++ [.executeNode (nodeInput summary config)])
      = finalizations config.history := by
    rw [finalizations_append]
    exact List.append_nil _
  have ends := step_ends acts summary config
  generalize performed : perform (nodeRetryPolicy summary)
    (acts.executeNode (nodeInput summary config)) config.store = outcome at ends
  generalize step acts summary config = result at ends ⊢
  have returns {output : ExecuteNodeOutput} {after : σ} (gave : outcome = (some output, after)) :
      ¬ FailsForGood (nodeRetryPolicy summary) (acts.executeNode (nodeInput summary config))
        config.store := by
    rw [FailsForGood, performed, gave]
    exact fun impossible => nomatch impossible
  cases ends with
  | raised after => exact .raised _ (congrArg Prod.fst performed) called
  | advanced output after next kept history => exact .advanced next (returns rfl) (history ▸ called)
  | finalized output after input =>
    refine .finalized _ (returns rfl) input ?_
    rw [finalize, finalizations_append, called]
    rfl

/-! ## Whole runs -/

/-- Every `execute_node` the traversal calls returns within its attempts. -/
def NodesReturn (first : Config σ) : Prop :=
  ∀ n < summary.maxSteps, ∀ config,
    BoundedRun.runFor (step acts summary) n first = .running config →
      ¬ FailsForGood (nodeRetryPolicy summary) (acts.executeNode (nodeInput summary config))
        config.store

variable {first : Config σ}

/-- The loop reaches only positions at which the run is not finalized yet. -/
theorem reached_unfinalized (fresh : finalizations first.history = []) (n : ℕ) (cfg : Config σ)
    (reached : BoundedRun.runFor (step acts summary) n first = .running cfg) :
    finalizations cfg.history = [] := by
  refine (BoundedRun.runFor_invariant (I := fun cfg => finalizations cfg.history = [])
    (Q := fun _ => True) (fun before after unfinalized moved => ?_) (fun _ _ _ _ => trivial)
    n first fresh).1 cfg reached
  have iter := step_iteration acts summary before
  rw [moved] at iter
  cases iter with
  | advanced _ returns history => exact history.trans unfinalized

theorem traverse_finalized_iff (fresh : finalizations first.history = []) :
    (finalizations (traverse acts summary first).history).length = 1 ↔
      NodesReturn acts summary first := by
  have unfinalized := reached_unfinalized acts summary fresh
  rw [traverse]
  constructor
  · intro once n within config reached fails
    -- the iteration at this position raises, so the loop ends there
    have iter := step_iteration acts summary config
    cases ended : step acts summary config with
    | running next =>
      rw [ended] at iter
      cases iter with
      | advanced _ returns history => exact returns fails
    | stopped res =>
      have stops := (BoundedRun.runFor_eq_stopped_iff summary.maxSteps first).mpr
        ⟨n, within, config, reached, ended⟩
      rw [ended] at iter
      simp only [stops] at once
      cases iter with
      | raised _ _ history =>
        rw [history, unfinalized n config reached] at once
        cases once
      | finalized _ returns _ _ => exact returns fails
  · intro returns
    cases res : BoundedRun.runFor (step acts summary) summary.maxSteps first with
    | running last =>
      simp only [finalize, finalizations_append, unfinalized _ last res]
      rfl
    | stopped ended =>
      obtain ⟨n, within, config, reached, stops⟩ :=
        (BoundedRun.runFor_eq_stopped_iff summary.maxSteps first).mp res
      have iter := step_iteration acts summary config
      rw [stops] at iter
      cases iter with
      | raised _ fails _ => exact absurd fails (returns n within config reached)
      | finalized _ _ input history =>
        simp only [history, unfinalized n config reached]
        rfl

/-- **A workflow is finalized exactly once if and only if every `execute_node` it calls returns
within its attempts**, whatever becomes of the preparation. -/
theorem finalized_once_iff (startNodeId : Option String) (store : σ) :
    (finalizations (run acts startNodeId store).history).length = 1 ↔ ∀ summary prepared,
          perform prepareRetryPolicy acts.prepareFlowRun store = (some summary, prepared) →
            NodesReturn acts summary (start summary startNodeId prepared) := by
  rw [run]
  cases perform prepareRetryPolicy acts.prepareFlowRun store with
  | mk outcome prepared =>
    cases outcome with
    | none => exact ⟨fun _ => nofun, fun _ => rfl⟩
    | some summary =>
      refine (traverse_finalized_iff acts summary rfl).trans ⟨?_, fun returns => ?_⟩
      · rintro returns _ _ ⟨⟩
        exact returns
      · exact returns summary prepared rfl

end

/-- Activities whose preparation returns a summary and whose nodes end every attempt alike. -/
def everyNode (attempt : Attempt ExecuteNodeOutput) : Activities Unit where
  prepareFlowRun _ _ :=
    (.returned { startNodeId := "start", maxSteps := 4, loopLimit := 10, toolsMaxRetries := 3 }, ())
  executeNode _ _ _ := (attempt, ())
  finalizeFlowRun _ _ := ()

/-- A node that raises a `TypeError`, or times out in all its attempts, leaves the run without a
finalization. -/
theorem failed_node_not_finalized :
    finalizations (run (everyNode (.failed "TypeError" false)) none ()).history = [] ∧
      finalizations (run (everyNode .timedOut) none ()).history = [] :=
  ⟨by decide, by decide⟩

/-! ## Attempts of `finalize_flow_run` -/

/-- The awaited calls of `finalize_flow_run`. -/
inductive FinalizeCall where
  | getNodeRun
  | completeFlowRun
  | setInteractionResult
  | getGraphState
  | appendFlowCompleted
  | setFlowRunOutput
  | setFlowRunStatus
  | formatException
  | failFlowRun
  | appendFlowFailed
  | setIdempotencyResult
  deriving DecidableEq

/-- The awaited calls in order; the key is only released when the workflow was given one. -/
def finalizeCalls (keyed : Bool) (input : FinalizeFlowRunInput) : List FinalizeCall :=
  (if input.lastNodeRunId.isSome then [.getNodeRun] else []) ++
    (match input.outcome with
      | .completed =>
        [.completeFlowRun, .setInteractionResult, .getGraphState, .appendFlowCompleted]
      | .waiting => [.setFlowRunOutput, .setInteractionResult, .setFlowRunStatus]
      | .failed => [.formatException, .failFlowRun, .appendFlowFailed]) ++
    if keyed then [.setIdempotencyResult] else []

def terminalEvents (calls : List FinalizeCall) : List FinalizeCall :=
  calls.filter fun call => call = .appendFlowCompleted ∨ call = .appendFlowFailed

/-- An attempt of `finalize_flow_run`: how many of its calls it has made, and whether the append of
its event raised, which the hook swallows. -/
structure FinalizeAttempt where
  made : ℕ
  swallowed : Bool
  deriving DecidableEq

def FinalizeAttempt.events (keyed : Bool) (input : FinalizeFlowRunInput)
    (attempt : FinalizeAttempt) : List FinalizeCall :=
  if attempt.swallowed then [] else terminalEvents ((finalizeCalls keyed input).take attempt.made)

/-- The attempts of a finalization: those that are lost, and what becomes of the append of the one
that succeeds. -/
structure FinalizeAttempts where
  lost : List FinalizeAttempt := []
  swallowed : Bool := false

/-- The attempt that succeeds makes all its calls. -/
def FinalizeAttempts.last (keyed : Bool) (input : FinalizeFlowRunInput)
    (attempts : FinalizeAttempts) : FinalizeAttempt :=
  ⟨(finalizeCalls keyed input).length, attempts.swallowed⟩

/-- The terminal events of one finalization. -/
def eventsOf (keyed : Bool) (attempts : FinalizeAttempts) (input : FinalizeFlowRunInput) :
    List FinalizeCall :=
  (attempts.lost ++ [attempts.last keyed input]).flatMap (FinalizeAttempt.events keyed input)

def turnEvents (keyed : Bool) (attempts : FinalizeFlowRunInput → FinalizeAttempts)
    (history : List ActivityCall) : List FinalizeCall :=
  (finalizations history).flatMap fun input => eventsOf keyed (attempts input) input

/-- The attempt has appended its event. -/
def FinalizeAttempt.appends (keyed : Bool) (input : FinalizeFlowRunInput)
    (attempt : FinalizeAttempt) : Bool :=
  attempt.events keyed input ≠ []

/-- Of all the attempts one has appended its event: the one that succeeds, or else a single one of
those that were lost. -/
def FinalizeAttempts.AppendOnce (keyed : Bool) (input : FinalizeFlowRunInput)
    (attempts : FinalizeAttempts) : Prop :=
  (attempts.swallowed = true → attempts.lost.countP (·.appends keyed input) = 1) ∧
    (attempts.swallowed = false →
      ∀ attempt ∈ attempts.lost, attempt.appends keyed input = false)

instance (keyed : Bool) (input : FinalizeFlowRunInput) (attempts : FinalizeAttempts) :
    Decidable (attempts.AppendOnce keyed input) :=
  inferInstanceAs (Decidable ((attempts.swallowed = true → _ = 1) ∧
    (attempts.swallowed = false → ∀ attempt ∈ attempts.lost, _ = false)))

def FlowOutcome.terminalEvents : FlowOutcome → ℕ
  | .waiting => 0
  | _ => 1

theorem length_terminalEvents (keyed : Bool) (input : FinalizeFlowRunInput) :
    (terminalEvents (finalizeCalls keyed input)).length =
      FlowOutcome.terminalEvents input.outcome := by
  unfold finalizeCalls
  cases input.outcome <;> cases keyed <;> split <;> rfl

section

variable {keyed : Bool} {input : FinalizeFlowRunInput}

variable (keyed input) in
theorem length_events_le (attempt : FinalizeAttempt) :
    (attempt.events keyed input).length ≤ FlowOutcome.terminalEvents input.outcome := by
  unfold FinalizeAttempt.events
  split
  · exact Nat.zero_le _
  · rw [← length_terminalEvents keyed input]
    exact ((List.take_sublist _ _).filter _).length_le

theorem length_events (attempt : FinalizeAttempt) :
    (attempt.events keyed input).length = if attempt.appends keyed input then 1 else 0 := by
  have few := length_events_le keyed input attempt
  have single : FlowOutcome.terminalEvents input.outcome ≤ 1 := by cases input.outcome <;> decide
  unfold FinalizeAttempt.appends
  cases events : attempt.events keyed input with
  | nil => rfl
  | cons event rest =>
    rw [events, List.length_cons] at few
    have : rest.length = 0 := by omega
    simp [this]

theorem length_flatMap_events (attempts : List FinalizeAttempt) :
    (attempts.flatMap (FinalizeAttempt.events keyed input)).length =
      attempts.countP (·.appends keyed input) := by
  induction attempts with
  | nil => rfl
  | cons attempt rest ih =>
    rw [List.flatMap_cons, List.length_append, length_events, ih, List.countP_cons, Nat.add_comm]

theorem length_eventsOf (attempts : FinalizeAttempts) :
    (eventsOf keyed attempts input).length =
      attempts.lost.countP (·.appends keyed input) +
        if attempts.swallowed then 0 else FlowOutcome.terminalEvents input.outcome := by
  rw [eventsOf, List.flatMap_append, List.length_append, length_flatMap_events,
    List.flatMap_singleton, FinalizeAttempts.last, FinalizeAttempt.events, List.take_length]
  split
  · rfl
  · rw [length_terminalEvents]

/-- A finalization that waits appends nothing, and any other appends one event exactly if one of its
attempts does. -/
theorem eventsOf_iff (attempts : FinalizeAttempts) :
    (eventsOf keyed attempts input).length = FlowOutcome.terminalEvents input.outcome ↔
      (input.outcome ≠ .waiting → attempts.AppendOnce keyed input) := by
  rw [length_eventsOf]
  by_cases waits : input.outcome = .waiting
  · have silent : attempts.lost.countP (·.appends keyed input) = 0 := by
      refine List.countP_eq_zero.mpr fun attempt _ appends => ?_
      have few := length_events_le keyed input attempt
      rw [length_events, if_pos appends, waits] at few
      cases few
    simp [silent, waits, FlowOutcome.terminalEvents]
  · have one : FlowOutcome.terminalEvents input.outcome = 1 := by
      cases outcome : input.outcome <;> simp_all [FlowOutcome.terminalEvents]
    rw [one, FinalizeAttempts.AppendOnce]
    cases attempts.swallowed <;> simp [waits, List.countP_eq_zero]

end

section

variable {σ : Type} (acts : Activities σ)

/-- A workflow that returns has finalized its run once, with the outcome it returns. -/
def WorkflowEnd.Told (ended : WorkflowEnd σ) : Prop :=
  ∀ result ∈ ended.result, ∃ input, finalizations ended.history = [input] ∧
    input.outcome = result.outcome

theorem told_finalize {history : List ActivityCall} (unfinalized : finalizations history = [])
    (stepsExecuted input store) : (finalize acts stepsExecuted history input store).Told := by
  rintro result ⟨⟩
  refine ⟨input, ?_, rfl⟩
  rw [finalize, finalizations_append, unfinalized]
  rfl

theorem told_run (startNodeId : Option String) (store : σ) : (run acts startNodeId store).Told := by
  rw [run]
  obtain ⟨_ | summary, prepared⟩ := perform prepareRetryPolicy acts.prepareFlowRun store
  · exact told_finalize acts rfl _ _ _
  have unfinalized := reached_unfinalized acts summary
    (show finalizations (start summary startNodeId prepared).history = [] from rfl)
  dsimp only [traverse]
  cases walked : BoundedRun.runFor (step acts summary) summary.maxSteps
      (start summary startNodeId prepared) with
  | running last => exact told_finalize acts (unfinalized _ last walked) _ _ _
  | stopped ended =>
    obtain ⟨n, -, config, reached, stops⟩ := (BoundedRun.runFor_eq_stopped_iff _ _).mp walked
    have ends := step_ends acts summary config
    rw [stops] at ends
    generalize perform _ (acts.executeNode (nodeInput summary config)) config.store =
      outcome at ends
    cases ends with
    | raised after => exact nofun
    | finalized output after input =>
      refine told_finalize acts ?_ _ _ _
      rw [finalizations_append, unfinalized n config reached]
      rfl

end

/-- Nodes that end the turn at once. -/
def oneStep : Activities Unit :=
  everyNode (.returned
    { nodeType := "ResponseBuilder", nodeRunId := some 0, status := .success, terminal := true })

end AgentOrchestration.Temporal
