import AgentOrchestration.Execution.ResumeFlowRun

/-!
# Reported failures

`get_flow_run` recovers the reason of a failed run from the first page of its events. It queries
them without the `tenant_id` that the repository requires.
-/

namespace AgentOrchestration.Execution

set_option autoImplicit false

open Lifecycle (Verdict)

/-- `ExecutionEventType`, as far as `get_flow_run` tells the types apart. -/
inductive EventKind where
  | flowFailed
  | other
  deriving DecidableEq

/-- A row of `execution_event`, with the `reason` of its payload if that is a dict that has one. -/
structure EventRow where
  tenantId : ℕ
  flowRunId : ℕ
  correlationId : ℕ
  eventSequence : ℕ
  kind : EventKind
  reason : Option String

/-- `FlowFailureReason(reason)`. -/
def FlowFailureReason.ofText : String → Option FlowFailureReason
  | "POLICY_VIOLATION" => some .policyViolation
  | "TIMEOUT" => some .timeout
  | "STRUCTURAL_ERROR" => some .structuralError
  | "CIRCUIT_BREAKER_OPEN" => some .circuitBreakerOpen
  | "MISSING_GRAPH" => some .missingGraph
  | "MAX_STEPS_EXCEEDED" => some .maxStepsExceeded
  | "NODE_NOT_FOUND" => some .nodeNotFound
  | "UNKNOWN_NODE_TYPE" => some .unknownNodeType
  | "NO_MATCHING_EDGE" => some .noMatchingEdge
  | "EDGE_EVALUATION_ERROR" => some .edgeEvaluationError
  | "MULTIPLE_MATCHING_EDGES" => some .multipleMatchingEdges
  | _ => none

/-- `ORDER BY flow_run_id, event_sequence`. -/
def EventRow.precedes (left right : EventRow) : Bool :=
  left.flowRunId < right.flowRunId ∨
    left.flowRunId = right.flowRunId ∧ left.eventSequence ≤ right.eventSequence

/-- `list_execution_events`; `tenant_id` is a keyword without a default. -/
def listExecutionEvents (log : List EventRow) (tenantId flowRunId correlationId : Option ℕ)
    (limit : ℕ) : Except ServiceError (List EventRow) :=
  match tenantId with
  | none => .error (.unexpected "TypeError")
  | some tenantId =>
    .ok (((log.filter fun event =>
      event.tenantId = tenantId ∧ (∀ wanted ∈ flowRunId, event.flowRunId = wanted) ∧
        ∀ wanted ∈ correlationId, event.correlationId = wanted).mergeSort EventRow.precedes).take
          limit)

/-- The reason of the last `FlowFailed` event. -/
def failureReason (events : List EventRow) : Option FlowFailureReason :=
  (events.reverse.find? fun event => event.kind = .flowFailed).bind fun event =>
    event.reason.bind FlowFailureReason.ofText

/-- `ExecutionService.get_flow_run`: the row and its failure reason. -/
def getFlowRun (db : Database) (log : List EventRow) (flowRunId : ℕ) :
    Except ServiceError (FlowRunRow × Option FlowFailureReason) :=
  match db.getFlowRun flowRunId with
  | none => .error (.notFound "flow_run_not_found")
  | some row =>
    match listExecutionEvents log none (some flowRunId) none 200 with
    | .error error => .error error
    | .ok events => .ok (row, failureReason events)

def runLog (log : List EventRow) (flowRunId : ℕ) : List EventRow :=
  (log.filter fun event => event.flowRunId = flowRunId).mergeSort EventRow.precedes

/-- **The reason of a failed run is reported exactly if no such run is failed.** -/
theorem failure_reason_reported_iff (db : Database) (log : List EventRow) (flowRunId : ℕ) :
    (∀ row ∈ db.getFlowRun flowRunId, row.canonicalStatus = .failed →
        getFlowRun db log flowRunId = .ok (row, failureReason (runLog log flowRunId))) ↔
      ∀ row ∈ db.getFlowRun flowRunId, row.canonicalStatus ≠ .failed := by
  refine forall₂_congr fun row found => imp_congr_right fun _ => ?_
  simp [getFlowRun, Option.mem_def.mp found, listExecutionEvents]

/-- A `FlowFailed` event of run 1. -/
def timedOut : EventRow := ⟨2, 1, 7, 200, .flowFailed, some "TIMEOUT"⟩

/-- The request for a failed run raises `TypeError`; the first page would lack the failure of a run
with more than two hundred events. -/
theorem failure_reason_lost : getFlowRun (resumable Verdict.failed.row).shared.db [timedOut] 1 =
        .error (.unexpected "TypeError") ∧
      failureReason (runLog [timedOut] 1) = some .timeout ∧
      failureReason ((List.replicate 200 { timedOut with kind := .other } ++ [timedOut]).take 200) =
        none := by
  decide +kernel

end AgentOrchestration.Execution
