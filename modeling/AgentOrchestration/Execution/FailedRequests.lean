import AgentOrchestration.Agents.CreateAgentRun
import AgentOrchestration.Flows.ComposeDeployment

/-!
# Requests that fail after acquiring their key

`create_flow_run`, `create_agent_run` and `compose_deployment` take an idempotency key and
leave `PROCESSING` under it when they raise: nothing deletes the record, and it expires
after `IDEMPOTENCY_TTL_SECONDS`.
-/

namespace AgentOrchestration.Execution

set_option autoImplicit false

open Interleaving (Thread)
open IdempotencyKey (Response Failure Elsewhere)

inductive KeyedService where
  | createFlowRun
  | createAgentRun
  | composeDeployment

namespace KeyedService

def World : KeyedService → Type
  | createFlowRun => ExecutionWorld
  | createAgentRun => Agents.AgentWorld
  | composeDeployment => Flows.AuthoringWorld

def Call : KeyedService → Type
  | createFlowRun => FlowRunCall
  | createAgentRun => Agents.AgentRunCall
  | composeDeployment => Flows.ComposeCall

/-- What a service responds, besides the id of what it created. -/
def Body : KeyedService → Type
  | createFlowRun => FlowRun
  | createAgentRun => Agents.AgentRunSummary
  | composeDeployment => Flows.DeploymentComposeResponse

def operation (settings : ResumeSettings) (tenantId : ℕ) : (service : KeyedService) →
    service.Call → IdempotencyKey.Operation service.World ServiceError ℕ service.Body
  | createFlowRun => createFlowRunOperation settings tenantId
  | createAgentRun => Agents.createAgentRunOperation tenantId
  | composeDeployment => Flows.composeDeploymentOperation tenantId

abbrev Store (service : KeyedService) := IdempotencyKey.Store service.World String ℕ service.Body

/-- A call under a key that expires after `ttl` seconds. -/
def call (service : KeyedService) (settings : ResumeSettings) (ttl tenantId : ℕ)
    (endpoint idempotencyKey : String) (request : service.Call) :
    Thread service.Store (Failure ServiceError) (Response ℕ service.Body) :=
  IdempotencyKey.request (some ttl) (buildKey tenantId endpoint idempotencyKey)
    (service.operation settings tenantId request)

end KeyedService

section

variable (service : KeyedService) (settings : ResumeSettings) (ttl tenantId : ℕ)
  (endpoint idempotencyKey : String)

/-- **A call fails after acquiring its key, wherever it raises. A later call with the key that
passes the checks before it is not rejected exactly when at least `ttl` seconds lie between the two
attempts to acquire the key.** -/
theorem not_rejected_iff_expired (failed later : service.Call) (error : ServiceError)
    {start left retried ended : service.Store}
    {outcome : Except (Failure ServiceError) (Response ℕ service.Body)}
    (raises : (service.call settings ttl tenantId endpoint idempotencyKey failed).Among
      (Elsewhere (buildKey tenantId endpoint idempotencyKey)) start (.error (.failed error)) left)
    (between : Elsewhere (buildKey tenantId endpoint idempotencyKey) left retried)
    (comes : (service.call settings ttl tenantId endpoint idempotencyKey later).Among
      (Elsewhere (buildKey tenantId endpoint idempotencyKey)) retried outcome ended)
    (valid : ∀ error, outcome ≠ .error (.refused error)) :
    ∃ acquiredAt triedAt, left.attempts = start.attempts ++ [acquiredAt] ∧
      ended.attempts = retried.attempts ++ [triedAt] ∧
      (outcome ≠ .error .inProgress ↔ acquiredAt + ttl ≤ triedAt) := by
  obtain ⟨acquiredAt, triedAt, acquired, tried, rejected⟩ :=
    IdempotencyKey.rejected_iff_unexpired raises between comes valid
  exact ⟨acquiredAt, triedAt, acquired, tried, rejected.not.trans Nat.not_lt⟩

end

/-! ## A retried call -/

def inProcessSettings : ResumeSettings := { temporalEnabled := false, engineAvailable := false }

def untraceableCall : FlowRunCall :=
  { ordinaryCall with env := { plainEnvironment with validTraceId := false } }

def unusedKeys : KeyedService.createFlowRun.Store :=
  { tables := { db := twoTenants, workflows := [] }, entries := fun _ => none, now := 0
    created := [], attempts := [] }

def hourCall : FlowRunCall →
    Thread KeyedService.createFlowRun.Store (Failure ServiceError) (Response ℕ FlowRun) :=
  KeyedService.createFlowRun.call inProcessSettings 3600 1 "flow-runs" "k"

def seconds (elapsed : ℕ) : KeyedService.createFlowRun.Store :=
  let left := Program.after (hourCall untraceableCall).run unusedKeys
  { left with now := left.now + elapsed }

theorem ordinaryCall_after_an_hour : ∃ acquiredAt triedAt,
      (seconds 0).attempts = unusedKeys.attempts ++ [acquiredAt] ∧
        (Program.after (hourCall ordinaryCall).run (seconds 3600)).attempts
          = (seconds 3600).attempts ++ [triedAt] ∧
        ((hourCall ordinaryCall).outcome (seconds 3600) ≠ .error .inProgress ↔
          acquiredAt + 3600 ≤ triedAt) :=
  not_rejected_iff_expired .createFlowRun inProcessSettings 3600 1 "flow-runs" "k" untraceableCall
    ordinaryCall (.domainValidation "invalid_trace_id")
    (Thread.among_run (Elsewhere.refl _) (hourCall untraceableCall) unusedKeys)
    ⟨rfl, rfl, rfl, Nat.zero_le _⟩
    (Thread.among_run (Elsewhere.refl _) (hourCall ordinaryCall) (seconds 3600))
    (fun _ same => nomatch same)

/-- The call with a bad trace id creates nothing, and ten seconds later the same request with a good
one is rejected, although it would have created its run had the key been free. -/
theorem corrected_request_rejected : (hourCall untraceableCall).outcome unusedKeys
        = .error (.failed (.domainValidation "invalid_trace_id")) ∧
      (seconds 10).created = [] ∧
      (hourCall ordinaryCall).outcome (seconds 10) = .error .inProgress ∧
      ((hourCall ordinaryCall).outcome unusedKeys).map Response.about = .ok 40 :=
  ⟨rfl, rfl, rfl, rfl⟩

end AgentOrchestration.Execution
