import AgentOrchestration.Library.ExpiringTable
import AgentOrchestration.Library.RelyGuarantee
import AgentOrchestration.Llm.CostEngine

/-!
# The guardrail engine

Model of `GuardrailEngine` and of the counters it keeps in Redis: what flow runs and tenants
have spent, and how many calls they have made. Each Redis command is one step, so calls of
the engine may interleave between any two of them. A call that ends because a command failed
is the loss of its thread. The commands are those of an adapter that raises: in silent mode
an `INCR` that fails gives `False`, which the engine takes for a number and goes on with.
-/

namespace AgentOrchestration.Guardrails

set_option autoImplicit false

open ExpiringTable (Table)
open Interleaving (Thread)
open Llm (LLMRequest CostEngine)

variable {ε : Type}

/-! ## Counters -/

/-- What a counter belongs to: `…:flow_run:<id>` or `…:tenant:<id>`. -/
inductive CounterKey where
  | flowRun (flowRunId : ℕ)
  | tenant (tenantId : ℕ)
  deriving DecidableEq

/-- The counters in Redis, under the prefixes `cost` and `llm_calls`, and its clock. -/
structure Redis where
  now : ℕ
  costs : Table CounterKey ℚ≥0
  calls : Table CounterKey ℕ

def Redis.empty : Redis := ⟨0, fun _ => none, fun _ => none⟩

variable (redis : Redis) (key : CounterKey)

/-- `get_float`. -/
def Redis.cost : ℚ≥0 := (redis.costs.read redis.now key).getD 0

def Redis.callCount : ℕ := (redis.calls.read redis.now key).getD 0

def Redis.addCost (amount : ℚ≥0) : Redis :=
  { redis with costs := redis.costs.write redis.now key (redis.cost key + amount) }

def Redis.addCall : Redis :=
  { redis with calls := redis.calls.write redis.now key (redis.callCount key + 1) }

def Redis.expireCost (ttl : ℕ) : Redis :=
  { redis with costs := redis.costs.expire redis.now key ttl }

def Redis.expireCalls (ttl : ℕ) : Redis :=
  { redis with calls := redis.calls.expire redis.now key ttl }

def Redis.wait (seconds : ℕ) : Redis := { redis with now := redis.now + seconds }

variable (redis : Redis)

theorem Redis.cost_addCost_self (key amount) :
    (redis.addCost key amount).cost key = redis.cost key + amount := by
  rw [Redis.cost, Redis.addCost, Table.read_write_self]
  rfl

theorem Redis.cost_addCost_of_ne {key other : CounterKey} (amount : ℚ≥0) (ne : other ≠ key) :
    (redis.addCost key amount).cost other = redis.cost other := by
  simp only [Redis.cost, Redis.addCost, Table.read_write_of_ne ne]

variable (key other : CounterKey)

@[simp] theorem Redis.cost_addCall : (redis.addCall key).cost other = redis.cost other := rfl

@[simp] theorem Redis.cost_expireCalls (ttl : ℕ) :
    (redis.expireCalls key ttl).cost other = redis.cost other := rfl

theorem Redis.cost_expireCost {ttl : ℕ} (lasts : 0 < ttl) :
    (redis.expireCost key ttl).cost other = redis.cost other := by
  simp only [Redis.cost, Redis.expireCost, Table.read_expire lasts]

/-! ## The commands of the engine -/

def getCost (key : CounterKey) : Thread Redis ε ℚ≥0 := .read fun redis => .ok (redis.cost key)

/-- The `INCR` of `incr_with_ttl`. -/
def incr (key : CounterKey) : Thread Redis ε ℕ :=
  .act (fun redis => redis.addCall key) fun redis => .done (redis.callCount key + 1)

/-- The `EXPIRE` of `incr_with_ttl`, which only the first increment sends. -/
def expireFirst (key : CounterKey) (ttl value : ℕ) : Thread Redis ε PUnit :=
  if value = 1 then .update fun redis => redis.expireCalls key ttl else pure ⟨⟩

def incrCalls (key : CounterKey) (ttl : ℕ) : Thread Redis ε ℕ := do
  let value ← incr key
  expireFirst key ttl value
  return value

/-- The `INCRBYFLOAT` of `incrbyfloat_with_ttl`. -/
def incrByFloat (key : CounterKey) (amount : ℚ≥0) : Thread Redis ε ℚ≥0 :=
  .act (fun redis => redis.addCost key amount) fun redis => .done (redis.cost key + amount)

/-- The `EXPIRE` of `incrbyfloat_with_ttl`, sent when the counter was at zero. -/
def expireFresh (key : CounterKey) (amount : ℚ≥0) (ttl : ℕ) (total : ℚ≥0) : Thread Redis ε PUnit :=
  if 0 < ttl ∧ |(total : ℚ) - amount| < 1 / 10 ^ 12 then
    .update fun redis => redis.expireCost key ttl
  else pure ⟨⟩

def addCost (key : CounterKey) (amount : ℚ≥0) (ttl : ℕ) : Thread Redis ε ℚ≥0 := do
  let total ← incrByFloat key amount
  expireFresh key amount ttl total
  return total

/-! ## Decisions -/

inductive GuardrailDecisionType where
  | allow
  | degrade
  | block
  deriving DecidableEq

/-- The values of `reason_code`. -/
inductive GuardrailReason where
  | rateLimitFlowRun
  | rateLimitTenant
  | costLimitFlowRun
  | costLimitTenant
  | allow
  deriving DecidableEq

/-- What a decision changes in the request. -/
structure GuardrailOverrides where
  modelAlias : Option String := none
  maxLatencyMs : Option ℕ := none

structure GuardrailDecision where
  decision : GuardrailDecisionType
  reasonCode : GuardrailReason
  appliedLimits : List (String × ℚ≥0) := []
  overrides : GuardrailOverrides := {}

structure LLMPolicy where
  maxCostUsdPerFlowRun : Option ℚ≥0 := none
  maxCostUsdPerTenantWindow : Option ℚ≥0 := none
  tenantCostWindowSeconds : Option ℕ := none
  maxLlmCallsPerFlowRun : Option ℕ := none
  maxLlmCallsPerTenantWindow : Option ℕ := none
  tenantLlmCallsWindowSeconds : ℕ := 3600
  maxLatencyMsHard : Option ℕ := none
  degradeModelAlias : Option String := none
  maxTokens : Option ℕ := none

def exceeded {α : Type} [LT α] [DecidableLT α] (limit : Option α) (value : α) : Option α :=
  limit.filter fun limit => decide (limit < value)

def rateLimited (reason : GuardrailReason) (name : String) (limit calls : ℕ) :
    GuardrailDecision where
  decision := .block
  reasonCode := reason
  appliedLimits := [(name, limit), ("current_calls", calls)]

variable (policy : LLMPolicy)

/-- A call over one of the two cost limits is sent to a cheaper model if the policy names one, and
blocked otherwise. -/
def costLimited (reason : GuardrailReason) (name : String) (limit projected : ℚ≥0) :
    GuardrailDecision :=
  match policy.degradeModelAlias.filter (· ≠ "") with
  | some modelAlias => ⟨.degrade, reason, [(name, limit)], { modelAlias := some modelAlias }⟩
  | none => ⟨.block, reason, [(name, limit), ("projected_cost", projected)], {}⟩

/-- The decision on a call that is within all limits. -/
def allowed (request : LLMRequest) : GuardrailDecision :=
  match policy.maxLatencyMsHard.filter fun hard => decide (hard < request.maxLatencyMs.getD 0) with
  | some hard => ⟨.allow, .allow, [("max_latency_ms_hard", hard)], { maxLatencyMs := some hard }⟩
  | none => ⟨.allow, .allow, [], {}⟩

/-- The decision of `_check_and_reserve_impl` on the counters it has read and advanced. -/
def decision (request : LLMRequest) (estimatedCost : Option ℚ≥0)
    (currentFlowCost currentTenantCost : ℚ≥0) (flowCalls tenantCalls : ℕ) : GuardrailDecision :=
  let projectedFlowCost := currentFlowCost + estimatedCost.getD 0
  let projectedTenantCost := currentTenantCost + estimatedCost.getD 0
  match exceeded policy.maxLlmCallsPerFlowRun flowCalls with
  | some limit => rateLimited .rateLimitFlowRun "max_llm_calls_per_flow_run" limit flowCalls
  | none =>
  match exceeded policy.maxLlmCallsPerTenantWindow tenantCalls with
  | some limit => rateLimited .rateLimitTenant "max_llm_calls_per_tenant_window" limit tenantCalls
  | none =>
  match exceeded policy.maxCostUsdPerFlowRun projectedFlowCost with
  | some limit =>
    costLimited policy .costLimitFlowRun "max_cost_usd_per_flow_run" limit projectedFlowCost
  | none =>
  match exceeded policy.maxCostUsdPerTenantWindow projectedTenantCost with
  | some limit =>
    costLimited policy .costLimitTenant "max_cost_usd_per_tenant_window" limit projectedTenantCost
  | none => allowed policy request

section

theorem within_of_exceeded_eq_none {α : Type} [LinearOrder α] {limit : Option α} {val : α}
    (within : exceeded limit val = none) : ∀ bound ∈ limit, val ≤ bound := by
  intro bound stated
  rw [Option.mem_def.mp stated] at within
  simpa [exceeded] using within

theorem decision_costLimited_ne_allow (reason name limit projected) :
    (costLimited policy reason name limit projected).decision ≠ .allow := by
  rw [costLimited]
  split <;> simp

variable {policy : LLMPolicy} {request : LLMRequest} {estimatedCost : Option ℚ≥0}
  {currentFlowCost currentTenantCost : ℚ≥0} {flowCalls tenantCalls : ℕ}

theorem within_of_decision_allow
    (allow : (decision policy request estimatedCost currentFlowCost currentTenantCost flowCalls
      tenantCalls).decision = .allow) :
    (∀ limit ∈ policy.maxCostUsdPerFlowRun, currentFlowCost + estimatedCost.getD 0 ≤ limit) ∧
      ∀ limit ∈ policy.maxCostUsdPerTenantWindow, currentTenantCost + estimatedCost.getD 0
        ≤ limit := by
  simp only [decision] at allow
  split at allow
  · cases allow
  · split at allow
    · cases allow
    · split at allow
      · exact absurd allow (decision_costLimited_ne_allow _ _ _ _ _)
      · rename_i flowWithin
        split at allow
        · exact absurd allow (decision_costLimited_ne_allow _ _ _ _ _)
        · rename_i tenantWithin
          exact ⟨within_of_exceeded_eq_none flowWithin, within_of_exceeded_eq_none tenantWithin⟩

theorem within_of_decision_ne_block
    (passes : (decision policy request estimatedCost currentFlowCost currentTenantCost flowCalls
      tenantCalls).decision ≠ .block) :
    ∀ limit ∈ policy.maxLlmCallsPerFlowRun, flowCalls ≤ limit := by
  simp only [decision] at passes
  split at passes
  · exact absurd rfl passes
  · rename_i within
    exact within_of_exceeded_eq_none within

end

/-! ## The engine -/

structure GuardrailEngine where
  costEngine : Option CostEngine

variable (engine : GuardrailEngine)

/-- `request.max_tokens or policy_llm.get("max_tokens") or 0`. -/
def tokenLimit (request : LLMRequest) (policy : LLMPolicy) : ℕ :=
  ((request.maxTokens.filter (· ≠ 0)).or policy.maxTokens).getD 0

def GuardrailEngine.estimateCost (provider providerModel : String) (request : LLMRequest)
    (policy : LLMPolicy) : Option ℚ≥0 :=
  match engine.costEngine with
  | none => none
  | some costEngine =>
    let maxTokens := tokenLimit request policy
    if maxTokens = 0 then none
    else costEngine.computeCost provider providerModel
      [("input_tokens", maxTokens), ("output_tokens", maxTokens)]

def GuardrailEngine.checkAndReserve (tenantId flowRunId : ℕ) (request : LLMRequest)
    (policy : LLMPolicy) (provider providerModel : String) : Thread Redis ε GuardrailDecision := do
  let currentFlowCost ← getCost (.flowRun flowRunId)
  let currentTenantCost ← getCost (.tenant tenantId)
  -- Both call counters live as long as the tenant's window.
  let flowCalls ← incrCalls (.flowRun flowRunId) policy.tenantLlmCallsWindowSeconds
  let tenantCalls ← incrCalls (.tenant tenantId) policy.tenantLlmCallsWindowSeconds
  return decision policy request (engine.estimateCost provider providerModel request policy)
    currentFlowCost currentTenantCost flowCalls tenantCalls

/-- The lifetime of the cost counters: `policy_llm.get("tenant_cost_window_seconds") or 3600`. -/
def LLMPolicy.tenantCostTtl (policy : LLMPolicy) : ℕ :=
  (policy.tenantCostWindowSeconds.filter (· ≠ 0)).getD 3600

def recordPostCallCost (tenantId flowRunId : ℕ) (policy : LLMPolicy) :
    Option ℚ≥0 → Thread Redis ε PUnit
  | none => pure ⟨⟩
  | some costUsd => do
      let _ ← addCost (.flowRun flowRunId) costUsd policy.tenantCostTtl
      let _ ← addCost (.tenant tenantId) costUsd policy.tenantCostTtl
      return ⟨⟩

/-! ## What the commands do to the costs -/

section

variable {engine} {law : Redis → Redis → Prop} {E : Redis → Prop} {cost : CounterKey → ℚ≥0}

def Free (law : Redis → Redis → Prop) : Prop :=
  ∀ before after : Redis, after.cost = before.cost → law before after

def charged (cost : CounterKey → ℚ≥0) (amount : ℚ≥0) (keys : List CounterKey) : CounterKey → ℚ≥0 :=
  fun key => cost key + if key ∈ keys then amount else 0

theorem Redis.cost_addCost (key amount) :
    (redis.addCost key amount).cost = charged redis.cost amount [key] := by
  funext other
  by_cases eq : other = key
  · rw [eq, Redis.cost_addCost_self, charged, if_pos List.mem_cons_self]
  · rw [Redis.cost_addCost_of_ne _ _ eq, charged, if_neg (by simpa using eq), add_zero]

theorem ensures_getCost (free : Free law) (key : CounterKey) :
    Thread.Ensures (ε := ε) law (fun redis => redis.cost = cost) (getCost key)
      (fun val redis => val = cost key ∧ redis.cost = cost) E :=
  .act (fun redis _ => free redis redis rfl) fun redis costs => ⟨by rw [costs], costs⟩

theorem ensures_incrCalls (free : Free law) (key : CounterKey) (ttl : ℕ) :
    Thread.Ensures (ε := ε) law (fun redis => redis.cost = cost) (incrCalls key ttl)
      (fun _ redis => redis.cost = cost) E := by
  refine .bind (Q := fun _ redis => redis.cost = cost)
    (.act (fun redis _ => free _ _ rfl) fun _ costs => costs) fun val => ?_
  refine .bind (Q := fun _ redis => redis.cost = cost) ?_ fun _ => .done fun _ costs => costs
  exact .ite (.update (fun redis _ => free _ _ rfl) fun _ costs => costs)
    (.done fun _ costs => costs)

theorem ensures_checkAndReserve (free : Free law)
    (tenantId flowRunId req policy provider providerModel) :
    Thread.Ensures (ε := ε) law (fun redis => redis.cost = cost)
      (engine.checkAndReserve tenantId flowRunId req policy provider providerModel)
      (fun decided redis => (∃ flowCalls tenantCalls, decided = decision policy req
        (engine.estimateCost provider providerModel req policy) (cost (.flowRun flowRunId))
        (cost (.tenant tenantId)) flowCalls tenantCalls) ∧ redis.cost = cost) E := by
  refine .bind (ensures_getCost free _) fun flowCost => .of_fact ?_
  rintro rfl
  refine .bind (ensures_getCost free _) fun tenantCost => .of_fact ?_
  rintro rfl
  refine .bind (ensures_incrCalls free _ _) fun flowCalls => ?_
  refine .bind (ensures_incrCalls free _ _) fun tenantCalls => ?_
  exact .done fun redis costs => ⟨⟨flowCalls, tenantCalls, rfl⟩, costs⟩

theorem ensures_addCost (free : Free law) (key amount ttl)
    (adds : ∀ redis : Redis, redis.cost = cost → law redis (redis.addCost key amount)) :
    Thread.Ensures (ε := ε) law (fun redis => redis.cost = cost) (addCost key amount ttl)
      (fun _ redis => redis.cost = charged cost amount [key]) E := by
  refine .bind (Q := fun _ redis => redis.cost = charged cost amount [key])
    (.act adds fun redis costs => ?_) fun total => ?_
  · rw [Redis.cost_addCost, costs]
  · refine .bind (Q := fun _ redis => redis.cost = charged cost amount [key]) ?_
      fun _ => .done fun _ costs => costs
    unfold expireFresh
    split
    · rename_i lasts
      have kept : ∀ redis : Redis, (redis.expireCost key ttl).cost = redis.cost :=
        fun redis => funext fun other => redis.cost_expireCost key other lasts.1
      exact .update (fun redis _ => free _ _ (kept redis)) fun redis costs =>
        (kept redis).trans costs
    · exact .done fun _ costs => costs

theorem ensures_recordPostCallCost (free : Free law) (tenantId flowRunId policy costUsd)
    (addsFlowRun : ∀ redis : Redis, redis.cost = cost →
      law redis (redis.addCost (.flowRun flowRunId) costUsd))
    (addsTenant : ∀ redis : Redis, redis.cost = charged cost costUsd [.flowRun flowRunId] →
      law redis (redis.addCost (.tenant tenantId) costUsd)) :
    Thread.Ensures (ε := ε) law (fun redis => redis.cost = cost)
      (recordPostCallCost tenantId flowRunId policy (some costUsd))
      (fun _ redis => redis.cost = charged cost costUsd [.flowRun flowRunId, .tenant tenantId])
        E := by
  refine .bind (ensures_addCost free _ _ _ addsFlowRun) fun _ => ?_
  refine .bind (ensures_addCost free _ _ _ addsTenant) fun _ => .done fun redis costs => ?_
  rw [costs]
  funext key
  cases key <;> simp [charged]

end

end AgentOrchestration.Guardrails
