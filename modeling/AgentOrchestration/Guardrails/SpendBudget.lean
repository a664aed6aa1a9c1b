import AgentOrchestration.Guardrails.GuardrailEngine

/-!
# Spend budgets

The calls of one tenant share its cost counters. A call reads them when it is checked and adds
to them when it has been made, and nothing is reserved in between.
-/

namespace AgentOrchestration.Guardrails

set_option autoImplicit false

open Interleaving (Thread Pool Move Exclusive step)
open LabelledSystem (trace)
open Llm (LLMRequest)

variable {ε : Type} (engine : GuardrailEngine) (policy : LLMPolicy) (tenantId : ℕ)

structure EstimatedCall where
  flowRunId : ℕ
  request : LLMRequest
  provider : String
  providerModel : String
  estimatedCost : ℚ≥0
  costUsd : ℚ≥0
  estimated : engine.estimateCost provider providerModel request policy = some estimatedCost
  within : costUsd ≤ estimatedCost

variable {engine policy}

def recordAllowed (call : EstimatedCall engine policy) (decision : GuardrailDecision) :
    Thread Redis ε PUnit :=
  if decision.decision = .allow then
    recordPostCallCost tenantId call.flowRunId policy (some call.costUsd)
  else pure ⟨⟩

def guardedCall (call : EstimatedCall engine policy) : Thread Redis ε GuardrailDecision := do
  let decision ← engine.checkAndReserve tenantId call.flowRunId call.request policy call.provider
    call.providerModel
  recordAllowed tenantId call decision
  return decision

variable (policy)

structure WithinBudgets (redis : Redis) : Prop where
  flowRun : ∀ flowRunId, ∀ limit ∈ policy.maxCostUsdPerFlowRun,
    redis.cost (.flowRun flowRunId) ≤ limit
  tenant : ∀ limit ∈ policy.maxCostUsdPerTenantWindow, redis.cost (.tenant tenantId) ≤ limit

/-- A step that leaves the recorded costs within the budgets if it found them so. -/
def KeepsBudgets (before after : Redis) : Prop :=
  WithinBudgets policy tenantId before → WithinBudgets policy tenantId after

variable {policy tenantId}

theorem KeepsBudgets.of_cost_eq {before after : Redis} (eq : after.cost = before.cost) :
    KeepsBudgets policy tenantId before after := by
  intro within
  constructor
  · intro flowRunId limit stated
    rw [eq]
    exact within.flowRun flowRunId limit stated
  · intro limit stated
    rw [eq]
    exact within.tenant limit stated

theorem withinBudgets_empty : WithinBudgets policy tenantId .empty :=
  ⟨fun _ _ _ => zero_le, fun _ _ => zero_le⟩

theorem KeepsBudgets.flowRun {redis : Redis} {flowRunId : ℕ} {amount : ℚ≥0}
    (fits : ∀ limit ∈ policy.maxCostUsdPerFlowRun, redis.cost (.flowRun flowRunId) +
      amount ≤ limit) :
    KeepsBudgets policy tenantId redis (redis.addCost (.flowRun flowRunId) amount) := by
  intro within
  constructor
  · intro other limit stated
    by_cases eq : other = flowRunId
    · rw [eq, Redis.cost_addCost_self]
      exact fits limit stated
    · rw [Redis.cost_addCost_of_ne _ _ fun equal => eq (CounterKey.flowRun.inj equal)]
      exact within.flowRun other limit stated
  · intro limit stated
    rw [Redis.cost_addCost_of_ne _ _ CounterKey.noConfusion]
    exact within.tenant limit stated

theorem KeepsBudgets.tenant {redis : Redis} {amount : ℚ≥0}
    (fits : ∀ limit ∈ policy.maxCostUsdPerTenantWindow, redis.cost (.tenant tenantId) +
      amount ≤ limit) :
    KeepsBudgets policy tenantId redis (redis.addCost (.tenant tenantId) amount) := by
  intro within
  constructor
  · intro flowRunId limit stated
    rw [Redis.cost_addCost_of_ne _ _ CounterKey.noConfusion]
    exact within.flowRun flowRunId limit stated
  · intro limit stated
    rw [Redis.cost_addCost_self]
    exact fits limit stated

/-! ## One call -/

theorem ensures_guardedCall {cost} (call : EstimatedCall engine policy) :
    Thread.Ensures (ε := ε) (KeepsBudgets policy tenantId) (fun redis => redis.cost = cost)
      (guardedCall tenantId call) (fun _ _ => True) fun _ => True := by
  have free : Free (KeepsBudgets policy tenantId) := fun _ _ => .of_cost_eq
  refine .bind (ensures_checkAndReserve free _ _ _ _ _ _) fun decided => .of_fact ?_
  rintro ⟨flowCalls, tenantCalls, made⟩
  refine .bind (Q := fun _ _ => True) ?_ fun _ => .done fun _ _ => trivial
  unfold recordAllowed
  split
  · rename_i allow
    rw [made] at allow
    obtain ⟨flowWithin, tenantWithin⟩ := within_of_decision_allow allow
    rw [call.estimated, Option.getD_some] at flowWithin tenantWithin
    have cheaper := fun spent : ℚ≥0 => add_le_add_right call.within spent
    refine .imp (ensures_recordPostCallCost free _ _ _ _ (fun redis costs => .flowRun ?_)
      fun redis costs => .tenant ?_) (fun _ costs => costs) (fun _ _ _ => trivial)
        fun _ raised => raised
    · rw [costs]
      exact fun limit stated => (cheaper _).trans (flowWithin limit stated)
    · rw [costs, charged, if_neg (by simp), add_zero]
      exact fun limit stated => (cheaper _).trans (tenantWithin limit stated)
  · exact .done fun _ _ => trivial

/-! ## The calls of a tenant -/

/-- The calls of a tenant before any of them has been made. -/
def noCalls : Pool Redis ε GuardrailDecision (EstimatedCall engine policy) := ⟨.empty, [], []⟩

/-- **Calls that never overlap stay within the budgets.** If every call of the tenant is started
only when no other is under way, then what was recorded for a flow run never exceeds its budget, and
what was recorded for the tenant never exceeds the tenant's. -/
theorem spend_within_budgets (moves : List (Move (EstimatedCall engine policy)))
    (apart : ∀ t ∈ trace (step fun call => [guardedCall (ε := ε) tenantId call]) noCalls moves,
      Exclusive (fun _ _ => True) t.before t.action) :
    ∀ t ∈ trace (step fun call => [guardedCall (ε := ε) tenantId call]) noCalls moves,
      WithinBudgets policy tenantId t.after.shared := by
  have obeys : ∀ (call : EstimatedCall engine policy) (redis : Redis), True →
      (guardedCall (ε := ε) tenantId call).Obeys (KeepsBudgets policy tenantId) redis :=
    fun call redis _ => (ensures_guardedCall call).obeys redis rfl
  refine LabelledSystem.trace_law (I := fun pool => Interleaving.OneLawful
    (KeepsBudgets policy tenantId) pool ∧ WithinBudgets policy tenantId pool.shared)
    (G := Exclusive fun _ _ => True) ?_ ?_ moves _ ⟨.inl rfl, withinBudgets_empty⟩ apart
  · rintro pool move after ⟨lawful, within⟩ exclusive performed
    obtain ⟨still, keeps⟩ :=
      Interleaving.step_exclusive (fun _ kept => kept) obeys lawful exclusive performed
    exact ⟨still, keeps within⟩
  · rintro pool move after ⟨lawful, within⟩ exclusive performed
    exact (Interleaving.step_exclusive (fun _ kept => kept) obeys lawful exclusive performed).2
      within

def threeDollars : GuardrailEngine := ⟨some ⟨fun _ _ => some ⟨3, 3⟩, id⟩⟩

def tenDollars : LLMPolicy := { maxCostUsdPerFlowRun := some 10 }

def sixDollarCall : EstimatedCall threeDollars tenDollars where
  flowRunId := 7
  request := { modelAlias := "gpt", maxTokens := some 1000 }
  provider := "OPENAI"
  providerModel := "gpt"
  estimatedCost := 6
  costUsd := 6
  estimated := by decide +kernel
  within := le_refl 6

/-- A call is made, and the same call again when it is over. -/
def callTwice : List (Move (EstimatedCall threeDollars tenDollars)) :=
  [sixDollarCall, sixDollarCall].flatMap fun call => .start call :: List.replicate 10 (.advance 0)

/-- The first call spends six of the ten dollars, and the second is blocked. -/
theorem second_call_blocked :
    ((trace (step fun call => [guardedCall (ε := Empty) 1 call]) noCalls callTwice).getLast?.map
        fun t => (t.after.finished.map fun done => done.2.map GuardrailDecision.decision,
          t.after.shared.cost (.flowRun 7))) = some ([.ok .allow, .ok .block], 6) ∧
      ∀ t ∈ trace (step fun call => [guardedCall (ε := Empty) 1 call]) noCalls callTwice,
        WithinBudgets tenDollars 1 t.after.shared :=
  ⟨by decide +kernel, spend_within_budgets callTwice (by decide +kernel)⟩

/-- Two calls are checked before either is recorded, and spend twelve. -/
theorem overlapping_calls_overspend :
    ¬ ∀ moves : List (Move (EstimatedCall threeDollars tenDollars)),
      ∀ t ∈ trace (step fun call => [guardedCall (ε := Empty) 1 call]) noCalls moves,
        WithinBudgets tenDollars 1 t.after.shared := by
  intro always
  have spent : (trace (step fun call => [guardedCall (ε := Empty) 1 call]) noCalls
      ([.start sixDollarCall, .start sixDollarCall] ++ List.replicate 16 (.advance 0))).any
        (fun t => decide (10 < t.after.shared.cost (.flowRun 7))) = true := by
    decide +kernel
  obtain ⟨t, member, above⟩ := List.any_eq_true.mp spent
  exact absurd ((always _ t member).flowRun 7 10 rfl) (not_le.mpr (of_decide_eq_true above))

end AgentOrchestration.Guardrails
