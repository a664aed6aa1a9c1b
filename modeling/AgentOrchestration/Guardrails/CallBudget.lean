import AgentOrchestration.Guardrails.GuardrailEngine
import AgentOrchestration.Library.Amortized

/-!
# Call budgets

A flow run may make a limited number of LLM calls. Its counter is given the lifetime of the
tenant's window, so the limit holds as long as the counter lasts.
-/

namespace AgentOrchestration.Guardrails

set_option autoImplicit false

open ExpiringTable (Table)
open Interleaving (Thread Pool Move Admitted step)
open LabelledSystem (trace)
open Llm (LLMRequest)

variable {ε : Type} (engine : GuardrailEngine)

/-! ## The count that is stored -/

variable (redis : Redis)

def Redis.storedCalls (key : CounterKey) : ℕ :=
  ((redis.calls key).map ExpiringTable.Entry.value).getD 0

theorem Redis.storedCalls_addCall_of_ne {key other : CounterKey} (ne : other ≠ key) :
    (redis.addCall key).storedCalls other = redis.storedCalls other := by
  simp only [Redis.storedCalls, Redis.addCall, Table.write, Function.update_of_ne ne]

theorem Redis.storedCalls_addCall_self {key : CounterKey}
    (lasting : redis.calls.Lasting redis.now key) :
    (redis.addCall key).storedCalls key = redis.storedCalls key + 1 ∧
      redis.callCount key = redis.storedCalls key := by
  have count : redis.callCount key = redis.storedCalls key := by
    rw [Redis.callCount, Table.read, lasting.find, Redis.storedCalls]
  refine ⟨?_, count⟩
  simp only [Redis.storedCalls, Redis.addCall, Table.write, Function.update_self, Option.map_some,
    Option.getD_some] at count ⊢
  rw [count]

theorem Redis.storedCalls_expireCalls (key other : CounterKey) (ttl : ℕ) :
    (redis.expireCalls key ttl).storedCalls other = redis.storedCalls other := by
  simp only [Redis.storedCalls, Redis.expireCalls, Table.map_value_expire]

/-! ## The system -/

inductive CallEvent where
  | check (tenantId flowRunId : ℕ) (request : LLMRequest) (provider providerModel : String)
  | pass (seconds : ℕ)

def CallEvent.program (policies : ℕ → LLMPolicy) :
    CallEvent → Thread Redis ε (Option GuardrailDecision)
  | check tenantId flowRunId request provider providerModel => do
      let decision ← engine.checkAndReserve tenantId flowRunId request (policies flowRunId) provider
        providerModel
      return some decision
  | pass seconds => do
      .update fun redis => redis.wait seconds
      return none

variable (flowRunId : ℕ)

/-- The outcome of a check that let a call of the flow run through, with `ALLOW` or `DEGRADE`. -/
def letsThrough : CallEvent → Except ε (Option GuardrailDecision) → Bool
  | .check _ owner _ _ _, .ok (some decision) => owner = flowRunId && decision.decision ≠ .block
  | _, _ => false

variable (pool : Pool Redis ε (Option GuardrailDecision) CallEvent)

def callsLetThrough : ℕ := pool.finished.countP fun entry => letsThrough flowRunId entry.1 entry.2

/-- The counter of the flow run has not expired when one of its checks takes a step. -/
def CounterLasts : CallEvent → Redis → Prop
  | .check _ owner _ _ _, redis =>
    owner = flowRunId → redis.calls.Lasting redis.now (.flowRun flowRunId)
  | .pass _, _ => True

instance (flowRunId : ℕ) (event : CallEvent) (redis : Redis) :
    Decidable (CounterLasts flowRunId event redis) :=
  match event with
  | .check _ owner _ _ _ => inferInstanceAs (Decidable (owner = flowRunId → _))
  | .pass _ => .isTrue trivial

/-! ## What a check pays with -/

section

variable {engine} {policies : ℕ → LLMPolicy} {flowRunId limit : ℕ}

def remaining (flowRunId limit : ℕ) (redis : Redis) : ℕ :=
  limit - redis.storedCalls (.flowRun flowRunId)

def Untouched (flowRunId limit : ℕ) (write : Redis → Redis) : Prop :=
  ∀ redis, remaining flowRunId limit (write redis) ≤ remaining flowRunId limit redis

theorem steps_getCost (key : CounterKey) :
    (getCost (ε := ε) key).Steps (Untouched flowRunId limit) :=
  .read fun _ => Nat.le_refl _

theorem steps_expireFirst (key : CounterKey) (ttl val : ℕ) :
    (expireFirst (ε := ε) key ttl val).Steps (Untouched flowRunId limit) := by
  unfold expireFirst
  split
  · refine .update fun redis => ?_
    rw [remaining, Redis.storedCalls_expireCalls]
    exact Nat.le_refl _
  · trivial

theorem steps_incrCalls {key : CounterKey} (ttl : ℕ) (other : key ≠ .flowRun flowRunId) :
    (incrCalls (ε := ε) key ttl).Steps (Untouched flowRunId limit) := by
  refine .bind (fun val => .bind (fun _ => trivial) (steps_expireFirst key ttl val)) ?_
  refine ⟨fun redis => ?_, fun _ => trivial⟩
  rw [remaining, Redis.storedCalls_addCall_of_ne redis other.symm]
  exact Nat.le_refl _

def worth (limit : ℕ) : Except ε ℕ → ℕ
  | .ok value => if value ≤ limit then 1 else 0
  | .error _ => 0

variable {admits : Redis → Prop}

/-- Drawing a number within the limit takes one off what is left. -/
theorem pays_incrCalls (ttl : ℕ)
    (lasts : ∀ redis, admits redis → redis.calls.Lasting redis.now (.flowRun flowRunId)) :
    (incrCalls (ε := ε) (.flowRun flowRunId) ttl).Pays (remaining flowRunId limit) admits
      (worth limit) 0 := by
  refine .bind (N := worth limit) (fun _ => Nat.le_refl _) (fun val => ?_)
    (.act fun redis admitted => ?_)
  · exact .bind (fun _ => Nat.zero_le _) (fun _ => Nat.le_refl _)
      ((steps_expireFirst _ ttl val).pays fun _ => Nat.le_refl _)
  · obtain ⟨added, count⟩ := redis.storedCalls_addCall_self (lasts redis admitted)
    simp only [remaining, worth, added, count]
    split <;> omega

/-- A decision that lets the call through is worth one. -/
def decisionWeight : Except ε GuardrailDecision → ℕ
  | .ok decision => if decision.decision ≠ .block then 1 else 0
  | .error _ => 0

/-- **A check that lets a call through takes one off what the limit has left.** -/
theorem pays_checkAndReserve {policy : LLMPolicy}
    (limited : policy.maxLlmCallsPerFlowRun = some limit)
    (lasts : ∀ redis, admits redis → redis.calls.Lasting redis.now (.flowRun flowRunId))
    (tenantId req provider providerModel) :
    (engine.checkAndReserve (ε := ε) tenantId flowRunId req policy provider providerModel).Pays
      (remaining flowRunId limit) admits decisionWeight 0 := by
  -- The credit is zero up to the draw, and the worth of the number drawn from there on.
  refine .bind (N := fun _ => 0) (fun _ => Nat.le_refl _) (fun flowCost => ?_)
    ((steps_getCost _).pays fun _ => Nat.le_refl _)
  refine .bind (N := fun _ => 0) (fun _ => Nat.le_refl _) (fun tenantCost => ?_)
    ((steps_getCost _).pays fun _ => Nat.le_refl _)
  refine .bind (N := worth limit) (fun _ => Nat.zero_le _) (fun flowCalls => ?_)
    (pays_incrCalls _ lasts)
  refine .bind (N := fun _ => worth (ε := ε) limit (.ok flowCalls)) (fun _ => Nat.zero_le _)
    (fun tenantCalls => ?_) ((steps_incrCalls _ CounterKey.noConfusion).pays fun _ => Nat.le_refl _)
  show (if _ then 1 else 0) ≤ if flowCalls ≤ limit then 1 else 0
  split
  · rename_i passes
    rw [if_pos (within_of_decision_ne_block passes limit limited)]
  · exact Nat.zero_le _

theorem steps_checkAndReserve {owner} (other : owner ≠ flowRunId)
    (tenantId req policy provider providerModel) :
    (engine.checkAndReserve (ε := ε) tenantId owner req policy provider providerModel).Steps
      (Untouched flowRunId limit) := by
  refine .bind (fun flowCost => ?_) (steps_getCost _)
  refine .bind (fun tenantCost => ?_) (steps_getCost _)
  refine .bind (fun flowCalls => ?_) (steps_incrCalls _ fun eq => other (CounterKey.flowRun.inj eq))
  exact .bind (fun tenantCalls => trivial) (steps_incrCalls _ CounterKey.noConfusion)

def passWeight (flowRunId : ℕ) (event : CallEvent) (outcome : Except ε (Option GuardrailDecision)) :
    ℕ :=
  if letsThrough flowRunId event outcome then 1 else 0

theorem pays_program (limited : (policies flowRunId).maxLlmCallsPerFlowRun = some limit)
    (event : CallEvent) :
    (event.program (ε := ε) engine policies).Pays (remaining flowRunId limit)
      (CounterLasts flowRunId event) (passWeight flowRunId event) 0 := by
  cases event with
  | pass seconds =>
    exact .bind (N := fun _ => 0) (fun _ => Nat.le_refl _) (fun _ => Nat.le_refl _)
      (.act fun redis _ => Nat.le_refl _)
  | check tenantId owner req provider providerModel =>
    by_cases own : owner = flowRunId
    · subst own
      have own : ∀ redis, CounterLasts owner (.check tenantId owner req provider providerModel)
          redis → redis.calls.Lasting redis.now (.flowRun owner) := fun redis lasts => lasts rfl
      refine .bind (N := decisionWeight) (fun _ => Nat.zero_le _) (fun decision => ?_)
        (pays_checkAndReserve limited own _ _ _ _)
      show passWeight owner _ (.ok (some decision)) ≤ if _ then 1 else 0
      simp [passWeight, letsThrough]
    · refine .bind (N := fun _ => 0) (fun _ => Nat.le_refl _) (fun decision => ?_)
        ((steps_checkAndReserve own _ _ _ _ _).pays fun _ => Nat.le_refl _)
      show passWeight flowRunId _ (.ok (some decision)) ≤ 0
      simp [passWeight, letsThrough, own]

end

/-! ## Whole runs -/

def noChecks : Pool Redis ε (Option GuardrailDecision) CallEvent := ⟨.empty, [], []⟩

theorem outcomeWeight_eq : pool.outcomeWeight (passWeight flowRunId) =
    callsLetThrough flowRunId pool := by
  rw [Pool.outcomeWeight, callsLetThrough]
  induction pool.finished with
  | nil => rfl
  | cons entry rest ih =>
    rw [List.map_cons, List.sum_cons, ih, List.countP_cons, passWeight, Nat.add_comm]

/-- **The call limit holds while the counter lasts.** Whatever calls of whatever flow runs are
checked, however their steps interleave and whatever time passes, at most as many checks of a flow
run let a call through as its policy allows, if its counter has not expired whenever one of its
checks takes a step. -/
theorem call_budget_of_lasting (policies : ℕ → LLMPolicy) (flowRunId limit : ℕ)
    (limited : (policies flowRunId).maxLlmCallsPerFlowRun = some limit)
    (moves : List (Move CallEvent))
    (lasts : ∀ t ∈ trace (step fun event => [event.program (ε := ε) engine policies])
      noChecks moves, Admitted (CounterLasts flowRunId) t.before t.action) :
    ∀ t ∈ trace (step fun event => [event.program (ε := ε) engine policies]) noChecks moves,
      callsLetThrough flowRunId t.after ≤ limit := by
  intro t member
  rw [← outcomeWeight_eq]
  have pays : ∀ event : CallEvent, ∀ thread ∈ [event.program (ε := ε) engine policies],
      Thread.Pays (remaining flowRunId limit) (CounterLasts flowRunId event)
        (passWeight flowRunId event) 0 thread := by
    intro event thread only
    rw [List.mem_singleton.mp only]
    exact pays_program limited event
  have start : Interleaving.Solvent (remaining flowRunId limit) (CounterLasts flowRunId)
      (passWeight flowRunId) limit (noChecks (ε := ε)) :=
    .of_idle rfl (Nat.sub_le _ _)
  exact (Interleaving.solvent_trace pays moves start lasts t member).weight_le

def oneCall : ℕ → LLMPolicy := fun _ => { maxLlmCallsPerFlowRun := some 1 }

def checkSeven : CallEvent := .check 1 7 { modelAlias := "gpt" } "OPENAI" "gpt"

/-- A minute later the second call is blocked. -/
theorem second_check_blocked :
    ((trace (step fun event => [event.program (ε := Empty) ⟨none⟩ oneCall]) noChecks
        (.start checkSeven :: List.replicate 6 (.advance 0) ++ [.start (.pass 60), .advance 0] ++
          .start checkSeven :: List.replicate 4 (.advance 0))).getLast?.map fun t =>
        (t.after.finished.length, callsLetThrough 7 t.after)) = some (3, 1) ∧
      ∀ t ∈ trace (step fun event => [event.program (ε := Empty) ⟨none⟩ oneCall]) noChecks
          (.start checkSeven :: List.replicate 6 (.advance 0) ++ [.start (.pass 60), .advance 0] ++
            .start checkSeven :: List.replicate 4 (.advance 0)),
        callsLetThrough 7 t.after ≤ 1 :=
  ⟨by decide +kernel, call_budget_of_lasting ⟨none⟩ oneCall 7 1 rfl _ (by decide +kernel)⟩

/-- An hour after the first call the counter has expired, and the second is let through as well. -/
theorem expired_counter_restarts :
    ((trace (step fun event => [event.program (ε := Empty) ⟨none⟩ oneCall]) noChecks
        (.start checkSeven :: List.replicate 6 (.advance 0) ++ [.start (.pass 3600), .advance 0] ++
          .start checkSeven :: List.replicate 6 (.advance 0))).getLast?.map fun t =>
        callsLetThrough 7 t.after) = some 2 := by
  decide +kernel

end AgentOrchestration.Guardrails
