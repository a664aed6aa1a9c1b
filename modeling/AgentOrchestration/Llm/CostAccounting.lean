import AgentOrchestration.Llm.LLMExecutor

/-!
# Cost accounting

A provider's response costs money whatever becomes of it. The executor records the cost once
the response has been accepted and the completion events have been appended, so each counter is
the sum of the costs of the responses for which that happened, as long as the windows of their
policies last. The invariant says what a counter will read at any later time within the windows.
-/

namespace AgentOrchestration.Llm

set_option autoImplicit false

open ExpiringTable (Table)
open Guardrails
open Interleaving (Thread)
open Program (Triple Keeps)

/-! ## What is recorded -/

def LLMCall.keys (call : LLMCall) : List CounterKey :=
  [.flowRun call.arguments.flowRunId, .tenant call.arguments.tenantId]

structure ProviderResponse.Recorded (response : ProviderResponse) : Prop where
  engine : response.call.executor.guardrailEngine.isSome
  policy : response.call.arguments.policyLlm.isSome
  accepted : (acceptResponse response.call.executor response.request response.result).isOk
  completed : response.call.executor.appendFault response.appended = none
  prompted : (promptExecuted response.call.arguments.request).isSome →
    response.call.executor.appendFault (response.appended + 1) = none

variable (response : ProviderResponse)

theorem ProviderResponse.recorded_iff :
    response.Recorded ↔ response.call.executor.guardrailEngine.isSome ∧
      response.call.arguments.policyLlm.isSome ∧
      (acceptResponse response.call.executor response.request response.result).isOk ∧
      (response.call.executor.appendFault response.appended).isNone ∧
      ((promptExecuted response.call.arguments.request).isSome →
        (response.call.executor.appendFault (response.appended + 1)).isNone) := by
  simp only [Option.isNone_iff_eq_none]
  exact ⟨fun ⟨engine, policy, accepted, completed, prompted⟩ =>
    ⟨engine, policy, accepted, completed, prompted⟩,
    fun ⟨engine, policy, accepted, completed, prompted⟩ =>
    ⟨engine, policy, accepted, completed, prompted⟩⟩

instance (response : ProviderResponse) : Decidable response.Recorded :=
  decidable_of_iff' _ response.recorded_iff

def ProviderResponse.charge (key : CounterKey) : ℚ≥0 :=
  if response.Recorded ∧ key ∈ response.call.keys then response.result.costUsd.getD 0 else 0

variable (state : LLMState) (key : CounterKey) (time : ℕ)

def LLMState.recordedCost : ℚ≥0 := (state.responses.map fun response => response.charge key).sum

/-- The window of the policy of every response that was charged to the counter is still open. -/
def LLMState.Lasting : Prop :=
  ∀ response ∈ state.responses, response.Recorded → key ∈ response.call.keys →
    ∀ policy ∈ response.call.arguments.policyLlm, time < response.time + policy.tenantCostTtl

instance (state : LLMState) (key : CounterKey) (time : ℕ) : Decidable (state.Lasting key time) :=
  inferInstanceAs (Decidable (∀ response ∈ state.responses, response.Recorded →
    key ∈ response.call.keys → ∀ policy ∈ response.call.arguments.policyLlm, _))

theorem LLMState.Lasting.earlier {state key time now} (lasting : LLMState.Lasting state key time)
    (le : now ≤ time) : state.Lasting key now :=
  fun response isIn recorded charged policy policed =>
    lt_of_le_of_lt le (lasting response isIn recorded charged policy policed)

/-- What the counter will read at a time, if nothing is added to it. -/
def costAt (redis : Redis) : ℚ≥0 := (redis.costs.read time key).getD 0

def Balanced : Prop :=
  ∀ key time, state.redis.now ≤ time → state.Lasting key time →
    costAt key time state.redis = state.recordedCost key

/-- Every counter is what it should be, but for what one response adds, which has just come. -/
structure Owing : Prop where
  listed : response ∈ state.responses
  time_eq : response.time = state.redis.now
  owed : ∀ key time, state.redis.now ≤ time → state.Lasting key time →
    costAt key time state.redis + response.charge key = state.recordedCost key

theorem Owing.balanced {resp st} (owing : Owing resp st) (unrecorded : ¬ resp.Recorded) :
    Balanced st := by
  intro key time later lasting
  rw [← owing.owed key time later lasting, ProviderResponse.charge,
    if_neg fun charged => unrecorded charged.1, add_zero]

/-! ## Adding a cost -/

section

variable (redis : Redis) (amount : ℚ≥0) (ttl : ℕ)

/-- The counters after `addCost`. -/
def spend : Redis :=
  if 0 < ttl ∧ |((redis.cost key + amount : ℚ≥0) : ℚ) - amount| < 1 / 10 ^ 12 then
    (redis.addCost key amount).expireCost key ttl
  else redis.addCost key amount

theorem run_addCost : (addCost (ε := LLMError) key amount ttl).run redis =
    .ok (redis.cost key + amount) (spend key redis amount ttl) := by
  simp only [addCost, expireFresh, spend, Thread.run_bind]
  show (Thread.run _ >>= fun _ => _) (redis.addCost key amount) = _
  split <;> rfl

variable {key time redis amount ttl} {other : CounterKey}

theorem now_spend : (spend key redis amount ttl).now = redis.now := by
  unfold spend
  split <;> rfl

theorem costAt_spend_of_ne (ne : other ≠ key) :
    costAt other time (spend key redis amount ttl) = costAt other time redis := by
  unfold spend costAt
  split
  · rw [Redis.expireCost, Table.read_expire_of_ne ne, Redis.addCost, Table.read_write_of_ne ne]
  · rw [Redis.addCost, Table.read_write_of_ne ne]

/-- A cost that is added is there within the lifetime it is added with, if what was there before
is. -/
theorem costAt_spend_self (later : redis.now ≤ time) (lasts : time < redis.now + ttl)
    (steady : costAt key time redis = redis.cost key) :
    costAt key time (spend key redis amount ttl) = redis.cost key + amount := by
  unfold spend
  split
  · have written : ((redis.addCost key amount).costs).find redis.now key = some _ :=
      Table.find_write_self
    exact congrArg (·.getD 0) (Table.read_expire_later written lasts)
  · rename_i old
    -- a counter that was at zero would have been given a lifetime
    have positive : redis.cost key ≠ 0 := fun zero =>
      old ⟨by omega, by rw [zero, zero_add, sub_self, abs_zero]; positivity⟩
    rw [← steady] at positive
    cases found : redis.costs.find time key with
    | none => exact absurd (by rw [costAt, Table.read, found]; rfl) positive
    | some entry =>
      obtain ⟨stored, -⟩ := Option.filter_eq_some_iff.mp found
      rw [costAt, Redis.addCost, Table.read_write_later stored (Table.live_of_find found) later]
      rfl

end

/-! ## Steps that leave the counters alone -/

section

variable {call : LLMCall} {I : LLMState → Prop}

/-- What depends on the counters of the costs, the time and the responses only. -/
def OnCosts (I : LLMState → Prop) : Prop :=
  ∀ state other, other.redis.costs = state.redis.costs → other.redis.now = state.redis.now →
    other.responses = state.responses → I state → I other

theorem onCosts_balanced : OnCosts Balanced := by
  rintro ⟨redis, events, num, responses, contacts⟩ ⟨other, _, _, _, _⟩ costs now rfl balanced
  intro key time later lasting
  have same := balanced key time (now ▸ later) lasting
  rw [costAt, costs]
  exact same

theorem onCosts_owing : OnCosts (Owing response) := by
  rintro ⟨redis, events, num, responses, contacts⟩ ⟨other, _, _, _, _⟩ costs now rfl owing
  refine ⟨owing.listed, owing.time_eq.trans now.symm, fun key time later lasting => ?_⟩
  have same := owing.owed key time (now ▸ later) lasting
  rw [costAt, costs]
  exact same

variable {α : Type}

theorem keeps_ofExcept (out : Except LLMError α) : Keeps I (ofExcept out) := by
  cases out with
  | ok val => exact .pure val
  | error err => exact .throw err

theorem keeps_contact (costs : OnCosts I) (made : Contact) : Keeps I (contact made) :=
  .modify fun st holds => costs st _ rfl rfl rfl holds

theorem keeps_onCircuitBreaker (costs : OnCosts I) (op) : Keeps I (onCircuitBreaker call op) := by
  unfold onCircuitBreaker
  split
  · exact .bind (keeps_contact costs _) fun _ => keeps_ofExcept _
  · exact .pure _

theorem triple_appendExecutionEvent (call : LLMCall) (costs : OnCosts I) (event : LLMEvent)
    (num : ℕ) :
    Triple (fun st => I st ∧ st.appended = num) (appendExecutionEvent call event)
      (fun _ st => (I st ∧ st.appended = num + 1) ∧ call.executor.appendFault num = none)
      fun st => I st ∧ call.executor.appendFault num ≠ none := by
  rintro st ⟨holds, rfl⟩
  unfold appendExecutionEvent
  split
  · rename_i val after ran
    split at ran
    · cases ran
    · rename_i unfaulted
      cases ran
      exact ⟨⟨costs st _ rfl rfl rfl holds, rfl⟩, unfaulted⟩
  · rename_i err after ran
    split at ran
    · rename_i fault
      cases ran
      refine ⟨costs st _ rfl rfl rfl holds, ?_⟩
      rw [fault]
      exact Option.some_ne_none err
    · cases ran

theorem keeps_appendExecutionEvent (costs : OnCosts I) (event : LLMEvent) :
    Keeps I (appendExecutionEvent call event) := by
  intro st holds
  have added := triple_appendExecutionEvent call costs event st.appended st ⟨holds, rfl⟩
  cases ran : appendExecutionEvent call event st with
  | ok val after =>
    rw [ran] at added
    exact added.1.1
  | error err after =>
    rw [ran] at added
    exact added.1

/-- The guardrails write to the counters of the calls only. -/
theorem keeps_checkAndReserve (engine : GuardrailEngine) (redis : Redis)
    (tenantId flowRunId req policy provider providerModel) :
    Keeps (fun after : Redis => after.costs = redis.costs ∧ after.now = redis.now)
      (engine.checkAndReserve (ε := LLMError) tenantId flowRunId req policy provider
        providerModel).run := by
  have incremented (key ttl) : Keeps
      (fun after : Redis => after.costs = redis.costs ∧ after.now = redis.now)
      (incrCalls (ε := LLMError) key ttl).run := by
    simp only [incrCalls, Thread.run_bind]
    refine .bind (fun _ kept => kept) fun value => .bind ?_ fun _ => .pure _
    unfold expireFirst
    split <;> exact fun _ kept => kept
  simp only [GuardrailEngine.checkAndReserve, Thread.run_bind]
  refine .bind (fun _ kept => kept) fun _ => .bind (fun _ kept => kept) fun _ => ?_
  exact .bind (incremented _ _) fun _ => .bind (incremented _ _) fun _ => .pure _

theorem keeps_applyDecision (costs : OnCosts I) (chosen : Target) (decision : GuardrailDecision) :
    Keeps I (applyDecision call chosen decision) := by
  unfold applyDecision
  split
  · exact .pure chosen
  · exact .bind (keeps_appendExecutionEvent costs _) fun _ => .throw _
  · refine .bind (keeps_ofExcept _) fun degraded =>
      .bind (keeps_appendExecutionEvent costs _) fun _ => ?_
    split <;> exact .pure _

theorem keeps_askGuardrails (costs : OnCosts I) (chosen : Target) :
    Keeps I (askGuardrails call chosen) := by
  unfold askGuardrails
  split
  · refine .bind ?_ fun decision =>
      .bind (keeps_appendExecutionEvent costs _) fun _ => keeps_applyDecision costs _ _
    intro st holds
    rename_i engine policy _ _
    have kept := keeps_checkAndReserve engine st.redis call.arguments.tenantId
      call.arguments.flowRunId chosen.request policy call.arguments.provider chosen.providerModel
      st.redis ⟨rfl, rfl⟩
    unfold onRedis
    split at kept
    all_goals
      rename_i ran
      rw [ran]
      exact costs _ _ kept.1 kept.2 rfl holds
  · exact .pure chosen

theorem keeps_failCall (costs : OnCosts I) (err : LLMError) : Keeps I (failCall call err : LLM α) :=
  .bind (keeps_onCircuitBreaker costs _) fun _ =>
    .bind (keeps_appendExecutionEvent costs _) fun _ => .throw err

end

/-! ## The response -/

section

variable {call : LLMCall}

theorem costUsd_of_acceptResponse {executor req res accepted}
    (accepts : acceptResponse executor req res = .ok accepted) :
    accepted.costUsd = res.costUsd := by
  rw [acceptResponse] at accepts
  obtain ⟨output, -, rest⟩ := Program.except_bind_eq_ok.mp accepts
  obtain ⟨-, -, rest⟩ := Program.except_bind_eq_ok.mp rest
  obtain ⟨-, -, gave⟩ := Program.except_bind_eq_ok.mp rest
  cases gave
  rfl

theorem balanced_wait {st : LLMState} (balanced : Balanced st) (seconds : ℕ) :
    Balanced { st with redis := st.redis.wait seconds } :=
  fun key time later lasting => balanced key time (le_trans (Nat.le_add_right _ _) later) lasting

theorem owing_inferred {st : LLMState} (balanced : Balanced st) (resp : ProviderResponse)
    (now : resp.time = st.redis.now) :
    Owing resp { st with responses := st.responses ++ [resp] } where
  listed := by simp
  time_eq := now
  owed key time later lasting := by
    have before : st.Lasting key time := fun response isIn =>
      lasting response (List.mem_append_left _ isIn)
    rw [LLMState.recordedCost, List.map_append, List.sum_append, List.map_singleton,
      List.sum_singleton]
    exact congrArg (· + resp.charge key) (balanced key time later before)

theorem keeps_callProvider (chosen : Target) : Keeps Balanced (callProvider call chosen) :=
  .bind (keeps_contact onCosts_balanced _) fun _ =>
    .bind (.modify fun _ balanced => balanced_wait balanced _) fun _ => keeps_ofExcept _

theorem triple_inferResponse (chosen : Target) : Triple Balanced (inferResponse call chosen)
      (fun result st => ∃ num time, Owing ⟨call, chosen.request, result, num, time⟩ st ∧
        st.appended = num) Balanced := by
  refine .bind (keeps_callProvider chosen) fun gave => .bind (keeps_ofExcept _) fun result => ?_
  refine .bind (Q := fun _ st => ∃ num time, Owing ⟨call, chosen.request, result, num, time⟩ st ∧
    st.appended = num) (.modify fun st balanced => ?_) fun _ => .pure fun _ holds => holds
  exact ⟨st.appended, st.redis.now, owing_inferred balanced _ rfl, rfl⟩

/-- What recording a cost adds to the counters of a call. -/
theorem costAt_recordPostCallCost (call : LLMCall) (redis : Redis) (policy : LLMPolicy)
    (costUsd : Option ℚ≥0) : ∃ after, (recordPostCallCost (ε := LLMError) call.arguments.tenantId
        call.arguments.flowRunId policy costUsd).run redis = .ok ⟨⟩ after ∧
      after.now = redis.now ∧ ∀ key time, redis.now ≤ time →
        (key ∈ call.keys → time < redis.now + policy.tenantCostTtl ∧
          costAt key time redis = redis.cost key) →
        costAt key time after =
          costAt key time redis + if key ∈ call.keys then costUsd.getD 0 else 0 := by
  cases costUsd with
  | none => exact ⟨redis, rfl, rfl, fun key time _ _ => by simp⟩
  | some amount =>
    let flowRun : CounterKey := .flowRun call.arguments.flowRunId
    let tenant : CounterKey := .tenant call.arguments.tenantId
    let between := spend flowRun redis amount policy.tenantCostTtl
    refine ⟨spend tenant between amount policy.tenantCostTtl, ?_, now_spend.trans now_spend, ?_⟩
    · simp only [recordPostCallCost, Thread.run_bind]
      rw [Program.bind_of_ok (run_addCost ..), Program.bind_of_ok (run_addCost ..)]
      rfl
    · intro key time later charged
      by_cases own : key = flowRun
      · subst own
        obtain ⟨lasts, steady⟩ := charged (by simp [LLMCall.keys, flowRun])
        rw [costAt_spend_of_ne CounterKey.noConfusion, costAt_spend_self later lasts steady, steady,
          if_pos (by simp [LLMCall.keys, flowRun])]
        rfl
      have first (time) : costAt key time between = costAt key time redis := costAt_spend_of_ne own
      by_cases other : key = tenant
      · subst other
        obtain ⟨lasts, steady⟩ := charged (by simp [LLMCall.keys, tenant])
        have unchanged : between.cost tenant = redis.cost tenant := by
          show costAt tenant between.now between = _
          rw [first, now_spend]
          rfl
        have same : between.now = redis.now := now_spend
        rw [← same] at later lasts
        rw [costAt_spend_self later lasts ((first time).trans (steady.trans unchanged.symm)),
          unchanged, steady, if_pos (by simp [LLMCall.keys, tenant])]
        rfl
      · have foreign : key ∉ call.keys := by simp_all [LLMCall.keys, flowRun, tenant]
        rw [costAt_spend_of_ne other, first, if_neg foreign, add_zero]

theorem triple_recordCost {resp accepted}
    (own : resp.call = call) (cost : accepted.costUsd = resp.result.costUsd)
    (recordable : resp.call.executor.guardrailEngine.isSome →
      resp.call.arguments.policyLlm.isSome → resp.Recorded) :
    Triple (Owing resp) (recordCost call accepted) (fun _ => Balanced) Balanced := by
  subst own
  unfold recordCost
  split
  · rename_i engine policy withEngine withPolicy
    have recorded := recordable (Option.isSome_iff_exists.mpr ⟨engine, withEngine⟩)
      (Option.isSome_iff_exists.mpr ⟨policy, withPolicy⟩)
    intro st owing
    obtain ⟨after, ran, now, adds⟩ :=
      costAt_recordPostCallCost resp.call st.redis policy accepted.costUsd
    unfold onRedis
    rw [ran]
    intro key time later lasting
    have later : st.redis.now ≤ time := now ▸ later
    have owed := owing.owed key time later lasting
    rw [ProviderResponse.charge] at owed
    simp only [recorded, true_and] at owed
    show costAt key time after = _
    rw [adds key time later fun charged => ⟨?_, ?_⟩, cost]
    · exact owed
    · rw [← owing.time_eq]
      exact lasting resp owing.listed recorded charged policy withPolicy
    · have before := owing.owed key st.redis.now le_rfl (lasting.earlier later)
      exact add_right_cancel ((owing.owed key time later lasting).trans before.symm)
  · rename_i unguarded
    refine .pure fun st owing => owing.balanced fun recorded => ?_
    obtain ⟨engine, withEngine⟩ := Option.isSome_iff_exists.mp recorded.engine
    obtain ⟨policy, withPolicy⟩ := Option.isSome_iff_exists.mp recorded.policy
    exact unguarded engine policy withEngine withPolicy

theorem triple_appendPromptExecuted {resp} (own : resp.call = call) (accepted : LLMResult) :
    Triple (fun st => Owing resp st ∧ st.appended = resp.appended + 1)
      (appendPromptExecuted call accepted)
      (fun _ st => Owing resp st ∧ ((promptExecuted call.arguments.request).isSome →
        call.executor.appendFault (resp.appended + 1) = none)) Balanced := by
  subst own
  unfold appendPromptExecuted
  split
  · refine (triple_appendExecutionEvent _ (onCosts_owing resp) _ _).imp (fun _ holds => holds)
      (fun _ _ added => ⟨added.1.1, fun _ => added.2⟩) ?_
    rename_i version hash prompted
    rintro st ⟨owing, fault⟩
    exact owing.balanced fun recorded => fault (recorded.prompted (by rw [prompted]; rfl))
  · rename_i unprompted
    refine .pure fun st holds => ⟨holds.1, fun prompted => ?_⟩
    rw [unprompted] at prompted
    cases prompted

/-- What follows a response settles what is owed for it, or nothing is. -/
theorem triple_complete (chosen : Target) (result : LLMResult) (num time : ℕ) :
    Triple (fun st => Owing ⟨call, chosen.request, result, num, time⟩ st ∧
        st.appended = num) (complete call chosen result) (fun _ => Balanced) Balanced := by
  unfold complete
  cases accepts : acceptResponse call.executor chosen.request result with
  | error err =>
    refine .bind (Q := fun _ _ => False) (.throw fun st holds => ?_) fun _ _ => False.elim
    refine holds.1.balanced fun recorded => ?_
    have accepted := recorded.accepted
    rw [accepts] at accepted
    cases accepted
  | ok accepted =>
    have owed := onCosts_owing ⟨call, chosen.request, result, num, time⟩
    refine .bind (Q := fun val st => (Owing ⟨call, chosen.request, result, num, time⟩ st ∧
      st.appended = num) ∧ val = accepted) (.pure fun st holds => ⟨holds, rfl⟩)
      fun val => .of_fact ?_
    rintro rfl
    refine .bind ((triple_appendExecutionEvent call owed _ _).imp (fun _ holds => holds)
      (fun _ _ added => added) ?_) fun _ => .of_fact fun completed => ?_
    · rintro st ⟨owing, fault⟩
      exact owing.balanced fun recorded => fault recorded.completed
    · refine .bind (triple_appendPromptExecuted rfl val) fun _ => .of_fact fun prompted => ?_
      have recordable : call.executor.guardrailEngine.isSome → call.arguments.policyLlm.isSome →
          ProviderResponse.Recorded ⟨call, chosen.request, result, num, time⟩ := by
        intro engine policy
        refine ⟨engine, policy, ?_, completed, prompted⟩
        rw [accepts]
        rfl
      refine .bind (triple_recordCost rfl (costUsd_of_acceptResponse accepts) recordable) fun _ =>
        ?_
      exact .bind (keeps_onCircuitBreaker onCosts_balanced _) fun _ =>
        .pure fun _ balanced => balanced

end

/-! ## Whole calls -/

theorem keeps_startCall (call : LLMCall) : Keeps Balanced (startCall call) :=
  .bind (keeps_ofExcept _) fun chosen => .bind (keeps_onCircuitBreaker onCosts_balanced _) fun _ =>
    .bind (keeps_appendExecutionEvent onCosts_balanced _) fun _ => .pure chosen

theorem keeps_balanced_executeLlm (call : LLMCall) : Keeps Balanced (executeLlm call) := by
  refine .bind (keeps_startCall call) fun chosen => .bind (.attempt ?_) fun out => ?_
  · refine .bind (.ofOption _ _) fun _ => .bind (keeps_ofExcept _) fun _ =>
      .bind (keeps_askGuardrails onCosts_balanced _) fun asked => ?_
    exact Triple.bind (triple_inferResponse asked) fun res =>
      .of_exists fun num => .of_exists fun time => triple_complete asked res num time
  · cases out with
    | ok res => exact .pure res
    | error err => exact keeps_failCall onCosts_balanced err

theorem balanced_occur {state : LLMState} (balanced : Balanced state) (occurrence : Occurrence) :
    Balanced (occur state occurrence) := by
  cases occurrence with
  | pass seconds => exact balanced_wait balanced seconds
  | call call => exact (keeps_balanced_executeLlm call).after balanced

theorem balanced_executeAll {state : LLMState} (balanced : Balanced state)
    (occurrences : List Occurrence) : Balanced (executeAll occurrences state) := by
  induction occurrences generalizing state with
  | nil => exact balanced
  | cons occurrence rest ih => exact ih (balanced_occur balanced occurrence)

/-- **The counters are the recorded costs.** After any calls, whatever came of them and whatever
time passed, the counter of a flow run or a tenant is the sum of the costs of its responses that
were accepted and whose completion events were appended, each counted once, as long as the windows
of their policies last. -/
theorem counters_eq_recorded_costs (occurrences : List Occurrence) (key : CounterKey)
    (lasting : (executeAll occurrences .empty).Lasting key
      (executeAll occurrences .empty).redis.now) :
    (executeAll occurrences .empty).redis.cost key =
      ((executeAll occurrences .empty).responses.map fun response => response.charge key).sum :=
  balanced_executeAll (fun _ _ _ _ => rfl) occurrences key _ le_rfl lasting

/-- A provider that answers with some text, for one dollar. -/
def dollarCall (loads : String → Option Value) : LLMCall where
  executor :=
    { provider := some fun _ => .ok
        { output := .dict [("content", .str "certainly!")], costUsd := some 1 }
      guardrailEngine := some ⟨none⟩
      elapsed := 2
      loads
      validate := fun _ _ => .valid }
  arguments :=
    { request := { modelAlias := "gpt", taskType := some .responseRender }
      tenantId := 1
      flowRunId := 7
      policyLlm := some {} }

/-- Half an hour apart, two accepted responses are both in the counter. -/
theorem two_dollars_recorded :
    (executeAll [.call (dollarCall fun _ => some (.dict [])), .pass 1800,
      .call (dollarCall fun _ => some (.dict []))] .empty).redis.cost (.flowRun 7) = 2 :=
  (counters_eq_recorded_costs _ (.flowRun 7) (by decide +kernel)).trans (by decide +kernel)

/-- The response was paid for, and neither counter has it, since the text is not JSON. -/
theorem rejected_response_unrecorded :
    (executeAll [.call (dollarCall fun _ => none)] .empty).responses.map
        (fun response => response.result.costUsd) = [some 1] ∧
      (executeAll [.call (dollarCall fun _ => none)] .empty).redis.cost (.flowRun 7) = 0 ∧
      (executeAll [.call (dollarCall fun _ => none)] .empty).redis.cost (.tenant 1) = 0 := by
  decide +kernel

end AgentOrchestration.Llm
