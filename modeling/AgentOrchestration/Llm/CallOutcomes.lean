import AgentOrchestration.Llm.CostAccounting

/-!
# What a call sends, and what it counts against the provider

`execute_llm` puts the request past the guardrails before it sends it, and tells the circuit breaker
how the call ended.
-/

namespace AgentOrchestration.Llm

set_option autoImplicit false

open Guardrails
open Program (Keeps Triple passes)

variable (call : LLMCall) (chosen : Target)

/-- The part of the `try` block before the provider is called: it ends with the request to send. -/
def prepareRequest : LLM Target := do
  let _ ← Program.ofOption (.other "AttributeError") call.arguments.request.taskType
  ofExcept (validateSchema call.executor (.dict (inputToValidate chosen.request))
    chosen.request.inputSchema "llm_input_invalid")
  askGuardrails call chosen

theorem attemptCall_eq :
    attemptCall call chosen = prepareRequest call chosen >>= fun asked =>
      inferResponse call asked >>= complete call asked := by
  simp only [attemptCall, prepareRequest, bind_assoc]

theorem ofExcept_eq_ok {α : Type} {out : Except LLMError α} {value : α} {state next : LLMState} :
    ofExcept out state = .ok value next ↔ out = .ok value ∧ next = state := by
  cases out with
  | ok other => exact Program.pure_eq_ok.trans (by rw [Except.ok.injEq])
  | error error => exact ⟨nofun, nofun⟩

/-! ## What the guardrails leave of a request -/

section

variable {call chosen} {sent : Target} {β : Type} {field : LLMRequest → β}

/-- A decision to degrade a call does not change what is read of its request. -/
def Leaves (field : LLMRequest → β) (decided : GuardrailDecision) : Prop :=
  decided.decision = .degrade → ∀ latency ∈ decided.overrides.maxLatencyMs, ∀ request,
    field { request with maxLatencyMs := some latency } = field request

variable (unnamed : ∀ request modelAlias, field { request with modelAlias } = field request)

include unnamed

theorem field_target {select} {request : LLMRequest} {modelAlias}
    (selected : target select request modelAlias = .ok sent) :
    field sent.request = field request := by
  unfold target at selected
  cases found : select modelAlias with
  | ok selection =>
    rw [found] at selected
    cases selected
    exact unnamed _ _
  | error error =>
    rw [found] at selected
    cases selected

variable (field) in
theorem field_chooseProvider (chooses : chooseProvider call = .ok chosen) :
    field chosen.request = field call.arguments.request := by
  unfold chooseProvider at chooses
  split at chooses
  · exact field_target unnamed chooses
  · cases chooses
    rfl
  · cases chooses

variable (call chosen)

theorem triple_applyDecision {decided : GuardrailDecision} (leaves : Leaves field decided) :
    Triple (fun _ => True) (applyDecision call chosen decided)
      (fun sent _ => field sent.request = field chosen.request) fun _ => True := by
  unfold applyDecision
  split
  · exact .pure fun _ _ => rfl
  · exact .bind (.any _) fun _ => .throw fun _ _ => trivial
  · rename_i degrades
    refine .bind (Q := fun degraded _ => True ∧ field degraded.request = field chosen.request) ?_
      fun degraded => .of_fact fun same => .bind (.any _) fun _ => ?_
    · cases selected : degradedTarget call chosen decided.overrides with
      | error error => exact .throw fun _ _ => trivial
      | ok degraded =>
        refine .pure fun _ _ => ⟨trivial, ?_⟩
        unfold degradedTarget at selected
        split at selected
        · exact field_target unnamed selected
        · cases selected
          rfl
    · split
      · rename_i latency override
        have given := (Option.filter_eq_some_iff.mp override).1
        exact .pure fun _ _ => (leaves degrades latency given _).trans same
      · exact .pure fun _ _ => same

variable (field) in
theorem triple_prepareRequest (leaves : ∀ policy request cost flowCost tenantCost flowCalls
      tenantCalls, Leaves field
        (decision policy request cost flowCost tenantCost flowCalls tenantCalls)) :
    Triple (fun _ => True) (prepareRequest call chosen)
      (fun sent _ => field sent.request = field chosen.request) fun _ => True := by
  refine .bind (.any _) fun _ => .bind (.any _) fun _ => ?_
  unfold askGuardrails
  split
  · rename_i engine policy _ _
    refine .bind (Q := fun decided _ => True ∧ Leaves field decided) ?_ fun decided =>
      .of_fact fun leaves => .bind (.any _) fun _ =>
        triple_applyDecision call chosen unnamed leaves
    have free : Free fun _ _ => True := fun _ _ _ => trivial
    intro state _
    have decides := (@ensures_checkAndReserve LLMError engine _ (fun _ => True) _ free
      call.arguments.tenantId call.arguments.flowRunId chosen.request policy call.arguments.provider
      chosen.providerModel).triple state.redis rfl
    unfold onRedis
    split at decides
    · rename_i decided redis ran
      obtain ⟨⟨_, _, rfl⟩, -⟩ := decides
      rw [ran]
      exact ⟨trivial, leaves _ _ _ _ _ _ _⟩
    · rename_i ran
      rw [ran]
      trivial
  · exact .pure fun _ _ => rfl

end

/-! ## Latency -/

theorem maxLatencyMs_decision (policy request cost flowCost tenantCost flowCalls tenantCalls) :
    (decision policy request cost flowCost tenantCost flowCalls tenantCalls).decision = .degrade →
      (decision policy request cost flowCost tenantCost flowCalls
        tenantCalls).overrides.maxLatencyMs = none := by
  have limited : ∀ reason name limit projected,
      (costLimited policy reason name limit projected).overrides.maxLatencyMs = none := by
    intro reason name limit projected
    unfold costLimited
    split <;> rfl
  simp only [decision]
  split
  · exact fun _ => rfl
  split
  · exact fun _ => rfl
  split
  · exact fun _ => limited _ _ _ _
  split
  · exact fun _ => limited _ _ _ _
  · -- only a call that is allowed has its latency overridden
    unfold allowed
    split <;> simp

/-- **The hard latency limit** of the policy holds for the request that is sent exactly if the
request was within it to begin with. -/
theorem sent_latency_within_iff (hard latency : ℕ) (state next : LLMState) (sent : Target)
    (_ : call.arguments.policyLlm.bind LLMPolicy.maxLatencyMsHard = some hard)
    (specified : call.arguments.request.maxLatencyMs = some latency)
    (chooses : chooseProvider call = .ok chosen)
    (prepared : prepareRequest call chosen state = .ok sent next) :
    (∀ limit ∈ sent.request.maxLatencyMs, limit ≤ hard) ↔ latency ≤ hard := by
  have leaves (policy request cost flowCost tenantCost flowCalls tenantCalls) :
      Leaves LLMRequest.maxLatencyMs
        (decision policy request cost flowCost tenantCost flowCalls tenantCalls) := by
    intro degrades latency overrides
    rw [maxLatencyMs_decision _ _ _ _ _ _ _ degrades] at overrides
    cases overrides
  have same := triple_prepareRequest call chosen LLMRequest.maxLatencyMs
    (fun _ _ => rfl) leaves state trivial
  rw [prepared] at same
  have first := field_chooseProvider LLMRequest.maxLatencyMs (fun _ _ => rfl) chooses
  rw [same, first, specified]
  simp

def cappedCall (maxLatencyMs : ℕ) : LLMCall where
  executor :=
    { provider := some fun _ => .ok { output := .dict [] }
      guardrailEngine := some ⟨none⟩
      loads := fun _ => none
      validate := fun _ _ => .invalid }
  arguments :=
    { request := { modelAlias := "gpt", taskType := some .responseRender, maxLatencyMs }
      tenantId := 1
      flowRunId := 7
      policyLlm := some { maxLatencyMsHard := some 100 } }

theorem short_latency_within : ∃ chosen sent next, chooseProvider (cappedCall 80) = .ok chosen ∧
      prepareRequest (cappedCall 80) chosen .empty = .ok sent next ∧
      ∀ limit ∈ sent.request.maxLatencyMs, limit ≤ 100 :=
  ⟨_, _, _, rfl, rfl, (sent_latency_within_iff (cappedCall 80) _ 100 80 .empty _ _ rfl rfl rfl
    rfl).mpr (by decide)⟩

/-- The request goes out with the latency it came with. -/
theorem long_latency_sent : (Program.after (executeLlm (cappedCall 500)) .empty).responses.map
      (fun response => response.request.maxLatencyMs) = [some 500] := by
  decide +kernel

/-! ## Failures -/

/-- How a call of `execute_llm` calls the provider and the circuit breaker. -/
def contactsOf (state : LLMState) : List Contact :=
  (Program.after (executeLlm call) state).contacts.drop state.contacts.length

/-- What a response has to pass, by the number of events appended before it. -/
structure Passes (request : LLMRequest) (providerModel : String) (appended : ℕ)
    (returned : LLMResult) : Prop where
  priced : ∃ result, priceResponse call.executor call.arguments.provider providerModel returned =
    .ok result ∧ (acceptResponse call.executor request result).isOk
  completed : call.executor.appendFault appended = none
  prompted : (promptExecuted call.arguments.request).isSome →
    call.executor.appendFault (appended + 1) = none
  closed : ∀ breaker ∈ call.executor.circuitBreaker, (breaker.perform .recordSuccess).isOk

/-- Nothing is refused: the request is named and valid, the guardrails let it through, and what the
provider returns is priced, accepted and reported. -/
structure Unrefused (state : LLMState) : Prop where
  named : call.arguments.request.taskType.isSome
  valid : validateSchema call.executor (.dict (inputToValidate chosen.request))
    chosen.request.inputSchema "llm_input_invalid" = .ok ()
  unblocked : passes (askGuardrails call chosen) state = true
  accepted : ∀ asked next returned, askGuardrails call chosen state = .ok asked next →
    asked.infer asked.request = .ok returned →
      Passes call asked.request asked.providerModel next.appended returned

/-! ### Contacts -/

/-- Since the contacts in `base` the provider has not failed and no failure has been recorded. -/
def Clean (base : List Contact) (state : LLMState) : Prop :=
  ∃ more, state.contacts = base ++ more ∧ .infer false ∉ more ∧ .breaker .recordFailure ∉ more

section

variable {call chosen} {base : List Contact} {state : LLMState} {α : Type}

theorem Clean.of_eq {other : LLMState} (clean : Clean base state)
    (same : other.contacts = state.contacts) : Clean base other := by
  obtain ⟨more, eq, fine⟩ := clean
  exact ⟨more, same.trans eq, fine⟩

theorem clean_contact {made : Contact} (returned : made ≠ .infer false)
    (fine : made ≠ .breaker .recordFailure) : Keeps (Clean base) (contact made) := by
  refine .modify fun st clean => ?_
  obtain ⟨more, eq, answered, unrecorded⟩ := clean
  refine ⟨more ++ [made], ?_, ?_, ?_⟩
  · rw [eq, List.append_assoc]
  · simp [answered, returned.symm]
  · simp [unrecorded, fine.symm]

theorem clean_onCircuitBreaker {operation} (fine : operation ≠ .recordFailure) :
    Keeps (Clean base) (onCircuitBreaker call operation) := by
  unfold onCircuitBreaker
  split
  · refine .bind (clean_contact nofun ?_) fun _ => keeps_ofExcept _
    exact fun eq => fine (Contact.breaker.inj eq)
  · exact .pure _

theorem clean_appendExecutionEvent (event : LLMEvent) :
    Keeps (Clean base) (appendExecutionEvent call event) := by
  intro st clean
  unfold appendExecutionEvent
  cases call.executor.appendFault st.appended <;> exact clean.of_eq rfl

theorem clean_onRedis (thread : Interleaving.Thread Redis LLMError α) :
    Keeps (Clean base) (onRedis thread) := by
  intro st clean
  unfold onRedis
  cases thread.run st.redis <;> exact clean.of_eq rfl

theorem clean_startCall : Keeps (Clean base) (startCall call) :=
  .bind (keeps_ofExcept _) fun _ => .bind (clean_onCircuitBreaker nofun) fun _ =>
    .bind (clean_appendExecutionEvent _) fun _ => .pure _

theorem clean_prepareRequest : Keeps (Clean base) (prepareRequest call chosen) := by
  refine .bind (.ofOption _ _) fun _ => .bind (keeps_ofExcept _) fun _ => ?_
  unfold askGuardrails
  split
  · refine .bind (clean_onRedis _) fun decided =>
      .bind (clean_appendExecutionEvent _) fun _ => ?_
    unfold applyDecision
    split
    · exact .pure _
    · exact .bind (clean_appendExecutionEvent _) fun _ => .throw _
    · refine .bind (keeps_ofExcept _) fun _ => .bind (clean_appendExecutionEvent _) fun _ => ?_
      split <;> exact .pure _
  · exact .pure _

theorem clean_complete (result : LLMResult) : Keeps (Clean base) (complete call chosen result) := by
  refine .bind (keeps_ofExcept _) fun accepted => .bind (clean_appendExecutionEvent _) fun _ =>
    .bind ?_ fun _ => .bind ?_ fun _ => .bind (clean_onCircuitBreaker nofun) fun _ => .pure _
  · unfold appendPromptExecuted
    split
    · exact clean_appendExecutionEvent _
    · exact .pure _
  · unfold recordCost
    split
    · exact clean_onRedis _
    · exact .pure _

end

/-! ### What the `try` block comes to -/

section

variable (state : LLMState)

def ProviderFails : Prop :=
  ∃ asked next error, prepareRequest call chosen state = .ok asked next ∧
    asked.infer asked.request = .error error

variable {call chosen state} {asked : Target} {next : LLMState}

theorem prepareRequest_eq_ok :
    prepareRequest call chosen state = .ok asked next ↔ call.arguments.request.taskType.isSome ∧
      validateSchema call.executor (.dict (inputToValidate chosen.request))
        chosen.request.inputSchema "llm_input_invalid" = .ok () ∧
      askGuardrails call chosen state = .ok asked next := by
  unfold prepareRequest
  rw [Program.ofOption_bind_eq_ok]
  simp only [Program.bind_eq_ok, ofExcept_eq_ok]
  constructor
  · rintro ⟨taskType, named, ⟨⟩, _, ⟨valid, rfl⟩, asks⟩
    exact ⟨by rw [named]; rfl, valid, asks⟩
  · rintro ⟨named, valid, asks⟩
    obtain ⟨taskType, named⟩ := Option.isSome_iff_exists.mp named
    exact ⟨taskType, named, ⟨⟩, _, ⟨valid, rfl⟩, asks⟩

theorem passes_bind {α β : Type} {m : LLM α} {k : α → LLM β} :
    passes (m >>= k) state = true ↔
      ∃ val next, m state = .ok val next ∧ passes (k val) next = true := by
  simp only [Program.passes_iff, Program.bind_eq_ok]
  constructor
  · rintro ⟨val, last, mid, next, ran, goes⟩
    exact ⟨mid, next, ran, val, last, goes⟩
  · rintro ⟨mid, next, ran, val, last, goes⟩
    exact ⟨val, last, mid, next, ran, goes⟩

theorem passes_bind_and {α β : Type} {m : LLM α} {k : α → LLM β} {goes : Prop}
    (rest : ∀ val next, passes (k val) next = true ↔ goes) :
    passes (m >>= k) state = true ↔ passes m state = true ∧ goes := by
  rw [passes_bind, Program.passes_iff]
  simp only [rest, exists_and_right]

theorem appendExecutionEvent_eq_ok {event : LLMEvent} {val} :
    appendExecutionEvent call event state = .ok val next ↔
      call.executor.appendFault state.appended = none ∧
        next = { state with
          appended := state.appended + 1
          events := state.events ++ [(call.arguments.flowRunId, event)] } := by
  unfold appendExecutionEvent
  cases call.executor.appendFault state.appended with
  | none => exact ⟨fun ran => by cases ran; exact ⟨rfl, rfl⟩, fun ⟨_, eq⟩ => by rw [eq]⟩
  | some error => exact ⟨nofun, nofun⟩

theorem passes_onCircuitBreaker {operation} :
    passes (onCircuitBreaker call operation) state = true ↔
      ∀ breaker ∈ call.executor.circuitBreaker, (breaker.perform operation).isOk := by
  unfold onCircuitBreaker
  cases call.executor.circuitBreaker with
  | none => exact ⟨fun _ => nofun, fun _ => rfl⟩
  | some breaker =>
    have performs : passes (do contact (.breaker operation); ofExcept (breaker.perform operation))
        state = (breaker.perform operation).isOk := by
      cases breaker.perform operation <;> rfl
    simpa using iff_of_eq (congrArg (· = true) performs)

theorem passes_recordCost (accepted : LLMResult) :
    passes (recordCost call accepted) state = true := by
  unfold recordCost
  split
  · rename_i policy _ _
    obtain ⟨after, ran, -⟩ := costAt_recordPostCallCost call state.redis policy accepted.costUsd
    unfold passes onRedis
    rw [ran]
  · rfl

theorem passes_appendPromptExecuted (accepted : LLMResult) :
    passes (appendPromptExecuted call accepted) state = true ↔
      ((promptExecuted call.arguments.request).isSome →
        call.executor.appendFault state.appended = none) := by
  unfold appendPromptExecuted
  cases promptExecuted call.arguments.request with
  | none => exact ⟨fun _ => nofun, fun _ => rfl⟩
  | some prompt => simp [Program.passes_iff, appendExecutionEvent_eq_ok]

theorem passes_complete_iff {result : LLMResult} :
    passes (complete call chosen result) state = true ↔
      (acceptResponse call.executor chosen.request result).isOk ∧
        call.executor.appendFault state.appended = none ∧
        ((promptExecuted call.arguments.request).isSome →
          call.executor.appendFault (state.appended + 1) = none) ∧
        ∀ breaker ∈ call.executor.circuitBreaker, (breaker.perform .recordSuccess).isOk := by
  have reported (accepted : LLMResult) (st : LLMState) :
      passes (do
        appendPromptExecuted call accepted
        recordCost call accepted
        onCircuitBreaker call .recordSuccess
        return accepted) st = true ↔ ((promptExecuted call.arguments.request).isSome →
          call.executor.appendFault st.appended = none) ∧
        ∀ breaker ∈ call.executor.circuitBreaker, (breaker.perform .recordSuccess).isOk := by
    rw [passes_bind_and fun _ next => ?_, passes_appendPromptExecuted]
    rw [passes_bind_and fun _ next => ?_, and_iff_right (passes_recordCost accepted)]
    rw [passes_bind_and fun _ next => iff_of_true rfl trivial, and_true, passes_onCircuitBreaker]
  unfold complete
  cases acceptResponse call.executor chosen.request result with
  | error error => exact ⟨nofun, fun passes => nomatch passes.1⟩
  | ok accepted =>
    show passes (appendExecutionEvent call _ >>= fun _ => _) state = true ↔ _
    simp only [passes_bind, appendExecutionEvent_eq_ok, reported]
    constructor
    · rintro ⟨_, _, ⟨completed, rfl⟩, prompted, closed⟩
      exact ⟨rfl, completed, prompted, closed⟩
    · rintro ⟨-, completed, prompted, closed⟩
      exact ⟨⟨⟩, _, ⟨completed, rfl⟩, prompted, closed⟩

/-- A response that can be priced is logged, which appends no event. -/
theorem inferResponse_eq_ok {result : LLMResult} {last : LLMState}
    (inferred : inferResponse call asked next = .ok result last) :
    last.appended = next.appended ∧ ∃ returned, asked.infer asked.request = .ok returned ∧
      priceResponse call.executor call.arguments.provider asked.providerModel returned =
        .ok result := by
  simp only [inferResponse, callProvider, Program.bind_eq_ok, ofExcept_eq_ok] at inferred
  obtain ⟨returned, _, ⟨_, _, ⟨⟩, _, _, ⟨⟩, answered, rfl⟩, _, _, ⟨priced, rfl⟩, _, _, ⟨⟩, ⟨⟩⟩ :=
    inferred
  exact ⟨rfl, returned, answered, priced⟩

theorem passes_inferResponse {returned result : LLMResult}
    (inferred : asked.infer asked.request = .ok returned)
    (priced : priceResponse call.executor call.arguments.provider asked.providerModel returned =
      .ok result) : ∃ last, inferResponse call asked next = .ok result last := by
  simp only [inferResponse, callProvider, Program.bind_eq_ok, ofExcept_eq_ok]
  exact ⟨_, returned, _, ⟨⟨⟩, _, rfl, ⟨⟩, _, rfl, inferred, rfl⟩, result, _, ⟨priced, rfl⟩,
    ⟨⟩, _, rfl, rfl⟩

theorem passes_attemptCall_iff : passes (attemptCall call chosen) state = true ↔
    ∃ asked next returned, prepareRequest call chosen state = .ok asked next ∧
      asked.infer asked.request = .ok returned ∧
      Passes call asked.request asked.providerModel next.appended returned := by
  rw [attemptCall_eq, passes_bind]
  refine exists_congr fun asked => exists_congr fun next => ?_
  simp only [passes_bind, passes_complete_iff]
  constructor
  · rintro ⟨prepared, result, last, inferred, accepted, completed, prompted, closed⟩
    obtain ⟨same, returned, answered, priced⟩ := inferResponse_eq_ok inferred
    rw [same] at completed prompted
    exact ⟨returned, prepared, answered, ⟨result, priced, accepted⟩, completed, prompted, closed⟩
  · rintro ⟨returned, prepared, answered, ⟨result, priced, accepted⟩, completed, prompted, closed⟩
    obtain ⟨last, inferred⟩ : ∃ last, inferResponse call asked next = .ok result last :=
      passes_inferResponse answered priced
    obtain ⟨same, -⟩ := inferResponse_eq_ok inferred
    rw [← same] at completed prompted
    exact ⟨prepared, result, last, inferred, accepted, completed, prompted, closed⟩

/-- **The `try` block raises exactly if the provider failed**: if and only if nothing is refused. -/
theorem raises_iff_providerFails :
    (¬ passes (attemptCall call chosen) state = true ↔ ProviderFails call chosen state) ↔
      Unrefused call chosen state := by
  rw [passes_attemptCall_iff]
  constructor
  · intro raised
    by_cases fails : ProviderFails call chosen state
    · obtain ⟨asked, next, error, prepared, inferred⟩ := fails
      obtain ⟨named, valid, asks⟩ := prepareRequest_eq_ok.mp prepared
      refine ⟨named, valid, Program.passes_iff.mpr ⟨_, _, asks⟩,
        fun other _ returned asks' inferred' => ?_⟩
      cases asks.symm.trans asks'
      cases inferred.symm.trans inferred'
    · obtain ⟨asked, next, returned, prepared, inferred, accepted⟩ :=
        not_not.mp (mt raised.mp fails)
      obtain ⟨named, valid, asks⟩ := prepareRequest_eq_ok.mp prepared
      refine ⟨named, valid, Program.passes_iff.mpr ⟨_, _, asks⟩,
        fun other _ returned' asks' inferred' => ?_⟩
      cases asks.symm.trans asks'
      cases inferred.symm.trans inferred'
      exact accepted
  · intro unrefused
    obtain ⟨asked, next, asks⟩ := Program.passes_iff.mp unrefused.unblocked
    have prepared := prepareRequest_eq_ok.mpr ⟨unrefused.named, unrefused.valid, asks⟩
    constructor
    · intro fails
      cases inferred : asked.infer asked.request with
      | error error => exact ⟨asked, next, error, prepared, inferred⟩
      | ok returned =>
        have accepted := unrefused.accepted asked next returned asks inferred
        exact absurd ⟨asked, next, returned, prepared, inferred, accepted⟩ fails
    · rintro ⟨asked', next', error, prepared', inferred⟩ ⟨_, _, _, prepared'', inferred', -⟩
      cases prepared'.symm.trans prepared''
      cases inferred.symm.trans inferred'

theorem clean_inferResponse {base returned} (inferred : asked.infer asked.request = .ok returned) :
    Keeps (Clean base) (inferResponse call asked) := by
  have made : Contact.infer (asked.infer asked.request).isOk ≠ .infer false := by
    rw [inferred]
    nofun
  refine .bind (.bind (clean_contact made nofun) fun _ => .bind ?_ fun _ => keeps_ofExcept _)
    fun _ => .bind (keeps_ofExcept _) fun _ => .bind ?_ fun _ => .pure _
  all_goals exact .modify fun _ clean => clean.of_eq rfl

theorem contacts_inferResponse {error} (inferred : asked.infer asked.request = .error error) :
    ∃ last, inferResponse call asked next = .error error last ∧
      last.contacts = next.contacts ++ [.infer false] := by
  unfold inferResponse callProvider
  rw [inferred]
  exact ⟨_, rfl, rfl⟩

variable (call chosen) in
/-- The `try` block records no failure, and shows whether the provider failed. -/
theorem contacts_attemptCall {base} (clean : Clean base state) : ∃ more,
    (Program.after (attemptCall call chosen) state).contacts = base ++ more ∧
      .breaker .recordFailure ∉ more ∧
      (.infer false ∈ more ↔ ProviderFails call chosen state) := by
  rw [attemptCall_eq]
  by_cases fails : ProviderFails call chosen state
  · obtain ⟨asked, next, error, prepared, inferred⟩ := fails
    obtain ⟨more, eq, -, unrecorded⟩ := clean_prepareRequest.of_ok clean prepared
    obtain ⟨last, raised, logged⟩ := contacts_inferResponse inferred
    rw [Program.after, Program.bind_of_ok prepared, Program.bind_of_error raised]
    refine ⟨more ++ [.infer false], ?_, by simp [unrecorded], iff_of_true (by simp) ?_⟩
    · simp [logged, eq]
    · exact ⟨asked, next, error, prepared, inferred⟩
  · have answers : Clean base (Program.after (prepareRequest call chosen >>= fun asked =>
        inferResponse call asked >>= complete call asked) state) := by
      cases prepared : prepareRequest call chosen state with
      | error error next =>
        rw [Program.after, Program.bind_of_error prepared]
        exact clean_prepareRequest.of_error clean prepared
      | ok asked next =>
        rw [Program.after, Program.bind_of_ok prepared]
        have before := clean_prepareRequest.of_ok clean prepared
        cases inferred : asked.infer asked.request with
        | error error => exact absurd ⟨asked, next, error, prepared, inferred⟩ fails
        | ok returned =>
          exact (Keeps.bind (clean_inferResponse inferred) clean_complete).after before
    obtain ⟨more, eq, answered, unrecorded⟩ := answers
    exact ⟨more, eq, unrecorded, iff_of_false answered fails⟩

end

/-! ### What is returned -/

section

variable {call chosen} {state next : LLMState} {result : LLMResult}

theorem chooseProvider_of_startCall (starts : startCall call state = .ok chosen next) :
    chooseProvider call = .ok chosen := by
  simp only [startCall, Program.bind_eq_ok, ofExcept_eq_ok] at starts
  obtain ⟨_, _, ⟨chooses, -⟩, _, _, -, _, _, -, ⟨⟩⟩ := starts
  exact chooses

theorem acceptResponse_of_complete {accepted : LLMResult}
    (completed : complete call chosen result state = .ok accepted next) :
    acceptResponse call.executor chosen.request result = .ok accepted := by
  simp only [complete, Program.bind_eq_ok, ofExcept_eq_ok] at completed
  obtain ⟨_, _, ⟨accepts, -⟩, _, _, -, _, _, -, _, _, -, _, _, -, ⟨⟩⟩ := completed
  exact accepts

theorem failCall_ne_ok (error : LLMError) : (failCall call error : LLM LLMResult) state ≠
    .ok result next := by
  intro ran
  simp only [failCall, Program.bind_eq_ok] at ran
  obtain ⟨_, _, -, _, _, -, ⟨⟩⟩ := ran

/-- What `execute_llm` returns satisfies the output schema of its request. -/
theorem validates_of_executeLlm (ran : executeLlm call state = .ok result next) :
    validateSchema call.executor result.output call.arguments.request.outputSchema
      "llm_output_invalid" = .ok () := by
  rw [executeLlm] at ran
  obtain ⟨chosen, started, starts, ran⟩ := Program.bind_eq_ok.mp ran
  cases attempted : attemptCall call chosen started with
  | error error last =>
    rw [Program.bind_of_ok (Program.attempt_of_error attempted)] at ran
    exact absurd ran (failCall_ne_ok error)
  | ok returned last =>
    rw [Program.bind_of_ok (Program.attempt_of_ok attempted)] at ran
    cases ran
    rw [attemptCall_eq] at attempted
    obtain ⟨asked, sent, prepared, attempted⟩ := Program.bind_eq_ok.mp attempted
    obtain ⟨response, answered, -, completed⟩ := Program.bind_eq_ok.mp attempted
    have same := triple_prepareRequest call chosen LLMRequest.outputSchema
      (fun _ _ => rfl) (fun _ _ _ _ _ _ _ _ _ _ _ => rfl) started trivial
    rw [prepared] at same
    have first := field_chooseProvider LLMRequest.outputSchema (fun _ _ => rfl)
      (chooseProvider_of_startCall starts)
    have accepts := acceptResponse_of_complete completed
    unfold acceptResponse at accepts
    obtain ⟨output, -, accepts⟩ := Program.except_bind_eq_ok.mp accepts
    obtain ⟨_, validates, accepts⟩ := Program.except_bind_eq_ok.mp accepts
    obtain ⟨-, -, gave⟩ := Program.except_bind_eq_ok.mp accepts
    cases gave
    rw [← first, ← same]
    exact validates

end

/-! ### What is recorded -/

theorem contacts_failCall {breaker : CircuitBreaker}
    (guarded : call.executor.circuitBreaker = some breaker) (error : LLMError) (state : LLMState) :
    (Program.after (failCall call error : LLM LLMResult) state).contacts =
      state.contacts ++ [.breaker .recordFailure] := by
  have recorded (α : Type) (k : PUnit → LLM α) :
      (onCircuitBreaker call .recordFailure >>= k) state =
        (ofExcept (breaker.perform .recordFailure) >>= k)
          { state with contacts := state.contacts ++ [.breaker .recordFailure] } := by
    unfold onCircuitBreaker
    rw [guarded]
    rfl
  rw [failCall, Program.after_congr (recorded _ _)]
  cases breaker.perform .recordFailure with
  | error refused => rfl
  | ok val =>
    show (Program.after (appendExecutionEvent call _ >>= fun _ => throw error) _).contacts = _
    unfold Program.after appendExecutionEvent
    simp only [bind, EStateM.bind]
    cases call.executor.appendFault state.appended <;> rfl

/-- A call with a circuit breaker and at most so many calls in a flow run. -/
def breakerCall (infer : LLMRequest → Except LLMError LLMResult) (outputSchema : Fields)
    (maxLlmCallsPerFlowRun : ℕ) : LLMCall :=
  { executor :=
      { (cappedCall 80).executor with
        provider := some infer, circuitBreaker := some ⟨fun _ => .ok ()⟩ }
    arguments :=
      { (cappedCall 80).arguments with
        request := { (cappedCall 80).arguments.request with outputSchema }
        policyLlm := some { maxLlmCallsPerFlowRun } } }

def timeoutCall : LLMCall := breakerCall (fun _ => .error (.other "TimeoutError")) [] 1

def refusedCall : Fields → ℕ → LLMCall := breakerCall fun _ => .ok { output := .dict [] }

end AgentOrchestration.Llm
