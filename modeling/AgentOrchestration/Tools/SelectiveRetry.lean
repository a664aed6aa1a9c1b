import AgentOrchestration.Tools.ToolErrorHandler

/-!
# Selective retry

`ToolExecutor` and `ToolErrorHandlerNode` in turn, as long as the handler names
operations to retry. The backend that creates, executes and schedules tool runs may
behave in any way; what it is asked to create is recorded.
-/

namespace AgentOrchestration.Tools

set_option autoImplicit false

open Execution (ServiceError)
open Program (Triple)
open ToolRunResult (dump)
open ToolErrorHandler (handledResult retryEligible)
open ToolRunResult (operationId)

/-! ## Recording what is run -/

section

variable {σ τ α : Type}

def onFirst (m : EStateM ServiceError σ α) : EStateM ServiceError (σ × τ) α := fun s =>
  match m s.1 with
  | .ok value next => .ok value (next, s.2)
  | .error raised next => .error raised (next, s.2)

/-- The backend, with a record of the operations for which it is asked to create a tool run. Nothing
is executed or scheduled that has not been created in the same step. -/
def recorded (backend : ToolBackend σ) : ToolBackend (σ × List String) where
  createToolRun context input := do
    modify fun s => (s.1, s.2 ++ [input.operationId])
    onFirst (backend.createToolRun context input)
  executeToolRun toolRunId := onFirst (backend.executeToolRun toolRunId)
  scheduleToolRun := backend.scheduleToolRun.map fun schedule context toolRunId runAt =>
    onFirst (schedule context toolRunId runAt)

end

/-! ## The rounds -/

/-- What a round depends on besides the state: the clock, and what the context has beside it. -/
structure RoundEnvironment where
  clock : ToolClock
  tenantId : ℕ
  correlationId : ℕ
  currentNodeRunId : ℕ
  metadata : Fields

/-- The context of the `ToolExecutor` step of a round. -/
def RoundEnvironment.context (env : RoundEnvironment) (state : Fields) : ToolContext :=
  { tenantId := env.tenantId, correlationId := env.correlationId
    currentNodeRunId := env.currentNodeRunId, state, metadata := env.metadata }

/-- The two nodes, by their ids and configurations. -/
structure RetryNodes where
  executorId : String
  executorConfig : Fields
  handlerId : String
  handlerConfig : Fields

/-- The state `NodeStepRunner` hands on after a node. -/
def stateAfter (nodeId : String) (state : Fields) (result : NodeResult) : Option Fields :=
  NodeStepRunner.nextState
    { currentNodeId := nodeId, state, memory := [], metadata := [], nodeOutput := []
      iterationCounters := [] } result

/-- One round: the operations that were run, and the data of the `ToolExecutor` result; `none` if
the step raised. -/
structure Round where
  attempted : List String
  result : Option Fields

/-- What the handler does after a `ToolExecutor` step, and the state of the next round: `none` when
something raises or nothing is to be retried. -/
def handleRound (nodes : RetryNodes) (state : Fields) (result : NodeResult) : Option Fields := do
  let between ← stateAfter nodes.executorId state result
  let handled ← (ToolErrorHandler.execute between result.data nodes.handlerConfig).toOption
  let next ← stateAfter nodes.handlerId between handled
  if (listUnder handled.data "retry_operation_ids").getD [] = [] then none else some next

/-- The rounds of the loop, for as long as there are environments for them. -/
def runRounds {σ : Type} (backend : ToolBackend σ) (nodes : RetryNodes) :
    List RoundEnvironment → Fields → σ → List Round
  | [], _, _ => []
  | env :: later, state, s =>
    match execute (recorded backend) env.clock (env.context state) nodes.executorConfig (s, []) with
    | .error _ (_, attempted) => [{ attempted, result := none }]
    | .ok result (s', attempted) =>
      { attempted, result := some result.data } ::
        match handleRound nodes state result with
        | none => []
        | some next => runRounds backend nodes later next s'

/-! ## What is observed -/

def reported (data : Fields) : List (String × String) :=
  ((listUnder data "result").getD []).filterMap fun item => do
    let fields ← item.asDict?
    let operationId ← stringField fields "operation_id"
    let status ← stringField fields "status"
    return (operationId, status)

def Round.done (round : Round) : List String :=
  ((reported (round.result.getD [])).filter fun entry =>
    entry.2 = OperationStatus.success.name ∨ entry.2 = OperationStatus.scheduled.name).map Prod.fst

/-- The ids of the operations that `ToolInputFiller` reports as ready. -/
def readyIds (state : Fields) : List String :=
  match getResult (nodeOutput state .toolInputFiller) with
  | .error _ => []
  | .ok raw =>
    match readyOperations raw false with
    | .error _ => []
    | .ok ready => ready.map ParamExtractionOperation.operationId

/-! ## The inputs of a step -/

section

variable (clock : ToolClock) (scheduling : ToolSchedulingConfig)
  (configs : List (String × List String))

/-- Outside strict mode every ready operation becomes a tool run or a failed result. -/
theorem prepareOperation_lenient (op : ParamExtractionOperation) :
    (∃ input, prepareOperation clock scheduling false configs op = .ok (.inl input) ∧
      input.operationId = op.operationId) ∨
    ∃ res, prepareOperation clock scheduling false configs op = .ok (.inr res) ∧
      res.operationId = op.operationId ∧ res.status = .error := by
  unfold prepareOperation
  split
  · exact .inr ⟨_, rfl, rfl, rfl⟩
  · split
    · exact .inr ⟨_, rfl, rfl, rfl⟩
    · exact .inl ⟨_, rfl, rfl⟩
  · exact .inr ⟨_, rfl, rfl, rfl⟩

theorem prepareOperations_lenient : ∀ ready : List ParamExtractionOperation, ∃ inputs results,
      prepareOperations clock scheduling false configs ready = .ok (inputs, results) ∧
      (results.map operationId ++ inputs.map ToolRunInput.operationId).Perm
        (ready.map ParamExtractionOperation.operationId) ∧
      ∀ res ∈ results, res.status = .error := by
  intro ready
  induction ready with
  | nil => exact ⟨[], [], rfl, .refl _, nofun⟩
  | cons op rest ih =>
    obtain ⟨inputs, results, prepared, same, failed⟩ := ih
    rcases prepareOperation_lenient clock scheduling configs op with
      ⟨input, here, id⟩ | ⟨res, here, id, status⟩
    · refine ⟨input :: inputs, results, by simp [prepareOperations, here, prepared], ?_, failed⟩
      rw [List.map_cons, id]
      exact List.perm_middle.trans (same.cons _)
    · refine ⟨inputs, res :: results, by simp [prepareOperations, here, prepared], ?_, ?_⟩
      · rw [List.map_cons, id]
        exact same.cons _
      · rintro other mem
        rcases List.mem_cons.mp mem with rfl | later
        · exact status
        · exact failed other later

theorem validateItems_lenient {α : Type} (validate : Value → Option α) (msg : String) :
    ∀ items, validateItems validate false msg items = .ok (items.filterMap validate) := by
  intro items
  induction items with
  | nil => rfl
  | cons item rest ih =>
    cases valid : validate item with
    | none => simp [validateItems, valid, ih]
    | some parsed =>
      rw [validateItems, ih]
      simp [valid, Except.map]

/-- Something else than a service's own refusal. -/
def Unexpected (error : ServiceError) : Prop := error.domainValidationMessage = none

variable {error : ServiceError}

theorem getResult_unexpected {out} (raised : getResult out = .error error) : Unexpected error := by
  cases out <;> cases raised <;> rfl

variable {raw : Value}

theorem iterate_unexpected (raised : iterate raw = .error error) : Unexpected error := by
  cases raw <;> cases raised <;> rfl

theorem readyOperations_unexpected (raised : readyOperations raw false = .error error) :
    Unexpected error := by
  cases iterated : iterate raw with
  | error first =>
    simp only [readyOperations, iterated, bind, Except.bind] at raised
    cases raised
    exact iterate_unexpected iterated
  | ok items =>
    simp only [readyOperations, iterated, validateItems_lenient, bind, Except.bind] at raised
    cases raised

theorem buildToolConfigMap_unexpected {toolSlice}
    (raised : buildToolConfigMap toolSlice false = .error error) : Unexpected error := by
  cases read : getResult toolSlice with
  | error first =>
    simp only [buildToolConfigMap, read, bind, Except.bind] at raised
    cases raised
    exact getResult_unexpected read
  | ok raw =>
    have listed : ∃ items, selectionItems raw false = .ok items := by
      unfold selectionItems
      split
      · exact ⟨_, rfl⟩
      · exact ⟨[], rfl⟩
    obtain ⟨items, selected⟩ := listed
    simp only [buildToolConfigMap, read, selected, validateItems_lenient, bind,
      Except.bind] at raised
    cases raised

/-- What the parsing of the inputs comes to outside strict mode. -/
def InputsOf (state : Fields) : Except ServiceError (List ToolRunInput × List ToolRunResult) → Prop
  | .error error => Unexpected error
  | .ok (inputs, results) =>
    (results.map operationId ++ inputs.map ToolRunInput.operationId).Perm (readyIds state) ∧
    ∀ result ∈ results, result.status = .error

theorem readyIds_of_readyOperations {st ready}
    (read : getResult (nodeOutput st .toolInputFiller) = .ok raw)
    (parsed : readyOperations raw false = .ok ready) :
    readyIds st = ready.map ParamExtractionOperation.operationId := by
  simp only [readyIds, read, parsed]

theorem readyIds_of_null {st}
    (read : getResult (nodeOutput st .toolInputFiller) = .ok .null) : readyIds st = [] := by
  simp only [readyIds, read]
  rfl

/-- Every ready operation has an input or a failed result, and nothing else has. -/
theorem parseInputs_lenient {ctx} (lenient : strictContractMode ctx.metadata = false) :
    InputsOf ctx.state (parseInputs clock ctx scheduling) := by
  simp only [parseInputs, lenient, bind, Except.bind]
  cases read : getResult (nodeOutput ctx.state .toolInputFiller) with
  | error err => exact getResult_unexpected read
  | ok raw =>
    by_cases missing : raw = .null
    · subst missing
      simp [InputsOf, readyIds_of_null read]
    · simp only [if_neg missing]
      cases parsed : readyOperations raw false with
      | error err => exact readyOperations_unexpected parsed
      | ok ready =>
        have ids := readyIds_of_readyOperations read parsed
        by_cases none : ready = []
        · subst none
          simp [InputsOf, ids]
        · simp only [if_neg none]
          cases built : buildToolConfigMap (nodeOutput ctx.state .toolResolver) false with
          | error err => exact buildToolConfigMap_unexpected built
          | ok configs =>
            obtain ⟨inputs, results, prepared, same, failed⟩ :=
              prepareOperations_lenient clock scheduling configs ready
            simp only [prepared]
            exact ⟨ids ▸ same, failed⟩

end

/-! ## Running the inputs -/

section

variable {σ : Type} {backend : ToolBackend σ} {clock : ToolClock} {context : ToolContext}

/-- The results a step computes itself: a success, a schedule or an error. -/
def Computed (status : OperationStatus) : Prop := status = .success ∨ status = .scheduled ∨
    status = .error

theorem onFirst_triple {α : Type} (m log) :
    Triple (fun s => s.2 = log) (onFirst m : EStateM ServiceError (σ × List String) α)
      (fun _ s => s.2 = log) (fun s => s.2 = log) := by
  intro s before
  unfold onFirst
  cases m s.1 with
  | ok val next | error raised next => exact before

variable (input : ToolRunInput) (log : List String)

theorem createToolRun_recorded :
    Triple (fun s => s.2 = log) ((recorded backend).createToolRun context input)
      (fun _ s => s.2 = log ++ [input.operationId])
      (fun s => s.2 = log ++ [input.operationId]) := by
  refine .bind (Triple.modify (R := fun _ s => s.2 = log ++ [input.operationId]) ?_) fun _ => ?_
  · intro s before
    rw [before]
  · exact onFirst_triple _ _

def RanOnce (input : ToolRunInput) (log : List String) (result : ToolRunResult)
    (after : List String) : Prop :=
  ∃ attempted, after = log ++ attempted ∧ attempted.Sublist [input.operationId] ∧
    result.operationId = input.operationId ∧ Computed result.status

theorem ranOnce_created {input log res}
    (id : res.operationId = input.operationId) (computed : Computed res.status) :
    Triple (fun s => s.2 = log ++ [input.operationId])
      (pure res : EStateM ServiceError (σ × List String) ToolRunResult)
      (fun res s => RanOnce input log res s.2) (fun _ => False) :=
  .pure fun _ after => ⟨[input.operationId], after, List.Sublist.refl _, id, computed⟩

theorem executeImmediately_recorded :
    Triple (fun s => s.2 = log) (executeImmediately (recorded backend) clock context input)
      (fun res s => RanOnce input log res s.2) (fun _ => False) := by
  refine .bind (createToolRun_recorded input log).attempt fun made => ?_
  cases made with
  | error raised => exact ranOnce_created rfl (.inr (.inr rfl))
  | ok id =>
    refine .bind (onFirst_triple (backend.executeToolRun id) _).attempt fun ran => ?_
    cases ran with
    | error raised => exact ranOnce_created rfl (.inr (.inr rfl))
    | ok res => exact ranOnce_created rfl (.inl rfl)

theorem scheduleOne_recorded (runAt : ℤ) (log : List String) :
    Triple (fun s => s.2 = log) (scheduleOne (recorded backend) clock context input runAt)
      (fun result s => RanOnce input log result s.2) (fun _ => False) := by
  unfold scheduleOne
  cases scheduler : backend.scheduleToolRun with
  | none =>
    simp only [recorded, scheduler, Option.map_none]
    refine .pure fun s after => ?_
    rw [after]
    exact ⟨[], (List.append_nil log).symm, List.nil_sublist _, rfl, .inr (.inr rfl)⟩
  | some schedule =>
    have wrapped : (recorded backend).scheduleToolRun = some fun context toolRunId runAt =>
        onFirst (schedule context toolRunId runAt) := by
      simp [recorded, scheduler]
    simp only [wrapped]
    refine .bind (createToolRun_recorded input log).attempt fun created => ?_
    cases created with
    | error raised => exact ranOnce_created rfl (.inr (.inr rfl))
    | ok id =>
      refine .bind (onFirst_triple (schedule context id runAt) _).attempt fun scheduled => ?_
      cases scheduled with
      | error raised => exact ranOnce_created rfl (.inr (.inr rfl))
      | ok result => exact ranOnce_created rfl (.inr (.inl rfl))

theorem executeOne_recorded :
    Triple (fun s => s.2 = log) (executeOne (recorded backend) clock context input)
      (fun res s => RanOnce input log res s.2) (fun _ => False) := by
  unfold executeOne
  cases input.runAt with
  | none => exact executeImmediately_recorded input log
  | some runAt => exact scheduleOne_recorded input runAt log

def RanAll (inputs : List ToolRunInput) (log : List String) (results : List ToolRunResult)
    (after : List String) : Prop :=
  ∃ attempted, after = log ++ attempted ∧ attempted.Sublist (inputs.map ToolRunInput.operationId) ∧
    results.map operationId = inputs.map ToolRunInput.operationId ∧
    ∀ result ∈ results, Computed result.status

theorem collect_recorded : ∀ (inputs : List ToolRunInput) (log : List String), Triple
    (fun s => s.2 = log)
        (Program.collect (executeOne (recorded backend) clock context) inputs)
        (fun results s => RanAll inputs log results s.2) (fun _ => False) := by
  intro inputs
  induction inputs with
  | nil =>
    intro log
    refine .pure fun s before => ?_
    rw [before]
    exact ⟨[], (List.append_nil log).symm, List.Sublist.refl _, rfl, nofun⟩
  | cons input rest ih =>
    intro log
    refine .bind (executeOne_recorded input log) fun res => ?_
    refine .of_exists fun attempted => ?_
    rintro s ⟨eq, once, id, computed⟩
    refine Triple.bind (ih (log ++ attempted)) (fun results => ?_) s eq
    refine .pure fun s after => ?_
    obtain ⟨later, logged, sublist, ids, all⟩ := after
    refine ⟨attempted ++ later, by rw [logged, List.append_assoc], once.append sublist, ?_, ?_⟩
    · rw [List.map_cons, List.map_cons, id, ids]
    · exact List.forall_mem_cons.mpr ⟨computed, all⟩

variable (state : Fields)

def selects (operationId : String) : Bool :=
  retryOperationIds state = [] ∨ operationId ∈ retryOperationIds state

def carriedOver : List ToolRunResult :=
  if retryOperationIds state = [] then [] else carriedResults state (retryOperationIds state)

theorem selectRetries_eq (inputs : List ToolRunInput) (precomputed : List ToolRunResult) :
    selectRetries state inputs precomputed =
      (inputs.filter fun input => selects state input.operationId,
        precomputed.filter fun res => selects state res.operationId, carriedOver state) := by
  unfold selectRetries carriedOver selects
  cases retryOperationIds state with
  | nil | cons id rest => simp

/-- What a step of `ToolExecutor` reports: what it took over, and a result for each of the selected
operations that it computed itself. -/
def StepOutcome (result : NodeResult) (attempted : List String) : Prop :=
  ∃ fresh : List ToolRunResult, result =
    finishedResult state (mergeResults (carriedOver state ++ fresh)) ∧
    (fresh.map operationId).Perm ((readyIds state).filter (selects state)) ∧
    (∀ result ∈ fresh, Computed result.status) ∧
    attempted.Sublist (fresh.map operationId)

variable (backend clock context) in
/-- **A step of `ToolExecutor`, outside strict mode.** -/
theorem execute_recorded {cfg scheduling} (lenient : strictContractMode context.metadata = false)
    (valid : resolveScheduling clock cfg = .ok scheduling) :
    Triple (fun s => s.2 = []) (execute (recorded backend) clock context cfg)
      (fun res s => StepOutcome context.state res s.2) (fun s => s.2 = []) := by
  have inputsOf := parseInputs_lenient clock scheduling lenient
  unfold execute stepInputs
  simp only [valid]
  cases parsed : parseInputs clock context scheduling with
  | error err =>
    rw [parsed] at inputsOf
    have refused : ¬ err.domainValidationMessage.isSome = true := by
      rw [show err.domainValidationMessage = none from inputsOf]
      exact Bool.false_ne_true
    simp only [if_neg refused]
    exact .throw fun _ before => before
  | ok both =>
    obtain ⟨inputs, precomputed⟩ := both
    rw [parsed] at inputsOf
    obtain ⟨eq, failed⟩ := inputsOf
    simp only [selectRetries_eq]
    split
    · exact .throw fun _ before => before
    · refine .bind ((collect_recorded _ []).imp (fun _ before => before)
        (fun _ _ after => after) fun _ => False.elim) fun gathered => ?_
      refine .pure fun s after => ?_
      obtain ⟨attempted, logged, sublist, ids, computed⟩ := after
      refine ⟨precomputed.filter (fun res => selects context.state res.operationId) ++
        gathered, by rw [List.append_assoc], ?_, ?_, ?_⟩
      · have filtered := eq.filter (selects context.state)
        rw [List.filter_append, List.filter_map, List.filter_map] at filtered
        rwa [List.map_append, ids]
      · intro res mem
        rcases List.mem_append.mp mem with early | late
        · exact .inr (.inr (failed res (List.mem_filter.mp early).1))
        · exact computed res late
      · rw [logged, List.map_append, ids]
        exact sublist.trans (List.sublist_append_right _ _)

end

/-! ## The bookkeeping in the state -/

variable {result : NodeResult} {results : List ToolRunResult}

section

variable {state next : Fields} {nodeId : String}

theorem set_ne_nil (d : Fields) (key : String) (val : Value) : OrderedDict.set d key val ≠ [] := by
  cases d with
  | nil => exact List.cons_ne_nil _ _
  | cons entry rest =>
    rw [OrderedDict.set]
    split <;> exact List.cons_ne_nil _ _

variable {key : String}

theorem lookup_stateAfter {base} (gave : result.nextState = some base)
    (nonempty : base ≠ []) (after : stateAfter nodeId state result = some next)
    (other : key ≠ nodeOutputsByNodeIdKey) : next.lookup key = base.lookup key := by
  obtain ⟨entry, rest, rfl⟩ := List.exists_cons_of_ne_nil nonempty
  unfold stateAfter NodeStepRunner.nextState at after
  simp only [gave] at after
  obtain ⟨outputs, -, rfl⟩ := Option.map_eq_some_iff.mp after
  exact OrderedDict.lookup_set_of_ne _ _ other

theorem readyIds_congr {other}
    (eq : next.lookup NodeType.toolInputFiller.name = other.lookup NodeType.toolInputFiller.name) :
    readyIds next = readyIds other := by
  unfold readyIds nodeOutput
  rw [eq]

/-- The state between the two nodes: the results of the step are in it, and the rest of the
bookkeeping is as it was. -/
theorem lookup_afterExecutor
    (after : stateAfter nodeId state (finishedResult state results) = some next)
    (other : key ≠ nodeOutputsByNodeIdKey) :
    next.lookup key = if key = "retry_operation_ids" then some (.list [])
      else if key = NodeType.toolExecutor.name then
        some (.dict [("result", .list (results.map dump))])
      else state.lookup key := by
  rw [lookup_stateAfter rfl (set_ne_nil _ _ _) after other, OrderedDict.lookup_set,
    OrderedDict.lookup_set]

theorem toolOutput_afterExecutor
    (after : stateAfter nodeId state (finishedResult state results) = some next) :
    ToolErrorHandler.toolOutput next = .ok [("result", .list (results.map dump))] := by
  unfold ToolErrorHandler.toolOutput Tools.nodeOutput
  rw [lookup_afterExecutor after (by decide)]
  rfl

theorem resultsOf_dump (results : List ToolRunResult) (nodeOutput : Fields) :
    ToolErrorHandler.resultsOf [("result", .list (results.map dump))] nodeOutput =
      results.map dump :=
  rfl

theorem lookup_afterHandler {handled}
    (after : stateAfter nodeId state (handledResult state handled) = some next)
    (other : key ≠ nodeOutputsByNodeIdKey) :
    next.lookup key = if key = "finalized_results" then some (.list handled.finalizedResults)
      else if key = "retry_operation_ids" then
        some (.list (handled.retryOperationIds.map .str))
      else if key = "retry_counts" then
        some (.dict (handled.retryCounts.map fun entry => (entry.1, .int entry.2)))
      else state.lookup key := by
  rw [lookup_stateAfter rfl (set_ne_nil _ _ _) after other, OrderedDict.lookup_set,
    OrderedDict.lookup_set, OrderedDict.lookup_set]

theorem carriedResults_dump {finalized : List ToolRunResult}
    (stored : state.lookup "finalized_results" =
      some (.list (finalized.map dump))) (excluded : List String) :
    carriedResults state excluded = finalized.filter fun res => res.operationId ∉ excluded := by
  unfold carriedResults
  simp only [stored, List.filterMap_map]
  rw [← List.filterMap_eq_filter]
  congr 1
  funext res
  have operation : (res.dump.asDict?.bind fun fields => stringField fields "operation_id") =
      some res.operationId := by
    simp [dump, Value.asDict?, stringField, Value.asStr?]
  simp only [Function.comp_apply, operation, validateResult_dump]
  by_cases out : res.operationId ∈ excluded <;> simp [out, Option.guard]

theorem reported_finishedResult (results : List ToolRunResult) :
    reported (finishedResult state results).data =
      results.map fun res => (res.operationId, res.status.name) := by
  have listed : listUnder (finishedResult state results).data "result" = some (results.map dump) :=
    rfl
  rw [reported, listed, Option.getD_some, List.filterMap_map, ← List.filterMap_eq_map]
  rfl

end

/-! ## What holds between the rounds -/

section

variable {maxRetries rounds : ℕ} {ready : List String} {nodes : RetryNodes}

def IsDone (result : ToolRunResult) : Prop := result.status = .success ∨ result.status = .scheduled

/-- The state of the loop after a number of rounds: `done` are the results that are final, `pending`
the operations still to be run. Each of these has been retried once in every round. -/
structure Resumable (maxRetries rounds : ℕ) (ready : List String) (state : Fields)
    (done : List ToolRunResult) (pending : List String) : Prop where
  unchanged : readyIds state = ready
  within : rounds ≤ maxRetries
  carried : carriedOver state = done
  selected : ((readyIds state).filter (selects state)).Perm pending
  counts : ∃ counts, ToolErrorHandler.normalizedRetryCounts (dictUnder state "retry_counts") =
    .ok counts ∧ ∀ id ∈ pending, (counts.lookup id).getD 0 = rounds
  partition : (done.map operationId ++ pending).Perm ready
  final : ∀ result ∈ done, IsDone result

theorem Resumable.initial {st} (counts : st.lookup "retry_counts" = none)
    (retries : st.lookup "retry_operation_ids" = none) :
    Resumable maxRetries 0 (readyIds st) st [] (readyIds st) := by
  have nothing : retryOperationIds st = [] := by
    unfold retryOperationIds
    rw [retries]
  refine ⟨rfl, Nat.zero_le _, by simp [carriedOver, nothing], ?_, ⟨[], ?_, fun _ _ =>
    rfl⟩, .refl _, nofun⟩
  · rw [List.filter_eq_self.mpr fun id _ => by simp [selects, nothing]]
  · simp [dictUnder, counts, ToolErrorHandler.normalizedRetryCounts]

variable {state : Fields} {done fresh : List ToolRunResult} {pending : List String}

/-- The results of a round: those taken over, then those computed. -/
structure RoundResults (state : Fields) (done fresh : List ToolRunResult) (pending : List String)
    (result : NodeResult) (attempted : List String) : Prop where
  returned : result = finishedResult state (done ++ fresh)
  ids : (fresh.map operationId).Perm pending
  computed : ∀ result ∈ fresh, Computed result.status
  created : attempted.Sublist (fresh.map operationId)

theorem mergeResults_of_nodup (uniq : (results.map operationId).Nodup) : mergeResults results =
    results := by
  unfold mergeResults
  rw [OrderedDict.foldl_set_of_nodup operationId (fun res => res) results []
    (by simpa [OrderedDict.keys] using uniq), List.nil_append, List.map_map]
  exact List.map_id results

variable {attempted : List String}

theorem not_retryEligible_of_isDone {res} (isDone : IsDone res) :
    retryEligible res.status = false := by
  rcases isDone with status | status
  · rw [status]
    rfl
  · rw [status]
    rfl

theorem isDone_of_computed {res} (computed : Computed res.status)
    (final : retryEligible res.status = false) : IsDone res := by
  rcases computed with status | status | status
  · exact .inl status
  · exact .inr status
  · rw [status] at final
    cases final

theorem retryOperationIds_of_stored {ids}
    (stored : state.lookup "retry_operation_ids" = some (.list (ids.map .str)))
    (named : "" ∉ ids) : retryOperationIds state = ids := by
  have read : (ids.map Value.str).filterMap Value.asStr? = ids := by
    rw [List.filterMap_map]
    exact List.filterMap_some
  simp only [retryOperationIds, stored, read]
  refine List.filter_eq_self.mpr fun id mem => ?_
  simpa using ne_of_mem_of_not_mem mem named

/-- The bookkeeping the handler leaves is what the next round goes by. -/
theorem resumable_of_stored {counts : List (String × ℤ)} {retried} {next : Fields}
    (all : (results.map operationId).Perm ready) (uniq : ready.Nodup)
    (named : "" ∉ ready) (unchanged : readyIds next = ready) (within : rounds ≤ maxRetries)
    (some : results.filter retried ≠ []) (retries : next.lookup "retry_operation_ids" = .some
      (.list (((results.filter retried).map operationId).map .str)))
    (finalized : next.lookup "finalized_results" = .some
      (.list ((results.filter fun res => !retried res).map dump)))
    (stored : next.lookup "retry_counts" =
      .some (.dict (counts.map fun entry => (entry.1, .int entry.2))))
    (counted : ∀ res ∈ results, retried res = true →
      (counts.lookup res.operationId).getD 0 = rounds)
    (final : ∀ res ∈ results, retried res = false → IsDone res) :
    Resumable maxRetries rounds ready next (results.filter fun res => !retried res)
      ((results.filter retried).map operationId) := by
  have distinctIds : (results.map operationId).Nodup := all.nodup_iff.mpr uniq
  have pendingReady : ∀ id ∈ (results.filter retried).map operationId, id ∈ ready := by
    intro id mem
    exact all.subset (List.map_subset _ (List.filter_subset_self _) mem)
  have ids : retryOperationIds next = (results.filter retried).map operationId :=
    retryOperationIds_of_stored retries fun mem => named (pendingReady _ mem)
  have nonempty : retryOperationIds next ≠ [] := by
    rw [ids]
    exact fun none => some (List.map_eq_nil_iff.mp none)
  refine ⟨unchanged, within, ?_, ?_, ⟨counts, ?_, ?_⟩, ?_, ?_⟩
  · -- no result that is final belongs to an operation that is retried
    rw [carriedOver, if_neg nonempty, carriedResults_dump finalized]
    refine List.filter_eq_self.mpr fun res mem => ?_
    obtain ⟨isIn, kept⟩ := List.mem_filter.mp mem
    rw [decide_eq_true_iff, ids]
    intro again
    obtain ⟨other, chosen, eq⟩ := List.mem_map.mp again
    obtain ⟨otherInside, otherRetried⟩ := List.mem_filter.mp chosen
    rw [List.inj_on_of_nodup_map distinctIds otherInside isIn eq] at otherRetried
    simp [otherRetried] at kept
  · rw [unchanged]
    refine (List.perm_ext_iff_of_nodup (uniq.filter _) ?_).mpr fun id => ?_
    · exact distinctIds.sublist (List.filter_sublist.map _)
    · rw [List.mem_filter, selects, decide_eq_true_iff, ids]
      constructor
      · rintro ⟨-, none | mem⟩
        · exact absurd (ids.trans none) nonempty
        · exact mem
      · exact fun mem => ⟨pendingReady id mem, .inr mem⟩
  · simp [dictUnder, stored, Value.asDict?]
  · intro id mem
    obtain ⟨res, chosen, rfl⟩ := List.mem_map.mp mem
    exact counted res (List.mem_filter.mp chosen).1 (List.mem_filter.mp chosen).2
  · rw [← List.map_append]
    refine List.Perm.trans (List.Perm.map _ ?_) all
    exact List.perm_append_comm.trans (List.filter_append_perm retried results)
  · intro res mem
    obtain ⟨isIn, kept⟩ := List.mem_filter.mp mem
    exact final res isIn (by simpa using kept)

/-- What a round does: it runs pending operations once each, and reports every ready operation. -/
structure RoundFacts (ready : List String) (done : List ToolRunResult) (pending : List String)
    (round : Round) : Prop where
  distinct : round.attempted.Nodup
  pending : ∀ id ∈ round.attempted, id ∈ pending
  reports : ∀ data ∈ round.result, ∀ id, id ∈ (reported data).map Prod.fst ↔ id ∈ ready

theorem RoundResults.isDone_of_mem_done {id}
    (round : RoundResults state done fresh pending result attempted)
    (mem : id ∈ Round.done { attempted, result := some result.data }) :
    ∃ other ∈ done ++ fresh, IsDone other ∧ other.operationId = id := by
  simp only [Round.done, Option.getD_some, round.returned, reported_finishedResult, List.mem_map,
    List.mem_filter, decide_eq_true_iff] at mem
  obtain ⟨_, ⟨⟨other, inside, rfl⟩, status⟩, rfl⟩ := mem
  exact ⟨other, inside, status.imp (fun eq => OperationStatus.name_injective eq)
    fun eq => OperationStatus.name_injective eq, rfl⟩

structure RunSafe (budget : ℕ) (ready : List String) (done : List ToolRunResult)
    (run : List Round) : Prop where
  ends : run.length ≤ budget
  counted : ∀ id, (run.flatMap Round.attempted).count id ≤ budget
  leavesDone : ∀ round ∈ run, ∀ result ∈ done, result.operationId ∉ round.attempted
  notAgain : run.Pairwise fun earlier later => ∀ id ∈ earlier.done, id ∉ later.attempted
  reports : ∀ round ∈ run, ∀ data ∈ round.result, ∀ id, id ∈ (reported data).map Prod.fst ↔
    id ∈ ready

variable {round : Round} {budget : ℕ}
  (resumable : Resumable maxRetries rounds ready state done pending)

include resumable

theorem RoundResults.all_ids (round : RoundResults state done fresh pending result attempted) :
    ((done ++ fresh).map operationId).Perm ready := by
  rw [List.map_append]
  exact (round.ids.append_left _).trans resumable.partition

variable (uniq : ready.Nodup)

include uniq

theorem Resumable.roundResults (out : StepOutcome state result attempted) :
    ∃ fresh, RoundResults state done fresh pending result attempted := by
  obtain ⟨fresh, same, ids, computed, sublist⟩ := out
  have pendingIds := ids.trans resumable.selected
  have all : ((done ++ fresh).map operationId).Perm ready := by
    rw [List.map_append]
    exact (pendingIds.append_left _).trans resumable.partition
  refine ⟨fresh, ?_, pendingIds, computed, sublist⟩
  rw [same, resumable.carried, mergeResults_of_nodup (all.nodup_iff.mpr uniq)]

theorem execute_afterRound {between}
    (retries : ToolErrorHandler.maxRetries nodes.handlerConfig = .ok maxRetries)
    (round : RoundResults state done fresh pending result attempted)
    (after : stateAfter nodes.executorId state result = some between) (nodeOutput) :
    ∃ counts handled, ToolErrorHandler.execute between nodeOutput nodes.handlerConfig =
        .ok (handledResult between handled) ∧
      ToolErrorHandler.LoopOutcome maxRetries rounds (done ++ fresh)
        { retryCounts := counts, retryOperationIds := [], finalizedResults := []
          fallbackRequired := false } handled := by
  rw [round.returned] at after
  have stored : dictUnder between "retry_counts" = dictUnder state "retry_counts" := by
    unfold dictUnder
    rw [lookup_afterExecutor after (by decide)]
    rfl
  obtain ⟨counts, normalized, counted⟩ := resumable.counts
  have eligible : ∀ result ∈ done ++ fresh, retryEligible result.status = true →
        (counts.lookup result.operationId).getD 0 = rounds := by
    intro result member eligible
    rcases List.mem_append.mp member with early | late
    · rw [not_retryEligible_of_isDone (resumable.final result early)] at eligible
      cases eligible
    · exact counted _ (round.ids.subset (List.mem_map_of_mem late))
  obtain ⟨handled, run, outcome⟩ :=
    ToolErrorHandler.handleResults_dump maxRetries rounds (done ++ fresh)
    { retryCounts := counts, retryOperationIds := [], finalizedResults := []
      fallbackRequired := false }
    ((round.all_ids resumable).nodup_iff.mpr uniq) eligible
  refine ⟨counts, handled, ?_, outcome⟩
  simp only [ToolErrorHandler.execute, toolOutput_afterExecutor after, retries, stored, normalized,
    resultsOf_dump, run, bind, Except.bind]
  rfl

/-- **One round on**: when operations are left to retry, the state of the next round is again as it
should be, with one more retry counted, and what is done stays done. -/
theorem Resumable.next {res attempted next} (named : "" ∉ ready)
    (retries : ToolErrorHandler.maxRetries nodes.handlerConfig = .ok maxRetries)
    (round : RoundResults state done fresh pending res attempted)
    (handledRound : handleRound nodes state res = some next) :
    ∃ done' pending', Resumable maxRetries (rounds + 1) ready next done' pending' ∧
      rounds < maxRetries ∧
      ∀ res ∈ done ++ fresh, IsDone res → res ∈ done' := by
  simp only [handleRound, bind, Option.bind_eq_some_iff] at handledRound
  obtain ⟨between, first, handledResult, executed, last, second, goesOn⟩ := handledRound
  obtain ⟨counts, handled, run, out⟩ :=
    execute_afterRound resumable uniq retries round first res.data
  rw [run] at executed
  cases executed
  -- the loop goes on, so something was retried, and so there was room for a retry
  have listed : listUnder (handledResult between handled).data
      "retry_operation_ids" = some (handled.retryOperationIds.map .str) := rfl
  rw [listed, Option.getD_some] at goesOn
  split at goesOn
  · cases goesOn
  · rename_i something
    cases goesOn
    rw [List.map_eq_nil_iff, out.retryOperationIds, List.nil_append,
      List.map_eq_nil_iff] at something
    have room : rounds < maxRetries := by
      obtain ⟨other, mem⟩ := List.exists_mem_of_ne_nil _ something
      have retried := (List.mem_filter.mp mem).2
      simp only [ToolErrorHandler.retried, Bool.and_eq_true, decide_eq_true_iff] at retried
      exact retried.2
    have eligible (other : ToolRunResult) : ToolErrorHandler.retried maxRetries rounds other =
        retryEligible other.status := by
      simp [ToolErrorHandler.retried, room]
    rw [round.returned] at first
    have unchanged : readyIds next = ready := by
      rw [← resumable.unchanged]
      refine readyIds_congr ?_
      rw [lookup_afterHandler second (by decide), if_neg (by decide), if_neg (by decide),
        if_neg (by decide), lookup_afterExecutor first (by decide), if_neg (by decide),
        if_neg (by decide)]
    have counted : ∀ other ∈ done ++ fresh,
        ToolErrorHandler.retried maxRetries rounds other = true →
          (handled.retryCounts.lookup other.operationId).getD 0 = (rounds + 1 : ℕ) :=
      fun other mem again => out.counted other mem again
    have final : ∀ other ∈ done ++ fresh,
        ToolErrorHandler.retried maxRetries rounds other = false → IsDone other := by
      intro other mem kept
      rw [eligible] at kept
      rcases List.mem_append.mp mem with early | late
      · exact resumable.final other early
      · exact isDone_of_computed (round.computed other late) kept
    refine ⟨_, _, resumable_of_stored (round.all_ids resumable) uniq named unchanged room
      something ?_ ?_ ?_ counted final, room, ?_⟩
    · rw [lookup_afterHandler second (by decide), if_neg (by decide), if_pos rfl,
        out.retryOperationIds, List.nil_append]
    · rw [lookup_afterHandler second (by decide), if_pos rfl, out.finalizedResults, List.nil_append]
    · rw [lookup_afterHandler second (by decide), if_neg (by decide),
        if_neg (by decide), if_pos rfl]
    · intro other mem isDone
      refine List.mem_filter.mpr ⟨mem, ?_⟩
      rw [eligible, not_retryEligible_of_isDone isDone]
      rfl

theorem RoundResults.facts (round : RoundResults state done fresh pending result attempted) :
    RoundFacts ready done pending { attempted, result := some result.data } := by
  have distinctPending : pending.Nodup :=
    (List.nodup_append.mp (resumable.partition.nodup_iff.mpr uniq)).2.1
  refine ⟨(round.ids.nodup_iff.mpr distinctPending).sublist round.created,
    fun id mem => round.ids.subset (round.created.subset mem), ?_⟩
  rintro _ ⟨⟩ id
  rw [round.returned, reported_finishedResult, List.map_map]
  exact (round.all_ids resumable).mem_iff

theorem Resumable.notMem_pending {res} (mem : res ∈ done) : res.operationId ∉ pending := by
  have apart := (List.nodup_append.mp (resumable.partition.nodup_iff.mpr uniq)).2.2
  exact fun isIn => apart _ (List.mem_map_of_mem mem) _ isIn rfl

theorem runSafe_singleton (facts : RoundFacts ready done pending round) (room : 1 ≤ budget) :
    RunSafe budget ready done [round] := by
  refine ⟨room, fun id => ?_, ?_, List.pairwise_singleton _ _, ?_⟩
  · simpa using (List.nodup_iff_count_le_one.mp facts.distinct id).trans room
  · rintro other mem res isIn attempted
    cases List.mem_singleton.mp mem
    exact resumable.notMem_pending uniq isIn (facts.pending _ attempted)
  · rintro other mem
    cases List.mem_singleton.mp mem
    exact facts.reports

theorem runSafe_cons {run done'} (facts : RoundFacts ready done pending round)
    (keeps : ∀ res ∈ done, res ∈ done')
    (grows : ∀ id ∈ round.done, ∃ res ∈ done', res.operationId = id)
    (safe : RunSafe budget ready done' run) : RunSafe (budget + 1) ready done (round :: run) := by
  refine ⟨Nat.succ_le_succ safe.ends, fun id => ?_, ?_, ?_, ?_⟩
  · rw [List.flatMap_cons, List.count_append, Nat.add_comm budget]
    exact Nat.add_le_add (List.nodup_iff_count_le_one.mp facts.distinct id) (safe.counted id)
  · intro other mem res inside
    rcases List.mem_cons.mp mem with rfl | later
    · exact fun attempted => resumable.notMem_pending uniq inside (facts.pending _ attempted)
    · exact safe.leavesDone other later res (keeps res inside)
  · refine List.pairwise_cons.mpr ⟨fun other later id settled => ?_, safe.notAgain⟩
    obtain ⟨res, inside, rfl⟩ := grows id settled
    exact safe.leavesDone other later res inside
  · exact List.forall_mem_cons.mpr ⟨facts.reports, safe.reports⟩

omit resumable in
theorem runRounds_safe {σ : Type} (backend) (named : "" ∉ ready)
    (retries : ToolErrorHandler.maxRetries nodes.handlerConfig = .ok maxRetries) :
    ∀ (envs : List RoundEnvironment), (∀ env ∈ envs, strictContractMode env.metadata = false) →
      (∀ env ∈ envs, ∃ scheduling, resolveScheduling env.clock nodes.executorConfig =
        .ok scheduling) →
      ∀ (rounds : ℕ) (st : Fields) (done : List ToolRunResult) (pending : List String) (s : σ),
        Resumable maxRetries rounds ready st done pending →
        RunSafe (maxRetries - rounds + 1) ready done (runRounds backend nodes envs st s) := by
  intro envs
  induction envs with
  | nil =>
    intro _ _ rounds st done pending s _
    exact ⟨Nat.zero_le _, fun _ => Nat.zero_le _, nofun, List.Pairwise.nil, nofun⟩
  | cons env later ih =>
    intro lenient valid rounds st done pending s resumable
    obtain ⟨scheduling, here⟩ := valid env List.mem_cons_self
    have stepped := execute_recorded backend env.clock (env.context st)
      (lenient env List.mem_cons_self) here (s, []) rfl
    rw [runRounds]
    cases out : execute (recorded backend) env.clock (env.context st) nodes.executorConfig
      (s, []) with
    | error raised after =>
      rw [out] at stepped
      obtain ⟨s', attempted⟩ := after
      cases stepped
      exact runSafe_singleton resumable uniq ⟨List.nodup_nil, nofun, nofun⟩ (Nat.le_add_left 1 _)
    | ok res after =>
      rw [out] at stepped
      obtain ⟨s', attempted⟩ := after
      obtain ⟨fresh, round⟩ := resumable.roundResults uniq stepped
      have facts := round.facts resumable uniq
      simp only
      cases handled : handleRound nodes st res with
      | none => exact runSafe_singleton resumable uniq facts (Nat.le_add_left 1 _)
      | some next =>
        obtain ⟨done', pending', resumable', room, kept⟩ :=
          resumable.next uniq named retries round handled
        have safe := ih (List.forall_mem_cons.mp lenient).2 (List.forall_mem_cons.mp valid).2
          (rounds + 1) next done' pending' s' resumable'
        have budget : maxRetries - (rounds + 1) + 1 = maxRetries - rounds := by omega
        rw [budget] at safe
        refine runSafe_cons resumable uniq facts (fun other member => ?_)
          (fun id settled => ?_) safe
        · exact kept other (List.mem_append_left _ member) (resumable.final other member)
        · obtain ⟨other, member, isDone, eq⟩ := round.isDone_of_mem_done settled
          exact ⟨other, kept other member isDone, eq⟩

end

/-- **Selective retry.** From a state without retry bookkeeping whose ready operations have distinct
ids, for any number of rounds and any behaviour of the backend: an operation reported as executed
with success or as scheduled is not run in a later round; no operation is run more than
`max_retries + 1` times, and there are no more rounds than that; and each `ToolExecutor` result
reports exactly the ready operations. -/
theorem selective_retry {σ : Type} (backend : ToolBackend σ) (nodes : RetryNodes)
    (envs : List RoundEnvironment) (state : Fields) (s : σ) (maxRetries : ℕ)
    (retries : ToolErrorHandler.maxRetries nodes.handlerConfig = .ok maxRetries)
    (fresh : ∀ key ∈ ["retry_counts", "retry_operation_ids", "finalized_results"],
      state.lookup key = none)
    (distinct : (readyIds state).Nodup) (named : "" ∉ readyIds state)
    (lenient : ∀ env ∈ envs, strictContractMode env.metadata = false)
    (valid : ∀ env ∈ envs, ∃ scheduling, resolveScheduling env.clock nodes.executorConfig =
      .ok scheduling) :
    ((runRounds backend nodes envs state s).Pairwise fun earlier later =>
      ∀ id ∈ earlier.done, id ∉ later.attempted) ∧
    (∀ id, ((runRounds backend nodes envs state s).flatMap Round.attempted).count id ≤
      maxRetries + 1) ∧
    (runRounds backend nodes envs state s).length ≤ maxRetries + 1 ∧
    ∀ round ∈ runRounds backend nodes envs state s, ∀ data ∈ round.result, ∀ id,
      id ∈ (reported data).map Prod.fst ↔ id ∈ readyIds state := by
  have safe := runRounds_safe distinct backend named retries envs lenient valid 0 state []
    (readyIds state) s (.initial (fresh _ (by simp)) (fresh _ (by simp)))
  exact ⟨safe.notAgain, safe.counted, safe.ends, safe.reports⟩

def flakyBackend : ToolBackend ℕ where
  createToolRun _ _ := do
    let created ← get
    set (created + 1)
    return created
  executeToolRun toolRunId := if toolRunId = 1 then throw (.unexpected "ConnectError") else pure []
  scheduleToolRun := none

def twoPayments : Fields :=
  [("ToolInputFiller", .dict [("result", .list
      [.dict [("operation_id", .str "a"), ("tool_name", .str "pay"), ("status", .str "ready")],
        .dict [("operation_id", .str "b"), ("tool_name", .str "pay"), ("status", .str "ready")]])]),
    ("ToolResolver", .dict [("result", .list [.dict [("selected_tool", .dict
      [("name", .str "pay"), ("tool_config_id", .str "c")])]])])]

def retryTwice : RetryNodes :=
  { executorId := "execute", executorConfig := []
    handlerId := "handle", handlerConfig := [("max_retries", .int 2)] }

def plainRound : RoundEnvironment :=
  { clock :=
      { now := 0, fromIsoformat := fun _ => none, isoformat := fun _ => "", uuidText := fun _ => ""
        validateScheduling := fun _ => none }
    tenantId := 1, correlationId := 5, currentNodeRunId := 40, metadata := [] }

theorem failed_payment_retried :
    (runRounds flakyBackend retryTwice [plainRound, plainRound, plainRound] twoPayments 0).map
        Round.attempted = [["a", "b"], ["b"]] ∧
      (runRounds flakyBackend retryTwice [plainRound, plainRound, plainRound] twoPayments
        0).length ≤ 2 + 1 := by
  refine ⟨by decide +kernel, ?_⟩
  have plain : ∀ env ∈ [plainRound, plainRound, plainRound], env = plainRound := by simp
  exact (selective_retry flakyBackend retryTwice [plainRound, plainRound, plainRound]
    twoPayments 0 2
    rfl (by decide) (by decide +kernel) (by decide +kernel)
    (fun env member => by rw [plain env member]; rfl)
    (fun env member => ⟨{}, by rw [plain env member]; rfl⟩)).2.2.1

end AgentOrchestration.Tools
