import AgentOrchestration.Library.Program
import AgentOrchestration.Execution.Database
import AgentOrchestration.GraphRuntime.RuntimeExecutor

/-!
# The `ToolExecutor` node

The node that turns the operations of `ToolInputFiller` and the tools selected
by `ToolResolver` into tool runs. Both outputs come from a model, so everything
about them is checked here and only here. The node talks to a backend that
creates, executes and schedules tool runs; the fan-out is run in input order.
-/

namespace AgentOrchestration.Tools

set_option autoImplicit false

open Execution (ServiceError)
open Program (Triple Keeps)

/-! ## Schemas -/

inductive OperationStatus where
  | ready
  | incomplete
  | success
  | error
  | scheduled
  | cancelled
  deriving DecidableEq, Repr

/-- The values of `OperationStatus`. -/
def OperationStatus.name : OperationStatus → String
  | ready => "ready"
  | incomplete => "incomplete"
  | success => "success"
  | error => "error"
  | scheduled => "scheduled"
  | cancelled => "cancelled"

def OperationStatus.ofName (name : String) : Option OperationStatus :=
  [ready, incomplete, success, error, scheduled, cancelled].find? fun status => status.name = name

inductive ToolExecutionMode where
  | immediate
  | scheduled
  deriving DecidableEq, Repr

/-- The values of `ToolExecutionMode`. -/
def ToolExecutionMode.name : ToolExecutionMode → String
  | immediate => "immediate"
  | scheduled => "scheduled"

def ToolExecutionMode.ofName (name : String) : Option ToolExecutionMode :=
  [immediate, scheduled].find? fun mode => mode.name = name

inductive ToolSchedulingError where
  | schedulerUnavailable
  | scheduleFailed
  | runAtInvalid
  | runAtInThePast
  | runAtMissing
  deriving DecidableEq, Repr

/-- The values of `ToolSchedulingError`. -/
def ToolSchedulingError.message : ToolSchedulingError → String
  | schedulerUnavailable => "tool_scheduler_unavailable"
  | scheduleFailed => "tool_schedule_failed"
  | runAtInvalid => "tool_schedule_run_at_invalid"
  | runAtInThePast => "tool_schedule_run_at_in_the_past"
  | runAtMissing => "tool_schedule_run_at_missing"

structure ToolSchedulingConfig where
  mode : ToolExecutionMode := .immediate
  delaySeconds : Option ℕ := none
  runAtParam : Option String := none
  toolNames : Option (List String) := none

structure ParamExtractionOperation where
  operationId : String
  toolName : String
  status : OperationStatus
  params : Fields
  deriving DecidableEq

structure SelectedTool where
  name : String
  toolConfigId : String
  deriving DecidableEq

/-- `ToolRunInput`; an instant is a number of seconds. -/
structure ToolRunInput where
  operationId : String
  toolName : String
  toolConfigId : String
  params : Fields
  runAt : Option ℤ
  deriving DecidableEq

structure ToolRunResult where
  operationId : String
  toolName : String
  executionMode : ToolExecutionMode
  status : OperationStatus
  result : Fields
  scheduleId : Option String
  runAt : Option String
  deriving DecidableEq

def stringField (fields : Fields) (key : String) : Option String :=
  (fields.lookup key).bind Value.asStr?

/-- An optional string under a key; `none` if there is something else. -/
def optionalStringField (fields : Fields) (key : String) : Option (Option String) :=
  match fields.lookup key with
  | none => some none
  | some .null => some none
  | some (.str s) => some (some s)
  | some _ => none

variable (item : Value)

/-- `_ParamExtractionOperation.model_validate`. -/
def validateOperation : Option ParamExtractionOperation := do
  let fields ← item.asDict?
  let operationId ← stringField fields "operation_id"
  let toolName ← stringField fields "tool_name"
  let status ← (stringField fields "status").bind OperationStatus.ofName
  let params ← ((fields.lookup "params").getD (.dict [])).asDict?
  return { operationId, toolName, status, params }

/-- `_ToolSelectionItem.model_validate`. -/
def validateSelection : Option SelectedTool := do
  let fields ← item.asDict?
  let selected ← (fields.lookup "selected_tool").bind Value.asDict?
  let name ← stringField selected "name"
  let toolConfigId ← stringField selected "tool_config_id"
  return { name, toolConfigId }

/-- `ToolRunResult.model_validate`. -/
def validateResult : Option ToolRunResult := do
  let fields ← item.asDict?
  let operationId ← stringField fields "operation_id"
  let toolName ← stringField fields "tool_name"
  let executionMode ←
    (((fields.lookup "execution_mode").getD (.str "immediate")).asStr?).bind
      ToolExecutionMode.ofName
  let status ← (stringField fields "status").bind OperationStatus.ofName
  let result ← (fields.lookup "result").bind Value.asDict?
  let scheduleId ← optionalStringField fields "schedule_id"
  let runAt ← optionalStringField fields "run_at"
  return { operationId, toolName, executionMode, status, result, scheduleId, runAt }

def optionalString : Option String → Value
  | none => .null
  | some s => .str s

/-- `ToolRunResult.model_dump`. -/
def ToolRunResult.dump (result : ToolRunResult) : Value :=
  .dict [("operation_id", .str result.operationId), ("tool_name", .str result.toolName),
      ("execution_mode", .str result.executionMode.name), ("status", .str result.status.name),
      ("result", .dict result.result), ("schedule_id", optionalString result.scheduleId),
      ("run_at", optionalString result.runAt)]

@[simp] theorem OperationStatus.ofName_name (status : OperationStatus) :
    OperationStatus.ofName status.name = some status := by
  cases status <;> rfl

theorem OperationStatus.name_injective : Function.Injective OperationStatus.name := by
  intro first second eq
  have found := congrArg OperationStatus.ofName eq
  rw [ofName_name, ofName_name] at found
  exact Option.some.inj found

@[simp] theorem ToolExecutionMode.ofName_name (mode : ToolExecutionMode) :
    ToolExecutionMode.ofName mode.name = some mode := by
  cases mode <;> rfl

theorem validateResult_dump (res : ToolRunResult) : validateResult res.dump = some res := by
  obtain ⟨operationId, toolName, mode, status, fields, scheduleId, runAt⟩ := res
  cases scheduleId <;> cases runAt <;>
    simp [validateResult, ToolRunResult.dump, Value.asDict?, stringField, optionalStringField,
      optionalString, List.lookup_cons, Value.asStr?]

/-! ## The surroundings of the node -/

structure ToolContext where
  tenantId : ℕ
  correlationId : ℕ
  currentNodeRunId : ℕ
  state : Fields
  metadata : Fields

/-- The clock, the texts of instants and identifiers, and the validator of scheduling
configurations. -/
structure ToolClock where
  now : ℤ
  fromIsoformat : String → Option ℤ
  isoformat : ℤ → String
  uuidText : ℕ → String
  validateScheduling : Fields → Option ToolSchedulingConfig

structure ToolBackend (σ : Type) where
  createToolRun : ToolContext → ToolRunInput → EStateM ServiceError σ ℕ
  executeToolRun : ℕ → EStateM ServiceError σ Fields
  /-- The scheduler, if there is one: it returns the id of the schedule and its instant. -/
  scheduleToolRun : Option (ToolContext → ℕ → ℤ → EStateM ServiceError σ (String × ℤ))

variable (state : Fields)

/-- `get_node_output`: whatever is stored under the node's name, else an empty object. -/
def nodeOutput (nodeType : NodeType) : Value :=
  match state.lookup nodeType.name with
  | none => .dict []
  | some .null => .dict []
  | some out => out

/-- `out.get("result")`. -/
def getResult : Value → Except ServiceError Value
  | .dict fields => .ok ((fields.lookup "result").getD .null)
  | _ => .error (.unexpected "AttributeError")

/-- What a `for` loop over a value sees. -/
def iterate : Value → Except ServiceError (List Value)
  | .list items => .ok items
  | .dict fields => .ok (fields.map fun entry => .str entry.1)
  | .str s => .ok (s.toList.map fun c => .str (String.ofList [c]))
  | _ => .error (.unexpected "TypeError")

def strictContractMode (metadata : Fields) : Bool :=
  match (metadata.lookup "runtime_policy").bind Value.asDict? with
  | none => false
  | some policy =>
    match (policy.lookup "execution").bind Value.asDict? with
    | none => false
    | some execution => ((execution.lookup "strict_contract_mode").getD (.bool false)).truthy

/-- The fan-out limit `max(1, int(...))`. -/
def maxConcurrency (metadata : Fields) : Except ServiceError ℤ :=
  let policy := ((metadata.lookup "runtime_policy").bind Value.asDict?).getD []
  let raw : Value :=
    match (policyLimits policy).lookup "tool_fanout_max_concurrency" with
    | none => .int 4
    | some .null => .int 4
    | some raw => raw
  match raw.toInt? with
  | some limit => .ok (max 1 limit)
  | none => .error (.unexpected raw.intErrorClass)

/-! ## Parsing -/

/-- Validate the items of a list; in strict mode the first invalid one is refused. -/
def validateItems {α : Type} (validate : Value → Option α) (strict : Bool) (message : String) :
    List Value → Except ServiceError (List α)
  | [] => .ok []
  | item :: rest =>
    match validate item with
    | some parsed => (validateItems validate strict message rest).map (parsed :: ·)
    | none =>
      if strict then .error (.domainValidation message)
      else validateItems validate strict message rest

def addToSet (ids : List String) (id : String) : List String := if id ∈ ids then ids
                                                                else ids ++ [id]

/-- `configs_by_name.get(name, set())`. -/
def configsFor (configs : List (String × List String)) (name : String) : List String :=
  (configs.lookup name).getD []

def addSelection (configs : List (String × List String)) (selected : SelectedTool) :
    List (String × List String) :=
  OrderedDict.set configs selected.name
    (addToSet (configsFor configs selected.name) selected.toolConfigId)

/-- The items `_build_tool_config_map` goes through. -/
def selectionItems (raw : Value) (strict : Bool) : Except ServiceError (List Value) :=
  match raw with
  | .list items => .ok items
  | _ => if strict then .error (.domainValidation "tool_selection_result_invalid") else .ok []

def buildToolConfigMap (toolSlice : Value) (strict : Bool) :
    Except ServiceError (List (String × List String)) := do
  let raw ← getResult toolSlice
  let items ← selectionItems raw strict
  let selected ← validateItems validateSelection strict "tool_selection_item_invalid" items
  return selected.foldl addSelection []

variable (clock : ToolClock)

def resolveScheduling (config : Fields) : Except ServiceError ToolSchedulingConfig :=
  match config.lookup "scheduling" with
  | none => .ok {}
  | some .null => .ok {}
  | some (.dict raw) =>
    match clock.validateScheduling raw with
    | some scheduling => .ok scheduling
    | none => .error (.domainValidation "tool_scheduling_config_invalid")
  | some _ => .error (.domainValidation "tool_scheduling_config_invalid")

/-- `_parse_datetime`, of a JSON value. -/
def parseDatetime : Value → Option ℤ
  | .str raw => clock.fromIsoformat raw
  | _ => none

variable (scheduling : ToolSchedulingConfig)

/-- The instant a parameter of the operation asks for. -/
def requestedRunAt (params : Fields) : Option Value :=
  match scheduling.runAtParam with
  | none => none
  | some key =>
    if key = "" then none
    else
      match params.lookup key with
      | some .null => none
      | other => other

def resolveRunAt (toolName : String) (params : Fields) : Except ToolSchedulingError (Option ℤ) :=
  if scheduling.mode ≠ .scheduled ∨ ∃ names ∈ scheduling.toolNames, toolName ∉ names then .ok none
  else
    match requestedRunAt scheduling params with
    | some raw =>
      match parseDatetime clock raw with
      | none => .error .runAtInvalid
      | some runAt => if runAt ≤ clock.now then .error .runAtInThePast else .ok (some runAt)
    | none =>
      match scheduling.delaySeconds with
      | none => .error .runAtMissing
      | some delay => .ok (some (clock.now + delay))

/-- An operation that is refused before anything is run: an exception in strict mode, else a result
that reports it. -/
def refuse (strict : Bool) (operation : ParamExtractionOperation) (mode : ToolExecutionMode)
    (message : String) (detail : Fields) : Except ServiceError (ToolRunInput ⊕ ToolRunResult) :=
  if strict then .error (.domainValidation message)
  else
    .ok (.inr
      { operationId := operation.operationId, toolName := operation.toolName
        executionMode := mode, status := .error
        result := [("message", .str message), ("tool_name", .str operation.toolName)] ++ detail
        scheduleId := none, runAt := none })

def prepareOperation (strict : Bool) (configs : List (String × List String))
    (operation : ParamExtractionOperation) :
    Except ServiceError (ToolRunInput ⊕ ToolRunResult) :=
  match configsFor configs operation.toolName with
  | [] => refuse strict operation .immediate "ready_operation_tool_config_unresolved" []
  | [toolConfigId] =>
    match resolveRunAt clock scheduling operation.toolName operation.params with
    | .error error => refuse strict operation .scheduled error.message []
    | .ok runAt =>
      .ok (.inl
        { operationId := operation.operationId, toolName := operation.toolName
          toolConfigId, params := operation.params, runAt })
  | ambiguous =>
    refuse strict operation .immediate "ready_operation_tool_config_ambiguous"
      [("tool_config_ids", .list ((ambiguous.mergeSort (· ≤ ·)).map .str))]

def prepareOperations (clock : ToolClock) (scheduling : ToolSchedulingConfig) (strict : Bool)
    (configs : List (String × List String)) :
    List ParamExtractionOperation → Except ServiceError (List ToolRunInput × List ToolRunResult)
  | [] => .ok ([], [])
  | operation :: rest =>
    match prepareOperation clock scheduling strict configs operation with
    | .error error => .error error
    | .ok prepared =>
      match prepareOperations clock scheduling strict configs rest with
      | .error error => .error error
      | .ok (inputs, results) =>
        match prepared with
        | .inl input => .ok (input :: inputs, results)
        | .inr result => .ok (inputs, result :: results)

/-- The ready operations of a `ToolInputFiller` result. -/
def readyOperations (raw : Value) (strict : Bool) :
    Except ServiceError (List ParamExtractionOperation) := do
  let items ← iterate raw
  let operations ← validateItems validateOperation strict "param_extraction_operation_invalid" items
  return operations.filter fun operation => operation.status = .ready

def parseInputs (context : ToolContext) (scheduling : ToolSchedulingConfig) :
    Except ServiceError (List ToolRunInput × List ToolRunResult) := do
  let raw ← getResult (nodeOutput context.state .toolInputFiller)
  let strict := strictContractMode context.metadata
  if raw = .null then
    if strict then .error (.domainValidation "param_extraction_result_missing") else .ok ([], [])
  else
    let ready ← readyOperations raw strict
    if ready = [] then .ok ([], [])
    else
      let configs ← buildToolConfigMap (nodeOutput context.state .toolResolver) strict
      prepareOperations clock scheduling strict configs ready

/-! ## Running -/

/-- `_error_payload`; the detail of a service exception is its message. -/
def errorPayload (error : ServiceError) (fallbackMessage : String) (toolRunId : Option ℕ) :
    Fields :=
  (match error.domainValidationMessage with
    | some message => [("message", .str message), ("detail", .str message)]
    | none => [("message", .str fallbackMessage), ("error_class", .str error.errorClass)]) ++
  match toolRunId with
  | some id => [("tool_run_id", .str (clock.uuidText id))]
  | none => []

section

variable {σ : Type} (backend : ToolBackend σ) (clock : ToolClock) (context : ToolContext)

variable (input : ToolRunInput)

def immediateResult (status : OperationStatus) (result : Fields) :
    ToolRunResult :=
  { operationId := input.operationId, toolName := input.toolName, executionMode := .immediate
    status, result, scheduleId := none, runAt := none }

def scheduledResult (status : OperationStatus) (result : Fields) (scheduleId : Option String)
    (runAt : ℤ) : ToolRunResult :=
  { operationId := input.operationId, toolName := input.toolName, executionMode := .scheduled
    status, result, scheduleId, runAt := some (clock.isoformat runAt) }

/-- `_execute_one`, of a tool run that is not scheduled. -/
def executeImmediately : EStateM ServiceError σ ToolRunResult := do
  match ← Program.attempt (backend.createToolRun context input) with
  | .error error =>
    return immediateResult input .error (errorPayload clock error "tool_run_creation_failed" none)
  | .ok toolRunId =>
    match ← Program.attempt (backend.executeToolRun toolRunId) with
    | .error error =>
      return immediateResult input .error
        (errorPayload clock error "tool_execution_failed" (some toolRunId))
    | .ok result => return immediateResult input .success result

def scheduleOne (runAt : ℤ) : EStateM ServiceError σ ToolRunResult := do
  match backend.scheduleToolRun with
  | none =>
    return scheduledResult clock input .error
      [("message", .str ToolSchedulingError.schedulerUnavailable.message)] none runAt
  | some schedule =>
    match ← Program.attempt (backend.createToolRun context input) with
    | .error error =>
      return scheduledResult clock input .error
        (errorPayload clock error ToolSchedulingError.scheduleFailed.message none) none runAt
    | .ok toolRunId =>
      match ← Program.attempt (schedule context toolRunId runAt) with
      | .error error =>
        return scheduledResult clock input .error
          (errorPayload clock error ToolSchedulingError.scheduleFailed.message (some toolRunId))
            none runAt
      | .ok (scheduleId, scheduledAt) =>
        return scheduledResult clock input .scheduled
          [("tool_run_id", .str (clock.uuidText toolRunId))] (some scheduleId) scheduledAt

def executeOne : EStateM ServiceError σ ToolRunResult :=
  match input.runAt with
  | some runAt => scheduleOne backend clock context input runAt
  | none => executeImmediately backend clock context input

end

variable (state : Fields)

def retryOperationIds : List String :=
  match state.lookup "retry_operation_ids" with
  | some (.list items) => (items.filterMap Value.asStr?).filter fun id => id ≠ ""
  | _ => []

def carriedResults (excluded : List String) : List ToolRunResult :=
  match state.lookup "finalized_results" with
  | some (.list items) =>
    items.filterMap fun item =>
      match item.asDict?.bind fun fields => stringField fields "operation_id" with
      | some operationId => if operationId ∈ excluded then none else validateResult item
      | none => none
  | _ => []

/-- `_merge_results`: one result for each operation id, the last one. -/
def mergeResults (results : List ToolRunResult) : List ToolRunResult :=
  (results.foldl (fun merged result => OrderedDict.set merged result.operationId result) []).map
    Prod.snd

def selectRetries (inputs : List ToolRunInput) (precomputed : List ToolRunResult) :
    List ToolRunInput × List ToolRunResult × List ToolRunResult :=
  match retryOperationIds state with
  | [] => (inputs, precomputed, [])
  | selected =>
    (inputs.filter fun input => input.operationId ∈ selected,
      precomputed.filter fun result => result.operationId ∈ selected,
      carriedResults state selected)

def finishedResult (results : List ToolRunResult) : NodeResult :=
  let data : Fields := [("result", .list (results.map ToolRunResult.dump))]
  { status := .success, data
    nextState :=
      some (OrderedDict.set (OrderedDict.set state NodeType.toolExecutor.name (.dict data))
        "retry_operation_ids" (.list []))
    memory := none }

def refusedResult : NodeResult :=
  { status := .error, data := [], nextState := some state, memory := none }

variable (clock : ToolClock)

/-- The inputs of a step, with the scheduling configuration they are parsed under. -/
def stepInputs (context : ToolContext) (config : Fields) :
    Except ServiceError (List ToolRunInput × List ToolRunResult) :=
  match resolveScheduling clock config with
  | .error error => .error error
  | .ok scheduling => parseInputs clock context scheduling

def execute {σ : Type} (backend : ToolBackend σ) (clock : ToolClock) (context : ToolContext)
    (config : Fields) : EStateM ServiceError σ NodeResult :=
  match stepInputs clock context config with
  | .error error =>
    if error.domainValidationMessage.isSome then pure (refusedResult context.state)
    else throw error
  | .ok (inputs, precomputed) =>
    match maxConcurrency context.metadata with
    | .error error => throw error
    -- the limit only says how many tool runs are in flight at once
    | .ok _ => do
        let (inputs, precomputed, carried) := selectRetries context.state inputs precomputed
        let gathered ← Program.collect (executeOne backend clock context) inputs
        return finishedResult context.state (mergeResults (carried ++ precomputed ++ gathered))

/-! ## Where the configurations come from -/

theorem mem_addToSet {ids id other} : other ∈ addToSet ids id ↔ other ∈ ids ∨ other = id := by
  unfold addToSet
  by_cases has : id ∈ ids
  · rw [if_pos has]
    refine ⟨Or.inl, ?_⟩
    rintro (mem | rfl)
    · exact mem
    · exact has
  · rw [if_neg has, List.mem_append, List.mem_singleton]

variable {configs : List (String × List String)}

theorem mem_configsFor_addSelection {selected name id} :
    id ∈ configsFor (addSelection configs selected) name ↔
      id ∈ configsFor configs name ∨ selected.name = name ∧ id = selected.toolConfigId := by
  unfold configsFor addSelection
  rw [OrderedDict.lookup_set]
  by_cases eq : name = selected.name
  · subst eq
    simp [mem_addToSet, configsFor]
  · have other : selected.name ≠ name := Ne.symm eq
    simp [eq, other]

theorem mem_configsFor (selected : List SelectedTool) (name id : String) :
    ∀ configs, id ∈ configsFor (selected.foldl addSelection configs) name ↔
      id ∈ configsFor configs name ∨
        ∃ tool ∈ selected, tool.name = name ∧ id = tool.toolConfigId := by
  induction selected with
  | nil => simp
  | cons tool rest ih =>
    intro configs
    rw [List.foldl_cons, ih, mem_configsFor_addSelection, or_assoc, List.exists_mem_cons_iff]

variable {clock : ToolClock} {scheduling : ToolSchedulingConfig} {strict : Bool}
  {input : ToolRunInput}

theorem config_of_prepareOperation {op}
    (prepared : prepareOperation clock scheduling strict configs op = .ok (.inl input)) :
    input.toolConfigId ∈ configsFor configs op.toolName := by
  unfold prepareOperation at prepared
  split at prepared
  · unfold refuse at prepared
    split at prepared <;> cases prepared
  · rename_i toolConfigId single
    split at prepared
    · unfold refuse at prepared
      split at prepared <;> cases prepared
    · cases prepared
      rw [single]
      exact List.mem_singleton_self _
  · unfold refuse at prepared
    split at prepared <;> cases prepared

theorem config_of_prepareOperations : ∀ {ready inputs} {results},
      prepareOperations clock scheduling strict configs ready = .ok (inputs, results) →
      ∀ input ∈ inputs, ∃ op ∈ ready, input.toolConfigId ∈ configsFor configs op.toolName := by
  intro ready
  induction ready with
  | nil =>
    intro inputs results prepared input mem
    cases prepared
    cases mem
  | cons op rest ih =>
    intro inputs results prepared input mem
    unfold prepareOperations at prepared
    split at prepared
    · cases prepared
    · rename_i first here
      split at prepared
      · cases prepared
      · rename_i later others there
        -- the operation adds an input or a result to those of the rest
        split at prepared <;> cases prepared
        · rcases List.mem_cons.mp mem with rfl | old
          · exact ⟨op, List.mem_cons_self, config_of_prepareOperation here⟩
          · obtain ⟨source, inside, cfg⟩ := ih there input old
            exact ⟨source, List.mem_cons_of_mem _ inside, cfg⟩
        · obtain ⟨source, inside, cfg⟩ := ih there input mem
          exact ⟨source, List.mem_cons_of_mem _ inside, cfg⟩

theorem mem_validateItems {α : Type} {validate msg} : ∀ {items : List Value} {parsed : List α},
      validateItems validate strict msg items = .ok parsed →
      ∀ x ∈ parsed, ∃ item ∈ items, validate item = some x := by
  intro items
  induction items with
  | nil =>
    intro parsed validated x mem
    cases validated
    cases mem
  | cons item rest ih =>
    intro parsed validated x mem
    unfold validateItems at validated
    cases here : validate item with
    | some first =>
      rw [here] at validated
      cases there : validateItems validate strict msg rest with
      | error err =>
        simp only [there] at validated
        cases validated
      | ok others =>
        simp only [there] at validated
        cases validated
        rcases List.mem_cons.mp mem with rfl | old
        · exact ⟨item, List.mem_cons_self, here⟩
        · obtain ⟨source, inside, valid⟩ := ih there x old
          exact ⟨source, List.mem_cons_of_mem _ inside, valid⟩
    | none =>
      rw [here] at validated
      simp only at validated
      split at validated
      · cases validated
      · obtain ⟨source, inside, valid⟩ := ih validated x mem
        exact ⟨source, List.mem_cons_of_mem _ inside, valid⟩

/-- An operation that the output of `ToolInputFiller` reports as ready. -/
def ReadyOperation (operation : ParamExtractionOperation) : Prop :=
  ∃ raw items, getResult (nodeOutput state .toolInputFiller) = .ok raw ∧ iterate raw = .ok items ∧
    ∃ item ∈ items, validateOperation item = some operation ∧ operation.status = .ready

/-- A tool that the output of `ToolResolver` has selected. -/
def Selected (tool : SelectedTool) : Prop :=
  ∃ items, getResult (nodeOutput state .toolResolver) = .ok (.list items) ∧
    ∃ item ∈ items, validateSelection item = some tool

theorem ready_of_readyOperations {raw ready} (parsed : readyOperations raw strict = .ok ready)
    {op : ParamExtractionOperation} (mem : op ∈ ready) :
    ∃ items, iterate raw = .ok items ∧
      ∃ item ∈ items, validateOperation item = some op ∧ op.status = .ready := by
  simp only [readyOperations, bind, Except.bind] at parsed
  split at parsed
  · cases parsed
  · rename_i items iterated
    split at parsed
    · cases parsed
    · rename_i operations validated
      cases parsed
      obtain ⟨isIn, isReady⟩ := List.mem_filter.mp mem
      obtain ⟨item, source, valid⟩ := mem_validateItems validated op isIn
      exact ⟨items, iterated, item, source, valid, by simpa using isReady⟩

theorem selected_of_buildToolConfigMap {st}
    (built : buildToolConfigMap (nodeOutput st .toolResolver) strict = .ok configs) {name id}
    (mem : id ∈ configsFor configs name) :
    ∃ tool, Selected st tool ∧ tool.name = name ∧ id = tool.toolConfigId := by
  simp only [buildToolConfigMap, bind, Except.bind] at built
  split at built
  · cases built
  · rename_i raw res
    split at built
    · cases built
    · rename_i items listed
      split at built
      · cases built
      · rename_i selected validated
        cases built
        rcases (mem_configsFor selected name id []).mp mem with none | ⟨tool, inside, named, eq⟩
        · cases none
        · obtain ⟨item, source, valid⟩ := mem_validateItems validated tool inside
          refine ⟨tool, ⟨items, ?_, item, source, valid⟩, named, eq⟩
          -- only a list has items to select from
          unfold selectionItems at listed
          split at listed
          · cases listed
            exact res
          · split at listed <;> cases listed
            cases source

/-- **Every tool run of a step has the configuration of a selected tool with the name of a ready
operation.** -/
theorem selected_of_parseInputs {ctx inputs results}
    (parsed : parseInputs clock ctx scheduling = .ok (inputs, results)) (mem : input ∈ inputs) :
    ∃ op tool, ReadyOperation ctx.state op ∧ Selected ctx.state tool ∧
      tool.name = op.toolName ∧ input.toolConfigId = tool.toolConfigId := by
  simp only [parseInputs, bind, Except.bind] at parsed
  split at parsed
  · cases parsed
  · rename_i raw result
    split at parsed
    · split at parsed <;> cases parsed
      cases mem
    · split at parsed
      · cases parsed
      · rename_i ready operations
        split at parsed
        · cases parsed
          cases mem
        · split at parsed
          · cases parsed
          · rename_i configs built
            obtain ⟨op, inside, cfg⟩ := config_of_prepareOperations parsed input mem
            obtain ⟨items, iterated, source⟩ := ready_of_readyOperations operations inside
            obtain ⟨tool, selected, named, eq⟩ := selected_of_buildToolConfigMap built cfg
            exact ⟨op, tool, ⟨raw, items, result, iterated, source⟩, selected, named, eq⟩

theorem selected_of_stepInputs {ctx cfg inputs results}
    (parsed : stepInputs clock ctx cfg = .ok (inputs, results)) (mem : input ∈ inputs) :
    ∃ op tool, ReadyOperation ctx.state op ∧ Selected ctx.state tool ∧
      tool.name = op.toolName ∧ input.toolConfigId = tool.toolConfigId := by
  unfold stepInputs at parsed
  split at parsed
  · cases parsed
  · exact selected_of_parseInputs parsed mem

/-! ## What a step keeps -/

section

variable {σ : Type} {backend : ToolBackend σ} {clock : ToolClock} {context : ToolContext}
  {I : σ → Prop} {K : ℕ → σ → Prop} {J : ToolRunInput → Prop}

/-- The obligations of a backend: `I` is kept throughout, and `K` holds of a tool run from its
creation on. -/
structure BackendKeeps (backend : ToolBackend σ) (context : ToolContext) (I : σ → Prop)
    (K : ℕ → σ → Prop) (J : ToolRunInput → Prop) : Prop where
  creates : ∀ input, J input →
    Triple I (backend.createToolRun context input) (fun id s => I s ∧ K id s) I
  executes : ∀ id, Triple (fun s => I s ∧ K id s) (backend.executeToolRun id) (fun _ => I) I
  schedules : ∀ schedule ∈ backend.scheduleToolRun, ∀ id runAt,
    Triple (fun s => I s ∧ K id s) (schedule context id runAt) (fun _ => I) I

theorem mem_of_selectRetries {st inputs precomputed}
    (mem : input ∈ (selectRetries st inputs precomputed).1) : input ∈ inputs := by
  unfold selectRetries at mem
  split at mem
  · exact mem
  · exact (List.mem_filter.mp mem).1

variable (keeps : BackendKeeps backend context I K J)

include keeps

theorem executeImmediately_keeps (fits : J input) :
    Keeps I (executeImmediately backend clock context input) := by
  refine Triple.bind (keeps.creates input fits).attempt fun made => ?_
  cases made with
  | error raised => exact Keeps.pure _
  | ok id =>
    refine Triple.bind (keeps.executes id).attempt fun ran => ?_
    cases ran with
    | error raised | ok res => exact Keeps.pure _

theorem scheduleOne_keeps (fits : J input) (runAt : ℤ) :
    Keeps I (scheduleOne backend clock context input runAt) := by
  unfold scheduleOne
  cases scheduler : backend.scheduleToolRun with
  | none => exact Keeps.pure _
  | some schedule =>
    refine Triple.bind (keeps.creates input fits).attempt fun made => ?_
    cases made with
    | error raised => exact Keeps.pure _
    | ok id =>
      refine Triple.bind (keeps.schedules schedule scheduler id runAt).attempt fun scheduled => ?_
      cases scheduled with
      | error raised | ok res => exact Keeps.pure _

theorem executeOne_keeps (fits : J input) : Keeps I (executeOne backend clock context input) := by
  unfold executeOne
  cases input.runAt with
  | none => exact executeImmediately_keeps keeps fits
  | some runAt => exact scheduleOne_keeps keeps fits runAt

theorem execute_keeps {cfg}
    (fits : ∀ inputs results, stepInputs clock context cfg = .ok (inputs, results) →
      ∀ input ∈ inputs, J input) :
    Keeps I (execute backend clock context cfg) := by
  unfold execute
  cases parsed : stepInputs clock context cfg with
  | error err => exact .ite (.pure _) (.throw err)
  | ok both =>
    obtain ⟨inputs, precomputed⟩ := both
    simp only
    split
    · exact .throw _
    · refine .bind (.collect fun input mem => ?_) fun gathered => .pure _
      exact executeOne_keeps keeps (fits inputs precomputed parsed input (mem_of_selectRetries mem))

end

end AgentOrchestration.Tools
