import AgentOrchestration.Tools.ToolExecutor

/-!
# The tool orchestrator

`ToolOrchestrator.execute_tool_run` loads a tool run and its configuration by id,
builds an HTTP request from the configuration, sends it and records the outcome.
Flow runs, node runs, agent runs and tool configurations are tables it only reads;
tool runs, schedules and the requests sent so far are its state. Every call to
the repository, to the secret resolver or over HTTP may raise.
-/

namespace AgentOrchestration.Tools

set_option autoImplicit false

open Execution (ServiceError VersionStatus)
open Lifecycle (RunStatus)
open Program (Triple Keeps ofOption raiseIf bind_eq_ok bind_of_ok bind_outcome_of_reads)

/-! ## Tables -/

inductive ToolRunStatus where
  | created
  | executing
  | success
  | error
  | timeout
  deriving DecidableEq, Repr

/-- The values of `ToolRunStatus`. -/
def ToolRunStatus.name : ToolRunStatus → String
  | created => "CREATED"
  | executing => "EXECUTING"
  | success => "SUCCESS"
  | error => "ERROR"
  | timeout => "TIMEOUT"

/-- The values of `RunStatus`. -/
def runStatusName : RunStatus → String
  | .created => "CREATED"
  | .queued => "QUEUED"
  | .running => "RUNNING"
  | .waitingInput => "WAITING_INPUT"
  | .completed => "COMPLETED"
  | .failed => "FAILED"
  | .cancelled => "CANCELLED"

/-- A row of `node_run`, as far as it is read here. -/
structure NodeRunKey where
  nodeRunId : ℕ
  flowRunId : ℕ
  deriving DecidableEq

/-- A row of `agent_run`, as far as it is read here. -/
structure AgentRunKey where
  agentRunId : ℕ
  nodeRunId : Option ℕ
  agentVersionId : ℕ
  deriving DecidableEq

/-- A row of `agent_version`, as far as it is read here. -/
structure AgentVersionKey where
  agentVersionId : ℕ
  supportedToolSchemaVersion : Option ℤ
  supportedToolConfigHashPrefix : Option String
  deriving DecidableEq

structure ToolConfigRow where
  toolConfigId : ℕ
  tenantId : ℕ
  status : VersionStatus
  schemaVersion : Option ℤ
  configHash : Option String
  config : Fields
  deriving DecidableEq

/-- The tables that the orchestrator and the services around it only read. -/
structure ToolTables where
  execution : Execution.Database
  nodeRuns : List NodeRunKey
  agentRuns : List AgentRunKey
  agentVersions : List AgentVersionKey
  toolConfigs : List ToolConfigRow

structure ToolRunRow where
  toolRunId : ℕ
  toolConfigId : ℕ
  agentRunId : Option ℕ
  nodeRunId : Option ℕ
  input : Fields
  status : RunStatus
  canonicalStatus : ToolRunStatus
  /-- `finished_at` is set. -/
  finished : Bool
  output : Fields
  error : Fields
  deriving DecidableEq

/-- A request handed to the HTTP executor, with the rows it was built from. -/
structure HttpRequest where
  toolRun : ToolRunRow
  toolConfig : ToolConfigRow
  method : String
  url : String
  headers : List (String × String)
  jsonBody : Fields
  timeoutSeconds : PyFloat
  deriving DecidableEq

structure ScheduledToolRun where
  toolRunId : ℕ
  tenantId : ℕ
  runAt : ℤ
  deriving DecidableEq

/-- What changes: the tool runs, the pending schedules, and what has been done so far: the tool runs
that were loaded for execution, and the requests sent. -/
structure ToolStore where
  toolRuns : List ToolRunRow
  schedules : List ScheduledToolRun
  executed : List ToolRunRow
  requests : List HttpRequest
  deriving DecidableEq

abbrev ToolM := EStateM ServiceError ToolStore

namespace ToolTables

variable (tables : ToolTables)

def getNodeRun (nodeRunId : ℕ) : Option NodeRunKey :=
  Table.byKey NodeRunKey.nodeRunId tables.nodeRuns nodeRunId

def getAgentRun (agentRunId : ℕ) : Option AgentRunKey :=
  Table.byKey AgentRunKey.agentRunId tables.agentRuns agentRunId

def getAgentVersion (agentVersionId : ℕ) : Option AgentVersionKey :=
  Table.byKey AgentVersionKey.agentVersionId tables.agentVersions agentVersionId

def getToolConfig (toolConfigId : ℕ) : Option ToolConfigRow :=
  Table.byKey ToolConfigRow.toolConfigId tables.toolConfigs toolConfigId

/-- The tenant of a flow run, as `get_flow_context` finds it. -/
def flowTenant (flowRunId : ℕ) : Except ServiceError ℕ :=
  match tables.execution.getFlowRun flowRunId with
  | none => .error (.notFound "flow_run_not_found")
  | some run =>
    match tables.execution.getSession run.sessionId with
    | none => .error (.notFound "session_not_found")
    | some session => .ok session.tenantId

def flowRunOfNodeRun (nodeRunId : ℕ) : Except ServiceError ℕ :=
  match tables.getNodeRun nodeRunId with
  | none => .error (.notFound "node_run_not_found")
  | some nodeRun => .ok nodeRun.flowRunId

/-- `get_flow_run_id_for_tool_run`, once the tool run has been loaded. -/
def flowRunOf (toolRun : ToolRunRow) : Except ServiceError ℕ :=
  match toolRun.nodeRunId with
  | some nodeRunId => tables.flowRunOfNodeRun nodeRunId
  | none =>
    match toolRun.agentRunId with
    | none => .error (.domainValidation "tool_run_missing_parent")
    | some agentRunId =>
      match tables.getAgentRun agentRunId with
      | none => .error (.notFound "agent_run_not_found")
      | some agentRun =>
        match agentRun.nodeRunId with
        | none => .error (.notFound "node_run_not_found")
        | some nodeRunId => tables.flowRunOfNodeRun nodeRunId

end ToolTables

def ToolStore.getToolRun (store : ToolStore) (toolRunId : ℕ) : Option ToolRunRow :=
  Table.byKey ToolRunRow.toolRunId store.toolRuns toolRunId

/-! ## The world outside -/

/-- The calls that may raise, besides the HTTP request itself: those of the orchestrator, then those
that create and schedule tool runs. -/
inductive ToolCall where
  | getToolRun
  | getToolConfig
  | getFlowRunId
  | getFlowContext
  | getInteractionMetadata
  | markExecuting
  | secretAccessedEvent
  | validationFailedEvent
  | markFailed
  | invocationFailedEvent
  | createRunFailure
  | markSucceeded
  | invocationSucceededEvent
  | createResponseArtifact
  | createToolRun
  | startWorkflow
  | invocationRequestedEvent
  deriving DecidableEq, Repr

/-- How everything outside the tables behaves during one call of the orchestrator. -/
structure ToolWorld where
  /-- The exception a call raises, if it fails; each call may behave differently. -/
  fails : ToolStore → ToolCall → Option ServiceError
  resolveSecret : String → Except ServiceError String
  /-- The metadata of the interaction of a flow run; `none` without an interaction. -/
  interactionMetadata : ℕ → Option Fields
  executeHttp : HttpRequest → Except ServiceError Value
  /-- `HttpToolResult.model_validate` succeeds. -/
  validHttpResult : Value → Bool
  /-- `str(value)`, of a value that is not a string. -/
  text : Value → String
  /-- `str(exc)`. -/
  errorText : ServiceError → String
  /-- `float(text)`. -/
  parseFloat : String → Option PyFloat
  /-- `UUID(text)`. -/
  readUuid : String → Option ℕ
  /-- `uuid4()`. -/
  uuid4 : ToolStore → ℕ

variable (w : ToolWorld)

def call (point : ToolCall) : ToolM PUnit := do
  let store ← get
  match w.fails store point with
  | some raised => throw raised
  | none => return ⟨⟩

/-- `raise` what a lookup raised. -/
def raised {α : Type} : Except ServiceError α → ToolM α
  | .ok value => pure value
  | .error error => throw error

/-- `get_flow_context`, as far as it is used: the tenant of the flow run. -/
def getFlowContext (tables : ToolTables) (flowRunId : ℕ) : ToolM ℕ := do
  call w .getFlowContext
  raised (tables.flowTenant flowRunId)

/-! ## Building the request -/

def ToolWorld.str (value : Value) : String :=
  match value with
  | .str s => s
  | other => w.text other

/-- `str(config.get(key) or "").strip()`. -/
def configText (config : Fields) (key : String) : List Char :=
  match config.lookup key with
  | none => []
  | some value => if value.truthy then strip (w.str value) else []

def effectiveToolHttpUrl (config : Fields) : String :=
  let base := (configText w config "base_url").rdropWhile (· = '/')
  let stripped := configText w config "path"
  let path := if stripped ≠ [] ∧ stripped.head? ≠ some '/' then '/' :: stripped else stripped
  let explicit := configText w config "url"
  String.ofList (if base ≠ [] ∧ path ≠ [] then base ++ path
      else if explicit ≠ [] then explicit
      else if base ≠ [] then base
      else path)

def toFloat : Value → Except ServiceError PyFloat
  | .bool b => .ok (((if b then 1 else 0 : ℚ) : ℚ) : PyFloat)
  | .int i => .ok ((i : ℚ) : PyFloat)
  | .float x => .ok x
  | .str s =>
    match w.parseFloat s with
    | some x => .ok x
    | none => .error (.unexpected "ValueError")
  | _ => .error (.unexpected "TypeError")

def toInt (value : Value) : Except ServiceError ℤ :=
  match value.toInt? with
  | some i => .ok i
  | none => .error (.unexpected value.intErrorClass)

def resolveMetadataValue (metadata : Fields) (key : String) : Option Value :=
  match metadata.lookup key with
  | none => none
  | some .null => none
  | some (.str s) => if strip s = [] then none else some (.str s)
  | some value => some value

/-- One header of `_resolve_headers`: its value, and the secret it used. -/
def resolveHeader (metadata : Fields) (value : Value) :
    Except ServiceError (String × Option String) :=
  match value with
  | .str s => .ok (s, none)
  | .dict fields =>
    match fields.lookup "secret_ref" with
    | some ref =>
      match w.resolveSecret (w.str ref) with
      | .ok secret => .ok (secret, some (w.str ref))
      | .error error => .error error
    | none =>
      match fields.lookup "interaction_metadata_key" with
      | some key =>
        match resolveMetadataValue metadata (w.str key) with
        | some raw => .ok (String.ofList (strip (w.str raw)), none)
        | none => .error (.domainValidation "interaction_metadata_header_missing")
      | none => .error (.domainValidation "invalid_tool_headers_config")
  | _ => .error (.domainValidation "invalid_tool_headers_config")

/-- `_resolve_headers`: the headers, and the secrets used. -/
def resolveHeaders (metadata : Fields) :
    Fields → Except ServiceError (List (String × String) × List String)
  | [] => .ok ([], [])
  | (key, value) :: rest =>
    match resolveHeader w metadata value with
    | .error error => .error error
    | .ok (header, secret) =>
      match resolveHeaders metadata rest with
      | .error error => .error error
      | .ok (headers, secrets) => .ok ((key, header) :: headers, secret.toList ++ secrets)

/-- `config.get("headers", {}) or {}`. -/
def headersConfig (config : Fields) : Except ServiceError Fields :=
  match config.lookup "headers" with
  | none => .ok []
  | some (.dict fields) => .ok fields
  | some value => if value.truthy then .error (.unexpected "AttributeError") else .ok []

/-! ## Running a tool -/

/-- The row that `update_tool_run_result` leaves. -/
def updateToolRunResult (toolRunId : ℕ) (status : RunStatus) (canonicalStatus : ToolRunStatus)
    (output error : Fields) (row : ToolRunRow) : ToolRunRow :=
  if row.toolRunId = toolRunId then
    { row with
      status, canonicalStatus, output, error
      -- the run status is compared with names of tool run statuses
      finished := row.finished ||
        decide (runStatusName status ∈ [ToolRunStatus.success.name, ToolRunStatus.error.name]) }
  else row

def ToolStore.updateToolRunResult (store : ToolStore) (toolRunId : ℕ) (status : RunStatus)
    (canonicalStatus : ToolRunStatus) (output error : Fields) : ToolStore :=
  { store with
    toolRuns := store.toolRuns.map
      (Tools.updateToolRunResult toolRunId status canonicalStatus output error) }

/-- `update_tool_run_result`, as a call. -/
def markToolRun (point : ToolCall) (toolRunId : ℕ) (status : RunStatus)
    (canonicalStatus : ToolRunStatus) (output error : Fields) : ToolM PUnit := do
  call w point
  let store ← get
  let _ ← ofOption (.notFound "tool_run_not_found") (store.getToolRun toolRunId)
  modify fun store => store.updateToolRunResult toolRunId status canonicalStatus output error

/-- The exchange itself: the request is sent and its result checked. -/
def exchange (request : HttpRequest) : ToolM Value := do
  modify fun store => { store with requests := store.requests ++ [request] }
  let result ← raised (w.executeHttp request)
  if w.validHttpResult result then return result
  else throw (.domainValidation "tool_response_validation_failed")

/-- The `try` block: the secrets are reported, then the request is sent. -/
def sendRequest (tables : ToolTables) (flowRunId : ℕ) (secretRefs : List String)
    (toolRun : ToolRunRow) (toolConfig : ToolConfigRow) (method : Value) (url : String)
    (headers : List (String × String)) (timeoutSeconds : PyFloat) : ToolM Value := do
  if secretRefs ≠ [] then
    let _ ← getFlowContext w tables flowRunId
    call w .secretAccessedEvent
  match method with
  | .str method =>
    exchange w { toolRun, toolConfig, method, url, headers, jsonBody := toolRun.input,
                 timeoutSeconds }
  -- the HTTP executor needs a method it can turn to upper case
  | _ => throw (.unexpected "AttributeError")

/-- The `except` block: the failure is recorded and raised again. -/
def recordFailure (tables : ToolTables) (toolRun : ToolRunRow) (error : ServiceError) :
    ToolM Value := do
  call w .getFlowRunId
  let flowRunId ← raised (tables.flowRunOf toolRun)
  let _ ← getFlowContext w tables flowRunId
  if error.domainValidationMessage.isSome then call w .validationFailedEvent
  markToolRun w .markFailed toolRun.toolRunId .failed .error []
    [("error", .str (w.errorText error))]
  call w .invocationFailedEvent
  call w .createRunFailure
  throw error

/-- What follows a successful exchange. -/
def recordSuccess (tables : ToolTables) (toolRun : ToolRunRow) (result : Value) : ToolM Value := do
  raiseIf (result = .null) (.domainValidation "tool_executor_empty_result")
  call w .getFlowRunId
  let flowRunId ← raised (tables.flowRunOf toolRun)
  let _ ← getFlowContext w tables flowRunId
  markToolRun w .markSucceeded toolRun.toolRunId .completed .success (result.asDict?.getD []) []
  call w .invocationSucceededEvent
  call w .createResponseArtifact
  raiseIf (w.interactionMetadata flowRunId = none)
    (.domainValidation "flow_run_missing_interaction")
  return result

def executeToolRun (tables : ToolTables) (toolRunId : ℕ) : ToolM Value := do
  call w .getToolRun
  let store ← get
  let toolRun ← ofOption (.domainValidation "tool_run_not_found") (store.getToolRun toolRunId)
  modify fun store => { store with executed := store.executed ++ [toolRun] }
  call w .getToolConfig
  let toolConfig ← ofOption (.domainValidation "tool_config_not_found")
    (tables.getToolConfig toolRun.toolConfigId)
  let config := toolConfig.config
  let url := effectiveToolHttpUrl w config
  let method := (config.lookup "method").getD (.str "POST")
  let timeoutSeconds ← raised (toFloat w ((config.lookup "timeout_seconds").getD (.int 10)))
  let _ ← raised (toInt ((config.lookup "max_attempts").getD (.int 3)))
  call w .getFlowRunId
  let flowRunId ← raised (tables.flowRunOf toolRun)
  call w .getInteractionMetadata
  let configured ← raised (headersConfig config)
  let (headers, secretRefs) ← raised
    (resolveHeaders w ((w.interactionMetadata flowRunId).getD []) configured)
  raiseIf (url = "") (.domainValidation "tool_config_missing_url")
  markToolRun w .markExecuting toolRunId .running .executing [] []
  match ← Program.attempt
    (sendRequest w tables flowRunId secretRefs toolRun toolConfig method url headers
        timeoutSeconds) with
  | .error error => recordFailure w tables toolRun error
  | .ok result => recordSuccess w tables toolRun result

/-! ## What a call keeps -/

section

variable {w} {I : ToolStore → Prop} {α : Type}

theorem call_keeps (point : ToolCall) : Keeps I (call w point) := by
  refine .bind .get fun st => ?_
  cases w.fails st point with
  | none => exact .pure _
  | some raised => exact .throw raised

theorem raised_keeps (out : Except ServiceError α) : Keeps I (raised out) := by
  cases out with
  | ok val => exact .pure val
  | error err => exact .throw err

theorem getFlowContext_keeps (tables flowRunId) : Keeps I (getFlowContext w tables flowRunId) :=
  .bind (call_keeps _) fun _ => raised_keeps _

theorem raised_triple {P} (out : Except ServiceError α) (raises : ∀ st, P st → I st) :
    Triple P (raised out) (fun val st => P st ∧ out = .ok val) I := by
  cases out with
  | ok val => exact .pure fun _ holds => ⟨holds, rfl⟩
  | error err => exact .throw raises

/-- What an invariant must allow: changes of a tool run's status, the execution of tool runs that
may be executed, and requests for them with the configuration they name. -/
structure StoreKeeps (tables : ToolTables) (I : ToolStore → Prop)
    (Executable : ToolRunRow → Prop) : Prop where
  updates : ∀ store toolRunId status canonicalStatus output error, I store →
    I (store.updateToolRunResult toolRunId status canonicalStatus output error)
  loads : ∀ store toolRun, I store → Executable toolRun →
    I { store with executed := store.executed ++ [toolRun] }
  sends : ∀ store request, I store → Executable request.toolRun →
    tables.getToolConfig request.toolRun.toolConfigId = some request.toolConfig →
    I { store with requests := store.requests ++ [request] }

variable {tables : ToolTables} {Executable : ToolRunRow → Prop}
  (keeps : StoreKeeps tables I Executable)

include keeps

theorem markToolRun_keeps (point toolRunId status canonicalStatus output err) :
    Keeps I (markToolRun w point toolRunId status canonicalStatus output err) :=
  .bind (call_keeps point) fun _ =>
  .bind .get fun _ =>
  .bind (.ofOption _ _) fun _ =>
  .modify fun st holds => keeps.updates st _ _ _ _ _ holds

theorem sendRequest_keeps (flowRunId secretRefs) {toolRun toolConfig}
    (executable : Executable toolRun)
    (named : tables.getToolConfig toolRun.toolConfigId = some toolConfig)
    (method url headers timeoutSeconds) :
    Keeps I (sendRequest w tables flowRunId secretRefs toolRun toolConfig method url headers
      timeoutSeconds) := by
  have sending : Keeps I (match method with
      | .str method => exchange w
          { toolRun, toolConfig, method, url, headers, jsonBody := toolRun.input, timeoutSeconds }
      | _ => throw (.unexpected "AttributeError")) := by
    split
    · refine .bind (.modify fun st holds => keeps.sends st _ holds executable named) fun _ => ?_
      exact .bind (raised_keeps _) fun _ => .ite (.pure _) (.throw _)
    · exact .throw _
  unfold sendRequest
  refine .ite ?_ sending
  exact .bind (getFlowContext_keeps _ _) fun _ => .bind (call_keeps _) fun _ => sending

theorem recordFailure_keeps (toolRun err) : Keeps I (recordFailure w tables toolRun err) := by
  have marking : Keeps I (do
      markToolRun w .markFailed toolRun.toolRunId .failed .error []
        [("error", .str (w.errorText err))]
      call w .invocationFailedEvent
      call w .createRunFailure
      throw err : ToolM Value) :=
    .bind (markToolRun_keeps keeps _ _ _ _ _ _) fun _ =>
    .bind (call_keeps _) fun _ =>
    .bind (call_keeps _) fun _ =>
    .throw err
  refine .bind (call_keeps _) fun _ => .bind (raised_keeps _) fun _ =>
    .bind (getFlowContext_keeps _ _) fun _ => ?_
  exact .ite (.bind (call_keeps _) fun _ => marking) marking

theorem recordSuccess_keeps (toolRun : ToolRunRow)
    (res : Value) : Keeps I (recordSuccess w tables toolRun res) :=
  .bind (.raiseIf _ _) fun _ =>
  .bind (call_keeps _) fun _ =>
  .bind (raised_keeps _) fun _ =>
  .bind (getFlowContext_keeps _ _) fun _ =>
  .bind (markToolRun_keeps keeps _ _ _ _ _ _) fun _ =>
  .bind (call_keeps _) fun _ =>
  .bind (call_keeps _) fun _ =>
  .bind (.raiseIf _ _) fun _ =>
  .pure _

/-- **The only request a call sends is one for the stored tool run, with the configuration that the
tool run names.** -/
theorem executeToolRun_keeps (toolRunId : ℕ) :
    Triple (fun st => I st ∧ ∀ toolRun ∈ st.getToolRun toolRunId, Executable toolRun)
      (executeToolRun w tables toolRunId) (fun _ => I) I := by
  refine .bind ((call_keeps _).imp (fun _ before => before) (fun _ _ after => after)
    fun _ after => after.1) fun _ => ?_
  refine .bind (Triple.get (R := fun st after => I after ∧
    ∀ toolRun ∈ st.getToolRun toolRunId, Executable toolRun) fun _ holds => holds) fun st => ?_
  refine .bind (Triple.ofOption (Q := fun toolRun after => I after ∧ Executable toolRun)
    (fun _ holds => holds.1) fun toolRun found _ holds => ⟨holds.1, holds.2 toolRun found⟩)
    fun toolRun => ?_
  refine Triple.of_fact fun executable => ?_
  -- from here on the tool run is known to be executable
  refine Keeps.bind (.modify fun st holds => keeps.loads st toolRun holds executable) fun _ => ?_
  refine Keeps.bind (call_keeps _) fun _ => ?_
  refine Triple.bind (Triple.ofOption (Q := fun toolConfig after => I after ∧
      tables.getToolConfig toolRun.toolConfigId = some toolConfig)
    (fun _ holds => holds) fun toolConfig found _ holds => ⟨holds, found⟩) fun toolConfig => ?_
  refine Triple.of_fact fun named => ?_
  refine Keeps.bind (raised_keeps _) fun _ => .bind (raised_keeps _) fun _ =>
    .bind (call_keeps _) fun _ => .bind (raised_keeps _) fun _ => .bind (call_keeps _) fun _ =>
    .bind (raised_keeps _) fun _ => .bind (raised_keeps _) fun _ => .bind (.raiseIf _ _) fun _ =>
    .bind (markToolRun_keeps keeps _ _ _ _ _ _) fun _ => ?_
  refine .bind (Keeps.attempt (sendRequest_keeps keeps _ _ executable named _ _ _ _)) fun out => ?_
  cases out with
  | error err => exact recordFailure_keeps keeps toolRun err
  | ok res => exact recordSuccess_keeps keeps toolRun res

end

/-! ## One call in full -/

section

variable {w} {tables : ToolTables} {store next : ToolStore}

theorem call_eq_ok {point val} :
    call w point store = .ok val next ↔ w.fails store point = none ∧ next = store := by
  show (match w.fails store point with
    | some raised => (throw raised : ToolM PUnit)
    | none => return ⟨⟩) store = .ok val next ↔ _
  cases w.fails store point with
  | some raised => exact ⟨nofun, nofun⟩
  | none =>
    show EStateM.Result.ok PUnit.unit store = .ok val next ↔ _
    rw [EStateM.Result.ok.injEq, eq_comm (a := store)]
    exact ⟨fun both => ⟨rfl, both.2⟩, fun both => ⟨rfl, both.2⟩⟩

end

end AgentOrchestration.Tools
