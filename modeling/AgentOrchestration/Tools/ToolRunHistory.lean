import AgentOrchestration.Library.Interleaving
import AgentOrchestration.Tools.StepEntries

/-!
# The history of a tool run

Calls of `execute_tool_run` on one tool run, from the API and from the activity of its
schedule, interleaved in any way: every call to the repository is atomic, and between
two of them other calls may take theirs.
-/

namespace AgentOrchestration.Tools

set_option autoImplicit false

open Execution (ServiceError)
open Interleaving (Thread Pool Move)
open Interleaving.Thread (atomic run_atomic)
open LabelledSystem (trace)
open Program (Keeps Triple raiseIf ofOption)

abbrev ToolThread := Thread ToolStore ServiceError

/-! ## The call in atomic steps -/

section

variable (w : ToolWorld) (tables : ToolTables) (toolRun : ToolRunRow)

def getFlowRunIdForToolRun : ToolM ℕ := do
  call w .getFlowRunId
  raised (tables.flowRunOf toolRun)

/-- The `try` block. -/
def sendRequestThread (flowRunId : ℕ) (secretRefs : List String) (toolRun : ToolRunRow)
    (toolConfig : ToolConfigRow) (method : Value) (url : String)
    (headers : List (String × String)) (timeoutSeconds : PyFloat) : ToolThread Value := do
  if secretRefs ≠ [] then
    let _ ← atomic (getFlowContext w tables flowRunId)
    atomic (call w .secretAccessedEvent)
  match method with
  | .str method =>
    atomic (exchange w
      { toolRun, toolConfig, method, url, headers, jsonBody := toolRun.input, timeoutSeconds })
  | _ => Thread.raised (.unexpected "AttributeError")

/-- The `except` block. -/
def recordFailureThread (error : ServiceError) : ToolThread Value := do
  let flowRunId ← atomic (getFlowRunIdForToolRun w tables toolRun)
  let _ ← atomic (getFlowContext w tables flowRunId)
  if error.domainValidationMessage.isSome then atomic (call w .validationFailedEvent)
  atomic (markToolRun w .markFailed toolRun.toolRunId .failed .error []
    [("error", .str (w.errorText error))])
  atomic (call w .invocationFailedEvent)
  atomic (call w .createRunFailure)
  Thread.raised error

/-- What follows a successful exchange. -/
def recordSuccessThread (result : Value) : ToolThread Value := do
  Thread.raiseIf (result = .null) (.domainValidation "tool_executor_empty_result")
  let flowRunId ← atomic (getFlowRunIdForToolRun w tables toolRun)
  let _ ← atomic (getFlowContext w tables flowRunId)
  atomic (markToolRun w .markSucceeded toolRun.toolRunId .completed .success
    (result.asDict?.getD []) [])
  atomic (call w .invocationSucceededEvent)
  atomic (do
    call w .createResponseArtifact
    raiseIf (w.interactionMetadata flowRunId = none)
      (.domainValidation "flow_run_missing_interaction"))
  return result

variable (toolRunId : ℕ)

/-- `get_tool_run`, at the beginning of a call. -/
def loadToolRun : ToolM ToolRunRow := do
  call w .getToolRun
  let store ← get
  let toolRun ← ofOption (.domainValidation "tool_run_not_found") (store.getToolRun toolRunId)
  modify fun store => { store with executed := store.executed ++ [toolRun] }
  return toolRun

/-- `execute_tool_run`, in its atomic steps. -/
def executeToolRunThread : ToolThread Value := do
  let toolRun ← atomic (loadToolRun w toolRunId)
  let toolConfig ← atomic (do
    call w .getToolConfig
    ofOption (.domainValidation "tool_config_not_found")
      (tables.getToolConfig toolRun.toolConfigId))
  let config := toolConfig.config
  let url := effectiveToolHttpUrl w config
  let method := (config.lookup "method").getD (.str "POST")
  let timeoutSeconds ← Thread.ofExcept
    (toFloat w ((config.lookup "timeout_seconds").getD (.int 10)))
  let _ ← Thread.ofExcept (toInt ((config.lookup "max_attempts").getD (.int 3)))
  let flowRunId ← atomic (getFlowRunIdForToolRun w tables toolRun)
  atomic (call w .getInteractionMetadata)
  let configured ← Thread.ofExcept (headersConfig config)
  let (headers, secretRefs) ←
    Thread.ofExcept (resolveHeaders w ((w.interactionMetadata flowRunId).getD []) configured)
  Thread.raiseIf (url = "") (.domainValidation "tool_config_missing_url")
  atomic (markToolRun w .markExecuting toolRunId .running .executing [] [])
  match ← (sendRequestThread w tables flowRunId secretRefs toolRun toolConfig method url headers
      timeoutSeconds).attempt with
  | .error error => recordFailureThread w tables toolRun error
  | .ok result => recordSuccessThread w tables toolRun result

/-- `ExecutionBoundary.execute_tool_run`, in its atomic steps. -/
def executeOwnToolRunThread (env : ApiEnvironment) (tenantId toolRunId : ℕ) : ToolThread Value := do
  Thread.ofExcept (env.refused.elim (.ok PUnit.unit) .error)
  let toolRun ← atomic (do
    let store ← get
    ofOption (.notFound "tool_run_not_found") (store.getToolRun toolRunId))
  Thread.ofExcept (assertToolRunTenant tables tenantId toolRun)
  executeToolRunThread w tables toolRunId

end

variable {w : ToolWorld} {tables : ToolTables}

section

theorem run_ofExcept {α : Type} (out) : (Thread.ofExcept out : ToolThread α).run = raised out := by
  cases out <;> rfl

theorem run_raiseIf (c : Prop) [Decidable c] (err : ServiceError) :
    (Thread.raiseIf c err : ToolThread PUnit).run = raiseIf c err := by
  unfold Thread.raiseIf raiseIf
  split <;> rfl

variable (toolRun : ToolRunRow)

theorem run_recordSuccessThread (res : Value) :
    (recordSuccessThread w tables toolRun res).run = recordSuccess w tables toolRun res := by
  unfold recordSuccessThread recordSuccess getFlowRunIdForToolRun
  simp only [Thread.run_bind, run_atomic, run_raiseIf, Thread.run_pure, bind_assoc]

theorem run_recordFailureThread (err : ServiceError) :
    (recordFailureThread w tables toolRun err).run = recordFailure w tables toolRun err := by
  unfold recordFailureThread recordFailure getFlowRunIdForToolRun
  simp only [Thread.run_bind, run_atomic, bind_assoc]
  split
  · simp only [Thread.run_bind, run_atomic]
    rfl
  · simp only [Thread.run_bind, run_atomic]
    rfl

theorem run_sendRequestThread
    (flowRunId secretRefs toolRun toolConfig method url headers timeoutSeconds) :
    (sendRequestThread w tables flowRunId secretRefs toolRun toolConfig method url headers
      timeoutSeconds).run =
    sendRequest w tables flowRunId secretRefs toolRun toolConfig method url headers
      timeoutSeconds := by
  unfold sendRequestThread sendRequest
  by_cases secrets : secretRefs ≠ []
  · simp only [if_pos secrets, Thread.run_bind, run_atomic]
    refine bind_congr fun _ => bind_congr fun _ => ?_
    cases method with
    | str text => exact run_atomic _
    | _ => rfl
  · simp only [if_neg secrets]
    cases method with
    | str text => exact run_atomic _
    | _ => rfl

/-- **A call that is not interrupted is the orchestrator's call.** -/
theorem run_executeToolRunThread (toolRunId : ℕ) :
    (executeToolRunThread w tables toolRunId).run = executeToolRun w tables toolRunId := by
  unfold executeToolRunThread executeToolRun loadToolRun getFlowRunIdForToolRun
  simp only [Thread.run_bind, run_atomic, Thread.run_attempt, run_ofExcept, run_raiseIf,
    run_sendRequestThread, bind_assoc, pure_bind]
  -- the two programs differ only in what follows the exchange
  repeat refine bind_congr fun out => ?_
  cases out with
  | error err => exact run_recordFailureThread _ err
  | ok res => exact run_recordSuccessThread _ res

theorem run_executeOwnToolRunThread (env tenantId toolRunId) :
    (executeOwnToolRunThread w tables env tenantId toolRunId).run =
      executeOwnToolRun w tables env tenantId toolRunId := by
  unfold executeOwnToolRunThread executeOwnToolRun
  simp only [Thread.run_bind, run_atomic, run_ofExcept, run_executeToolRunThread, bind_assoc]

end

/-! ## What may happen to a tool run -/

/-- `tool_transitions` of the state machine. -/
def toolTransitions : ToolRunStatus → List ToolRunStatus
  | .created => [.executing, .error, .timeout]
  | .executing => [.success, .error, .timeout]
  | .success => []
  | .error => []
  | .timeout => []

def canonicalStatus (toolRunId : ℕ) (store : ToolStore) : Option ToolRunStatus :=
  (store.getToolRun toolRunId).map ToolRunRow.canonicalStatus

structure KeepsFinal (toolRunId : ℕ) (before after : ToolStore) : Prop where
  status : ∀ status ∈ canonicalStatus toolRunId before, toolTransitions status = [] →
    canonicalStatus toolRunId after = some status
  requests : canonicalStatus toolRunId before = some .success → after.requests = before.requests

def StillOpen (toolRunId : ℕ) (store : ToolStore) : Prop :=
  ∀ status ∈ canonicalStatus toolRunId store, toolTransitions status ≠ []

section

variable {toolRunId : ℕ} {store after : ToolStore}

theorem KeepsFinal.refl (st : ToolStore) : KeepsFinal toolRunId st st :=
  ⟨fun _ eq _ => eq, fun _ => rfl⟩

theorem StillOpen.keepsFinal (isOpen : StillOpen toolRunId store) :
    KeepsFinal toolRunId store after :=
  ⟨fun status found final => absurd final (isOpen status found),
    fun success => absurd rfl (isOpen .success success)⟩

variable (toolRunId) in
abbrev Lawful {α : Type} (thread : ToolThread α) : Prop :=
  Thread.Ensures (KeepsFinal toolRunId) (StillOpen toolRunId) thread (fun _ _ => True) fun _ => True

theorem ensures_open {α : Type} {m : ToolM α} {Q : α → ToolStore → Prop} {E : ToolStore → Prop}
    (triple : Triple (StillOpen toolRunId) m Q E) :
    Thread.Ensures (KeepsFinal toolRunId) (StillOpen toolRunId) (atomic m) Q E :=
  .atomic triple fun _ isOpen => isOpen.keepsFinal

variable (toolRun : ToolRunRow)

theorem getFlowRunIdForToolRun_reads (I : ToolStore → Prop) :
    Keeps I (getFlowRunIdForToolRun w tables toolRun) :=
  .bind (call_keeps _) fun _ => raised_keeps _

theorem loadToolRun_keeps_open : Keeps (StillOpen toolRunId) (loadToolRun w toolRunId) :=
  .bind (call_keeps _) fun _ => .bind .get fun _ => .bind (.ofOption _ _) fun _ =>
    .bind (.modify fun _ isOpen => isOpen) fun _ => .pure _

theorem markExecuting_open : Keeps (StillOpen toolRunId)
      (markToolRun w .markExecuting toolRunId .running .executing [] []) := by
  refine .bind (call_keeps _) fun _ => .bind .get fun _ => .bind (.ofOption _ _) fun _ =>
    .modify fun st _ => ?_
  intro status found
  simp only [canonicalStatus, getToolRun_update, Option.mem_def, Option.map_map,
    Option.map_eq_some_iff] at found
  obtain ⟨toolRun, here, rfl⟩ := found
  have key : toolRun.toolRunId = toolRunId := Table.key_of_byKey here
  simp [updateToolRunResult, key, toolTransitions]

theorem exchange_keeps_open (req : HttpRequest) : Keeps (StillOpen toolRunId) (exchange w req) :=
  .bind (.modify fun _ isOpen => isOpen) fun _ => .bind (raised_keeps _) fun _ =>
    .ite (.pure _) (.throw _)

theorem sendRequestThread_open
    (flowRunId secretRefs toolRun toolConfig method url headers timeoutSeconds) :
    Thread.Ensures (KeepsFinal toolRunId) (StillOpen toolRunId)
      (sendRequestThread w tables flowRunId secretRefs toolRun toolConfig method url headers
        timeoutSeconds) (fun _ => StillOpen toolRunId) (StillOpen toolRunId) := by
  have sending : Thread.Ensures (KeepsFinal toolRunId) (StillOpen toolRunId) (match method with
      | .str method => atomic (exchange w
          { toolRun, toolConfig, method, url, headers, jsonBody := toolRun.input, timeoutSeconds })
      | _ => Thread.raised (.unexpected "AttributeError") : ToolThread Value)
      (fun _ => StillOpen toolRunId) (StillOpen toolRunId) := by
    split
    · exact ensures_open (exchange_keeps_open _)
    · exact .raised fun _ isOpen => isOpen
  unfold sendRequestThread
  refine .ite ?_ sending
  refine .bind (.reads .refl (fun _ => getFlowContext_keeps _ _) fun _ isOpen => isOpen) fun _ => ?_
  exact .bind (.reads .refl (fun _ => call_keeps _) fun _ isOpen => isOpen) fun _ => sending

/-- The outcome is recorded while the status is open, and nothing else is changed. -/
theorem recordSuccessThread_lawful (res : Value) :
    Lawful toolRunId (recordSuccessThread w tables toolRun res) := by
  refine .bind (.raiseIf _ _ fun _ _ => trivial) fun _ => ?_
  refine .bind (.reads .refl (getFlowRunIdForToolRun_reads _) fun _ _ => trivial) fun _ => ?_
  refine .bind (.reads .refl (fun _ => getFlowContext_keeps _ _) fun _ _ => trivial) fun _ => ?_
  refine .bind (ensures_open (Triple.any _)) fun _ => ?_
  refine .bind (.reads .refl (fun _ => call_keeps _) fun _ _ => trivial) fun _ => ?_
  refine .bind (.reads .refl (fun _ => .bind (call_keeps _) fun _ => .raiseIf _ _)
    fun _ _ => trivial) fun _ => ?_
  exact .done fun _ _ => trivial

theorem recordFailureThread_lawful (err : ServiceError) :
    Lawful toolRunId (recordFailureThread w tables toolRun err) := by
  have marking : Lawful toolRunId (do
      atomic (markToolRun w .markFailed toolRun.toolRunId .failed .error []
        [("error", .str (w.errorText err))])
      atomic (call w .invocationFailedEvent)
      atomic (call w .createRunFailure)
      Thread.raised err : ToolThread Value) := by
    refine .bind (ensures_open (Triple.any _)) fun _ => ?_
    refine .bind (.reads .refl (fun _ => call_keeps _) fun _ _ => trivial) fun _ => ?_
    refine .bind (.reads .refl (fun _ => call_keeps _) fun _ _ => trivial) fun _ => ?_
    exact .raised fun _ _ => trivial
  refine .bind (.reads .refl (getFlowRunIdForToolRun_reads _) fun _ _ => trivial) fun _ => ?_
  refine .bind (.reads .refl (fun _ => getFlowContext_keeps _ _) fun _ _ => trivial) fun _ => ?_
  refine .ite ?_ marking
  exact .bind (.reads .refl (fun _ => call_keeps _) fun _ _ => trivial) fun _ => marking

/-- **A call that begins while the status is open, and is not disturbed, keeps what is final.** -/
theorem executeToolRunThread_lawful (w tabs toolRunId) :
    Lawful toolRunId (executeToolRunThread w tabs toolRunId) := by
  refine .bind ((ensures_open loadToolRun_keeps_open).imp (fun _ isOpen => isOpen)
    (fun _ _ isOpen => isOpen) fun _ _ => trivial) fun toolRun => ?_
  refine .bind (.reads .refl (fun _ => .bind (call_keeps _) fun _ => .ofOption _ _)
    fun _ _ => trivial) fun toolConfig => ?_
  refine .bind (.ofExcept _ fun _ _ => trivial) fun _ => ?_
  refine .bind (.ofExcept _ fun _ _ => trivial) fun _ => ?_
  refine .bind (.reads .refl (getFlowRunIdForToolRun_reads _) fun _ _ => trivial) fun _ => ?_
  refine .bind (.reads .refl (fun _ => call_keeps _) fun _ _ => trivial) fun _ => ?_
  refine .bind (.ofExcept _ fun _ _ => trivial) fun _ => ?_
  refine .bind (.ofExcept _ fun _ _ => trivial) fun got => ?_
  refine .bind (.raiseIf _ _ fun _ _ => trivial) fun _ => ?_
  refine .bind ((ensures_open markExecuting_open).imp (fun _ isOpen => isOpen)
    (fun _ _ isOpen => isOpen) fun _ _ => trivial) fun _ => ?_
  refine .bind (sendRequestThread_open _ _ _ _ _ _ _ _).attempt fun out => ?_
  cases out with
  | error err => exact recordFailureThread_lawful toolRun err
  | ok res => exact recordSuccessThread_lawful toolRun res

theorem executeOwnToolRunThread_lawful (w tabs env tenantId toolRunId) :
    Lawful toolRunId (executeOwnToolRunThread w tabs env tenantId toolRunId) := by
  refine .bind (.ofExcept _ fun _ _ => trivial) fun _ => ?_
  refine .bind (.reads .refl (fun _ => .bind .get fun _ => .ofOption _ _) fun _ _ =>
    trivial) fun _ => ?_
  refine .bind (.ofExcept _ fun _ _ => trivial) fun _ => ?_
  exact executeToolRunThread_lawful w tabs toolRunId

end

/-! ## The history -/

inductive ToolRunCall where
  | api (w : ToolWorld) (env : ApiEnvironment) (tenantId : ℕ)
  /-- An attempt of the activity `execute_scheduled_tool_run`. -/
  | activity (w : ToolWorld)

variable (tables : ToolTables)

def ToolRunCall.thread (toolRunId : ℕ) : ToolRunCall → ToolThread Value
  | .api w env tenantId => executeOwnToolRunThread w tables env tenantId toolRunId
  | .activity w => executeToolRunThread w tables toolRunId

abbrev ToolRunCalls := Pool ToolStore ServiceError Value ToolRunCall

def callStep (toolRunId : ℕ) : ToolRunCalls → Move ToolRunCall → Option ToolRunCalls :=
  Interleaving.step fun call => [call.thread tables toolRunId]

/-- **What is final stays final, as long as calls begin only while no other call is in flight and
the status is still open.** -/
theorem history_final_of_exclusive (tables : ToolTables) (toolRunId : ℕ) (calls : ToolRunCalls)
    (idle : calls.running = []) (moves : List (Move ToolRunCall))
    (exclusive : ∀ t ∈ trace (callStep tables toolRunId) calls moves,
      Interleaving.Exclusive (fun store _ => StillOpen toolRunId store) t.before t.action) :
    ∀ t ∈ trace (callStep tables toolRunId) calls moves,
      KeepsFinal toolRunId t.before.shared t.after.shared := by
  refine Interleaving.exclusive_trace .refl ?_ moves idle exclusive
  intro call store isOpen
  cases call with
  | api w env tenantId =>
    exact (executeOwnToolRunThread_lawful w tables env tenantId toolRunId).obeys store isOpen
  | activity w => exact (executeToolRunThread_lawful w tables toolRunId).obeys store isOpen

def oneToolRun : ToolRunCalls :=
  { shared := noToolRuns.created
      (newToolRun 7 { toolConfigId := 50, agentRunId := none, nodeRunId := some 40, input := [] })
    running := [], finished := [] }

def attemptMoves (w : ToolWorld) (steps : ℕ) : List (Move ToolRunCall) :=
  .start (.activity w) :: List.replicate steps (.advance 0)

/-- One attempt that comes through. -/
theorem single_attempt_final :
    ((trace (callStep twoTenantTools 7) oneToolRun (attemptMoves reliableWorld 11)).getLast?.map
        fun t => canonicalStatus 7 t.after.shared) = some (some .success) ∧
      ∀ t ∈ trace (callStep twoTenantTools 7) oneToolRun (attemptMoves reliableWorld 11),
        KeepsFinal 7 t.before.shared t.after.shared := by
  refine ⟨by decide +kernel, history_final_of_exclusive _ _ _ rfl _ ?_⟩
  intro t member
  rcases List.mem_cons.mp member with rfl | later
  · refine ⟨rfl, fun status found => ?_⟩
    cases found
    decide
  · rw [List.eq_of_mem_replicate (LabelledSystem.action_mem_of_trace later)]
    trivial

/-- The event of the success cannot be stored, so the activity is attempted again: the success is
replaced and the request is sent a second time. -/
theorem success_replaced :
    let run := trace (callStep twoTenantTools 7) oneToolRun
      (attemptMoves eventStoreDown 10 ++ attemptMoves eventStoreDown 6)
    (run[16]?.map fun t => (canonicalStatus 7 t.before.shared, canonicalStatus 7 t.after.shared)) =
        some (some .success, some .executing) ∧
      (run[17]?.map fun t => (t.before.shared.requests.length, t.after.shared.requests.length)) =
        some (1, 2) := by
  decide +kernel

end AgentOrchestration.Tools
