import AgentOrchestration.Tools.Confinement

/-!
# Tool runs that are closed

When a call of the orchestrator is over, its tool run should have a final status and a finishing
time. `update_tool_run_result` looks for the names of tool run statuses among run statuses, and so
never sets the time; and a call may end before it has written a final status.
-/

namespace AgentOrchestration.Tools

set_option autoImplicit false

open Program (after Keeps)

/-- The `try` block of `execute_agent_tool_run`: the request is built and sent. -/
def agentExchange (w : ToolWorld) (interactionMetadata : Option Fields) (toolRun : ToolRunRow)
    (toolConfig : ToolConfigRow) : ToolM Value := do
  let config := toolConfig.config
  let url := effectiveToolHttpUrl w config
  Program.raiseIf (url = "") (.domainValidation "tool_config_missing_url")
  let timeoutSeconds ← raised (toFloat w ((config.lookup "timeout_seconds").getD (.int 10)))
  let configured ← raised (headersConfig config)
  let resolved ← raised (resolveHeaders w (interactionMetadata.getD []) configured)
  match (config.lookup "method").getD (.str "POST") with
  | .str method =>
    exchange w
      { toolRun, toolConfig, method, url, headers := resolved.1, jsonBody := toolRun.input
        timeoutSeconds }
  | _ => throw (.unexpected "AttributeError")

def executeAgentToolRun (w : ToolWorld) (tables : ToolTables) (tenantId : ℕ)
    (interactionMetadata : Option Fields) (toolRunId : ℕ) : ToolM Value := do
  call w .getToolRun
  let store ← get
  let toolRun ← Program.ofOption (.domainValidation "tool_run_not_found")
    (store.getToolRun toolRunId)
  modify fun store => { store with executed := store.executed ++ [toolRun] }
  call w .getToolConfig
  let toolConfig ← Program.ofOption (.domainValidation "tool_config_not_found")
    (tables.getToolConfig toolRun.toolConfigId)
  Program.raiseIf (toolConfig.tenantId ≠ tenantId) (.domainValidation "tool_config_not_found")
  markToolRun w .markExecuting toolRunId .running .executing [] []
  match ← Program.attempt (agentExchange w interactionMetadata toolRun toolConfig) with
  | .error error =>
    markToolRun w .markFailed toolRunId .failed .error [] [("error", .str (w.errorText error))]
    call w .createRunFailure
    throw error
  | .ok result =>
    markToolRun w .markSucceeded toolRunId .completed .success (result.asDict?.getD []) []
    return result

/-- The tool run has a final status, and `finished_at` is set. -/
def ToolStore.Closed (toolRunId : ℕ) (store : ToolStore) : Prop :=
  ∃ row ∈ store.getToolRun toolRunId,
    row.canonicalStatus ∈ [ToolRunStatus.success, .error, .timeout] ∧ row.finished = true

/-- `finished_at` is not set. -/
def ToolStore.Unstamped (toolRunId : ℕ) (store : ToolStore) : Prop :=
  ∀ row ∈ store.getToolRun toolRunId, row.finished = false

section

variable {w : ToolWorld} {tables : ToolTables} {toolRunId : ℕ}

/-- No run status is one of those for which the finishing time is set. -/
theorem storeKeeps_unstamped (tabs : ToolTables) (toolRunId : ℕ) :
    StoreKeeps tabs (ToolStore.Unstamped toolRunId) fun _ => True where
  updates store _ status _ _ _ unstamped := by
    intro row found
    rw [getToolRun_update, Option.mem_def, Option.map_eq_some_iff] at found
    obtain ⟨before, held, rfl⟩ := found
    unfold updateToolRunResult
    split
    · cases status <;> simp [unstamped before held, runStatusName, ToolRunStatus.name]
    · exact unstamped before held
  loads _ _ unstamped _ := unstamped
  sends _ _ unstamped _ _ := unstamped

theorem agentExchange_keeps (interactionMetadata toolRun toolConfig) :
    Keeps (ToolStore.Unstamped toolRunId)
      (agentExchange w interactionMetadata toolRun toolConfig) := by
  refine .bind (.raiseIf _ _) fun _ => .bind (raised_keeps _) fun _ =>
    .bind (raised_keeps _) fun _ => .bind (raised_keeps _) fun _ => ?_
  split
  · refine .bind (.modify fun _ unstamped => unstamped) fun _ => ?_
    exact .bind (raised_keeps _) fun _ => .ite (.pure _) (.throw _)
  · exact .throw _

theorem executeAgentToolRun_keeps (tenantId interactionMetadata) :
    Keeps (ToolStore.Unstamped toolRunId)
      (executeAgentToolRun w tables tenantId interactionMetadata toolRunId) := by
  have marks :=
    fun point => @markToolRun_keeps w _ _ _ (storeKeeps_unstamped tables toolRunId) point
  refine .bind (call_keeps _) fun _ => .bind .get fun _ => .bind (.ofOption _ _) fun _ =>
    .bind (.modify fun _ unstamped => unstamped) fun _ => .bind (call_keeps _) fun _ =>
    .bind (.ofOption _ _) fun _ => .bind (.raiseIf _ _) fun _ => .bind (marks _ _ _ _ _ _) fun _ =>
    .bind (.attempt (agentExchange_keeps _ _ _)) fun out => ?_
  cases out with
  | error err => exact .bind (marks _ _ _ _ _ _) fun _ => .bind (call_keeps _) fun _ => .throw err
  | ok res => exact .bind (marks _ _ _ _ _ _) fun _ => .pure res

end

/-- **A tool run without a finishing time, which is how it is created, is not closed by any
call.** -/
theorem tool_run_never_closed (w : ToolWorld) (tables : ToolTables) (store : ToolStore)
    (toolRunId tenantId : ℕ) (interactionMetadata : Option Fields)
    (unstamped : store.Unstamped toolRunId) :
    ¬ (after (executeToolRun w tables toolRunId) store).Closed toolRunId ∧
      ¬ (after (executeAgentToolRun w tables tenantId interactionMetadata toolRunId) store).Closed
        toolRunId := by
  have opens : ∀ later : ToolStore, later.Unstamped toolRunId → ¬ later.Closed toolRunId := by
    rintro later still ⟨row, found, -, stamped⟩
    rw [still row found] at stamped
    cases stamped
  refine ⟨opens _ ?_, opens _ ((executeAgentToolRun_keeps tenantId _).after unstamped)⟩
  exact (executeToolRun_keeps (storeKeeps_unstamped tables toolRunId) toolRunId).after
    ⟨unstamped, fun _ _ => trivial⟩

def createdToolRun (toolConfigId : ℕ) : ToolStore :=
  { noToolRuns with
    toolRuns := [⟨0, toolConfigId, none, some 40, [], .created, .created, false, [], []⟩] }

theorem executed_run_not_closed : (createdToolRun 50).Unstamped 0 ∧
      ¬ (after (executeToolRun plainWorld twoTenantTools 0) (createdToolRun 50)).Closed 0 := by
  have unstamped : (createdToolRun 50).Unstamped 0 := by
    rintro row ⟨⟩
    rfl
  exact ⟨unstamped, (tool_run_never_closed plainWorld twoTenantTools _ 0 1 none unstamped).1⟩

/-- A call that succeeds leaves no finishing time, and one that finds no configuration leaves the
tool run `CREATED`. -/
theorem tool_runs_left_open :
    [50, 99].map (fun toolConfigId =>
        ((after (executeToolRun plainWorld twoTenantTools 0)
          (createdToolRun toolConfigId)).getToolRun 0).map
          fun row => (row.canonicalStatus, row.finished)) =
      [some (.success, false), some (.created, false)] := by
  decide +kernel

end AgentOrchestration.Tools
