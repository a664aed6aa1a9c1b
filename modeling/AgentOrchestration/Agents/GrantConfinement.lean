import AgentOrchestration.Agents.AgentLoop

/-!
# The grant confines the model

Whatever the model answers, the tool runs and delegations of a run come from the calls of
its transcript one by one, and each call has at most the effect that the grant allows it.
-/

namespace AgentOrchestration.AgentRuntime

set_option autoImplicit false

open Interleaving.Thread (Ensures)
open Program (after)

/-! ## Accounts -/

structure Dispatch where
  call : AgentToolCall
  toolRuns : List ToolRunRow
  delegations : List NewDelegation

structure CallsTool (libraries : Libraries) (grant : ResolvedToolGrant) (call : AgentToolCall)
    (binding : AgentToolBinding) : Prop where
  granted : binding ∈ grant.tools
  name : binding.functionName = call.name
  delegates : call.name ≠ delegationToolName
  valid : libraries.validate binding.requestSchema call.arguments = .valid

inductive Dispatch.Confined (libraries : Libraries) (grant : ResolvedToolGrant) :
    Dispatch → Prop where
  | nothing (call : AgentToolCall) : Confined libraries grant ⟨call, [], []⟩
  | tool {call : AgentToolCall} {binding : AgentToolBinding} {row : ToolRunRow}
      (calls : CallsTool libraries grant call binding)
        (config : row.toolConfigId = binding.toolConfigId)
      (input : row.input = call.arguments) : Confined libraries grant ⟨call, [row], []⟩
  | delegation {call : AgentToolCall} {delegation : NewDelegation}
    (name : call.name = delegationToolName)
      (allowed : grant.allowAgentDelegation = true)
      (target : delegation.targetAgentId ∈ grant.delegateAgentIds) :
        Confined libraries grant ⟨call, [], [delegation]⟩

def AgentRunRecord.toolCalls (record : AgentRunRecord) : List AgentToolCall :=
  record.messages.flatMap (·.toolCalls)

def AgentRunRecord.started (record : AgentRunRecord) : List NewDelegation :=
  record.delegations.map AgentDelegationRow.toNewDelegation

/-- The rows of a record are those of an earlier one and what the dispatches produced; their calls
are those of the transcript since, in order, but for the last few. -/
structure Accounts (start record : AgentRunRecord) (dispatches : List Dispatch)
    (remaining : List AgentToolCall) :
    Prop where
  toolCalls : record.toolCalls = start.toolCalls ++ (dispatches.map Dispatch.call ++ remaining)
  toolRuns : record.toolRuns = start.toolRuns ++ dispatches.flatMap Dispatch.toolRuns
  delegations : record.started = start.started ++ dispatches.flatMap Dispatch.delegations

section

variable {libraries : Libraries} {env : RuntimeEnvironment} {scope : AgentRunScope}
  {grant : ResolvedToolGrant}
  {start : AgentRunRecord}

/-- All effects so far are accounted for by confined dispatches, and some calls are still to
come. -/
def Confines (libraries : Libraries) (grant : ResolvedToolGrant) (start : AgentRunRecord)
    (remaining : List AgentToolCall) (record : AgentRunRecord) : Prop :=
  ∃ dispatches, Accounts start record dispatches remaining ∧
    ∀ dispatch ∈ dispatches, dispatch.Confined libraries grant

/-- The same, wherever the run was cut off. -/
def ConfinesSome (libraries : Libraries) (grant : ResolvedToolGrant)
    (start record : AgentRunRecord) : Prop :=
  ∃ remaining, Confines libraries grant start remaining record

theorem Confines.refl : Confines libraries grant start [] start :=
  ⟨[], ⟨by simp, by simp, by simp⟩, nofun⟩

variable {remaining : List AgentToolCall}

theorem Confines.of_eq {record later} (confines : Confines libraries grant start remaining record)
    (toolCalls : later.toolCalls = record.toolCalls) (toolRuns : later.toolRuns = record.toolRuns)
    (started : later.started = record.started) :
    Confines libraries grant start remaining later := by
  obtain ⟨dispatches, accounts, confined⟩ := confines
  exact ⟨dispatches, ⟨toolCalls.trans accounts.toolCalls, toolRuns.trans accounts.toolRuns,
    started.trans accounts.delegations⟩, confined⟩

variable {record : AgentRunRecord}

theorem Confines.cut (confines : Confines libraries grant start remaining record) (calls : ℕ) :
    ConfinesSome libraries grant start { record with calls := calls } :=
  ⟨remaining, confines.of_eq rfl rfl rfl⟩

variable {rest : List AgentToolCall}

theorem Confines.add {dispatch : Dispatch} {record later : AgentRunRecord}
    (confined : dispatch.Confined libraries grant)
    (confines : Confines libraries grant start (dispatch.call :: rest) record)
    (toolCalls : later.toolCalls = record.toolCalls)
    (toolRuns : later.toolRuns = record.toolRuns ++ dispatch.toolRuns)
    (started : later.started = record.started ++ dispatch.delegations) :
    Confines libraries grant start rest later := by
  obtain ⟨dispatches, accounts, all⟩ := confines
  refine ⟨dispatches ++ [dispatch], ⟨?_, ?_, ?_⟩, ?_⟩
  · rw [toolCalls, accounts.toolCalls]
    simp
  · rw [toolRuns, accounts.toolRuns]
    simp
  · rw [started, accounts.delegations]
    simp
  · exact List.forall_mem_append.mpr ⟨all, List.forall_mem_singleton.mpr confined⟩

variable {call : AgentToolCall}

theorem Confines.skip (confines : Confines libraries grant start (call :: rest) record) :
    Confines libraries grant start rest record :=
  confines.add (.nothing call) rfl (List.append_nil _).symm (List.append_nil _).symm

theorem Confines.message (confines : Confines libraries grant start [] record)
    (row : AgentRunMessageRow) (calls : ℕ) :
    Confines libraries grant start row.toolCalls
      { record with messages := record.messages ++ [row], calls := calls } := by
  obtain ⟨dispatches, accounts, confined⟩ := confines
  refine ⟨dispatches, ⟨?_, accounts.toolRuns, accounts.delegations⟩, confined⟩
  have before := accounts.toolCalls
  rw [AgentRunRecord.toolCalls] at before ⊢
  rw [List.flatMap_append, before]
  simp

variable (libraries grant start) in
/-- A program after which the calls still to come are others, wherever it is cut off. -/
abbrev Takes {α : Type} (program : Runtime α) (calls rest : List AgentToolCall) : Prop :=
  Ensures AnyStep (Confines libraries grant start calls) program
    (fun _ => Confines libraries grant start rest) (ConfinesSome libraries grant start)

variable (libraries grant start) in
/-- A program that makes the next call, whether it returns or raises. -/
abbrev Makes {α : Type} (program : Runtime α) (call : AgentToolCall) (rest : List AgentToolCall) :
    Prop :=
  Ensures AnyStep (Confines libraries grant start (call :: rest)) program
    (fun _ => Confines libraries grant start rest) (Confines libraries grant start rest)

/-! ## Repository calls -/

theorem confines_appendEvent (eventType payload) :
    Takes libraries grant start (appendEvent env eventType payload) remaining remaining :=
  ensures_write (fun _ confines => ⟨trivial, confines.of_eq rfl rfl rfl⟩) fun _ confines =>
    ⟨trivial, confines.cut _⟩

theorem confines_appendMessage {msg} (silent : msg.toolCalls = []) :
    Takes libraries grant start (appendMessage env msg) remaining remaining := by
  refine ensures_write (fun record confines => ⟨trivial, confines.of_eq ?_ rfl rfl⟩)
    fun _ confines => ⟨trivial, confines.cut _⟩
  rw [AgentRunRecord.toolCalls, AgentRunRecord.toolCalls, List.flatMap_append]
  simp [silent]

/-! ## Dispatch -/

theorem confines_updateDelegationResult (agentDelegationId st childAgentRunId err) :
    Preserves (Confines libraries grant start remaining)
      (updateDelegationResult env agentDelegationId st childAgentRunId err) := by
  refine ensures_write (fun record confines => ⟨trivial, confines.of_eq rfl rfl ?_⟩)
    fun _ confines => ⟨trivial, confines.of_eq rfl rfl rfl⟩
  rw [AgentRunRecord.started, AgentRunRecord.started, List.map_map]
  refine List.map_congr_left fun row _ => ?_
  rw [Function.comp_apply]
  split <;> rfl

theorem confines_delegate {req : A2ADelegationRequest} (name : call.name = delegationToolName)
    (ok : grant.allowAgentDelegation = true)
    (target : req.targetAgentId ∈ grant.delegateAgentIds) :
    Makes libraries grant start (delegate libraries env req) call rest := by
  refine .bind (.raiseIf _ _ fun _ confines => confines.skip) fun _ => ?_
  refine .bind (ensures_freshUuid fun _ => trivial) fun taskUuid => ?_
  refine .bind (ensures_freshUuid fun _ => trivial) fun uuid => ?_
  refine .bind (Q := fun _ => Confines libraries grant start rest) (ensures_write ?_ ?_) fun _ => ?_
  · intro later confines
    have confined : Dispatch.Confined libraries grant
        ⟨call, [], [req.newDelegation libraries uuid taskUuid]⟩ := .delegation name ok target
    exact ⟨trivial, confines.add confined rfl (List.append_nil _).symm
      (by simp [AgentRunRecord.started])⟩
  · exact fun _ confines => ⟨trivial, confines.skip.of_eq rfl rfl rfl⟩
  · refine ensures_catchException (Q := fun _ => Confines libraries grant start rest)
      (.ofExcept _ fun _ confines => confines)
      (fun _ confines => confines) (fun raised => ?_) fun res => ?_
    · exact .bind (confines_updateDelegationResult _ _ _ _) fun _ =>
        .raised fun _ confines => confines
    · exact .bind (confines_updateDelegationResult _ _ _ _) fun _ =>
        .done fun _ confines => confines

theorem confines_dispatchDelegation (name : call.name = delegationToolName) (rest) :
    Makes libraries grant start (dispatchDelegation libraries env scope grant call) call rest := by
  have nothing (out : ToolCallOutcome) : Makes libraries grant start (.done out) call rest :=
    .done fun _ confines => confines.skip
  unfold dispatchDelegation
  dsimp only
  split
  · exact nothing _
  · split
    · exact nothing _
    · split
      · exact nothing _
      · rename_i permitted
        split
        · exact nothing _
        · rw [Bool.not_eq_false, ResolvedToolGrant.isDelegationAllowedFor, Bool.and_eq_true,
            decide_eq_true_eq] at permitted
          exact ensures_catchException (confines_delegate name permitted.1 permitted.2)
            (fun _ confines => confines)
            (fun _ => .done fun _ confines => confines) fun _ => .done fun _ confines => confines

theorem confines_runTool {binding} (calls : CallsTool libraries grant call binding) (rest) :
    Makes libraries grant start (runTool libraries env scope call binding) call rest := by
  refine .bind (ensures_freshUuid fun _ => trivial) fun uuid => ?_
  refine .bind (Q := fun _ => Confines libraries grant start rest) (ensures_write ?_ ?_) fun _ => ?_
  · intro later confines
    exact ⟨trivial, confines.add (.tool calls rfl rfl) rfl rfl (List.append_nil _).symm⟩
  · exact fun _ confines => ⟨trivial, confines.skip.of_eq rfl rfl rfl⟩
  · exact ensures_catchException (Q := fun _ => Confines libraries grant start rest)
      (.ofExcept _ fun _ confines => confines)
      (fun _ confines => confines) (fun _ => .done fun _ confines => confines) fun _ =>
        .done fun _ confines => confines

theorem callsTool_of_bindingFor {binding}
    (delegates : call.name ≠ delegationToolName) (found : grant.bindingFor call.name = some binding)
    (valid : libraries.validate binding.requestSchema call.arguments = .valid) :
    CallsTool libraries grant call binding :=
  ⟨List.mem_of_find?_eq_some found, by simpa using List.find?_some found, delegates, valid⟩

/-- **One call adds at most what the grant allows it.** -/
theorem confines_dispatch (call rest) :
    Makes libraries grant start (dispatch libraries env scope grant call) call rest := by
  unfold dispatch
  split
  · rename_i name
    exact confines_dispatchDelegation name rest
  · rename_i delegates
    split
    · exact .done fun _ confines => confines.skip
    · rename_i binding found
      split
      · exact .raised fun _ confines => confines.skip
      · exact .done fun _ confines => confines.skip
      · rename_i valid
        exact confines_runTool (callsTool_of_bindingFor delegates found valid) rest

/-! ## The loop -/

variable (iteration : ℕ)

theorem confines_recordToolOutcome (out : ToolCallOutcome) :
    Takes libraries grant start (recordToolOutcome libraries env iteration out) remaining
      remaining := by
  unfold recordToolOutcome
  dsimp only
  split <;> exact confines_appendEvent _ _

theorem confines_dispatchCalls (calls st) :
    Takes libraries grant start (dispatchCalls libraries env scope grant iteration calls st)
      calls [] := by
  induction calls generalizing st with
  | nil => exact .done fun _ confines => confines
  | cons call rest ih =>
    refine .bind (confines_appendEvent _ _) fun _ => ?_
    refine .bind
      ((confines_dispatch call rest).imp (fun _ confines => confines) (fun _ _ confines => confines)
      fun _ confines => ⟨rest, confines⟩) fun out => ?_
    refine .bind (confines_recordToolOutcome _ _) fun _ => ?_
    exact .bind (confines_appendMessage rfl) fun _ => ih _

/-- The calls of a turn come to the transcript before they are dispatched. -/
theorem confines_recordTurn (completion : AgentTurnCompletion) :
    Takes libraries grant start (recordTurn env iteration completion) [] completion.toolCalls :=
  .bind (confines_appendEvent _ _) fun _ =>
    ensures_write (fun _ confines => ⟨trivial, confines.message _ _⟩) fun _ confines =>
      ⟨trivial, confines.cut _⟩

theorem confines_seedTranscript (promptParts) :
    Takes libraries grant start (seedTranscript env promptParts) [] [] := by
  induction promptParts with
  | nil => exact .done fun _ confines => confines
  | cons part rest ih => exact .bind (confines_appendMessage rfl) fun _ => ih

/-- Between two turns all calls of the transcript have been dispatched. -/
theorem confines_runTurns (flow turns iter st) :
    Takes libraries grant start (runTurns libraries env scope flow grant iter turns st) [] [] := by
  induction turns generalizing iter st with
  | zero => exact .done fun _ confines => confines
  | succ turns ih =>
    refine .bind (confines_appendEvent _ _) fun _ => ?_
    refine .bind (Q := fun _ => Confines libraries grant start [])
      (.update (fun _ _ => trivial) fun _ confines => confines.of_eq rfl rfl rfl) fun _ => ?_
    split
    · exact .bind (confines_appendEvent _ _) fun _ => .done fun _ confines => confines
    · exact .raised fun _ confines => ⟨[], confines⟩
    · rename_i completion answered
      refine .bind (confines_recordTurn iter completion) fun _ => ?_
      dsimp only
      split
      · rename_i silent
        rw [silent]
        exact .done fun _ confines => confines
      · exact .bind (confines_dispatchCalls _ _ _) fun _ => ih _ _

theorem confines_runLoop (flow promptParts maxIterations) :
    Ensures AnyStep (Confines libraries grant start [])
      (runLoop libraries env scope flow grant promptParts maxIterations)
      (fun _ => ConfinesSome libraries grant start) (ConfinesSome libraries grant start) :=
  .bind (confines_seedTranscript promptParts) fun _ =>
    (confines_runTurns flow maxIterations 1 _).imp (fun _ before => before)
      (fun _ _ later => ⟨[], later⟩)
      fun _ raised => raised

end

/-- **The grant confines the model.** Whatever the model, the tools and the repository do, every
tool run and every delegation of a run comes from a call of its transcript: a tool run is one of a
tool in the grant with the called name, on arguments that its schema accepts; a delegation goes to
an agent of the grant; every other call produces neither. -/
theorem grant_confines_model (libraries : Libraries) (env : RuntimeEnvironment)
    (scope : AgentRunScope)
    (definition : AgentDefinition) (grant : ResolvedToolGrant)
      (promptParts : List AgentRunPromptPart)
    (maxIterations : ℕ) (start : AgentRunRecord) :
    ∃ dispatches remaining,
      Accounts start
        (after (runLoop libraries env scope definition grant promptParts maxIterations).run start)
        dispatches remaining ∧
      ∀ dispatch ∈ dispatches, dispatch.Confined libraries grant := by
  have confines : Ensures AnyStep (Confines libraries grant start [])
      (runLoop libraries env scope definition grant promptParts maxIterations)
      (fun _ => ConfinesSome libraries grant start) (ConfinesSome libraries grant start) :=
    confines_runLoop definition promptParts maxIterations
  obtain ⟨remaining, dispatches, accounts, confined⟩ := confines.triple.after Confines.refl
  exact ⟨dispatches, remaining, accounts, confined⟩

end AgentOrchestration.AgentRuntime
