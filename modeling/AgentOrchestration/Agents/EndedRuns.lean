import AgentOrchestration.Agents.TerminalStates

/-!
# Runs that are not ended

`_execute` resolves the definition and the grant and builds the prompt before it marks the run as
running, and only the loop stands in its `try`. What is raised before it leaves the run as it was.
-/

namespace AgentOrchestration.AgentRuntime

set_option autoImplicit false

open Interleaving (Thread)
open Program (bind_of_ok attempt)

variable (runner : Runner) (run : StoredRun)

/-- What the run is executed with, once the steps before it have returned. -/
structure Prepared where
  definition : AgentDefinition
  grant : ResolvedToolGrant
  promptParts : List AgentRunPromptPart

/-- `_execute`, with what the steps before the run return or raise. -/
def executeAfter (prepared : Except RuntimeError Prepared) : Runtime AgentLoopResult := do
  let _ ← getAgentRun runner.env
  let ⟨definition, grant, promptParts⟩ ← Thread.ofExcept prepared
  executeResolved { runner with promptParts := fun _ _ => promptParts } run definition grant

def prepare (tables : Tables) : Except RuntimeError Prepared :=
  ((resolveExecution runner.libraries tables run).mapError raisedBy).map fun resolved =>
    ⟨resolved.1, resolved.2, runner.promptParts resolved.1 resolved.2⟩

theorem execute_eq (tables : Tables) :
    execute runner run tables = executeAfter runner run (prepare runner run tables) := by
  unfold execute executeAfter prepare
  cases resolveExecution runner.libraries tables run with
  | error raised => rfl
  | ok resolved => rfl

section

variable {α β : Type} {body : Runtime α} {handle : RuntimeError → Runtime β} {go : α → Runtime β}
  {record next : AgentRunRecord}

theorem run_catchException_of_ok {value : α} (ran : body.run record = .ok value next) :
    (catchException body handle go).run record = (go value).run next := by
  have attempted : attempt body.run record = .ok (.ok value) next := by
    rw [attempt, ran]
  rw [catchException, Thread.run_bind, Thread.run_attempt, bind_of_ok attempted]

theorem run_catchException_of_error {raised : RuntimeError}
    (ran : body.run record = .error raised next) :
    (catchException body handle go).run record =
      if raised = .cancelled then .error .cancelled next else (handle raised).run next := by
  have attempted : attempt body.run record = .ok (.error raised) next := by
    rw [attempt, ran]
  rw [catchException, Thread.run_bind, Thread.run_attempt, bind_of_ok attempted]
  cases raised <;> rfl

end

def Ends {α : Type} : EStateM.Result RuntimeError AgentRunRecord α → Prop
  | .ok _ after => isTerminal after.canonicalStatus = true
  | .error raised after => raised ≠ .cancelled → isTerminal after.canonicalStatus = true

section

variable {env : RuntimeEnvironment} (sound : ∀ calls, env.fault calls = none)

include sound

theorem run_write (f record) :
    (write env f).run record = .ok ⟨⟩ { f record with calls := record.calls + 1 } := by
  refine (congrFun (Thread.run_atomic _) record).trans ?_
  simp only [sound]

/-- The two writes with which an execution ends. -/
theorem run_finish (columns eventType payload record) : ∃ after, after.run = columns ∧
      (finishAgentRun env columns >>= fun _ => appendEvent env eventType payload).run record =
        .ok ⟨⟩ after := by
  rw [Thread.run_bind]
  exact ⟨_, rfl, (bind_of_ok (run_write sound _ record)).trans (run_write sound _ _)⟩

theorem ends_failure (raised record) :
    Ends ((finalizeFailure env raised >>= fun _ => (.raised raised : Runtime AgentLoopResult)).run
      record) := by
  obtain ⟨after, columns, ran⟩ := run_finish sound (failureColumns raised) .agentRunFailed
    [("error", .str raised.name)] record
  have failed : (finalizeFailure env raised).run record = .ok ⟨⟩ after := ran
  rw [Thread.run_bind, bind_of_ok failed]
  intro _
  rw [AgentRunRecord.canonicalStatus, columns]
  rfl

theorem ends_finalize (result record) :
    Ends ((finalize env result >>= fun _ => return result).run record) := by
  have stored : ∃ next, (storeOutput env result).run record = .ok ⟨⟩ next := by
    unfold storeOutput
    split
    · exact ⟨_, run_write sound _ record⟩
    · exact ⟨record, rfl⟩
  obtain ⟨next, stored⟩ := stored
  obtain ⟨after, columns, ran⟩ := run_finish sound result.columns _ _ next
  have finalized : (finalize env result).run record = .ok ⟨⟩ after := by
    rw [finalize, Thread.run_bind]
    exact (bind_of_ok stored).trans ran
  rw [Thread.run_bind, bind_of_ok finalized]
  show isTerminal after.run.canonicalStatus = true
  rw [columns, AgentLoopResult.columns]
  dsimp only
  split <;> rfl

end

theorem ends_executeResolved (sound : ∀ calls, runner.env.fault calls = none)
    (definition grant record) :
    Ends ((executeResolved runner run definition grant).run record) := by
  rw [executeResolved, Thread.run_bind, markRunning, bind_of_ok (run_write sound _ record)]
  generalize AgentRunRecord.mk _ _ _ _ _ _ _ _ = marked, runLoop _ _ _ _ _ _ _ = loop
  cases looped : loop.run marked with
  | ok result next =>
    rw [run_catchException_of_ok looped]
    exact ends_finalize sound result next
  | error raised next =>
    rw [run_catchException_of_error looped]
    split
    · exact fun ordinary => absurd rfl ordinary
    · exact ends_failure sound raised next

/-- **When an execution ends its run**: exactly if the definition, the grant and the prompt are
there, or the wait for them was cancelled, or the run had ended before. -/
theorem execution_ends_iff (sound : ∀ calls, runner.env.fault calls = none)
    (prepared : Except RuntimeError Prepared) (record : AgentRunRecord) :
    Ends ((executeAfter runner run prepared).run record) ↔
      prepared.isOk = true ∨ prepared = .error .cancelled ∨
        isTerminal record.canonicalStatus = true := by
  have read : (getAgentRun runner.env).run record =
      .ok record.run { record with calls := record.calls + 1 } := by
    refine (congrFun (Thread.run_atomic _) record).trans ?_
    simp only [sound]
  rw [executeAfter, Thread.run_bind, bind_of_ok read]
  cases prepared with
  | error raised =>
    show (raised ≠ .cancelled → isTerminal record.canonicalStatus = true) ↔ _
    simp [Except.isOk, Except.toBool, imp_iff_not_or]
  | ok prepared =>
    obtain ⟨definition, grant, promptParts⟩ := prepared
    exact iff_of_true
      (ends_executeResolved { runner with promptParts := fun _ _ => promptParts } run
      sound definition grant _) (.inl rfl)

theorem resolved_run_ends :
    Ends ((executeAfter answeringRunner plainRun (prepare answeringRunner plainRun plainAgent)).run
      newRecord) :=
  (execution_ends_iff answeringRunner plainRun (fun _ => rfl) _ newRecord).mpr (.inl rfl)

def unboundRun : StoredRun :=
  { plainRun with toolGrant := ⟨[⟨"search", 8, 9, "search"⟩], false, []⟩ }

/-- Its execution raises, and the run stays as it was created. -/
theorem unbound_run_stays_created : ∃ raised after,
    (execute answeringRunner unboundRun plainAgent).run newRecord = .error raised after ∧
      raised ≠ .cancelled ∧ after.canonicalStatus = .created :=
  ⟨_, _, rfl, RuntimeError.noConfusion, rfl⟩

end AgentOrchestration.AgentRuntime
