import AgentOrchestration.Agents.AgentRunService
import AgentOrchestration.Library.Teams

/-!
# Cancelling a run while it executes

The execution of a run and any number of cancellations write its status without looking at what
it is at that moment. The status follows `agent_transitions` exactly as long as no write of the
execution meets a cancelled run and no write of a cancellation meets a run that has finished.
-/

namespace AgentOrchestration.AgentRuntime

set_option autoImplicit false

open Agents (AgentRunStatus)
open Interleaving (Thread Pool Move Team Tolerates)
open Interleaving.Thread (Steps Honours)
open LabelledSystem (trace)

def agentTransitions : AgentRunStatus → List AgentRunStatus
  | .created => [.running, .failed, .cancelled]
  | .running => [.completed, .failed, .cancelled]
  | .completed => []
  | .failed => []
  | .cancelled => []

/-- The status stays, or changes as `agent_transitions` allows; a terminal status only stays. -/
def Permitted (status later : AgentRunStatus) : Prop :=
  later = status ∨ later ∈ agentTransitions status

instance (status later : AgentRunStatus) : Decidable (Permitted status later) :=
  inferInstanceAs (Decidable (later = status ∨ later ∈ agentTransitions status))

theorem permitted_of_terminal {status later} (terminal : isTerminal status = true)
    (permitted : Permitted status later) : later = status := by
  rcases permitted with eq | ok
  · exact eq
  · cases status with
    | created | running => cases terminal
    | completed | failed | cancelled => cases ok

def AgentRunRecord.canonicalStatus (record : AgentRunRecord) : AgentRunStatus :=
  record.run.canonicalStatus

/-! ## The actors -/

/-- Who takes a step. -/
inductive Actor where
  | execution
  | cancellation
  deriving DecidableEq, Repr

def Actor.writes : Actor → List AgentRunStatus
  | .execution => [.running, .completed, .failed]
  | .cancellation => [.cancelled]

variable (env : RuntimeEnvironment)

/-- Cancellations may be started at any time. -/
def cancellations : Actor → List (Runtime PUnit)
  | .execution => []
  | .cancellation => [cancelAgentRun env >>= fun _ => .done ⟨⟩]

def executing (runner : Runner) (run : StoredRun) (tables : Tables) :
    Pool AgentRunRecord RuntimeError PUnit Actor :=
  Pool.put ⟨newRecord, [], []⟩ .execution (execute runner run tables >>= fun _ => .done ⟨⟩)

/-- A write of the run's row that goes through meets the status that it may replace: a write of the
execution does not meet a cancelled run, and a write of a cancellation does not meet one that has
finished. -/
def Timely (pool : Pool AgentRunRecord RuntimeError PUnit Actor) : Move Actor → Prop
  | .start _ => True
  | .drop _ => True
  | .advance index => ∀ actor write next, pool.running[index]? = some (actor, .act write next) →
      (∃ record, (write record).run ≠ record.run) → env.fault pool.shared.calls = none →
      match actor with
      | .execution => pool.shared.canonicalStatus ≠ .cancelled
      | .cancellation =>
        pool.shared.canonicalStatus ≠ .completed ∧ pool.shared.canonicalStatus ≠ .failed

/-! ## What the actors rely on -/

/-- What others may do to the status between the steps of an actor. -/
def statusRely : Actor → AgentRunRecord → AgentRunRecord → Prop
  | .execution, record, later =>
    later.canonicalStatus = record.canonicalStatus ∨ later.canonicalStatus = .cancelled
  | .cancellation, _, _ => True

def statusLaw : Actor → AgentRunRecord → AgentRunRecord → Prop
  | .execution, record, later =>
    record.canonicalStatus = .cancelled ∨ Permitted record.canonicalStatus later.canonicalStatus
  | .cancellation, record, later =>
    later.canonicalStatus = record.canonicalStatus ∨ later.canonicalStatus = .cancelled

/-- The step leaves the row of the run alone. -/
def KeepsRun (write : AgentRunRecord → AgentRunRecord) : Prop :=
  ∀ record, (write record).run = record.run

def WritesStatus (status : AgentRunStatus) (write : AgentRunRecord → AgentRunRecord) :
    Prop :=
  ∀ record, (env.fault record.calls = none → (write record).canonicalStatus = status) ∧
    (env.fault record.calls ≠ none → (write record).run = record.run)

def statusKind (actor : Actor) (write : AgentRunRecord → AgentRunRecord) : Prop :=
  KeepsRun write ∨ ∃ status ∈ actor.writes, WritesStatus env status write

variable (actor : Actor)

theorem statusRely_refl (record : AgentRunRecord) : statusRely actor record record := by
  cases actor with
  | execution => exact .inl rfl
  | cancellation => trivial

theorem statusRely_trans (first second third : AgentRunRecord)
    (earlier : statusRely actor first second) (later : statusRely actor second third) :
    statusRely actor first third := by
  cases actor with
  | cancellation => trivial
  | execution =>
    rcases later with same | cancelled
    · rcases earlier with same' | cancelled
      · exact .inl (same.trans same')
      · exact .inr (same.trans cancelled)
    · exact .inr cancelled

theorem tolerates_cancellation :
    Tolerates statusRely statusLaw actor .cancellation ∧
      Tolerates statusRely statusLaw .cancellation actor := by
  refine ⟨?_, fun _ _ _ => trivial⟩
  cases actor with
  | execution => exact fun _ _ cancels => cancels
  | cancellation => exact fun _ _ _ => trivial

/-! ## Steps that leave the row alone -/

variable {env : RuntimeEnvironment} {f : AgentRunRecord → AgentRunRecord}

section

variable {libraries : Libraries} {scope : AgentRunScope} {grant : ResolvedToolGrant}

variable {kind : (AgentRunRecord → AgentRunRecord) → Prop}

theorem steps_write (isKind : ∀ write : AgentRunRecord → AgentRunRecord,
      (∀ record, env.fault record.calls = none →
        write record = { f record with calls := record.calls + 1 }) →
      (∀ record, env.fault record.calls ≠ none →
        write record = { record with calls := record.calls + 1 }) →
      kind write) : (write env f).Steps kind := by
  refine .atomic (isKind _ ?_ ?_)
  · intro record healthy
    simp only [Program.after, healthy]
  · intro record faulty
    cases fault : env.fault record.calls with
    | none => exact absurd fault faulty
    | some raised => simp only [Program.after, fault]

theorem keepsRun_write (keeps : ∀ record, (f record).run = record.run) :
    (write env f).Steps KeepsRun := by
  refine steps_write fun write writes raises record => ?_
  by_cases healthy : env.fault record.calls = none
  · rw [writes record healthy]
    exact keeps record
  · rw [raises record healthy]

theorem keepsRun_getAgentRun : (getAgentRun env).Steps KeepsRun := by
  refine .atomic fun record => ?_
  cases fault : env.fault record.calls with
  | none | some raised => simp only [Program.after, fault]

theorem keepsRun_catchException {α β : Type} {body : Runtime α} {handle : RuntimeError → Runtime β}
    {go : α → Runtime β} (inner : body.Steps kind) (handles : ∀ raised, (handle raised).Steps kind)
    (goes : ∀ val, (go val).Steps kind) :
    (catchException body handle go).Steps kind := by
  refine .bind (fun res => ?_) (Steps.attempt inner)
  cases res with
  | ok val => exact goes val
  | error raised =>
    cases raised with
    | cancelled => trivial
    | domainValidation msg errors | exception name text => exact handles _

theorem keepsRun_freshUuid {uuid4} : (freshUuid uuid4).Steps KeepsRun := .read fun _ => rfl

theorem keepsRun_delegate (req : A2ADelegationRequest) :
    (delegate libraries env req).Steps KeepsRun := by
  refine .bind (fun _ => ?_) (.raiseIf _ _)
  refine .bind (fun taskUuid => ?_) keepsRun_freshUuid
  refine .bind (fun uuid => ?_) keepsRun_freshUuid
  refine .bind (fun _ => ?_) (keepsRun_write fun _ => rfl)
  refine keepsRun_catchException (.ofExcept _) (fun raised => ?_) fun res => ?_ <;>
    exact .bind (fun _ => trivial) (keepsRun_write fun _ => rfl)

theorem keepsRun_dispatch (call : AgentToolCall) :
    (dispatch libraries env scope grant call).Steps KeepsRun := by
  unfold dispatch
  split
  · unfold dispatchDelegation
    dsimp only
    split
    · trivial
    · split
      · trivial
      · split
        · trivial
        · split
          · trivial
          · exact keepsRun_catchException (keepsRun_delegate _) (fun _ => trivial) fun _ => trivial
  · split
    · trivial
    · split
      · trivial
      · trivial
      · refine .bind (fun uuid => ?_) keepsRun_freshUuid
        refine .bind (fun _ => ?_) (keepsRun_write fun _ => rfl)
        exact keepsRun_catchException (.ofExcept _) (fun _ => trivial) fun _ => trivial

variable (iteration : ℕ)

theorem keepsRun_recordToolOutcome (out : ToolCallOutcome) :
    (recordToolOutcome libraries env iteration out).Steps KeepsRun := by
  unfold recordToolOutcome
  dsimp only
  split <;> exact keepsRun_write fun _ => rfl

theorem keepsRun_dispatchCalls (calls st) :
    (dispatchCalls libraries env scope grant iteration calls st).Steps KeepsRun := by
  induction calls generalizing st with
  | nil => trivial
  | cons call rest ih =>
    refine .bind (fun _ => ?_) (keepsRun_write fun _ => rfl)
    refine .bind (fun out => ?_) (keepsRun_dispatch call)
    refine .bind (fun _ => ?_) (keepsRun_recordToolOutcome iteration out)
    exact .bind (fun _ => ih _) (keepsRun_write fun _ => rfl)

variable (definition : AgentDefinition)

theorem keepsRun_runTurns (turns iter : ℕ) (st : LoopState) :
    (runTurns libraries env scope definition grant iter turns st).Steps KeepsRun := by
  induction turns generalizing iter st with
  | zero => trivial
  | succ turns ih =>
    refine .bind (fun _ => ?_) (keepsRun_write fun _ => rfl)
    refine .bind (fun _ => ?_) (.update fun _ => rfl)
    split
    · exact .bind (fun _ => trivial) (keepsRun_write fun _ => rfl)
    · trivial
    · refine .bind (fun _ => ?_)
        (.bind (fun _ => keepsRun_write fun _ => rfl) (keepsRun_write fun _ => rfl))
      dsimp only
      split
      · trivial
      · exact .bind (fun _ => ih _ _) (keepsRun_dispatchCalls _ _ _)

variable (promptParts : List AgentRunPromptPart)

theorem keepsRun_seedTranscript : (seedTranscript env promptParts).Steps KeepsRun := by
  induction promptParts with
  | nil => trivial
  | cons part rest ih => exact .bind (fun _ => ih) (keepsRun_write fun _ => rfl)

theorem keepsRun_runLoop (maxIterations : ℕ) :
    (runLoop libraries env scope definition grant promptParts maxIterations).Steps KeepsRun :=
  .bind (fun _ => keepsRun_runTurns definition _ _ _) (keepsRun_seedTranscript promptParts)

end

/-! ## The executions as teams -/

section

variable {α : Type} {t : Runtime α}

theorem steps_of_keepsRun {actor} (keeps : t.Steps KeepsRun) : t.Steps (statusKind env actor) :=
  keeps.mono fun _ keeps => .inl keeps

variable {status : AgentRunStatus}

theorem steps_writesStatus {actor} (member : status ∈ actor.writes)
    (sets : ∀ record, (f record).canonicalStatus = status) :
    (write env f).Steps (statusKind env actor) := by
  refine steps_write fun write writes raises =>
    .inr ⟨status, member, fun record => ⟨fun healthy => ?_, fun faulty => ?_⟩⟩
  · rw [writes record healthy]
    exact sets record
  · rw [raises record faulty]

theorem running_mem : AgentRunStatus.running ∈ Actor.writes .execution := by decide

theorem failed_mem : AgentRunStatus.failed ∈ Actor.writes .execution := by decide

theorem cancelled_mem : AgentRunStatus.cancelled ∈ Actor.writes .cancellation := by decide

variable (result : AgentLoopResult)

theorem columns_status :
    result.columns.canonicalStatus = .completed ∨ result.columns.canonicalStatus = .failed := by
  unfold AgentLoopResult.columns
  dsimp only
  split
  · exact .inl rfl
  · exact .inr rfl

theorem columns_status_mem : result.columns.canonicalStatus ∈ Actor.writes .execution := by
  rcases columns_status result with completed | failed
  · rw [completed]
    decide
  · rw [failed]
    exact failed_mem

theorem steps_finalize : (finalize env result).Steps (statusKind env .execution) := by
  refine .bind (fun _ => ?_) (steps_of_keepsRun ?_)
  · exact .bind (fun _ => steps_of_keepsRun (keepsRun_write fun _ => rfl))
      (steps_writesStatus (columns_status_mem result) fun _ => rfl)
  · unfold storeOutput
    split
    · exact keepsRun_write fun _ => rfl
    · trivial

theorem steps_execute (runner : Runner) (run : StoredRun) (tabs : Tables) :
    (execute runner run tabs).Steps (statusKind runner.env .execution) := by
  refine .bind (fun _ => ?_) (steps_of_keepsRun keepsRun_getAgentRun)
  refine .bind (fun found => ?_) (.ofExcept _)
  refine .bind (fun _ => ?_) (steps_writesStatus running_mem fun _ => rfl)
  refine keepsRun_catchException (steps_of_keepsRun (keepsRun_runLoop _ _ _)) (fun raised => ?_)
    fun res => ?_
  · refine .bind (fun _ => trivial) ?_
    exact .bind (fun _ => steps_of_keepsRun (keepsRun_write fun _ => rfl))
      (steps_writesStatus failed_mem fun _ => rfl)
  · exact .bind (fun _ => trivial) (steps_finalize res)

theorem steps_cancelAgentRun : (cancelAgentRun env).Steps (statusKind env .cancellation) := by
  refine .bind (fun read => ?_) (steps_of_keepsRun keepsRun_getAgentRun)
  refine .bind (fun _ => ?_) (.raiseIf _ _)
  refine .bind (fun _ => ?_) (steps_writesStatus cancelled_mem fun _ => rfl)
  exact .bind (fun _ => steps_of_keepsRun keepsRun_getAgentRun)
    (steps_of_keepsRun (keepsRun_write fun _ => rfl))

def AtMost (status : AgentRunStatus) (record : AgentRunRecord) : Prop :=
  record.canonicalStatus = status ∨ record.canonicalStatus = .cancelled

theorem AtMost.disturbed {status record later} (disturbed : statusRely .execution record later)
    (holds : AtMost status record) : AtMost status later := by
  rcases disturbed with eq | cancelled
  · rcases holds with is | cancelled
    · exact .inl (eq.trans is)
    · exact .inr (eq.trans cancelled)
  · exact .inr cancelled

variable {record : AgentRunRecord}

theorem honours_of_keepsRun (keeps : t.Steps KeepsRun) (holds : AtMost status record) :
    t.Honours (statusRely .execution) (statusLaw .execution) (fun _ => AtMost status) record := by
  refine keeps.honours ?_ (fun _ _ disturbed holds => holds.disturbed disturbed) holds
  intro write keeps record holds
  have eq : (write record).canonicalStatus = record.canonicalStatus :=
    congrArg AgentRunColumns.canonicalStatus (keeps record)
  refine ⟨.inr (.inl eq), ?_⟩
  rw [AtMost, eq]
  exact holds

theorem honours_write {status next} (ok : next ∈ agentTransitions status)
    (sets : ∀ record, (f record).canonicalStatus = next) (holds : AtMost status record) :
    (write env f).Honours (statusRely .execution) (statusLaw .execution)
      (fun out later => out = .ok ⟨⟩ → AtMost next later) record := by
  intro before disturbed
  have now := holds.disturbed disturbed
  cases fault : env.fault before.calls with
  | none =>
    simp only [Program.after, fault]
    refine ⟨?_, fun _ => .inl (sets before)⟩
    rcases now with is | cancelled
    · refine .inr (.inr ?_)
      rw [is]
      exact (sets before).symm ▸ ok
    · exact .inl cancelled
  | some raised =>
    simp only [Program.after, fault]
    refine ⟨.inr (.inl rfl), fun ended => ?_⟩
    cases ended

theorem honours_finish {columns eventType payload}
    (finished : columns.canonicalStatus = .completed ∨ columns.canonicalStatus = .failed)
    (holds : AtMost .running record) :
    (finishAgentRun env columns >>= fun _ => appendEvent env eventType payload).Honours
      (statusRely .execution)
      (statusLaw .execution) (fun _ _ => True) record := by
  have ok : columns.canonicalStatus ∈ agentTransitions .running := by
    rcases finished with done | failed
    · rw [done]
      decide
    · rw [failed]
      decide
  refine Honours.bind (fun _ later ended => ?_) (fun _ _ _ => trivial)
    (honours_write ok (fun _ => rfl) holds)
  have event : (appendEvent env eventType payload).Steps KeepsRun := keepsRun_write fun _ => rfl
  exact (honours_of_keepsRun event (ended rfl)).imp fun _ _ _ => trivial

theorem honours_executeResolved {runner run flow grant} (holds : AtMost .created record) :
    (executeResolved runner run flow grant).Honours (statusRely .execution) (statusLaw .execution)
      (fun _ _ => True) record := by
  have allowed : AgentRunStatus.running ∈ agentTransitions .created := by decide
  refine Honours.bind (fun _ started running => ?_) (fun _ _ _ => trivial)
    (honours_write allowed (fun _ => rfl) holds)
  refine Honours.bind (fun res ended left => ?_) (fun _ _ _ => trivial)
    (honours_of_keepsRun (keepsRun_runLoop _ _ _) (running rfl)).attempt
  obtain ⟨-, -, atMost⟩ := left
  cases res with
  | ok val =>
    refine Honours.andThen ?_ fun _ _ => trivial
    refine Honours.bind (fun _ stored atMost => ?_) (fun _ _ _ => trivial)
      (honours_of_keepsRun ?_ atMost)
    · exact honours_finish (columns_status val) atMost
    · unfold storeOutput
      split
      · exact keepsRun_write fun _ => rfl
      · trivial
  | error raised =>
    have fails :
        (finalizeFailure runner.env raised >>= fun _ =>
          (.raised raised : Runtime AgentLoopResult)).Honours
        (statusRely .execution) (statusLaw .execution) (fun _ _ => True) ended :=
      Honours.andThen (honours_finish (.inr rfl) atMost) fun _ _ => trivial
    cases raised with
    | cancelled => trivial
    | domainValidation msg errors | exception name text => exact fails

/-- **What an execution does to the status**, whatever cancellations do between its steps. -/
theorem honours_execute (runner run tabs) (holds : AtMost .created record) :
    (execute runner run tabs).Honours (statusRely .execution) (statusLaw .execution)
      (fun _ _ => True) record := by
  refine Honours.bind (fun _ read atMost => ?_) (fun _ _ _ => trivial)
    (honours_of_keepsRun keepsRun_getAgentRun holds)
  cases resolveExecution runner.libraries tabs run with
  | error raised => trivial
  | ok found => exact honours_executeResolved atMost

theorem honours_cancelAgentRun (record : AgentRunRecord) :
    (cancelAgentRun env).Honours (statusRely .cancellation) (statusLaw .cancellation)
      (fun _ _ => True) record := by
  refine steps_cancelAgentRun.honours (I := fun _ => True) ?_ (fun _ _ _ _ => trivial) trivial
  rintro write (keeps | ⟨status, member, writes⟩) before -
  · exact ⟨.inl (congrArg AgentRunColumns.canonicalStatus (keeps before)), trivial⟩
  · refine ⟨?_, trivial⟩
    by_cases healthy : env.fault before.calls = none
    · exact .inr (((writes before).1 healthy).trans (List.mem_singleton.mp member))
    · exact .inl (congrArg AgentRunColumns.canonicalStatus ((writes before).2 healthy))

end

/-! ## Every interleaving -/

section

variable {runner : Runner} {run : StoredRun}
  {pool later : Pool AgentRunRecord RuntimeError PUnit Actor}

abbrev RunTeam (env : RuntimeEnvironment) (pool : Pool AgentRunRecord RuntimeError PUnit Actor) :
    Prop :=
  Team statusRely statusLaw (statusKind env) pool

theorem runTeam_executing (runner : Runner) (run : StoredRun) (tabs : Tables) :
    RunTeam runner.env (executing runner run tabs) := by
  have empty : RunTeam runner.env ⟨newRecord, [], []⟩ := ⟨nofun, nofun, .nil⟩
  refine empty.put ?_ ?_ nofun
  · exact Honours.andThen (honours_execute runner run tabs (.inl rfl)) fun _ _ => trivial
  · exact .bind (fun _ => trivial) (steps_execute runner run tabs)

theorem runTeam_start (team : RunTeam env pool) (actor : Actor) :
    RunTeam env ((cancellations env actor).foldl
      (fun pool thread => pool.put actor thread) pool) := by
  cases actor with
  | execution => exact team
  | cancellation =>
    rw [cancellations, List.foldl_cons, List.foldl_nil]
    refine team.put ?_ ?_ fun entry _ => tolerates_cancellation entry.1
    · exact Honours.andThen (honours_cancelAgentRun _) fun _ _ => trivial
    · exact .bind (fun _ => trivial) steps_cancelAgentRun

variable {move : Move Actor}

theorem runTeam_step (team : RunTeam env pool)
    (ran : Interleaving.step (cancellations env) pool move = some later) :
    RunTeam env later := by
  cases move with
  | start actor =>
    cases ran
    exact runTeam_start team actor
  | advance idx =>
    obtain ⟨actor, write, next, found, rfl⟩ := Interleaving.step_advance ran
    exact (team.advance statusRely_refl statusRely_trans found).1
  | drop idx =>
    obtain ⟨-, rfl⟩ := Interleaving.step_drop ran
    exact team.drop idx

theorem permitted_iff_timely_advance {idx actor write next}
    (found : pool.running[idx]? = some (actor, .act write next))
    (lawful : statusLaw actor pool.shared (write pool.shared))
      (isKind : statusKind env actor write) :
    Permitted pool.shared.canonicalStatus (write pool.shared).canonicalStatus ↔
      Timely env pool (.advance idx) := by
  constructor
  · rintro permitted actor' write' next' found' ⟨record, differs⟩ healthy
    obtain ⟨rfl, eq⟩ := Prod.mk.inj (Option.some.inj (found.symm.trans found'))
    obtain ⟨rfl, rfl⟩ := Thread.act.inj eq
    rcases isKind with keeps | ⟨status, member, writes⟩
    · exact absurd (keeps record) differs
    rw [(writes pool.shared).1 healthy] at permitted
    cases actor with
    | execution =>
      intro cancelled
      rw [cancelled] at permitted
      have kept := permitted_of_terminal rfl permitted
      subst kept
      revert member
      decide
    | cancellation =>
      rw [List.mem_singleton.mp member] at permitted
      constructor
      · intro done
        rw [done] at permitted
        cases permitted_of_terminal rfl permitted
      · intro failed
        rw [failed] at permitted
        cases permitted_of_terminal rfl permitted
  · intro timely
    by_cases eq : (write pool.shared).run = pool.shared.run
    · exact .inl (congrArg AgentRunColumns.canonicalStatus eq)
    rcases isKind with keeps | ⟨status, member, writes⟩
    · exact absurd (keeps pool.shared) eq
    have healthy : env.fault pool.shared.calls = none := by
      by_contra faulty
      exact eq ((writes pool.shared).2 faulty)
    have cond := timely actor write next found ⟨pool.shared, eq⟩ healthy
    cases actor with
    | execution =>
      rcases lawful with cancelled | permitted
      · exact absurd cancelled cond
      · exact permitted
    | cancellation =>
      rw [(writes pool.shared).1 healthy, List.mem_singleton.mp member]
      obtain ⟨done, failed⟩ := cond
      cases status : pool.shared.canonicalStatus with
      | created | running => decide
      | completed => exact absurd status done
      | failed => exact absurd status failed
      | cancelled => exact .inl rfl

/-- **One step changes the status as permitted exactly when it is timely.** -/
theorem permitted_iff_timely (team : RunTeam env pool)
    (ran : Interleaving.step (cancellations env) pool move = some later) :
    Permitted pool.shared.canonicalStatus later.shared.canonicalStatus ↔ Timely env pool move := by
  cases move with
  | start actor =>
    cases ran
    refine ⟨fun _ => trivial, fun _ => .inl ?_⟩
    cases actor with
    | execution => rfl
    | cancellation =>
      rw [cancellations, List.foldl_cons, List.foldl_nil, Interleaving.Pool.put_shared]
  | drop idx =>
    obtain ⟨-, rfl⟩ := Interleaving.step_drop ran
    exact ⟨fun _ => trivial, fun _ => .inl rfl⟩
  | advance idx =>
    obtain ⟨actor, write, next, found, rfl⟩ := Interleaving.step_advance ran
    obtain ⟨-, lawful, isKind⟩ := team.advance statusRely_refl statusRely_trans found
    rw [Interleaving.Pool.advance_shared]
    exact permitted_iff_timely_advance found lawful isKind

end

/-- **The status of a run follows `agent_transitions` along every interleaving** of its execution
with cancellations, and so never leaves a terminal status, exactly when every step of it is
timely. -/
theorem terminal_states_iff (runner : Runner) (run : StoredRun) (tables : Tables)
    (moves : List (Move Actor)) :
    (∀ t ∈ trace (Interleaving.step (cancellations runner.env)) (executing runner run tables) moves,
      Permitted t.before.shared.canonicalStatus t.after.shared.canonicalStatus) ↔
    ∀ t ∈ trace (Interleaving.step (cancellations runner.env)) (executing runner run tables) moves,
      Timely runner.env t.before t.action := by
  have teams :
      ∀ t ∈ trace (Interleaving.step (cancellations runner.env))
        (executing runner run tables) moves,
      RunTeam runner.env t.before ∧
        Interleaving.step (cancellations runner.env) t.before t.action = some t.after :=
    (LabelledSystem.guarded_invariant (G := fun _ _ => True)
      (fun _ _ _ team _ performed => runTeam_step team performed) moves
        _ (runTeam_executing runner run tables)
      fun _ _ => trivial).2
  refine forall₂_congr fun t member => ?_
  obtain ⟨team, performed⟩ := teams t member
  exact permitted_iff_timely team performed

/-! ## A cancelled run that completes -/

/-- A model that answers at once, and a repository that does not fail. -/
def answeringRunner : Runner :=
  { libraries := ⟨fun _ => "", fun _ => "", fun _ => "", fun _ => none, fun _ _ => .valid⟩
    env :=
      { completeAgentTurn := fun _ _ => .ok ⟨"answer", [], "stop", []⟩, turnCost := fun _ => 0
        executeAgentToolRun := fun _ => .error .cancelled, runA2ATask := fun _ => .error .cancelled
        uuid4 := id, taskUuid4 := id, fault := fun _ => none, maxDelegationDepth := 0 }
    defaultMaxIterations := 8, promptParts := fun _ _ => [] }

def plainAgent : Tables :=
  { agents := [⟨1, 1, none⟩], versions := [⟨2, 1, .published, true, some 3, true⟩]
    policyVersions := [⟨3, .published, 4⟩], models := [⟨4, "model"⟩],
    billingPolicyVersions := [⟨5, 1, true⟩]
    tools := [], toolConfigs := [], toolBindings := [], nextId := 6 }

def plainRun : StoredRun :=
  { agentRunId := 6, tenantId := 1, agentId := 1, agentVersionId := 2, correlationId := 7
    toolGrant := ⟨[], false, []⟩, maxIterations := 1, model := "model", billingPolicyVersionId := 5
    aiExecutionPolicyVersionId := 3, status := .created, canonicalStatus := .created,
    principalId := ""
    rootAgentRunId := none, delegationDepth := 0 }

/-- The run starts, a cancellation in another process reads and writes it, and the run goes on. -/
def cancelledMeanwhile : List (Move Actor) :=
  [.advance 0, .advance 0, .start .cancellation, .advance 1, .advance 1, .advance 0,
    .advance 1, .advance 1, .advance 1, .advance 1, .advance 1]

/-- **A cancelled run completes**: its execution writes its result over the cancellation. -/
theorem cancelled_run_completes : (AgentRunStatus.cancelled, AgentRunStatus.completed) ∈
      (trace (Interleaving.step (cancellations answeringRunner.env))
        (executing answeringRunner plainRun plainAgent)
        cancelledMeanwhile).map fun t =>
          (t.before.shared.canonicalStatus, t.after.shared.canonicalStatus) := by
  decide +kernel

end AgentOrchestration.AgentRuntime
