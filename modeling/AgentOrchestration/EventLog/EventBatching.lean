import AgentOrchestration.EventLog.AppendOrder
import AgentOrchestration.Execution.ResumeFlowRun

/-!
# Event batching around a call

`create_flow_run` and `resume_flow_run` switch batching on for their run and switch it off
in a `finally` block. Here a call is the sequence of what it does to the event log, with
the operations between that may raise; the runtime appends any events, in any overlap,
and returns when each of its appends has.
-/

namespace AgentOrchestration.EventLog

set_option autoImplicit false

open Execution (ServiceError Database FlowRunCreate RequestEnvironment ResumeStore ResumeCall
  ResumeSettings)
open EventSystem (appendEvent arrivals called setBuffer)
open Program (Triple Keeps withFinally)

/-! ## Awaiting sessions -/

/-- The statements a session has left. -/
def Stage.remaining : Stage → ℕ
  | .opened => 4
  | .named _ => 3
  | .locked _ => 2
  | .numbered _ _ => 1

namespace EventSystem

def remaining (system : EventSystem) : ℕ :=
  (system.sessions.map fun session => session.stage.remaining).sum

def ready (system : EventSystem) : Option ℕ :=
  (List.range system.sessions.length).find? fun index =>
    match system.sessions[index]? with
    | none => false
    | some session => !system.waits index session

/-- Sessions go on, as long as there is one that does not wait. -/
def settleFor (batchSize : ℤ) : ℕ → EventSystem → EventSystem
  | 0, system => system
  | fuel + 1, system =>
    match system.ready with
    | none => system
    | some index => settleFor batchSize fuel ((system.step batchSize (.advance index)).getD system)

/-- Every open session is awaited. -/
def settle (batchSize : ℤ) (system : EventSystem) : EventSystem :=
  system.settleFor batchSize system.remaining

end EventSystem

section

variable {system next : EventSystem} {batchSize : ℤ}

theorem waits_holds {idx : ℕ} {session} (waits : system.waits idx session = true) :
    session.holds = false ∧ ∃ other ∈ system.sessions, other.holds = true := by
  simp only [EventSystem.waits, Bool.and_eq_true, List.any_eq_true] at waits
  obtain ⟨⟨named, -⟩, other, member, holds⟩ := waits
  refine ⟨?_, other, List.mem_of_mem_eraseIdx member, ?_⟩
  · unfold Session.holds
    cases stage : session.stage <;> simp_all
  · simp only [Session.holdsFor, Bool.and_eq_true] at holds
    exact holds.2

theorem ready_of_open (some : system.sessions ≠ []) : ∃ index,
    system.ready = Option.some index := by
  by_contra none
  have stuck : system.ready = Option.none := by
    cases found : system.ready with
    | none => rfl
    | some index => exact absurd ⟨index, found⟩ none
  have waiting : ∀ session ∈ system.sessions, ∃ index, system.waits index session = true := by
    intro session mem
    obtain ⟨index, inside, rfl⟩ := List.getElem_of_mem mem
    have blocked := List.find?_eq_none.mp stuck index (List.mem_range.mpr inside)
    rw [List.getElem?_eq_getElem inside] at blocked
    exact ⟨index, by simpa using blocked⟩
  obtain ⟨first, mem⟩ := List.exists_mem_of_ne_nil _ some
  obtain ⟨index, waits⟩ := waiting first mem
  obtain ⟨-, other, inside, holds⟩ := waits_holds waits
  obtain ⟨index', waits'⟩ := waiting other inside
  rw [(waits_holds waits').1] at holds
  cases holds

theorem advanced_remaining {left right session} (split : system.sessions = left ++ session :: right)
    (advanced : Advanced system left session right next) : next.remaining < system.remaining := by
  have before : system.remaining
      = ((left ++ session :: right).map fun session => session.stage.remaining).sum := by
    rw [EventSystem.remaining, split]
  have replaced : ∀ stage : Stage, stage.remaining < session.stage.remaining →
      ((left ++ { session with stage } :: right).map fun session => session.stage.remaining).sum
        < system.remaining := by
    intro stage less
    simp only [before, List.map_append, List.map_cons, List.sum_append, List.sum_cons]
    omega
  have removed : 0 < session.stage.remaining →
      ((left ++ right).map fun session => session.stage.remaining).sum < system.remaining := by
    intro positive
    simp only [before, List.map_append, List.map_cons, List.sum_append, List.sum_cons]
    omega
  cases advanced with
  | named userId stage | locked userId stage free | numbered userId stage =>
    exact replaced _ (by simp [stage, Stage.remaining])
  | raised stage unknown | committed userId nextSeq stage =>
    exact removed (by simp [stage, Stage.remaining])

theorem step_ready {idx : ℕ} (found : system.ready = some idx) :
    ∃ next, system.step batchSize (.advance idx) = some next ∧
      next.remaining < system.remaining := by
  have ready := List.find?_some found
  cases entry : system.sessions[idx]? with
  | none => simp [entry] at ready
  | some session =>
    simp only [entry, Bool.not_eq_eq_eq_not, Bool.not_true] at ready
    obtain ⟨next, performed⟩ : ∃ next, system.step batchSize (.advance idx) = some next := by
      rw [EventSystem.step]
      simp only [entry, ready, Bool.false_eq_true, if_false]
      cases session.execute system.tables <;> exact ⟨_, rfl⟩
    obtain ⟨_, left, right, split, -, -, advanced⟩ := step_advance performed
    exact ⟨next, performed, advanced_remaining split advanced⟩

theorem sessions_settleFor (fuel : ℕ) : ∀ {system : EventSystem}, system.remaining ≤ fuel →
      (system.settleFor batchSize fuel).sessions = [] := by
  induction fuel with
  | zero =>
    intro system enough
    by_contra some
    obtain ⟨idx, found⟩ := ready_of_open some
    obtain ⟨next, -, less⟩ : ∃ next, system.step batchSize (.advance idx) = _ ∧ _ :=
      step_ready found
    omega
  | succ fuel ih =>
    intro system enough
    rw [EventSystem.settleFor]
    cases found : system.ready with
    | none =>
      by_contra some
      obtain ⟨idx, other⟩ := ready_of_open some
      rw [found] at other
      cases other
    | some idx =>
      obtain ⟨next, performed, less⟩ : ∃ next, system.step batchSize (.advance idx) = _ ∧ _ :=
        step_ready found
      simp only [performed, Option.getD_some]
      exact ih (by omega)

theorem sessions_settle (batchSize : ℤ) (system : EventSystem) :
    (system.settle batchSize).sessions = [] :=
  sessions_settleFor system.remaining (Nat.le_refl _)

theorem settle_keeps {I : EventSystem → Prop}
    (keep : ∀ system next idx, I system → system.step batchSize (.advance idx) = some next → I next)
    (holds : I system) : I (system.settle batchSize) := by
  unfold EventSystem.settle
  generalize system.remaining = fuel
  induction fuel generalizing system with
  | zero => exact holds
  | succ fuel ih =>
    rw [EventSystem.settleFor]
    cases found : system.ready with
    | none => exact holds
    | some idx =>
      refine ih ?_
      cases ran : system.step batchSize (.advance idx) with
      | none => exact holds
      | some next => exact keep system next idx holds ran

end

/-! ## No event is lost -/

section

variable {system next : EventSystem} {batchSize : ℤ} {process flowRunId : ℕ}

theorem issued_openSession (system : EventSystem) (other events answers) :
    (system.openSession other events answers).issued = system.issued := by
  unfold EventSystem.openSession
  split <;> rfl

theorem arrivals_append_same (system : EventSystem) (data : EventData) :
    ((system.appendEvent batchSize process (some flowRunId) data).arrivals process flowRunId).Perm
      (system.arrivals process flowRunId ++ [system.issued]) := by
  unfold appendEvent
  dsimp only
  rcases append_cases batchSize (system.buffers process) { eventId := system.issued,
                                                           data } with ⟨-, direct⟩ |
      ⟨-, after, -, ⟨buffered, kept⟩ | ⟨drained, kept⟩⟩
  · rw [direct, arrivals_openSession_same]
    simp only [arrivals, called, List.map_cons, List.map_nil, List.append_assoc]
    refine List.Perm.append_left _ (List.Perm.append_left _ ?_)
    exact List.perm_append_comm
  · rw [buffered]
    simp [arrivals, setBuffer, called, EventSystem.returned, EventBuffer.eventIds, kept]
  · rw [drained, arrivals_openSession_same]
    simp [arrivals, setBuffer, called, EventBuffer.eventIds, kept]

theorem arrivals_append_other (system : EventSystem) {run} (ne : run ≠ some flowRunId) (data) :
    (system.appendEvent batchSize process run data).arrivals process flowRunId
      = system.arrivals process flowRunId := by
  cases run with
  | none => rfl
  | some run =>
    have foreign : flowRunId ≠ run := fun eq => ne (congrArg some eq.symm)
    have buffer := of_append_other foreign batchSize (system.buffers process)
      { eventId := system.issued, data }
    unfold appendEvent
    dsimp only
    rcases decision :
      (system.buffers process).append batchSize run { eventId := system.issued, data }
      with ⟨after, appended⟩
    rw [decision] at buffer
    have unchanged : (system.called.setBuffer process after).arrivals process flowRunId
        = system.arrivals process flowRunId :=
      arrivals_setBuffer fun _ => buffer
    cases appended with
    | direct => exact arrivals_openSession_other foreign _ _ _ _
    | buffered => exact unchanged
    | drained events => exact (arrivals_openSession_other foreign _ _ _ _).trans unchanged

theorem issued_appendEvent (system : EventSystem) (run data) :
    (system.appendEvent batchSize process run data).issued = system.issued + 1 := by
  unfold appendEvent
  cases run with
  | none => rfl
  | some run =>
    dsimp only
    split
    · rfl
    · rfl
    · rw [issued_openSession]
      rfl

theorem arrivals_advance {left right session} (split : system.sessions = left ++ session :: right)
    (known : system.tables.users flowRunId ≠ none)
    (advanced : Advanced system left session right next) :
    (next.arrivals process flowRunId).Perm (system.arrivals process flowRunId) := by
  have staged : ∀ stage, arrivals
      { system with sessions := left ++ { session with stage } :: right } process flowRunId
      = system.arrivals process flowRunId := by
    intro stage
    rw [arrivals, pendingIds_setStage, ← split]
    rfl
  cases advanced with
  | named userId stage | locked userId stage free | numbered userId stage => rw [staged]
  | raised stage unknown =>
    have foreign : session.flowRunId ≠ flowRunId := by
      rintro rfl
      rw [Session.user] at unknown
      split at unknown
      · cases unknown
      · exact known unknown
    rw [arrivals, arrivals, split, pendingIds_append, pendingIds_append,
      pendingIds_cons_other foreign]
  | committed userId nextSeq stage =>
    by_cases eq : session.flowRunId = flowRunId
    · subst eq
      rw [arrivals, arrivals, split, eventIds_commit, if_pos rfl, pendingIds_append,
        pendingIds_append, pendingIds_cons_same rfl, List.append_assoc]
      refine List.Perm.append_left _ ?_
      rw [← List.append_assoc, ← List.append_assoc, ← List.append_assoc]
      exact List.Perm.append_right _ (List.Perm.append_right _ List.perm_append_comm)
    · rw [arrivals, arrivals, split, eventIds_commit, if_neg eq, List.append_nil,
        pendingIds_append, pendingIds_append, pendingIds_cons_other eq]

end

/-! ## A call and the event log -/

/-- The event log as a call leaves it, with the events that its process has appended to its run
since the call began. -/
structure CallLog where
  system : EventSystem
  appended : List ℕ

abbrev EventProgram := EStateM ServiceError CallLog

/-- What happens to the event log while the runtime runs: appends of its process, to any run, and
statements of the sessions that they open. -/
inductive RuntimeMove where
  | append (flowRunId : Option ℕ) (data : EventData)
  | advance (index : ℕ)

section

variable (batchSize : ℤ) (process flowRunId : ℕ) (log : CallLog)

/-- `append_execution_event`, up to the session it may wait for. -/
def CallLog.append (run : Option ℕ) (data : EventData) : CallLog :=
  { system := log.system.appendEvent batchSize process run data
    appended := if run = some flowRunId then log.appended ++ [log.system.issued] else log.appended }

def CallLog.move : RuntimeMove → CallLog
  | .append run data => log.append batchSize process flowRunId run data
  | .advance index =>
    { log with system := (log.system.step batchSize (.advance index)).getD log.system }

def CallLog.await : CallLog := { log with system := log.system.settle batchSize }

def CallLog.start (log : CallLog) : CallLog :=
  { log with system := log.system.setBuffer process ((log.system.buffers process).start flowRunId) }

def CallLog.flush (log : CallLog) : CallLog :=
  { log with
    system := (log.system.setBuffer process
      ((log.system.buffers process).flush flowRunId)).openSession
      flowRunId ((log.system.buffers process).of flowRunId) none }

def CallLog.insert (userId : String) : CallLog :=
  { log with
    system := { log.system with
      tables := { log.system.tables with
        users := Function.update log.system.tables.users flowRunId (some userId)
        lockRows := Function.update log.system.tables.lockRows flowRunId true } } }

def startEventBatching : EventProgram PUnit := modify (CallLog.start process flowRunId)

/-- `append_execution_event` for the run. -/
def appendExecutionEvent (data : EventData) : EventProgram PUnit :=
  modify fun log => (log.append batchSize process flowRunId (some flowRunId) data).await batchSize

/-- `runtime.run`, as far as the event log is concerned. -/
def runRuntime (moves : List RuntimeMove) : EventProgram PUnit :=
  modify fun log => (moves.foldl (CallLog.move batchSize process flowRunId) log).await batchSize

def endEventBatching : EventProgram PUnit :=
  modify fun log => (log.flush process flowRunId).await batchSize

/-- `repository.create_flow_run`. -/
def insertFlowRunRows (userId : String) : EventProgram PUnit :=
  modify fun log => log.insert flowRunId userId

end

/-! ## The calls -/

/-- The operations of `create_flow_run` after the insert of its run that may raise. -/
inductive CreationOperation where
  | startFlowTrace
  | setRootObservationId
  | linkInteractionToFlowRun
  /-- The response is built, and the start event is traced. -/
  | buildResponse
  /-- What `on_flow_start` does after the event is appended. -/
  | onFlowStart
  | dispatchFlowRun
  /-- The plan is read from the cache, or compiled and cached. -/
  | loadPlan
  /-- The nodes of the run. -/
  | traverse
  | resetRootObservationId
  | finishTrace
  | reloadFlowRun
  | setResult
  deriving DecidableEq

/-- A call of `create_flow_run`: its request and environment, what raises after the insert, and what
the runtime does to the event log. -/
structure BatchedCreation where
  tenantId : ℕ
  request : FlowRunCreate
  env : RequestEnvironment
  fails : CreationOperation → Option ServiceError
  flowStarted : EventData
  runtime : List RuntimeMove

/-- A call of `resume_flow_run` and what the runtime does to the event log. -/
structure BatchedResume where
  flowRunId : ℕ
  call : ResumeCall
  runtime : List RuntimeMove

def raising (failure : Option ServiceError) : EventProgram PUnit :=
  match failure with
  | some error => throw error
  | none => pure ⟨⟩

/-- What a call alone came to. -/
def raisingResult {σ α : Type} : EStateM.Result ServiceError σ α → EventProgram PUnit
  | .ok _ _ => pure ⟨⟩
  | .error error _ => throw error

section

variable (settings : ResumeSettings) (batchSize : ℤ) (process : ℕ)

/-- What `create_flow_run` hands to its engine: the dispatch of a workflow, or the run itself. -/
def createdTurn (creation : BatchedCreation) (flowRunId : ℕ) : EventProgram PUnit :=
  if settings.temporalEnabled then do
    raising (creation.fails .dispatchFlowRun)
    raising (creation.fails .reloadFlowRun)
  else do
    raising (creation.fails .loadPlan)
    withFinally
      (do
        runRuntime batchSize process flowRunId creation.runtime
        raising (creation.fails .traverse)
        raising (creation.fails .resetRootObservationId)
        raising (creation.fails .reloadFlowRun)
        raising (creation.fails .finishTrace))
      (endEventBatching batchSize process flowRunId)

/-- `create_flow_run` from the start of the batching on. -/
def startedCreation (creation : BatchedCreation) (flowRunId : ℕ) : EventProgram PUnit := do
  raising (creation.fails .buildResponse)
  appendExecutionEvent batchSize process flowRunId creation.flowStarted
  raising (creation.fails .onFlowStart)
  createdTurn settings batchSize process creation flowRunId
  raising (creation.fails .setResult)

def createFlowRunEvents (db : Database) (creation : BatchedCreation) : EventProgram PUnit :=
  match (Execution.createFlowRun db creation.tenantId creation.env creation.request).2 with
  | .error error => throw error
  | .ok run => do
      insertFlowRunRows run.flowRunId creation.request.userId
      raising (creation.fails .startFlowTrace)
      raising (creation.fails .setRootObservationId)
      raising (creation.fails .linkInteractionToFlowRun)
      startEventBatching process run.flowRunId
      startedCreation settings batchSize process creation run.flowRunId

def resumeFlowRunEvents (store : ResumeStore) (resume : BatchedResume) : EventProgram PUnit :=
  match (Execution.beginResumeThread resume.flowRunId resume.call).run store with
  | .error error _ => throw error
  | .ok found after =>
    let outcome :=
      (Execution.finishResumeThread settings resume.flowRunId resume.call found).run after
    if settings.temporalEnabled then raisingResult outcome
    else do
      startEventBatching process resume.flowRunId
      withFinally
        (do
          runRuntime batchSize process resume.flowRunId resume.runtime
          raisingResult outcome)
        (endEventBatching batchSize process resume.flowRunId)

end

/-- The tables and the event log at the start of a call: both know the users of the flow runs, and
every event has an identifier that was given out. -/
structure EventWorld where
  store : ResumeStore
  system : EventSystem
  users : ∀ flowRunId, system.tables.users flowRunId =
    (store.db.getFlowRun flowRunId).map (·.userId)
  issued : ∀ process flowRunId, ∀ eventId ∈ system.arrivals process flowRunId,
    eventId < system.issued

/-- A call of `create_flow_run` or `resume_flow_run`. -/
inductive BatchedCall where
  | create (creation : BatchedCreation)
  | resume (resumed : BatchedResume)

namespace BatchedCall

def flowRunId : BatchedCall → ℕ
  | create creation => creation.env.freshFlowRunId
  | resume resumed => resumed.flowRunId

variable (settings : ResumeSettings)

def events (batchSize : ℤ) (process : ℕ) (store : ResumeStore) : BatchedCall → EventProgram PUnit
  | create creation => createFlowRunEvents settings batchSize process store.db creation
  | resume resumed => resumeFlowRunEvents settings batchSize process store resumed

def after (settings : ResumeSettings) (batchSize : ℤ) (process : ℕ) (world : EventWorld)
    (call : BatchedCall) : CallLog :=
  Program.after (call.events settings batchSize process world.store)
    { system := world.system, appended := [] }

/-- The request is one that a run is created for, or the run one that can be resumed in process, and
nothing raises before `start_event_batching`. -/
def StartsBatching (store : ResumeStore) : BatchedCall → Prop
  | create creation =>
    (∃ run, Execution.Created store.db creation.tenantId creation.env creation.request run) ∧
      creation.fails .startFlowTrace = none ∧ creation.fails .setRootObservationId = none ∧
      creation.fails .linkInteractionToFlowRun = none
  | resume resumed =>
    settings.temporalEnabled = false ∧ ∃ found after,
        (Execution.beginResumeThread resumed.flowRunId resumed.call).run store = .ok found after

/-- Nothing keeps the call from the `try` block whose `finally` ends the batching. -/
def ReachesTry : BatchedCall → Prop
  | create creation =>
    settings.temporalEnabled = false ∧ creation.fails .buildResponse = none ∧
      creation.fails .onFlowStart = none ∧ creation.fails .loadPlan = none
  | resume _ => True

end BatchedCall

/-- Every event appended to the run is written exactly once, and the run is not batched any more. -/
def EventsKept (process flowRunId : ℕ) (log : CallLog) : Prop :=
  (∀ eventId ∈ log.appended, (log.system.tables.eventIds flowRunId).count eventId = 1) ∧
    (log.system.buffers process).batching flowRunId = false

/-! ## What a call keeps -/

/-- The events appended since the call began are those written, on their way, or buffered. -/
structure Conserved (base process flowRunId : ℕ) (log : CallLog) : Prop where
  all : ((log.system.arrivals process flowRunId).filter (base ≤ ·)).Perm log.appended
  distinct : log.appended.Nodup
  issued : ∀ eventId ∈ log.appended, eventId < log.system.issued
  started : base ≤ log.system.issued
  known : log.system.tables.users flowRunId ≠ none

def Batched (process flowRunId : ℕ) (log : CallLog) : Prop :=
  (log.system.buffers process).batching flowRunId = true

section

variable {base process flowRunId : ℕ} {log : CallLog} {batchSize : ℤ} {next : EventSystem}

variable (system : EventSystem)

theorem users_appendEvent (run data) :
    (system.appendEvent batchSize process run data).tables = system.tables := by
  unfold appendEvent
  cases run with
  | none => rfl
  | some run =>
    dsimp only
    split
    · rfl
    · rfl
    · rw [tables_openSession]
      rfl

theorem batching_appendEvent (run data) :
    ((system.appendEvent batchSize process run data).buffers process).batching
      = (system.buffers process).batching := by
  unfold appendEvent
  cases run with
  | none => rfl
  | some run =>
    have kept : ((system.buffers process).append batchSize run
        { eventId := system.issued, data }).1.batching = (system.buffers process).batching :=
      batching_append _ _ _
    dsimp only
    split
    · rfl
    · rename_i buffer decision
      rw [decision] at kept
      simpa [setBuffer, EventSystem.returned] using kept
    · rename_i buffer events decision
      rw [decision] at kept
      rw [buffers_openSession]
      simpa [setBuffer] using kept

theorem buffers_advance {system : EventSystem} {idx : ℕ}
    (ran : system.step batchSize (.advance idx) = some next) : next.buffers = system.buffers := by
  obtain ⟨session, left, right, split, -, -, advanced⟩ := step_advance ran
  cases advanced <;> rfl

theorem buffers_settle : (system.settle batchSize).buffers = system.buffers :=
  settle_keeps (I := fun after => after.buffers = system.buffers)
    (fun _ _ _ eq ran => (buffers_advance ran).trans eq) rfl

theorem batched_start (log : CallLog) :
    Batched process flowRunId (log.start process flowRunId) := by
  simp [Batched, CallLog.start, setBuffer, EventBuffer.start]

theorem Batched.append (batched : Batched process flowRunId log) (run data) :
    Batched process flowRunId (log.append batchSize process flowRunId run data) := by
  rwa [Batched, CallLog.append, batching_appendEvent]

theorem Batched.await (batched : Batched process flowRunId log) :
    Batched process flowRunId (log.await batchSize) := by
  rwa [Batched, CallLog.await, buffers_settle]

theorem buffers_flush_await (log : CallLog) :
    ((log.flush process flowRunId).await batchSize).system.buffers process
      = (log.system.buffers process).flush flowRunId := by
  rw [CallLog.await, buffers_settle, CallLog.flush, buffers_openSession]
  simp [setBuffer]

variable (kept : Conserved base process flowRunId log)

include kept

theorem Conserved.of_perm
    (eq : (next.arrivals process flowRunId).Perm (log.system.arrivals process flowRunId))
    (issued : next.issued = log.system.issued)
    (users : next.tables.users flowRunId = log.system.tables.users flowRunId) :
    Conserved base process flowRunId { log with system := next } := by
  refine ⟨(eq.filter _).trans kept.all, kept.distinct, ?_, ?_, ?_⟩
  · rw [issued]
    exact kept.issued
  · rw [issued]
    exact kept.started
  · rw [users]
    exact kept.known

theorem Conserved.append (run data) :
    Conserved base process flowRunId (log.append batchSize process flowRunId run data) := by
  have known : (log.system.appendEvent batchSize process run data).tables.users flowRunId
      ≠ none := by
    rw [users_appendEvent]
    exact kept.known
  have issued : (log.system.appendEvent batchSize process run data).issued =
      log.system.issued + 1 :=
    issued_appendEvent _ _ _
  by_cases own : run = some flowRunId
  · subst own
    rw [CallLog.append, if_pos rfl]
    refine ⟨?_, ?_, ?_, ?_, known⟩
    · refine ((arrivals_append_same log.system data).filter _).trans ?_
      rw [List.filter_append, List.filter_cons_of_pos (by simpa using kept.started),
        List.filter_nil]
      exact kept.all.append_right _
    · refine List.nodup_append.mpr ⟨kept.distinct, List.nodup_singleton _, ?_⟩
      rintro eventId mem _ last rfl
      rw [List.mem_singleton.mp last] at mem
      exact Nat.lt_irrefl _ (kept.issued _ mem)
    · intro eventId mem
      rw [issued]
      rcases List.mem_append.mp mem with old | last
      · exact Nat.lt_succ_of_lt (kept.issued eventId old)
      · rw [List.mem_singleton.mp last]
        exact Nat.lt_succ_self _
    · rw [issued]
      exact Nat.le_succ_of_le kept.started
  · rw [CallLog.append, if_neg own]
    refine ⟨?_, kept.distinct, ?_, ?_, known⟩
    · rw [arrivals_append_other log.system own data]
      exact kept.all
    · intro eventId mem
      rw [issued]
      exact Nat.lt_succ_of_lt (kept.issued eventId mem)
    · rw [issued]
      exact Nat.le_succ_of_le kept.started

theorem Conserved.advance {idx : ℕ} (ran : log.system.step batchSize (.advance idx) = some next) :
    Conserved base process flowRunId { log with system := next } := by
  obtain ⟨session, left, right, split, -, -, advanced⟩ := step_advance ran
  refine kept.of_perm (arrivals_advance split kept.known advanced) ?_ ?_ <;>
    cases advanced <;> rfl

theorem Conserved.await : Conserved base process flowRunId (log.await batchSize) := by
  refine settle_keeps (I := fun system => Conserved base process flowRunId { log with system }) ?_
    kept
  intro system next idx kept ran
  exact kept.advance ran

theorem Conserved.move (move : RuntimeMove) :
    Conserved base process flowRunId (log.move batchSize process flowRunId move) := by
  cases move with
  | append run data => exact kept.append run data
  | advance idx =>
    rw [CallLog.move]
    cases ran : log.system.step batchSize (.advance idx) with
    | none => exact kept
    | some next => exact kept.advance ran

theorem Conserved.flush : Conserved base process flowRunId (log.flush process flowRunId) := by
  refine kept.of_perm ?_ (issued_openSession _ _ _ _) ?_
  · rw [arrivals_flush fun _ => rfl]
  · rw [tables_openSession]
    rfl

theorem eventsKept_of_flush :
    EventsKept process flowRunId ((log.flush process flowRunId).await batchSize) := by
  have awaited : Conserved base process flowRunId ((log.flush process flowRunId).await batchSize) :=
    kept.flush.await
  have buffers : ((log.flush process flowRunId).await batchSize).system.buffers process = _ :=
    buffers_flush_await log
  refine ⟨fun eventId mem => ?_, by rw [buffers]; simp [EventBuffer.flush]⟩
  have all := awaited.all
  rw [arrivals, EventBuffer.eventIds, buffers] at all
  simp only [CallLog.await, sessions_settle, EventBuffer.flush, of_update_same, pendingIds,
    List.filter_nil, List.flatMap_nil, Option.getD_none, List.map_nil, List.append_nil] at all
  have recent : base ≤ eventId := by
    have isIn := all.symm.subset mem
    simpa using (List.mem_filter.mp isIn).2
  calc (((log.flush process flowRunId).await batchSize).system.tables.eventIds flowRunId).count
          eventId
      = _ := (List.count_filter (by simpa using recent)).symm
    _ = ((log.flush process flowRunId).await batchSize).appended.count eventId :=
      all.count_eq eventId
    _ = 1 := List.count_eq_one_of_mem awaited.distinct mem

theorem Conserved.run (moves : List RuntimeMove) : Conserved base process flowRunId
      ((moves.foldl (CallLog.move batchSize process flowRunId) log).await batchSize) := by
  refine Conserved.await ?_
  induction moves generalizing log with
  | nil => exact kept
  | cons move rest ih => exact ih (kept.move move)

theorem Conserved.start : Conserved base process flowRunId (log.start process flowRunId) :=
  kept.of_perm (List.Perm.of_eq (arrivals_setBuffer fun _ => of_start _)) rfl rfl

end

/-! ## Calls that begin the batching -/

section

variable {base process flowRunId : ℕ} {settings : ResumeSettings} {batchSize : ℤ}
  {creation : BatchedCreation}

theorem raising_none : raising none = pure ⟨⟩ := rfl

theorem Triple.raising {P} (failure : Option ServiceError) :
    Triple P (raising failure) (fun _ log => P log ∧ failure = none) P := by
  cases failure with
  | none => exact .pure fun _ holds => ⟨holds, rfl⟩
  | some err => exact .throw fun _ holds => holds

theorem Keeps.raising {P} (failure : Option ServiceError) : Keeps P (raising failure) :=
  (Triple.raising failure).imp (fun _ holds => holds) (fun _ _ both => both.1) fun _ holds => holds

theorem Keeps.raisingResult {σ α : Type} {P}
    (res : EStateM.Result ServiceError σ α) : Keeps P (raisingResult res) := by
  cases res with
  | ok val after => exact .pure _
  | error err after => exact .throw _

theorem batched_append : Keeps (Batched process flowRunId)
      (appendExecutionEvent batchSize process flowRunId creation.flowStarted) :=
  .modify fun _ batched => (batched.append _ _).await

/-- A call that does not reach its `try` block leaves the run registered. -/
theorem startedCreation_batched (misses : ¬ (BatchedCall.create creation).ReachesTry settings) :
    Keeps (Batched process flowRunId)
      (startedCreation settings batchSize process creation flowRunId) := by
  refine Triple.bind (Triple.raising _) fun _ => .of_fact fun built => ?_
  refine Triple.bind batched_append fun _ => ?_
  refine Triple.bind (Triple.raising _) fun _ => .of_fact fun hooked => ?_
  refine Keeps.bind ?_ fun _ => Keeps.raising _
  unfold createdTurn
  split
  · exact Keeps.bind (Keeps.raising _) fun _ => Keeps.raising _
  · rename_i inProcess
    refine Triple.bind (Triple.raising _) fun _ => .of_fact fun loaded => ?_
    exact absurd ⟨by simpa using inProcess, built, hooked, loaded⟩ misses

/-- A `finally` block that ends the batching leaves every event written. -/
theorem withFinally_kept {body : EventProgram PUnit}
    (keeps : Keeps (Conserved base process flowRunId) body) :
    Triple (Conserved base process flowRunId)
      (withFinally body (endEventBatching batchSize process flowRunId))
      (fun _ => EventsKept process flowRunId) (EventsKept process flowRunId) :=
  .withFinally keeps (.modify fun _ kept => eventsKept_of_flush kept)

theorem conserved_runRuntime (moves : List RuntimeMove) :
    Keeps (Conserved base process flowRunId) (runRuntime batchSize process flowRunId moves) :=
  .modify fun _ kept => kept.run moves

theorem createdTurn_kept (inProcess : settings.temporalEnabled = false)
    (loaded : creation.fails .loadPlan = none) :
    Triple (Conserved base process flowRunId)
      (createdTurn settings batchSize process creation flowRunId)
      (fun _ => EventsKept process flowRunId) (EventsKept process flowRunId) := by
  simp only [createdTurn, inProcess, loaded, raising_none, pure_bind, Bool.false_eq_true, if_false]
  refine withFinally_kept (.bind (conserved_runRuntime _) fun _ => ?_)
  refine .bind (Keeps.raising _) fun _ => .bind (Keeps.raising _) fun _ => ?_
  exact .bind (Keeps.raising _) fun _ => Keeps.raising _

/-- A call that reaches its `try` block leaves every event written. -/
theorem startedCreation_kept (reaches : (BatchedCall.create creation).ReachesTry settings) :
    Triple (Conserved base process flowRunId)
      (startedCreation settings batchSize process creation flowRunId)
      (fun _ => EventsKept process flowRunId) (EventsKept process flowRunId) := by
  obtain ⟨inProcess, built, hooked, loaded⟩ := reaches
  have added : Triple (Conserved base process flowRunId)
      (appendExecutionEvent batchSize process flowRunId creation.flowStarted)
      (fun _ => Conserved base process flowRunId) (EventsKept process flowRunId) :=
    .modify fun _ kept => (kept.append _ _).await
  simp only [startedCreation, built, hooked, raising_none, pure_bind]
  refine .bind added fun _ => .bind (createdTurn_kept inProcess loaded) fun _ => ?_
  exact Keeps.raising _

end

/-! ## Every call -/

section

variable {settings : ResumeSettings} {batchSize : ℤ} {process : ℕ} {world : EventWorld}

def Unbatched (world : EventWorld) (log : CallLog) : Prop :=
  log.appended = [] ∧ log.system.buffers = world.system.buffers

/-- A call that does not come to `start_event_batching` leaves the buffers alone. -/
theorem unbatched_after {call : BatchedCall}
    (unstarted : ¬ call.StartsBatching settings world.store) :
    Unbatched world (call.after settings batchSize process world) := by
  refine Triple.after (P := Unbatched world) ?_ ⟨rfl, rfl⟩
  cases call with
  | create creation =>
    rw [BatchedCall.events, createFlowRunEvents]
    cases made : (Execution.createFlowRun world.store.db creation.tenantId creation.env
        creation.request).2 with
    | error err => exact Keeps.throw _
    | ok run =>
      have ins : Keeps (Unbatched world)
          (insertFlowRunRows run.flowRunId creation.request.userId) :=
        .modify fun _ unbatched => unbatched
      refine Triple.bind ins fun _ => ?_
      refine Triple.bind (Triple.raising _) fun _ => .of_fact fun traced => ?_
      refine Triple.bind (Triple.raising _) fun _ => .of_fact fun observed => ?_
      refine Triple.bind (Triple.raising _) fun _ => .of_fact fun linked => ?_
      exact absurd ⟨⟨run, Execution.createFlowRun_ok_iff.mp made⟩, traced, observed,
        linked⟩ unstarted
  | resume resumed =>
    rw [BatchedCall.events, resumeFlowRunEvents]
    cases begun : (Execution.beginResumeThread resumed.flowRunId resumed.call).run world.store with
    | error err after => exact Keeps.throw _
    | ok found after =>
      dsimp only
      split
      · exact Keeps.raisingResult _
      · rename_i inProcess
        exact absurd ⟨by simpa using inProcess, found, after, begun⟩ unstarted

theorem conserved_of_known {log} {flowRunId : ℕ} (unappended : log.appended = [])
    (eq : log.system.arrivals process flowRunId = world.system.arrivals process flowRunId)
    (issued : log.system.issued = world.system.issued)
    (known : log.system.tables.users flowRunId ≠ none) :
    Conserved world.system.issued process flowRunId log := by
  refine ⟨?_, by simp [unappended], by simp [unappended], by rw [issued], known⟩
  have empty : (log.system.arrivals process flowRunId).filter (world.system.issued ≤ ·) = [] := by
    rw [List.filter_eq_nil_iff, eq]
    intro eventId mem
    simpa using world.issued process flowRunId eventId mem
  rw [empty, unappended]

/-- The log when a call comes to its `try` block or fails before it. -/
theorem conserved_insert (flowRunId : ℕ) (userId : String) :
    Conserved world.system.issued process flowRunId
      (CallLog.insert flowRunId { system := world.system, appended := [] } userId) :=
  conserved_of_known rfl rfl rfl (by simp [CallLog.insert])

theorem getFlowRun_of_begin {flowRunId call st after found}
    (begun : (Execution.beginResumeThread flowRunId call).run st = .ok found after) :
    st.db.getFlowRun flowRunId ≠ none := by
  intro missing
  obtain ⟨userId, -, begun⟩ := Interleaving.Thread.run_ofExcept_bind_eq_ok.mp begun
  obtain ⟨_, -, begun⟩ := Interleaving.Thread.run_ofExcept_bind_eq_ok.mp begun
  obtain ⟨row, read, -⟩ := Interleaving.Thread.run_read_bind_eq_ok.mp begun
  simp [missing] at read

theorem after_create {creation}
    (starts : (BatchedCall.create creation).StartsBatching settings world.store) :
    (BatchedCall.create creation).after settings batchSize process world
      = Program.after
        (startedCreation settings batchSize process creation creation.env.freshFlowRunId)
          ((CallLog.insert creation.env.freshFlowRunId { system := world.system, appended := [] }
            creation.request.userId).start process creation.env.freshFlowRunId) := by
  obtain ⟨⟨run, made⟩, traced, observed, linked⟩ := starts
  rw [BatchedCall.after, BatchedCall.events, createFlowRunEvents,
    Execution.createFlowRun_ok_iff.mpr made]
  simp only [traced, observed, linked, raising_none, pure_bind, made.flowRunId]
  rfl

/-- A call in process that comes to its turn switches the batching on and off around it. -/
theorem resume_kept {resumed : BatchedResume}
    (starts : (BatchedCall.resume resumed).StartsBatching settings world.store) :
    EventsKept process resumed.flowRunId
      ((BatchedCall.resume resumed).after settings batchSize process world) := by
  obtain ⟨inProcess, found, after, begun⟩ := starts
  have known : world.system.tables.users resumed.flowRunId ≠ none := by
    rw [world.users]
    simpa using getFlowRun_of_begin begun
  refine Triple.after (P := Conserved world.system.issued process resumed.flowRunId) ?_
    (conserved_of_known rfl rfl rfl known)
  simp only [BatchedCall.events, resumeFlowRunEvents, begun, inProcess,
    Bool.false_eq_true, if_false]
  refine Triple.bind (Q := fun _ => Conserved world.system.issued process resumed.flowRunId)
    (.modify fun _ kept => kept.start) fun _ => ?_
  exact withFinally_kept (.bind (conserved_runRuntime _) fun _ => Keeps.raisingResult _)

/-- A call that comes to `start_event_batching` keeps its events exactly when it reaches its `try`
block. -/
theorem eventsKept_of_starts {call : BatchedCall}
    (starts : call.StartsBatching settings world.store) :
    EventsKept process call.flowRunId (call.after settings batchSize process world)
      ↔ call.ReachesTry settings := by
  cases call with
  | resume resumed => exact iff_of_true (resume_kept starts) trivial
  | create creation =>
    rw [after_create starts]
    constructor
    · intro kept
      by_contra misses
      refine Bool.false_ne_true (kept.2.symm.trans ?_)
      exact Triple.after (startedCreation_batched misses) (batched_start _)
    · intro reaches
      exact Triple.after (startedCreation_kept reaches) (conserved_insert _ _).start

/-- After a call every event that its process appended to the run is written exactly once, and the
run is not batched, exactly when the call, if it switches batching on, reaches the `try` block whose
`finally` switches it off, and otherwise did not find the run registered. -/
theorem events_kept_iff (settings : ResumeSettings) (batchSize : ℤ) (process : ℕ)
    (world : EventWorld)
    (call : BatchedCall) :
    EventsKept process call.flowRunId (call.after settings batchSize process world) ↔
      (call.StartsBatching settings world.store → call.ReachesTry settings) ∧
        (¬ call.StartsBatching settings world.store →
          (world.system.buffers process).batching call.flowRunId = false) := by
  by_cases starts : call.StartsBatching settings world.store
  · rw [eventsKept_of_starts starts]
    exact ⟨fun reaches => ⟨fun _ => reaches, fun unstarted => absurd starts unstarted⟩,
      fun both => both.1 starts⟩
  · have unbatched : Unbatched world (call.after settings batchSize process world) :=
      unbatched_after starts
    rw [EventsKept, unbatched.1, unbatched.2]
    simp [starts]

end

def deployedWorld : EventWorld where
  store :=
    { db :=
        { Database.empty with
          flows := [⟨10, 1⟩]
          versions := [⟨11, 10, .published, true⟩]
          graphSnapshots := [⟨12, 11⟩]
          flowSnapshots := [⟨13, 11, some 12⟩]
          deployments := [⟨14, 10, 11, 13, "default", true⟩] }
      contracts := [], turnIndex := 0, accepted := [], inFlight := [], journal := [] }
  system := .initial (fun _ => none) fun _ => false
  users := fun _ => rfl
  issued := by simp [arrivals, EventSystem.initial, EventTables.eventIds, pendingIds,
    EventTables.rowsOf, EventBuffer.eventIds, EventBuffer.empty, EventBuffer.of]

def firstCreation : BatchedCreation :=
  { tenantId := 1
    request :=
      { flowId := some 10, flowVersionId := none, sessionId := 20, userId := "u"
        correlationId := none, originFlowRunId := none }
    env :=
      { acquired := true, validTraceId := true, normalizes := true, legacyGraphContract := false
        freshCorrelationId := 7, freshFlowRunId := 40, now := 2 }
    fails := fun _ => none
    flowStarted := noteEvent
    runtime := [] }

/-- With the workflow engine the call returns while its `FlowStarted` event is still buffered: no
row has it, and the run stays registered. -/
theorem dispatched_creation_buffers_event :
    let log := (BatchedCall.create firstCreation).after
      { temporalEnabled := true, engineAvailable := true } 20 0 deployedWorld
    log.appended = [0] ∧ log.system.tables.eventIds 40 = [] ∧
      (log.system.buffers 0).batching 40 = true ∧ ¬ EventsKept 0 40 log := by
  intro log
  have appended : log.appended = [0] := rfl
  have unwritten : log.system.tables.eventIds 40 = [] := rfl
  refine ⟨appended, unwritten, rfl, fun kept => ?_⟩
  have written := kept.1 0 (by rw [appended]; exact List.mem_singleton_self 0)
  cases written

end AgentOrchestration.EventLog
