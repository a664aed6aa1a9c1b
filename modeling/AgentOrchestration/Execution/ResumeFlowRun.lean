import AgentOrchestration.Library.RelyGuarantee
import AgentOrchestration.Execution.CreateFlowRun

/-!
# Resuming a flow run

`ExecutionService.resume_flow_run` as the sequence of its repository operations, and
the calls on one run interleaved with each other and with the workflow turns they start.
The journal records the status writes and the turns that were started.
-/

namespace AgentOrchestration.Execution

set_option autoImplicit false

open Lifecycle (Row FlowRunStatus Verdict runningRow)
open Interleaving (Thread Pool Move OneHonours)
open LabelledSystem (trace)
open Interleaving.Thread (ofExcept raiseIf update)

/-! ## The store -/

inductive TurnEvent where
  | statusWritten (row : Row)
  /-- A turn was started by a call that had read this canonical status. -/
  | turnStarted (found : FlowRunStatus)
  deriving DecidableEq

structure ResumeStore where
  db : Database
  /-- `runtime_contract["flow_snapshot_id"]` of the runs. -/
  contracts : List (ℕ × ℕ)
  /-- `flow_run.turn_index` of the run. -/
  turnIndex : ℕ
  /-- The turns whose workflow ids the engine has accepted. -/
  accepted : List ℕ
  /-- The turns among them whose workflows have not ended. -/
  inFlight : List ℕ
  journal : List TurnEvent

/-- `UPDATE flow_run SET status, canonical_status`. -/
def Database.setFlowRunStatus (db : Database) (flowRunId : ℕ) (row : Row) : Database :=
  { db with
    flowRuns := db.flowRuns.map fun run =>
      if run.flowRunId = flowRunId then
        { run with status := row.status, canonicalStatus := row.canonicalStatus }
      else run }

def ResumeStore.setFlowRunStatus (flowRunId : ℕ) (row : Row) (store : ResumeStore) : ResumeStore :=
  { store with
    db := store.db.setFlowRunStatus flowRunId row
    journal := store.journal ++ [.statusWritten row] }

variable (flowRunId : ℕ) (store : ResumeStore)

def ResumeStore.canonical : Option FlowRunStatus :=
  (store.db.getFlowRun flowRunId).map FlowRunRow.canonicalStatus

open ResumeStore (setFlowRunStatus canonical)

/-! ## One call -/

inductive ResumeOperation where
  | getFlowRun
  | getFlowContext
  | normalizeResumeInput
  | getGraphState
  | getFlowVersion
  | getFlowSnapshotById
  | resolvePolicy
  | getFlowGraphSnapshot
  /-- The plan is read from the cache, or compiled and cached. -/
  | loadPlan
  | createInteraction
  | linkInteractionToFlowRun
  | startFlowTrace
  | setRootObservationId
  | setFlowRunStatus
  | setFlowRunInput
  | nextFlowRunTurnIndex
  | startWorkflow
  | setFlowRunDispatch
  /-- The nodes of a turn in process. -/
  | traverse
  /-- What follows the last status write of a turn in process. -/
  | finish
  | reloadFlowRun
  deriving DecidableEq

/-- A call: its user, what raises on its way, and how its turn ends when it is driven in process. -/
structure ResumeCall where
  userId : Option String
  fails : ResumeOperation → Option ServiceError
  verdict : Verdict

/-- The settings a resume depends on: `TEMPORAL_ENABLED`, and whether there is an engine. -/
structure ResumeSettings where
  temporalEnabled : Bool
  engineAvailable : Bool

abbrev ResumeThread := Thread ResumeStore ServiceError

section

variable (settings : ResumeSettings) (flowRunId : ℕ) (call : ResumeCall)
  (operation : ResumeOperation)

def ResumeCall.perform : ResumeThread PUnit :=
  ofExcept <|
    match call.fails operation with
    | some error => .error error
    | none => .ok ⟨⟩

def ResumeCall.fetch {α : Type} (query : Database → Option α) (missing : String) :
    ResumeThread α := do
  call.perform operation
  Thread.read fun store =>
    match query store.db with
    | some row => .ok row
    | none => .error (.notFound missing)

/-- The graph that the runtime contract of the run names, if there is one. -/
def contractGraphThread (contract : Option ℕ) : ResumeThread (Option GraphSnapshotRow) :=
  match contract with
  | none => do
      call.perform .resolvePolicy
      return none
  | some flowSnapshotId => do
      call.perform .getFlowSnapshotById
      match ← Thread.read fun store => .ok (store.db.getFlowSnapshotById flowSnapshotId) with
      | none => do
          call.perform .resolvePolicy
          return none
      | some snapshot =>
        match snapshot.flowGraphSnapshotId with
        | none => return none
        | some graphId => do
            call.perform .getFlowGraphSnapshot
            Thread.read fun store => .ok (store.db.getFlowGraphSnapshot graphId)

/-- Everything a call does before its status write. -/
def prepareResumeThread (userId : String) (flowRun : FlowRunRow) (contract : Option ℕ) :
    ResumeThread GraphStateRow := do
  raiseIf (flowRun.userId ≠ userId) (.domainConflict "session_user_mismatch")
  -- `get_flow_context` reads the run once more
  let owner ← call.fetch .getFlowContext (·.getFlowRun flowRunId) "flow_run_not_found"
  let _ ← call.fetch .getFlowContext (·.getSession owner.sessionId) "session_not_found"
  call.perform .normalizeResumeInput
  let graphState ← call.fetch .getGraphState (·.getGraphState flowRunId) "graph_state_not_found"
  let version ← call.fetch .getFlowVersion (·.getFlowVersion flowRun.flowVersionId)
    "flow_version_not_found"
  match ← contractGraphThread call contract with
  | some _ => call.perform .loadPlan
  | none => do
      let _ ← call.fetch .getFlowGraphSnapshot
        (·.getFlowGraphSnapshotByFlowVersion version.flowVersionId) "flow_graph_snapshot_not_found"
      call.perform .loadPlan
  call.perform .createInteraction
  call.perform .linkInteractionToFlowRun
  call.perform .startFlowTrace
  call.perform .setRootObservationId
  return graphState

variable (found : FlowRunStatus)

/-- A turn in process: the executor writes the end of the turn, unless it raises first. -/
def inProcessTurnThread : ResumeThread PUnit := do
  update fun store => { store with journal := store.journal ++ [.turnStarted found] }
  call.perform .traverse
  update (setFlowRunStatus flowRunId call.verdict.row)
  call.perform .finish

def nextFlowRunTurnIndex : ResumeThread ℕ :=
  .act (fun store => { store with turnIndex := store.turnIndex + 1 }) fun store =>
    .done (store.turnIndex + 1)

/-- `start_workflow` with `REJECT_DUPLICATE`. -/
def startWorkflow (turnIndex : ℕ) : ResumeThread PUnit :=
  .act
    (fun store =>
      if turnIndex ∈ store.accepted then store
      else
        { store with
          accepted := turnIndex :: store.accepted
          inFlight := turnIndex :: store.inFlight
          journal := store.journal ++ [.turnStarted found] })
    fun store =>
      if turnIndex ∈ store.accepted then .raised (.unexpected "WorkflowAlreadyStartedError")
      else .done ⟨⟩

/-- `_dispatch_flow_run` of a resumed turn; the wait for the turn may end at any time. -/
def dispatchTurnThread : ResumeThread PUnit := do
  call.perform .setFlowRunInput
  call.perform .nextFlowRunTurnIndex
  let turnIndex ← nextFlowRunTurnIndex
  raiseIf (settings.engineAvailable = false) (.domainValidation "workflow_engine_unavailable")
  call.perform .setRootObservationId
  call.perform .startWorkflow
  startWorkflow found turnIndex
  call.perform .setFlowRunDispatch
  update (setFlowRunStatus flowRunId runningRow)

def resumeTurnThread : ResumeThread PUnit :=
  if settings.temporalEnabled then dispatchTurnThread settings flowRunId call found
  else inProcessTurnThread flowRunId call found

/-- `resume_flow_run` up to its turn; the status is the one that the call read. -/
def beginResumeThread : ResumeThread FlowRunStatus := do
  let userId ← ofExcept <|
    match call.userId with
    | some userId => .ok userId
    | none => .error (.domainValidation "user_id_required")
  call.perform .getFlowRun
  let (flowRun, contract) ← Thread.read fun store =>
    match store.db.getFlowRun flowRunId with
    | some row => .ok (row, store.contracts.lookup flowRunId)
    | none => .error (.notFound "flow_run_not_found")
  let graphState ← prepareResumeThread flowRunId call userId flowRun contract
  call.perform .setFlowRunStatus
  update (setFlowRunStatus flowRunId runningRow)
  raiseIf (graphState.state = none) (.domainValidation "invalid_graph_state")
  return flowRun.canonicalStatus

def finishResumeThread : ResumeThread FlowRunRow := do
  resumeTurnThread settings flowRunId call found
  call.fetch .reloadFlowRun (·.getFlowRun flowRunId) "flow_run_not_found"

def resumeFlowRunThread : ResumeThread FlowRunRow := do
  let found ← beginResumeThread flowRunId call
  finishResumeThread settings flowRunId call found

end

/-! ## The journal -/

variable (journal : List TurnEvent)

/-- The turns started since the run was last written `WAITING`. -/
def turnsSinceWaiting : ℕ :=
  journal.foldl
    (fun turns event =>
      match event with
      | .turnStarted _ => turns + 1
      | .statusWritten row => if row.canonicalStatus = .waiting then 0 else turns)
    0

theorem turnsSinceWaiting_turnStarted (found : FlowRunStatus) :
    turnsSinceWaiting (journal ++ [.turnStarted found]) = turnsSinceWaiting journal + 1 := by
  simp [turnsSinceWaiting, List.foldl_append]

theorem turnsSinceWaiting_statusWritten (row : Row) :
    turnsSinceWaiting (journal ++ [.statusWritten row])
      = if row.canonicalStatus = .waiting then 0 else turnsSinceWaiting journal := by
  simp [turnsSinceWaiting, List.foldl_append]

/-- At most one turn was started since the run last waited, and every turn by a call that found
the run waiting. -/
structure SingleFlight (store : ResumeStore) : Prop where
  single : turnsSinceWaiting store.journal ≤ 1
  waiting : ∀ found, .turnStarted found ∈ store.journal → found = .waiting

/-- `SingleFlight`, and a run that waits has started no turn since. -/
structure Settled (flowRunId : ℕ) (store : ResumeStore) : Prop extends SingleFlight store where
  none : store.canonical flowRunId = some .waiting → turnsSinceWaiting store.journal = 0

variable (flowRunId : ℕ) (before after : ResumeStore)

def KeepsSettled : Prop := Settled flowRunId before → Settled flowRunId after

/-- What the workflows may do between two steps of a call: nothing while none is in flight. -/
def WorkflowsOnly : Prop := before.inFlight = [] → after = before

variable (store : ResumeStore)

theorem KeepsSettled.refl : KeepsSettled flowRunId store store := fun settled => settled

theorem WorkflowsOnly.refl : WorkflowsOnly store store := fun _ => rfl

theorem WorkflowsOnly.trans (first second third : ResumeStore) (left : WorkflowsOnly first second)
    (right : WorkflowsOnly second third) : WorkflowsOnly first third := by
  intro idle
  have eq := left idle
  rw [eq] at right
  exact right idle

theorem getFlowRun_setFlowRunStatus (db : Database) (flowRunId : ℕ) (row : Row) :
    (db.setFlowRunStatus flowRunId row).getFlowRun flowRunId
      = (db.getFlowRun flowRunId).map fun run =>
          { run with status := row.status, canonicalStatus := row.canonicalStatus } := by
  unfold Database.setFlowRunStatus Database.getFlowRun Table.byKey
  induction db.flowRuns with
  | nil => rfl
  | cons run rest ih =>
    by_cases eq : run.flowRunId = flowRunId
    · simp [eq]
    · simpa [eq] using ih

theorem canonical_setFlowRunStatus (row : Row) (st : ResumeStore) :
    (st.setFlowRunStatus flowRunId row).canonical flowRunId
      = (st.canonical flowRunId).map fun _ => row.canonicalStatus := by
  unfold canonical setFlowRunStatus
  rw [getFlowRun_setFlowRunStatus, Option.map_map, Option.map_map]
  rfl

theorem keepsSettled_setFlowRunStatus (row : Row) (st : ResumeStore) :
    KeepsSettled flowRunId st (st.setFlowRunStatus flowRunId row) := by
  intro settled
  have counted : turnsSinceWaiting (st.setFlowRunStatus flowRunId row).journal
      = if row.canonicalStatus = .waiting then 0 else turnsSinceWaiting st.journal :=
    turnsSinceWaiting_statusWritten _ _
  refine ⟨⟨?_, ?_⟩, ?_⟩
  · rw [counted]
    split
    · exact Nat.zero_le 1
    · exact settled.single
  · intro found mem
    refine settled.waiting found ?_
    simpa [setFlowRunStatus] using mem
  · intro waits
    rw [canonical_setFlowRunStatus] at waits
    obtain ⟨_, _, written⟩ := Option.map_eq_some_iff.mp waits
    rw [counted, if_pos written]

/-- The start of a turn, on a run that has left `WAITING` with none started since. -/
theorem keepsSettled_turnStarted {flowRunId : ℕ} {st after : ResumeStore}
    (journal : after.journal = st.journal ++ [.turnStarted .waiting])
    (tabs : after.db = st.db) (left : st.canonical flowRunId ≠ some .waiting)
    (unused : turnsSinceWaiting st.journal = 0) : KeepsSettled flowRunId st after := by
  intro settled
  refine ⟨⟨?_, ?_⟩, ?_⟩
  · rw [journal, turnsSinceWaiting_turnStarted, unused]
  · intro found mem
    rw [journal] at mem
    rcases List.mem_append.mp mem with old | new
    · exact settled.waiting found old
    · cases List.mem_singleton.mp new
      rfl
  · intro waits
    refine absurd ?_ left
    rw [← waits, canonical, canonical, tabs]

/-! ## A call on a waiting run -/

section

variable (settings : ResumeSettings) (flowRunId : ℕ) (call : ResumeCall)

/-- The judgement of this section: whatever the workflows do, every step keeps `Settled`. -/
abbrev Honest {α : Type} (t : ResumeThread α) (store : ResumeStore) : Prop :=
  t.Honours WorkflowsOnly (KeepsSettled flowRunId) (fun _ _ => True) store

variable (operation : ResumeOperation)

theorem perform_silent : (call.perform operation).Silent := .ofExcept _

variable {α : Type}

theorem fetch_silent (query : Database → Option α) (missing : String) :
    (call.fetch operation query missing).Silent :=
  .bind (fun _ => .read _) (perform_silent call operation)

theorem contractGraphThread_silent (contract : Option ℕ) :
    (contractGraphThread call contract).Silent := by
  cases contract with
  | none => exact .bind (fun _ => trivial) (perform_silent call _)
  | some flowSnapshotId =>
    refine .bind (fun _ => .bind (fun snap => ?_) (.read _)) (perform_silent call _)
    cases snap with
    | none => exact .bind (fun _ => trivial) (perform_silent call _)
    | some snap =>
      cases graph : snap.flowGraphSnapshotId with
      | none => simp only [graph]; trivial
      | some graphId =>
        simp only [graph]
        exact .bind (fun _ => .read _) (perform_silent call _)

theorem prepareResumeThread_silent (userId : String) (flowRun : FlowRunRow) (contract : Option ℕ) :
    (prepareResumeThread flowRunId call userId flowRun contract).Silent := by
  refine .bind (fun _ => ?_) (.raiseIf _ _)
  refine .bind (fun owner => ?_) (fetch_silent call _ _ _)
  refine .bind (fun _ => ?_) (fetch_silent call _ _ _)
  refine .bind (fun _ => ?_) (perform_silent call _)
  refine .bind (fun graphState => ?_) (fetch_silent call _ _ _)
  refine .bind (fun version => ?_) (fetch_silent call _ _ _)
  refine .bind (fun graph => ?_) (contractGraphThread_silent call contract)
  have linking : (do
      call.perform .createInteraction
      call.perform .linkInteractionToFlowRun
      call.perform .startFlowTrace
      call.perform .setRootObservationId
      return graphState : ResumeThread GraphStateRow).Silent :=
    .bind (fun _ => .bind (fun _ => .bind (fun _ => .bind (fun _ => trivial)
      (perform_silent call _)) (perform_silent call _)) (perform_silent call _))
      (perform_silent call _)
  cases graph with
  | some graph => exact .bind (fun _ => linking) (perform_silent call _)
  | none =>
    exact .bind (fun _ => .bind (fun _ => linking) (perform_silent call _))
      (fetch_silent call _ _ _)

/-- Once its turn has started, a call only reads and writes statuses. -/
theorem perform_then {op : ResumeOperation} {k : PUnit → ResumeThread α}
    (next : ∀ st, Honest flowRunId (k ⟨⟩) st) (st : ResumeStore) :
    Honest flowRunId (call.perform op >>= k) st :=
  .bind (fun _ after _ => next after) (fun _ _ _ => trivial)
    ((perform_silent call op).lawful (.refl flowRunId) st)

theorem setFlowRunStatus_honest (row : Row) (store : ResumeStore) :
    Honest flowRunId (update (setFlowRunStatus flowRunId row)) store :=
  .update (fun store' _ => keepsSettled_setFlowRunStatus flowRunId row store') fun _ _ => trivial

/-- A run that has left `WAITING`, has started no turn since, and has no workflow in flight. -/
structure Ready (store : ResumeStore) : Prop where
  idle : store.inFlight = []
  left : store.canonical flowRunId ≠ some .waiting
  unused : turnsSinceWaiting store.journal = 0

theorem inProcessTurnThread_honest {store : ResumeStore} (ready : Ready flowRunId store) :
    Honest flowRunId (inProcessTurnThread flowRunId call .waiting) store := by
  refine .bind (Q := fun _ _ => True) (fun _ after _ => ?_) (fun _ _ _ => trivial)
    (.update (fun store' ok => ?_) fun _ _ => trivial)
  · refine perform_then flowRunId call (fun after => ?_) after
    refine .bind (fun _ after _ => ?_) (fun _ _ _ => trivial)
      (setFlowRunStatus_honest flowRunId _ after)
    exact (perform_silent call _).lawful (.refl flowRunId) after
  · rw [ok ready.idle]
    exact keepsSettled_turnStarted rfl rfl ready.left ready.unused

theorem startWorkflow_honest {store} (ready : Ready flowRunId store) (turnIndex) :
    Honest flowRunId (startWorkflow .waiting turnIndex) store := by
  intro store' ok
  rw [ok ready.idle]
  by_cases known : turnIndex ∈ store.accepted
  · simp only [known, if_true]
    exact ⟨.refl flowRunId store, trivial⟩
  · simp only [known, if_false]
    exact ⟨keepsSettled_turnStarted rfl rfl ready.left ready.unused, trivial⟩

/-- A silent step before the turn starts, with nothing in flight. -/
theorem silent_then {α β : Type} {t : ResumeThread α} {k : α → ResumeThread β}
    {st : ResumeStore} (idle : st.inFlight = []) (silent : t.Silent)
    (next : ∀ val, Honest flowRunId (k val) st) : Honest flowRunId (t >>= k) st := by
  refine .bind (fun val after eq => ?_) (fun _ _ _ => trivial)
    (silent.honours (.refl flowRunId) fun _ ok => ok idle)
  rw [eq]
  exact next val

theorem dispatchTurnThread_honest {store : ResumeStore} (ready : Ready flowRunId store) :
    Honest flowRunId (dispatchTurnThread settings flowRunId call .waiting) store := by
  refine silent_then flowRunId ready.idle (perform_silent call _) fun _ => ?_
  refine silent_then flowRunId ready.idle (perform_silent call _) fun _ => ?_
  refine .bind (Q := fun _ after => Ready flowRunId after) (fun turnIndex after ready => ?_)
    (fun _ _ _ => trivial) (fun store' ok => ?_)
  · refine silent_then flowRunId ready.idle (.raiseIf _ _) fun _ => ?_
    refine silent_then flowRunId ready.idle (perform_silent call _) fun _ => ?_
    refine silent_then flowRunId ready.idle (perform_silent call _) fun _ => ?_
    refine .bind (fun _ after _ => ?_) (fun _ _ _ => trivial)
      (startWorkflow_honest flowRunId ready turnIndex)
    exact perform_then flowRunId call (setFlowRunStatus_honest flowRunId _) after
  · rw [ok ready.idle]
    exact ⟨fun settled => ⟨⟨settled.single, settled.waiting⟩, settled.none⟩,
      ready.idle, ready.left, ready.unused⟩

theorem resumeTurnThread_honest {st : ResumeStore} (ready : Ready flowRunId st) :
    Honest flowRunId (resumeTurnThread settings flowRunId call .waiting) st := by
  unfold resumeTurnThread
  split
  · exact dispatchTurnThread_honest settings flowRunId call ready
  · exact inProcessTurnThread_honest flowRunId call ready

theorem ready_setFlowRunStatus {st : ResumeStore} (idle : st.inFlight = [])
    (unused : turnsSinceWaiting st.journal = 0) :
    Ready flowRunId (st.setFlowRunStatus flowRunId runningRow) := by
  refine ⟨idle, ?_, ?_⟩
  · rw [canonical_setFlowRunStatus]
    cases st.canonical flowRunId <;> simp [runningRow]
  · exact (turnsSinceWaiting_statusWritten _ _).trans unused

/-- **A call that begins on a waiting run, with nothing in flight, starts at most one turn**,
whatever the workflow of that turn does meanwhile. -/
theorem resumeFlowRunThread_honest {store : ResumeStore} (idle : store.inFlight = [])
    (waits : store.canonical flowRunId = some .waiting) (settled : Settled flowRunId store) :
    Honest flowRunId (resumeFlowRunThread settings flowRunId call) store := by
  simp only [resumeFlowRunThread, beginResumeThread, Thread.bind_bind]
  refine silent_then flowRunId idle (.ofExcept _) fun userId => ?_
  refine silent_then flowRunId idle (perform_silent call _) fun _ => ?_
  refine .bind (Q := fun out after => after = store ∧
      ∀ found, out = .ok found → found.1.canonicalStatus = .waiting)
    (fun found after read => ?_) (fun _ _ _ => trivial)
    (.read (.refl flowRunId) fun store' ok => ?_)
  · obtain ⟨rfl, status⟩ := read
    refine silent_then flowRunId idle (prepareResumeThread_silent flowRunId call _ _ _)
      fun graphState => ?_
    refine silent_then flowRunId idle (perform_silent call _) fun _ => ?_
    refine .bind (Q := fun _ after => Ready flowRunId after) (fun _ after ready => ?_)
      (fun _ _ _ => trivial) (.update (fun store' _ => ?_) fun store' ok => ?_)
    · refine silent_then flowRunId ready.idle (.raiseIf _ _) fun _ => ?_
      rw [status found rfl]
      show Honest flowRunId (finishResumeThread settings flowRunId call .waiting) after
      refine .bind (fun _ after _ => ?_) (fun _ _ _ => trivial)
        (resumeTurnThread_honest settings flowRunId call ready)
      exact (fetch_silent call _ _ _).lawful (.refl flowRunId) after
    · exact keepsSettled_setFlowRunStatus flowRunId _ store'
    · rw [ok idle]
      exact ready_setFlowRunStatus flowRunId idle (settled.none waits)
  · rw [ok idle]
    refine ⟨rfl, fun found res => ?_⟩
    cases row : store.db.getFlowRun flowRunId with
    | none =>
      rw [row] at res
      cases res
    | some run =>
      rw [row] at res
      cases res
      simpa [canonical, row] using waits

end

/-! ## Calls and workflows -/

inductive WorkerEvent where
  /-- The status write of `prepare_flow_run`. -/
  | prepare
  /-- The status write of `finalize_flow_run`, which is retried when it is not acknowledged. -/
  | finalize (verdict : Verdict) (acknowledged : Bool)
  /-- The workflow ends without a finalization. -/
  | lose

def ResumeStore.work (flowRunId turnIndex : ℕ) (store : ResumeStore) : WorkerEvent → ResumeStore
  | .prepare => store.setFlowRunStatus flowRunId runningRow
  | .finalize verdict acknowledged =>
    let written := store.setFlowRunStatus flowRunId verdict.row
    if acknowledged then { written with inFlight := store.inFlight.erase turnIndex } else written
  | .lose => { store with inFlight := store.inFlight.erase turnIndex }

inductive ResumeAction where
  | call (move : Move ResumeCall)
  | worker (turnIndex : ℕ) (event : WorkerEvent)

abbrev ResumeCalls := Pool ResumeStore ServiceError FlowRunRow ResumeCall

/-- One step of the calls on a run and of the workflows they started. -/
def resumeStep (settings : ResumeSettings) (flowRunId : ℕ) (calls : ResumeCalls) :
    ResumeAction → Option ResumeCalls
  | .call move =>
    Interleaving.step (fun call => [resumeFlowRunThread settings flowRunId call]) calls move
  | .worker turnIndex event =>
    if turnIndex ∈ calls.shared.inFlight then
      some { calls with shared := calls.shared.work flowRunId turnIndex event }
    else none

variable (flowRunId : ℕ)

/-- What the code leaves to its callers: a call begins only on a waiting run, while no other call is
running and no workflow of the run is in flight. -/
def OneAtATime (calls : ResumeCalls) : ResumeAction → Prop
  | .call (.start _) =>
    calls.running = [] ∧ calls.shared.inFlight = [] ∧
      calls.shared.canonical flowRunId = some .waiting
  | _ => True

/-- The calls of a run that is settled, at most one of them running. -/
structure Orderly (flowRunId : ℕ) (calls : ResumeCalls) : Prop where
  settled : Settled flowRunId calls.shared
  one : OneHonours WorkflowsOnly (KeepsSettled flowRunId) calls

theorem keepsSettled_work (flowRunId turnIndex : ℕ) (st : ResumeStore) (event : WorkerEvent) :
    KeepsSettled flowRunId st (st.work flowRunId turnIndex event) := by
  intro settled
  cases event with
  | prepare => exact keepsSettled_setFlowRunStatus flowRunId _ st settled
  | finalize verdict acknowledged =>
    have written := keepsSettled_setFlowRunStatus flowRunId verdict.row st settled
    cases acknowledged with
    | false => exact written
    | true => exact ⟨⟨written.single, written.waiting⟩, written.none⟩
  | lose => exact ⟨⟨settled.single, settled.waiting⟩, settled.none⟩

theorem Orderly.step {settings flowRunId calls after action} (orderly : Orderly flowRunId calls)
    (guard : OneAtATime flowRunId calls action)
    (ran : resumeStep settings flowRunId calls action = some after) :
    Orderly flowRunId after := by
  obtain ⟨settled, one⟩ := orderly
  cases action with
  | worker turnIndex event =>
    rw [resumeStep] at ran
    split at ran
    · rename_i active
      cases ran
      refine ⟨keepsSettled_work flowRunId turnIndex _ event settled, one.disturb .trans ?_⟩
      intro idle
      rw [idle] at active
      cases active
    · cases ran
  | call move =>
    rw [resumeStep] at ran
    cases move with
    | start call =>
      obtain ⟨alone, idle, waits⟩ := guard
      cases ran
      exact ⟨by simpa using settled, Interleaving.oneHonours_put alone
        (resumeFlowRunThread_honest settings flowRunId call idle waits settled)⟩
    | advance idx =>
      obtain ⟨call, write, next, found, rfl⟩ := Interleaving.step_advance ran
      obtain ⟨later, lawful⟩ := one.advance .refl found
      exact ⟨by simpa using lawful settled, later⟩
    | drop idx =>
      obtain ⟨isIn, rfl⟩ := Interleaving.step_drop ran
      exact ⟨settled, one.drop isIn⟩

/-- **If calls on a waiting run begin one at a time, at most one turn is started before the run
returns to `WAITING`, and none on a run that does not wait.** -/
theorem single_flight_of_exclusive (settings : ResumeSettings) (flowRunId : ℕ)
    (calls : ResumeCalls) (alone : calls.running = []) (fresh : calls.shared.journal = [])
    (actions : List ResumeAction)
    (exclusive : ∀ t ∈ trace (resumeStep settings flowRunId) calls actions,
      OneAtATime flowRunId t.before t.action) :
    ∀ t ∈ trace (resumeStep settings flowRunId) calls actions, SingleFlight t.after.shared := by
  refine LabelledSystem.trace_law (I := Orderly flowRunId) (G := OneAtATime flowRunId)
    (fun _ _ _ orderly guard performed => orderly.step guard performed)
    (fun _ _ _ orderly guard performed => (orderly.step guard performed).settled.toSingleFlight)
    actions calls ⟨⟨⟨?_, ?_⟩, fun _ => ?_⟩, .inl alone⟩ exclusive
  · rw [fresh]
    exact Nat.zero_le 1
  · rw [fresh]
    exact fun _ member => nomatch member
  · rw [fresh]
    rfl

/-- Flow run 1 of user `u`, with the given status, its checkpoint and its graph. -/
def resumable (row : Row) : ResumeCalls :=
  { shared :=
      { db :=
          { Database.empty with
            versions := [{ flowVersionId := 20, flowId := 10, status := .published,
                           isActive := true }]
            graphSnapshots := [{ flowGraphSnapshotId := 30, flowVersionId := 20 }]
            sessions := [{ sessionId := 5, tenantId := 2, userId := "u" }]
            flowRuns :=
              [{ flowRunId := 1, sessionId := 5, flowVersionId := 20, userId := "u"
                 correlationId := 7, originFlowRunId := none, flowGraphSnapshotId := some 30
                 status := row.status, canonicalStatus := row.canonicalStatus, createdAt := 0 }]
            graphStates :=
              [{ flowRunId := 1
                 state := some
                   { currentNodeId := some "ask", resumeToNodeId := some "ask", state := []
                     memory := [], metadata := [] } }] }
        contracts := [], turnIndex := 0, accepted := [], inFlight := [], journal := [] }
    running := [], finished := [] }

/-- A call of user `u` in which nothing raises. -/
def plainCall : ResumeCall := { userId := some "u", fails := fun _ => none, verdict := .waiting }

variable (temporal : Bool)

/-- The settings of a deployment with or without the workflow engine. -/
def engineSettings : ResumeSettings := { temporalEnabled := temporal, engineAvailable := temporal }

/-- One call and the workflow it starts, up to the next `WAITING`. -/
def oneResume : List ResumeAction :=
  .call (.start plainCall) :: (List.replicate 11 (.call (.advance 0)) ++
    [.worker 1 .prepare, .worker 1 (.finalize .waiting true)])

def journalAfter (row : Row) (actions : List ResumeAction) : List TurnEvent :=
  ((trace (resumeStep (engineSettings temporal) 1) (resumable row) actions).getLast?.map
    fun t => t.after.shared.journal).getD []

theorem one_resume_single_flight : journalAfter true Verdict.waiting.row oneResume =
        [.statusWritten runningRow, .turnStarted .waiting, .statusWritten runningRow,
          .statusWritten runningRow, .statusWritten Verdict.waiting.row] ∧
      ∀ t ∈ trace (resumeStep (engineSettings true) 1) (resumable Verdict.waiting.row) oneResume,
        SingleFlight t.after.shared := by
  refine ⟨by decide +kernel, single_flight_of_exclusive _ _ _ rfl rfl _ ?_⟩
  intro t member
  rcases List.mem_cons.mp member with rfl | later
  · exact ⟨rfl, rfl, rfl⟩
  · have action := LabelledSystem.action_mem_of_trace later
    rcases List.mem_append.mp action with moved | worked
    · rw [List.eq_of_mem_replicate moved]
      trivial
    · rcases List.mem_cons.mp worked with same | last
      · rw [same]
        trivial
      · rw [List.mem_singleton.mp last]
        trivial

def callsAtOnce (calls steps : ℕ) : List ResumeAction :=
  List.replicate calls (.call (.start plainCall)) ++ List.replicate steps (.call (.advance 0))

/-- Two calls that read the waiting run one after the other both start a turn, and a call on a
completed run starts one, in process and with the workflow engine. -/
theorem two_turns_started :
    turnsSinceWaiting (journalAfter false Verdict.waiting.row (callsAtOnce 2 16)) = 2 ∧
      turnsSinceWaiting (journalAfter true Verdict.waiting.row (callsAtOnce 2 18)) = 2 ∧
      .turnStarted .completed ∈ journalAfter false Verdict.completed.row (callsAtOnce 1 8) ∧
      .turnStarted .completed ∈ journalAfter true Verdict.completed.row (callsAtOnce 1 9) := by
  decide +kernel

end AgentOrchestration.Execution
