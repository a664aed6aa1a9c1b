import AgentOrchestration.Library.CallOrder
import AgentOrchestration.Library.Positions
import AgentOrchestration.Execution.Database

/-!
# Execution events

The event log of `ExecutionRepository`: each process buffers the events of the runs it
batches, and writes them in database sessions. A session finds the user of the run,
selects the lock row of the run `FOR UPDATE`, reads the largest sequence number, and
commits one row per event. `EventSystem.step` interleaves the calls and the sessions of
any number of processes; a session may be lost at any point.
-/

namespace AgentOrchestration.EventLog

set_option autoImplicit false

open Execution (ServiceError)
open CallOrder (Mark)
open Function (update)

/-! ## Events and their rows -/

/-- The arguments of `append_execution_event` that describe an event. -/
structure EventData where
  tenantId : ℕ
  userId : Option String
  sessionId : ℕ
  eventType : String
  payload : Fields
  correlationId : ℕ
  causationId : Option ℕ
  schemaVersion : ℤ
  nodeId : Option ℕ
  edgeId : Option String
  deriving DecidableEq

structure BufferedEvent where
  eventId : ℕ
  data : EventData
  deriving DecidableEq

/-- A row of `execution_event`. -/
structure EventRow where
  executionEventId : ℕ
  tenantId : ℕ
  userId : String
  sessionId : ℕ
  flowRunId : ℕ
  correlationId : ℕ
  causationId : Option ℕ
  eventSequence : ℕ
  schemaVersion : ℤ
  type : String
  payload : Fields
  nodeId : Option ℕ
  edgeId : Option String
  deriving DecidableEq

variable (flowRunId : ℕ) (userId : String)

def eventRow (eventSequence : ℕ) (event : BufferedEvent) : EventRow :=
  { executionEventId := event.eventId, tenantId := event.data.tenantId, userId
    sessionId := event.data.sessionId, flowRunId, correlationId := event.data.correlationId
    causationId := event.data.causationId, eventSequence, schemaVersion := event.data.schemaVersion
    type := event.data.eventType, payload := event.data.payload, nodeId := event.data.nodeId
    edgeId := event.data.edgeId }

/-- The rows of a batch, numbered on from `nextSeq`. -/
def eventRows (flowRunId : ℕ) (userId : String) : ℕ → List BufferedEvent → List EventRow
  | _, [] => []
  | nextSeq, event :: rest =>
    eventRow flowRunId userId nextSeq event :: eventRows flowRunId userId (nextSeq + 1) rest

structure EventTables where
  /-- `flow_run.user_id`. -/
  users : ℕ → Option String
  /-- Whether the run has a row in `flow_run_lock`. -/
  lockRows : ℕ → Bool
  rows : List EventRow

variable (tables : EventTables)

def EventTables.rowsOf (flowRunId : ℕ) : List EventRow :=
  tables.rows.filter fun row => row.flowRunId = flowRunId

/-- `coalesce(max(event_sequence), 0) + 1`. -/
def EventTables.nextSequence (flowRunId : ℕ) : ℕ :=
  Positions.top ((tables.rowsOf flowRunId).map EventRow.eventSequence) + 1

/-! ## The buffer of a process -/

/-- `_batching_flow_runs` and `_event_batch_buffer`. -/
structure EventBuffer where
  batching : ℕ → Bool
  buffers : ℕ → Option (List BufferedEvent)

def EventBuffer.empty : EventBuffer := { batching := fun _ => false, buffers := fun _ => none }

variable (buffer : EventBuffer)

def EventBuffer.of (flowRunId : ℕ) : List BufferedEvent := (buffer.buffers flowRunId).getD []

/-- `start_event_batching`. -/
def EventBuffer.start (flowRunId : ℕ) : EventBuffer :=
  { batching := update buffer.batching flowRunId true
    buffers := update buffer.buffers flowRunId (some (buffer.of flowRunId)) }

/-- What `append_execution_event` does with an event once it has seen the buffer. -/
inductive Appended where
  /-- The run is not batched; the event is written at once. -/
  | direct
  | buffered
  /-- The batch is full and is written. -/
  | drained (events : List BufferedEvent)

/-- `append_execution_event` under the buffer's lock. -/
def EventBuffer.append (batchSize : ℤ) (buffer : EventBuffer) (flowRunId : ℕ)
    (event : BufferedEvent) :
    EventBuffer × Appended :=
  if buffer.batching flowRunId then
    let events := buffer.of flowRunId ++ [event]
    if batchSize ≤ events.length then
      ({ buffer with buffers := update buffer.buffers flowRunId (some []) }, .drained events)
    else
      ({ buffer with buffers := update buffer.buffers flowRunId (some events) }, .buffered)
  else (buffer, .direct)

/-- `flush_execution_events` under the buffer's lock; the events it takes are `buffer.of
flowRunId`. -/
def EventBuffer.flush (flowRunId : ℕ) : EventBuffer :=
  { batching := update buffer.batching flowRunId false
    buffers := update buffer.buffers flowRunId none }

/-! ## Sessions -/

/-- How far a session has come. -/
inductive Stage where
  | opened
  /-- The user is known. -/
  | named (userId : String)
  /-- The lock row, if there is one, is held. -/
  | locked (userId : String)
  /-- The next sequence number was read. -/
  | numbered (userId : String) (nextSeq : ℕ)
  deriving DecidableEq

/-- A database session that writes events of a run; `answers` is the append that waits for it. -/
structure Session where
  flowRunId : ℕ
  events : List BufferedEvent
  answers : Option ℕ
  stage : Stage
  deriving DecidableEq

variable (session : Session)

/-- The session is past its `SELECT … FOR UPDATE`. -/
def Session.holds : Bool :=
  match session.stage with
  | .locked _ => true
  | .numbered _ _ => true
  | _ => false

/-- The session is past its `SELECT … FOR UPDATE` on a given run. -/
def Session.holdsFor : Bool := session.flowRunId = flowRunId && session.holds

def Session.user (tables : EventTables) : Option String :=
  match session.events.head?.bind (·.data.userId) with
  | some userId => some userId
  | none => tables.users session.flowRunId

/-- What a statement of a session comes to. -/
inductive Progress where
  | next (stage : Stage)
  | raises (error : ServiceError)
  | commits (rows : List EventRow)

def Session.execute (tables : EventTables) : Progress :=
  match session.stage with
  | .opened =>
    match session.user tables with
    | none => .raises (.notFound "flow_run_user_not_found")
    | some userId => .next (.named userId)
  | .named userId => .next (.locked userId)
  | .locked userId => .next (.numbered userId (tables.nextSequence session.flowRunId))
  | .numbered userId nextSeq =>
    .commits (eventRows session.flowRunId userId nextSeq session.events)

/-! ## The system -/

/-- The tables, the buffers of the processes and the sessions they have open, oldest first.
`issued` counts the event ids given out; `history` records the calls of
`append_execution_event`. -/
structure EventSystem where
  tables : EventTables
  buffers : ℕ → EventBuffer
  sessions : List Session
  issued : ℕ
  history : List (Mark ℕ)

/-- What can happen. -/
inductive EventAction where
  | start (process flowRunId : ℕ)
  | append (process : ℕ) (flowRunId : Option ℕ) (data : EventData)
  | flush (process flowRunId : ℕ)
  /-- A session executes its next statement. -/
  | advance (index : ℕ)
  /-- A session ends without a commit. -/
  | abort (index : ℕ)

namespace EventSystem

variable (system : EventSystem)

def setBuffer (process : ℕ) (buffer : EventBuffer) : EventSystem :=
  { system with buffers := update system.buffers process buffer }

def openSession (flowRunId : ℕ) (events : List BufferedEvent) (answers : Option ℕ) : EventSystem :=
  if events = [] then system
  else { system with sessions := system.sessions ++ [{ flowRunId, events, answers,
                                                       stage := .opened }] }

/-- A call of `append_execution_event`; its event gets a fresh identifier. -/
def called (system : EventSystem) : EventSystem :=
  { system with issued := system.issued + 1, history := system.history ++ [.called system.issued] }

/-- A call of `append_execution_event` returns. -/
def returned (system : EventSystem) (eventId : ℕ) : EventSystem :=
  { system with history := system.history ++ [.returned eventId] }

variable (batchSize : ℤ)

/-- `append_execution_event` up to the session that it may wait for. -/
def appendEvent (system : EventSystem) (process : ℕ) (flowRunId : Option ℕ) (data : EventData) :
    EventSystem :=
  let event : BufferedEvent := { eventId := system.issued, data }
  match flowRunId with
  | none => system.called.returned event.eventId
  | some flowRunId =>
    match (system.buffers process).append batchSize flowRunId event with
    | (_, .direct) => system.called.openSession flowRunId [event] (some event.eventId)
    | (buffer, .buffered) => (system.called.setBuffer process buffer).returned event.eventId
    | (buffer, .drained events) =>
      (system.called.setBuffer process buffer).openSession flowRunId events (some event.eventId)

variable (index : ℕ)

def waits (session : Session) : Bool :=
  (match session.stage with
    | .named _ => true
    | _ => false) &&
    system.tables.lockRows session.flowRunId &&
    (system.sessions.eraseIdx index).any (Session.holdsFor session.flowRunId)

def close : EventSystem := { system with sessions := system.sessions.eraseIdx index }

def commit (session : Session) (rows : List EventRow) :
    EventSystem :=
  let committed : EventSystem :=
    { system.close index with tables := { system.tables with rows := system.tables.rows ++ rows } }
  match session.answers with
  | none => committed
  | some eventId => committed.returned eventId

def setStage (session : Session) (stage : Stage) : EventSystem :=
  { system with sessions := system.sessions.set index { session with stage } }

def step (system : EventSystem) : EventAction → Option EventSystem
  | .start process flowRunId =>
    some (system.setBuffer process ((system.buffers process).start flowRunId))
  | .append process flowRunId data => some (system.appendEvent batchSize process flowRunId data)
  | .flush process flowRunId =>
    some ((system.setBuffer process ((system.buffers process).flush flowRunId)).openSession
      flowRunId ((system.buffers process).of flowRunId) none)
  | .advance index =>
    match system.sessions[index]? with
    | none => none
    | some session =>
      if system.waits index session then none
      else
        match session.execute system.tables with
        | .next stage => some (system.setStage index session stage)
        | .raises _ => some (system.close index)
        | .commits rows => some (system.commit index session rows)
  | .abort index =>
    if index < system.sessions.length then some (system.close index) else none

def after (system : EventSystem) (actions : List EventAction) : EventSystem :=
  LabelledSystem.final (step batchSize) system actions

def initial (users : ℕ → Option String) (lockRows : ℕ → Bool) : EventSystem :=
  { tables := { users, lockRows, rows := [] }, buffers := fun _ => .empty, sessions := []
    issued := 0, history := [] }

end EventSystem

/-! ## The rows of a batch -/

variable (events : List BufferedEvent)

theorem eventRows_sequence : ∀ nextSeq,
    (eventRows flowRunId userId nextSeq events).map EventRow.eventSequence
      = List.range' nextSeq events.length := by
  induction events with
  | nil => exact fun _ => rfl
  | cons event rest ih =>
    intro nextSeq
    rw [eventRows, List.map_cons, ih, List.length_cons, List.range'_succ]
    rfl

theorem eventRows_eventId :
    ∀ nextSeq, (eventRows flowRunId userId nextSeq events).map EventRow.executionEventId
      = events.map BufferedEvent.eventId := by
  induction events with
  | nil => exact fun _ => rfl
  | cons event rest ih =>
    intro nextSeq
    rw [eventRows, List.map_cons, ih, List.map_cons]
    rfl

theorem flowRunId_of_mem_eventRows {flowRunId userId events} {row : EventRow} :
    ∀ {nextSeq : ℕ}, row ∈ eventRows flowRunId userId nextSeq events →
      row.flowRunId = flowRunId := by
  induction events with
  | nil => exact fun mem => nomatch mem
  | cons event rest ih =>
    intro nextSeq mem
    rcases List.mem_cons.mp mem with rfl | later
    · rfl
    · exact ih later

theorem rowsOf_commit (flowRunId other userId nextSeq events) :
    EventTables.rowsOf { tables with rows := tables.rows ++ eventRows other userId nextSeq events }
      flowRunId
      = tables.rowsOf flowRunId ++
        if other = flowRunId then eventRows other userId nextSeq events else [] := by
  rw [EventTables.rowsOf, List.filter_append]
  congr 1
  split
  · rename_i eq
    exact List.filter_eq_self.mpr fun row mem => by simp [flowRunId_of_mem_eventRows mem, eq]
  · rename_i ne
    exact List.filter_eq_nil_iff.mpr fun row mem => by simp [flowRunId_of_mem_eventRows mem, ne]

/-! ## What one step can do -/

/-- What the advance of a session can come to; `left` and `right` are the other sessions. -/
inductive Advanced (system : EventSystem) (left : List Session) (session : Session)
    (right : List Session) : EventSystem → Prop where
  | named (userId : String) (opened : session.stage = .opened) : Advanced system left session right
        { system with sessions := left ++
            { session with stage := .named userId } :: right }
  | locked (userId : String) (named : session.stage = .named userId)
      (free : system.tables.lockRows session.flowRunId = true →
        ∀ other ∈ left ++ right, other.holdsFor session.flowRunId = false) :
      Advanced system left session right
        { system with sessions := left ++
            { session with stage := .locked userId } :: right }
  | numbered (userId : String) (locked : session.stage = .locked userId) :
    Advanced system left session right
        { system with
          sessions := left ++
            { session with
              stage := .numbered userId (system.tables.nextSequence session.flowRunId) } :: right }
  | raised (opened : session.stage = .opened) (unknown : session.user system.tables = none) :
      Advanced system left session right
        { system with sessions := left ++ right }
  | committed (userId : String) (nextSeq : ℕ)
    (numbered : session.stage = .numbered userId nextSeq) :
      Advanced system left session right
        { system with
          sessions := left ++ right
          tables := { system.tables with
            rows := system.tables.rows ++ eventRows session.flowRunId userId nextSeq
              session.events }
          history := system.history ++ (session.answers.map Mark.returned).toList }

variable {batchSize : ℤ} {system next : EventSystem} {index : ℕ}

theorem step_advance (ran : system.step batchSize (.advance index) = some next) :
    ∃ session left right, system.sessions = left ++ session :: right ∧
      left = system.sessions.take index ∧ system.sessions[index]? = some session ∧
      Advanced system left session right next := by
  rw [EventSystem.step] at ran
  cases found : system.sessions[index]? with
  | none =>
    rw [found] at ran
    cases ran
  | some session =>
    obtain ⟨left, right, split, taken, erased, replaced⟩ := Positions.split_of_getElem? found
    refine ⟨session, left, right, split, taken, rfl, ?_⟩
    simp only [found] at ran
    split at ran
    · cases ran
    · rename_i goesOn
      unfold Session.execute at ran
      cases stage : session.stage with
      | opened =>
        simp only [stage] at ran
        cases user : session.user system.tables with
        | none =>
          simp only [user] at ran
          cases ran
          rw [EventSystem.close, erased]
          exact .raised stage user
        | some userId =>
          simp only [user] at ran
          cases ran
          rw [EventSystem.setStage, replaced]
          exact .named userId stage
      | named userId =>
        simp only [stage] at ran
        cases ran
        rw [EventSystem.setStage, replaced]
        refine .locked userId stage fun lockRow other mem => ?_
        simp only [EventSystem.waits, stage, lockRow, erased, Bool.true_and, List.any_eq_true,
          not_exists, not_and] at goesOn
        exact Bool.eq_false_iff.mpr (goesOn other mem)
      | locked userId =>
        simp only [stage] at ran
        cases ran
        rw [EventSystem.setStage, replaced]
        exact .numbered userId stage
      | numbered userId nextSeq =>
        simp only [stage] at ran
        cases ran
        have committed : Advanced system left session right _ := .committed userId nextSeq stage
        unfold EventSystem.commit EventSystem.close EventSystem.returned
        rw [erased]
        cases answers : session.answers with
        | none =>
          rw [answers] at committed
          simpa using committed
        | some eventId =>
          rw [answers] at committed
          exact committed

theorem step_abort (ran : system.step batchSize (.abort index) = some next) :
    ∃ session left right, system.sessions = left ++ session :: right ∧
      next = { system with sessions := left ++ right } := by
  rw [EventSystem.step] at ran
  split at ran
  · rename_i isIn
    cases ran
    obtain ⟨left, right, split, -, erased, -⟩ :=
      Positions.split_of_getElem? (List.getElem?_eq_getElem isIn)
    refine ⟨_, left, right, split, ?_⟩
    rw [EventSystem.close, erased]
  · cases ran

end AgentOrchestration.EventLog
