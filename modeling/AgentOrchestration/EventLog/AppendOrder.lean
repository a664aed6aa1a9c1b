import AgentOrchestration.EventLog.EventSequence

/-!
# Append order and log order

The buffer of a run is drained under the buffer's lock, but the drained batch is written
after that lock is released, so batches may overtake each other on their way to the lock
row of the run.
-/

namespace AgentOrchestration.EventLog

set_option autoImplicit false

open CallOrder (Mark Earlier InOrder Proper)
open LabelledSystem (trace)
open EventSystem (openSession setBuffer called)
open Function (update_of_ne)

/-! ## The events of a run -/

def Session.eventIds (session : Session) : List ℕ := session.events.map BufferedEvent.eventId

variable (flowRunId : ℕ)

/-- The identifiers of the events of a run in open sessions, oldest session first. -/
def pendingIds (sessions : List Session) : List ℕ :=
  (sessions.filter fun session => session.flowRunId = flowRunId).flatMap Session.eventIds

def EventTables.eventIds (tables : EventTables) (flowRunId : ℕ) : List ℕ :=
  (tables.rowsOf flowRunId).map EventRow.executionEventId

def EventBuffer.eventIds (buffer : EventBuffer) (flowRunId : ℕ) : List ℕ :=
  (buffer.of flowRunId).map BufferedEvent.eventId

variable (system : EventSystem)

/-- The events of a run that one process appends: written, on their way, and buffered. -/
def EventSystem.arrivals (process flowRunId : ℕ) : List ℕ :=
  system.tables.eventIds flowRunId ++
    (pendingIds flowRunId system.sessions ++ (system.buffers process).eventIds flowRunId)

/-- A session that takes the lock row of the run does so in turn: no event whose append has returned
waits in a session of the run that was opened before. -/
def EventSystem.InTurn (flowRunId index : ℕ) : Prop :=
  ∀ session userId, system.sessions[index]? = some session → session.stage = .named userId →
    session.flowRunId = flowRunId → ∀ older ∈ system.sessions.take index,
      older.flowRunId = flowRunId → ∀ event ∈ older.events, .returned event.eventId ∉ system.history

def Orderly (process flowRunId : ℕ) (system : EventSystem) : EventAction → Prop
  | .start _ _ => True
  | .append other run _ => run = some flowRunId → other = process
  | .flush other run => run = flowRunId → other = process
  | .advance index => system.InTurn flowRunId index
  | .abort _ => True

/-! ## Events on their way -/

section

variable {flowRunId : ℕ} {left right sessions : List Session} {session : Session}

theorem pendingIds_append (left right : List Session) :
    pendingIds flowRunId (left ++ right) =
      pendingIds flowRunId left ++ pendingIds flowRunId right := by
  simp [pendingIds, List.filter_append]

theorem pendingIds_cons_same (eq : session.flowRunId = flowRunId) :
    pendingIds flowRunId (session :: right) = session.eventIds ++ pendingIds flowRunId right := by
  simp [pendingIds, eq]

theorem pendingIds_cons_other (ne : session.flowRunId ≠ flowRunId) :
    pendingIds flowRunId (session :: right) = pendingIds flowRunId right := by
  simp [pendingIds, ne]

theorem pendingIds_setStage (stage : Stage) :
    pendingIds flowRunId (left ++ { session with stage } :: right)
      = pendingIds flowRunId (left ++ session :: right) := by
  by_cases same : session.flowRunId = flowRunId
  · simp [pendingIds, same, Session.eventIds]
  · simp [pendingIds, same]

theorem mem_pendingIds {eventId : ℕ} (mem : eventId ∈ pendingIds flowRunId sessions) :
    ∃ session ∈ sessions, session.flowRunId = flowRunId ∧ ∃ event ∈ session.events,
      event.eventId = eventId := by
  obtain ⟨session, inside, event⟩ := List.mem_flatMap.mp mem
  obtain ⟨inside, eq⟩ := List.mem_filter.mp inside
  exact ⟨session, inside, by simpa using eq, List.mem_map.mp event⟩

theorem pendingIds_remove (session : Session) :
    (pendingIds flowRunId (left ++ right)).Sublist
      (pendingIds flowRunId (left ++ session :: right)) := by
  rw [pendingIds_append, pendingIds_append]
  refine (List.Sublist.refl _).append ?_
  by_cases eq : session.flowRunId = flowRunId
  · rw [pendingIds_cons_same eq]
    exact List.sublist_append_right _ _
  · rw [pendingIds_cons_other eq]

end

/-! ## Written events -/

section

variable {flowRunId other : ℕ} (tables : EventTables)

theorem eventIds_commit (flowRunId other userId nextSeq events) :
    EventTables.eventIds
      { tables with rows := tables.rows ++ eventRows other userId nextSeq events }
        flowRunId
      = tables.eventIds flowRunId ++
        if other = flowRunId then events.map BufferedEvent.eventId else [] := by
  rw [EventTables.eventIds, rowsOf_commit, List.map_append]
  split
  · rw [eventRows_eventId]
    rfl
  · rfl

end

/-! ## Buffers and sessions -/

section

variable {flowRunId other process : ℕ} {system : EventSystem}

theorem of_update_same (batching buffers events) :
    EventBuffer.of { batching, buffers := Function.update buffers flowRunId events } flowRunId
      = events.getD [] := by
  simp [EventBuffer.of]

theorem of_update_other (ne : flowRunId ≠ other) (batching buffers events) :
    EventBuffer.of { batching, buffers := Function.update buffers other events } flowRunId
      = (buffers flowRunId).getD [] := by
  simp [EventBuffer.of, ne]

theorem of_start (buffer : EventBuffer) :
    (buffer.start other).of flowRunId = buffer.of flowRunId := by
  by_cases eq : flowRunId = other
  · subst eq
    exact of_update_same _ _ _
  · exact of_update_other eq _ _ _

theorem of_append_other (ne : flowRunId ≠ other) (batchSize) (buffer : EventBuffer) (event) :
    ((buffer.append batchSize other event).1).of flowRunId = buffer.of flowRunId := by
  unfold EventBuffer.append
  split
  · dsimp only
    split <;> exact of_update_other ne _ _ _
  · rfl

variable (batchSize : ℤ)

theorem batching_append (buffer : EventBuffer) (event : BufferedEvent) :
    ((buffer.append batchSize other event).1).batching = buffer.batching := by
  unfold EventBuffer.append
  split
  · dsimp only
    split <;> rfl
  · rfl

theorem append_cases (buffer : EventBuffer) (event : BufferedEvent) :
    buffer.batching flowRunId = false ∧
      buffer.append batchSize flowRunId event = (buffer, .direct) ∨
    buffer.batching flowRunId = true ∧ ∃ after, after.batching = buffer.batching ∧
      (buffer.append batchSize flowRunId event = (after, .buffered) ∧
          after.of flowRunId = buffer.of flowRunId ++ [event] ∨
        buffer.append batchSize flowRunId event =
          (after, .drained (buffer.of flowRunId ++ [event])) ∧
          after.of flowRunId = []) := by
  unfold EventBuffer.append
  cases batched : buffer.batching flowRunId with
  | false => exact .inl ⟨rfl, rfl⟩
  | true =>
    refine .inr ⟨rfl, ?_⟩
    simp only [if_true]
    split
    · refine ⟨_, ?_, .inr ⟨rfl, of_update_same _ _ _⟩⟩
      rfl
    · refine ⟨_, ?_, .inl ⟨rfl, of_update_same _ _ _⟩⟩
      rfl

theorem sessions_openSession (system : EventSystem) (other) {events}
    (some : events ≠ []) (answers) :
    (system.openSession other events answers).sessions
      = system.sessions ++ [{ flowRunId := other, events, answers, stage := .opened }] := by
  rw [openSession, if_neg some]

theorem arrivals_openSession_same (system : EventSystem) (process flowRunId : ℕ)
    (events : List BufferedEvent) (answers : Option ℕ) :
    (system.openSession flowRunId events answers).arrivals process flowRunId
      = system.tables.eventIds flowRunId ++
        (pendingIds flowRunId system.sessions ++ events.map BufferedEvent.eventId ++
          (system.buffers process).eventIds flowRunId) := by
  unfold openSession
  split
  · rename_i none
    simp [EventSystem.arrivals, none]
  · simp only [EventSystem.arrivals, pendingIds_append]
    simp [pendingIds, Session.eventIds]

theorem arrivals_openSession_other (ne : flowRunId ≠ other) (system : EventSystem)
    (process events answers) :
    (system.openSession other events answers).arrivals process flowRunId
      = system.arrivals process flowRunId := by
  unfold openSession
  split
  · rfl
  · simp only [EventSystem.arrivals, pendingIds_append]
    simp [pendingIds, ne.symm]

/-- A process replaces its buffer, and for this run nothing changes. -/
theorem arrivals_setBuffer {buffer : EventBuffer}
    (eq : other = process → buffer.of flowRunId = (system.buffers process).of flowRunId) :
    (system.setBuffer other buffer).arrivals process flowRunId =
      system.arrivals process flowRunId := by
  have eventIds : ((system.setBuffer other buffer).buffers process).eventIds flowRunId
      = (system.buffers process).eventIds flowRunId := by
    by_cases here : other = process
    · subst here
      simp [setBuffer, EventBuffer.eventIds, eq rfl]
    · simp [setBuffer, update_of_ne (Ne.symm here)]
  rw [EventSystem.arrivals, eventIds]
  rfl

theorem arrivals_flush {run : ℕ} (own : run = flowRunId → other = process) :
    ((system.setBuffer other ((system.buffers other).flush run)).openSession run
        ((system.buffers other).of run) none).arrivals process flowRunId
      = system.arrivals process flowRunId := by
  by_cases eq : run = flowRunId
  · subst eq
    rw [own rfl, arrivals_openSession_same]
    simp [setBuffer, EventBuffer.eventIds, EventBuffer.flush, EventBuffer.of, EventSystem.arrivals]
  · rw [arrivals_openSession_other (Ne.symm eq)]
    refine arrivals_setBuffer fun here => ?_
    rw [EventBuffer.flush, of_update_other (Ne.symm eq), here]
    rfl

theorem buffers_openSession (system : EventSystem) (other events answers) :
    (system.openSession other events answers).buffers = system.buffers := by
  unfold openSession
  split <;> rfl

end

/-! ## The invariant -/

def Unhurried (history : List (Mark ℕ)) (older session : Session) : Prop :=
  older.flowRunId = flowRunId → session.holdsFor flowRunId = true →
    ∀ x ∈ older.eventIds, ∀ y ∈ session.eventIds, ¬ Earlier history x y

/-- The events of the run stand in an order in which they were appended. -/
structure Arranged (process flowRunId : ℕ) (system : EventSystem) : Prop where
  proper : Proper system.history
  ordered : InOrder system.history (system.arrivals process flowRunId)
  issued : ∀ eventId ∈ system.arrivals process flowRunId, eventId < system.issued
  returned : ∀ eventId, .returned eventId ∈ system.history → eventId < system.issued
  answered : ∀ session ∈ system.sessions, ∀ eventId ∈ session.answers, eventId < system.issued
  unhurried : system.sessions.Pairwise (Unhurried flowRunId system.history)
  idle : (system.buffers process).batching flowRunId = false →
    (system.buffers process).of flowRunId = []

section

variable {process flowRunId : ℕ} {system next : EventSystem} {batchSize : ℤ}

variable {session : Session} {history : List (Mark ℕ)}

/-- What a holding session may overtake does not change as the history grows. -/
theorem Unhurried.append {mark : Mark ℕ} {older session : Session}
    (unhurried : Unhurried flowRunId history older session)
    (known : session.flowRunId = flowRunId → session.holds = true →
      ∀ y ∈ session.eventIds, mark ≠ .called y) :
    Unhurried flowRunId (history ++ [mark]) older session := by
  intro eq holds x mx y my earlier
  rcases CallOrder.earlier_append earlier with old | ⟨new, -⟩
  · exact unhurried eq holds x mx y my old
  · simp only [Session.holdsFor, Bool.and_eq_true, decide_eq_true_eq] at holds
    exact known holds.1 holds.2 y my new

theorem unhurried_openSession (other events answers)
    (unhurried : system.sessions.Pairwise (Unhurried flowRunId history)) :
    (system.openSession other events answers).sessions.Pairwise (Unhurried flowRunId history) := by
  unfold openSession
  split
  · exact unhurried
  · refine List.pairwise_append.mpr ⟨unhurried, List.pairwise_singleton _ _, ?_⟩
    intro older _ session mem _ holds
    rw [List.mem_singleton.mp mem] at holds
    simp [Session.holdsFor, Session.holds] at holds

variable (arranged : Arranged process flowRunId system)

include arranged

theorem Arranged.pending_lt (mem : session ∈ system.sessions) (eq : session.flowRunId = flowRunId) :
    ∀ eventId ∈ session.eventIds, eventId < system.issued := by
  intro eventId isIn
  refine arranged.issued eventId ?_
  refine List.mem_append_right _ (List.mem_append_left _ (List.mem_flatMap.mpr ⟨session, ?_, isIn⟩))
  exact List.mem_filter.mpr ⟨mem, by simpa using eq⟩

theorem Arranged.return {eventId : ℕ}
    (issued : eventId < system.issued) : Arranged process flowRunId (system.returned eventId) := by
  refine ⟨arranged.proper.returned, arranged.ordered.returned, arranged.issued, ?_,
    arranged.answered, ?_, arranged.idle⟩
  · intro other mem
    rcases List.mem_append.mp mem with old | new
    · exact arranged.returned other old
    · cases List.mem_singleton.mp new
      exact issued
  · exact arranged.unhurried.imp fun unhurried => unhurried.append fun _ _ _ _ eq => nomatch eq

/-- The events of the run are the same, in the same order, and so are the holding sessions. -/
theorem Arranged.congr (history : next.history = system.history)
    (issued : next.issued = system.issued)
    (arrivals : next.arrivals process flowRunId = system.arrivals process flowRunId)
    (answered : ∀ session ∈ next.sessions, ∀ eventId ∈ session.answers, eventId < system.issued)
    (unhurried : next.sessions.Pairwise (Unhurried flowRunId system.history))
    (idle : (next.buffers process).batching flowRunId = false →
      (next.buffers process).of flowRunId = []) : Arranged process flowRunId next := by
  refine ⟨?_, ?_, ?_, ?_, ?_, ?_, idle⟩
  · rw [history]
    exact arranged.proper
  · rw [history, arrivals]
    exact arranged.ordered
  · rw [issued, arrivals]
    exact arranged.issued
  · rw [history, issued]
    exact arranged.returned
  · rwa [issued]
  · rwa [history]

/-- An event is appended: to the end of the run's events, or to another run. -/
theorem Arranged.call (history : next.history = system.history ++ [.called system.issued])
    (issued : next.issued = system.issued + 1)
    (arrivals : next.arrivals process flowRunId = system.arrivals process flowRunId ∨
      next.arrivals process flowRunId = system.arrivals process flowRunId ++ [system.issued])
    (sessions : next.sessions = system.sessions ∨
      ∃ opened, next.sessions = system.sessions ++ [opened] ∧ opened.stage = .opened ∧
        opened.answers = some system.issued)
    (idle : (next.buffers process).batching flowRunId = false →
      (next.buffers process).of flowRunId = []) : Arranged process flowRunId next := by
  have absent : system.issued ∉ system.arrivals process flowRunId :=
    fun mem => Nat.lt_irrefl _ (arranged.issued _ mem)
  have fresh : .returned system.issued ∉ system.history :=
    fun mem => Nat.lt_irrefl _ (arranged.returned _ mem)
  have waiting : system.sessions.Pairwise
      (Unhurried flowRunId (system.history ++ [.called system.issued])) := by
    refine List.Pairwise.imp_of_mem (fun {older session} _ mem unhurried => ?_) arranged.unhurried
    refine unhurried.append fun eq _ y my new => ?_
    cases new
    exact Nat.lt_irrefl _ (arranged.pending_lt mem eq _ my)
  refine ⟨?_, ?_, ?_, ?_, ?_, ?_, idle⟩
  · rw [history]
    exact arranged.proper.called fresh
  · rcases arrivals with eq | last
    · rw [history, eq]
      exact arranged.ordered.elsewhere absent
    · rw [history, last]
      exact arranged.ordered.called absent fresh
  · intro eventId mem
    rw [issued]
    rcases arrivals with eq | last
    · rw [eq] at mem
      exact Nat.lt_succ_of_lt (arranged.issued eventId mem)
    · rw [last, List.mem_append, List.mem_singleton] at mem
      rcases mem with old | rfl
      · exact Nat.lt_succ_of_lt (arranged.issued eventId old)
      · exact Nat.lt_succ_self _
  · intro eventId mem
    rw [history, List.mem_append, List.mem_singleton] at mem
    rw [issued]
    rcases mem with old | new
    · exact Nat.lt_succ_of_lt (arranged.returned eventId old)
    · cases new
  · intro session mem eventId answers
    rw [issued]
    rcases sessions with eq | ⟨opened, last, -, waits⟩
    · rw [eq] at mem
      exact Nat.lt_succ_of_lt (arranged.answered session mem eventId answers)
    · rw [last, List.mem_append, List.mem_singleton] at mem
      rcases mem with old | rfl
      · exact Nat.lt_succ_of_lt (arranged.answered session old eventId answers)
      · rw [waits] at answers
        cases answers
        exact Nat.lt_succ_self _
  · rw [history]
    rcases sessions with eq | ⟨opened, last, stage, -⟩
    · rwa [eq]
    · rw [last]
      refine List.pairwise_append.mpr ⟨waiting, List.pairwise_singleton _ _, ?_⟩
      intro older _ session mem _ holds
      rw [List.mem_singleton.mp mem, Session.holdsFor, Session.holds, stage] at holds
      simp at holds

theorem Arranged.append_same (data : EventData) :
    Arranged process flowRunId (system.appendEvent batchSize process (some flowRunId) data) := by
  unfold EventSystem.appendEvent
  dsimp only
  rcases append_cases batchSize (system.buffers process)
      { eventId := system.issued, data } with ⟨unbatched, direct⟩ |
      ⟨batched, after, batching, ⟨buffered, kept⟩ | ⟨drained, kept⟩⟩
  · rw [direct]
    have arrivals := arrivals_openSession_same system.called process flowRunId
      [{ eventId := system.issued, data }] (some system.issued)
    have nothing : (system.buffers process).eventIds flowRunId = [] := by
      rw [EventBuffer.eventIds, arranged.idle unbatched]
      rfl
    have last : (system.called.openSession flowRunId [{ eventId := system.issued, data }]
        (some system.issued)).arrivals process flowRunId
        = system.arrivals process flowRunId ++ [system.issued] := by
      rw [arrivals]
      simp [EventSystem.arrivals, called, nothing]
    refine arranged.call ?_ ?_ (.inr last)
      (.inr ⟨_, sessions_openSession _ _ (by simp) _, rfl, rfl⟩) ?_
    · simp [openSession, called]
    · simp [openSession, called]
    · exact arranged.idle
  · rw [buffered]
    have last : (system.called.setBuffer process after).arrivals process flowRunId
        = system.arrivals process flowRunId ++ [system.issued] := by
      simp [EventSystem.arrivals, setBuffer, called, EventBuffer.eventIds, kept]
    have called : Arranged process flowRunId (system.called.setBuffer process after) := by
      refine arranged.call rfl rfl (.inr last) (.inl rfl) fun unbatched => ?_
      simp only [setBuffer, Function.update_self, batching, batched] at unbatched
      cases unbatched
    exact called.return (Nat.lt_succ_self _)
  · rw [drained]
    have nonempty :
        (system.buffers process).of flowRunId ++ [{ eventId := system.issued, data }] ≠ [] := by
      simp
    have arrivals :=
      arrivals_openSession_same (system.called.setBuffer process after) process flowRunId
      ((system.buffers process).of flowRunId ++ [{ eventId := system.issued, data }])
      (some system.issued)
    have last : ((system.called.setBuffer process after).openSession flowRunId
        ((system.buffers process).of flowRunId ++ [{ eventId := system.issued, data }])
        (some system.issued)).arrivals process flowRunId
        = system.arrivals process flowRunId ++ [system.issued] := by
      rw [arrivals]
      simp [EventSystem.arrivals, setBuffer, called, EventBuffer.eventIds, kept]
    refine arranged.call ?_ ?_ (.inr last)
      (.inr ⟨_, sessions_openSession _ _ nonempty _, rfl, rfl⟩) ?_
    · simp [openSession, called, setBuffer]
    · simp [openSession, called, setBuffer]
    · rw [buffers_openSession]
      intro _
      simpa [setBuffer] using kept

theorem Arranged.append_other {run} (ne : flowRunId ≠ run) (other data) :
    Arranged process flowRunId (system.appendEvent batchSize other (some run) data) := by
  have buffer :=
    of_append_other ne batchSize (system.buffers other) { eventId := system.issued, data }
  have batching : ((system.buffers other).append batchSize run
      { eventId := system.issued, data }).1.batching = _ := batching_append _ _ _
  unfold EventSystem.appendEvent
  dsimp only
  rcases decision : (system.buffers other).append batchSize run { eventId := system.issued, data }
    with ⟨after, appended⟩
  rw [decision] at buffer batching
  dsimp only at buffer batching
  have idle : ((system.called.setBuffer other after).buffers process).batching flowRunId = false →
      ((system.called.setBuffer other after).buffers process).of flowRunId = [] := by
    by_cases here : other = process
    · subst here
      simpa [setBuffer, called, buffer, batching] using arranged.idle
    · simpa [setBuffer, called, update_of_ne (Ne.symm here)]
        using arranged.idle
  have unchanged : (system.called.setBuffer other after).arrivals process flowRunId
      = system.arrivals process flowRunId :=
    arrivals_setBuffer fun here => by rw [buffer, here]; rfl
  cases appended with
  | direct =>
    refine arranged.call ?_ ?_ (.inl ?_) (.inr ⟨_, sessions_openSession _ _ (by simp) _, rfl, rfl⟩)
      ?_
    · simp [openSession, called]
    · simp [openSession, called]
    · rw [arrivals_openSession_other ne]
      rfl
    · exact arranged.idle
  | buffered =>
    have called : Arranged process flowRunId (system.called.setBuffer other after) :=
      arranged.call rfl rfl (.inl unchanged) (.inl rfl) idle
    exact called.return (Nat.lt_succ_self _)
  | drained events =>
    dsimp only
    by_cases none : events = []
    · rw [openSession, if_pos none]
      exact arranged.call rfl rfl (.inl unchanged) (.inl rfl) idle
    · refine arranged.call ?_ ?_ (.inl ?_) (.inr ⟨_, sessions_openSession _ _ none _, rfl, rfl⟩) ?_
      · simp [openSession, called, setBuffer, none]
      · simp [openSession, called, setBuffer, none]
      · rw [arrivals_openSession_other ne, unchanged]
      · rwa [buffers_openSession]

theorem Arranged.appendEvent {other run} (own : run = some flowRunId → other = process) (data) :
    Arranged process flowRunId (system.appendEvent batchSize other run data) := by
  cases run with
  | none =>
    have called : Arranged process flowRunId system.called :=
      arranged.call rfl rfl (.inl rfl) (.inl rfl) arranged.idle
    exact called.return (Nat.lt_succ_self _)
  | some run =>
    by_cases eq : run = flowRunId
    · subst eq
      rw [own rfl]
      exact arranged.append_same data
    · exact arranged.append_other (Ne.symm eq) other data

theorem Arranged.flush {other run : ℕ} (own : run = flowRunId → other = process) :
    Arranged process flowRunId
      ((system.setBuffer other ((system.buffers other).flush run)).openSession run
        ((system.buffers other).of run) none) := by
  have history : ((system.setBuffer other ((system.buffers other).flush run)).openSession run
      ((system.buffers other).of run) none).history = system.history := by
    unfold openSession
    split <;> rfl
  have issued : ((system.setBuffer other ((system.buffers other).flush run)).openSession run
      ((system.buffers other).of run) none).issued = system.issued := by
    unfold openSession
    split <;> rfl
  refine arranged.congr history issued (arrivals_flush own) ?_
    (unhurried_openSession _ _ _ arranged.unhurried) ?_
  · intro session mem
    unfold openSession at mem
    split at mem
    · exact arranged.answered session mem
    · rcases List.mem_append.mp mem with old | new
      · exact arranged.answered session old
      · rw [List.mem_singleton.mp new]
        exact fun _ none => nomatch none
  · rw [buffers_openSession]
    by_cases here : other = process
    · subst here
      by_cases eq : run = flowRunId
      · subst eq
        simp [setBuffer, EventBuffer.flush, EventBuffer.of]
      · simpa [setBuffer, EventBuffer.flush, EventBuffer.of,
          update_of_ne (Ne.symm eq)] using arranged.idle
    · simpa [setBuffer, update_of_ne (Ne.symm here)] using arranged.idle

theorem Arranged.start (other run : ℕ) :
    Arranged process flowRunId (system.setBuffer other ((system.buffers other).start run)) := by
  refine arranged.congr rfl rfl ?_ arranged.answered arranged.unhurried ?_
  · exact arrivals_setBuffer fun here => by rw [of_start, here]
  · by_cases here : other = process
    · subst here
      simp only [setBuffer, Function.update_self, of_start]
      intro unbatched
      refine arranged.idle ?_
      by_cases eq : flowRunId = run
      · subst eq
        simp [EventBuffer.start] at unbatched
      · simpa [EventBuffer.start, update_of_ne eq] using unbatched
    · simpa [setBuffer, update_of_ne (Ne.symm here)] using arranged.idle

variable {left right : List Session} (split : system.sessions = left ++ session :: right)

include split

theorem Arranged.remove : Arranged process flowRunId { system with sessions := left ++ right } := by
  have fewer : (left ++ right).Sublist system.sessions := by
    rw [split]
    exact (List.Sublist.refl _).append (List.sublist_cons_self _ _)
  have part : (EventSystem.arrivals { system with sessions := left ++ right } process
      flowRunId).Sublist
      (system.arrivals process flowRunId) := by
    refine (List.Sublist.refl _).append (List.Sublist.append ?_ (List.Sublist.refl _))
    rw [split]
    exact pendingIds_remove session
  exact ⟨arranged.proper, arranged.ordered.sublist part,
    fun eventId mem => arranged.issued eventId (part.subset mem), arranged.returned,
    fun other mem => arranged.answered other (fewer.subset mem),
    arranged.unhurried.sublist fewer, arranged.idle⟩

/-- A session goes on; if it now holds the lock row, the older sessions have nothing to lose. -/
theorem Arranged.setStage {stage : Stage}
    (turn : ∀ older ∈ left, Unhurried flowRunId system.history older { session with stage }) :
    Arranged process flowRunId
      { system with sessions := left ++ { session with stage } :: right } := by
  refine arranged.congr rfl rfl ?_ ?_ ?_ arranged.idle
  · simp only [EventSystem.arrivals]
    rw [pendingIds_setStage, ← split]
  · intro other mem
    rcases List.mem_append.mp mem with before | mem
    · exact arranged.answered other (by rw [split]; exact List.mem_append_left _ before)
    · rcases List.mem_cons.mp mem with rfl | behind
      · exact arranged.answered session (by simp [split])
      · exact arranged.answered other (by simp [split, behind])
  · have unhurried := arranged.unhurried
    rw [split] at unhurried
    obtain ⟨before, behind, across⟩ := List.pairwise_append.mp unhurried
    obtain ⟨next, rest⟩ := List.pairwise_cons.mp behind
    refine List.pairwise_append.mpr ⟨before, List.pairwise_cons.mpr ⟨next, rest⟩, ?_⟩
    intro older mem other later
    rcases List.mem_cons.mp later with rfl | later
    · exact turn older mem
    · exact across older mem other (List.mem_cons_of_mem _ later)

/-- Older sessions have nothing to lose by a session that stays as it is towards the lock row. -/
theorem Arranged.unhurried_left :
    ∀ older ∈ left, Unhurried flowRunId system.history older session := by
  have unhurried := arranged.unhurried
  rw [split] at unhurried
  exact fun older mem =>
    (List.pairwise_append.mp unhurried).2.2 older mem session List.mem_cons_self

theorem Arranged.write {userId nextSeq} (numbered : session.stage = .numbered userId nextSeq) :
    Arranged process flowRunId
      { system with
        sessions := left ++ right
        tables := { system.tables with
          rows := system.tables.rows ++ eventRows session.flowRunId userId nextSeq session.events }
            } := by
  have removed := arranged.remove split
  have eventIds :=
    eventIds_commit system.tables flowRunId session.flowRunId userId nextSeq session.events
  by_cases eq : session.flowRunId = flowRunId
  · subst eq
    rw [if_pos rfl] at eventIds
    have before : system.arrivals process session.flowRunId =
        system.tables.eventIds session.flowRunId ++
          (pendingIds session.flowRunId left ++ session.eventIds ++
            (pendingIds session.flowRunId right ++
              (system.buffers process).eventIds session.flowRunId)) := by
      rw [EventSystem.arrivals, split, pendingIds_append, pendingIds_cons_same rfl]
      simp only [List.append_assoc]
    have passes : ∀ x ∈ pendingIds session.flowRunId left, ∀ y ∈ session.eventIds,
        ¬ Earlier system.history x y := by
      intro x waiting y own
      obtain ⟨older, member, run, event, inside, rfl⟩ := mem_pendingIds waiting
      refine arranged.unhurried_left split older member run ?_ _ (List.mem_map_of_mem inside) y own
      simp [Session.holdsFor, Session.holds, numbered]
    have ordered := arranged.ordered
    rw [before] at ordered
    have after := ordered.overtake passes
    refine ⟨removed.proper, ?_, ?_, removed.returned, removed.answered, removed.unhurried,
      removed.idle⟩
    · rw [EventSystem.arrivals, eventIds, pendingIds_append]
      simpa only [Session.eventIds, List.append_assoc] using after
    · intro eventId member
      refine arranged.issued eventId ?_
      rw [EventSystem.arrivals, eventIds, pendingIds_append] at member
      rw [before]
      simp only [Session.eventIds, List.mem_append] at member ⊢
      tauto
  · rw [if_neg eq, List.append_nil] at eventIds
    refine removed.congr rfl rfl ?_ removed.answered removed.unhurried removed.idle
    rw [EventSystem.arrivals, eventIds]
    rfl

theorem Arranged.advance
    (turn : ∀ userId, session.stage = .named userId → session.flowRunId = flowRunId →
      ∀ older ∈ left, older.flowRunId = flowRunId → ∀ event ∈ older.events,
        .returned event.eventId ∉ system.history)
    (advanced : Advanced system left session right next) : Arranged process flowRunId next := by
  cases advanced with
  | named userId opened =>
    refine arranged.setStage split fun older _ _ holds => ?_
    simp [Session.holdsFor, Session.holds] at holds
  | locked userId named free =>
    refine arranged.setStage split fun older mem run holds x mx y _ earlier => ?_
    simp only [Session.holdsFor, Bool.and_eq_true, decide_eq_true_eq] at holds
    obtain ⟨event, inside, rfl⟩ := List.mem_map.mp mx
    exact turn userId named holds.1 older mem run event inside earlier.returned_mem
  | numbered userId locked =>
    refine arranged.setStage split fun older mem run holds => ?_
    refine arranged.unhurried_left split older mem run ?_
    simpa [Session.holdsFor, Session.holds, locked] using holds
  | raised opened unknown => exact arranged.remove split
  | committed userId nextSeq numbered =>
    have written := arranged.write split numbered
    cases answers : session.answers with
    | none => simpa using written
    | some eventId =>
      exact written.return (arranged.answered session (by simp [split]) eventId answers)

omit split in
theorem Arranged.step {action : EventAction} (orderly : Orderly process flowRunId system action)
    (ran : system.step batchSize action = some next) : Arranged process flowRunId next := by
  cases action with
  | start other run =>
    cases ran
    exact arranged.start other run
  | append other run data =>
    cases ran
    exact arranged.appendEvent orderly data
  | flush other run =>
    cases ran
    exact arranged.flush orderly
  | advance idx =>
    obtain ⟨session, left, right, split, taken, found, advanced⟩ := step_advance ran
    refine arranged.advance split (fun userId named eq => ?_) advanced
    rw [taken]
    exact orderly session userId found named eq
  | abort idx =>
    obtain ⟨session, left, right, split, rfl⟩ := step_abort ran
    exact arranged.remove split

end

theorem arranged_initial (process flowRunId users lockRows) :
    Arranged process flowRunId (.initial users lockRows) := by
  refine ⟨?_, List.Pairwise.nil, nofun, nofun, nofun, List.Pairwise.nil, fun _ => rfl⟩
  rintro call ⟨before, after, none, -⟩
  simp [EventSystem.initial] at none

/-! ## The order of the log -/

/-- The rows of a run follow the order of the appends: what had returned before another event was
appended has the smaller number. -/
def EventSystem.LogInOrder (flowRunId : ℕ) : Prop :=
  ∀ a ∈ system.tables.rowsOf flowRunId, ∀ b ∈ system.tables.rowsOf flowRunId,
    Earlier system.history a.executionEventId b.executionEventId → a.eventSequence < b.eventSequence

theorem logInOrder_of_arranged {process flowRunId : ℕ} {system : EventSystem}
    (arranged : Arranged process flowRunId system) (seq : Sequenced flowRunId system) :
    system.LogInOrder flowRunId := by
  intro a ma b mb earlier
  have rows : InOrder system.history
      ((system.tables.rowsOf flowRunId).map EventRow.executionEventId) :=
    arranged.ordered.sublist (List.sublist_append_left _ _)
  have upwards :
      ((system.tables.rowsOf flowRunId).map EventRow.eventSequence).Pairwise (· < ·) := by
    have consecutive := seq.consecutive
    rw [EventSystem.sequences] at consecutive
    rw [consecutive]
    exact List.pairwise_lt_range'
  exact rows.lt_of_earlier arranged.proper upwards ma mb earlier

/-- **In every run in which the events of a flow run are appended and flushed in one process and
every session takes its lock row in turn, an event whose append returned before another was appended
has the smaller sequence number, in every state reached.** -/
theorem append_order_of_inTurn (batchSize : ℤ) (users : ℕ → Option String) (lockRows : ℕ → Bool)
    (actions : List EventAction) (process flowRunId : ℕ) (lockRow : lockRows flowRunId = true)
    (orderly : ∀ t ∈ trace (EventSystem.step batchSize) (.initial users lockRows) actions,
      Orderly process flowRunId t.before t.action) :
    ∀ t ∈ trace (EventSystem.step batchSize) (.initial users lockRows) actions,
      t.after.LogInOrder flowRunId := by
  refine LabelledSystem.trace_law
    (I := fun system => Arranged process flowRunId system ∧ Sequenced flowRunId system)
    ?_ ?_ actions _
    ⟨arranged_initial process flowRunId users lockRows, sequenced_initial users lockRow⟩ orderly
  · intro system action next invariant guarded performed
    exact ⟨invariant.1.step guarded performed, invariant.2.step performed⟩
  · intro system action next invariant guarded performed
    exact logInOrder_of_arranged (invariant.1.step guarded performed) (invariant.2.step performed)

/-- With batching on, the second append fills the batch, and a third event is appended and flushed
while the session of the batch is open. The sessions take the lock row one after another. -/
def oneAfterAnother : List EventAction :=
  [.start 0 1, .append 0 (some 1) noteEvent, .append 0 (some 1) noteEvent,
    .append 0 (some 1) noteEvent, .flush 0 1] ++ List.replicate 8 (.advance 0)

theorem orderly_oneAfterAnother : ∀ action ∈ oneAfterAnother, Orderly 0 1 system action := by
  have first : system.InTurn 1 0 := fun _ _ _ _ _ _ older => nomatch older
  simp [oneAfterAnother, Orderly, first]

/-- The events of the batch get the first numbers, the one that was flushed the next. -/
theorem oneAfterAnother_inOrder :
    (((EventSystem.initial (fun _ => none) fun _ => true).after 2 oneAfterAnother).tables.rowsOf
        1).map (fun row => (row.executionEventId, row.eventSequence)) = [(0, 1), (1, 2), (2, 3)] ∧
      ∀ t ∈ trace (EventSystem.step 2) (.initial (fun _ => none) fun _ => true) oneAfterAnother,
        t.after.LogInOrder 1 :=
  ⟨by decide, append_order_of_inTurn 2 (fun _ => none) (fun _ => true) oneAfterAnother 0 1 rfl
    fun t member => orderly_oneAfterAnother t.before t.action
      (LabelledSystem.action_mem_of_trace member)⟩

/-- The second append fills the batch, and while its session is on its way to the lock row a third
event is appended and flushed. -/
def overtaking : List EventAction :=
  [.start 0 1, .append 0 (some 1) noteEvent, .append 0 (some 1) noteEvent,
    .append 0 (some 1) noteEvent, .flush 0 1, .advance 1, .advance 1, .advance 1, .advance 1,
    .advance 0, .advance 0, .advance 0, .advance 0]

/-- The first event had returned when the third was appended, and has the larger number. -/
theorem overtaking_out_of_order :
    ¬ ((EventSystem.initial (fun _ => none) fun _ => true).after 2 overtaking).LogInOrder 1 := by
  intro inOrder
  have earlier :
      Earlier ((EventSystem.initial (fun _ => none) fun _ => true).after 2 overtaking).history
      0 2 :=
    ⟨[.called 0, .returned 0, .called 1], [.returned 2, .returned 1], by decide, by decide⟩
  have wrong := inOrder (eventRow 1 "u" 2 { eventId := 0, data := noteEvent }) (by decide)
    (eventRow 1 "u" 1 { eventId := 2, data := noteEvent }) (by decide) earlier
  simp [eventRow] at wrong

end AgentOrchestration.EventLog
