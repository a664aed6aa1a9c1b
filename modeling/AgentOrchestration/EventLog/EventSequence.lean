import AgentOrchestration.EventLog.EventRepository

/-!
# Event sequence numbers

Both writers of `execution_event` — an append that is not batched, and a batch — number
their rows on from the maximum they read under the lock row of the run.
-/

namespace AgentOrchestration.EventLog

set_option autoImplicit false

open Positions (Consecutive)
open Session (holdsFor)

/-- The sessions past their `SELECT … FOR UPDATE` on a run. -/
def EventSystem.holders (system : EventSystem) (flowRunId : ℕ) : List Session :=
  system.sessions.filter (holdsFor flowRunId)

def EventSystem.sequences (system : EventSystem) (flowRunId : ℕ) : List ℕ :=
  (system.tables.rowsOf flowRunId).map EventRow.eventSequence

/-- The numbers of a run are consecutive, and the one session that may add to them knows the
next. -/
structure Sequenced (flowRunId : ℕ) (system : EventSystem) : Prop where
  lockRow : system.tables.lockRows flowRunId = true
  consecutive : Consecutive (system.sequences flowRunId)
  single : (system.holders flowRunId).length ≤ 1
  next : ∀ session ∈ system.holders flowRunId, ∀ userId nextSeq,
    session.stage = .numbered userId nextSeq → nextSeq = (system.sequences flowRunId).length + 1

section

variable {flowRunId : ℕ} {system next : EventSystem} {batchSize : ℤ}

theorem holders_openSession (system : EventSystem) (flowRunId other events answers) :
    (system.openSession other events answers).holders flowRunId = system.holders flowRunId := by
  unfold EventSystem.openSession
  split
  · rfl
  · simp [EventSystem.holders, holdsFor, Session.holds]

theorem tables_openSession (system : EventSystem) (flowRunId events answers) :
    (system.openSession flowRunId events answers).tables = system.tables := by
  unfold EventSystem.openSession
  split <;> rfl

variable {left right : List Session} {session : Session}

theorem holders_split (flowRunId : ℕ) (split : system.sessions = left ++ session :: right) :
    system.holders flowRunId = left.filter (holdsFor flowRunId) ++
        ([session].filter (holdsFor flowRunId) ++ right.filter (holdsFor flowRunId)) := by
  rw [EventSystem.holders, split, List.filter_append, ← List.singleton_append, List.filter_append]

variable (seq : Sequenced flowRunId system)

include seq

theorem Sequenced.of_sublist (tabs : next.tables = system.tables)
    (fewer : (next.holders flowRunId).Sublist (system.holders flowRunId)) :
    Sequenced flowRunId next := by
  have eq : next.sequences flowRunId = system.sequences flowRunId := by
    rw [EventSystem.sequences, tabs]
    rfl
  refine ⟨by rw [tabs]; exact seq.lockRow, eq ▸ seq.consecutive,
    fewer.length_le.trans seq.single, ?_⟩
  intro session mem userId nextSeq numbered
  rw [eq]
  exact seq.next session (fewer.subset mem) userId nextSeq numbered

theorem Sequenced.openSession (other events answers) :
    Sequenced flowRunId (system.openSession other events answers) :=
  seq.of_sublist (tables_openSession system other events answers)
    (holders_openSession system flowRunId other events answers ▸ List.Sublist.refl _)

theorem Sequenced.appendEvent (process other data) :
    Sequenced flowRunId (system.appendEvent batchSize process other data) := by
  unfold EventSystem.appendEvent
  cases other with
  | none => exact seq.of_sublist rfl (.refl _)
  | some other =>
    dsimp only
    split
    · refine Sequenced.openSession ?_ other _ _
      exact seq.of_sublist rfl (.refl _)
    · exact seq.of_sublist rfl (.refl _)
    · refine Sequenced.openSession ?_ other _ _
      exact seq.of_sublist rfl (.refl _)

/-- A session without its stage holding the lock row can be replaced by any such session. -/
theorem Sequenced.replace_idle (split : system.sessions = left ++ session :: right)
    {changed : Session}
    (idle : changed.holdsFor flowRunId = false) :
    Sequenced flowRunId { system with sessions := left ++ changed :: right } := by
  refine seq.of_sublist rfl ?_
  have before := holders_split flowRunId split
  have after :
      ({ system with sessions := left ++ changed :: right } : EventSystem).holders flowRunId
      = _ := holders_split flowRunId rfl
  rw [before, after]
  refine (List.Sublist.refl _).append (List.Sublist.append ?_ (.refl _))
  simp [idle]

theorem Sequenced.remove (split : system.sessions = left ++ session :: right) :
    Sequenced flowRunId { system with sessions := left ++ right } := by
  refine seq.of_sublist rfl ?_
  unfold EventSystem.holders
  rw [split]
  exact List.Sublist.filter _ ((List.Sublist.refl _).append (List.sublist_cons_self _ _))

theorem Sequenced.alone
    (split : system.sessions = left ++ session :: right)
    (holds : session.holdsFor flowRunId = true) :
    left.filter (holdsFor flowRunId) = [] ∧ right.filter (holdsFor flowRunId) = [] := by
  have single := seq.single
  rw [holders_split flowRunId split, List.filter_cons_of_pos holds] at single
  simp only [List.filter_nil, List.length_append, List.length_singleton] at single
  exact ⟨List.length_eq_zero_iff.mp (by omega), List.length_eq_zero_iff.mp (by omega)⟩

theorem Sequenced.only (changed : Session) (before : left.filter (holdsFor flowRunId) = [])
    (behind : right.filter (holdsFor flowRunId) = [])
    (knows : ∀ userId nextSeq, changed.stage = .numbered userId nextSeq →
      nextSeq = (system.sequences flowRunId).length + 1) :
    Sequenced flowRunId { system with sessions := left ++ changed :: right } := by
  have holders :
      ({ system with sessions := left ++ changed :: right } : EventSystem).holders flowRunId
      = [changed].filter (holdsFor flowRunId) := by
    rw [holders_split flowRunId rfl, before, behind, List.nil_append, List.append_nil]
  refine ⟨seq.lockRow, seq.consecutive, ?_, ?_⟩
  · rw [holders]
    exact List.length_filter_le _ _
  · intro session mem userId nextSeq numbered
    rw [holders] at mem
    cases List.mem_singleton.mp (List.mem_of_mem_filter mem)
    exact knows userId nextSeq numbered

theorem Sequenced.advance (split : system.sessions = left ++ session :: right)
    (advanced : Advanced system left session right next) : Sequenced flowRunId next := by
  have written (userId : String) (nextSeq : ℕ) (history) : EventSystem.sequences
      { system with
        sessions := left ++ right
        tables := { system.tables with
          rows := system.tables.rows ++ eventRows session.flowRunId userId nextSeq session.events }
        history } flowRunId
      = system.sequences flowRunId ++
        if session.flowRunId = flowRunId then List.range' nextSeq session.events.length
        else [] := by
    rw [EventSystem.sequences, rowsOf_commit, List.map_append]
    split
    · rw [eventRows_sequence]
      rfl
    · rfl
  by_cases eq : session.flowRunId = flowRunId
  · subst eq
    cases advanced with
    | named userId opened => exact seq.replace_idle split (by simp [holdsFor, Session.holds])
    | raised opened unknown => exact seq.remove split
    | locked userId named free =>
      have others := free seq.lockRow
      simp only [List.mem_append] at others
      refine seq.only _ ?_ ?_ (fun _ _ numbered => nomatch numbered)
      · exact List.filter_eq_nil_iff.mpr fun other mem => by simp [others other (.inl mem)]
      · exact List.filter_eq_nil_iff.mpr fun other mem => by simp [others other (.inr mem)]
    | numbered userId locked =>
      obtain ⟨before, behind⟩ := seq.alone split (by simp [holdsFor, Session.holds, locked])
      refine seq.only _ before behind fun _ _ numbered => ?_
      cases numbered
      rw [EventTables.nextSequence]
      exact congrArg (· + 1) seq.consecutive.top
    | committed userId nextSeq numbered =>
      have holds : session.holdsFor session.flowRunId = true := by
        simp [holdsFor, Session.holds, numbered]
      obtain ⟨before, behind⟩ := seq.alone split holds
      have known : nextSeq = (system.sequences session.flowRunId).length + 1 := by
        refine seq.next session ?_ userId nextSeq numbered
        rw [EventSystem.holders, split]
        exact List.mem_filter.mpr ⟨by simp, holds⟩
      have holders : (left ++ right).filter (holdsFor session.flowRunId) = [] := by
        rw [List.filter_append, before, behind, List.append_nil]
      refine ⟨seq.lockRow, ?_, ?_, ?_⟩
      · rw [written, if_pos rfl]
        refine seq.consecutive.append ?_
        rw [List.length_range', known]
      · rw [EventSystem.holders, holders]
        exact Nat.zero_le 1
      · intro other mem
        rw [EventSystem.holders, holders] at mem
        cases mem
  · have foreign : ∀ stage, ({ session with stage } : Session).holdsFor flowRunId = false := by
      simp [holdsFor, eq]
    cases advanced with
    | named userId opened | locked userId named free | numbered userId locked =>
      exact seq.replace_idle split (foreign _)
    | raised opened unknown => exact seq.remove split
    | committed userId nextSeq numbered =>
      have removed := seq.remove split
      refine ⟨removed.lockRow, ?_, removed.single, ?_⟩
      · rw [written, if_neg eq, List.append_nil]
        exact removed.consecutive
      · rw [written, if_neg eq, List.append_nil]
        exact removed.next

theorem Sequenced.step {action : EventAction}
    (ran : system.step batchSize action = some next) : Sequenced flowRunId next := by
  cases action with
  | start process other =>
    cases ran
    exact seq.of_sublist rfl (.refl _)
  | append process other data =>
    cases ran
    exact seq.appendEvent process other data
  | flush process other =>
    cases ran
    refine Sequenced.openSession ?_ other _ _
    exact seq.of_sublist rfl (.refl _)
  | advance idx =>
    obtain ⟨session, left, right, split, -, -, advanced⟩ := step_advance ran
    exact seq.advance split advanced
  | abort idx =>
    obtain ⟨session, left, right, split, rfl⟩ := step_abort ran
    exact seq.remove split

end

theorem sequenced_initial (users) {lockRows flowRunId} (lockRow : lockRows flowRunId = true) :
    Sequenced flowRunId (.initial users lockRows) :=
  ⟨lockRow, rfl, Nat.zero_le 1, fun _ mem => nomatch mem⟩

theorem sequenced_after (batchSize users) {lockRows} (actions) {flowRunId}
    (lockRow : lockRows flowRunId = true) :
    Sequenced flowRunId ((EventSystem.initial users lockRows).after batchSize actions) :=
  LabelledSystem.final_invariant (fun _ _ _ seq ran => seq.step ran) actions _
    (sequenced_initial users lockRow)

/-- **However appends, batch starts, flushes and sessions of any number of processes are
interleaved, and whichever sessions are lost, the sequence numbers of a run with a lock row are `1,
…, k`, each used once.** -/
theorem sequence_consecutive (batchSize : ℤ) (users : ℕ → Option String) (lockRows : ℕ → Bool)
    (actions : List EventAction) (flowRunId : ℕ) (lockRow : lockRows flowRunId = true) :
    ∃ k, ((EventSystem.initial users lockRows).after batchSize actions).sequences flowRunId
      = List.range' 1 k :=
  ⟨_, (sequenced_after batchSize users actions lockRow).consecutive⟩

/-- An event of user `u`. -/
def noteEvent : EventData :=
  { tenantId := 1, userId := some "u", sessionId := 1, eventType := "FlowStarted", payload := []
    correlationId := 1, causationId := none, schemaVersion := 1, nodeId := none, edgeId := none }

/-- A process flushes a batch while another one appends; the append waits for the lock row. -/
def batchAndAppend : List EventAction :=
  [.start 0 1, .append 0 (some 1) noteEvent, .append 0 (some 1) noteEvent, .flush 0 1,
    .append 1 (some 1) noteEvent, .advance 1, .advance 0, .advance 0, .advance 1, .advance 0,
    .advance 0, .advance 0, .advance 0, .advance 0]

/-- The numbers of the batch and of the append that had to wait. -/
theorem batchAndAppend_consecutive :
    ((EventSystem.initial (fun _ => none) fun _ => true).after 20 batchAndAppend).sequences 1 =
      [1, 2, 3] ∧
      ∃ k, ((EventSystem.initial (fun _ => none) fun _ => true).after 20 batchAndAppend).sequences 1
        = List.range' 1 k :=
  ⟨by decide, sequence_consecutive 20 (fun _ => none) (fun _ => true) batchAndAppend 1 rfl⟩

end AgentOrchestration.EventLog
