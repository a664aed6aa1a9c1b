import Mathlib
import AgentOrchestration.Library.LabelledSystem

/-!
# The lifecycle of a flow run

One row of `flow_run`, and everything that writes its status: the service that
creates and dispatches a run or resumes it, the worker's `prepare_flow_run` and
`finalize_flow_run` activities, the in-process executor, and the reconciler.
Each writer is a thread; a thread that is in flight waits for its next
repository write, and threads interleave freely. No write looks at the status
it overwrites.
-/

namespace AgentOrchestration.Lifecycle

set_option autoImplicit false

open LabelledSystem (trace)

/-! ## Statuses -/

inductive RunStatus where
  | created
  | queued
  | running
  | waitingInput
  | completed
  | failed
  | cancelled
  deriving DecidableEq, Repr

/-- `FlowRunStatus`, the canonical status. -/
inductive FlowRunStatus where
  | created
  | running
  | waiting
  | completed
  | failed
  | escalated
  deriving DecidableEq, Repr

def flowTransitions : FlowRunStatus → List FlowRunStatus
  | .created => [.running, .failed]
  | .running => [.waiting, .completed, .failed, .escalated]
  | .waiting => [.running, .failed, .escalated]
  | .escalated => []
  | .completed => []
  | .failed => []

/-- The two status columns of a `flow_run` row. -/
structure Row where
  status : RunStatus
  canonicalStatus : FlowRunStatus
  deriving DecidableEq, Repr

/-! ## Writers -/

inductive Turn where
  | first
  | resumed
  deriving DecidableEq, Repr

/-- The ends of a turn that an engine records. -/
inductive Verdict where
  | completed
  | waiting
  | failed
  | cancelled
  deriving DecidableEq, Repr

/-- Work in flight. -/
inductive Thread where
  /-- The service is about to ask the workflow engine for a turn. -/
  | starting (turn : Turn)
  /-- The engine has accepted the turn; `set_flow_run_dispatch` is still to come. -/
  | dispatching (turn : Turn)
  /-- A workflow turn before the write of `prepare_flow_run`. -/
  | preparing
  /-- A workflow turn between preparation and its end. -/
  | traversing
  /-- A workflow turn that has ended and is about to `finalize_flow_run`. -/
  | finalizing (verdict : Verdict)
  /-- A turn driven in process. -/
  | executing (turn : Turn)
  /-- The reconciler has read the row as stale and found no live workflow. -/
  | sweeping
  deriving DecidableEq, Repr

structure System where
  row : Option Row
  threads : List Thread
  deriving DecidableEq

def System.initial : System := { row := none, threads := [] }

/-- The atomic steps. -/
inductive Action where
  /-- `create_flow_run` up to its insert, with or without the workflow engine. -/
  | createFlowRun (temporal : Bool)
  /-- `start_flow_run` or `start_resume_turn` returns. -/
  | startWorkflow (turn : Turn)
  | setFlowRunDispatch (turn : Turn)
  /-- The write of `prepare_flow_run`; an attempt that is not acknowledged is retried. -/
  | prepareFlowRun (acknowledged : Bool)
  /-- The attempts of `prepare_flow_run` are used up. -/
  | abandonPrepare
  /-- The traversal of a workflow turn ends. -/
  | endTraversal (verdict : Verdict)
  /-- The write of `finalize_flow_run`, retried when it is not acknowledged. -/
  | finalizeFlowRun (verdict : Verdict) (acknowledged : Bool)
  /-- The last write of the in-process executor. -/
  | executorEnd (turn : Turn) (verdict : Verdict)
  /-- The status write of `resume_flow_run`, which no status check precedes. -/
  | resumeFlowRun (temporal : Bool)
  /-- `list_stale_running_flow_runs` returns the row. -/
  | reconcileRead
  /-- `fail_flow_run` of the reconciler. -/
  | reconcileFail
  /-- A thread dies, or decides not to write. -/
  | crash (thread : Thread)
  deriving DecidableEq, Repr

/-- What the end of a turn writes. -/
def Verdict.row : Verdict → Row
  | .completed => { status := .completed, canonicalStatus := .completed }
  | .waiting => { status := .waitingInput, canonicalStatus := .waiting }
  | .failed => { status := .failed, canonicalStatus := .failed }
  | .cancelled => { status := .cancelled, canonicalStatus := .failed }

/-- What `set_flow_run_dispatch` writes. -/
def Turn.dispatchRow : Turn → Row
  | .first => { status := .queued, canonicalStatus := .created }
  | .resumed => { status := .running, canonicalStatus := .running }

def runningRow : Row := { status := .running, canonicalStatus := .running }

/-- An `UPDATE` of the status columns: nothing happens when there is no row. -/
def System.write (s : System) (row : Row) : System := { s with row := s.row.map fun _ => row }

def System.continueAs (s : System) (thread : Thread) (next : List Thread) : Option System :=
  if thread ∈ s.threads then some { s with threads := next ++ s.threads.erase thread } else none

/-- One atomic step; `none` when its thread is not in flight. -/
def step (s : System) : Action → Option System
  | .createFlowRun temporal =>
    if s.row = none then
      some
        { row := some { status := .created, canonicalStatus := .created }
          threads := (if temporal then .starting .first else .executing .first) :: s.threads }
    else none
  | .startWorkflow turn => s.continueAs (.starting turn) [.dispatching turn, .preparing]
  | .setFlowRunDispatch turn =>
    (s.continueAs (.dispatching turn) []).map (·.write turn.dispatchRow)
  | .prepareFlowRun acknowledged =>
    (s.continueAs .preparing [if acknowledged then .traversing else .preparing]).map
      (·.write runningRow)
  | .abandonPrepare => s.continueAs .preparing [.finalizing .failed]
  | .endTraversal verdict => s.continueAs .traversing [.finalizing verdict]
  | .finalizeFlowRun verdict acknowledged =>
    (s.continueAs (.finalizing verdict)
      (if acknowledged then [] else [.finalizing verdict])).map (·.write verdict.row)
  | .executorEnd turn verdict =>
    (s.continueAs (.executing turn) []).map (·.write verdict.row)
  | .resumeFlowRun temporal =>
    if s.row = none then none
    else
      some <| System.write
        { s with
          threads := (if temporal then .starting .resumed else .executing .resumed) :: s.threads }
        runningRow
  | .reconcileRead =>
    match s.row with
    | some row =>
      if row.status = .queued ∨ row.status = .running then
        some { s with threads := .sweeping :: s.threads }
      else none
    | none => none
  | .reconcileFail => (s.continueAs .sweeping []).map (·.write Verdict.failed.row)
  | .crash thread => s.continueAs thread []

/-! ## The law -/

/-- A transition leaves the canonical status alone or changes it along the table. -/
def Lawful (t : LabelledSystem.Transition System Action) : Prop :=
  ∀ before ∈ t.before.row, ∀ after ∈ t.after.row, after.canonicalStatus = before.canonicalStatus ∨
      after.canonicalStatus ∈ flowTransitions before.canonicalStatus

instance (t : LabelledSystem.Transition System Action) : Decidable (Lawful t) :=
  inferInstanceAs (Decidable (∀ before ∈ t.before.row, ∀ after ∈ t.after.row, _))

def System.canonical (s : System) : Option FlowRunStatus := s.row.map Row.canonicalStatus

def System.Quiet (s : System) : Prop := ∀ thread ∈ s.threads, thread = .sweeping

instance (s : System) : Decidable s.Quiet :=
  inferInstanceAs (Decidable (∀ thread ∈ s.threads, thread = .sweeping))

/-- What the code leaves to the schedule. The first dispatch write comes before the worker
prepares the run, and that of a resumed turn before the turn ends; a first turn in process ends in
failure; a run is resumed only while it waits and nothing is in flight; and the reconciler fails
only a run that still has the status it read, with nothing in flight. -/
def Supervised (s : System) : Action → Prop
  | .setFlowRunDispatch .first => s.canonical = some .created
  | .setFlowRunDispatch .resumed => s.canonical = some .running
  | .executorEnd .first verdict => verdict = .failed
  | .resumeFlowRun _ => s.canonical = some .waiting ∧ s.Quiet
  | .reconcileFail =>
    s.Quiet ∧ ∃ row ∈ s.row, row.status = .queued ∨ row.status = .running
  | _ => True

/-! ## The invariant of supervised runs -/

def Thread.isTurn : Thread → Bool
  | .dispatching _ => false
  | .sweeping => false
  | _ => true

/-- The canonical statuses a turn may find while it is in flight. -/
def Thread.expects : Thread → List FlowRunStatus
  | .starting .first => [.created]
  | .executing .first => [.created]
  | .preparing => [.created, .running]
  | .finalizing .completed => [.running, .completed]
  | .finalizing .waiting => [.running, .waiting]
  | .finalizing .failed => [.created, .running, .failed]
  | .finalizing .cancelled => [.created, .running, .failed]
  | _ => [.running]

structure Invariant (s : System) : Prop where
  absent : s.row = none → s.threads = []
  single : s.threads.countP Thread.isTurn ≤ 1
  expected : ∀ thread ∈ s.threads, thread.isTurn →
    ∀ row ∈ s.row, row.canonicalStatus ∈ thread.expects
  paired : ∀ row ∈ s.row, row.status = .queued ∨ row.status = .running →
    row.canonicalStatus = .created ∨ row.canonicalStatus = .running

theorem Invariant.initial : Invariant System.initial :=
  ⟨fun _ => rfl, by decide, (fun _ mem => nomatch mem), (fun _ mem => nomatch mem)⟩

variable {s next : System} {thread : Thread} {threads : List Thread}

theorem continueAs_eq_some_iff : s.continueAs thread threads = some next ↔
      thread ∈ s.threads ∧ next = { s with threads := threads ++ s.threads.erase thread } := by
  unfold System.continueAs
  by_cases has : thread ∈ s.threads
  · simp [has, eq_comm]
  · simp [has]

theorem Invariant.row_of_mem {s : System} (inv : Invariant s) (mem : thread ∈ s.threads) :
    ∃ row, s.row = some row := by
  cases found : s.row with
  | none =>
    rw [inv.absent found] at mem
    cases mem
  | some row => exact ⟨row, rfl⟩

theorem Invariant.alone {s : System} (inv : Invariant s) (mem : thread ∈ s.threads)
    (turn : thread.isTurn) :
    (s.threads.erase thread).countP Thread.isTurn = 0 := by
  have counted : (s.threads.erase thread).countP Thread.isTurn + 1 =
      s.threads.countP Thread.isTurn := by
    rw [(List.perm_cons_erase mem).countP_eq, List.countP_cons_of_pos turn]
  have single := inv.single
  omega

variable {row : Row}

theorem Invariant.turn {s : System} (inv : Invariant s) (mem : thread ∈ s.threads)
    (isTurn : thread.isTurn) (single : threads.countP Thread.isTurn ≤ 1)
    (expected : ∀ next ∈ threads, next.isTurn → row.canonicalStatus ∈ next.expects)
    (paired : row.status = .queued ∨ row.status = .running →
      row.canonicalStatus = .created ∨ row.canonicalStatus = .running) :
    Invariant { row := some row, threads := threads ++ s.threads.erase thread } := by
  have alone := inv.alone mem isTurn
  refine ⟨nofun, ?_, ?_, ?_⟩
  · rw [List.countP_append, alone]
    exact single
  · rintro next isIn nextTurn _ ⟨⟩
    rcases List.mem_append.mp isIn with new | old
    · exact expected next new nextTurn
    · exact absurd nextTurn (by simpa using List.countP_eq_zero.mp alone next old)
  · rintro _ ⟨⟩
    exact paired

theorem Invariant.drop {s : System} (inv : Invariant s) {thread : Thread} {row row' : Row}
    (found : s.row = some row) (eq : row'.canonicalStatus = row.canonicalStatus)
    (paired : row'.status = .queued ∨ row'.status = .running →
      row'.canonicalStatus = .created ∨ row'.canonicalStatus = .running) :
    Invariant { row := some row', threads := s.threads.erase thread } := by
  refine ⟨nofun, ?_, ?_, ?_⟩
  · exact le_trans (List.Sublist.countP_le List.erase_sublist) inv.single
  · rintro next isIn nextTurn _ ⟨⟩
    rw [eq]
    exact inv.expected next (List.mem_of_mem_erase isIn) nextTurn row found
  · rintro _ ⟨⟩
    exact paired

/-! ## Steps -/

/-- What a supervised step achieves. -/
structure Good (s : System) (action : Action) (next : System) : Prop where
  invariant : Invariant next
  lawful : Lawful ⟨s, action, next⟩

variable {action : Action}

theorem lawful_of_canonical_eq (eq : ∀ before ∈ s.row, ∀ after ∈ next.row,
      after.canonicalStatus = before.canonicalStatus) : Lawful ⟨s, action, next⟩ :=
  fun before found after found' => .inl (eq before found after found')

theorem Invariant.turnWrite (inv : Invariant s) (isTurn : thread.isTurn)
    (single : threads.countP Thread.isTurn ≤ 1)
    (expected : ∀ next ∈ threads, next.isTurn → row.canonicalStatus ∈ next.expects)
    (paired : row.status = .queued ∨ row.status = .running →
      row.canonicalStatus = .created ∨ row.canonicalStatus = .running)
    (ok : ∀ status ∈ thread.expects,
      row.canonicalStatus = status ∨ row.canonicalStatus ∈ flowTransitions status)
    (ran : (s.continueAs thread threads).map (·.write row) = some next) :
    Good s action next := by
  obtain ⟨middle, continued, rfl⟩ := Option.map_eq_some_iff.mp ran
  obtain ⟨mem, rfl⟩ := continueAs_eq_some_iff.mp continued
  obtain ⟨old, found⟩ := inv.row_of_mem mem
  constructor
  · simpa only [System.write, found, Option.map_some] using
      inv.turn mem isTurn single expected paired
  · rintro before has after written
    have eq : after = row := by simpa [System.write, found, eq_comm] using written
    rw [eq]
    exact ok _ (inv.expected thread mem isTurn before has)

theorem Invariant.turnSilent (inv : Invariant s) (isTurn : thread.isTurn)
    (single : threads.countP Thread.isTurn ≤ 1)
    (expected : ∀ next ∈ threads, next.isTurn → ∀ status ∈ thread.expects, status ∈ next.expects)
    (ran : s.continueAs thread threads = some next) : Good s action next := by
  obtain ⟨mem, rfl⟩ := continueAs_eq_some_iff.mp ran
  obtain ⟨row, found⟩ := inv.row_of_mem mem
  constructor
  · rw [found]
    exact inv.turn mem isTurn single
      (fun next isIn nextTurn =>
        expected next isIn nextTurn _ (inv.expected thread mem isTurn row found))
      (inv.paired row found)
  · exact lawful_of_canonical_eq fun before has after kept =>
      congrArg Row.canonicalStatus (Option.some.inj (kept.symm.trans has))

theorem Invariant.dispatchWrite (inv : Invariant s) (turn : Turn)
    (found : s.canonical = some turn.dispatchRow.canonicalStatus)
    (ran : step s (.setFlowRunDispatch turn) = some next) :
    Good s (.setFlowRunDispatch turn) next := by
  obtain ⟨middle, continued, rfl⟩ := Option.map_eq_some_iff.mp ran
  obtain ⟨mem, rfl⟩ := continueAs_eq_some_iff.mp continued
  obtain ⟨row, present⟩ := inv.row_of_mem mem
  have eq : turn.dispatchRow.canonicalStatus = row.canonicalStatus := by
    simpa [System.canonical, present, eq_comm] using found
  constructor
  · simpa only [System.write, present, Option.map_some, List.nil_append] using
      inv.drop present eq (by cases turn <;> decide)
  · apply lawful_of_canonical_eq
    intro before isBefore after isAfter
    have beforeRow : row = before := Option.some.inj (present.symm.trans isBefore)
    have afterRow : turn.dispatchRow = after := by simpa [System.write, present] using isAfter
    rw [← beforeRow, ← afterRow, eq]

theorem Invariant.resumeWrite (temporal : Bool) (waiting : s.canonical = some .waiting)
    (quiet : s.Quiet) (ran : step s (.resumeFlowRun temporal) = some next) :
    Good s (.resumeFlowRun temporal) next := by
  obtain ⟨row, present, canonical⟩ := Option.map_eq_some_iff.mp waiting
  have none_turn : s.threads.countP Thread.isTurn = 0 := by
    refine List.countP_eq_zero.mpr fun thread mem => ?_
    rw [quiet thread mem]
    decide
  simp only [step, present, reduceCtorEq, if_false, Option.some.injEq, System.write,
    Option.map_some] at ran
  subst ran
  constructor
  · refine ⟨nofun, ?_, ?_, ?_⟩
    · rw [List.countP_cons, none_turn]
      cases temporal <;> decide
    · rintro thread isIn isTurn _ ⟨⟩
      rcases List.mem_cons.mp isIn with rfl | old
      · cases temporal <;> decide
      · rw [quiet thread old] at isTurn
        cases isTurn
    · rintro _ ⟨⟩ _
      exact .inr rfl
  · rintro before isBefore after isAfter
    have beforeRow : row = before := Option.some.inj (present.symm.trans isBefore)
    have afterRow : runningRow = after := Option.some.inj isAfter
    rw [← beforeRow, ← afterRow, canonical]
    decide

/-- The reconciler fails a run that is as it read it, with nothing in flight. -/
theorem Invariant.reconcileWrite (inv : Invariant s) (quiet : s.Quiet) (present : s.row = some row)
    (stale : row.status = .queued ∨ row.status = .running)
    (ran : step s .reconcileFail = some next) : Good s .reconcileFail next := by
  obtain ⟨middle, continued, rfl⟩ := Option.map_eq_some_iff.mp ran
  obtain ⟨mem, rfl⟩ := continueAs_eq_some_iff.mp continued
  have noTurn : ∀ thread ∈ s.threads, ¬ thread.isTurn := by
    intro thread isIn
    rw [quiet thread isIn]
    decide
  constructor
  · simp only [System.write, present, Option.map_some, List.nil_append]
    refine ⟨nofun, ?_, ?_, ?_⟩
    · exact le_trans (List.Sublist.countP_le List.erase_sublist) inv.single
    · intro thread isIn isTurn
      exact absurd isTurn (noTurn thread (List.mem_of_mem_erase isIn))
    · rintro _ ⟨⟩ unfinished
      revert unfinished
      decide
  · rintro before isBefore after isAfter
    have beforeRow : row = before := Option.some.inj (present.symm.trans isBefore)
    have afterRow : Verdict.failed.row = after := by simpa [System.write, present] using isAfter
    rw [← beforeRow, ← afterRow]
    rcases inv.paired row present stale with isCreated | isRunning
    · rw [isCreated]
      decide
    · rw [isRunning]
      decide

theorem Invariant.create (inv : Invariant s) (temporal : Bool)
    (ran : step s (.createFlowRun temporal) = some next) :
    Good s (.createFlowRun temporal) next := by
  simp only [step] at ran
  split at ran
  · rename_i absent
    cases ran
    rw [inv.absent absent]
    constructor
    · refine ⟨nofun, ?_, ?_, ?_⟩
      · cases temporal <;> decide
      · rintro thread isIn _ _ ⟨⟩
        rw [List.mem_singleton.mp isIn]
        cases temporal <;> decide
      · rintro _ ⟨⟩ _
        exact .inl rfl
    · intro before has
      rw [show s.row = none from absent] at has
      cases has
  · cases ran

theorem Invariant.read (inv : Invariant s) (ran : step s .reconcileRead = some next) :
    Good s .reconcileRead next := by
  unfold step at ran
  cases has : s.row with
  | none => simp [has] at ran
  | some row =>
    simp only [has] at ran
    split at ran
    · cases ran
      rw [← has]
      constructor
      · refine ⟨fun absent => ?_, ?_, ?_, inv.paired⟩
        · rw [has] at absent
          cases absent
        · rw [List.countP_cons_of_neg (by decide)]
          exact inv.single
        · intro thread isIn isTurn
          rcases List.mem_cons.mp isIn with rfl | old
          · cases isTurn
          · exact inv.expected thread old isTurn
      · exact lawful_of_canonical_eq fun before isBefore after isAfter =>
          congrArg Row.canonicalStatus (Option.some.inj (isAfter.symm.trans isBefore))
    · cases ran

theorem Invariant.crash {s next : System} (inv : Invariant s) (thread : Thread)
    (ran : step s (.crash thread) = some next) : Good s (.crash thread) next := by
  obtain ⟨mem, rfl⟩ := continueAs_eq_some_iff.mp ran
  obtain ⟨row, has⟩ := inv.row_of_mem mem
  constructor
  · rw [has]
    exact inv.drop has rfl (inv.paired row has)
  · exact lawful_of_canonical_eq fun before isBefore after isAfter =>
      congrArg Row.canonicalStatus (Option.some.inj (isAfter.symm.trans isBefore))

/-- **Every supervised step keeps the invariant and obeys the table.** -/
theorem step_good (inv : Invariant s) (supervised : Supervised s action)
    (ran : step s action = some next) :
    Good s action next := by
  cases action with
  | createFlowRun temporal => exact inv.create temporal ran
  | startWorkflow turn =>
    exact inv.turnSilent rfl (by cases turn <;> decide) (by cases turn <;> decide) ran
  | setFlowRunDispatch turn =>
    cases turn with
    | first => exact inv.dispatchWrite .first supervised ran
    | resumed => exact inv.dispatchWrite .resumed supervised ran
  | prepareFlowRun acknowledged =>
    exact inv.turnWrite rfl (by cases acknowledged <;> decide)
      (by cases acknowledged <;> decide) (by decide) (by decide) ran
  | abandonPrepare => exact inv.turnSilent rfl (by decide) (by decide) ran
  | endTraversal verdict =>
    exact inv.turnSilent rfl (by cases verdict <;> decide) (by cases verdict <;> decide) ran
  | finalizeFlowRun verdict acknowledged =>
    exact inv.turnWrite rfl (by cases verdict <;> cases acknowledged <;> decide)
      (by cases verdict <;> cases acknowledged <;> decide) (by cases verdict <;> decide)
      (by cases verdict <;> decide) ran
  | executorEnd turn verdict =>
    cases turn with
    | first =>
      rw [show verdict = .failed from supervised] at ran ⊢
      exact inv.turnWrite rfl (by decide) (by decide) (by decide) (by decide) ran
    | resumed =>
      exact inv.turnWrite rfl (by decide) (by rintro next ⟨⟩)
        (by cases verdict <;> decide) (by cases verdict <;> decide) ran
  | resumeFlowRun temporal => exact Invariant.resumeWrite temporal supervised.1 supervised.2 ran
  | reconcileRead => exact inv.read ran
  | reconcileFail =>
    obtain ⟨quiet, row, present, stale⟩ := supervised
    exact inv.reconcileWrite quiet present stale ran
  | crash thread => exact inv.crash thread ran

/-! ## Runs -/

/-- **Lifecycle safety of supervised runs.** In every interleaving whose steps are all
supervised, every change of the canonical status is one of the table; in particular a completed,
failed or escalated run keeps its status. -/
theorem lifecycle_lawful_of_supervised (actions : List Action)
    (supervised : ∀ t ∈ trace step System.initial actions, Supervised t.before t.action) :
    ∀ t ∈ trace step System.initial actions, Lawful t :=
  LabelledSystem.trace_law
    (fun _ _ _ inv supervised performed => (step_good inv supervised performed).invariant)
    (fun _ _ _ inv supervised performed => (step_good inv supervised performed).lawful)
    actions System.initial Invariant.initial supervised

def resumedRun : List Action :=
  [.createFlowRun true, .startWorkflow .first, .setFlowRunDispatch .first, .prepareFlowRun true,
   .endTraversal .waiting, .finalizeFlowRun .waiting true, .resumeFlowRun true,
   .startWorkflow .resumed, .setFlowRunDispatch .resumed, .prepareFlowRun true,
   .endTraversal .completed, .finalizeFlowRun .completed true]

instance (s : System) : (action : Action) → Decidable (Supervised s action)
  | .setFlowRunDispatch .first => inferInstanceAs (Decidable (s.canonical = some .created))
  | .setFlowRunDispatch .resumed => inferInstanceAs (Decidable (s.canonical = some .running))
  | .executorEnd .first verdict => inferInstanceAs (Decidable (verdict = .failed))
  | .resumeFlowRun _ => inferInstanceAs (Decidable (s.canonical = some .waiting ∧ s.Quiet))
  | .reconcileFail =>
    match found : s.row with
    | none => isFalse fun ⟨_, _, present, _⟩ => nomatch found.symm.trans present
    | some row =>
      decidable_of_iff (s.Quiet ∧ (row.status = .queued ∨ row.status = .running))
        (by simp [Supervised, found])
  | .createFlowRun _ => isTrue trivial
  | .startWorkflow _ => isTrue trivial
  | .prepareFlowRun _ => isTrue trivial
  | .abandonPrepare => isTrue trivial
  | .endTraversal _ => isTrue trivial
  | .finalizeFlowRun _ _ => isTrue trivial
  | .executorEnd .resumed _ => isTrue trivial
  | .reconcileRead => isTrue trivial
  | .crash _ => isTrue trivial

theorem resumedRun_lawful : (trace step System.initial resumedRun).length = 12 ∧
      ∀ t ∈ trace step System.initial resumedRun, Lawful t :=
  ⟨by decide, lifecycle_lawful_of_supervised resumedRun (by decide)⟩

/-- The worker finishes a run before the service records its dispatch: the dispatch write takes a
completed run back to created. -/
theorem completed_run_reopened_by_dispatch : ¬ ∀ t ∈ trace step System.initial
        [.createFlowRun true, .startWorkflow .first, .prepareFlowRun true,
         .endTraversal .completed, .finalizeFlowRun .completed true,
         .setFlowRunDispatch .first], Lawful t := by
  decide

end AgentOrchestration.Lifecycle
