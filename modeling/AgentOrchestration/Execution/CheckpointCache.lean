import AgentOrchestration.Library.LabelledSystem
import Mathlib.Data.List.Lemmas

/-!
# The checkpoint of a run and its cache

`ExecutionRepository.get_graph_state` reads the checkpoint of a run through the cache, and
`upsert_graph_state` writes it and deletes the cache entry. Any number of calls run at
once; every statement and every cache operation is one step.
-/

namespace AgentOrchestration.Execution

set_option autoImplicit false

open LabelledSystem (trace)

variable {σ : Type}

/-! ## The store -/

/-- What an upsert writes: a document and the node run it comes from. -/
@[ext]
structure Checkpoint (σ : Type) where
  state : σ
  lastNodeRunId : Option ℕ
  deriving DecidableEq

/-- A row of `graph_state` for the run. No constraint keeps a run to one row. -/
structure CheckpointRow (σ : Type) extends Checkpoint σ where
  graphStateId : ℕ
  deriving DecidableEq

/-- `scalar_one_or_none` found several rows. -/
inductive SelectError where
  | multipleResultsFound
  deriving DecidableEq

/-- `result.scalar_one_or_none()`. -/
def scalarOneOrNone {α : Type} : List α → Except SelectError (Option α)
  | [] => .ok none
  | [row] => .ok (some row)
  | _ => .error .multipleResultsFound

/-- Where a call of `get_graph_state` is. -/
inductive GetStage (σ : Type) where
  | begun
  | missed
  /-- A row was read when so many upserts had committed. -/
  | found (row : CheckpointRow σ) (commits : ℕ)

/-- A call of `get_graph_state`, with the upserts that had returned when it began. -/
structure GetCall (σ : Type) where
  floor : List ℕ
  stage : GetStage σ

/-- Where a call of `upsert_graph_state` is. -/
inductive UpsertStage (σ : Type) where
  | begun
  | selected (found : Option (CheckpointRow σ))
  /-- The upsert was the one committed at this position. -/
  | committed (position : ℕ)

/-- A call of `upsert_graph_state`. -/
structure UpsertCall (σ : Type) where
  given : Checkpoint σ
  stage : UpsertStage σ

/-- What a call of `get_graph_state` came to. -/
structure GetResult (σ : Type) where
  floor : List ℕ
  answer : Except SelectError (Option (CheckpointRow σ))
  deriving DecidableEq

/-- The rows and the cache entry of a run, the calls that run, and what has happened: the upserts in
the order of their commits, the positions of those that have returned, and the answers of the
gets. -/
structure CheckpointStore (σ : Type) where
  rows : List (CheckpointRow σ)
  freshId : ℕ
  cache : Option (CheckpointRow σ)
  gets : List (GetCall σ)
  upserts : List (UpsertCall σ)
  committed : List (Checkpoint σ)
  returned : List ℕ
  results : List (GetResult σ)

/-- What a run can do. -/
inductive CheckpointAction (σ : Type) where
  | beginGet
  | beginUpsert (given : Checkpoint σ)
  | advanceGet (index : ℕ)
  | advanceUpsert (index : ℕ)

/-- The row after the `UPDATE` of a loaded row: only columns whose value differs from the loaded one
are written. -/
def CheckpointRow.assign [DecidableEq σ] (found : CheckpointRow σ) (given : Checkpoint σ)
    (current : CheckpointRow σ) : CheckpointRow σ :=
  { current with
    state := if given.state = found.state then current.state else given.state
    lastNodeRunId :=
      if given.lastNodeRunId = found.lastNodeRunId then current.lastNodeRunId
      else given.lastNodeRunId }

namespace CheckpointStore

/-- Nothing has been written. -/
def empty : CheckpointStore σ :=
  { rows := [], freshId := 0, cache := none, gets := [], upserts := [], committed := [],
    returned := []
    results := [] }

def answer (store : CheckpointStore σ) (index : ℕ) (call : GetCall σ)
    (answer : Except SelectError (Option (CheckpointRow σ))) : CheckpointStore σ :=
  { store with
    gets := store.gets.eraseIdx index
    results := store.results ++ [{ floor := call.floor, answer }] }

def setGet (store : CheckpointStore σ) (index : ℕ) (call : GetCall σ) (stage : GetStage σ) :
    CheckpointStore σ :=
  { store with gets := store.gets.set index { call with stage } }

def setUpsert (store : CheckpointStore σ) (index : ℕ) (call : UpsertCall σ)
    (stage : UpsertStage σ) :
    CheckpointStore σ :=
  { store with upserts := store.upserts.set index { call with stage } }

def advanceGet (store : CheckpointStore σ) (index : ℕ) (call : GetCall σ) : CheckpointStore σ :=
  match call.stage with
  | .begun =>
    match store.cache with
    | some row => store.answer index call (.ok (some row))
    | none => store.setGet index call .missed
  | .missed =>
    match scalarOneOrNone store.rows with
    | .error error => store.answer index call (.error error)
    | .ok none => store.answer index call (.ok none)
    | .ok (some row) => store.setGet index call (.found row store.committed.length)
  | .found row _ => { store with cache := some row }.answer index call (.ok (some row))

/-- `session.commit()` of an upsert. -/
def commit [DecidableEq σ] (store : CheckpointStore σ) (given : Checkpoint σ) :
    Option (CheckpointRow σ) → CheckpointStore σ
  | none =>
    { store with
      rows := store.rows ++ [{ given with graphStateId := store.freshId }]
      freshId := store.freshId + 1
      committed := store.committed ++ [given] }
  | some found =>
    { store with
      rows := store.rows.map fun row =>
        if row.graphStateId = found.graphStateId then found.assign given row else row
      committed := store.committed ++ [given] }

def advanceUpsert [DecidableEq σ] (store : CheckpointStore σ) (index : ℕ) (call : UpsertCall σ) :
    CheckpointStore σ :=
  match call.stage with
  | .begun =>
    match scalarOneOrNone store.rows with
    | .error _ => { store with upserts := store.upserts.eraseIdx index }
    | .ok found => store.setUpsert index call (.selected found)
  | .selected found =>
    (store.commit call.given found).setUpsert index call (.committed store.committed.length)
  | .committed position =>
    { store with
      cache := none
      upserts := store.upserts.eraseIdx index
      returned := store.returned ++ [position] }

def step [DecidableEq σ] (store : CheckpointStore σ) : CheckpointAction σ →
    Option (CheckpointStore σ)
  | .beginGet =>
    some { store with gets := store.gets ++ [{ floor := store.returned, stage := .begun }] }
  | .beginUpsert given =>
    some { store with upserts := store.upserts ++ [{ given, stage := .begun }] }
  | .advanceGet index => store.gets[index]?.map (store.advanceGet index)
  | .advanceUpsert index => store.upserts[index]?.map (store.advanceUpsert index)

end CheckpointStore

/-! ## Coherence -/

def NotOlder (committed : List (Checkpoint σ)) (floor : List ℕ) (row : CheckpointRow σ) : Prop :=
  ∃ position, committed[position]? = some row.toCheckpoint ∧ ∀ earlier ∈ floor, earlier ≤ position

/-- Every get that began after an upsert had returned yields what that upsert or a later one
wrote. -/
def CheckpointStore.Coherent (store : CheckpointStore σ) : Prop :=
  ∀ result ∈ store.results, result.floor ≠ [] →
    ∃ row, result.answer = .ok (some row) ∧ NotOlder store.committed result.floor row

/-- When a get writes its row to the cache, every upsert that has returned had committed before the
row was read. -/
def GetStage.Current (returned : List ℕ) : GetStage σ → Prop
  | .found _ commits => ∀ position ∈ returned, position < commits
  | .begun => True
  | .missed => True

/-- When an upsert commits, the run has no row if it found none, and a column to which it gives the
value that it found still has it. -/
def UpsertStage.AsFound (rows : List (CheckpointRow σ)) (given : Checkpoint σ) :
    UpsertStage σ → Prop
  | .selected none => rows = []
  | .selected (some found) => ∀ row ∈ rows, (given.state = found.state → row.state = found.state) ∧
        (given.lastNodeRunId = found.lastNodeRunId → row.lastNodeRunId = found.lastNodeRunId)
  | .begun => True
  | .committed _ => True

/-- What keeps the reads of a run coherent. -/
def Undisturbed (store : CheckpointStore σ) : CheckpointAction σ → Prop
  | .beginGet => True
  | .beginUpsert _ => True
  | .advanceGet index => ∀ call ∈ store.gets[index]?, call.stage.Current store.returned
  | .advanceUpsert index => ∀ call ∈ store.upserts[index]?, call.stage.AsFound store.rows call.given

instance (returned : List ℕ) : (stage : GetStage σ) → Decidable (stage.Current returned)
  | .found _ commits => inferInstanceAs (Decidable (∀ position ∈ returned, position < commits))
  | .begun => isTrue trivial
  | .missed => isTrue trivial

instance [DecidableEq σ] (rows : List (CheckpointRow σ)) (given : Checkpoint σ) :
    (stage : UpsertStage σ) → Decidable (stage.AsFound rows given)
  | .selected none => inferInstanceAs (Decidable (rows = []))
  | .selected (some found) => inferInstanceAs (Decidable (∀ row ∈ rows,
      (given.state = found.state → row.state = found.state) ∧
        (given.lastNodeRunId = found.lastNodeRunId → row.lastNodeRunId = found.lastNodeRunId)))
  | .begun => isTrue trivial
  | .committed _ => isTrue trivial

instance [DecidableEq σ] (store : CheckpointStore σ) :
    (action : CheckpointAction σ) → Decidable (Undisturbed store action)
  | .beginGet => isTrue trivial
  | .beginUpsert _ => isTrue trivial
  | .advanceGet index =>
    inferInstanceAs (Decidable (∀ call ∈ store.gets[index]?, call.stage.Current store.returned))
  | .advanceUpsert index =>
    inferInstanceAs
      (Decidable (∀ call ∈ store.upserts[index]?, call.stage.AsFound store.rows call.given))

/-! ## The invariant -/

def GetCall.Sound (store : CheckpointStore σ) (call : GetCall σ) : Prop :=
  (∀ position ∈ call.floor, position ∈ store.returned) ∧ ∀ row commits,
    call.stage = .found row commits →
      ∃ last, commits = last + 1 ∧ store.committed[last]? = some row.toCheckpoint ∧
        ∀ position ∈ call.floor, position ≤ last

def UpsertCall.Sound (store : CheckpointStore σ) (call : UpsertCall σ) : Prop :=
  (∀ found, call.stage = .selected (some found) →
      store.rows.map CheckpointRow.graphStateId = [found.graphStateId]) ∧
    ∀ position, call.stage = .committed position → position < store.committed.length

structure Fresh (store : CheckpointStore σ) : Prop where
  rows : store.rows.map CheckpointRow.toCheckpoint = store.committed.getLast?.toList
  cached : ∀ row ∈ store.cache, NotOlder store.committed store.returned row
  gets : ∀ call ∈ store.gets, call.Sound store
  upserts : ∀ call ∈ store.upserts, call.Sound store
  returned : ∀ position ∈ store.returned, position < store.committed.length
  coherent : store.Coherent

theorem fresh_empty : Fresh (CheckpointStore.empty : CheckpointStore σ) := by
  constructor <;> simp [CheckpointStore.empty, CheckpointStore.Coherent]

section

variable {store : CheckpointStore σ} {index : ℕ} {call : GetCall σ} {row : CheckpointRow σ}

theorem NotOlder.mono {committed later floor floor'} (fresh : NotOlder committed floor row)
    (grows : committed <+: later) (fewer : ∀ pos ∈ floor', pos ∈ floor) :
    NotOlder later floor' row := by
  obtain ⟨pos, written, above⟩ := fresh
  refine ⟨pos, ?_, fun earlier mem => above earlier (fewer earlier mem)⟩
  obtain ⟨rest, rfl⟩ := grows
  obtain ⟨isIn, -⟩ := List.getElem?_eq_some_iff.mp written
  rw [List.getElem?_append_left isIn, written]

theorem Fresh.of_scalarOneOrNone (fresh : Fresh store) {found}
    (queried : scalarOneOrNone store.rows = .ok found) :
    store.rows = found.toList ∧ store.committed.getLast? =
      found.map CheckpointRow.toCheckpoint := by
  have last := fresh.rows
  rcases rows : store.rows with _ | ⟨row, _ | ⟨other, rest⟩⟩
  · rw [rows] at queried last
    cases queried
    exact ⟨rfl, by simpa using last.symm⟩
  · rw [rows] at queried last
    cases queried
    refine ⟨rfl, ?_⟩
    cases written : store.committed.getLast? with
    | none =>
      rw [written] at last
      cases last
    | some checkpoint =>
      rw [written] at last
      cases last
      rfl
  · rw [rows] at queried
    cases queried

theorem Fresh.scalarOneOrNone_ne (fresh : Fresh store) (error : SelectError) :
    scalarOneOrNone store.rows ≠ .error error := by
  intro failed
  have last := congrArg List.length fresh.rows
  rcases rows : store.rows with _ | ⟨row, _ | ⟨other, rest⟩⟩
  · simp [rows, scalarOneOrNone] at failed
  · simp [rows, scalarOneOrNone] at failed
  · rw [rows] at last
    cases written : store.committed.getLast? <;> simp [written] at last

theorem getElem?_of_getLast? {committed : List (Checkpoint σ)} {checkpoint : Checkpoint σ}
    (last : committed.getLast? = some checkpoint) :
    committed.length = (committed.length - 1) + 1 ∧
      committed[committed.length - 1]? = some checkpoint := by
  rw [List.getLast?_eq_getElem?] at last
  obtain ⟨isIn, -⟩ := List.getElem?_eq_some_iff.mp last
  exact ⟨by omega, last⟩

theorem Fresh.answer (fresh : Fresh store) {answer}
    (right : call.floor ≠ [] → ∃ row, answer = .ok (some row) ∧
      NotOlder store.committed call.floor row) :
    Fresh (store.answer index call answer) := by
  refine { fresh with gets := ?_, coherent := ?_ }
  · exact fun other mem => fresh.gets other (List.mem_of_mem_eraseIdx mem)
  · exact List.forall_mem_append.mpr ⟨fresh.coherent, List.forall_mem_singleton.mpr right⟩

theorem Fresh.setGet (fresh : Fresh store) {stage}
    (sound : GetCall.Sound store { call with stage }) : Fresh (store.setGet index call stage) := by
  refine { fresh with gets := ?_ }
  intro other mem
  rcases List.mem_or_eq_of_mem_set mem with old | rfl
  · exact fresh.gets other old
  · exact sound

theorem Fresh.advanceGet (fresh : Fresh store) (running : store.gets[index]? = some call)
    (undisturbed : Undisturbed store (.advanceGet index)) :
    Fresh (store.advanceGet index call) := by
  have sound := fresh.gets call (List.mem_of_getElem? running)
  unfold CheckpointStore.advanceGet
  cases stage : call.stage with
  | begun =>
    cases cached : store.cache with
    | some row =>
      refine fresh.answer fun _ => ⟨row, rfl, ?_⟩
      exact (fresh.cached row cached).mono (List.prefix_refl _) sound.1
    | none => exact fresh.setGet ⟨sound.1, nofun⟩
  | missed =>
    dsimp only
    cases queried : scalarOneOrNone store.rows with
    | error error => exact absurd queried (fresh.scalarOneOrNone_ne error)
    | ok found =>
      have last := (fresh.of_scalarOneOrNone queried).2
      cases found with
      | none =>
        refine fresh.answer fun nonempty => absurd (List.eq_nil_iff_forall_not_mem.mpr ?_) nonempty
        intro position member
        have inside := fresh.returned position (sound.1 position member)
        rw [List.getLast?_eq_none_iff.mp last] at inside
        exact Nat.not_lt_zero _ inside
      | some row =>
        obtain ⟨size, written⟩ := getElem?_of_getLast? last
        refine fresh.setGet ⟨sound.1, ?_⟩
        rintro _ _ ⟨⟩
        refine ⟨_, size, written, fun position member => ?_⟩
        have inside := fresh.returned position (sound.1 position member)
        omega
  | found row commits =>
    obtain ⟨last, rfl, written, above⟩ := sound.2 row commits stage
    have recent := undisturbed call running
    rw [stage] at recent
    have cached : Fresh { store with cache := some row } := by
      refine { fresh with cached := ?_ }
      rintro _ ⟨⟩
      exact ⟨last, written, fun position member => Nat.le_of_lt_succ (recent position member)⟩
    exact cached.answer fun _ => ⟨row, rfl, last, written, above⟩

/-- What is known of a get stays true while upserts commit and return. -/
theorem GetCall.Sound.mono {next} (sound : call.Sound store)
    (grows : store.committed <+: next.committed)
    (more : ∀ pos ∈ store.returned, pos ∈ next.returned) : call.Sound next := by
  refine ⟨fun pos mem => more pos (sound.1 pos mem), fun row commits stage => ?_⟩
  obtain ⟨last, size, written, above⟩ := sound.2 row commits stage
  obtain ⟨isIn, -⟩ := List.getElem?_eq_some_iff.mp written
  obtain ⟨rest, grown⟩ := grows
  exact ⟨last, size, by rw [← grown, List.getElem?_append_left isIn, written], above⟩

theorem CheckpointStore.Coherent.mono {next : CheckpointStore σ} (coherent : store.Coherent)
    (grows : store.committed <+: next.committed) (eq : next.results = store.results) :
    next.Coherent := by
  intro res mem nonempty
  rw [eq] at mem
  obtain ⟨row, answer, fresh⟩ := coherent res mem nonempty
  exact ⟨row, answer, fresh.mono grows fun _ isIn => isIn⟩

variable {upsert : UpsertCall σ}

theorem Fresh.setUpsert (fresh : Fresh store) {stage}
    (sound : UpsertCall.Sound store { upsert with stage }) :
    Fresh (store.setUpsert index upsert stage) := by
  refine { fresh with upserts := ?_ }
  intro other mem
  rcases List.mem_or_eq_of_mem_set mem with old | rfl
  · exact fresh.upserts other old
  · exact sound

/-- Another upsert has committed, and the rows are as it left them. -/
theorem Fresh.committed (fresh : Fresh store) (given) {rows : List (CheckpointRow σ)} {freshId}
    (written : rows.map CheckpointRow.toCheckpoint = [given])
    (kept : ∀ graphStateId, store.rows.map CheckpointRow.graphStateId = [graphStateId] →
      rows.map CheckpointRow.graphStateId = [graphStateId]) :
    Fresh { store with rows, freshId, committed := store.committed ++ [given] } := by
  have grows : store.committed <+: store.committed ++ [given] := List.prefix_append _ _
  have longer : (store.committed ++ [given]).length = store.committed.length + 1 := by simp
  constructor
  · rw [written, List.getLast?_concat]
    rfl
  · exact fun row cached => (fresh.cached row cached).mono grows fun _ isIn => isIn
  · exact fun call running => (fresh.gets call running).mono grows fun _ isIn => isIn
  · intro call running
    obtain ⟨selected, committed⟩ := fresh.upserts call running
    refine ⟨fun found stage => kept _ (selected found stage), fun pos stage => ?_⟩
    rw [longer]
    exact Nat.lt_succ_of_lt (committed pos stage)
  · intro pos mem
    rw [longer]
    exact Nat.lt_succ_of_lt (fresh.returned pos mem)
  · exact fresh.coherent.mono grows rfl

/-- A row that is as it was loaded, or given new values where it is not, ends up as given. -/
theorem toCheckpoint_assign [DecidableEq σ] {found current : CheckpointRow σ} {given : Checkpoint σ}
    (st : given.state = found.state → current.state = found.state)
    (lastNodeRunId : given.lastNodeRunId = found.lastNodeRunId →
      current.lastNodeRunId = found.lastNodeRunId) :
    (found.assign given current).toCheckpoint = given := by
  have first : (found.assign given current).state = given.state := by
    by_cases same : given.state = found.state
    · simp [CheckpointRow.assign, same, st same]
    · simp [CheckpointRow.assign, same]
  have second : (found.assign given current).lastNodeRunId = given.lastNodeRunId := by
    by_cases same : given.lastNodeRunId = found.lastNodeRunId
    · simp [CheckpointRow.assign, same, lastNodeRunId same]
    · simp [CheckpointRow.assign, same]
  exact Checkpoint.ext first second

theorem Fresh.commit [DecidableEq σ] (fresh : Fresh store) (sound : upsert.Sound store) {found}
    (stage : upsert.stage = .selected found) (running : store.upserts[index]? = some upsert)
    (undisturbed : Undisturbed store (.advanceUpsert index)) :
    Fresh (store.commit upsert.given found) := by
  have asFound := undisturbed upsert running
  rw [stage] at asFound
  cases found with
  | none =>
    refine fresh.committed upsert.given ?_ ?_ <;> simp [show store.rows = [] from asFound]
  | some found =>
    have one := sound.1 found stage
    obtain ⟨current, rows, same⟩ : ∃ current, store.rows = [current] ∧
        current.graphStateId = found.graphStateId := by
      simpa [List.map_eq_singleton_iff] using one
    obtain ⟨state, lastNodeRunId⟩ := asFound current (by simp [rows])
    refine fresh.committed upsert.given ?_ ?_
    · simp [rows, same, toCheckpoint_assign state lastNodeRunId]
    · simp [rows, same, CheckpointRow.assign]

theorem Fresh.advanceUpsert [DecidableEq σ] (fresh : Fresh store)
    (running : store.upserts[index]? = some upsert)
    (undisturbed : Undisturbed store (.advanceUpsert index)) :
    Fresh (store.advanceUpsert index upsert) := by
  have sound := fresh.upserts upsert (List.mem_of_getElem? running)
  unfold CheckpointStore.advanceUpsert
  cases stage : upsert.stage with
  | begun =>
    dsimp only
    cases queried : scalarOneOrNone store.rows with
    | error error => exact absurd queried (fresh.scalarOneOrNone_ne error)
    | ok found =>
      refine fresh.setUpsert ⟨?_, nofun⟩
      rintro row ⟨⟩
      simp [(fresh.of_scalarOneOrNone queried).1]
  | selected found =>
    refine (fresh.commit sound stage running undisturbed).setUpsert ⟨nofun, ?_⟩
    rintro position ⟨⟩
    cases found <;> simp [CheckpointStore.commit]
  | committed position =>
    have inside := sound.2 position stage
    constructor
    · exact fresh.rows
    · exact nofun
    · intro call member
      exact (fresh.gets call member).mono (List.prefix_refl _) fun _ old =>
        List.mem_append_left _ old
    · exact fun other member => fresh.upserts other (List.mem_of_mem_eraseIdx member)
    · exact List.forall_mem_append.mpr ⟨fresh.returned, List.forall_mem_singleton.mpr inside⟩
    · exact fresh.coherent

theorem Fresh.step [DecidableEq σ] (fresh : Fresh store) {action next}
    (calm : Undisturbed store action) (ran : store.step action = some next) : Fresh next := by
  cases action with
  | beginGet =>
    cases ran
    refine { fresh with gets := ?_ }
    exact List.forall_mem_append.mpr
      ⟨fresh.gets, List.forall_mem_singleton.mpr ⟨fun _ isIn => isIn, nofun⟩⟩
  | beginUpsert given =>
    cases ran
    refine { fresh with upserts := ?_ }
    exact List.forall_mem_append.mpr ⟨fresh.upserts, List.forall_mem_singleton.mpr ⟨nofun, nofun⟩⟩
  | advanceGet idx =>
    obtain ⟨call, running, rfl⟩ := Option.map_eq_some_iff.mp ran
    exact fresh.advanceGet running calm
  | advanceUpsert idx =>
    obtain ⟨call, running, rfl⟩ := Option.map_eq_some_iff.mp ran
    exact fresh.advanceUpsert running calm

end

/-! ## Every interleaving -/

/-- **In every run in which no write returns between the query of a read and its cache write, unless
it had committed before the query, and every commit finds the row as it was queried, a read that
begins after a write returned yields that write or a later one, in every state reached.** -/
theorem coherent_of_undisturbed [DecidableEq σ] (actions : List (CheckpointAction σ))
    (undisturbed : ∀ t ∈ trace CheckpointStore.step CheckpointStore.empty actions,
      Undisturbed t.before t.action) :
    ∀ t ∈ trace CheckpointStore.step CheckpointStore.empty actions, t.after.Coherent :=
  LabelledSystem.trace_law (I := Fresh) (G := Undisturbed)
    (fun _ _ _ fresh guarded performed => fresh.step guarded performed)
    (fun _ _ _ fresh guarded performed => (fresh.step guarded performed).coherent)
    actions _ fresh_empty undisturbed

/-- A whole upsert of a document, while no other call is running. -/
def wholeUpsert (document : String) : List (CheckpointAction String) :=
  [.beginUpsert { state := document, lastNodeRunId := none }, .advanceUpsert 0, .advanceUpsert 0,
    .advanceUpsert 0]

/-- A get that misses and one that hits after each of two upserts. -/
def writesAndReads : List (CheckpointAction String) :=
  wholeUpsert "a" ++ [.beginGet, .advanceGet 0, .advanceGet 0, .advanceGet 0, .beginGet,
    .advanceGet 0] ++
    wholeUpsert "b" ++ [.beginGet, .advanceGet 0, .advanceGet 0, .advanceGet 0, .beginGet,
      .advanceGet 0]

theorem writesAndReads_coherent :
    (LabelledSystem.final CheckpointStore.step .empty writesAndReads).results.map GetResult.floor
        = [[0], [0], [0, 1], [0, 1]] ∧
      ∀ t ∈ trace CheckpointStore.step CheckpointStore.empty writesAndReads, t.after.Coherent :=
  ⟨by decide, coherent_of_undisturbed writesAndReads (by decide)⟩

/-- A get reads the first document; before it writes the cache, an upsert of the second one commits,
deletes the entry and returns. A second get begins. -/
def lateCacheWrite : List (CheckpointAction String) :=
  wholeUpsert "a" ++ [.beginGet, .advanceGet 0, .advanceGet 0] ++ wholeUpsert "b" ++
    [.advanceGet 0, .beginGet, .advanceGet 0]

/-- Two first upserts of a run, each of which found no row; a get begins when both have returned. -/
def twoFirstUpserts : List (CheckpointAction String) :=
  [.beginUpsert { state := "a", lastNodeRunId := none },
    .beginUpsert { state := "b", lastNodeRunId := none }, .advanceUpsert 0, .advanceUpsert 1,
    .advanceUpsert 0, .advanceUpsert 1, .advanceUpsert 0, .advanceUpsert 0, .beginGet,
    .advanceGet 0, .advanceGet 0]

/-- After a late cache write the cache serves a document that was overwritten before the get began;
after two first upserts no get yields anything. -/
theorem stale_or_no_checkpoint :
    (LabelledSystem.final CheckpointStore.step .empty lateCacheWrite).results.getLast? =
        some { floor := [0, 1],
               answer := .ok (some { state := "a", lastNodeRunId := none, graphStateId := 0 }) } ∧
      ¬ (LabelledSystem.final CheckpointStore.step .empty lateCacheWrite).Coherent ∧
      ¬ (LabelledSystem.final CheckpointStore.step .empty twoFirstUpserts).Coherent := by
  refine ⟨by decide, fun coherent => ?_, fun coherent => ?_⟩
  · obtain ⟨row, answer, position, written, above⟩ := coherent
      { floor := [0, 1],
        answer := .ok (some { state := "a", lastNodeRunId := none, graphStateId := 0 }) }
      (by decide) (by decide)
    cases answer
    have committed : (LabelledSystem.final CheckpointStore.step .empty lateCacheWrite).committed
        = [{ state := "a", lastNodeRunId := none }, { state := "b",
                                                      lastNodeRunId := none }] := by decide
    have last : 1 ≤ position := above 1 (by decide)
    rw [committed] at written
    have inside := (List.getElem?_eq_some_iff.mp written).1
    simp only [List.length_cons, List.length_nil] at inside
    obtain rfl : position = 1 := by omega
    exact absurd written (by decide)
  · obtain ⟨row, answer, -⟩ := coherent { floor := [0, 1], answer := .error .multipleResultsFound }
      (by decide) (by decide)
    cases answer

end AgentOrchestration.Execution
