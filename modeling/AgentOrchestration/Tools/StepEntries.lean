import AgentOrchestration.Tools.Confinement
import AgentOrchestration.Tools.SelectiveRetry

/-!
# The entries of a `ToolExecutor` step

A step carries its READY operations out one after another and merges their results by
operation id, so the last operation with an id decides the entry of that id.
-/

namespace AgentOrchestration.Tools

set_option autoImplicit false

open Execution (ServiceError)
open Program (bind_of_ok attempt_of_error attempt_of_ok ofOption bind_of_error)

variable {w : ToolWorld} {tables : ToolTables} {clock : ToolClock} {hasScheduler : Bool}
  {context : ToolContext} {input : ToolRunInput}

/-! ## One operation -/

/-- The backend of the node inserts a tool run, or raises and writes nothing. -/
theorem nodeBackend_creates (w tables clock hasScheduler) (store : ToolStore) (context input) :
    (∃ raised, (nodeBackend w tables clock hasScheduler).createToolRun context input store =
      .error raised store) ∨
    ∃ toolRunId toolRun, (nodeBackend w tables clock hasScheduler).createToolRun context input
        store = .ok toolRunId (store.created toolRun) ∧
      (store.created toolRun).getToolRun toolRunId = some toolRun := by
  cases read : w.readUuid input.toolConfigId with
  | none =>
    have run : (ofOption (.unexpected "ValueError") (w.readUuid input.toolConfigId) :
        ToolM ℕ) store = .error (.unexpected "ValueError") store := by
      rw [read]
      rfl
    exact .inl ⟨_, bind_of_error run⟩
  | some toolConfigId =>
    have run : (nodeBackend w tables clock hasScheduler).createToolRun context input store =
        insertToolRun w tables (nodeBody context input toolConfigId) store :=
      bind_of_ok (Program.ofOption_eq_ok.mpr ⟨read, rfl⟩)
    rcases insertToolRun_outcome w tables store (nodeBody context input toolConfigId) with
      ⟨error, failed⟩ | ⟨fresh, inserted⟩
    · exact .inl ⟨error, run.trans failed⟩
    · exact .inr ⟨_, _, run.trans inserted, getToolRun_created fresh⟩

theorem scheduleToolRun_outcome (w : ToolWorld) (clock ctx toolRunId runAt) (st : ToolStore) :
    (∃ raised, w.fails st .startWorkflow = some raised ∧
      scheduleToolRun w clock ctx toolRunId runAt st = .error raised st) ∨
    (w.fails st .startWorkflow = none ∧ ∃ both next,
      scheduleToolRun w clock ctx toolRunId runAt st = .ok both next) := by
  cases fails : w.fails st .startWorkflow with
  | none =>
    have started : call w .startWorkflow st = .ok ⟨⟩ st := call_eq_ok.mpr ⟨fails, rfl⟩
    exact .inr ⟨rfl, _, _, bind_of_ok started⟩
  | some raised =>
    have failed : call w .startWorkflow st = .error raised st := by
      refine (bind_of_ok rfl).trans ?_
      rw [fails]
      rfl
    exact .inl ⟨raised, rfl, bind_of_error failed⟩

/-! ## The operations of a step -/

structure OperationRun where
  input : ToolRunInput
  before : ToolStore
  result : ToolRunResult
  after : ToolStore

section

variable (w : ToolWorld) (tables : ToolTables) (clock : ToolClock) (hasScheduler : Bool)
  (context : ToolContext)

def operationRuns : List ToolRunInput → ToolStore → List OperationRun
  | [], _ => []
  | input :: rest, store =>
    match executeOne (nodeBackend w tables clock hasScheduler) clock context input store with
    | .ok result after => ⟨input, store, result, after⟩ :: operationRuns rest after
    | .error _ _ => []

def stepRuns (config : Fields) (store : ToolStore) : List OperationRun :=
  match stepInputs clock context config with
  | .error _ => []
  | .ok (inputs, precomputed) =>
    operationRuns w tables clock hasScheduler context
      (selectRetries context.state inputs precomputed).1 store

end

/-- The last operation with an id: the one whose result is kept for that id. -/
def lastWith (runs : List OperationRun) (operationId : String) : Option OperationRun :=
  runs.reverse.find? fun run => run.input.operationId = operationId

/-- The operation is executed, or it is scheduled: its tool run is created, and then handed to the
orchestrator, or to the scheduler, which takes it. -/
def OperationRun.acts (w : ToolWorld) (tables : ToolTables) (clock : ToolClock)
    (hasScheduler : Bool) (context : ToolContext) (run : OperationRun) : Bool :=
  match (nodeBackend w tables clock hasScheduler).createToolRun context run.input run.before with
  | .error _ _ => false
  | .ok _ created =>
    match run.input.runAt with
    | none => true
    | some _ => hasScheduler && (w.fails created .startWorkflow).isNone

/-- A result tells that its operation was executed or scheduled: by its status, or by the tool run
in the payload of an error. -/
def TellsAction (result : ToolRunResult) : Prop :=
  result.status ≠ .error ∨
    result.executionMode = .immediate ∧ (result.result.lookup "tool_run_id").isSome = true

theorem lookup_errorPayload (clock : ToolClock) (error : ServiceError) (message : String)
    (toolRunId : Option ℕ) :
    ((errorPayload clock error message toolRunId).lookup "tool_run_id").isSome =
      toolRunId.isSome := by
  unfold errorPayload
  cases error.domainValidationMessage <;> cases toolRunId <;> rfl

variable (w tables clock hasScheduler context) in
/-- The result bears the id of the operation, and tells whether it was executed or scheduled. -/
structure Told (run : OperationRun) : Prop where
  own : run.result.operationId = run.input.operationId
  acted : run.acts w tables clock hasScheduler context = true ↔ TellsAction run.result

variable (w tables clock hasScheduler context input) in
/-- An operation always returns, with a result that tells what became of it. -/
theorem executeOne_told (store : ToolStore) : ∃ result after,
    executeOne (nodeBackend w tables clock hasScheduler) clock context input store =
      .ok result after ∧
    Told w tables clock hasScheduler context ⟨input, store, result, after⟩ := by
  unfold executeOne
  cases instant : input.runAt with
  | none =>
    cases made : (nodeBackend w tables clock hasScheduler).createToolRun context input store with
    | error raised next =>
      refine ⟨_, _, bind_of_ok (attempt_of_error made), rfl, ?_⟩
      simp [OperationRun.acts, made, TellsAction, immediateResult, lookup_errorPayload]
    | ok id next =>
      cases ran : (nodeBackend w tables clock hasScheduler).executeToolRun id next with
      | error raised last =>
        refine ⟨_, _, (bind_of_ok (attempt_of_ok made)).trans (bind_of_ok (attempt_of_error ran)),
          rfl, ?_⟩
        simp [OperationRun.acts, made, instant, TellsAction, immediateResult, lookup_errorPayload]
      | ok fields last =>
        refine ⟨_, _, (bind_of_ok (attempt_of_ok made)).trans (bind_of_ok (attempt_of_ok ran)),
          rfl, ?_⟩
        simp [OperationRun.acts, made, instant, TellsAction, immediateResult]
  | some runAt =>
    cases hasScheduler with
    | false =>
      refine ⟨_, _, rfl, rfl, ?_⟩
      cases made : (nodeBackend w tables clock false).createToolRun context input store <;>
        simp [OperationRun.acts, made, instant, TellsAction, scheduledResult]
    | true =>
      cases made : (nodeBackend w tables clock true).createToolRun context input store with
      | error raised next =>
        refine ⟨_, _, bind_of_ok (attempt_of_error made), rfl, ?_⟩
        simp [OperationRun.acts, made, TellsAction, scheduledResult]
      | ok id next =>
        rcases scheduleToolRun_outcome w clock context id runAt next with
          ⟨raised, fails, failed⟩ | ⟨works, both, last, scheduled⟩
        · refine ⟨_, _, (bind_of_ok (attempt_of_ok made)).trans
            (bind_of_ok (attempt_of_error failed)), rfl, ?_⟩
          simp [OperationRun.acts, made, instant, fails, TellsAction, scheduledResult]
        · refine ⟨_, _, (bind_of_ok (attempt_of_ok made)).trans
            (bind_of_ok (attempt_of_ok scheduled)), rfl, ?_⟩
          simp [OperationRun.acts, made, instant, works, TellsAction, scheduledResult]

variable (w tables clock hasScheduler context) in
theorem collect_operationRuns : ∀ (inputs : List ToolRunInput) (st : ToolStore), ∃ last,
    Program.collect (executeOne (nodeBackend w tables clock hasScheduler) clock context) inputs st =
      .ok ((operationRuns w tables clock hasScheduler context inputs st).map OperationRun.result)
        last := by
  intro inputs
  induction inputs with
  | nil => exact fun st => ⟨st, rfl⟩
  | cons input rest ih =>
    intro st
    obtain ⟨res, next, run, -⟩ := executeOne_told w tables clock hasScheduler context input st
    obtain ⟨last, later⟩ := ih next
    refine ⟨last, ?_⟩
    rw [operationRuns, run]
    exact (bind_of_ok run).trans (bind_of_ok later)

theorem told_of_mem_operationRuns {run} : ∀ {inputs st},
    run ∈ operationRuns w tables clock hasScheduler context inputs st →
      Told w tables clock hasScheduler context run := by
  intro inputs
  induction inputs with
  | nil => exact nofun
  | cons input rest ih =>
    intro st mem
    obtain ⟨res, next, run, told⟩ := executeOne_told w tables clock hasScheduler context input st
    rw [operationRuns, run] at mem
    rcases List.mem_cons.mp mem with rfl | later
    · exact told
    · exact ih later

/-! ## The result of a step -/

section

variable {state : Fields} {results : List ToolRunResult}

theorem lookup_merged (results : List ToolRunResult) (id : String) :
    (results.foldl (fun merged res => OrderedDict.set merged res.operationId res) []).lookup
      id = results.reverse.find? fun res => res.operationId = id := by
  rw [OrderedDict.lookup_foldl_set ToolRunResult.operationId (fun res => res) id results []]
  simp

theorem found_of_mem_merged {entry} (isIn : entry ∈ results.foldl
      (fun merged res => OrderedDict.set merged res.operationId res) []) :
    (results.reverse.find? fun res => res.operationId = entry.1) = some entry.2 ∧
      entry.2.operationId = entry.1 := by
  have found := OrderedDict.lookup_of_mem (OrderedDict.nodup_keys_foldl_set
    ToolRunResult.operationId (fun res => res) results [] List.nodup_nil) isIn
  rw [lookup_merged] at found
  exact ⟨found, by simpa using List.find?_some found⟩

theorem last_of_mergeResults {res} (mem : res ∈ mergeResults results) :
    (results.reverse.find? fun other => other.operationId = res.operationId) = some res := by
  obtain ⟨entry, inside, rfl⟩ := List.mem_map.mp mem
  obtain ⟨found, eq⟩ := found_of_mem_merged inside
  rwa [eq]

end

/-! ## What a step reports -/

section

variable {store after : ToolStore} {config : Fields} {nodeResult : NodeResult}

theorem execute_stepRuns
    (returned : execute (nodeBackend w tables clock hasScheduler) clock context config store =
      .ok nodeResult after) :
    stepRuns w tables clock hasScheduler context config store = [] ∨
    ∃ others, nodeResult = finishedResult context.state (mergeResults (others ++
      (stepRuns w tables clock hasScheduler context config store).map OperationRun.result)) := by
  unfold execute at returned
  unfold stepRuns
  cases parsed : stepInputs clock context config with
  | error error => exact .inl rfl
  | ok both =>
    obtain ⟨inputs, precomputed⟩ := both
    cases limit : maxConcurrency context.metadata with
    | error error =>
      simp only [parsed, limit] at returned
      cases returned
    | ok concurrency =>
      simp only [parsed, limit] at returned
      obtain ⟨last, collected⟩ := collect_operationRuns w tables clock hasScheduler context
        (selectRetries context.state inputs precomputed).1 store
      cases (bind_of_ok collected).symm.trans returned
      exact .inr ⟨_, rfl⟩

theorem told_of_mem_stepRuns {run}
    (mem : run ∈ stepRuns w tables clock hasScheduler context config store) :
    Told w tables clock hasScheduler context run := by
  unfold stepRuns at mem
  split at mem
  · cases mem
  · exact told_of_mem_operationRuns mem

theorem exists_lastWith {runs run} (mem : run ∈ runs) :
    ∃ last, lastWith runs run.input.operationId = some last ∧ last ∈ runs := by
  have found : (lastWith runs run.input.operationId).isSome = true :=
    List.find?_isSome.mpr ⟨run, List.mem_reverse.mpr mem, by simp⟩
  obtain ⟨last, same⟩ := Option.isSome_iff_exists.mp found
  exact ⟨last, same, List.mem_reverse.mp (List.mem_of_find?_eq_some same)⟩

theorem kept_lastWith {runs id last}
    (own : ∀ run ∈ runs, run.result.operationId = run.input.operationId)
    (found : lastWith runs id = some last) (others) :
    ((others ++ runs.map OperationRun.result).reverse.find? fun res =>
      res.operationId = id) = some last.result := by
  have eq : (runs.reverse.find? ((fun res : ToolRunResult => decide (res.operationId = id)) ∘
      OperationRun.result)) = some last := by
    rw [← found]
    refine List.find?_congr fun run mem => ?_
    simp [own run (List.mem_reverse.mp mem)]
  rw [List.reverse_append, List.find?_append, ← List.map_reverse, List.find?_map, eq]
  rfl

theorem nodup_mergeResults (results : List ToolRunResult) :
    ((mergeResults results).map ToolRunResult.operationId).Nodup := by
  have keys := OrderedDict.nodup_keys_foldl_set ToolRunResult.operationId
    (fun result => result) results [] List.nodup_nil
  rw [mergeResults, List.map_map]
  refine (List.map_congr_left fun entry inside => ?_) ▸ keys
  exact (found_of_mem_merged inside).2.symm

section

variable {acts : OperationRun → Bool} {runs : List OperationRun}

theorem lastWith_cons (run : OperationRun) (rest : List OperationRun) (id : String) :
    lastWith (run :: rest) id =
      (lastWith rest id).or (if run.input.operationId = id then some run else none) := by
  unfold lastWith
  rw [List.reverse_cons, List.find?_append]
  by_cases same : run.input.operationId = id <;> simp [same]

/-- An operation that no later one shares its id with is the last with it. -/
theorem lastWith_of_pairwise (alone : runs.Pairwise fun earlier later =>
      acts earlier = true → earlier.input.operationId ≠ later.input.operationId) {run}
    (mem : run ∈ runs) (acted : acts run = true) : lastWith runs run.input.operationId =
      some run := by
  induction runs with
  | nil => cases mem
  | cons first rest ih =>
    obtain ⟨ahead, later⟩ := List.pairwise_cons.mp alone
    rw [lastWith_cons]
    rcases List.mem_cons.mp mem with rfl | mem
    · have none : lastWith rest run.input.operationId = none := by
        refine List.find?_eq_none.mpr fun other member => ?_
        simpa using (ahead other (List.mem_reverse.mp member) acted).symm
      simp [none]
    · rw [ih later mem]
      rfl

theorem pairwise_of_lastWith (distinct : runs.Pairwise fun earlier later => acts earlier = true →
      acts later = true → earlier.input.operationId ≠ later.input.operationId)
    (kept : ∀ run ∈ runs, acts run = true → ∀ last ∈ lastWith runs run.input.operationId,
      acts last = true) :
    runs.Pairwise fun earlier later =>
      acts earlier = true → earlier.input.operationId ≠ later.input.operationId := by
  induction runs with
  | nil => exact .nil
  | cons first rest ih =>
    obtain ⟨ahead, later⟩ := List.pairwise_cons.mp distinct
    -- whoever is in the rest is shadowed by nothing in front
    have behind {run} (mem : run ∈ rest) : ∃ last ∈ rest,
        lastWith (first :: rest) run.input.operationId = some last ∧
          lastWith rest run.input.operationId = some last := by
      obtain ⟨last, found, inside⟩ := exists_lastWith mem
      exact ⟨last, inside, by rw [lastWith_cons, found]; rfl, found⟩
    refine List.pairwise_cons.mpr ⟨fun other mem acted same => ?_, ih later fun run mem acted => ?_⟩
    · obtain ⟨last, inside, found, -⟩ := behind mem
      rw [← same] at found
      have other := kept first List.mem_cons_self acted last found
      refine ahead last inside acted other (Eq.symm ?_)
      simpa using List.find?_some found
    · obtain ⟨last, -, found, here⟩ := behind mem
      rw [here]
      exact fun _ isLast => kept run (List.mem_cons_of_mem _ mem) acted _ (found ▸ isLast)

end

/-- **When every tool call that a step executes or schedules has an entry of its own** in the
result: exactly if none of them is followed by another operation of the step with its id. -/
theorem own_entries_iff (w : ToolWorld) (tables : ToolTables) (clock : ToolClock)
    (hasScheduler : Bool) (context : ToolContext) (config : Fields) (store after : ToolStore)
    (nodeResult : NodeResult)
    (returned : execute (nodeBackend w tables clock hasScheduler) clock context config store =
      .ok nodeResult after) :
    ((((stepRuns w tables clock hasScheduler context config store).filter
        (OperationRun.acts w tables clock hasScheduler context)).map fun run =>
          run.result.dump).Subperm ((listUnder nodeResult.data "result").getD [])) ↔
      (stepRuns w tables clock hasScheduler context config store).Pairwise fun earlier later =>
        earlier.acts w tables clock hasScheduler context = true →
          earlier.input.operationId ≠ later.input.operationId := by
  have told : ∀ run ∈ stepRuns w tables clock hasScheduler context config store, _ :=
    fun run mem => told_of_mem_stepRuns mem
  rcases execute_stepRuns returned with none | ⟨others, rfl⟩
  · simp [none]
  generalize stepRuns w tables clock hasScheduler context config store = runs at told ⊢
  have own : ∀ run ∈ runs, run.result.operationId = run.input.operationId :=
    fun run mem => (told run mem).own
  show List.Subperm _ ((mergeResults _).map ToolRunResult.dump) ↔ _
  constructor
  · rintro ⟨kept, perm, sub⟩
    refine pairwise_of_lastWith ?_ fun run mem acted last found => ?_
    · -- the id of an operation can be read off its entry
      let idOf (entry : Value) :=
        (entry.asDict?.bind fun fields => stringField fields "operation_id").getD ""
      have nodup := (nodup_mergeResults (others ++ runs.map OperationRun.result)).sublist
        ((List.map_map (f := ToolRunResult.dump) (g := idOf)) ▸ sub.map idOf)
      have read := ((perm.map idOf).nodup_iff).mp nodup
      rw [List.map_map, List.Nodup, List.pairwise_map, List.pairwise_filter] at read
      refine read.imp_of_mem fun {earlier later} memEarlier memLater ne acts actsToo same => ?_
      refine ne acts actsToo ?_
      show earlier.result.operationId = later.result.operationId
      rw [own earlier memEarlier, own later memLater, same]
    · -- an equal entry tells that its operation acted, too
      have entry : run.result.dump ∈ (mergeResults (others ++ runs.map OperationRun.result)).map
          ToolRunResult.dump :=
        sub.subset (perm.mem_iff.mpr (List.mem_map_of_mem (List.mem_filter.mpr ⟨mem, acted⟩)))
      obtain ⟨result, merged, same⟩ := List.mem_map.mp entry
      obtain rfl : result = run.result := Option.some.inj (by
        rw [← validateResult_dump, same, validateResult_dump])
      have unique := last_of_mergeResults merged
      rw [own run mem, kept_lastWith own found others] at unique
      have inside := List.mem_reverse.mp (List.mem_of_find?_eq_some found)
      rw [(told last inside).acted, Option.some.inj unique, ← (told run mem).acted]
      exact acted
  · intro alone
    have uniq : ((runs.filter (OperationRun.acts w tables clock hasScheduler context)).map
        OperationRun.result).Nodup := by
      rw [List.Nodup, List.pairwise_map, List.pairwise_filter]
      refine alone.imp_of_mem fun {earlier later} memEarlier memLater ne acts _ same => ne acts ?_
      rw [← own earlier memEarlier, ← own later memLater, same]
    have subset : (runs.filter (OperationRun.acts w tables clock hasScheduler context)).map
        OperationRun.result ⊆ mergeResults (others ++ runs.map OperationRun.result) := by
      intro result mem
      obtain ⟨run, inside, rfl⟩ := List.mem_map.mp mem
      obtain ⟨inside, acted⟩ := List.mem_filter.mp inside
      have kept := kept_lastWith own (lastWith_of_pairwise alone inside acted) others
      rw [← lookup_merged, OrderedDict.lookup_eq_some_iff_mem (OrderedDict.nodup_keys_foldl_set
        ToolRunResult.operationId (fun result => result) _ [] List.nodup_nil)] at kept
      exact List.mem_map_of_mem kept
    obtain ⟨kept, perm, sub⟩ := List.subperm_of_subset uniq subset
    refine ⟨kept.map ToolRunResult.dump, ?_, sub.map _⟩
    have dumped := perm.map ToolRunResult.dump
    rw [List.map_map] at dumped
    exact dumped

end

/-- A world in which every call comes through and only dictionaries are valid results. -/
def reliableWorld : ToolWorld :=
  { plainWorld with validHttpResult := fun response => response.asDict?.isSome }

def eventStoreDown : ToolWorld :=
  { reliableWorld with
    fails := fun _ point =>
      if point = .invocationSucceededEvent then some (.unexpected "OperationalError") else none }

theorem two_payments_two_entries :
    ∃ nodeResult after,
      execute (nodeBackend reliableWorld twoTenantTools plainClock false) plainClock
        (paymentsBy "own" ["rent", "phone"]) [] noToolRuns = .ok nodeResult after ∧
      after.requests.length = 2 ∧
      (((stepRuns reliableWorld twoTenantTools plainClock false
          (paymentsBy "own" ["rent", "phone"]) [] noToolRuns).filter
          (OperationRun.acts reliableWorld twoTenantTools plainClock false
            (paymentsBy "own" ["rent", "phone"]))).map fun run => run.result.dump).Subperm
        ((listUnder nodeResult.data "result").getD []) := by
  refine ⟨_, _, rfl, rfl, (own_entries_iff reliableWorld twoTenantTools plainClock false _ []
    noToolRuns _ _ rfl).mpr ?_⟩
  decide +kernel

/-- Two payments under one id are both made, and the result has one entry. -/
theorem repeated_id_loses_entry :
    ∃ nodeResult after,
      execute (nodeBackend reliableWorld twoTenantTools plainClock false) plainClock
        (paymentsBy "own" ["rent", "rent"]) [] noToolRuns = .ok nodeResult after ∧
      after.requests.length = 2 ∧ ((listUnder nodeResult.data "result").getD []).length = 1 :=
  ⟨_, _, rfl, rfl, rfl⟩

end AgentOrchestration.Tools
