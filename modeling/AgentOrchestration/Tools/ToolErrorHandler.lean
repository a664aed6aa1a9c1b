import AgentOrchestration.Tools.ToolExecutor

/-!
# The `ToolErrorHandlerNode`

The node behind `ToolExecutor` that decides which operations are tried again. It
keeps three entries of the state: how often each operation has been retried, which
operations the next `ToolExecutor` step is to retry, and the results that are final.
-/

namespace AgentOrchestration.Tools

set_option autoImplicit false

open Execution (ServiceError)
open ToolRunResult (dump)

def listUnder (fields : Fields) (key : String) : Option (List Value) :=
  match fields.lookup key with
  | some (.list items) => some items
  | _ => none

def dictUnder (fields : Fields) (key : String) : Fields :=
  ((fields.lookup key).bind Value.asDict?).getD []

namespace ToolErrorHandler

/-! ## The node -/

/-- `int(raw)`, where a `TypeError` or a `ValueError` is caught; that a float is infinite is not. -/
def tolerantInt (raw : Value) : Except ServiceError (Option ℤ) :=
  match raw.toInt?, raw with
  | some value, _ => .ok (some value)
  | none, .float _ => .error (.unexpected "OverflowError")
  | none, _ => .ok none

/-- `max_retries` of the node's configuration. -/
def maxRetries (config : Fields) : Except ServiceError ℕ :=
  (tolerantInt ((config.lookup "max_retries").getD (.int 0))).map fun value => (value.getD 0).toNat

def normalizedRetryCounts : Fields → Except ServiceError (List (String × ℤ))
  | [] => .ok []
  | (key, value) :: rest => do
      let count ← tolerantInt value
      let counts ← normalizedRetryCounts rest
      return (count.toList.map fun count => (key, count)) ++ counts

/-- The results the node looks at: the first of four places that holds a list. -/
def resultsOf (toolOut nodeOutput : Fields) : List Value :=
  ((listUnder toolOut "result").or <| (listUnder nodeOutput "result").or <|
    (listUnder toolOut "results").or (listUnder nodeOutput "results")).getD []

/-- `status in {...}`: lists and dictionaries cannot be members of a set. -/
def isRetryEligible : Value → Except ServiceError Bool
  | .str status =>
    .ok (status ∈ [OperationStatus.error.name, OperationStatus.incomplete.name,
      OperationStatus.cancelled.name])
  | .list _ => .error (.unexpected "TypeError")
  | .dict _ => .error (.unexpected "TypeError")
  | _ => .ok false

structure Handled where
  retryCounts : List (String × ℤ)
  retryOperationIds : List String
  finalizedResults : List Value
  fallbackRequired : Bool

def Handled.attempts (handled : Handled) (operationId : String) : ℤ :=
  (handled.retryCounts.lookup operationId).getD 0

def handleResult (maxRetries : ℕ) (handled : Handled) (result : Value) :
    Except ServiceError Handled :=
  match result.asDict? with
  | none => .ok handled
  | some fields =>
    match stringField fields "operation_id" with
    | none => .ok handled
    | some operationId =>
      match isRetryEligible ((fields.lookup "status").getD .null) with
      | .error error => .error error
      | .ok false =>
        .ok
            { handled with finalizedResults := handled.finalizedResults ++ [result] }
      | .ok true =>
        if handled.attempts operationId < maxRetries then
          .ok
            { handled with
              retryOperationIds := handled.retryOperationIds ++ [operationId]
              retryCounts := OrderedDict.set handled.retryCounts operationId
                (handled.attempts operationId + 1) }
        else
          .ok
            { handled with
              fallbackRequired := true
              finalizedResults := handled.finalizedResults ++ [result] }

def handleResults (maxRetries : ℕ) (handled : Handled) (results : List Value) :
    Except ServiceError Handled :=
  results.foldlM (handleResult maxRetries) handled

def handledResult (state : Fields) (handled : Handled) : NodeResult :=
  let retryOperationIds : Value := .list (handled.retryOperationIds.map .str)
  let finalizedResults : Value := .list handled.finalizedResults
  { status := .success
    data :=
      [("retry_operation_ids", retryOperationIds),
        ("retry_operation_ids_count", .int handled.retryOperationIds.length),
        ("finalized_results", finalizedResults),
        ("finalized_results_count", .int handled.finalizedResults.length),
        ("fallback_required", .bool handled.fallbackRequired)]
    nextState := some <| OrderedDict.set (OrderedDict.set (OrderedDict.set state "retry_counts"
            (.dict (handled.retryCounts.map fun entry => (entry.1, .int entry.2))))
          "retry_operation_ids" retryOperationIds)
        "finalized_results" finalizedResults
    memory := none }

/-- `tool_out.get`, which only a dictionary has. -/
def toolOutput (state : Fields) : Except ServiceError Fields :=
  match nodeOutput state .toolExecutor with
  | .dict fields => .ok fields
  | _ => .error (.unexpected "AttributeError")

def execute (state nodeOutput config : Fields) : Except ServiceError NodeResult := do
  let toolOut ← toolOutput state
  let maxRetries ← maxRetries config
  let retryCounts ← normalizedRetryCounts (dictUnder state "retry_counts")
  let handled ← handleResults maxRetries
    { retryCounts, retryOperationIds := [], finalizedResults := [], fallbackRequired := false }
    (resultsOf toolOut nodeOutput)
  return handledResult state handled

/-! ## Retry counts in the state -/

@[simp] theorem tolerantInt_int (val : ℤ) : tolerantInt (.int val) = .ok (some val) := rfl

@[simp] theorem normalizedRetryCounts_int (counts : List (String × ℤ)) :
    normalizedRetryCounts (counts.map fun entry => (entry.1, .int entry.2)) = .ok counts := by
  induction counts with
  | nil => rfl
  | cons entry rest ih =>
    rw [List.map_cons, normalizedRetryCounts, ih]
    rfl

/-! ## The loop over the results of a step -/

def retryEligible (status : OperationStatus) : Bool :=
  status = .error ∨ status = .incomplete ∨ status = .cancelled

theorem isRetryEligible_name (status : OperationStatus) :
    isRetryEligible (.str status.name) = .ok (retryEligible status) := by
  cases status <;> rfl

theorem handleResult_dump (maxRetries : ℕ) (handled : Handled) (res : ToolRunResult) :
    handleResult maxRetries handled res.dump = .ok
      (if retryEligible res.status = true ∧ handled.attempts res.operationId < maxRetries then
        { handled with
          retryOperationIds := handled.retryOperationIds ++ [res.operationId]
          retryCounts := OrderedDict.set handled.retryCounts res.operationId
            (handled.attempts res.operationId + 1) }
      else
        { handled with
          fallbackRequired := handled.fallbackRequired || retryEligible res.status
          finalizedResults := handled.finalizedResults ++ [res.dump] }) := by
  have op : stringField (res.dump.asDict?.getD []) "operation_id" = some res.operationId := by
    simp [dump, Value.asDict?, stringField, Value.asStr?]
  have status : ((res.dump.asDict?.getD []).lookup "status").getD .null = .str res.status.name := by
    simp [dump, Value.asDict?, List.lookup_cons]
  have dict : res.dump.asDict? = some (res.dump.asDict?.getD []) := rfl
  rw [handleResult, dict]
  simp only [op, status, isRetryEligible_name]
  cases eligible : retryEligible res.status with
  | false => simp
  | true =>
    by_cases room : handled.attempts res.operationId < maxRetries <;> simp [room]

/-- The results that are tried again once their operations have been retried a number of times. -/
def retried (maxRetries rounds : ℕ) (result : ToolRunResult) : Bool :=
  retryEligible result.status && decide (rounds < maxRetries)

/-- What the loop makes of results that have all been retried equally often. -/
structure LoopOutcome (maxRetries rounds : ℕ) (results : List ToolRunResult)
    (handled after : Handled) : Prop where
  retryOperationIds : after.retryOperationIds = handled.retryOperationIds ++
    (results.filter (retried maxRetries rounds)).map ToolRunResult.operationId
  finalizedResults : after.finalizedResults = handled.finalizedResults ++
    (results.filter fun result => !retried maxRetries rounds result).map dump
  others : ∀ id ∉ results.map ToolRunResult.operationId, after.attempts id = handled.attempts id
  counted : ∀ result ∈ results, retried maxRetries rounds result = true →
    after.attempts result.operationId = rounds + 1

/-- The loop over results of distinct operations, when every operation that failed has been retried
equally often: all of these are tried again, or none is. -/
theorem handleResults_dump (maxRetries rounds : ℕ) :
    ∀ (results : List ToolRunResult) (handled : Handled),
      (results.map ToolRunResult.operationId).Nodup →
      (∀ res ∈ results, retryEligible res.status = true →
        handled.attempts res.operationId = rounds) →
      ∃ after, handleResults maxRetries handled (results.map dump) = .ok after ∧
        LoopOutcome maxRetries rounds results handled after := by
  intro results
  induction results with
  | nil => exact fun handled _ _ => ⟨handled, rfl, by simp, by simp, fun _ _ => rfl, nofun⟩
  | cons res rest ih =>
    intro handled uniq counted
    obtain ⟨fresh, distinctRest⟩ := List.nodup_cons.mp uniq
    have others : ∀ other ∈ rest, other.operationId ≠ res.operationId := by
      intro other mem eq
      exact fresh (eq ▸ List.mem_map_of_mem mem)
    rw [handleResults, List.map_cons, List.foldlM_cons, handleResult_dump]
    have cond : (retryEligible res.status = true ∧ handled.attempts res.operationId < maxRetries) ↔
          retried maxRetries rounds res = true := by
      unfold retried
      cases eligible : retryEligible res.status with
      | false => simp
      | true => simp [counted res List.mem_cons_self eligible]
    by_cases again : retried maxRetries rounds res = true
    · rw [if_pos (cond.mpr again)]
      have tries := counted res List.mem_cons_self (cond.mpr again).1
      obtain ⟨after, run, out⟩ := ih
        { handled with
          retryOperationIds := handled.retryOperationIds ++ [res.operationId]
          retryCounts := OrderedDict.set handled.retryCounts res.operationId
            (handled.attempts res.operationId + 1) } distinctRest
        (fun other mem eligible => by
          rw [← counted other (List.mem_cons_of_mem _ mem) eligible]
          simp [Handled.attempts, OrderedDict.lookup_set_of_ne _ _ (others other mem)])
      refine ⟨after, run, ?_, ?_, ?_, ?_⟩
      · rw [out.retryOperationIds, List.filter_cons_of_pos again]
        simp
      · rw [out.finalizedResults, List.filter_cons_of_neg (by simpa using again)]
      · intro id absent
        obtain ⟨ne, later⟩ := not_or.mp (List.mem_cons.not.mp absent)
        rw [out.others id later]
        simp [Handled.attempts, OrderedDict.lookup_set_of_ne _ _ ne]
      · intro other mem eligible
        rcases List.mem_cons.mp mem with rfl | later
        · rw [out.others _ fresh]
          simp [Handled.attempts, ← tries]
        · exact out.counted other later eligible
    · rw [if_neg (cond.not.mpr again)]
      obtain ⟨after, run, out⟩ := ih
        { handled with
          fallbackRequired := handled.fallbackRequired || retryEligible res.status
          finalizedResults := handled.finalizedResults ++ [res.dump] } distinctRest
        (fun other mem eligible => counted other (List.mem_cons_of_mem _ mem) eligible)
      refine ⟨after, run, ?_, ?_, ?_, ?_⟩
      · rw [out.retryOperationIds, List.filter_cons_of_neg again]
      · rw [out.finalizedResults, List.filter_cons_of_pos (by simpa using again)]
        simp
      · exact fun id absent => out.others id fun later => absent (List.mem_cons_of_mem _ later)
      · intro other mem eligible
        rcases List.mem_cons.mp mem with rfl | later
        · exact absurd eligible again
        · exact out.counted other later eligible

end ToolErrorHandler

end AgentOrchestration.Tools
