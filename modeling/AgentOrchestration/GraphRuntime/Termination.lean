import AgentOrchestration.GraphRuntime.GraphCompiler
import AgentOrchestration.GraphRuntime.EdgeOrder

/-!
# Every accepted graph is traversed in a bounded number of steps

The loop edges of a plan are counted along a traversal, and a counter that would
pass the loop limit ends the run. Between two loop edges the rank of the current
node falls. So the loop budget that is left, times the number of nodes, plus the
rank of the current node is a measure that every step lowers.
-/

namespace AgentOrchestration

set_option autoImplicit false

open GraphCompiler (Descends IsCycle compile)
open RuntimeExecutor (entryContext)
open Tally (count)

/-! ## Counters -/

/-- What evaluating edges that lead to `targets` does to the counters. -/
structure EdgesCounted (loopLimit : ℕ) (edges : List CompiledEdge)
    (before after : List (String × ℕ)) (targets : List String) : Prop where
  grows : ∀ key, count before key ≤ count after key
  bounded : (∀ key, count before key ≤ loopLimit) → ∀ key, count after key ≤ loopLimit
  followed : ∀ target ∈ targets, ∃ edge ∈ edges, edge.toNode = target ∧
    (edge.edgeKind = .loop → count before edge.loopKey < count after edge.loopKey)

variable (w : NodeWorld)

/-- **Evaluating the edges of a node counts its loop edges, and stays within the limit.** -/
theorem counted_evaluateEdges (loopLimit currentNodeId nodeOutput edges before)
    (within : ∀ key, count before key ≤ loopLimit) (targets) (decided :
      (evaluateEdges w loopLimit currentNodeId nodeOutput edges before).matching = .ok targets) :
    EdgesCounted loopLimit edges before
      (evaluateEdges w loopLimit currentNodeId nodeOutput edges before).counters targets := by
  cases evaluated_edges w loopLimit nodeOutput currentNodeId edges before within with
  | raised fault _ matching =>
    rw [matching] at decided
    cases decided
  | matched smooth matching counts =>
    rw [matching] at decided
    cases decided
    refine ⟨fun key => ?_, fun _ key => ?_, fun target mem => ?_⟩
    · rw [counts]
      exact Nat.le_add_right _ _
    · rw [counts]
      exact smooth.room key
    · obtain ⟨edge, matches', rfl⟩ := List.mem_map.mp mem
      have own := List.mem_of_mem_filter matches'
      refine ⟨edge, List.mem_of_mem_filter own, rfl, fun loop => ?_⟩
      have counted : edge.loopKey ∈ countedKeys (ownEdges currentNodeId edges) :=
        List.mem_map_of_mem (List.mem_filter.mpr ⟨own, decide_eq_true loop⟩)
      rw [counts]
      exact Nat.lt_add_of_pos_right (List.count_pos_iff.mpr counted)

/-! ## The loop budget -/

def ExecutionPlan.loopKeys (plan : ExecutionPlan) : Finset String :=
  (((plan.adjacencyMap.flatMap Prod.snd).filter fun edge => edge.edgeKind = .loop).map
    CompiledEdge.loopKey).toFinset

variable {plan : ExecutionPlan}

theorem mem_loopKeys {nodeId : String} {edge : CompiledEdge} (mem : edge ∈ plan.edgesFrom nodeId)
    (loop : edge.edgeKind = .loop) :
    edge.loopKey ∈ plan.loopKeys := by
  unfold ExecutionPlan.edgesFrom at mem
  cases found : plan.adjacencyMap.lookup nodeId with
  | none =>
    rw [found] at mem
    cases mem
  | some edges =>
    rw [found, Option.getD_some] at mem
    obtain ⟨before, after, split, -⟩ := List.lookup_eq_some_iff.mp found
    have isIn : edge ∈ plan.adjacencyMap.flatMap Prod.snd := by
      rw [split]
      simp [mem]
    unfold ExecutionPlan.loopKeys
    rw [List.mem_toFinset]
    exact List.mem_map_of_mem (List.mem_filter.mpr ⟨isIn, by simpa using loop⟩)

/-- How often loop edges have been counted. -/
def used (keys : Finset String) (counters : List (String × ℕ)) : ℕ :=
  ∑ key ∈ keys, count counters key

variable {keys : Finset String} {loopLimit : ℕ}

theorem used_le {counters} (below : ∀ key, count counters key ≤ loopLimit) :
    used keys counters ≤ loopLimit * keys.card := by
  have bound := Finset.sum_le_card_nsmul keys (count counters) loopLimit fun key _ => below key
  rwa [smul_eq_mul, Nat.mul_comm] at bound

variable {before after : List (String × ℕ)}

theorem used_mono (grows : ∀ key, count before key ≤ count after key) :
    used keys before ≤ used keys after :=
  Finset.sum_le_sum fun key _ => grows key

theorem used_lt {key : String} (grows : ∀ key, count before key ≤ count after key)
    (member : key ∈ keys) (more : count before key < count after key) :
    used keys before < used keys after :=
  Finset.sum_lt_sum (fun other _ => grows other) ⟨key, member, more⟩

/-! ## The measure -/

/-- The loop budget that is left, times the number of nodes, plus the rank of the current node. -/
def remaining (plan : ExecutionPlan) (rank : String → ℕ) (loopLimit : ℕ)
    (context : ExecutionContext) : ℕ :=
  (loopLimit * plan.loopKeys.card - used plan.loopKeys context.iterationCounters) *
    plan.nodes.length + rank context.currentNodeId

def WithinLimit (loopLimit : ℕ) (context : ExecutionContext) : Prop :=
  ∀ key, count context.iterationCounters key ≤ loopLimit

variable {config next : RuntimeExecutor.Config}

theorem edge_of_running {w : NodeWorld} (within : WithinLimit loopLimit config.context)
    (stepped : RuntimeExecutor.step w plan loopLimit config = .running next) :
    config.context.currentNodeId ∈ plan.nodes.map Prod.fst ∧
      EdgesCounted loopLimit (plan.edgesFrom config.context.currentNodeId)
        config.context.iterationCounters next.context.iterationCounters
        [next.context.currentNodeId] := by
  unfold RuntimeExecutor.step at stepped
  dsimp only at stepped
  split at stepped
  · cases stepped
  · rename_i out gave
    split at stepped
    · cases stepped
    · cases stepped
    · cases stepped
    · rename_i advances
      cases stepped
      obtain ⟨spec, nodeType, result, target, enters, -, routed⟩ :=
        NodeStepRunner.runStep_advance gave advances
      refine ⟨OrderedDict.mem_keys_of_lookup (NodeStepRunner.type_of_entry enters).1, ?_⟩
      have counted := counted_evaluateEdges w loopLimit _ result.data _ _ within _ routed.matching
      rw [← routed.counters_eq] at counted
      simpa [routed.nextNodeId] using counted

/-- A machine that walks a plan: where it goes on it has followed an edge and counted the loop
edges, and at a node of the plan it does not stop for want of a node or of steps. -/
structure Walks {σ : Type} (plan : ExecutionPlan) (loopLimit : ℕ)
    (step : σ → BoundedRun.Outcome σ Traversal) (position : σ → ExecutionContext) : Prop where
  goes : ∀ state next, WithinLimit loopLimit (position state) → step state = .running next →
    (position state).currentNodeId ∈ plan.nodes.map Prod.fst ∧
      EdgesCounted loopLimit (plan.edgesFrom (position state).currentNodeId)
        (position state).iterationCounters (position next).iterationCounters
        [(position next).currentNodeId]
  stops : ∀ state traversal, (position state).currentNodeId ∈ plan.nodes.map Prod.fst →
    step state = .stopped traversal →
      ∀ ending ∈ traversal.ending, ¬ NodeStepRunner.Astray ending.failureReason

theorem walks_step (w : NodeWorld) (plan : ExecutionPlan) (loopLimit : ℕ) :
    Walks plan loopLimit (RuntimeExecutor.step w plan loopLimit)
      RuntimeExecutor.Config.context where
  goes _ _ within stepped := edge_of_running within stepped
  stops cfg traversal known stepped := by
    unfold RuntimeExecutor.step at stepped
    grind [NodeStepRunner.Astray, RunEnd.failed, NodeStepRunner.not_astray_of_runStep]

section

variable {σ : Type} {step : σ → BoundedRun.Outcome σ Traversal} {position : σ → ExecutionContext}

/-- A machine that walks the plan in every world walks it in worlds that change. -/
theorem Walks.indexed {steps : ℕ → σ → BoundedRun.Outcome σ Traversal}
    (walks : ∀ count, Walks plan loopLimit (steps count) position)
    {stepIn : ℕ × σ → BoundedRun.Outcome (ℕ × σ) Traversal}
    (steps_eq : ∀ state, stepIn state = match steps state.1 state.2 with
      | .running next => .running (state.1 + 1, next)
      | .stopped traversal => .stopped traversal) :
    Walks plan loopLimit stepIn fun state => position state.2 where
  goes state next within stepped := by
    rw [steps_eq] at stepped
    cases went : steps state.1 state.2 with
    | running after =>
      rw [went] at stepped
      cases stepped
      exact (walks state.1).goes state.2 after within went
    | stopped traversal =>
      rw [went] at stepped
      cases stepped
  stops state traversal known stepped := by
    rw [steps_eq] at stepped
    cases went : steps state.1 state.2 with
    | running after =>
      rw [went] at stepped
      cases stepped
    | stopped final =>
      rw [went] at stepped
      cases stepped
      exact (walks state.1).stops state.2 traversal known went

/-- The in-process engine walks its plan. -/
theorem walks_stepIn (worlds : ℕ → NodeWorld) (plan : ExecutionPlan) (loopLimit : ℕ) :
    Walks plan loopLimit (stepIn worlds plan loopLimit) fun state => state.2.context :=
  Walks.indexed (fun count => walks_step (worlds count) plan loopLimit) fun state => by
    unfold stepIn
    cases RuntimeExecutor.step (worlds state.1) plan loopLimit state.2 <;> rfl

/-- **A step that goes on lowers the measure.** -/
theorem Walks.lowers {rank state next} (walks : Walks plan loopLimit step position)
    (descends : Descends plan rank) (within : WithinLimit loopLimit (position state))
    (stepped : step state = .running next) :
    WithinLimit loopLimit (position next) ∧
      remaining plan rank loopLimit (position next) <
        remaining plan rank loopLimit (position state) := by
  obtain ⟨mem, counted⟩ := walks.goes state next within stepped
  have withinNext := counted.bounded within
  refine ⟨withinNext, ?_⟩
  obtain ⟨edge, inside, reaches, looped⟩ := counted.followed _ List.mem_cons_self
  have budget : used plan.loopKeys (position next).iterationCounters ≤
      loopLimit * plan.loopKeys.card := used_le withinNext
  unfold remaining
  cases kind : edge.edgeKind with
  | normal =>
    have lower := descends.lowers _ mem edge inside kind
    rw [reaches] at lower
    have spent : (loopLimit * plan.loopKeys.card -
          used plan.loopKeys (position next).iterationCounters) * plan.nodes.length ≤
        (loopLimit * plan.loopKeys.card -
          used plan.loopKeys (position state).iterationCounters) * plan.nodes.length :=
      Nat.mul_le_mul_right _ (Nat.sub_le_sub_left (used_mono counted.grows) _)
    omega
  | loop =>
    have more : used plan.loopKeys (position state).iterationCounters <
        used plan.loopKeys (position next).iterationCounters :=
      used_lt counted.grows (mem_loopKeys inside kind) (looped kind)
    have bounded := descends.bounded (position next).currentNodeId
    -- one unit of the budget pays for any rank
    calc
      _ < (loopLimit * plan.loopKeys.card -
            used plan.loopKeys (position next).iterationCounters) * plan.nodes.length +
            plan.nodes.length := Nat.add_lt_add_left bounded _
      _ = (loopLimit * plan.loopKeys.card -
            used plan.loopKeys (position next).iterationCounters + 1) * plan.nodes.length := by ring
      _ ≤ (loopLimit * plan.loopKeys.card -
            used plan.loopKeys (position state).iterationCounters) * plan.nodes.length :=
          Nat.mul_le_mul_right _ (by omega)
      _ ≤ _ := Nat.le_add_right _ _

end

/-! ## The bound -/

def executions (store : RunStore) : ℕ := store.inputs.length

theorem executions_step (plan loopLimit) (cfg : RuntimeExecutor.Config) :
    (∀ next, RuntimeExecutor.step w plan loopLimit cfg = .running next →
      executions next.store ≤ executions cfg.store + 1) ∧
    ∀ traversal, RuntimeExecutor.step w plan loopLimit cfg = .stopped traversal →
      executions traversal.store ≤ executions cfg.store + 1 := by
  have added : executions (NodeStepRunner.runStep w plan loopLimit cfg.context
      cfg.context.iterationCounters cfg.store).store ≤ executions cfg.store + 1 := by
    unfold executions
    rw [NodeStepRunner.inputs_runStep, List.length_append]
    unfold NodeStepRunner.entryInput
    split <;> simp
  unfold RuntimeExecutor.step
  dsimp only
  constructor
  · intro next stepped
    split at stepped
    · cases stepped
    · split at stepped <;> cases stepped
      exact added
  · intro traversal stepped
    split at stepped
    · cases stepped
      exact added
    · split at stepped <;> cases stepped <;> exact added

/-- **Every accepted graph is traversed in a bounded number of steps.** Its directed cycles contain
a loop edge, and from any start node, in any world, the loop of `RuntimeExecutor.run` ends after at
most `(loopLimit * k + 1) * n` node steps, where `k` is the number of keys of loop edges and `n`
the number of nodes. -/
theorem compiled_traversal_bounded (snapshot : GraphSnapshot) (plan : ExecutionPlan)
    (accepted : compile snapshot = .ok plan) :
    (∀ cycle, IsCycle plan cycle → ∃ edge ∈ cycle, edge.edgeKind = .loop) ∧
      ∀ (worlds : ℕ → NodeWorld) (loopLimit : ℕ) (pyStr : Value → String) (definition : Fields)
        (startNodeId : Option String) (initialState : Fields) (initialMemory : List Value)
        (store : RunStore), ∃ traversal,
        BoundedRun.runFor (stepIn worlds plan loopLimit)
          ((loopLimit * plan.loopKeys.card + 1) * plan.nodes.length)
          (0, { context := entryContext pyStr definition plan startNodeId initialState initialMemory
                store }) = .stopped traversal ∧
        executions traversal.store ≤
          executions store + (loopLimit * plan.loopKeys.card + 1) * plan.nodes.length := by
  obtain ⟨rank, descends⟩ := GraphCompiler.descends_of_compile accepted
  refine ⟨fun cycle isCycle => descends.loop_of_isCycle isCycle, ?_⟩
  intro worlds loopLimit pyStr definition startNodeId initialState initialMemory store
  have stops := BoundedRun.runFor_stops (f := stepIn worlds plan loopLimit)
    (I := fun state => WithinLimit loopLimit state.2.context)
    (fun state => remaining plan rank loopLimit state.2.context)
    (fun _ _ within stepped => (walks_stepIn worlds plan loopLimit).lowers descends within stepped)
    ((loopLimit * plan.loopKeys.card + 1) * plan.nodes.length)
    (0, { context := entryContext pyStr definition plan startNodeId initialState initialMemory
          store })
    (fun key => Nat.zero_le _)
    (by
      have bounded := descends.bounded (startNode plan startNodeId)
      simp only [remaining, entryContext, used, Tally.count_nil,
        Finset.sum_const_zero, Nat.sub_zero, Nat.add_mul, Nat.one_mul]
      omega)
  obtain ⟨traversal, stopped⟩ := stops
  refine ⟨traversal, stopped, ?_⟩
  refine BoundedRun.runFor_size (f := stepIn worlds plan loopLimit)
    (fun state => executions state.2.store) (fun traversal => executions traversal.store) ?_ ?_
    _ _ _ stopped
  · intro state next stepped
    exact (executions_step _ plan loopLimit state.2).1 next.2 (running_of_stepIn stepped)
  · intro state ending stepped
    unfold stepIn at stepped
    split at stepped
    · cases stepped
    · rename_i ended
      cases stepped
      exact (executions_step _ plan loopLimit state.2).2 ending ended

def retryLoop : GraphSnapshot :=
  { startNode := some "run"
    nodes :=
      [("run", ⟨some "ToolExecutor", none⟩), ("check", ⟨some "ToolErrorHandlerNode", none⟩),
        ("answer", ⟨some "ResponseBuilder", none⟩)]
    edges :=
      [⟨"run", "check", none, none, some (.list [.bool true])⟩,
        ⟨"check", "run", some "LOOP", none, some (.list [.str "retry"])⟩,
        ⟨"check", "answer", some "NORMAL", none, some (.list [.str "done"])⟩] }

theorem retryLoop_bounded : ∃ plan, compile retryLoop = .ok plan ∧ plan.loopKeys = {"check->run"} ∧
      (∀ cycle, IsCycle plan cycle → ∃ edge ∈ cycle, edge.edgeKind = .loop) ∧
      ∀ (worlds : ℕ → NodeWorld) (store : RunStore), ∃ traversal,
        BoundedRun.runFor (stepIn worlds plan 10) 33
          (0, { context := entryContext (fun _ => "") [] plan none [] []
                store }) = .stopped traversal ∧
        executions traversal.store ≤ executions store + 33 :=
  ⟨_, rfl, rfl, (compiled_traversal_bounded retryLoop _ rfl).1, fun worlds store =>
    (compiled_traversal_bounded retryLoop _ rfl).2 worlds 10 (fun _ => "") [] none [] [] store⟩

/-- The run has missed no node and, without loop edges, has not run out of steps. -/
def ExecutionPlan.OnTrack (plan : ExecutionPlan) (traversal : Traversal) : Prop :=
  ∀ ending ∈ traversal.ending, ending.failureReason ≠ some .nodeNotFound ∧
    (plan.loopKeys = ∅ → ending.failureReason ≠ some .maxStepsExceeded)

/-- **A machine that walks an accepted plan keeps on track.** -/
theorem Walks.onTrack {σ : Type} {step : σ → BoundedRun.Outcome σ Traversal} {position}
    (walks : Walks plan loopLimit step position) (start : σ) {snap}
      (accepted : compile snap = .ok plan)
    (fresh : (position start).iterationCounters = [])
    (known : (position start).currentNodeId ∈ plan.nodes.map Prod.fst) (store : σ → RunStore) :
    plan.OnTrack (ended store (BoundedRun.runFor step (maxSteps plan loopLimit) start)) := by
  obtain ⟨rank, descends⟩ := GraphCompiler.descends_of_compile accepted
  have within : WithinLimit loopLimit (position start) := fun key => by
    rw [fresh]
    exact Nat.zero_le _
  intro ending ends
  cases res : BoundedRun.runFor step (maxSteps plan loopLimit) start with
  | running last =>
    rw [res] at ends
    cases ends
    refine ⟨by simp [RunEnd.failed], fun unlooped => ?_⟩
    have listed : plan.orderedNodes.length = plan.nodes.length := by
      obtain ⟨edges, start, -, rfl⟩ := GraphCompiler.compile_ok_iff.mp accepted
      exact List.length_map _
    have few : remaining plan rank loopLimit (position start) < maxSteps plan loopLimit := by
      have bounded := descends.bounded (position start).currentNodeId
      simp only [remaining, unlooped, maxSteps, Finset.card_empty, Nat.mul_zero,
        Nat.zero_sub, Nat.zero_mul, listed]
      omega
    obtain ⟨_, stopped⟩ := BoundedRun.runFor_stops _
      (fun _ _ within stepped => walks.lowers descends within stepped) _ start within few
    cases res.symm.trans stopped
  | stopped traversal =>
    rw [res] at ends
    -- every node that is reached is one of the plan, since its edges lead to nodes
    have kept := (BoundedRun.runFor_invariant (I := fun state =>
        WithinLimit loopLimit (position state) ∧
          (position state).currentNodeId ∈ plan.nodes.map Prod.fst)
      (Q := fun traversal =>
        ∀ ending ∈ traversal.ending, ¬ NodeStepRunner.Astray ending.failureReason)
      ?_ ?_ _ _ ⟨within, known⟩).2 traversal res ending ends
    · exact ⟨fun eq => kept (.inl eq), fun _ eq => kept (.inr eq)⟩
    · rintro state next ⟨within, known⟩ stepped
      obtain ⟨-, counted⟩ := walks.goes state next within stepped
      obtain ⟨edge, inside, reaches, -⟩ := counted.followed _ List.mem_cons_self
      exact ⟨counted.bounded within, reaches ▸ descends.closed _ known edge inside⟩
    · exact fun state traversal inside => walks.stops state traversal inside.2

theorem onTrack_runIn {snap startNodeId} (accepted : compile snap = .ok plan)
    (known : startNode plan startNodeId ∈ plan.nodes.map Prod.fst)
    (worlds pyStr definition state memory store) :
    plan.OnTrack (runIn worlds pyStr definition plan startNodeId state memory store) :=
  (walks_stepIn worlds plan (loopLimitOf definition)).onTrack _ accepted rfl known _

def onceThrough : GraphSnapshot := { retryLoop with edges := retryLoop.edges.eraseIdx 1 }

end AgentOrchestration
