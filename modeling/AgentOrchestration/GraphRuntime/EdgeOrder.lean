import AgentOrchestration.GraphRuntime.RuntimeExecutor

/-!
# The order of a node's edges

`_evaluate_edges` counts loop edges as it goes and stops at the first edge that raises. What it
comes to does not depend on the order of the edges all the same: it raises if some condition raises
or some loop key is counted beyond the limit, and otherwise it returns the targets of the edges that
match.
-/

namespace AgentOrchestration

set_option autoImplicit false

open NodeStepRunner (route nodeInput stamp nextState)
open Tally (count)

section

def ownEdges (nodeId : String) (edges : List CompiledEdge) : List CompiledEdge :=
  edges.filter fun edge => edge.fromNode = nodeId

/-- The keys under which edges are counted, each as often as it is. -/
def countedKeys (own : List CompiledEdge) : List String :=
  (own.filter fun edge => edge.edgeKind = .loop).map CompiledEdge.loopKey

variable (w : NodeWorld) (loopLimit : ℕ) (nodeOutput : Fields)

def matchingTargets (own : List CompiledEdge) : List String :=
  (own.filter fun edge => w.isTrue edge.compiledCondition nodeOutput = some true).map
    CompiledEdge.toNode

structure Smooth (own : List CompiledEdge) (counters : List (String × ℕ)) : Prop where
  conditions : ∀ edge ∈ own, w.isTrue edge.compiledCondition nodeOutput ≠ none
  room : ∀ key, count counters key + (countedKeys own).count key ≤ loopLimit

inductive Evaluated (own : List CompiledEdge) (counters : List (String × ℕ))
    (evaluation : EdgeEvaluation) : Prop where
  | raised (fault : EdgeFault) (rough : ¬ Smooth w loopLimit nodeOutput own counters)
      (matching : evaluation.matching = .error fault)
  | matched (smooth : Smooth w loopLimit nodeOutput own counters)
      (matching : evaluation.matching = .ok (matchingTargets w nodeOutput own))
      (counts : ∀ key, count evaluation.counters key =
        count counters key + (countedKeys own).count key)

variable {w loopLimit nodeOutput} {edge : CompiledEdge} {own : List CompiledEdge}
  {before counted : List (String × ℕ)}

theorem smooth_cons (count : ∀ key, count before key + (countedKeys (edge :: own)).count key =
      count counted key + (countedKeys own).count key) :
    Smooth w loopLimit nodeOutput (edge :: own) before ↔
      w.isTrue edge.compiledCondition nodeOutput ≠ none ∧
        Smooth w loopLimit nodeOutput own counted := by
  constructor
  · rintro ⟨conditions, room⟩
    rw [List.forall_mem_cons] at conditions
    exact ⟨conditions.1, conditions.2, fun key => (count key).symm.trans_le (room key)⟩
  · rintro ⟨cond, conditions, room⟩
    exact ⟨List.forall_mem_cons.mpr ⟨cond, conditions⟩, fun key => (count key).trans_le (room key)⟩

theorem Evaluated.cons {evaluation}
    (count : ∀ key, count before key + (countedKeys (edge :: own)).count key =
      count counted key + (countedKeys own).count key)
    (evaluated : Evaluated w loopLimit nodeOutput own counted evaluation) :
    Evaluated w loopLimit nodeOutput (edge :: own) before
      (EdgeEvaluation.afterCondition (w.isTrue edge.compiledCondition nodeOutput)
        edge.toNode counted
        evaluation) := by
  cases verdict : w.isTrue edge.compiledCondition nodeOutput with
  | none => exact .raised _ (fun smooth => ((smooth_cons count).mp smooth).1 verdict) rfl
  | some holds =>
    cases evaluated with
    | raised fault rough matching =>
      refine .raised fault (fun smooth => rough ((smooth_cons count).mp smooth).2) ?_
      cases holds <;> simp [EdgeEvaluation.afterCondition, matching, Except.map]
    | matched smooth matching counts =>
      refine .matched ((smooth_cons count).mpr ⟨by simp [verdict], smooth⟩) ?_ fun key => ?_
      · cases holds <;>
          simp [EdgeEvaluation.afterCondition, matching, matchingTargets, verdict, Except.map]
      · rw [count key, ← counts key]
        cases holds <;> rfl

theorem countedKeys_loop (loop : edge.edgeKind = .loop) :
    countedKeys (edge :: own) = edge.loopKey :: countedKeys own := by
  simp [countedKeys, loop]

theorem countedKeys_normal (normal : edge.edgeKind ≠ .loop) :
    countedKeys (edge :: own) = countedKeys own := by
  simp [countedKeys, normal]

theorem count_cons_loop (loop : edge.edgeKind = .loop) (key : String) :
    count before key + (countedKeys (edge :: own)).count key =
      count (Tally.bump before edge.loopKey) key + (countedKeys own).count key := by
  rw [countedKeys_loop loop, Tally.count_bump]
  by_cases same : key = edge.loopKey
  · rw [if_pos same, same, List.count_cons_self]
    omega
  · rw [if_neg same, List.count_cons_of_ne (Ne.symm same), Nat.add_zero]

theorem bump_le {key : String} (within : ∀ other, count before other ≤ loopLimit)
    (room : count before key < loopLimit) (other : String) :
    count (Tally.bump before key) other ≤ loopLimit := by
  rw [Tally.count_bump]
  have here := within other
  split
  · subst other
    omega
  · exact here

variable (w loopLimit nodeOutput) in
/-- **What evaluating the edges of a node comes to**, whatever their order. -/
theorem evaluated_edges (nodeId : String) :
    ∀ (edges : List CompiledEdge) (before : List (String × ℕ)),
      (∀ key, count before key ≤ loopLimit) →
      Evaluated w loopLimit nodeOutput (ownEdges nodeId edges) before
        (evaluateEdges w loopLimit nodeId nodeOutput edges before) := by
  intro edges
  induction edges with
  | nil =>
    intro before within
    exact .matched ⟨List.forall_mem_nil _, within⟩ rfl fun _ => rfl
  | cons edge rest ih =>
    intro before within
    rw [evaluateEdges]
    by_cases foreign : edge.fromNode ≠ nodeId
    · have others : ownEdges nodeId (edge :: rest) = ownEdges nodeId rest := by
        simp [ownEdges, foreign]
      rw [if_pos foreign, others]
      exact ih before within
    have first : ownEdges nodeId (edge :: rest) = edge :: ownEdges nodeId rest := by
      simp [ownEdges, not_not.mp foreign]
    rw [if_neg foreign, first]
    by_cases loop : edge.edgeKind = .loop
    · have keys : countedKeys (edge :: ownEdges nodeId rest) =
          edge.loopKey :: countedKeys (ownEdges nodeId rest) := countedKeys_loop loop
      rw [if_pos loop]
      cases ticked : Tally.tick loopLimit before edge.loopKey with
      | none =>
        refine .raised _ (fun smooth => ?_) rfl
        have room := smooth.room edge.loopKey
        rw [keys, List.count_cons_self] at room
        have spent := Tally.tick_eq_none_iff.mp ticked
        omega
      | some counted =>
        obtain ⟨room, rfl⟩ := Tally.tick_eq_some_iff.mp ticked
        have evaluated := (ih _ (bump_le within room)).cons (count_cons_loop loop)
        cases evaluated with
        | raised fault rough matching => exact .raised fault rough matching
        | matched smooth matching counts => exact .matched smooth matching counts
    · rw [if_neg loop]
      exact (ih before within).cons fun key => by rw [countedKeys_normal loop]

/-! ## Permuted edges -/

variable {others : List CompiledEdge}

theorem countedKeys_perm (permuted : own.Perm others) (key : String) :
    (countedKeys own).count key = (countedKeys others).count key :=
  ((permuted.filter _).map _).count_eq key

variable {counters : List (String × ℕ)}

theorem smooth_perm (permuted : own.Perm others)
    (counts : ∀ key, count before key = count counters key)
    (smooth : Smooth w loopLimit nodeOutput own before) :
    Smooth w loopLimit nodeOutput others counters := by
  refine ⟨fun edge mem => smooth.conditions edge (permuted.mem_iff.mpr mem), fun key => ?_⟩
  rw [← counts, ← countedKeys_perm permuted]
  exact smooth.room key

theorem route_perm {targets others : List String} (permuted : targets.Perm others) :
    route (.ok targets) = route (.ok others) := by
  match targets, others, permuted.length_eq with
  | [], [], _ => rfl
  | [_], [_], _ => rw [List.singleton_perm_singleton.mp permuted]
  | _ :: _ :: _, _ :: _ :: _, _ => rfl

/-- Edges in another order, evaluated against the same counts, lead to the same node. -/
theorem Evaluated.route_eq {evaluation other : EdgeEvaluation} (permuted : own.Perm others)
    (counts : ∀ key, count before key = count counters key)
    (evaluated : Evaluated w loopLimit nodeOutput own before evaluation)
    (again : Evaluated w loopLimit nodeOutput others counters other) :
    route evaluation.matching = route other.matching ∧ ∀ next,
      route evaluation.matching = .ok next → ∀ key,
        count evaluation.counters key ≤ loopLimit ∧
          count evaluation.counters key = count other.counters key := by
  cases evaluated with
  | raised fault rough matching =>
    rw [matching]
    cases again with
    | raised fault' _ matching' =>
      rw [matching']
      exact ⟨rfl, fun _ impossible => nomatch impossible⟩
    | matched smooth _ _ =>
      exact absurd (smooth_perm permuted.symm (fun key => (counts key).symm) smooth) rough
  | matched smooth matching sums =>
    cases again with
    | raised _ rough _ => exact absurd (smooth_perm permuted counts smooth) rough
    | matched _ matching' sums' =>
      rw [matching, matching']
      refine ⟨route_perm ((permuted.filter _).map _), fun _ _ key => ?_⟩
      rw [sums, sums', ← counts, countedKeys_perm permuted]
      exact ⟨(countedKeys_perm permuted key) ▸ smooth.room key, rfl⟩

end

/-! ## Permuted plans -/

/-- Every node has its edges in another order. -/
def Permuted (adjacencyMap others : List (String × List CompiledEdge)) : Prop :=
  List.Forall₂ (fun entry other => entry.1 = other.1 ∧ entry.2.Perm other.2) adjacencyMap others

section

variable {plan : ExecutionPlan} {others : List (String × List CompiledEdge)}

theorem Permuted.edgesFrom (permuted : Permuted plan.adjacencyMap others) (nodeId : String) :
    (plan.edgesFrom nodeId).Perm ({ plan with adjacencyMap := others }.edgesFrom nodeId) := by
  simp only [ExecutionPlan.edgesFrom]
  generalize plan.adjacencyMap = adjacencyMap at permuted
  induction permuted with
  | nil => exact .rfl
  | @cons entry other _ _ eq _ ih =>
    obtain ⟨key, edges⟩ := entry
    obtain ⟨key', edges'⟩ := other
    obtain ⟨rfl, permuted⟩ := eq
    rw [List.lookup_cons, List.lookup_cons]
    cases nodeId == key with
    | true => exact permuted
    | false => exact ih

theorem Permuted.maxSteps_eq (permuted : Permuted plan.adjacencyMap others) (loopLimit : ℕ) :
    maxSteps { plan with adjacencyMap := others } loopLimit = maxSteps plan loopLimit := by
  have lengths : others.map (fun entry => entry.2.length) =
      plan.adjacencyMap.map fun entry => entry.2.length := by
    generalize plan.adjacencyMap = adjacencyMap at permuted
    induction permuted with
    | nil => rfl
    | cons eq _ ih => rw [List.map_cons, List.map_cons, ih, eq.2.length_eq]
  simp only [maxSteps, lengths, List.Forall₂.length_eq permuted]

/-- Two states of the loop that differ in how the counters are listed, none beyond the limit. -/
inductive SameCounts (loopLimit : ℕ) : (left right : RuntimeExecutor.Config) → Prop where
  | listed (context : ExecutionContext) (counters : List (String × ℕ)) (store : RunStore)
      (within : ∀ key, count context.iterationCounters key ≤ loopLimit)
      (counts : ∀ key, count context.iterationCounters key = count counters key) :
      SameCounts loopLimit ⟨context, store⟩ ⟨{ context with iterationCounters := counters }, store⟩

variable {loopLimit : ℕ} {left right : RuntimeExecutor.Config}

theorem SameCounts.store_eq (eq : SameCounts loopLimit left right) : left.store = right.store := by
  cases eq
  rfl

/-- **Steps on permuted plans agree.** -/
theorem step_permuted (permuted : Permuted plan.adjacencyMap others) (w : NodeWorld)
    (eq : SameCounts loopLimit left right) :
    BoundedRun.Outcome.Related (SameCounts loopLimit) Eq
      (RuntimeExecutor.step w plan loopLimit left)
      (RuntimeExecutor.step w { plan with adjacencyMap := others } loopLimit right) := by
  obtain ⟨ctx, counters, store, within, counts⟩ := eq
  unfold RuntimeExecutor.step NodeStepRunner.runStep
  dsimp only
  have entered : NodeStepRunner.entry w { plan with adjacencyMap := others } ctx.currentNodeId =
      NodeStepRunner.entry w plan ctx.currentNodeId := rfl
  rw [entered]
  cases NodeStepRunner.entry w plan ctx.currentNodeId with
  | refused nodeType got reason | raises => exact .stopped rfl
  | enters spec nodeType =>
    unfold NodeStepRunner.enterNode
    have input : nodeInput (stamp { ctx with iterationCounters := counters } nodeType) =
          nodeInput (stamp ctx nodeType) := rfl
    dsimp only
    rw [input]
    cases w.execute (nodeInput (stamp ctx nodeType)) with
    | none => exact .stopped rfl
    | some res =>
      unfold NodeStepRunner.settle
      have states : nextState
          { stamp { ctx with iterationCounters := counters } nodeType with
            nodeOutput := res.data } res =
          nextState { stamp ctx nodeType with nodeOutput := res.data } res := rfl
      dsimp only at states ⊢
      rw [states]
      cases nextState _ res with
      | none => exact .stopped rfl
      | some st =>
        dsimp only
        by_cases waits : res.status = .needsInput
        · simp only [if_pos waits]
          exact .stopped rfl
        by_cases terminal : nodeType.name ∈ NodeType.terminalNodeTypes
        · simp only [if_neg waits, if_pos terminal]
          exact .stopped rfl
        simp only [if_neg waits, if_neg terminal, NodeStepRunner.stamp_currentNodeId]
        obtain ⟨routes, counted⟩ :=
          (evaluated_edges w loopLimit res.data ctx.currentNodeId _ _ within).route_eq
            ((permuted.edgesFrom ctx.currentNodeId).filter _) counts
            (evaluated_edges w loopLimit res.data ctx.currentNodeId _ counters
              fun key => counts key ▸ within key)
        unfold NodeStepRunner.routeOutcome
        rw [← routes]
        cases routed : route _ with
        | error reason => exact .stopped rfl
        | ok next =>
          exact .running (.listed _ _ _ (fun key => (counted next routed key).1)
            fun key => (counted next routed key).2)

end

/-- **Edge order is irrelevant.** In any world, a run on a plan whose edges are permuted creates the
same node runs, writes the same checkpoint and ends in the same way. -/
theorem edge_order_irrelevant (plan : ExecutionPlan) (others : List (String × List CompiledEdge))
    (permuted : Permuted plan.adjacencyMap others) (worlds : ℕ → NodeWorld) (pyStr : Value → String)
    (definition : Fields) (startNodeId : Option String) (initialState : Fields)
    (initialMemory : List Value) (store : RunStore) :
    runIn worlds pyStr definition plan startNodeId initialState initialMemory store =
      runIn worlds pyStr definition { plan with adjacencyMap := others } startNodeId initialState
        initialMemory store := by
  unfold runIn
  dsimp only
  rw [permuted.maxSteps_eq]
  refine ended_eq_of_related
    (R := fun left right => left.1 = right.1 ∧ SameCounts (loopLimitOf definition) left.2 right.2)
    ?_ (BoundedRun.runFor_lockstep ?_
      _ _ _ ⟨rfl, .listed _ [] _ (fun _ => Nat.zero_le _) fun _ => rfl⟩)
  · exact fun _ _ same => same.2.store_eq
  · rintro ⟨count, left⟩ ⟨_, right⟩ ⟨rfl, same⟩
    have stepped := step_permuted permuted (worlds count) same
    unfold stepIn
    dsimp only at stepped ⊢
    generalize RuntimeExecutor.step _ _ _ left = first, RuntimeExecutor.step _ _ _ right =
      second at stepped ⊢
    cases stepped with
    | running next => exact .running ⟨rfl, next⟩
    | stopped ends => exact .stopped ends

def checkPlan (edges : List CompiledEdge) : ExecutionPlan :=
  { startNodeId := "check", orderedNodes := ["check", "answer"], adjacencyMap := [("check", edges)]
    terminalNodes := ["answer"]
    nodes := [("check", ⟨some "ToolErrorHandlerNode", none⟩),
      ("answer", ⟨some "ResponseBuilder", none⟩)] }

def checkWorld : NodeWorld :=
  { constructs := fun _ => true, isUuid := fun _ => true
    execute := fun _ => some { status := .success, data := [], nextState := none, memory := none }
    isTrue := fun condition _ => some (condition.length = 1) }

theorem check_edges_reversed : runIn (fun _ => checkWorld) (fun _ => "") []
        (checkPlan [⟨"check", "check", .loop, [], 0⟩, ⟨"check", "answer", .normal, [.null], 1⟩])
        none [] [] ⟨[], none⟩ =
      runIn (fun _ => checkWorld) (fun _ => "") []
        (checkPlan [⟨"check", "answer", .normal, [.null], 1⟩, ⟨"check", "check", .loop, [], 0⟩])
        none [] [] ⟨[], none⟩ :=
  edge_order_irrelevant
    (checkPlan [⟨"check", "check", .loop, [], 0⟩, ⟨"check", "answer", .normal, [.null], 1⟩])
    [("check", [⟨"check", "answer", .normal, [.null], 1⟩, ⟨"check", "check", .loop, [], 0⟩])]
    (.cons ⟨rfl, .swap _ _ _⟩ .nil) _ _ _ _ _ _ _

end AgentOrchestration
