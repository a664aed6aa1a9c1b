import AgentOrchestration.GraphRuntime.Termination

/-!
# The loop limit

A loop edge is counted when its condition is evaluated, whether or not it is then followed.
-/

namespace AgentOrchestration

set_option autoImplicit false

/-! ## What a step that goes on has done -/

variable (w : NodeWorld) (plan : ExecutionPlan) (context : ExecutionContext)

def outputAt : Option Fields :=
  match NodeStepRunner.entry w plan context.currentNodeId with
  | .enters _ nodeType =>
    (w.execute (NodeStepRunner.nodeInput (NodeStepRunner.stamp context nodeType))).map
      NodeResult.data
  | _ => none

variable (nodeId : String)

def ExecutionPlan.edgesOf : List CompiledEdge := ownEdges nodeId (plan.edgesFrom nodeId)

def followedAt : Option CompiledEdge :=
  (outputAt w plan context).bind fun data =>
    (plan.edgesOf context.currentNodeId).find? fun edge =>
      w.isTrue edge.compiledCondition data = some true

/-- A node the loop can go on from: it has a known type that is not terminal. -/
def ExecutionPlan.GoesOn : Prop :=
  ∃ spec nodeType, plan.nodes.lookup nodeId = some spec ∧
    NodeType.resolve spec.type = some nodeType ∧ nodeType.name ∉ NodeType.terminalNodeTypes

def ExecutionPlan.counted (nodeId key : String) : ℕ := (countedKeys (plan.edgesOf nodeId)).count key

structure Advanced (w : NodeWorld) (plan : ExecutionPlan) (loopLimit : ℕ)
    (config next : RuntimeExecutor.Config) (edge : CompiledEdge) : Prop where
  goesOn : plan.GoesOn config.context.currentNodeId
  followed : followedAt w plan config.context = some edge
  sole : (plan.edgesOf config.context.currentNodeId).filter
    (fun other => other.compiledCondition = edge.compiledCondition) = [edge]
  toNode : next.context.currentNodeId = edge.toNode
  room : ∀ key, Tally.count config.context.iterationCounters key +
    plan.counted config.context.currentNodeId key ≤ loopLimit
  counts : ∀ key, Tally.count next.context.iterationCounters key =
    Tally.count config.context.iterationCounters key + plan.counted config.context.currentNodeId key

section

variable {w : NodeWorld} {plan : ExecutionPlan} {loopLimit : ℕ}

variable {config next : RuntimeExecutor.Config} {edge : CompiledEdge}

theorem Advanced.within (advanced : Advanced w plan loopLimit config next edge) :
    WithinLimit loopLimit next.context :=
  fun key => (advanced.counts key).trans_le (advanced.room key)

theorem Advanced.member (advanced : Advanced w plan loopLimit config next edge) :
    edge ∈ plan.edgesOf config.context.currentNodeId :=
  List.mem_of_mem_filter (advanced.sole.symm ▸ List.mem_singleton_self edge)

theorem entry_type {nodeId} {spec : NodeSpec} {nodeType}
    (enters : NodeStepRunner.entry w plan nodeId = .enters spec nodeType) :
    plan.nodes.lookup nodeId = some spec ∧ NodeType.resolve spec.type = some nodeType := by
  unfold NodeStepRunner.entry at enters
  split at enters
  · cases enters
  · rename_i found known
    split at enters
    · cases enters
    · rename_i got typed
      split at enters
      · cases enters
      · split at enters
        · cases enters
        · cases enters
          exact ⟨known, typed⟩

theorem filter_condition_of_matching {data : Fields} {edges : List CompiledEdge} (sole :
      edges.filter (fun other => w.isTrue other.compiledCondition data = some true) = [edge]) :
    edges.filter (fun other => other.compiledCondition = edge.compiledCondition) = [edge] := by
  have holds : w.isTrue edge.compiledCondition data = some true := by
    have mem := sole.symm ▸ List.mem_singleton_self edge
    exact of_decide_eq_true (List.mem_filter.mp mem).2
  have again : (edges.filter fun other => w.isTrue other.compiledCondition data = some true).filter
      (fun other => other.compiledCondition = edge.compiledCondition) =
        edges.filter fun other => other.compiledCondition = edge.compiledCondition := by
    rw [List.filter_filter]
    refine List.filter_congr fun other _ => ?_
    by_cases eq : other.compiledCondition = edge.compiledCondition
    · simp [eq, holds]
    · simp [eq]
  rw [← again, sole]
  simp

theorem advanced_of_running (within : WithinLimit loopLimit config.context)
    (stepped : RuntimeExecutor.step w plan loopLimit config = .running next) :
    ∃ edge, Advanced w plan loopLimit config next edge := by
  unfold RuntimeExecutor.step at stepped
  dsimp only at stepped
  split at stepped
  · cases stepped
  rename_i out gave
  split at stepped
  · cases stepped
  · cases stepped
  · cases stepped
  rename_i advances
  cases stepped
  obtain ⟨spec, nodeType, result, target, enters, executed, routed⟩ :=
    NodeStepRunner.runStep_advance gave advances
  have output : outputAt w plan config.context = some result.data := by
    rw [outputAt, enters]
    dsimp only
    rw [executed]
    rfl
  obtain ⟨known, typed⟩ := entry_type enters
  have counters := routed.counters_eq
  have matching := routed.matching
  rw [NodeStepRunner.stamp_currentNodeId] at counters matching
  cases evaluated_edges w loopLimit result.data config.context.currentNodeId
      (plan.edgesFrom config.context.currentNodeId) _ within with
  | raised fault _ raised =>
    rw [raised] at matching
    cases matching
  | matched smooth matched counts =>
    rw [matched] at matching
    obtain ⟨edge, sole, rfl⟩ := List.map_eq_singleton_iff.mp (Except.ok.inj matching)
    refine ⟨edge, ⟨spec, nodeType, known, typed, routed.notTerminal⟩, ?_, ?_, ?_, smooth.room, ?_⟩
    · rw [followedAt, output, Option.bind_some, ExecutionPlan.edgesOf, ← List.head?_filter, sole]
      rfl
    · exact filter_condition_of_matching sole
    · simp [routed.nextNodeId]
    · exact fun key => (congrArg (Tally.count · key) counters).trans (counts key)

end

/-! ## The edge at which the limit is reached -/

/-- The edge at which evaluating edges runs into the limit, and the edges evaluated before it. -/
def limitEdge (w : NodeWorld) (loopLimit : ℕ) (currentNodeId : String) (nodeOutput : Fields) :
    List CompiledEdge → List (String × ℕ) → Option (List CompiledEdge × CompiledEdge)
  | [], _ => none
  | edge :: rest, counters =>
    if edge.fromNode ≠ currentNodeId then
      limitEdge w loopLimit currentNodeId nodeOutput rest counters
    else
      match if edge.edgeKind = .loop then Tally.tick loopLimit counters edge.loopKey
        else some counters with
      | none => some ([], edge)
      | some counted =>
        if w.isTrue edge.compiledCondition nodeOutput = none then none
        else (limitEdge w loopLimit currentNodeId nodeOutput rest counted).map
          fun found => (edge :: found.1, found.2)

section

variable (w : NodeWorld) (loopLimit : ℕ) (currentNodeId : String) (nodeOutput : Fields)

theorem afterCondition_limit {verdict toNode counters} {rest : EdgeEvaluation} :
    (EdgeEvaluation.afterCondition verdict toNode counters rest).matching =
        .error .loopIterationLimitExceeded ↔
      verdict ≠ none ∧ rest.matching = .error .loopIterationLimitExceeded := by
  cases verdict with
  | none => simp [EdgeEvaluation.afterCondition]
  | some holds =>
    cases holds <;> cases found : rest.matching <;>
      simp [EdgeEvaluation.afterCondition, found, Except.map]

/-- The evaluation raises `loop_iteration_limit_exceeded` exactly when there is such an edge. -/
theorem limitEdge_isSome_iff : ∀ (edges : List CompiledEdge) (counters : List (String × ℕ)),
      (limitEdge w loopLimit currentNodeId nodeOutput edges counters).isSome ↔
        (evaluateEdges w loopLimit currentNodeId nodeOutput edges counters).matching =
          .error .loopIterationLimitExceeded := by
  intro edges
  induction edges with
  | nil => simp [limitEdge, evaluateEdges]
  | cons edge rest ih =>
    intro counters
    rw [limitEdge, evaluateEdges]
    by_cases foreign : edge.fromNode ≠ currentNodeId
    · rw [if_pos foreign, if_pos foreign]
      exact ih counters
    rw [if_neg foreign, if_neg foreign]
    by_cases loop : edge.edgeKind = .loop
    · rw [if_pos loop, if_pos loop]
      cases Tally.tick loopLimit counters edge.loopKey with
      | none => simp
      | some counted =>
        dsimp only
        rw [afterCondition_limit, ← ih counted]
        split <;> simp_all
    · rw [if_neg loop, if_neg loop, afterCondition_limit, ← ih counters]
      dsimp only
      split <;> simp_all

theorem count_limitEdge :
    ∀ (edges : List CompiledEdge) (counters : List (String × ℕ)) (before : List CompiledEdge)
      (edge : CompiledEdge), (∀ key, Tally.count counters key ≤ loopLimit) →
      limitEdge w loopLimit currentNodeId nodeOutput edges counters = some (before, edge) →
      edge.edgeKind = .loop ∧
        Tally.count counters edge.loopKey + (countedKeys before).count edge.loopKey =
          loopLimit := by
  intro edges
  induction edges with
  | nil => exact fun counters before edge _ found => nomatch found
  | cons first rest ih =>
    intro counters before edge within found
    rw [limitEdge] at found
    split at found
    · exact ih counters before edge within found
    split at found
    · rename_i spent
      obtain ⟨rfl, rfl⟩ := Prod.mk.inj (Option.some.inj found)
      split at spent
      · rename_i loop
        exact ⟨loop, le_antisymm (within _) (Tally.tick_eq_none_iff.mp spent)⟩
      · cases spent
    · rename_i counted room
      split at found
      · cases found
      obtain ⟨⟨between, reached⟩, deeper, eq⟩ := Option.map_eq_some_iff.mp found
      cases eq
      by_cases loop : first.edgeKind = .loop
      · rw [if_pos loop] at room
        obtain ⟨below, rfl⟩ := Tally.tick_eq_some_iff.mp room
        obtain ⟨isLoop, count⟩ := ih _ _ _ (bump_le within below) deeper
        exact ⟨isLoop, (count_cons_loop loop _).trans count⟩
      · rw [if_neg loop] at room
        cases room
        rw [countedKeys_normal loop]
        exact ih _ _ _ within deeper

end

/-! ## Evaluations and iterations -/

variable (w : NodeWorld) (plan : ExecutionPlan)

/-- The edge of the current node at which the step runs into the limit. -/
def limitAt (loopLimit : ℕ) (context : ExecutionContext) :
    Option (List CompiledEdge × CompiledEdge) :=
  (outputAt w plan context).bind fun data =>
    limitEdge w loopLimit context.currentNodeId data (plan.edgesFrom context.currentNodeId)
      context.iterationCounters

variable (worlds : ℕ → NodeWorld)

def history (plan : ExecutionPlan) (loopLimit steps : ℕ) (start : RuntimeExecutor.Config) :
    List (ℕ × RuntimeExecutor.Config) :=
  BoundedRun.trail (stepIn worlds plan loopLimit) steps (0, start)

/-- One if the step from a state has followed an edge, else zero. -/
def follows (plan : ExecutionPlan) (edge : CompiledEdge) (past : ℕ × RuntimeExecutor.Config) : ℕ :=
  if followedAt (worlds past.1) plan past.2.context = some edge then 1 else 0

theorem sum_le_sum_iff {α : Type} {f g : α → ℕ} : ∀ {l : List α}, (∀ a ∈ l, f a ≤ g a) →
      ((l.map g).sum ≤ (l.map f).sum ↔ ∀ a ∈ l, g a = f a) := by
  intro l
  induction l with
  | nil => simp
  | cons a rest ih =>
    intro below
    rw [List.forall_mem_cons] at below ⊢
    have later := ih below.2
    have sums : (rest.map f).sum ≤ (rest.map g).sum := List.sum_le_sum below.2
    rw [List.map_cons, List.map_cons, List.sum_cons, List.sum_cons, ← later]
    have first := below.1
    omega

/-- The evaluation of the edges of the step raises `loop_iteration_limit_exceeded`. -/
def RaisesLimit (loopLimit : ℕ) (context : ExecutionContext) : Prop :=
  ∃ data ∈ outputAt w plan context,
    (evaluateEdges w loopLimit context.currentNodeId data (plan.edgesFrom context.currentNodeId)
      context.iterationCounters).matching = .error .loopIterationLimitExceeded

/-- **When the loop limit counts iterations.** A run that reaches the limit at an edge fails there,
and it has followed this edge that often exactly when every earlier step counted the key of the edge
once if it followed the edge and else not at all, and no edge before it in the list has its key. -/
theorem limit_counts_iterations_iff (worlds : ℕ → NodeWorld) (plan : ExecutionPlan) (loopLimit : ℕ)
    (steps : ℕ) (start : RuntimeExecutor.Config) (fresh : start.context.iterationCounters = [])
    (state : ℕ × RuntimeExecutor.Config)
    (reached : BoundedRun.runFor (stepIn worlds plan loopLimit) steps (0, start) = .running state)
    (before : List CompiledEdge) (edge : CompiledEdge)
    (raises : limitAt (worlds state.1) plan loopLimit state.2.context = some (before, edge)) :
    RaisesLimit (worlds state.1) plan loopLimit state.2.context ∧
      (loopLimit ≤
        ((history worlds plan loopLimit steps start).map (follows worlds plan edge)).sum ↔
        edge.loopKey ∉ countedKeys before ∧ ∀ past ∈ history worlds plan loopLimit steps start,
          plan.counted past.2.context.currentNodeId edge.loopKey =
            follows worlds plan edge past) := by
  have step (past next : ℕ × RuntimeExecutor.Config) (within : WithinLimit loopLimit past.2.context)
      (stepped : stepIn worlds plan loopLimit past = .running next) :
      ∃ edge, Advanced (worlds past.1) plan loopLimit past.2 next.2 edge :=
    advanced_of_running within (running_of_stepIn stepped)
  obtain ⟨within, sum, running⟩ := BoundedRun.runFor_trail
    (I := fun past : ℕ × RuntimeExecutor.Config => WithinLimit loopLimit past.2.context)
    (fun past => Tally.count past.2.context.iterationCounters edge.loopKey)
    (fun past => plan.counted past.2.context.currentNodeId edge.loopKey)
    (fun past next within stepped => by
      obtain ⟨_, advanced⟩ := step past next within stepped
      exact ⟨advanced.within, advanced.counts _⟩)
    steps (0, start) state (fun key => by rw [fresh]; exact Nat.zero_le _) reached
  have zero : Tally.count start.context.iterationCounters edge.loopKey = 0 := by
    rw [fresh]
    rfl
  obtain ⟨data, output, found⟩ := Option.bind_eq_some_iff.mp raises
  refine ⟨⟨data, output, (limitEdge_isSome_iff _ _ _ _ _ _).mp (Option.isSome_of_mem found)⟩, ?_⟩
  obtain ⟨loop, count⟩ := count_limitEdge _ _ _ _ _ _ _ _ within found
  have below : ∀ past ∈ history worlds plan loopLimit steps start,
      follows worlds plan edge past ≤ plan.counted past.2.context.currentNodeId edge.loopKey := by
    intro past member
    obtain ⟨inside, next, stepped⟩ := running past member
    obtain ⟨other, advanced⟩ := step past next inside stepped
    unfold follows
    split
    · rename_i same
      obtain rfl := Option.some.inj (advanced.followed.symm.trans same)
      exact List.count_pos_iff.mpr (List.mem_map_of_mem
        (List.mem_filter.mpr ⟨advanced.member, decide_eq_true loop⟩))
    · exact Nat.zero_le _
  rw [← sum_le_sum_iff below]
  have absent : edge.loopKey ∉ countedKeys before ↔ (countedKeys before).count edge.loopKey = 0 :=
    List.count_eq_zero.symm
  have sums := List.sum_le_sum below
  rw [absent]
  unfold history at sums ⊢
  dsimp only at sum
  omega

/-- The state in which a run on `checkPlan` starts. -/
def checkStart (edges : List CompiledEdge) : RuntimeExecutor.Config :=
  { context := RuntimeExecutor.entryContext (fun _ => "") [] (checkPlan edges) none [] []
    store := ⟨[], none⟩ }

def repeatEdge : CompiledEdge := ⟨"check", "check", .loop, [.null], 0⟩

theorem repeated_check_counts :
    ∃ state, BoundedRun.runFor (stepIn (fun _ => checkWorld) (checkPlan [repeatEdge]) 1) 1
        (0, checkStart [repeatEdge]) = .running state ∧
      limitAt checkWorld (checkPlan [repeatEdge]) 1 state.2.context = some ([], repeatEdge) ∧
      1 ≤ ((history (fun _ => checkWorld) (checkPlan [repeatEdge]) 1 1
        (checkStart [repeatEdge])).map
          (follows (fun _ => checkWorld) (checkPlan [repeatEdge]) repeatEdge)).sum :=
  ⟨_, rfl, rfl, (limit_counts_iterations_iff (fun _ => checkWorld) (checkPlan [repeatEdge]) 1 1
    (checkStart [repeatEdge]) rfl _ rfl [] repeatEdge rfl).2.mpr
    ⟨List.not_mem_nil, fun _ member => by cases List.mem_singleton.mp member; rfl⟩⟩

/-- A loop edge that is never followed is counted beside one that is, and stops the run first. -/
theorem unfollowed_edge_reaches_limit :
    let never : CompiledEdge := ⟨"check", "answer", .loop, [], 0⟩
    let again : CompiledEdge := ⟨"check", "check", .loop, [.null], 1⟩
    let definition : Fields := [("limits", .dict [("max_loop_iterations", .int 1)])]
    (∃ state, BoundedRun.runFor (stepIn (fun _ => checkWorld) (checkPlan [never, again]) 1) 1
        (0, checkStart [never, again]) = .running state ∧
      limitAt checkWorld (checkPlan [never, again]) 1 state.2.context = some ([], never)) ∧
    ((history (fun _ => checkWorld) (checkPlan [never, again]) 1 1 (checkStart [never, again])).map
      (follows (fun _ => checkWorld) (checkPlan [never, again]) never)).sum = 0 ∧
    (RuntimeExecutor.run checkWorld (fun _ => "") definition (checkPlan [never, again]) none [] []
      ⟨[], none⟩).ending = some (.failed (some .edgeEvaluationError)) :=
  ⟨⟨_, rfl, rfl⟩, rfl, by decide +kernel⟩

end AgentOrchestration
