import AgentOrchestration.Flows.DraftExecution

/-!
# What the graph checks guarantee

`FlowGraphValidator` looks for a terminal node from the start node only, and
`FlowGraphDraftValidator` looks the kind of an edge up under its two nodes.
-/

namespace AgentOrchestration

set_option autoImplicit false

open Relation (ReflTransGen)

/-- A draft whose tool is looked for again until it is found. -/
def retried : FlowGraphDefinition :=
  { startNode := "classify"
    nodes := [("classify", ⟨"IntentClassifier", none⟩), ("resolve", ⟨"ToolResolver", none⟩),
      ("respond", ⟨"ResponseBuilder", none⟩)]
    edges := [⟨"classify", "resolve", "step == 1", .normal, by decide⟩,
      ⟨"resolve", "classify", "step == 2", .loop, by decide⟩,
      ⟨"resolve", "respond", "step == 3", .normal, by decide⟩]
    distinct := by decide }

/-! ## Dead ends -/

/-- A terminal node can be reached along the edges. -/
def FlowGraphDefinition.Reaches (definition : FlowGraphDefinition) (nodeId : String) : Prop :=
  ∃ last ∈ FlowGraphValidator.terminals definition,
    ReflTransGen (fun u v => v ∈ definition.nexts u) nodeId last

namespace FlowGraphValidator

/-- A region that no edge leaves and that has no terminal node. -/
structure Trap (definition : FlowGraphDefinition) (region : Finset String) : Prop where
  closed : ∀ edge ∈ definition.edges, edge.fromNode ∈ region → edge.toNode ∈ region
  inner : ∀ nodeId ∈ region, nodeId ∉ terminals definition

instance (definition : FlowGraphDefinition) (region : Finset String) :
    Decidable (Trap definition region) :=
  decidable_of_iff
    ((∀ edge ∈ definition.edges, edge.fromNode ∈ region → edge.toNode ∈ region) ∧
      ∀ nodeId ∈ region, nodeId ∉ terminals definition)
    ⟨fun trap => ⟨trap.1, trap.2⟩, fun trap => ⟨trap.closed, trap.inner⟩⟩

variable {definition : FlowGraphDefinition} {seen : List String} {u v : String}

inductive Escapes (definition : FlowGraphDefinition) (seen : List String) : String → Prop
  | here {u : String} : u ∉ seen → u ∈ terminals definition → Escapes definition seen u
  | next {u v : String} :
      u ∉ seen → v ∈ definition.nexts u → Escapes definition seen v → Escapes definition seen u

theorem Escapes.notMem (escapes : Escapes definition seen u) : u ∉ seen := by
  cases escapes <;> assumption

theorem Escapes.of_cons (escapes : Escapes definition (v :: seen) u) :
    Escapes definition seen u := by
  induction escapes with
  | here new terminal => exact .here (fun old => new (List.mem_cons_of_mem _ old)) terminal
  | next new edge _ ih => exact .next (fun old => new (List.mem_cons_of_mem _ old)) edge ih

/-- A way that passes through a node goes on without it after its last visit. -/
theorem Escapes.last_visit (inner : v ∉ terminals definition)
    (escapes : Escapes definition seen u) : Escapes definition (v :: seen) u ∨
      ∃ next ∈ definition.nexts v, Escapes definition (v :: seen) next := by
  induction escapes with
  | here new terminal =>
    have other := ne_of_mem_of_not_mem terminal inner
    exact .inl (.here (by simp [other, new]) terminal)
  | @next w x new edge _ ih =>
    rcases ih with avoids | passes
    · by_cases eq : w = v
      · subst eq
        exact .inr ⟨x, edge, avoids⟩
      · exact .inl (.next (by simp [eq, new]) edge avoids)
    · exact .inr passes

theorem escapes_iff_next (new : u ∉ seen) (inner : u ∉ terminals definition) :
    Escapes definition seen u ↔
      ∃ next ∈ definition.nexts u, Escapes definition (u :: seen) next := by
  constructor
  · intro escapes
    exact (escapes.last_visit inner).resolve_left fun again => again.notMem List.mem_cons_self
  · rintro ⟨next, edge, escapes⟩
    exact .next new edge escapes.of_cons

theorem escapes_nil_iff : Escapes definition [] u ↔ definition.Reaches u := by
  constructor
  · intro escapes
    induction escapes with
    | here _ terminal => exact ⟨_, terminal, .refl⟩
    | next _ edge _ ih =>
      obtain ⟨last, terminal, path⟩ := ih
      exact ⟨last, terminal, path.head edge⟩
  · rintro ⟨last, terminal, path⟩
    induction path using ReflTransGen.head_induction_on with
    | refl => exact .here List.not_mem_nil terminal
    | head edge _ ih => exact .next List.not_mem_nil edge ih

theorem anyM_eq_some {α : Type} {found b} : ∀ {items : List α}, items.anyM found = some b →
      (b = true ∧ ∃ item ∈ items, found item = some true) ∨
        b = false ∧ ∀ item ∈ items, found item = some false := by
  intro items
  induction items with
  | nil => rintro ⟨⟩; exact .inr ⟨rfl, nofun⟩
  | cons item rest ih =>
    intro res
    rw [List.anyM] at res
    cases here : found item with
    | none => simp [here] at res
    | some first =>
      cases first with
      | true => simp_all
      | false => simpa [here] using ih (by simpa [here] using res)

/-- `has_terminal_path` finds out whether a terminal node can be reached. -/
theorem hasTerminalPath_eq_some : ∀ {fuel : ℕ} {nodeId : String} {seen : List String} {b : Bool},
    hasTerminalPath definition fuel nodeId seen = some b →
      (b = true ↔ Escapes definition seen nodeId) := by
  intro fuel
  induction fuel with
  | zero => exact fun res => nomatch res
  | succ fuel ih =>
    intro nodeId seen b res
    rw [hasTerminalPath] at res
    split at res
    · rename_i old
      cases res
      simp only [Bool.false_eq_true, false_iff]
      exact fun escapes => escapes.notMem old
    · rename_i new
      split at res
      · rename_i terminal
        cases res
        simp only [true_iff]
        exact .here new terminal
      · rename_i inner
        rw [escapes_iff_next new inner]
        rcases anyM_eq_some res with ⟨rfl, next, edge, found⟩ | ⟨rfl, none⟩
        · simp only [true_iff]
          exact ⟨next, edge, (ih found).mp rfl⟩
        · simp only [Bool.false_eq_true, false_iff]
          rintro ⟨next, edge, escapes⟩
          exact Bool.false_ne_true ((ih (none next edge)).mpr escapes)

theorem validateTermination_ok_iff (some : terminals definition ≠ []) :
    validateTermination definition = .ok () ↔ Escapes definition [] definition.startNode := by
  obtain ⟨b, found⟩ := hasTerminalPath_start definition
  rw [validateTermination, Checks.andThen_ok_iff, Checks.require_ok_iff, found,
    Checks.require_ok_iff, and_iff_right some]
  exact hasTerminalPath_eq_some found

/-- What holds of the start node and along the edges holds of every node of an accepted graph. -/
theorem of_start {C : String → Prop} (accepted : validate definition = .ok ())
    (closed : DepthFirst.Closed definition.nexts C) (start : C definition.startNode) :
    ∀ nodeId ∈ definition.nodeKeys, C nodeId := by
  simp only [validate, Checks.andThen_ok_iff] at accepted
  obtain ⟨-, -, -, reachable, -⟩ := accepted
  unfold validateReachability at reachable
  split at reachable
  · cases reachable
  · rename_i visited explored
    obtain ⟨-, all⟩ := Checks.require_ok_iff.mp reachable
    intro nodeId member
    exact DepthFirst.explore_subset closed _ _ _ visited explored start (List.forall_mem_nil _) _
      (all member)

theorem edge_mem_nodeKeys {edge : FlowGraphEdge} (accepted : validate definition = .ok ())
    (member : edge ∈ definition.edges) :
    edge.fromNode ∈ definition.nodeKeys ∧ edge.toNode ∈ definition.nodeKeys := by
  simp only [validate, Checks.andThen_ok_iff] at accepted
  obtain ⟨-, -, joins, -⟩ := accepted
  exact Checks.require_ok_iff.mp
    (Checks.andThen_ok_iff.mp (Checks.each_ok_iff.mp joins edge member)).1

/-- The start node of an accepted graph leads to a terminal node. -/
theorem start_reaches (accepted : validate definition = .ok ()) :
    definition.Reaches definition.startNode := by
  simp only [validate, Checks.andThen_ok_iff] at accepted
  obtain ⟨-, -, -, -, termination, -⟩ := accepted
  have some : terminals definition ≠ [] :=
    Checks.require_ok_iff.mp (Checks.andThen_ok_iff.mp termination).1
  exact escapes_nil_iff.mp ((validateTermination_ok_iff some).mp termination)

theorem Trap.stays {region : Finset String} (trap : Trap definition region)
    (path : ReflTransGen (fun u v => v ∈ definition.nexts u) u v) (inside : u ∈ region) :
    v ∈ region := by
  induction path with
  | refl => exact inside
  | tail _ next ih =>
    obtain ⟨edge, member, rfl, rfl⟩ := definition.mem_nexts.mp next
    exact trap.closed edge member ih

/-- The nodes a dead end leads to are a trap. -/
theorem exists_trap (accepted : validate definition = .ok ()) (member : u ∈ definition.nodeKeys)
    (stuck : ¬ definition.Reaches u) :
    ∃ region ⊆ definition.nodeKeys.toFinset, Trap definition region ∧ u ∈ region ∧
      definition.startNode ∉ region := by
  classical
  refine ⟨definition.nodeKeys.toFinset.filter (ReflTransGen (fun u v => v ∈ definition.nexts u) u),
    Finset.filter_subset _ _, ⟨?_, ?_⟩, ?_, ?_⟩
  · intro edge inside source
    refine Finset.mem_filter.mpr ⟨List.mem_toFinset.mpr (edge_mem_nodeKeys accepted inside).2, ?_⟩
    exact (Finset.mem_filter.mp source).2.tail
      (definition.mem_nexts.mpr ⟨edge, inside, rfl, rfl⟩)
  · intro nodeId reached terminal
    exact stuck ⟨nodeId, terminal, (Finset.mem_filter.mp reached).2⟩
  · exact Finset.mem_filter.mpr ⟨List.mem_toFinset.mpr member, .refl⟩
  · intro start
    obtain ⟨last, terminal, path⟩ := start_reaches accepted
    exact stuck ⟨last, terminal, (Finset.mem_filter.mp start).2.trans path⟩

/-- **An accepted graph has no dead ends exactly if no edge leads from outside into a closed region
without a terminal node.** -/
theorem no_dead_ends_iff (definition : FlowGraphDefinition)
    (accepted : validate definition = .ok ()) :
    (∀ nodeId ∈ definition.nodeKeys, definition.Reaches nodeId) ↔
      ∀ region ∈ definition.nodeKeys.toFinset.powerset, Trap definition region →
        ∀ edge ∈ definition.edges, edge.toNode ∈ region → edge.fromNode ∈ region := by
  constructor
  · intro noDeadEnds region _ trap edge member entered
    obtain ⟨last, terminal, path⟩ := noDeadEnds _ (edge_mem_nodeKeys accepted member).2
    exact absurd terminal (trap.inner last (trap.stays path entered))
  · intro unentered nodeId member
    by_contra stuck
    obtain ⟨region, nodes, trap, inside, outside⟩ := exists_trap accepted member stuck
    -- no edge enters the region, so the nodes outside it are closed and have the start node
    refine of_start (C := (· ∉ region)) accepted (fun u new v next old => new ?_) outside nodeId
      member inside
    obtain ⟨edge, member, rfl, rfl⟩ := definition.mem_nexts.mp next
    exact unentered region (Finset.mem_powerset.mpr nodes) trap edge member old

theorem retried_no_dead_ends : validate retried = .ok () ∧
      ∀ nodeId ∈ retried.nodeKeys, retried.Reaches nodeId := by
  have accepted : validate retried = .ok () := by decide +kernel
  exact ⟨accepted, (no_dead_ends_iff retried accepted).mpr (by decide +kernel)⟩

def deadEnd : FlowGraphDefinition :=
  { startNode := "classify"
    nodes := [("classify", ⟨"IntentClassifier", none⟩), ("respond", ⟨"ResponseBuilder", none⟩),
      ("stuck", ⟨"ToolResolver", none⟩)]
    edges := [⟨"classify", "respond", "step == 1", .normal, by decide⟩,
      ⟨"classify", "stuck", "step == 2", .normal, by decide⟩]
    distinct := by decide }

theorem dead_end_accepted : validate deadEnd = .ok () ∧ "stuck" ∈ deadEnd.nodeKeys ∧
    ¬ deadEnd.Reaches "stuck" := by
  have none : hasTerminalPath deadEnd 4 "stuck" [] = some false := by decide +kernel
  refine ⟨by decide +kernel, by decide, fun ends => ?_⟩
  exact Bool.false_ne_true ((hasTerminalPath_eq_some none).mpr (escapes_nil_iff.mpr ends))

end FlowGraphValidator

/-! ## Cycles -/

namespace FlowGraphDefinition

/-- The edges follow each other from one node to another. -/
def Joined : String → String → List FlowGraphEdge → Prop
  | u, v, [] => u = v
  | u, v, edge :: rest => edge.fromNode = u ∧ Joined edge.toNode v rest

variable (definition : FlowGraphDefinition)

def IsCycle (cycle : List FlowGraphEdge) : Prop :=
  cycle ≠ [] ∧ (∀ edge ∈ cycle, edge ∈ definition.edges) ∧ ∃ nodeId, Joined nodeId nodeId cycle

def LeadsNormally (u v : String) : Prop :=
  ∃ edge ∈ definition.edges, edge.edgeKind = .normal ∧ edge.fromNode = u ∧ edge.toNode = v

def Hidden (edge : FlowGraphEdge) : Prop :=
  ∃ last ∈ (definition.edges.filter fun other =>
    (other.fromNode, other.toNode) = (edge.fromNode, edge.toNode)).getLast?, last.edgeKind = .loop

instance (edge : FlowGraphEdge) : Decidable (definition.Hidden edge) :=
  inferInstanceAs (Decidable (∃ last ∈ (definition.edges.filter fun other =>
    (other.fromNode, other.toNode) = (edge.fromNode, edge.toNode)).getLast?,
      last.edgeKind = .loop))

variable {definition}

theorem reflTransGen_of_joined {u v edges} (joined : Joined u v edges)
    (normal : ∀ edge ∈ edges, edge ∈ definition.edges ∧ edge.edgeKind = .normal) :
    ReflTransGen definition.LeadsNormally u v := by
  induction edges generalizing u with
  | nil =>
    cases joined
    exact .refl
  | cons edge rest ih =>
    obtain ⟨rfl, later⟩ := joined
    obtain ⟨⟨member, kind⟩, others⟩ := List.forall_mem_cons.mp normal
    exact (ih later others).head ⟨edge, member, kind, rfl, rfl⟩

theorem joined_of_reflTransGen {u v} (path : ReflTransGen definition.LeadsNormally u v) :
    ∃ edges, Joined u v edges ∧
      ∀ edge ∈ edges, edge ∈ definition.edges ∧ edge.edgeKind = .normal := by
  induction path using ReflTransGen.head_induction_on with
  | refl => exact ⟨[], rfl, nofun⟩
  | head step _ ih =>
    obtain ⟨edge, member, kind, rfl, rfl⟩ := step
    obtain ⟨edges, joined, normal⟩ := ih
    exact ⟨edge :: edges, ⟨rfl, joined⟩, List.forall_mem_cons.mpr ⟨⟨member, kind⟩, normal⟩⟩

theorem joined_append {u v edge first second} : Joined u v (first ++ edge :: second) ↔
      Joined u edge.fromNode first ∧ Joined edge.toNode v second := by
  induction first generalizing u with
  | nil => simp [Joined, eq_comm]
  | cons other rest ih => simp [Joined, ih, and_assoc]

end FlowGraphDefinition

namespace FlowGraphDraftValidator

open FlowGraphDefinition

variable {definition : FlowGraphDefinition}

/-- Under two nodes stands the kind of the last edge between them. -/
theorem lookup_edgeKindMap (edges : List FlowGraphEdge) (key : String × String) :
    (edgeKindMap edges).lookup key =
      (edges.filter fun edge => (edge.fromNode, edge.toNode) = key).getLast?.map (·.edgeKind) := by
  rw [lawful_beq_subsingleton instBEqProd instBEqOfDecidableEq]
  induction edges using List.reverseRecOn with
  | nil => rfl
  | append_singleton edges edge ih =>
    unfold edgeKindMap at ih ⊢
    rw [List.foldl_concat, List.filter_append]
    by_cases here : (edge.fromNode, edge.toNode) = key
    · subst here
      simp
    · rw [OrderedDict.lookup_set_of_ne _ _ (Ne.symm here), ih]
      simp [here]

theorem mem_successors {edge} (mem : edge ∈ definition.edges) :
    (edge.toNode, decide ((edgeKindMap definition.edges).lookup (edge.fromNode, edge.toNode) =
      some .loop)) ∈ successors definition edge.fromNode :=
  List.mem_map.mpr ⟨edge, List.mem_filter.mpr ⟨mem, decide_eq_true rfl⟩, rfl⟩

theorem descends_of_validate {libraries} (accepted : validate libraries definition = .ok ()) :
    ∃ rank : String → ℕ, ∀ edge ∈ definition.edges, ¬ definition.Hidden edge →
      edge.edgeKind = .normal → rank edge.toNode < rank edge.fromNode := by
  simp only [validate, Checks.andThen_ok_iff] at accepted
  obtain ⟨graph, -, -, -, cycles⟩ := accepted
  unfold validateCycles at cycles
  split at cycles
  · rename_i search checked
    obtain ⟨started, -, closed, lower⟩ := DepthFirst.check_sound checked
    have closed' : DepthFirst.Closed definition.nexts (· ∈ search.finished) := by
      intro u finished v next
      obtain ⟨edge, member, rfl, rfl⟩ := definition.mem_nexts.mp next
      exact closed _ finished _ (List.mem_map_of_mem (mem_successors member))
    refine ⟨DepthFirst.height search.finished, fun edge member shown normal => ?_⟩
    have finished := FlowGraphValidator.of_start graph closed' started edge.fromNode
      (FlowGraphValidator.edge_mem_nodeKeys graph member).1
    refine lower _ finished _ (mem_successors member) (decide_eq_false fun looksLoop => shown ?_)
    rw [lookup_edgeKindMap] at looksLoop
    exact Option.map_eq_some_iff.mp looksLoop
  · cases cycles
  · cases cycles

theorem rank_le_of_joined {rank : String → ℕ} {u v : String} {edges : List FlowGraphEdge}
    (joined : Joined u v edges) (lower : ∀ edge ∈ edges, rank edge.toNode < rank edge.fromNode) :
    rank v + edges.length ≤ rank u := by
  induction edges generalizing u with
  | nil =>
    cases joined
    simp
  | cons edge rest ih =>
    obtain ⟨rfl, later⟩ := joined
    obtain ⟨here, others⟩ := List.forall_mem_cons.mp lower
    have := ih later others
    rw [List.length_cons]
    omega

/-- **The check of cycles is sound exactly if no normal edge that a later loop edge hides leads back
along normal edges.** -/
theorem cycles_loop_iff (libraries : DraftLibraries) (definition : FlowGraphDefinition)
    (accepted : validate libraries definition = .ok ()) :
    (∀ cycle, definition.IsCycle cycle → ∃ edge ∈ cycle, edge.edgeKind = .loop) ↔
      ∀ edge ∈ definition.edges, edge.edgeKind = .normal → definition.Hidden edge →
        ¬ ReflTransGen definition.LeadsNormally edge.toNode edge.fromNode := by
  constructor
  · intro sound edge member normal _ back
    obtain ⟨edges, joined, others⟩ := joined_of_reflTransGen back
    have all : ∀ other ∈ edge :: edges, other ∈ definition.edges ∧ other.edgeKind = .normal :=
      List.forall_mem_cons.mpr ⟨⟨member, normal⟩, others⟩
    obtain ⟨loop, inside, kind⟩ := sound (edge :: edges)
      ⟨List.cons_ne_nil _ _, fun other inside => (all other inside).1, _, rfl, joined⟩
    rw [(all loop inside).2] at kind
    cases kind
  · rintro shown cycle ⟨nonempty, inside, nodeId, joined⟩
    by_contra none
    have normal : ∀ edge ∈ cycle, edge.edgeKind = .normal := by
      intro edge member
      cases kind : edge.edgeKind with
      | normal => rfl
      | loop => exact absurd ⟨edge, member, kind⟩ none
    obtain ⟨rank, lower⟩ := descends_of_validate accepted
    -- some edge of the cycle is hidden, or its nodes would descend all around
    have hidden : ∃ edge ∈ cycle, definition.Hidden edge := by
      by_contra visible
      have around := rank_le_of_joined joined fun edge member =>
        lower edge (inside edge member) (fun hides => visible ⟨edge, member, hides⟩)
          (normal edge member)
      have := List.length_pos_of_ne_nil nonempty
      omega
    obtain ⟨edge, member, hides⟩ := hidden
    obtain ⟨first, second, rfl⟩ := List.append_of_mem member
    obtain ⟨before, behind⟩ := joined_append.mp joined
    refine shown edge (inside edge member) (normal edge member) hides
      ((reflTransGen_of_joined behind fun other there => ?_).trans
        (reflTransGen_of_joined before fun other there => ?_))
    · have there := List.mem_append_right first (List.mem_cons_of_mem edge there)
      exact ⟨inside other there, normal other there⟩
    · have there := List.mem_append_left (edge :: second) there
      exact ⟨inside other there, normal other there⟩

theorem retried_cycles_loop : validate lenientLibraries retried = .ok () ∧
      (∃ cycle, retried.IsCycle cycle) ∧
      ∀ cycle, retried.IsCycle cycle → ∃ edge ∈ cycle, edge.edgeKind = .loop := by
  have accepted : validate lenientLibraries retried = .ok () := by decide +kernel
  refine ⟨accepted, ⟨retried.edges.take 2, by decide, by decide, "classify", rfl, rfl, rfl⟩,
    (cycles_loop_iff lenientLibraries retried accepted).mpr fun edge member normal hidden => ?_⟩
  have visible : ∀ edge ∈ retried.edges, edge.edgeKind = .normal → ¬ retried.Hidden edge := by
    decide +kernel
  exact absurd hidden (visible edge member normal)

def hiddenRetry : FlowGraphDefinition :=
  { startNode := "ask"
    nodes := [("ask", ⟨"IntentClassifier", none⟩), ("answer", ⟨"ResponseBuilder", none⟩)]
    edges := [⟨"ask", "answer", "step == 1", .normal, by decide⟩,
      ⟨"answer", "ask", "step == 2", .normal, by decide⟩,
      ⟨"answer", "ask", "step == 3", .loop, by decide⟩]
    distinct := by decide }

theorem hidden_cycle_accepted : validate lenientLibraries hiddenRetry = .ok () ∧
      ∃ cycle, hiddenRetry.IsCycle cycle ∧ ∀ edge ∈ cycle, edge.edgeKind = .normal :=
  ⟨by decide +kernel, hiddenRetry.edges.take 2, ⟨by decide, by decide, "ask", rfl, rfl, rfl⟩,
    by decide⟩

end FlowGraphDraftValidator

end AgentOrchestration
