import AgentOrchestration.Library.DepthFirst
import AgentOrchestration.GraphRuntime.ExecutionPlan

/-!
# Compiling a graph snapshot into a plan

`GraphCompiler.compile` checks the structure of a stored graph and turns its edges
into an adjacency map: the start node exists, every node is reachable from it, some
node is terminal, and no edge outside loops leads back to a node being visited.
-/

namespace AgentOrchestration

set_option autoImplicit false

open DepthFirst (explore targets check)

/-! ## Snapshots -/

def EdgeKind.ofName (name : String) : Option EdgeKind :=
  if name = "NORMAL" then some .normal else if name = "LOOP" then some .loop else none

structure SnapshotEdge where
  fromNode : String
  toNode : String
  edgeKind : Option String
  condition : Option String
  compiledCondition : Option Value
  deriving DecidableEq

structure GraphSnapshot where
  startNode : Option String
  nodes : List (String × NodeSpec)
  edges : List SnapshotEdge
  deriving DecidableEq

namespace GraphCompiler

/-- Why a snapshot is refused. -/
inductive CompileError where
  | startNodeNotFound
  | edgesRequired
  | noTerminalNodes
  | compiledConditionMissing
  /-- `EdgeKind(...)` raises. -/
  | invalidEdgeKind
  /-- `CompiledEdge(...)` raises. -/
  | invalidCompiledEdge
  | unreachableNodes
  | cycleNotMarkedLoop
  | outOfFuel
  deriving DecidableEq, Repr

/-! ## Edges -/

def sortKey (edge : SnapshotEdge) : String ×ₗ String ×ₗ String :=
  toLex (edge.fromNode, toLex (edge.toNode, edge.condition.getD ""))

/-- `sorted(edges, key=…)`. -/
def sortEdges (edges : List SnapshotEdge) : List SnapshotEdge :=
  edges.insertionSort fun first second => sortKey first ≤ sortKey second

def compileEdge (order : ℕ) (edge : SnapshotEdge) : Except CompileError CompiledEdge :=
  match edge.compiledCondition with
  | none => .error .compiledConditionMissing
  | some .null => .error .compiledConditionMissing
  | some compiled =>
    match EdgeKind.ofName (edge.edgeKind.getD "NORMAL") with
    | none => .error .invalidEdgeKind
    | some edgeKind =>
      match compiled with
      | .list compiledCondition =>
        .ok
          { fromNode := edge.fromNode, toNode := edge.toNode, edgeKind, compiledCondition, order }
      | _ => .error .invalidCompiledEdge

/-- The compiled edges, numbered from `order` on. -/
def compileEdges : ℕ → List SnapshotEdge → Except CompileError (List CompiledEdge)
  | _, [] => .ok []
  | order, edge :: rest =>
    match compileEdge order edge with
    | .error error => .error error
    | .ok compiled =>
      match compileEdges (order + 1) rest with
      | .error error => .error error
      | .ok others => .ok (compiled :: others)

variable (adjacency : List (String × List CompiledEdge))

/-- `adjacency[ce.from_node].append(ce)`. -/
def addEdge (edge : CompiledEdge) : List (String × List CompiledEdge) :=
  OrderedDict.set adjacency edge.fromNode ((adjacency.lookup edge.fromNode).getD [] ++ [edge])

def adjacencyOf (edges : List CompiledEdge) : List (String × List CompiledEdge) :=
  edges.foldl addEdge []

/-! ## Checks -/

def successors (nodeId : String) : List (String × Bool) :=
  ((adjacency.lookup nodeId).getD []).map fun edge => (edge.toNode, decide (edge.edgeKind = .loop))

variable (fuel : ℕ) (startNode : String)

def validateReachability (adjacency : List (String × List CompiledEdge)) (nodeIds : List String) :
    Except CompileError Unit :=
  match explore (targets (successors adjacency)) fuel startNode [] with
  | none => .error .outOfFuel
  | some visited =>
    if nodeIds ⊆ visited ∧ visited ⊆ nodeIds then .ok () else .error .unreachableNodes

def validateLoops (adjacency : List (String × List CompiledEdge)) : Except CompileError Unit :=
  match check (successors adjacency) fuel startNode DepthFirst.Search.empty with
  | .ok _ => .ok ()
  | .error .unmarkedCycle => .error .cycleNotMarkedLoop
  | .error .outOfFuel => .error .outOfFuel

def terminalNodes (nodes : List (String × NodeSpec)) : List String :=
  (nodes.filter fun entry => entry.2.type.any fun type => type ∈ NodeType.terminalNodeTypes).map
    Prod.fst

variable (snapshot : GraphSnapshot)

/-- `start_node`, if it is there and not empty. -/
def startNodeOf : Option String :=
  snapshot.startNode.filter fun nodeId => nodeId ≠ "" ∧ nodeId ∈ snapshot.nodes.map Prod.fst

def compile : Except CompileError ExecutionPlan :=
  match startNodeOf snapshot with
  | none => .error .startNodeNotFound
  | some startNode =>
    if snapshot.edges = [] then .error .edgesRequired
    else if terminalNodes snapshot.nodes = [] then .error .noTerminalNodes
    else
      match compileEdges 0 (sortEdges snapshot.edges) with
      | .error error => .error error
      | .ok edges =>
        let adjacency := adjacencyOf edges
        let orderedNodes := snapshot.nodes.map Prod.fst
        -- every node entered is the start node or the target of an edge
        let fuel := edges.length + 2
        match validateReachability fuel startNode adjacency orderedNodes with
        | .error error => .error error
        | .ok () =>
          match validateLoops fuel startNode adjacency with
          | .error error => .error error
          | .ok () =>
            .ok
              { startNodeId := startNode, orderedNodes, adjacencyMap := adjacency
                terminalNodes := terminalNodes snapshot.nodes, nodes := snapshot.nodes }

/-! ## The adjacency map -/

theorem lookup_addEdge (edge : CompiledEdge) (nodeId : String) :
    ((addEdge adjacency edge).lookup nodeId).getD [] =
      (adjacency.lookup nodeId).getD [] ++ if edge.fromNode = nodeId then [edge] else [] := by
  unfold addEdge
  rw [OrderedDict.lookup_set]
  by_cases eq : nodeId = edge.fromNode
  · simp [eq]
  · simp [eq, Ne.symm eq]

variable (edges : List CompiledEdge) (nodeId : String)

theorem lookup_foldl_addEdge : ∀ adjacency,
    ((edges.foldl addEdge adjacency).lookup nodeId).getD [] =
      (adjacency.lookup nodeId).getD [] ++ edges.filter fun edge => edge.fromNode = nodeId := by
  induction edges with
  | nil => simp
  | cons edge rest ih =>
    intro adjacency
    rw [List.foldl_cons, ih, lookup_addEdge, List.append_assoc, List.filter_cons]
    by_cases eq : edge.fromNode = nodeId <;> simp [eq]

/-- The edges out of a node are those that start there, in order. -/
theorem edgesFrom_adjacency : ((adjacencyOf edges).lookup nodeId).getD [] =
      edges.filter fun edge => edge.fromNode = nodeId := by
  unfold adjacencyOf
  rw [lookup_foldl_addEdge]
  rfl

/-! ## What is accepted -/

structure Accepted (snapshot : GraphSnapshot) (edges : List CompiledEdge) (startNode : String) :
    Prop where
  start : startNodeOf snapshot = some startNode
  nonempty : snapshot.edges ≠ []
  terminal : terminalNodes snapshot.nodes ≠ []
  compiled : compileEdges 0 (sortEdges snapshot.edges) = .ok edges
  reachable : validateReachability (edges.length + 2) startNode (adjacencyOf edges)
    (snapshot.nodes.map Prod.fst) = .ok ()
  loops : validateLoops (edges.length + 2) startNode (adjacencyOf edges) = .ok ()

def planOf (snapshot : GraphSnapshot) (edges : List CompiledEdge) (startNode : String) :
    ExecutionPlan :=
  { startNodeId := startNode, orderedNodes := snapshot.nodes.map Prod.fst
    adjacencyMap := adjacencyOf edges, terminalNodes := terminalNodes snapshot.nodes
    nodes := snapshot.nodes }

variable {plan : ExecutionPlan}

theorem compile_ok_iff {snap} : compile snap = .ok plan ↔
      ∃ edges startNode, Accepted snap edges startNode ∧ plan = planOf snap edges startNode := by
  constructor
  · intro accepted
    unfold compile at accepted
    split at accepted
    · cases accepted
    · rename_i startNode start
      split at accepted
      · cases accepted
      · rename_i nonempty
        split at accepted
        · cases accepted
        · rename_i terminal
          split at accepted
          · cases accepted
          · rename_i edges compiled
            dsimp only at accepted
            split at accepted
            · cases accepted
            · rename_i reachable
              split at accepted
              · cases accepted
              · rename_i loops
                cases accepted
                exact ⟨edges, startNode,
                  ⟨start, nonempty, terminal, compiled, reachable, loops⟩, rfl⟩
  · rintro ⟨edges, startNode, accepted, rfl⟩
    unfold compile
    simp only [accepted.start, accepted.nonempty, accepted.terminal, accepted.compiled,
      accepted.reachable, accepted.loops, if_false]
    rfl

/-- The reachability check passes exactly when the nodes are those explored. -/
theorem validateReachability_ok_iff {fuel startNode adjacency nodeIds} :
    validateReachability fuel startNode adjacency nodeIds = .ok () ↔ ∃ visited,
        explore (targets (successors adjacency)) fuel startNode [] = some visited ∧
        nodeIds ⊆ visited ∧ visited ⊆ nodeIds := by
  unfold validateReachability
  cases explore (targets (successors adjacency)) fuel startNode [] with
  | none => simp
  | some visited =>
    simp only [Option.some.injEq, exists_eq_left']
    split
    · rename_i eq
      simp [eq.1, eq.2]
    · rename_i ne
      simp only [reduceCtorEq, false_iff]
      exact ne

theorem validateLoops_ok_iff {fuel startNode adjacency} :
    validateLoops fuel startNode adjacency = .ok () ↔
      ∃ search, check (successors adjacency) fuel startNode DepthFirst.Search.empty =
        .ok search := by
  unfold validateLoops
  cases check (successors adjacency) fuel startNode DepthFirst.Search.empty with
  | ok search => simp
  | error fault => cases fault <;> simp

/-! ## Fuel -/

theorem targets_successors : targets (successors (adjacencyOf edges)) nodeId ⊆
      edges.map CompiledEdge.toNode := by
  intro target mem
  unfold targets successors at mem
  rw [edgesFrom_adjacency, List.map_map] at mem
  obtain ⟨edge, inside, rfl⟩ := List.mem_map.mp mem
  exact List.mem_map_of_mem (List.mem_filter.mp inside).1

theorem explore_ends (startNode : String) (edges : List CompiledEdge) :
    ∃ visited, explore (targets (successors (adjacencyOf edges)))
      (edges.length + 2) startNode [] = some visited := by
  simpa using DepthFirst.explore_entered (targets_successors edges) startNode

theorem check_ends (startNode : String) (edges : List CompiledEdge) :
    check (successors (adjacencyOf edges)) (edges.length + 2) startNode
      DepthFirst.Search.empty ≠ .error .outOfFuel := by
  simpa using DepthFirst.check_entered (targets_successors edges) startNode

theorem compileEdge_ne_outOfFuel (order : ℕ) (edge : SnapshotEdge) :
    compileEdge order edge ≠ .error .outOfFuel := by
  intro failed
  unfold compileEdge at failed
  split at failed
  · cases failed
  · cases failed
  · split at failed
    · cases failed
    · split at failed <;> cases failed

theorem compileEdges_ne_outOfFuel (edges : List SnapshotEdge) :
    ∀ order, compileEdges order edges ≠ .error .outOfFuel := by
  induction edges with
  | nil => exact fun _ => nofun
  | cons edge rest ih =>
    intro order
    unfold compileEdges
    split
    · rename_i err failed
      rintro ⟨⟩
      exact compileEdge_ne_outOfFuel order edge failed
    · split
      · rename_i err failed
        rintro ⟨⟩
        exact ih (order + 1) failed
      · exact nofun

theorem compile_ne_outOfFuel (snap : GraphSnapshot) : compile snap ≠ .error .outOfFuel := by
  unfold compile
  split
  · exact nofun
  · rename_i startNode start
    split
    · exact nofun
    · split
      · exact nofun
      · split
        · rename_i err failed
          rintro ⟨⟩
          exact compileEdges_ne_outOfFuel _ 0 failed
        · rename_i edges compiled
          dsimp only
          split
          · rename_i err failed
            rintro ⟨⟩
            obtain ⟨visited, explored⟩ := explore_ends startNode edges
            simp only [validateReachability, explored] at failed
            split at failed <;> cases failed
          · split
            · rename_i err failed
              rintro ⟨⟩
              have enough := check_ends startNode edges
              unfold validateLoops at failed
              split at failed
              · cases failed
              · cases failed
              · rename_i empty
                exact enough empty
            · exact nofun

/-! ## Ranks -/

/-- A rank below the number of nodes that every edge out of a node lowers, unless it is a loop; the
edges lead to nodes. -/
structure Descends (plan : ExecutionPlan) (rank : String → ℕ) : Prop where
  bounded : ∀ nodeId, rank nodeId < plan.nodes.length
  closed : ∀ nodeId ∈ plan.nodes.map Prod.fst, ∀ edge ∈ plan.edgesFrom nodeId,
    edge.toNode ∈ plan.nodes.map Prod.fst
  lowers : ∀ nodeId ∈ plan.nodes.map Prod.fst, ∀ edge ∈ plan.edgesFrom nodeId,
    edge.edgeKind = .normal → rank edge.toNode < rank nodeId

theorem mem_successors {nodeId edge} (mem : edge ∈ plan.edgesFrom nodeId) :
    (edge.toNode, decide (edge.edgeKind = .loop)) ∈ successors plan.adjacencyMap nodeId :=
  List.mem_map_of_mem mem

/-- **In an accepted graph the edges that are not loops descend.** -/
theorem descends_of_compile {snap} (accepted : compile snap = .ok plan) :
    ∃ rank, Descends plan rank := by
  obtain ⟨edges, startNode, passed, rfl⟩ := compile_ok_iff.mp accepted
  obtain ⟨visited, explored, known, only⟩ := validateReachability_ok_iff.mp passed.reachable
  obtain ⟨search, checked⟩ := validateLoops_ok_iff.mp passed.loops
  obtain ⟨closedVisited, startVisited⟩ := DepthFirst.explore_closed explored
  obtain ⟨started, nodup, closedFinished, lower⟩ := DepthFirst.check_sound checked
  -- what is finished, what is visited and the nodes of the graph are the same
  have done : ∀ nodeId ∈ snap.nodes.map Prod.fst, nodeId ∈ search.finished := by
    intro nodeId mem
    exact DepthFirst.explore_subset closedFinished _ startNode [] visited explored started
      (by simp) nodeId (known mem)
  have within : search.finished ⊆ snap.nodes.map Prod.fst := by
    intro nodeId mem
    exact only (DepthFirst.check_subset closedVisited _ startNode _ search checked startVisited
      (by simp [DepthFirst.Search.empty]) nodeId mem)
  refine ⟨DepthFirst.height search.finished, ?_, ?_, ?_⟩
  · intro nodeId
    have few : search.finished.length ≤ snap.nodes.length := by
      simpa using (nodup.subperm within).length_le
    exact lt_of_lt_of_le (DepthFirst.height_lt_length_of_pos (List.length_pos_of_mem started)) few
  · intro nodeId mem edge isIn
    exact within (closedFinished nodeId (done nodeId mem) edge.toNode
      (List.mem_map_of_mem (mem_successors isIn)))
  · intro nodeId mem edge isIn normal
    refine lower nodeId (done nodeId mem) _ (mem_successors isIn) ?_
    simp [normal]

/-! ## Cycles -/

inductive Walk (plan : ExecutionPlan) : String → String → List CompiledEdge → Prop where
  | nil (nodeId : String) : Walk plan nodeId nodeId []
  | cons {nodeId last : String} {edge : CompiledEdge} {rest : List CompiledEdge}
      (inside : edge ∈ plan.edgesFrom nodeId) (walk : Walk plan edge.toNode last rest) :
      Walk plan nodeId last (edge :: rest)

/-- A directed cycle of a plan: a closed walk from one of its nodes, along at least one edge. -/
def IsCycle (plan : ExecutionPlan) (cycle : List CompiledEdge) : Prop :=
  cycle ≠ [] ∧ ∃ nodeId ∈ plan.nodes.map Prod.fst, Walk plan nodeId nodeId cycle

theorem Descends.walk {plan rank} (descends : Descends plan rank) {first last}
    {walk} (along : Walk plan first last walk)
    (mem : first ∈ plan.nodes.map Prod.fst) (normal : ∀ edge ∈ walk, edge.edgeKind = .normal) :
    rank last + walk.length ≤ rank first := by
  induction along with
  | nil nodeId => simp
  | cons isIn rest ih =>
    rename_i nodeId final edge others
    have lower := descends.lowers nodeId mem edge isIn (normal edge List.mem_cons_self)
    have tail := ih (descends.closed nodeId mem edge isIn) (List.forall_mem_cons.mp normal).2
    rw [List.length_cons]
    omega

theorem Descends.loop_of_isCycle {rank} (descends : Descends plan rank) {cycle}
    (isCycle : IsCycle plan cycle) :
    ∃ edge ∈ cycle, edge.edgeKind = .loop := by
  by_contra none
  obtain ⟨nonempty, nodeId, member, walk⟩ := isCycle
  have normal : ∀ edge ∈ cycle, edge.edgeKind = .normal := by
    intro edge inside
    cases kind : edge.edgeKind with
    | normal => rfl
    | loop => exact absurd ⟨edge, inside, kind⟩ none
  have shrinks := descends.walk walk member normal
  have positive := List.length_pos_of_ne_nil nonempty
  omega

end GraphCompiler

end AgentOrchestration
