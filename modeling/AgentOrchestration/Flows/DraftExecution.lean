import AgentOrchestration.GraphRuntime.AcceptedSnapshots
import AgentOrchestration.GraphRuntime.Termination
import AgentOrchestration.Flows.FlowGraph

/-!
# Accepted drafts and executable graphs

A draft that `FlowGraphDraftValidator.validate` accepts is compiled into a snapshot,
and `GraphCompiler.compile` makes a plan of the snapshot when a run starts. The two
were written independently: the draft is searched in the order of its edges, the
snapshot in the order of their names.
-/

namespace AgentOrchestration

set_option autoImplicit false

open EdgeEvaluator (Term parse compileCondition)
open DepthFirst (IsFirstPath)

/-! ## The snapshot of a draft -/

namespace FlowGraphCompiler

def compiled (edge : FlowGraphEdge) : Value := (compileCondition edge.condition).getD .null

def snapshotEdge (edge : FlowGraphEdge) : SnapshotEdge :=
  { fromNode := edge.fromNode, toNode := edge.toNode, edgeKind := some edge.edgeKind.value
    condition := some edge.condition, compiledCondition := some (compiled edge) }

def snapshotOf (definition : FlowGraphDefinition) : GraphSnapshot :=
  { startNode := some definition.startNode
    nodes := definition.nodes.map fun entry => (entry.1, dumpNode entry.2)
    edges := (sortEdges definition.edges).map snapshotEdge }

theorem mem_sortEdges {edges edge} : edge ∈ sortEdges edges ↔ edge ∈ edges :=
  List.mem_insertionSort _

theorem mapM_compileEdge (edges : List FlowGraphEdge)
    (conditions : ∀ edge ∈ edges, ∃ term, parse edge.condition = some term) :
    edges.mapM compileEdge = some (edges.map snapshotEdge) := by
  induction edges with
  | nil => rfl
  | cons edge rest ih =>
    obtain ⟨term, parsed⟩ := conditions edge List.mem_cons_self
    have here : compileEdge edge = some (snapshotEdge edge) := by
      simp [compileEdge, snapshotEdge, compiled, compileCondition, parsed]
    rw [List.mapM_cons, here, ih fun later mem => conditions later (List.mem_cons_of_mem _ mem)]
    rfl

theorem compile_eq_some {flow} (valid : FlowGraphDraftValidator.Validated flow) :
    compile flow = some (snapshotOf flow) := by
  have edges := mapM_compileEdge (sortEdges flow.edges) fun edge mem =>
    valid.conditions edge (mem_sortEdges.mp mem)
  rw [compile, edges]
  rfl

end FlowGraphCompiler

open FlowGraphCompiler (snapshotOf snapshotEdge compiled compile)

/-! ## When the snapshot has a plan -/

def FlowGraphDefinition.Leads (definition : FlowGraphDefinition) (u v : String) : Prop :=
  ∃ edge ∈ definition.edges, edge.fromNode = u ∧ edge.toNode = v

/-- The drafts that have a plan among those that are accepted. -/
structure FlowGraphDefinition.Executable (definition : FlowGraphDefinition) : Prop where
  /-- The start node has a name. -/
  named : definition.startNode ≠ ""
  /-- There are edges. -/
  connected : definition.edges ≠ []
  /-- No condition is a bare value. -/
  applied : ∀ edge ∈ definition.edges, ∃ term, parse edge.condition = some term ∧ term.IsApplication
  /-- A normal edge does not lead back onto the alphabetically first path to its source. -/
  forward : ∀ edge ∈ definition.edges, edge.edgeKind = .normal → ∀ path,
    IsFirstPath definition.Leads definition.startNode edge.fromNode path → edge.toNode ∉ path

namespace GraphCompiler

variable {definition : FlowGraphDefinition}

theorem mem_edges_snapshotOf {edge : SnapshotEdge} :
    edge ∈ (snapshotOf definition).edges ↔ ∃ old ∈ definition.edges, snapshotEdge old = edge := by
  simp only [snapshotOf, List.mem_map, FlowGraphCompiler.mem_sortEdges]

theorem kind_snapshotEdge (edge : FlowGraphEdge) : (snapshotEdge edge).kind = some edge.edgeKind :=
  EdgeKind.ofName_value edge.edgeKind

theorem leads_snapshotOf : (snapshotOf definition).Leads = definition.Leads := by
  funext u v
  simp only [GraphSnapshot.Leads, FlowGraphDefinition.Leads, mem_edges_snapshotOf, eq_iff_iff]
  constructor
  · rintro ⟨_, ⟨edge, member, rfl⟩, source, target⟩
    exact ⟨edge, member, source, target⟩
  · rintro ⟨edge, member, source, target⟩
    exact ⟨snapshotEdge edge, ⟨edge, member, rfl⟩, source, target⟩

theorem terminalNodes_snapshotOf :
    terminalNodes (snapshotOf definition).nodes = FlowGraphValidator.terminals definition := by
  simp only [terminalNodes, snapshotOf, FlowGraphValidator.terminals, List.filter_map, List.map_map]
  rfl

theorem keys_snapshotOf : (snapshotOf definition).nodes.map Prod.fst = definition.nodeKeys := by
  simp [snapshotOf, FlowGraphDefinition.nodeKeys]

/-- A condition is stored as a list exactly when it is not a bare value. -/
theorem compiles_snapshotEdge_iff {edge : FlowGraphEdge} {term : Term}
    (parsed : parse edge.condition = some term) :
    (snapshotEdge edge).Compiles ↔ ∃ term, parse edge.condition = some term ∧
      term.IsApplication := by
  have valid : ∃ kind, (snapshotEdge edge).kind = some kind := ⟨_, kind_snapshotEdge edge⟩
  rw [SnapshotEdge.Compiles, and_iff_left valid, parsed]
  simp only [snapshotEdge, Option.some.injEq]
  rw [compiled, compileCondition, parsed, Option.map_some, Option.getD_some,
    Term.toSerializable_eq_list_iff]
  simp

theorem reached_of_validated (valid : FlowGraphDraftValidator.Validated definition)
    (nodeId : String) :
    nodeId ∈ definition.nodeKeys ↔
      Relation.ReflTransGen definition.Leads definition.startNode nodeId := by
  obtain ⟨visited, explored, only, known⟩ := valid.reached
  obtain ⟨closed, started⟩ := DepthFirst.explore_closed explored
  constructor
  · intro mem
    refine DepthFirst.explore_subset
      (C := Relation.ReflTransGen definition.Leads definition.startNode)
      ?_ _ _ [] visited explored .refl (by simp) nodeId (known mem)
    exact fun u isIn v next => isIn.tail (definition.mem_nexts.mp next)
  · intro path
    refine only ?_
    induction path with
    | refl => exact started
    | tail _ step ih => exact closed _ ih _ (definition.mem_nexts.mpr step)

theorem wellFormed_snapshotOf_iff (valid : FlowGraphDraftValidator.Validated definition) :
    (snapshotOf definition).WellFormed ↔ definition.startNode ≠ "" ∧ definition.edges ≠ [] ∧
        ∀ edge ∈ definition.edges, ∃ term, parse edge.condition = some term ∧
          term.IsApplication := by
  have nonempty : (snapshotOf definition).edges ≠ [] ↔ definition.edges ≠ [] := by
    rw [snapshotOf, ← List.length_pos_iff, ← List.length_pos_iff, List.length_map,
      FlowGraphCompiler.sortEdges, List.length_insertionSort]
  constructor
  · intro wf
    refine ⟨wf.named, nonempty.mp wf.nonempty, fun edge member => ?_⟩
    obtain ⟨term, parsed⟩ := valid.conditions edge member
    exact (compiles_snapshotEdge_iff parsed).mp
      (wf.compiles _ (mem_edges_snapshotOf.mpr ⟨edge, member, rfl⟩))
  · rintro ⟨named, connected, applied⟩
    constructor
    · exact named
    · rw [keys_snapshotOf]
      exact valid.start
    · exact nonempty.mpr connected
    · rw [terminalNodes_snapshotOf]
      exact valid.terminal
    · intro edge member
      obtain ⟨old, known, rfl⟩ := mem_edges_snapshotOf.mp member
      obtain ⟨term, parsed⟩ := valid.conditions old known
      exact (compiles_snapshotEdge_iff parsed).mpr (applied old known)
    · intro nodeId
      rw [keys_snapshotOf, leads_snapshotOf]
      exact reached_of_validated valid nodeId

theorem forward_snapshotOf_iff : (snapshotOf definition).Forward ↔
      ∀ edge ∈ definition.edges, edge.edgeKind = .normal → ∀ path,
        IsFirstPath definition.Leads definition.startNode edge.fromNode path →
          edge.toNode ∉ path := by
  rw [GraphSnapshot.Forward, leads_snapshotOf]
  constructor
  · intro forward edge member normal
    refine forward (snapshotEdge edge) (mem_edges_snapshotOf.mpr ⟨edge, member, rfl⟩) ?_
    rw [kind_snapshotEdge, normal]
  · intro forward edge member normal
    obtain ⟨old, known, rfl⟩ := mem_edges_snapshotOf.mp member
    rw [kind_snapshotEdge, Option.some.injEq] at normal
    exact forward old known normal

theorem compile_snapshotOf_iff (valid : FlowGraphDraftValidator.Validated definition) :
    (∃ plan, compile (snapshotOf definition) = .ok plan) ↔ definition.Executable := by
  rw [accepts_iff, wellFormed_snapshotOf_iff valid, forward_snapshotOf_iff]
  constructor
  · rintro ⟨⟨named, connected, applied⟩, forward⟩
    exact ⟨named, connected, applied, forward⟩
  · rintro ⟨named, connected, applied, forward⟩
    exact ⟨⟨named, connected, applied⟩, forward⟩

end GraphCompiler

/-- **An accepted draft is compiled into a plan exactly when it is executable.** -/
theorem accepted_snapshot_iff (libraries : DraftLibraries) (definition : FlowGraphDefinition)
    (accepted : FlowGraphDraftValidator.validate libraries definition = .ok ()) :
    (∃ snapshot plan, compile definition = some snapshot ∧
      GraphCompiler.compile snapshot = .ok plan) ↔
      definition.Executable := by
  have validated := FlowGraphDraftValidator.validated_of_validate accepted
  rw [← GraphCompiler.compile_snapshotOf_iff validated]
  constructor
  · rintro ⟨snapshot, plan, compiles, runs⟩
    rw [FlowGraphCompiler.compile_eq_some validated] at compiles
    cases compiles
    exact ⟨plan, runs⟩
  · rintro ⟨plan, runs⟩
    exact ⟨snapshotOf definition, plan, FlowGraphCompiler.compile_eq_some validated, runs⟩

/-- **A draft that is accepted and executable runs on track.** Both compilers take it, and from its
start node, in any world, no run misses a node or, without loop edges, runs out of steps. -/
theorem executable_draft_on_track (libraries : DraftLibraries)
    (draft : { definition : FlowGraphDefinition //
      FlowGraphDraftValidator.validate libraries definition = .ok () ∧ definition.Executable }) :
    ∃ snapshot plan, compile draft.1 = some snapshot ∧ GraphCompiler.compile snapshot = .ok plan ∧
      ∀ worlds pyStr flow state memory store,
        plan.OnTrack (runIn worlds pyStr flow plan none state memory store) := by
  obtain ⟨definition, accepted, executable⟩ := draft
  have validated := FlowGraphDraftValidator.validated_of_validate accepted
  obtain ⟨plan, runs⟩ := (GraphCompiler.compile_snapshotOf_iff validated).mpr executable
  refine ⟨_, plan, FlowGraphCompiler.compile_eq_some validated, runs, onTrack_runIn runs ?_⟩
  obtain ⟨edges, start, passed, rfl⟩ := GraphCompiler.compile_ok_iff.mp runs
  exact (of_decide_eq_true (Option.filter_eq_some_iff.mp passed.start).2).2

def lenientLibraries : DraftLibraries :=
  { parsePython := fun _ => none, compareConstants := fun _ _ _ => none
    modelValidate := fun _ _ => true }

def twoNodes : FlowGraphDefinition :=
  { startNode := "classify"
    nodes := [("classify", ⟨"IntentClassifier", none⟩), ("respond", ⟨"ResponseBuilder", none⟩)]
    edges := [⟨"classify", "respond", "1 == 1", .normal, by decide⟩]
    distinct := by decide }

theorem twoNodes_on_track : ∃ snapshot plan, compile twoNodes = some snapshot ∧
    GraphCompiler.compile snapshot = .ok plan ∧ ∀ worlds pyStr flow state memory store,
      plan.OnTrack (runIn worlds pyStr flow plan none state memory store) := by
  have accepted : FlowGraphDraftValidator.validate lenientLibraries twoNodes =
      .ok () := by decide +kernel
  refine executable_draft_on_track lenientLibraries ⟨twoNodes, accepted,
    (GraphCompiler.compile_snapshotOf_iff
      (FlowGraphDraftValidator.validated_of_validate accepted)).mp ?_⟩
  refine ⟨GraphCompiler.planOf (snapshotOf twoNodes)
    [⟨"classify", "respond", .normal, [.int 1, .str "==", .int 1], 0⟩] "classify", ?_⟩
  decide +kernel

theorem twoNodes_executable : FlowGraphDraftValidator.validate lenientLibraries twoNodes = .ok () ∧
      twoNodes.Executable := by
  have accepted : FlowGraphDraftValidator.validate lenientLibraries twoNodes = .ok () := by
    decide +kernel
  refine ⟨accepted, (accepted_snapshot_iff lenientLibraries twoNodes accepted).mp ?_⟩
  refine ⟨snapshotOf twoNodes, GraphCompiler.planOf (snapshotOf twoNodes)
    [⟨"classify", "respond", .normal, [.int 1, .str "==", .int 1], 0⟩] "classify", ?_, ?_⟩
  · decide +kernel
  · decide +kernel

/-- A response that is retried. The loop back is marked, and the edge into the loop comes before
the edge past it, but the name of the node behind the loop comes first. -/
def retriedResponse : FlowGraphDefinition :=
  { startNode := "start"
    nodes := [("start", ⟨"IntentClassifier", none⟩), ("b", ⟨"ToolResolver", none⟩),
      ("a", ⟨"ResponseBuilder", none⟩)]
    edges := [⟨"start", "b", "x == 1", .normal, by decide⟩,
      ⟨"start", "a", "x == 2", .normal, by decide⟩, ⟨"b", "a", "x == 3", .normal, by decide⟩,
      ⟨"a", "b", "x == 4", .loop, by decide⟩]
    distinct := by decide }

theorem retriedResponse_refused :
    FlowGraphDraftValidator.validate lenientLibraries retriedResponse = .ok () ∧
      (compile retriedResponse).map GraphCompiler.compile = some (.error .cycleNotMarkedLoop) ∧
      ¬ ∃ snapshot plan, compile retriedResponse = some snapshot ∧
        GraphCompiler.compile snapshot = .ok plan := by
  have refused : (compile retriedResponse).map GraphCompiler.compile =
      some (.error .cycleNotMarkedLoop) := by decide +kernel
  refine ⟨by decide +kernel, refused, ?_⟩
  rintro ⟨snapshot, plan, compiles, runs⟩
  rw [compiles, Option.map_some, runs] at refused
  cases refused

end AgentOrchestration
