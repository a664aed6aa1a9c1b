import AgentOrchestration.Library.FirstPath
import AgentOrchestration.GraphRuntime.GraphCompiler
import Mathlib.Logic.Relation

/-!
# What the graph compiler accepts

`GraphCompiler.compile` searches a snapshot in the order of its node ids. Here its
verdict is said without the searches:
-/

namespace AgentOrchestration

set_option autoImplicit false

open DepthFirst (IsFirstPath)

/-! ## Edges -/

variable (edge : SnapshotEdge)

def SnapshotEdge.kind : Option EdgeKind := EdgeKind.ofName (edge.edgeKind.getD "NORMAL")

def SnapshotEdge.Compiles : Prop :=
  (∃ items, edge.compiledCondition = some (.list items)) ∧ ∃ kind, edge.kind = some kind

namespace GraphSnapshot

variable (snapshot : GraphSnapshot)

def start : String := snapshot.startNode.getD ""

def Leads (u v : String) : Prop := ∃ edge ∈ snapshot.edges, edge.fromNode = u ∧ edge.toNode = v

/-- What is checked whatever the order of the node ids. -/
structure WellFormed (snapshot : GraphSnapshot) : Prop where
  named : snapshot.start ≠ ""
  known : snapshot.start ∈ snapshot.nodes.map Prod.fst
  nonempty : snapshot.edges ≠ []
  terminal : GraphCompiler.terminalNodes snapshot.nodes ≠ []
  compiles : ∀ edge ∈ snapshot.edges, edge.Compiles
  reached : ∀ nodeId, nodeId ∈ snapshot.nodes.map Prod.fst ↔
    Relation.ReflTransGen snapshot.Leads snapshot.start nodeId

/-- No normal edge leads back onto the alphabetically first path to its source. -/
def Forward : Prop :=
  ∀ edge ∈ snapshot.edges, edge.kind = some .normal → ∀ path,
    IsFirstPath snapshot.Leads snapshot.start edge.fromNode path → edge.toNode ∉ path

end GraphSnapshot

namespace GraphCompiler

variable {edges : List SnapshotEdge}

theorem mem_sortEdges {edge} : edge ∈ sortEdges edges ↔ edge ∈ edges := List.mem_insertionSort _

theorem compileEdge_ok_iff (order : ℕ) {edge out} : compileEdge order edge = .ok out ↔
      ∃ items kind, edge.compiledCondition = some (.list items) ∧ edge.kind = some kind ∧
        out = { fromNode := edge.fromNode, toNode := edge.toNode, edgeKind := kind
                compiledCondition := items, order } := by
  unfold compileEdge SnapshotEdge.kind
  cases edge.compiledCondition with
  | none => simp
  | some val =>
    cases kind : EdgeKind.ofName (edge.edgeKind.getD "NORMAL") with
    | none => cases val <;> simp
    | some kind => cases val <;> simp [eq_comm]

theorem compileEdges_isOk_iff (edges : List SnapshotEdge) :
    ∀ order, (∃ out, compileEdges order edges = .ok out) ↔ ∀ edge ∈ edges, edge.Compiles := by
  induction edges with
  | nil => simp [compileEdges]
  | cons edge rest ih =>
    intro order
    rw [List.forall_mem_cons, ← ih (order + 1), compileEdges]
    cases first : compileEdge order edge with
    | error err =>
      simp only [reduceCtorEq, exists_false, false_iff, not_and]
      rintro ⟨⟨items, list⟩, kind, valid⟩
      have passes := (compileEdge_ok_iff order).mpr ⟨items, kind, list, valid, rfl⟩
      rw [first] at passes
      cases passes
    | ok out =>
      obtain ⟨items, kind, list, valid, -⟩ := (compileEdge_ok_iff order).mp first
      have compiles : edge.Compiles := ⟨⟨items, list⟩, kind, valid⟩
      dsimp only
      cases compileEdges (order + 1) rest with
      | error err => simp
      | ok others => simp [compiles]

theorem arcs_compileEdges : ∀ (order : ℕ) {out}, compileEdges order edges = .ok out →
      (out.map fun edge => (edge.fromNode, edge.toNode, some edge.edgeKind)) =
        edges.map fun edge => (edge.fromNode, edge.toNode, edge.kind) := by
  induction edges with
  | nil =>
    intro order out res
    cases res
    rfl
  | cons edge rest ih =>
    intro order out res
    rw [compileEdges] at res
    split at res
    · cases res
    · rename_i compiledEdge first
      split at res
      · cases res
      · rename_i others later
        cases res
        obtain ⟨items, kind, -, valid, rfl⟩ := (compileEdge_ok_iff order).mp first
        rw [List.map_cons, List.map_cons, ih (order + 1) later, valid]

/-! ## Successors -/

section

variable {snapshot : GraphSnapshot} {out : List CompiledEdge}
  (compiled : compileEdges 0 (sortEdges snapshot.edges) = .ok out)

include compiled

variable (nodeId : String)

theorem successors_compiled : successors (adjacencyOf out) nodeId =
      ((sortEdges snapshot.edges).filter fun edge => edge.fromNode = nodeId).map
        fun edge => (edge.toNode, decide (edge.kind = some .loop)) := by
  have plan : successors (adjacencyOf out) nodeId =
      ((out.map fun edge => (edge.fromNode, edge.toNode, some edge.edgeKind)).filter
        fun arc => arc.1 = nodeId).map fun arc => (arc.2.1, decide (arc.2.2 = some .loop)) := by
    rw [successors, edgesFrom_adjacency, List.filter_map, List.map_map]
    simp [Function.comp_def]
  rw [plan, arcs_compileEdges 0 compiled, List.filter_map, List.map_map]
  rfl

theorem mem_successors_compiled {nodeId next} : next ∈ successors (adjacencyOf out) nodeId ↔
      ∃ edge ∈ snapshot.edges, edge.fromNode = nodeId ∧ edge.toNode = next.1 ∧
        decide (edge.kind = some .loop) = next.2 := by
  rw [successors_compiled compiled]
  simp only [List.mem_map, List.mem_filter, mem_sortEdges, decide_eq_true_eq,
    Prod.ext_iff, and_assoc]

theorem pairwise_successors_compiled :
    (DepthFirst.targets (successors (adjacencyOf out)) nodeId).Pairwise (· ≤ ·) := by
  rw [DepthFirst.targets, successors_compiled compiled, List.map_map, List.pairwise_map]
  have sorted := List.pairwise_insertionSort
    (fun first second => sortKey first ≤ sortKey second) snapshot.edges
  refine List.Pairwise.imp_of_mem ?_ (sorted.filter _)
  intro first second firstMember secondMember ordered
  have firstSource : first.fromNode = nodeId := by simpa using (List.mem_filter.mp firstMember).2
  have secondSource : second.fromNode = nodeId := by
    simpa using (List.mem_filter.mp secondMember).2
  -- with equal sources the targets decide
  have targets : toLex (first.toNode, first.condition.getD "")
      ≤ toLex (second.toNode, second.condition.getD "") := by
    rcases Prod.Lex.toLex_le_toLex.mp ordered with lower | ⟨-, targets⟩
    · rw [firstSource, secondSource] at lower
      exact absurd lower (lt_irrefl _)
    · exact targets
  rcases Prod.Lex.toLex_le_toLex.mp targets with lower | ⟨eq, -⟩
  · exact lower.le
  · exact eq.le

theorem edge_compiled : DepthFirst.Edge (successors (adjacencyOf out)) = snapshot.Leads := by
  funext u v
  rw [DepthFirst.Edge, DepthFirst.targets, List.mem_map]
  simp only [mem_successors_compiled compiled, GraphSnapshot.Leads, eq_iff_iff]
  constructor
  · rintro ⟨next, ⟨edge, member, source, target, -⟩, rfl⟩
    exact ⟨edge, member, source, target⟩
  · rintro ⟨edge, member, source, target⟩
    exact ⟨(v, decide (edge.kind = some .loop)), ⟨edge, member, source, target, rfl⟩, rfl⟩

theorem validateReachability_compiled_iff (startNode : String) :
    validateReachability (out.length + 2) startNode (adjacencyOf out)
      (snapshot.nodes.map Prod.fst) = .ok () ↔
      ∀ nodeId, nodeId ∈ snapshot.nodes.map Prod.fst ↔
        Relation.ReflTransGen snapshot.Leads startNode nodeId := by
  obtain ⟨visited, explored⟩ := explore_ends startNode out
  obtain ⟨closed, started⟩ := DepthFirst.explore_closed explored
  have edge (u v : String) :
      v ∈ DepthFirst.targets (successors (adjacencyOf out)) u ↔ snapshot.Leads u v := by
    rw [← edge_compiled compiled]
    rfl
  have reached (nodeId : String) :
      nodeId ∈ visited ↔ Relation.ReflTransGen snapshot.Leads startNode nodeId := by
    constructor
    · refine DepthFirst.explore_subset
        (C := Relation.ReflTransGen snapshot.Leads startNode) ?_ _ _ []
        visited explored .refl (by simp) nodeId
      exact fun u isIn v next => isIn.tail ((edge u v).mp next)
    · intro path
      induction path with
      | refl => exact started
      | tail _ step ih => exact closed _ ih _ ((edge _ _).mpr step)
  rw [validateReachability_ok_iff, explored]
  simp only [Option.some.injEq, exists_eq_left']
  constructor
  · rintro ⟨known, only⟩ nodeId
    rw [← reached]
    exact ⟨fun mem => known mem, fun mem => only mem⟩
  · intro eq
    exact ⟨fun nodeId mem => (reached nodeId).mpr ((eq nodeId).mp mem),
      fun nodeId mem => (eq nodeId).mpr ((reached nodeId).mp mem)⟩

theorem validateLoops_compiled_iff (compiles : ∀ edge ∈ snapshot.edges, edge.Compiles) :
    validateLoops (out.length + 2) snapshot.start (adjacencyOf out) = .ok () ↔
      snapshot.Forward := by
  rw [validateLoops_ok_iff, DepthFirst.check_ok_iff (pairwise_successors_compiled compiled)
    (check_ends snapshot.start out), edge_compiled compiled]
  constructor
  · intro clean edge member normal path first
    refine clean edge.fromNode path first (edge.toNode, false) ?_ rfl
    exact (mem_successors_compiled compiled).mpr ⟨edge, member, rfl, rfl, by simp [normal]⟩
  · intro forward t path first next member unmarked
    obtain ⟨edge, inside, rfl, target, loop⟩ := (mem_successors_compiled compiled).mp member
    rw [← target]
    refine forward edge inside ?_ path first
    obtain ⟨-, kind, valid⟩ := compiles edge inside
    rw [unmarked, decide_eq_false_iff_not, valid] at loop
    cases kind with
    | normal => exact valid
    | loop => exact absurd rfl loop

end

/-! ## The verdict -/

theorem startNodeOf_eq_some_iff {snap startNode} : startNodeOf snap = some startNode ↔
      snap.start ≠ "" ∧ snap.start ∈ snap.nodes.map Prod.fst ∧ startNode = snap.start := by
  unfold startNodeOf GraphSnapshot.start
  cases snap.startNode with
  | none => simp
  | some found =>
    simp only [Option.filter_eq_some_iff, Option.some.injEq, Option.getD_some, decide_eq_true_eq]
    constructor
    · rintro ⟨rfl, named, known⟩
      exact ⟨named, known, rfl⟩
    · rintro ⟨named, known, rfl⟩
      exact ⟨rfl, named, known⟩

/-- **A snapshot has a plan exactly when it is well formed and forward.** -/
theorem accepts_iff (snap : GraphSnapshot) :
    (∃ plan, compile snap = .ok plan) ↔ snap.WellFormed ∧ snap.Forward := by
  constructor
  · rintro ⟨plan, accepted⟩
    obtain ⟨out, startNode, passed, -⟩ := compile_ok_iff.mp accepted
    obtain ⟨named, known, rfl⟩ := startNodeOf_eq_some_iff.mp passed.start
    have compiles : ∀ edge ∈ snap.edges, edge.Compiles := by
      intro edge mem
      exact (compileEdges_isOk_iff _ 0).mp ⟨out, passed.compiled⟩ edge (mem_sortEdges.mpr mem)
    exact ⟨⟨named, known, passed.nonempty, passed.terminal, compiles,
      (validateReachability_compiled_iff passed.compiled _).mp passed.reachable⟩,
      (validateLoops_compiled_iff passed.compiled compiles).mp passed.loops⟩
  · rintro ⟨wf, forward⟩
    obtain ⟨out, compiled⟩ := (compileEdges_isOk_iff (sortEdges snap.edges) 0).mpr
      fun edge mem => wf.compiles edge (mem_sortEdges.mp mem)
    refine ⟨_, compile_ok_iff.mpr ⟨out, snap.start, ?_, rfl⟩⟩
    exact ⟨startNodeOf_eq_some_iff.mpr ⟨wf.named, wf.known, rfl⟩, wf.nonempty,
      wf.terminal, compiled, (validateReachability_compiled_iff compiled _).mpr wf.reached,
      (validateLoops_compiled_iff compiled wf.compiles).mpr forward⟩

end GraphCompiler

end AgentOrchestration
