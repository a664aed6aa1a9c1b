import AgentOrchestration.Library.PathOrder
import AgentOrchestration.GraphRuntime.AcceptedSnapshots
import Mathlib.Data.List.Perm.Basic

/-!
# The verdict on a graph and the names of its nodes

The compiler sorts edges by node id before it searches a graph for unmarked cycles, so
its verdict may change when the nodes get other ids.
-/

namespace AgentOrchestration

set_option autoImplicit false

open DepthFirst (SimplePath IsFirstPath FirstBy Image lineName)
open GraphCompiler (compile)

/-! ## Renaming -/

def SnapshotEdge.rename (names : String → String) (edge : SnapshotEdge) : SnapshotEdge :=
  { edge with fromNode := names edge.fromNode, toNode := names edge.toNode }

namespace GraphSnapshot

variable (snapshot : GraphSnapshot)

def ids : List String :=
  snapshot.startNode.toList ++ snapshot.nodes.map Prod.fst ++
    snapshot.edges.flatMap fun edge => [edge.fromNode, edge.toNode]

structure Renamed (names : String → String) (snapshot renamed : GraphSnapshot) : Prop where
  startNode : renamed.startNode = snapshot.startNode.map names
  nodes : renamed.nodes = snapshot.nodes.map fun entry => (names entry.1, entry.2)
  edges : renamed.edges.Perm (snapshot.edges.map (SnapshotEdge.rename names))

/-- The renaming is injective. The compiler takes the empty name of a start node for a missing one,
so the start node neither gets nor loses it. -/
structure Renames (names : String → String) (snapshot : GraphSnapshot) : Prop where
  injOn : Set.InjOn names {nodeId | nodeId ∈ snapshot.ids}
  named : ∀ startNode ∈ snapshot.startNode, names startNode = "" ↔ startNode = ""

/-- The verdict does not depend on the names of the nodes and the order of the edges. -/
def NameIndependent : Prop :=
  ∀ names renamed, Renames names snapshot → Renamed names snapshot renamed →
    ((∃ plan, compile renamed = .ok plan) ↔ ∃ plan, compile snapshot = .ok plan)

def UnmarkedReturn : Prop :=
  ∃ edge ∈ snapshot.edges, edge.kind = some .normal ∧
    ∃ path, SimplePath snapshot.Leads [] snapshot.start edge.fromNode path ∧ edge.toNode ∈ path

def ForwardBy {β : Type} [LinearOrder β] (rank : String → β) (snapshot : GraphSnapshot) : Prop :=
  ∀ edge ∈ snapshot.edges, edge.kind = some .normal → ∀ path,
    FirstBy rank snapshot.Leads snapshot.start edge.fromNode path → edge.toNode ∉ path

/-! ## Ids -/

section

variable {snapshot : GraphSnapshot}

theorem key_mem_ids {nodeId} (mem : nodeId ∈ snapshot.nodes.map Prod.fst) :
    nodeId ∈ snapshot.ids := by
  simp only [ids, List.mem_append]
  exact .inl (.inr mem)

theorem start_mem_ids {startNode} (found : startNode ∈ snapshot.startNode) :
    startNode ∈ snapshot.ids := by
  simp only [ids, List.mem_append, Option.mem_toList]
  exact .inl (.inl found)

variable {edge : SnapshotEdge}

theorem from_mem_ids (member : edge ∈ snapshot.edges) : edge.fromNode ∈ snapshot.ids := by
  simp only [ids, List.mem_append, List.mem_flatMap]
  exact .inr ⟨edge, member, by simp⟩

theorem to_mem_ids (member : edge ∈ snapshot.edges) : edge.toNode ∈ snapshot.ids := by
  simp only [ids, List.mem_append, List.mem_flatMap]
  exact .inr ⟨edge, member, by simp⟩

theorem ids_closed (u : String) (_ : u ∈ {nodeId | nodeId ∈ snapshot.ids}) (v : String)
    (leads : snapshot.Leads u v) : v ∈ {nodeId | nodeId ∈ snapshot.ids} := by
  obtain ⟨edge, member, -, rfl⟩ := leads
  exact to_mem_ids member

theorem startNode_of_named (named : snapshot.start ≠ "") : snapshot.startNode =
    some snapshot.start := by
  unfold start at named ⊢
  cases found : snapshot.startNode with
  | none => simp [found] at named
  | some startNode => rfl

end

/-! ## Renamed edges and paths -/

section

variable {snapshot renamed : GraphSnapshot} {names : String → String}

variable (copied : Renamed names snapshot renamed)

include copied

theorem Renamed.mem_edges {edge} :
    edge ∈ renamed.edges ↔ ∃ old ∈ snapshot.edges, old.rename names = edge := by
  rw [copied.edges.mem_iff, List.mem_map]

theorem Renamed.image (injOn : Set.InjOn names {nodeId | nodeId ∈ snapshot.ids}) :
    Image {nodeId | nodeId ∈ snapshot.ids} names snapshot.Leads renamed.Leads where
  injOn := injOn
  closed := ids_closed
  edge u inside v' := by
    constructor
    · rintro ⟨edge, member, source, rfl⟩
      obtain ⟨old, known, rfl⟩ := copied.mem_edges.mp member
      exact ⟨old.toNode, ⟨old, known, injOn (from_mem_ids known) inside source, rfl⟩, rfl⟩
    · rintro ⟨v, ⟨old, known, rfl, rfl⟩, rfl⟩
      exact ⟨old.rename names, copied.mem_edges.mpr ⟨old, known, rfl⟩, rfl, rfl⟩

theorem Renamed.start {startNode}
    (found : snapshot.startNode = some startNode) : renamed.start = names startNode := by
  rw [GraphSnapshot.start, copied.startNode, found]
  rfl

theorem Renamed.forward_iff (injOn : Set.InjOn names {nodeId | nodeId ∈ snapshot.ids}) {startNode}
    (found : snapshot.startNode = some startNode) :
    renamed.Forward ↔ snapshot.ForwardBy names := by
  have image := copied.image injOn
  have starts : snapshot.start = startNode := by rw [GraphSnapshot.start, found, Option.getD_some]
  have isIn : startNode ∈ snapshot.ids := start_mem_ids found
  constructor
  · intro forward edge member normal path first returns
    rw [starts] at first
    refine forward (edge.rename names) (copied.mem_edges.mpr ⟨edge, member, rfl⟩) normal
      (path.map names)
      ?_ (List.mem_map_of_mem returns)
    rw [copied.start found]
    exact (DepthFirst.isFirstPath_image_iff image isIn (from_mem_ids member)).mpr ⟨path, rfl, first⟩
  · intro forward edge member normal path' first
    obtain ⟨old, known, rfl⟩ := copied.mem_edges.mp member
    rw [copied.start found] at first
    obtain ⟨path, rfl, earliest⟩ :=
      (DepthFirst.isFirstPath_image_iff image isIn (from_mem_ids known)).mp first
    refine (DepthFirst.notMem_map_of_injOn injOn (to_mem_ids known)
      (earliest.1.mem_of_closed_set ids_closed isIn)).mpr ?_
    rw [← starts] at earliest
    exact forward old known normal path earliest

end

/-! ## Well-formedness -/

section

variable {snapshot renamed : GraphSnapshot} {names : String → String} {nodeId' : String}

/-! ## Back again -/

variable (copied : Renamed names snapshot renamed)

include copied

theorem Renamed.keys : renamed.nodes.map Prod.fst = (snapshot.nodes.map Prod.fst).map names := by
  rw [copied.nodes, List.map_map, List.map_map]
  rfl

theorem Renamed.terminalNodes : GraphCompiler.terminalNodes renamed.nodes
      = (GraphCompiler.terminalNodes snapshot.nodes).map names := by
  rw [GraphCompiler.terminalNodes, GraphCompiler.terminalNodes, copied.nodes, List.filter_map,
    List.map_map, List.map_map]
  rfl

theorem Renamed.reached_iff (injOn : Set.InjOn names {nodeId | nodeId ∈ snapshot.ids}) {startNode}
    (inside : startNode ∈ snapshot.ids) :
    Relation.ReflTransGen renamed.Leads (names startNode) nodeId' ↔
      ∃ nodeId ∈ snapshot.ids, Relation.ReflTransGen snapshot.Leads startNode nodeId ∧
        names nodeId = nodeId' := by
  have image := copied.image injOn
  constructor
  · intro path
    induction path with
    | refl => exact ⟨startNode, inside, .refl, rfl⟩
    | tail _ step ih =>
      obtain ⟨u, known, path, rfl⟩ := ih
      obtain ⟨v, leads, rfl⟩ := (image.edge u known _).mp step
      exact ⟨v, ids_closed u known v leads, path.tail leads, rfl⟩
  · rintro ⟨nodeId, -, path, rfl⟩
    induction path with
    | refl => exact .refl
    | @tail u v path step ih =>
      obtain ⟨edge, member, rfl, rfl⟩ := step
      exact ih.tail ⟨edge.rename names, copied.mem_edges.mpr ⟨edge, member, rfl⟩, rfl, rfl⟩

theorem WellFormed.of_renames (wf : snapshot.WellFormed) (renames : Renames names snapshot) :
    renamed.WellFormed := by
  have found := startNode_of_named wf.named
  have isIn : snapshot.start ∈ snapshot.ids := start_mem_ids found
  have starts := copied.start found
  constructor
  · rw [starts]
    exact fun empty => wf.named ((renames.named _ found).mp empty)
  · rw [starts, copied.keys]
    exact List.mem_map_of_mem wf.known
  · intro none
    have empty := copied.edges
    rw [none] at empty
    exact wf.nonempty (List.map_eq_nil_iff.mp empty.symm.eq_nil)
  · rw [copied.terminalNodes]
    exact fun none => wf.terminal (List.map_eq_nil_iff.mp none)
  · intro edge mem
    obtain ⟨old, known, rfl⟩ := copied.mem_edges.mp mem
    exact wf.compiles old known
  · intro nodeId'
    rw [starts, copied.keys, copied.reached_iff renames.injOn isIn, List.mem_map]
    constructor
    · rintro ⟨nodeId, known, rfl⟩
      exact ⟨nodeId, key_mem_ids known, (wf.reached nodeId).mp known, rfl⟩
    · rintro ⟨nodeId, -, path, rfl⟩
      exact ⟨nodeId, (wf.reached nodeId).mpr path, rfl⟩

theorem Renamed.mem_ids : nodeId' ∈ renamed.ids ↔ ∃ nodeId ∈ snapshot.ids,
    names nodeId = nodeId' := by
  have start : nodeId' ∈ renamed.startNode.toList ↔
      ∃ nodeId ∈ snapshot.startNode.toList, names nodeId = nodeId' := by
    rw [copied.startNode]
    cases snapshot.startNode <;> simp [eq_comm]
  have edges : (nodeId' ∈ renamed.edges.flatMap fun edge => [edge.fromNode, edge.toNode]) ↔
      ∃ nodeId ∈ snapshot.edges.flatMap fun edge => [edge.fromNode, edge.toNode],
        names nodeId = nodeId' := by
    simp only [List.mem_flatMap, copied.mem_edges]
    constructor
    · rintro ⟨_, ⟨old, known, rfl⟩, mem⟩
      rcases List.mem_pair.mp mem with rfl | rfl
      · exact ⟨old.fromNode, ⟨old, known, by simp⟩, rfl⟩
      · exact ⟨old.toNode, ⟨old, known, by simp⟩, rfl⟩
    · rintro ⟨nodeId, ⟨old, known, mem⟩, rfl⟩
      refine ⟨old.rename names, ⟨old, known, rfl⟩, ?_⟩
      rcases List.mem_pair.mp mem with rfl | rfl
      · exact List.mem_cons_self
      · exact List.mem_cons_of_mem _ List.mem_cons_self
  simp only [ids, List.mem_append, start, copied.keys, List.mem_map, edges]
  constructor
  · rintro ((⟨nodeId, known, rfl⟩ | ⟨nodeId, known, rfl⟩) | ⟨nodeId, known, rfl⟩)
    · exact ⟨nodeId, .inl (.inl known), rfl⟩
    · exact ⟨nodeId, .inl (.inr known), rfl⟩
    · exact ⟨nodeId, .inr known, rfl⟩
  · rintro ⟨nodeId, (known | known) | known, rfl⟩
    · exact .inl (.inl ⟨nodeId, known, rfl⟩)
    · exact .inl (.inr ⟨nodeId, known, rfl⟩)
    · exact .inr ⟨nodeId, known, rfl⟩

theorem Renamed.symm (renames : Renames names snapshot) :
    ∃ back, Renames back renamed ∧ Renamed back renamed snapshot := by
  have left : ∀ nodeId ∈ snapshot.ids,
      Function.invFunOn names {nodeId | nodeId ∈ snapshot.ids} (names nodeId) = nodeId :=
    fun nodeId known => renames.injOn.leftInvOn_invFunOn known
  refine ⟨Function.invFunOn names {nodeId | nodeId ∈ snapshot.ids}, ⟨?_, ?_⟩, ?_, ?_, ?_⟩
  · intro first firstIn second secondIn eq
    obtain ⟨x, xIn, rfl⟩ := copied.mem_ids.mp firstIn
    obtain ⟨y, yIn, rfl⟩ := copied.mem_ids.mp secondIn
    rw [left x xIn, left y yIn] at eq
    rw [eq]
  · intro startNode found
    rw [copied.startNode] at found
    obtain ⟨old, known, rfl⟩ := Option.map_eq_some_iff.mp found
    rw [left old (start_mem_ids known)]
    exact (renames.named old known).symm
  · rw [copied.startNode]
    cases found : snapshot.startNode with
    | none => rfl
    | some startNode => simp [left startNode (start_mem_ids found)]
  · rw [copied.nodes, List.map_map]
    refine (List.map_id _).symm.trans (List.map_congr_left fun entry mem => ?_)
    exact Prod.ext (left entry.1 (key_mem_ids (List.mem_map_of_mem mem))).symm rfl
  · refine List.Perm.symm ((copied.edges.map _).trans (List.Perm.of_eq ?_))
    rw [List.map_map]
    refine (List.map_congr_left fun edge mem => ?_).trans (List.map_id _)
    simp [SnapshotEdge.rename, left _ (from_mem_ids mem), left _ (to_mem_ids mem)]

theorem wellFormed_renamed_iff (renames : Renames names snapshot) :
    renamed.WellFormed ↔ snapshot.WellFormed := by
  obtain ⟨back, undoes, copiedBack⟩ := copied.symm renames
  exact ⟨fun wf => wf.of_renames copiedBack undoes, fun wf => wf.of_renames copied renames⟩

theorem accepts_renamed_iff (renames : Renames names snapshot) :
    (∃ plan, compile renamed = .ok plan) ↔ snapshot.WellFormed ∧ snapshot.ForwardBy names := by
  rw [GraphCompiler.accepts_iff, wellFormed_renamed_iff copied renames]
  refine and_congr_right fun wf => ?_
  exact copied.forward_iff renames.injOn (startNode_of_named wf.named)

end

/-! ## Orders of the nodes -/

section

variable {snapshot : GraphSnapshot} {β γ : Type} [LinearOrder β] [LinearOrder γ] {rank : String → β}

theorem forwardBy_congr {rank' : String → γ} (wf : snapshot.WellFormed)
    (eq : ∀ u ∈ snapshot.ids, ∀ v ∈ snapshot.ids, rank u < rank v ↔ rank' u < rank' v) :
    snapshot.ForwardBy rank ↔ snapshot.ForwardBy rank' := by
  have isIn : snapshot.start ∈ snapshot.ids := key_mem_ids wf.known
  refine forall₂_congr fun edge _ => imp_congr_right fun _ => forall_congr' fun path => ?_
  rw [DepthFirst.firstBy_congr (S := {nodeId | nodeId ∈ snapshot.ids}) eq ids_closed isIn]

theorem forward_iff_forwardBy : snapshot.Forward ↔ snapshot.ForwardBy (id : String → String) := by
  simp only [Forward, ForwardBy, FirstBy, IsFirstPath, List.map_id]

theorem forwardBy_of_not_unmarkedReturn (none : ¬ snapshot.UnmarkedReturn) (rank : String → β) :
    snapshot.ForwardBy rank :=
  fun edge member normal path first returns => none ⟨edge, member, normal, path, first.1, returns⟩

theorem exists_not_forwardBy (wf : snapshot.WellFormed) (returns : snapshot.UnmarkedReturn) :
    ∃ rank : String → ℕ, Set.InjOn rank {nodeId | nodeId ∈ snapshot.ids} ∧
      ¬ snapshot.ForwardBy rank := by
  obtain ⟨edge, member, normal, path, simple, back⟩ := returns
  refine ⟨fun nodeId => (path ++ snapshot.ids).idxOf nodeId, ?_, fun forward => ?_⟩
  · intro first firstIn second _ eq
    exact (List.idxOf_inj (List.mem_append_right _ firstIn)).mp eq
  · exact forward edge member normal path
      (DepthFirst.firstBy_idxOf (S := {nodeId | nodeId ∈ snapshot.ids}) ids_closed simple
        (key_mem_ids wf.known) snapshot.ids) back

theorem exists_rank_of_forwardBy (wellFormed : snapshot.WellFormed)
    (injOn : Set.InjOn rank {nodeId | nodeId ∈ snapshot.ids}) (forward : snapshot.ForwardBy rank) :
    ∃ number : String → ℕ, Set.InjOn number {nodeId | nodeId ∈ snapshot.ids} ∧
      snapshot.ForwardBy number := by
  obtain ⟨number, ordered⟩ := DepthFirst.exists_rank snapshot.ids.toFinset rank
  have same : ∀ u ∈ snapshot.ids, ∀ v ∈ snapshot.ids, number u < number v ↔ rank u < rank v :=
    fun u uIn v vIn => ordered u (List.mem_toFinset.mpr uIn) v (List.mem_toFinset.mpr vIn)
  refine ⟨number, fun u uIn v vIn equal => injOn uIn vIn ?_,
    (forwardBy_congr wellFormed same).mpr forward⟩
  refine le_antisymm (not_lt.mp ?_) (not_lt.mp ?_)
  · rw [← same v vIn u uIn, equal]
    exact lt_irrefl _
  · rw [← same u uIn v vIn, equal]
    exact lt_irrefl _

def rename (names : String → String) (snapshot : GraphSnapshot) : GraphSnapshot :=
  { startNode := snapshot.startNode.map names
    nodes := snapshot.nodes.map fun entry => (names entry.1, entry.2)
    edges := snapshot.edges.map (SnapshotEdge.rename names) }

theorem renamed_rename (names : String → String) (snap : GraphSnapshot) :
    Renamed names snap (snap.rename names) :=
  ⟨rfl, rfl, List.Perm.refl _⟩

theorem accepts_ranked_iff (wf : snapshot.WellFormed) {rank : String → ℕ}
    (injOn : Set.InjOn rank {nodeId | nodeId ∈ snapshot.ids}) :
    Renames (fun nodeId => lineName (rank nodeId)) snapshot ∧
      ((∃ plan, compile (snapshot.rename fun nodeId => lineName (rank nodeId)) = .ok plan) ↔
        snapshot.ForwardBy rank) := by
  have renames : Renames (fun nodeId => lineName (rank nodeId)) snapshot := by
    refine ⟨fun u uIn v vIn eq => injOn uIn vIn ?_, fun startNode found => ?_⟩
    · refine le_antisymm (not_lt.mp fun less => ?_) (not_lt.mp fun less => ?_)
      · exact absurd eq (DepthFirst.lineName_lt_iff.mpr less).ne'
      · exact absurd eq (DepthFirst.lineName_lt_iff.mpr less).ne
    · refine iff_of_false (DepthFirst.lineName_ne_empty _) fun empty => wf.named ?_
      rw [start, Option.mem_def.mp found, Option.getD_some, empty]
  refine ⟨renames, ?_⟩
  rw [accepts_renamed_iff (renamed_rename _ snapshot) renames]
  have ordered : snapshot.ForwardBy (fun nodeId => lineName (rank nodeId)) ↔
      snapshot.ForwardBy rank :=
    forwardBy_congr wf fun _ _ _ _ => DepthFirst.lineName_lt_iff
  rw [ordered]
  exact and_iff_right wf

end

end GraphSnapshot

/-- **The verdict on a snapshot does not depend on its node ids and the order of its edges exactly
when it fails a check that no name matters to, or no simple path from its start ends in a normal
edge back to one of its nodes, or in every order of its nodes some normal edge leads back onto the
first path to its source.** -/
theorem nameIndependent_iff (snapshot : GraphSnapshot) : snapshot.NameIndependent ↔
      (snapshot.WellFormed → snapshot.UnmarkedReturn →
        ∀ rank : String → ℕ, Set.InjOn rank {nodeId | nodeId ∈ snapshot.ids} →
          ¬ snapshot.ForwardBy rank) := by
  constructor
  · intro independent wellFormed returns rank injOn forward
    obtain ⟨other, otherInjOn, blocked⟩ := GraphSnapshot.exists_not_forwardBy wellFormed returns
    obtain ⟨renames, accepted⟩ := GraphSnapshot.accepts_ranked_iff wellFormed injOn
    obtain ⟨renames', refused⟩ := GraphSnapshot.accepts_ranked_iff wellFormed otherInjOn
    have here := independent _ _ renames (GraphSnapshot.renamed_rename _ snapshot)
    have there := independent _ _ renames' (GraphSnapshot.renamed_rename _ snapshot)
    exact blocked (refused.mp (there.mpr (here.mp (accepted.mpr forward))))
  · intro condition names renamed renames copied
    rw [GraphSnapshot.accepts_renamed_iff copied renames, GraphCompiler.accepts_iff]
    refine and_congr_right fun wellFormed => ?_
    rw [GraphSnapshot.forward_iff_forwardBy]
    by_cases returns : snapshot.UnmarkedReturn
    · refine iff_of_false (fun forward => ?_) fun forward => ?_
      · obtain ⟨rank, injOn, numbered⟩ :=
          GraphSnapshot.exists_rank_of_forwardBy wellFormed renames.injOn forward
        exact condition wellFormed returns rank injOn numbered
      · obtain ⟨rank, injOn, numbered⟩ :=
          GraphSnapshot.exists_rank_of_forwardBy wellFormed (Set.injOn_id _) forward
        exact condition wellFormed returns rank injOn numbered
    · exact iff_of_true (GraphSnapshot.forwardBy_of_not_unmarkedReturn returns _)
        (GraphSnapshot.forwardBy_of_not_unmarkedReturn returns _)

def someCondition : Option Value := some (.list [.int 1, .str "==", .int 1])

/-- A response that is retried: the start leads into the loop and past it, and the way back is
marked. -/
def unmarkedRetry : GraphSnapshot :=
  { startNode := some "start"
    nodes := [("start", ⟨some "IntentClassifier", none⟩), ("a", ⟨some "ToolResolver", none⟩),
      ("b", ⟨some "ResponseBuilder", none⟩)]
    edges := [⟨"start", "a", some "NORMAL", some "x == 1", someCondition⟩,
      ⟨"start", "b", some "NORMAL", some "x == 2", someCondition⟩,
      ⟨"a", "b", some "NORMAL", some "x == 3", someCondition⟩,
      ⟨"b", "a", some "LOOP", some "x == 4", someCondition⟩] }

/-- With the names of its two inner nodes exchanged the accepted graph is refused. -/
theorem exchanged_names_refused : (∃ plan, compile unmarkedRetry = .ok plan) ∧
      compile (unmarkedRetry.rename (Equiv.swap "a" "b")) = .error .cycleNotMarkedLoop ∧
      ¬ unmarkedRetry.NameIndependent := by
  have accepted : ∃ plan, compile unmarkedRetry = .ok plan := by
    have passes : (compile unmarkedRetry).isOk = true := by decide +kernel
    cases verdict : compile unmarkedRetry with
    | ok plan => exact ⟨plan, rfl⟩
    | error error =>
      rw [verdict] at passes
      cases passes
  have refused : compile (unmarkedRetry.rename (Equiv.swap "a" "b")) =
      .error .cycleNotMarkedLoop := by
    decide +kernel
  refine ⟨accepted, refused, fun independent => ?_⟩
  have renames : GraphSnapshot.Renames (Equiv.swap "a" "b") unmarkedRetry := by
    refine ⟨(Equiv.injective _).injOn, ?_⟩
    rintro _ ⟨⟩
    decide
  obtain ⟨plan, accepts⟩ :=
    (independent _ _ renames (GraphSnapshot.renamed_rename _ unmarkedRetry)).mpr accepted
  rw [refused] at accepts
  cases accepts

end AgentOrchestration
