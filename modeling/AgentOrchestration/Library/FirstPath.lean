import AgentOrchestration.Library.DepthFirst
import Mathlib.Data.List.Lex

/-!
# First paths and depth-first search

A depth-first search that takes the successors of a node in ascending order reaches
every node along the lexicographically first of the simple paths to it. So whether
`DepthFirst.check` succeeds can be said without the search.
-/

namespace DepthFirst

set_option autoImplicit false

variable {α : Type}

/-! ## Simple paths -/

/-- A path along edges that enters no node twice and none of the nodes to avoid. -/
inductive SimplePath (E : α → α → Prop) : List α → α → α → List α → Prop where
  | here {avoided : List α} {u : α} (new : u ∉ avoided) : SimplePath E avoided u u [u]
  | step {avoided : List α} {u v t : α} {path : List α} (new : u ∉ avoided) (edge : E u v)
      (rest : SimplePath E (u :: avoided) v t path) : SimplePath E avoided u t (u :: path)

/-- A node can be reached without entering the nodes to avoid. -/
def Reaches (E : α → α → Prop) (avoided : List α) (u t : α) : Prop :=
  ∃ path, SimplePath E avoided u t path

section

variable {E : α → α → Prop} {avoided : List α} {u t : α} {path : List α}

theorem SimplePath.start_notMem (simple : SimplePath E avoided u t path) : u ∉ avoided := by
  cases simple with
  | here new | step new edge rest => exact new

theorem SimplePath.end_notMem (simple : SimplePath E avoided u t path) : t ∉ avoided := by
  induction simple with
  | here new => exact new
  | step new edge rest ih => exact fun mem => ih (List.mem_cons_of_mem _ mem)

theorem SimplePath.eq_cons (simple : SimplePath E avoided u t path) : ∃ rest, path = u :: rest := by
  cases simple with
  | here new => exact ⟨[], rfl⟩
  | step new edge rest => exact ⟨_, rfl⟩

/-- A simple path to another node leaves along an edge and does not come back. -/
theorem simplePath_iff (new : u ∉ avoided) (other : t ≠ u) : SimplePath E avoided u t path ↔
      ∃ v rest, E u v ∧ SimplePath E (u :: avoided) v t rest ∧ path = u :: rest := by
  constructor
  · intro simple
    cases simple with
    | here new => exact absurd rfl other
    | step new edge rest => exact ⟨_, _, edge, rest, rfl⟩
  · rintro ⟨v, rest, edge, simple, rfl⟩
    exact .step new edge simple

theorem simplePath_self_iff {u : α} (new : u ∉ avoided) : SimplePath E avoided u u path ↔
    path = [u] := by
  constructor
  · intro simple
    cases simple with
    | here new => rfl
    | step new edge rest => exact absurd List.mem_cons_self rest.end_notMem
  · rintro rfl
    exact .here new

/-- What can be reached from a node is the node and what its successors reach without it. -/
theorem reaches_iff (new : u ∉ avoided) :
    Reaches E avoided u t ↔ t = u ∨ ∃ v, E u v ∧ Reaches E (u :: avoided) v t := by
  by_cases eq : t = u
  · subst eq
    simp only [true_or, iff_true]
    exact ⟨[t], .here new⟩
  · simp only [eq, false_or]
    constructor
    · rintro ⟨path, simple⟩
      obtain ⟨v, rest, edge, inner, -⟩ := (simplePath_iff new eq).mp simple
      exact ⟨v, edge, rest, inner⟩
    · rintro ⟨v, edge, rest, inner⟩
      exact ⟨u :: rest, .step new edge inner⟩

/-- A set that edges leave only into nodes to avoid is not left by a path. -/
theorem SimplePath.mem_of_closed {C A : List α} (closed : ∀ u ∈ C, ∀ v, E u v → v ∈ C ∨ v ∈ A)
    (simple : SimplePath E avoided u t path) (wide : A ⊆ avoided) (isIn : u ∈ C) : t ∈ C := by
  induction simple with
  | here new => exact isIn
  | @step before u v t path new edge rest ih =>
    have wider : A ⊆ u :: before := List.subset_cons_of_subset u wide
    rcases closed _ isIn _ edge with stays | leaves
    · exact ih wider stays
    · exact absurd (wider leaves) rest.start_notMem

end

/-! ## The first path -/

section

variable [LinearOrder α] {E : α → α → Prop}

theorem cons_le_cons_iff {u v : α} {first second : List α} :
    u :: first ≤ v :: second ↔ u < v ∨ u = v ∧ first ≤ second := by
  rw [le_iff_lt_or_eq, le_iff_lt_or_eq, List.cons_lt_cons_iff, List.cons.injEq]
  tauto

/-- The first of the simple paths to a node that start in one of several nodes. -/
def FirstFrom (E : α → α → Prop) (avoided starts : List α) (t : α) (path : List α) : Prop :=
  (∃ u ∈ starts, SimplePath E avoided u t path) ∧
    ∀ u ∈ starts, ∀ other, SimplePath E avoided u t other → path ≤ other

/-- The lexicographically first of the simple paths from one node to another. -/
def IsFirstPath (E : α → α → Prop) (u t : α) (path : List α) : Prop :=
  SimplePath E [] u t path ∧ ∀ other, SimplePath E [] u t other → path ≤ other

variable {u t : α} {path : List α}

theorem firstFrom_singleton : FirstFrom E [] [u] t path ↔ IsFirstPath E u t path := by
  simp only [FirstFrom, IsFirstPath, List.mem_singleton, exists_eq_left, forall_eq]

theorem firstFrom_self {avoided : List α} {u : α} (new : u ∉ avoided) :
    FirstFrom E avoided [u] u path ↔ path = [u] := by
  simp only [FirstFrom, List.mem_singleton, exists_eq_left, forall_eq, simplePath_self_iff new]
  constructor
  · exact fun first => first.1
  · rintro rfl
    exact ⟨rfl, le_refl _⟩

/-- The first path to another node goes on as the first path from the successors. -/
theorem firstFrom_of_ne {avoided succs : List α} (new : u ∉ avoided) (other : t ≠ u)
    (edges : ∀ v, E u v ↔ v ∈ succs) :
    FirstFrom E avoided [u] t path ↔ ∃ rest, path = u :: rest ∧
      FirstFrom E (u :: avoided) succs t rest := by
  have steps (q : List α) : SimplePath E avoided u t q ↔
      ∃ rest, q = u :: rest ∧ ∃ v ∈ succs, SimplePath E (u :: avoided) v t rest := by
    rw [simplePath_iff new other]
    constructor
    · rintro ⟨v, rest, edge, simple, same⟩
      exact ⟨rest, same, v, (edges v).mp edge, simple⟩
    · rintro ⟨rest, same, v, member, simple⟩
      exact ⟨v, rest, (edges v).mpr member, simple, same⟩
  simp only [FirstFrom, List.mem_singleton, exists_eq_left, forall_eq, steps]
  constructor
  · rintro ⟨⟨rest, rfl, through⟩, least⟩
    refine ⟨rest, rfl, through, fun v member q simple => ?_⟩
    have below := least (u :: q) ⟨q, rfl, v, member, simple⟩
    simpa [cons_le_cons_iff] using below
  · rintro ⟨rest, rfl, through, least⟩
    refine ⟨⟨rest, rfl, through⟩, ?_⟩
    rintro q ⟨tail, rfl, v, member, simple⟩
    rw [cons_le_cons_iff]
    exact .inr ⟨rfl, least v member tail simple⟩

variable {avoided others : List α}

theorem firstFrom_cons_of_reaches (smallest : ∀ v ∈ others, u ≤ v)
    (reaches : Reaches E avoided u t) :
    FirstFrom E avoided (u :: others) t path ↔ FirstFrom E avoided [u] t path := by
  constructor
  · rintro ⟨⟨v, member, simple⟩, least⟩
    obtain ⟨q, fromU⟩ := reaches
    have below := least u List.mem_cons_self q fromU
    have eq : v = u := by
      obtain ⟨tail, rfl⟩ := simple.eq_cons
      obtain ⟨tailQ, rfl⟩ := fromU.eq_cons
      have atMost : v ≤ u := by
        rcases cons_le_cons_iff.mp below with lower | ⟨equal, -⟩
        · exact lower.le
        · exact equal.le
      rcases List.mem_cons.mp member with equal | later
      · exact equal
      · exact le_antisymm atMost (smallest v later)
    subst eq
    exact ⟨⟨v, List.mem_singleton_self v, simple⟩, fun w isIn =>
      least w (List.mem_cons.mpr (.inl (List.mem_singleton.mp isIn)))⟩
  · rintro ⟨⟨v, member, simple⟩, least⟩
    have eq := List.mem_singleton.mp member
    subst eq
    refine ⟨⟨v, List.mem_cons_self, simple⟩, fun w isIn q fromW => ?_⟩
    rcases List.mem_cons.mp isIn with rfl | later
    · exact least w member q fromW
    · rcases (smallest w later).eq_or_lt with rfl | lower
      · exact least v member q fromW
      · obtain ⟨tail, rfl⟩ := simple.eq_cons
        obtain ⟨tailQ, rfl⟩ := fromW.eq_cons
        exact cons_le_cons_iff.mpr (.inl lower)

theorem firstFrom_cons_of_not_reaches (lost : ¬ Reaches E avoided u t) :
    FirstFrom E avoided (u :: others) t path ↔ FirstFrom E avoided others t path := by
  have none (q : List α) : ¬ SimplePath E avoided u t q := fun simple => lost ⟨q, simple⟩
  simp [FirstFrom, none]

end

/-! ## The check -/

section

variable [LinearOrder α] {succ : α → List (α × Bool)}

def Edge (succ : α → List (α × Bool)) (u v : α) : Prop := v ∈ targets succ u

/-- No unmarked edge of a new node leads to a node being visited or back onto the first path. -/
def Clean (succ : α → List (α × Bool)) (visiting finished starts : List α) : Prop :=
  ∀ t path, t ∉ finished → FirstFrom (Edge succ) visiting starts t path →
    ∀ edge ∈ succ t, edge.2 = false → edge.1 ∉ visiting ∧ edge.1 ∉ path

/-- The check of several nodes decides a property, and finishes what they reach. -/
def Decides (succ : α → List (α × Bool)) (before : Search α) (starts : List α) (clean : Prop) :
    Except Fault (Search α) → Prop
  | .ok after => clean ∧ ∀ t, t ∈ after.finished ↔
      t ∈ before.finished ∨ ∃ u ∈ starts, Reaches (Edge succ) before.visiting u t
  | .error .unmarkedCycle => ¬ clean
  | .error .outOfFuel => True

omit [LinearOrder α] in
theorem Sound.finished_of_reaches {search : Search α} (sound : Sound succ search) {u t : α}
    (done : u ∈ search.finished) (reaches : Reaches (Edge succ) search.visiting u t) :
    t ∈ search.finished := by
  obtain ⟨path, simple⟩ := reaches
  refine simple.mem_of_closed (A := search.visiting) ?_ (fun _ mem => mem) done
  intro v mem w edge
  obtain ⟨later, earlier, split⟩ := List.append_of_mem mem
  obtain ⟨pair, inside, rfl⟩ := List.mem_map.mp edge
  rcases sound.ordered later v earlier split pair inside with before | ⟨-, known⟩
  · refine .inl ?_
    rw [split]
    exact List.mem_append_right _ (List.mem_cons_of_mem _ before)
  · exact known

variable {u : α} {visiting finished : List α}

/-- Nothing new is wrong with a node from which nothing new is reached. -/
theorem clean_of_not_reaches (lost : ∀ t, Reaches (Edge succ) visiting u t → t ∈ finished) :
    Clean succ visiting finished [u] := by
  rintro t path new ⟨⟨v, member, simple⟩, -⟩
  rw [List.mem_singleton] at member
  subst member
  exact absurd (lost t ⟨path, simple⟩) new

theorem Clean.head {visiting done others : List α} (smallest : ∀ v ∈ others, u ≤ v)
    (clean : Clean succ visiting done (u :: others)) : Clean succ visiting done [u] := by
  intro t path new first
  have reaches : Reaches (Edge succ) visiting u t := by
    obtain ⟨⟨v, member, simple⟩, -⟩ := first
    rw [List.mem_singleton] at member
    subst member
    exact ⟨path, simple⟩
  exact clean t path new ((firstFrom_cons_of_reaches smallest reaches).mpr first)

/-- Checking a list of nodes in ascending order is checking its first node and then the others. -/
theorem clean_cons {visiting done after others : List α} (smallest : ∀ v ∈ others, u ≤ v)
    (grown : ∀ t, t ∈ after ↔ t ∈ done ∨ Reaches (Edge succ) visiting u t) :
    Clean succ visiting done (u :: others) ↔
      Clean succ visiting done [u] ∧ Clean succ visiting after others := by
  constructor
  · intro clean
    refine ⟨clean.head smallest, fun t path new first => ?_⟩
    rw [grown, not_or] at new
    exact clean t path new.1 ((firstFrom_cons_of_not_reaches new.2).mpr first)
  · rintro ⟨here, there⟩ t path new first
    by_cases reaches : Reaches (Edge succ) visiting u t
    · exact here t path new ((firstFrom_cons_of_reaches smallest reaches).mp first)
    · refine there t path ?_ ((firstFrom_cons_of_not_reaches reaches).mp first)
      rw [grown]
      exact not_or.mpr ⟨new, reaches⟩

/-- Checking a node is checking its edges and then its successors. -/
theorem clean_enter (entered : u ∉ visiting) (unfinished : u ∉ finished) :
    Clean succ visiting finished [u] ↔
      (∀ edge ∈ succ u, edge.2 = false → edge.1 ∉ u :: visiting) ∧
        Clean succ (u :: visiting) finished (targets succ u) := by
  constructor
  · intro clean
    refine ⟨fun edge mem unmarked => ?_, fun t path new first edge mem unmarked => ?_⟩
    · have here := clean u [u] unfinished ((firstFrom_self entered).mpr rfl) edge mem unmarked
      rw [List.mem_cons, not_or]
      exact ⟨fun eq => here.2 (List.mem_singleton.mpr eq), here.1⟩
    · have other : t ≠ u := by
        rintro rfl
        obtain ⟨⟨v, -, simple⟩, -⟩ := first
        exact simple.end_notMem List.mem_cons_self
      obtain ⟨outside, off⟩ := clean t (u :: path) new
        ((firstFrom_of_ne entered other fun _ => Iff.rfl).mpr ⟨path, rfl, first⟩) edge mem unmarked
      rw [List.mem_cons, not_or] at off ⊢
      exact ⟨⟨off.1, outside⟩, off.2⟩
  · rintro ⟨edges, clean⟩ t path new first edge mem unmarked
    by_cases eq : t = u
    · subst eq
      have here := edges edge mem unmarked
      rw [(firstFrom_self entered).mp first, List.mem_singleton]
      rw [List.mem_cons, not_or] at here
      exact ⟨here.2, here.1⟩
    · obtain ⟨rest, rfl, later⟩ := (firstFrom_of_ne entered eq fun _ => Iff.rfl).mp first
      obtain ⟨outside, off⟩ := clean t rest new later edge mem unmarked
      rw [List.mem_cons, not_or] at outside ⊢
      exact ⟨outside.2, outside.1, off⟩

def DecidesNode (succ : α → List (α × Bool)) (visit : α → Search α → Except Fault (Search α)) :
    Prop :=
  ∀ node before, Sound succ before → node ∉ before.finished →
    Decides succ before [node] (Clean succ before.visiting before.finished [node])
      (visit node before)

variable {visit : α → Search α → Except Fault (Search α)}

theorem decides_follow (each : DecidesNode succ visit) {before : Search α} {edge : α × Bool}
    (sound : Sound succ before) (ok : ¬ (edge.1 ∈ before.visiting ∧ edge.2 = false)) :
    Decides succ before [edge.1] (Clean succ before.visiting before.finished [edge.1])
      (follow visit before edge) := by
  rw [follow, if_neg ok]
  split
  · rename_i done
    have nothing (t : α) := sound.finished_of_reaches (t := t) done
    refine ⟨clean_of_not_reaches nothing, fun t => ⟨.inl, ?_⟩⟩
    rintro (old | ⟨u, member, reaches⟩)
    · exact old
    · rw [List.mem_singleton] at member
      subst member
      exact nothing t reaches
  · rename_i unfinished
    exact each edge.1 before sound unfinished

theorem decides_edges (framed : ∀ node before after, visit node before = .ok after →
    Framed before after)
    (visits : Visits succ visit) (each : DecidesNode succ visit) :
    ∀ (edges : List (α × Bool)) (before : Search α), (edges.map Prod.fst).Pairwise (· ≤ ·) →
      Sound succ before → Decides succ before (edges.map Prod.fst)
        ((∀ edge ∈ edges, edge.2 = false → edge.1 ∉ before.visiting) ∧
          Clean succ before.visiting before.finished (edges.map Prod.fst))
        (edges.foldlM (follow visit) before) := by
  intro edges
  induction edges with
  | nil =>
    intro before _ _
    refine ⟨⟨by simp, ?_⟩, by simp⟩
    rintro t path _ ⟨⟨u, member, -⟩, -⟩
    cases member
  | cons edge rest ih =>
    intro before sorted sound
    obtain ⟨smallest, ascending⟩ := List.pairwise_cons.mp sorted
    rw [List.foldlM_cons]
    by_cases allowed : edge.1 ∈ before.visiting ∧ edge.2 = false
    · -- an unmarked edge to a node being visited
      rw [follow, if_pos allowed]
      exact fun clean => clean.1 edge List.mem_cons_self allowed.2 allowed.1
    · have first := decides_follow each sound allowed
      cases followed : follow visit before edge with
      | error fault =>
        rw [followed] at first
        cases fault with
        | unmarkedCycle => exact fun clean => first (clean.2.head smallest)
        | outOfFuel => trivial
      | ok middle =>
        rw [followed] at first
        obtain ⟨clean, grown⟩ := first
        have frame := framed_follow framed followed
        have soundMiddle : Sound succ middle := by
          have single : [edge].foldlM (follow visit) before = .ok middle := by
            rw [List.foldlM_cons, followed]
            rfl
          exact (sound_edges framed visits [edge] before middle single sound).1
        simp only [List.mem_singleton, exists_eq_left] at grown
        have others := ih middle ascending soundMiddle
        rw [frame.visiting] at others
        -- the edges that remain are followed from what the first one has finished
        have whole : ((∀ other ∈ edge :: rest, other.2 = false → other.1 ∉ before.visiting) ∧
              Clean succ before.visiting before.finished ((edge :: rest).map Prod.fst)) ↔
            ((∀ other ∈ rest, other.2 = false → other.1 ∉ before.visiting) ∧
              Clean succ before.visiting middle.finished (rest.map Prod.fst)) := by
          rw [List.map_cons, clean_cons smallest grown, List.forall_mem_cons]
          have here : edge.2 = false → edge.1 ∉ before.visiting :=
            fun unmarked isIn => allowed ⟨isIn, unmarked⟩
          exact ⟨fun holds => ⟨holds.1.2, holds.2.2⟩, fun holds =>
            ⟨⟨here, holds.1⟩, clean, holds.2⟩⟩
        show Decides succ before _ _ (rest.foldlM (follow visit) middle)
        cases res : rest.foldlM (follow visit) middle with
        | error fault =>
          rw [res] at others
          cases fault with
          | unmarkedCycle => exact fun holds => others (whole.mp holds)
          | outOfFuel => trivial
        | ok after =>
          rw [res] at others
          refine ⟨whole.mpr others.1, fun t => ?_⟩
          rw [others.2, grown, frame.visiting, List.map_cons, List.exists_mem_cons_iff, or_assoc]

theorem decidesNode_check (sorted : ∀ u, (targets succ u).Pairwise (· ≤ ·)) :
    ∀ fuel, DecidesNode succ (check succ fuel) := by
  intro fuel
  induction fuel with
  | zero => exact fun node before _ _ => trivial
  | succ fuel ih =>
    intro node before sound unfinished
    rw [check]
    split
    · rename_i visiting
      have lost (t : α) : ¬ Reaches (Edge succ) before.visiting node t := by
        rintro ⟨path, simple⟩
        exact simple.start_notMem visiting
      exact ⟨clean_of_not_reaches fun t reaches => absurd reaches (lost t), by simp [lost]⟩
    · rename_i entered
      have edges := decides_edges (framed_check fuel) (visits_check succ fuel) ih (succ node)
        { before with visiting := node :: before.visiting } (sorted node) (sound.enter unfinished)
      rw [clean_enter entered unfinished]
      cases res : (succ node).foldlM (follow (check succ fuel))
          { before with visiting := node :: before.visiting } with
      | error fault =>
        rw [res] at edges
        cases fault with
        | unmarkedCycle => exact edges
        | outOfFuel => trivial
      | ok after =>
        rw [res] at edges
        refine ⟨edges.1, fun t => ?_⟩
        simp only [List.mem_cons, edges.2, List.not_mem_nil, or_false, exists_eq_left,
          reaches_iff entered]
        exact or_left_comm

/-- **The check succeeds exactly when no unmarked edge leads back onto the first path to its
source.** -/
theorem check_ok_iff (sorted : ∀ u, (targets succ u).Pairwise (· ≤ ·)) {fuel : ℕ} {start : α}
    (enough : check succ fuel start Search.empty ≠ .error .outOfFuel) :
    (∃ after, check succ fuel start Search.empty = .ok after) ↔
      ∀ t path, IsFirstPath (Edge succ) start t path → ∀ edge ∈ succ t, edge.2 = false →
        edge.1 ∉ path := by
  have initial : Sound succ (Search.empty : Search α) :=
    ⟨List.nodup_nil, by simp [Search.empty], by simp [Search.empty]⟩
  have decides := decidesNode_check sorted fuel start Search.empty initial (by simp [Search.empty])
  have clean : Clean succ [] [] [start] ↔ ∀ t path, IsFirstPath (Edge succ) start t path →
      ∀ edge ∈ succ t, edge.2 = false → edge.1 ∉ path := by
    simp only [Clean, List.not_mem_nil, not_false_eq_true, true_and, forall_const,
      firstFrom_singleton]
  rw [← clean]
  cases res : check succ fuel start Search.empty with
  | error fault =>
    rw [res] at decides
    cases fault with
    | unmarkedCycle =>
      simp only [reduceCtorEq, exists_false, false_iff]
      exact decides
    | outOfFuel => exact absurd res enough
  | ok after =>
    rw [res] at decides
    exact ⟨fun _ => decides.1, fun _ => ⟨after, rfl⟩⟩

end

end DepthFirst
