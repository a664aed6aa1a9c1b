import Mathlib.Data.List.Nodup
import Mathlib.Data.Finset.Card

/-!
# Depth-first search

Two searches of a graph given by its successor lists. `explore` collects what can
be reached. `check` follows edges that may be marked, keeps the nodes being
visited apart from the finished ones, and fails when an unmarked edge leads to a
node being visited. Both recurse with fuel.
-/

namespace DepthFirst

set_option autoImplicit false

variable {α : Type} [DecidableEq α]

/-! ## Reachability -/

/-- Add what can be reached from a node to the nodes visited. -/
def explore (succ : α → List α) : ℕ → α → List α → Option (List α)
  | 0, _, _ => none
  | fuel + 1, node, visited =>
    if node ∈ visited then some visited
    else (succ node).foldlM (fun visited next => explore succ fuel next visited) (node :: visited)

/-- A set of nodes that edges do not leave. -/
def Closed (succ : α → List α) (C : α → Prop) : Prop := ∀ u, C u → ∀ v ∈ succ u, C v

/-- What one exploration adds: the node itself, and with every new node its successors. -/
structure Explored (succ : α → List α) (visited after : List α) : Prop where
  grows : ∀ u ∈ visited, u ∈ after
  closed : ∀ u ∈ after, u ∉ visited → ∀ v ∈ succ u, v ∈ after

variable {succ : α → List α}

theorem Explored.trans {first second third} (left : Explored succ first second)
    (right : Explored succ second third) :
    Explored succ first third where
  grows u member := right.grows u (left.grows u member)
  closed u member new v edge := by
    by_cases old : u ∈ second
    · exact right.grows v (left.closed u old new v edge)
    · exact right.closed u member old v edge

theorem explored_foldlM {visit : α → List α → Option (List α)}
    (each : ∀ node visited after, visit node visited = some after →
      Explored succ visited after ∧ node ∈ after) :
    ∀ (nodes visited after : List α),
      nodes.foldlM (fun visited next => visit next visited) visited = some after →
      Explored succ visited after ∧ ∀ node ∈ nodes, node ∈ after := by
  intro nodes
  induction nodes with
  | nil =>
    intro visited after res
    cases res
    exact ⟨⟨fun _ mem => mem, fun u mem new => absurd mem new⟩, by simp⟩
  | cons node rest ih =>
    intro visited after res
    rw [List.foldlM_cons] at res
    obtain ⟨middle, first, others⟩ := Option.bind_eq_some_iff.mp res
    obtain ⟨explored, here⟩ := each node visited middle first
    obtain ⟨later, there⟩ := ih middle after others
    refine ⟨explored.trans later, fun other mem => ?_⟩
    rcases List.mem_cons.mp mem with rfl | isIn
    · exact later.grows other here
    · exact there other isIn

theorem explored_explore :
    ∀ (fuel : ℕ) (node : α) (visited after : List α), explore succ fuel node visited = some after →
      Explored succ visited after ∧ node ∈ after := by
  intro fuel
  induction fuel with
  | zero => exact fun node visited after res => nomatch res
  | succ fuel ih =>
    intro node visited after res
    rw [explore] at res
    split at res
    · rename_i has
      cases res
      exact ⟨⟨fun _ mem => mem, fun u mem new => absurd mem new⟩, has⟩
    · rename_i absent
      obtain ⟨explored, successors⟩ := explored_foldlM ih (succ node) (node :: visited) after res
      refine ⟨⟨(List.forall_mem_cons.mp explored.grows).2, ?_⟩,
        explored.grows node List.mem_cons_self⟩
      intro u mem new v edge
      by_cases eq : u = node
      · subst eq
        exact successors v edge
      · refine explored.closed u mem ?_ v edge
        simp [eq, new]

variable {fuel : ℕ}

theorem explore_closed {node after} (res : explore succ fuel node [] = some after) :
    Closed succ (· ∈ after) ∧ node ∈ after := by
  obtain ⟨explored, here⟩ := explored_explore fuel node [] after res
  exact ⟨fun u mem => explored.closed u mem (by simp), here⟩

theorem explore_subset {C} (closed : Closed succ C) :
    ∀ (fuel : ℕ) (node : α) (visited after : List α), explore succ fuel node visited = some after →
      C node → (∀ u ∈ visited, C u) → ∀ u ∈ after, C u := by
  intro fuel
  induction fuel with
  | zero => exact fun node visited after res => nomatch res
  | succ fuel ih =>
    intro node visited after res isIn before
    rw [explore] at res
    split at res
    · cases res
      exact before
    · have start : ∀ u ∈ node :: visited, C u := by
        exact List.forall_mem_cons.mpr ⟨isIn, before⟩
      have targets : ∀ v ∈ succ node, C v := closed node isIn
      clear isIn before
      generalize succ node = nodes, node :: visited = seen at res start targets
      induction nodes generalizing seen with
      | nil =>
        cases res
        exact start
      | cons next rest ihNodes =>
        rw [List.foldlM_cons] at res
        obtain ⟨middle, first, others⟩ := Option.bind_eq_some_iff.mp res
        refine ihNodes middle others ?_ (List.forall_mem_cons.mp targets).2
        exact ih next seen middle first (targets next List.mem_cons_self) start

variable {U : Finset α}

/-- A node that is entered is one of those that are left. -/
theorem card_left_cons {node seen} (isIn : node ∈ U) (new : node ∉ seen) :
    (U \ (node :: seen).toFinset).card < (U \ seen.toFinset).card := by
  apply Finset.card_lt_card
  refine ⟨Finset.sdiff_subset_sdiff (Finset.Subset.refl U) (by simp), fun back => ?_⟩
  have left : node ∈ U \ seen.toFinset := by simp [isIn, new]
  simpa using back left

theorem explore_isSome (closed : Closed succ (· ∈ U)) :
    ∀ (fuel : ℕ) (node : α) (visited : List α), node ∈ U →
      (U \ visited.toFinset).card < fuel → ∃ after,
        explore succ fuel node visited = some after := by
  intro fuel
  induction fuel with
  | zero => exact fun node visited _ impossible => absurd impossible (Nat.not_lt_zero _)
  | succ fuel ih =>
    intro node visited isIn enough
    rw [explore]
    split
    · exact ⟨visited, rfl⟩
    · rename_i absent
      have fewer := (card_left_cons isIn absent).trans_le (Nat.le_of_lt_succ enough)
      have targets : ∀ v ∈ succ node, v ∈ U := closed node isIn
      clear enough absent
      generalize succ node = nodes, node :: visited = seen at fewer targets
      induction nodes generalizing seen with
      | nil => exact ⟨seen, rfl⟩
      | cons next rest ihNodes =>
        obtain ⟨middle, first⟩ := ih next seen (targets next List.mem_cons_self) fewer
        have grown := (explored_explore fuel next seen middle first).1.grows
        have still : (U \ middle.toFinset).card < fuel := by
          refine lt_of_le_of_lt (Finset.card_le_card ?_) fewer
          refine Finset.sdiff_subset_sdiff (Finset.Subset.refl U) fun u mem => ?_
          simpa using grown u (by simpa using mem)
        obtain ⟨after, others⟩ := ihNodes middle still (List.forall_mem_cons.mp targets).2
        exact ⟨after, by rw [List.foldlM_cons, first]; exact others⟩

/-! ## Marked edges -/

/-- The nodes being visited, innermost first, and the finished ones, last finished first. -/
structure Search (α : Type) where
  visiting : List α
  finished : List α

/-- Why a check fails. -/
inductive Fault where
  | unmarkedCycle
  | outOfFuel
  deriving DecidableEq, Repr

def Search.empty : Search α := { visiting := [], finished := [] }

/-- Follow an edge, given by its target and whether it is marked. -/
def follow (visit : α → Search α → Except Fault (Search α)) (search : Search α)
    (edge : α × Bool) : Except Fault (Search α) :=
  if edge.1 ∈ search.visiting ∧ edge.2 = false then .error .unmarkedCycle
  else if edge.1 ∈ search.finished then .ok search
  else visit edge.1 search

/-- Visit a node, then everything its edges lead to that is not finished. -/
def check (succ : α → List (α × Bool)) : ℕ → α → Search α → Except Fault (Search α)
  | 0, _, _ => .error .outOfFuel
  | fuel + 1, node, search =>
    if node ∈ search.visiting then .ok search
    else
      match (succ node).foldlM (follow (check succ fuel))
          { search with visiting := node :: search.visiting } with
      | .error fault => .error fault
      | .ok after =>
        .ok { visiting := after.visiting.erase node, finished := node :: after.finished }

/-- What a check leaves alone: the nodes being visited, and that a finished node is finished. -/
structure Framed (before after : Search α) : Prop where
  visiting : after.visiting = before.visiting
  grows : ∀ u ∈ before.finished, u ∈ after.finished

variable {visit : α → Search α → Except Fault (Search α)}

/-- An invariant of following single edges is one of following many. -/
theorem foldlM_induction {P : List (α × Bool) → Search α → Search α → Prop}
    (nil : ∀ search, P [] search search)
    (cons : ∀ edge edges first middle last, follow visit first edge = .ok middle →
      P edges middle last → P (edge :: edges) first last) :
    ∀ (edges : List (α × Bool)) (before after : Search α),
      edges.foldlM (follow visit) before = .ok after → P edges before after := by
  intro edges
  induction edges with
  | nil =>
    intro before after res
    cases res
    exact nil before
  | cons edge rest ih =>
    intro before after res
    rw [List.foldlM_cons] at res
    cases first : follow visit before edge with
    | error fault =>
      rw [first] at res
      cases res
    | ok middle =>
      rw [first] at res
      exact cons edge rest before middle after first (ih middle after res)

theorem framed_follow (each : ∀ node before after, visit node before = .ok after →
    Framed before after)
    {before after edge} (res : follow visit before edge = .ok after) :
    Framed before after := by
  unfold follow at res
  split at res
  · cases res
  · split at res
    · cases res
      exact ⟨rfl, fun _ mem => mem⟩
    · exact each edge.1 before after res

theorem framed_edges (each : ∀ node before after, visit node before = .ok after →
    Framed before after) :
    ∀ (edges : List (α × Bool)) (before after : Search α),
      edges.foldlM (follow visit) before = .ok after → Framed before after := by
  refine foldlM_induction (fun search => ⟨rfl, fun _ mem => mem⟩) ?_
  intro edge edges first middle last followed rest
  have here := framed_follow each followed
  exact ⟨rest.visiting.trans here.visiting, fun u mem => rest.grows u (here.grows u mem)⟩

theorem framed_check {succ} : ∀ (fuel : ℕ) (node : α) (before after : Search α),
      check succ fuel node before = .ok after → Framed before after := by
  intro fuel
  induction fuel with
  | zero => exact fun node before after res => nomatch res
  | succ fuel ih =>
    intro node before after res
    rw [check] at res
    split at res
    · cases res
      exact ⟨rfl, fun _ mem => mem⟩
    · split at res
      · cases res
      · rename_i inner edges
        cases res
        have framed := framed_edges ih _ _ _ edges
        exact ⟨by simp [framed.visiting], fun u mem => List.mem_cons_of_mem _ (framed.grows u mem)⟩

/-- What a check maintains. The edges of a finished node lead to nodes finished before it, unless
they are marked. -/
structure Sound (succ : α → List (α × Bool)) (search : Search α) : Prop where
  nodup : search.finished.Nodup
  disjoint : ∀ u ∈ search.visiting, u ∉ search.finished
  ordered : ∀ later u earlier, search.finished = later ++ u :: earlier →
    ∀ edge ∈ succ u, edge.1 ∈ earlier ∨
      edge.2 = true ∧ (edge.1 ∈ search.finished ∨ edge.1 ∈ search.visiting)

omit [DecidableEq α] in
theorem Sound.enter {succ} {search : Search α} (sound : Sound succ search) {node}
    (unfinished : node ∉ search.finished) :
    Sound succ { search with visiting := node :: search.visiting } where
  nodup := sound.nodup
  disjoint u mem := by
    rcases List.mem_cons.mp mem with rfl | old
    · exact unfinished
    · exact sound.disjoint u old
  ordered later u earlier split edge mem := by
    rcases sound.ordered later u earlier split edge mem with before | ⟨marked, known⟩
    · exact .inl before
    · exact .inr ⟨marked, known.imp_right (List.mem_cons_of_mem _)⟩

omit [DecidableEq α] in
theorem Sound.finish {succ : α → List (α × Bool)} {node : α} {visiting finished : List α}
    (sound : Sound succ { visiting := node :: visiting, finished })
    (entered : node ∉ visiting)
    (followed : ∀ edge ∈ succ node, edge.1 ∈ finished ∨ edge.2 = true ∧ edge.1 ∈ node :: visiting) :
    Sound succ { visiting, finished := node :: finished } where
  nodup := List.nodup_cons.mpr ⟨sound.disjoint node List.mem_cons_self, sound.nodup⟩
  disjoint u mem := by
    intro isIn
    rcases List.mem_cons.mp isIn with rfl | old
    · exact entered mem
    · exact sound.disjoint u (List.mem_cons_of_mem _ mem) old
  ordered later u earlier split edge mem := by
    -- a node that was being visited is now finished
    have known (isIn : edge.1 ∈ finished ∨ edge.1 ∈ node :: visiting) :
        edge.1 ∈ node :: finished ∨ edge.1 ∈ visiting := by
      rcases isIn with old | entering
      · exact .inl (List.mem_cons_of_mem _ old)
      · rcases List.mem_cons.mp entering with eq | outer
        · exact .inl (eq ▸ List.mem_cons_self)
        · exact .inr outer
    cases later with
    | nil =>
      obtain ⟨rfl, rfl⟩ := List.cons.inj split
      rcases followed edge mem with old | ⟨marked, entering⟩
      · exact .inl old
      · exact .inr ⟨marked, known (.inr entering)⟩
    | cons first rest =>
      obtain ⟨rfl, inner⟩ := List.cons.inj split
      rcases sound.ordered rest u earlier inner edge mem with before | ⟨marked, isIn⟩
      · exact .inl before
      · exact .inr ⟨marked, known isIn⟩

def Visits (succ : α → List (α × Bool)) (visit : α → Search α → Except Fault (Search α)) : Prop :=
  ∀ node before after, visit node before = .ok after → Sound succ before → node ∉ before.finished →
    Sound succ after ∧ (node ∈ after.finished ∨ node ∈ before.visiting)

theorem sound_edges {succ} (framed : ∀ node before after, visit node before = .ok after →
    Framed before after)
    (visits : Visits succ visit) :
    ∀ (edges : List (α × Bool)) (before after : Search α),
      edges.foldlM (follow visit) before = .ok after → Sound succ before →
      Sound succ after ∧ ∀ edge ∈ edges,
        edge.1 ∈ after.finished ∨ edge.2 = true ∧ edge.1 ∈ before.visiting := by
  intro edges
  induction edges with
  | nil =>
    intro before after res sound
    cases res
    exact ⟨sound, by simp⟩
  | cons edge rest ih =>
    intro before after res sound
    rw [List.foldlM_cons] at res
    cases first : follow visit before edge with
    | error fault =>
      rw [first] at res
      cases res
    | ok middle =>
      rw [first] at res
      have frame := framed_follow framed first
      have later := framed_edges framed rest middle after res
      unfold follow at first
      split at first
      · cases first
      · rename_i unmarkedFresh
        have here : Sound succ middle ∧ (edge.1 ∈ middle.finished ∨ edge.1 ∈ before.visiting) := by
          split at first
          · rename_i done
            cases first
            exact ⟨sound, .inl done⟩
          · rename_i unfinished
            exact visits edge.1 before middle first sound unfinished
        obtain ⟨soundAfter, others⟩ := ih middle after res here.1
        refine ⟨soundAfter, fun other mem => ?_⟩
        rcases List.mem_cons.mp mem with rfl | isIn
        · rcases here.2 with done | visiting
          · exact .inl (later.grows _ done)
          · refine .inr ⟨?_, visiting⟩
            by_contra unmarked
            exact unmarkedFresh ⟨visiting, by simpa using unmarked⟩
        · rw [← frame.visiting]
          exact others other isIn

theorem visits_check (succ : α → List (α × Bool)) : ∀ fuel, Visits succ (check succ fuel) := by
  intro fuel
  induction fuel with
  | zero => exact fun node before after res => nomatch res
  | succ fuel ih =>
    intro node before after res sound unfinished
    rw [check] at res
    split at res
    · rename_i visiting
      cases res
      exact ⟨sound, .inr visiting⟩
    · rename_i entered
      split at res
      · cases res
      · rename_i inner edges
        cases res
        have frame := framed_edges (framed_check fuel) _ _ _ edges
        obtain ⟨soundInner, followed⟩ :=
          sound_edges (framed_check fuel) ih _ _ _ edges (sound.enter unfinished)
        refine ⟨?_, .inl List.mem_cons_self⟩
        have entering : inner.visiting = node :: before.visiting := frame.visiting
        rw [entering, List.erase_cons_head]
        refine Sound.finish ?_ entered followed
        rw [← entering]
        exact soundInner

/-- The targets of the edges of a node. -/
def targets (succ : α → List (α × Bool)) (u : α) : List α := (succ u).map Prod.fst

theorem check_subset {succ} {C : α → Prop} (closed : Closed (targets succ) C) :
    ∀ (fuel : ℕ) (node : α) (before after : Search α), check succ fuel node before = .ok after →
      C node → (∀ u ∈ before.finished, C u) → ∀ u ∈ after.finished, C u := by
  intro fuel
  induction fuel with
  | zero => exact fun node before after res => nomatch res
  | succ fuel ih =>
    intro node before after res isIn done
    rw [check] at res
    split at res
    · cases res
      exact done
    · split at res
      · cases res
      · rename_i inner edges
        cases res
        have kept : (∀ edge ∈ succ node, C edge.1) → (∀ u ∈ before.finished, C u) →
            ∀ u ∈ inner.finished, C u := by
          refine foldlM_induction (P := fun edges first last => (∀ edge ∈ edges, C edge.1) →
            (∀ u ∈ first.finished, C u) → ∀ u ∈ last.finished, C u)
            (fun _ _ holds => holds) ?_ (succ node)
            { before with visiting := node :: before.visiting } inner edges
          intro edge rest first middle last followed others within old
          refine others (List.forall_mem_cons.mp within).2 ?_
          unfold follow at followed
          split at followed
          · cases followed
          · split at followed
            · cases followed
              exact old
            · exact ih edge.1 first middle followed (within edge List.mem_cons_self) old
        have inner := kept (fun edge mem => closed node isIn edge.1 (List.mem_map_of_mem mem)) done
        exact List.forall_mem_cons.mpr ⟨isIn, inner⟩

/-- How many nodes of the list come after a node. -/
def height : List α → α → ℕ
  | [], _ => 0
  | first :: rest, u => if u = first then rest.length else height rest u

theorem height_lt_length_of_pos {u : α} :
    ∀ {nodes : List α}, 0 < nodes.length → height nodes u < nodes.length := by
  intro nodes
  induction nodes with
  | nil => exact fun impossible => absurd impossible (Nat.lt_irrefl 0)
  | cons first rest ih =>
    intro _
    rw [height]
    split
    · exact Nat.lt_succ_self _
    · cases rest with
      | nil => exact Nat.zero_lt_one
      | cons second others => exact Nat.lt_succ_of_lt (ih (Nat.zero_lt_succ _))

theorem height_append {u : α} : ∀ {later earlier : List α}, (later ++ u :: earlier).Nodup →
    height (later ++ u :: earlier) u = earlier.length := by
  intro later earlier
  induction later with
  | nil => exact fun _ => if_pos rfl
  | cons first rest ih =>
    intro nodup
    obtain ⟨new, nodupRest⟩ := List.nodup_cons.mp nodup
    have other : u ≠ first := by
      rintro rfl
      exact new (by simp)
    rw [List.cons_append, height, if_neg other]
    exact ih nodupRest

theorem height_lt_of_mem {u v : α} {later earlier : List α}
    (nodup : (later ++ u :: earlier).Nodup) (mem : v ∈ earlier) :
    height (later ++ u :: earlier) v < height (later ++ u :: earlier) u := by
  obtain ⟨before, after, rfl⟩ := List.append_of_mem mem
  rw [height_append nodup]
  have regroup : later ++ u :: (before ++ v :: after) = (later ++ u :: before) ++ v :: after := by
    simp
  rw [regroup] at nodup ⊢
  rw [height_append nodup]
  simp only [List.length_append, List.length_cons]
  omega

/-- **After a successful check the finished nodes are closed under edges, and unmarked edges lead
downwards.** -/
theorem check_sound {succ start} {after : Search α}
    (res : check succ fuel start Search.empty = .ok after) :
    start ∈ after.finished ∧ after.finished.Nodup ∧ Closed (targets succ) (· ∈ after.finished) ∧
      ∀ u ∈ after.finished, ∀ edge ∈ succ u, edge.2 = false →
        height after.finished edge.1 < height after.finished u := by
  have initial : Sound succ (Search.empty : Search α) :=
    ⟨List.nodup_nil, by simp [Search.empty], by simp [Search.empty]⟩
  obtain ⟨sound, done⟩ :=
    visits_check succ fuel start Search.empty after res initial (by simp [Search.empty])
  have visiting : after.visiting = [] := (framed_check fuel start _ after res).visiting
  refine ⟨done.resolve_right (by simp [Search.empty]), sound.nodup, ?_, ?_⟩
  · intro u mem v target
    obtain ⟨edge, edgeMember, rfl⟩ := List.mem_map.mp target
    obtain ⟨later, earlier, split⟩ := List.append_of_mem mem
    rcases sound.ordered later u earlier split edge edgeMember with before
      | ⟨-, finished | unfinished⟩
    · simp only [split]
      exact List.mem_append_right _ (List.mem_cons_of_mem _ before)
    · exact finished
    · rw [visiting] at unfinished
      cases unfinished
  · intro u mem edge edgeMember unmarked
    obtain ⟨later, earlier, split⟩ := List.append_of_mem mem
    rcases sound.ordered later u earlier split edge edgeMember with before | ⟨marked, -⟩
    · have nodup := sound.nodup
      rw [split] at nodup ⊢
      exact height_lt_of_mem nodup before
    · rw [unmarked] at marked
      cases marked

/-- The nodes of a finite graph that a search has not entered. -/
def Search.left (U : Finset α) (search : Search α) : Finset α :=
  U \ (search.visiting ++ search.finished).toFinset

theorem Framed.left_subset {before after} (framed : Framed before after) :
    after.left U ⊆ before.left U := by
  refine Finset.sdiff_subset_sdiff (Finset.Subset.refl U) fun u mem => ?_
  rw [List.mem_toFinset, List.mem_append] at mem ⊢
  rw [framed.visiting]
  exact mem.imp_right (framed.grows u)

theorem edges_ne_outOfFuel (framed : ∀ node before after, visit node before = .ok after →
    Framed before after)
    (enough : ∀ node search, node ∈ U → node ∉ search.finished →
      (search.left U).card < fuel → visit node search ≠ .error .outOfFuel) :
    ∀ (edges : List (α × Bool)) (search : Search α), (∀ edge ∈ edges, edge.1 ∈ U) →
      (search.left U).card < fuel → edges.foldlM (follow visit) search ≠ .error .outOfFuel := by
  intro edges
  induction edges with
  | nil => exact fun search _ _ res => nomatch res
  | cons edge rest ih =>
    intro search isIn few
    rw [List.foldlM_cons]
    cases first : follow visit search edge with
    | error fault =>
      rintro ⟨⟩
      unfold follow at first
      split at first
      · cases first
      · split at first
        · cases first
        · rename_i unfinished
          exact enough edge.1 search (isIn edge List.mem_cons_self) unfinished few first
    | ok middle =>
      refine ih middle (List.forall_mem_cons.mp isIn).2 ?_
      exact lt_of_le_of_lt (Finset.card_le_card (framed_follow framed first).left_subset) few

theorem check_ne_outOfFuel {succ} (closed : Closed (targets succ) (· ∈ U)) :
    ∀ (fuel : ℕ) (node : α) (search : Search α), node ∈ U → node ∉ search.finished →
      (search.left U).card < fuel → check succ fuel node search ≠ .error .outOfFuel := by
  intro fuel
  induction fuel with
  | zero => exact fun node search _ _ impossible => absurd impossible (Nat.not_lt_zero _)
  | succ fuel ih =>
    intro node search inside unfinished few
    rw [check]
    split
    · exact nofun
    · rename_i entered
      have fewer : (Search.left U { search with visiting := node :: search.visiting }).card <
          fuel := by
        have new : node ∉ search.visiting ++ search.finished := by simp [entered, unfinished]
        have strict := card_left_cons inside new
        exact strict.trans_le (Nat.le_of_lt_succ few)
      have edges := edges_ne_outOfFuel (framed_check fuel) ih (succ node)
        { search with visiting := node :: search.visiting }
        (fun edge mem => closed node inside edge.1 (List.mem_map_of_mem mem)) fewer
      split
      · rename_i fault failed
        rintro ⟨⟩
        exact edges failed
      · exact nofun

/-! ## Enough fuel -/

/-- The nodes a search can enter: where it starts and where edges end. -/
def entered (start : α) (ends : List α) : Finset α := insert start ends.toFinset

variable {ends : List α}

theorem closed_entered (leads : ∀ u, succ u ⊆ ends) (start : α) :
    Closed succ (· ∈ entered start ends) := by
  intro u _ v mem
  rw [entered, Finset.mem_insert, List.mem_toFinset]
  exact .inr (leads u mem)

theorem card_entered (start : α) (ends : List α) : (entered start ends).card < ends.length + 2 := by
  have bound := ends.toFinset_card_le
  have step := Finset.card_insert_le start ends.toFinset
  unfold entered
  omega

/-- Two more than the number of edges is enough fuel to explore. -/
theorem explore_entered (leads : ∀ u, succ u ⊆ ends) (start : α) :
    ∃ visited, explore succ (ends.length + 2) start [] = some visited := by
  refine explore_isSome (closed_entered leads start) _ start [] ?_ ?_
  · exact Finset.mem_insert_self _ _
  · simpa using card_entered start ends

theorem check_entered {succ} (leads : ∀ u, targets succ u ⊆ ends) (start) :
    check succ (ends.length + 2) start Search.empty ≠ .error .outOfFuel := by
  refine check_ne_outOfFuel (closed_entered leads start) _ start _ ?_ ?_ ?_
  · exact Finset.mem_insert_self _ _
  · simp [Search.empty]
  · simpa [Search.left, Search.empty] using card_entered start ends

end DepthFirst
