import AgentOrchestration.Library.FirstPath
import Mathlib.Data.Set.Function
import Mathlib.Data.String.Basic

/-!
# First paths under other orders

Which of the simple paths to a node comes first depends on the order of the nodes. A
`rank` of the nodes gives an order, and renaming the nodes of a graph changes the order
without changing the graph.
-/

namespace DepthFirst

set_option autoImplicit false

variable {α β γ : Type}

/-- The path comes first among the simple paths to its end when nodes are compared by rank. -/
def FirstBy [LinearOrder β] (rank : α → β) (E : α → α → Prop) (u t : α) (path : List α) : Prop :=
  SimplePath E [] u t path ∧ ∀ other, SimplePath E [] u t other → path.map rank ≤ other.map rank

/-! ## Renamed graphs -/

/-- The edges of a graph, renamed; the renaming is injective on nodes that edges do not leave. -/
structure Image (S : Set α) (f : α → γ) (E : α → α → Prop) (E' : γ → γ → Prop) : Prop where
  injOn : Set.InjOn f S
  closed : ∀ u ∈ S, ∀ v, E u v → v ∈ S
  edge : ∀ u ∈ S, ∀ v', E' (f u) v' ↔ ∃ v, E u v ∧ f v = v'

section

variable {S : Set α} {f : α → γ} {E : α → α → Prop} {E' : γ → γ → Prop}

variable {avoided : List α} {u t : α} {path : List α}

theorem SimplePath.mem_of_closed_set (simple : SimplePath E avoided u t path)
    (closed : ∀ u ∈ S, ∀ v, E u v → v ∈ S) (isIn : u ∈ S) :
    ∀ x ∈ path, x ∈ S := by
  induction simple with
  | here new =>
    intro x mem
    rwa [List.mem_singleton.mp mem]
  | step new edge rest ih =>
    exact List.forall_mem_cons.mpr ⟨isIn, ih (closed _ isIn _ edge)⟩

theorem notMem_map_of_injOn (injOn : Set.InjOn f S) {u : α} {nodes : List α} (isIn : u ∈ S)
    (all : ∀ x ∈ nodes, x ∈ S) : f u ∉ nodes.map f ↔ u ∉ nodes := by
  rw [List.mem_map, not_iff_not]
  constructor
  · rintro ⟨x, member, eq⟩
    rwa [← injOn (all x member) isIn eq]
  · exact fun member => ⟨u, member, rfl⟩

theorem Image.simplePath (image : Image S f E E') (simple : SimplePath E avoided u t path)
    (isIn : u ∈ S) (all : ∀ x ∈ avoided, x ∈ S) :
    SimplePath E' (avoided.map f) (f u) (f t) (path.map f) := by
  induction simple with
  | here new => exact .here ((notMem_map_of_injOn image.injOn isIn all).mpr new)
  | step new edge rest ih =>
    refine .step ((notMem_map_of_injOn image.injOn isIn all).mpr new)
      ((image.edge _ isIn _).mpr ⟨_, edge, rfl⟩) ?_
    exact ih (image.closed _ isIn _ edge) (List.forall_mem_cons.mpr ⟨isIn, all⟩)

variable {path' : List γ}

theorem Image.of_simplePath (image : Image S f E E') {avoided' : List γ} {u' t' : γ}
    (simple : SimplePath E' avoided' u' t' path') :
    ∀ (avoided : List α) (u : α), avoided' = avoided.map f → u' = f u → u ∈ S →
      (∀ x ∈ avoided, x ∈ S) →
      ∃ t path, SimplePath E avoided u t path ∧ t' = f t ∧ path' = path.map f := by
  induction simple with
  | here new =>
    rintro avoided u rfl rfl isIn all
    exact ⟨u, [u], .here ((notMem_map_of_injOn image.injOn isIn all).mp new), rfl, rfl⟩
  | step new edge rest ih =>
    rintro avoided u rfl rfl isIn all
    obtain ⟨v, old, rfl⟩ := (image.edge u isIn _).mp edge
    obtain ⟨t, path, simple, ends, rfl⟩ := ih (u :: avoided) v rfl rfl
      (image.closed u isIn v old) (List.forall_mem_cons.mpr ⟨isIn, all⟩)
    exact ⟨t, u :: path, .step ((notMem_map_of_injOn image.injOn isIn all).mp new) old
      simple, ends, rfl⟩

theorem SimplePath.end_mem (simple : SimplePath E avoided u t path) : t ∈ path := by
  induction simple with
  | here new => exact List.mem_singleton_self _
  | step new edge rest ih => exact List.mem_cons_of_mem _ ih

theorem Image.simplePath_iff (image : Image S f E E') (isIn : u ∈ S) (known : t ∈ S) :
    SimplePath E' [] (f u) (f t) path' ↔ ∃ path, SimplePath E [] u t path ∧ path' = path.map f := by
  constructor
  · intro simple
    obtain ⟨t', path, old, ends, eq⟩ := image.of_simplePath simple [] u rfl rfl isIn (by simp)
    have reached : t' ∈ S := old.mem_of_closed_set image.closed isIn t' old.end_mem
    rw [image.injOn known reached ends]
    exact ⟨path, old, eq⟩
  · rintro ⟨path, old, rfl⟩
    exact image.simplePath old isIn (by simp)

/-- **The first paths of the renamed graph.** -/
theorem isFirstPath_image_iff [LinearOrder γ] (image : Image S f E E') (isIn : u ∈ S)
    (known : t ∈ S) :
    IsFirstPath E' (f u) (f t) path' ↔ ∃ path, path' = path.map f ∧ FirstBy f E u t path := by
  constructor
  · rintro ⟨simple, least⟩
    obtain ⟨path, old, rfl⟩ := (image.simplePath_iff isIn known).mp simple
    refine ⟨path, rfl, old, fun other simple => ?_⟩
    exact least _ ((image.simplePath_iff isIn known).mpr ⟨other, simple, rfl⟩)
  · rintro ⟨path, rfl, old, least⟩
    refine ⟨(image.simplePath_iff isIn known).mpr ⟨path, old, rfl⟩, fun other' simple => ?_⟩
    obtain ⟨other, old', rfl⟩ := (image.simplePath_iff isIn known).mp simple
    exact least other old'

end

/-! ## Orders -/

section

variable [LinearOrder β] [LinearOrder γ] {S : Set α} {E : α → α → Prop} {rank : α → β}

/-- Lists are compared alike under ranks that order their entries alike. -/
theorem map_le_map_iff {rank' : α → γ} (eq : ∀ u ∈ S, ∀ v ∈ S, rank u < rank v ↔
    rank' u < rank' v) :
    ∀ {first second : List α}, (∀ x ∈ first, x ∈ S) → (∀ x ∈ second, x ∈ S) →
      (first.map rank ≤ second.map rank ↔ first.map rank' ≤ second.map rank') := by
  intro first
  induction first with
  | nil =>
    intro second _ _
    exact iff_of_true (not_lt.mp (List.not_lt_nil _)) (not_lt.mp (List.not_lt_nil _))
  | cons u first ih =>
    intro second firstIn secondIn
    cases second with
    | nil =>
      exact iff_of_false (not_le.mpr (List.nil_lt_cons _ _)) (not_le.mpr (List.nil_lt_cons _ _))
    | cons v second =>
      obtain ⟨uIn, firstIn⟩ := List.forall_mem_cons.mp firstIn
      obtain ⟨vIn, secondIn⟩ := List.forall_mem_cons.mp secondIn
      have equal : rank u = rank v ↔ rank' u = rank' v := by
        rw [le_antisymm_iff, le_antisymm_iff, ← not_lt, ← not_lt, ← not_lt, ← not_lt,
          eq u uIn v vIn, eq v vIn u uIn]
      rw [List.map_cons, List.map_cons, List.map_cons, List.map_cons, cons_le_cons_iff,
        cons_le_cons_iff, eq u uIn v vIn, equal, ih firstIn secondIn]

variable {u t : α} {path : List α}

theorem firstBy_congr {rank' : α → γ} (eq : ∀ u ∈ S, ∀ v ∈ S, rank u < rank v ↔ rank' u < rank' v)
    (closed : ∀ u ∈ S, ∀ v, E u v → v ∈ S) (isIn : u ∈ S) :
    FirstBy rank E u t path ↔ FirstBy rank' E u t path := by
  refine and_congr_right fun simple => forall_congr' fun other =>
    imp_congr_right fun alternative => ?_
  exact map_le_map_iff eq (simple.mem_of_closed_set closed isIn)
    (alternative.mem_of_closed_set closed isIn)

/-- A path along which the rank grows, below that of all other nodes, comes first. -/
theorem SimplePath.map_le_of_increasing (closed : ∀ u ∈ S, ∀ v, E u v → v ∈ S) {avoided : List α}
    (simple : SimplePath E avoided u t path) (isIn : u ∈ S)
    (increasing : path.Pairwise fun x y => rank x < rank y)
    (outside : ∀ x ∈ path, ∀ y ∈ S, y ∉ path → y ∉ avoided → rank x < rank y) :
    ∀ other, SimplePath E avoided u t other → path.map rank ≤ other.map rank := by
  induction simple with
  | here new =>
    intro other alternative
    rw [(simplePath_self_iff new).mp alternative]
  | @step avoided u v t path new edge rest ih =>
    intro other alternative
    have ends : t ≠ u := fun eq => rest.end_notMem (eq ▸ List.mem_cons_self)
    obtain ⟨w, others, edge', rest', rfl⟩ := (simplePath_iff new ends).mp alternative
    rw [List.map_cons, List.map_cons, cons_le_cons_iff]
    refine .inr ⟨rfl, ?_⟩
    obtain ⟨low, increasing⟩ := List.pairwise_cons.mp increasing
    by_cases eq : w = v
    · subst eq
      refine ih (closed u isIn w edge) increasing ?_ others rest'
      intro x mem y known outer fresh
      obtain ⟨other, fresh⟩ := not_or.mp (fun h => fresh (List.mem_cons.mpr h))
      exact outside x (List.mem_cons_of_mem _ mem) y known
        (fun h => (List.mem_cons.mp h).elim other outer) fresh
    · -- the other path leaves here for a node of higher rank
      obtain ⟨tail, rfl⟩ := rest.eq_cons
      obtain ⟨tail', rfl⟩ := rest'.eq_cons
      have higher : rank v < rank w := by
        by_cases mem : w ∈ v :: tail
        · rcases List.mem_cons.mp mem with equal | later
          · exact absurd equal eq
          · exact (List.pairwise_cons.mp increasing).1 w later
        · obtain ⟨other, fresh⟩ := not_or.mp (fun h => rest'.start_notMem (List.mem_cons.mpr h))
          exact outside v (List.mem_cons_of_mem _ List.mem_cons_self) w (closed u isIn w edge')
            (fun h => (List.mem_cons.mp h).elim other mem) fresh
      rw [List.map_cons, List.map_cons, cons_le_cons_iff]
      exact .inl higher

theorem SimplePath.nodup_append {avoided : List α} (simple : SimplePath E avoided u t path) :
    path.Nodup ∧ ∀ x ∈ path, x ∉ avoided := by
  induction simple with
  | here new => simp [new]
  | step new edge rest ih =>
    obtain ⟨nodup, fresh⟩ := ih
    refine ⟨List.nodup_cons.mpr ⟨fun mem => fresh _ mem List.mem_cons_self, nodup⟩, ?_⟩
    refine List.forall_mem_cons.mpr ⟨new, fun x mem old => ?_⟩
    exact fresh x mem (List.mem_cons_of_mem _ old)

/-- The rank of a node is its place in a list that begins with a path, so the path comes first. -/
theorem firstBy_idxOf [DecidableEq α] (closed : ∀ u ∈ S, ∀ v, E u v → v ∈ S)
    (simple : SimplePath E [] u t path) (isIn : u ∈ S) (others : List α) :
    FirstBy (fun x => (path ++ others).idxOf x) E u t path := by
  refine ⟨simple, simple.map_le_of_increasing closed isIn ?_ ?_⟩
  · have nodup := simple.nodup_append.1
    rw [List.pairwise_iff_getElem]
    intro i j iLt jLt less
    rw [List.idxOf_append_of_mem (List.getElem_mem iLt),
      List.idxOf_append_of_mem (List.getElem_mem jLt),
      nodup.idxOf_getElem, nodup.idxOf_getElem]
    exact less
  · intro x mem y _ outer _
    rw [List.idxOf_append_of_mem mem, List.idxOf_append_of_notMem outer]
    exact Nat.lt_add_right _ (List.idxOf_lt_length_of_mem mem)

theorem exists_rank [DecidableEq α] (nodes : Finset α) (rank : α → β) :
    ∃ num : α → ℕ, ∀ u ∈ nodes, ∀ v ∈ nodes, num u < num v ↔ rank u < rank v := by
  refine ⟨fun u => (nodes.filter fun x => rank x < rank u).card, fun u uIn v vIn => ?_⟩
  constructor
  · intro fewer
    by_contra higher
    refine absurd fewer (not_lt.mpr (Finset.card_le_card ?_))
    intro x mem
    obtain ⟨known, below⟩ := Finset.mem_filter.mp mem
    exact Finset.mem_filter.mpr ⟨known, lt_of_lt_of_le below (not_lt.mp higher)⟩
  · intro lower
    refine Finset.card_lt_card (Finset.ssubset_iff_subset_ne.mpr ⟨?_, ?_⟩)
    · intro x mem
      obtain ⟨known, below⟩ := Finset.mem_filter.mp mem
      exact Finset.mem_filter.mpr ⟨known, below.trans lower⟩
    · intro eq
      have mem : u ∈ nodes.filter fun x => rank x < rank v := Finset.mem_filter.mpr ⟨uIn, lower⟩
      rw [← eq] at mem
      exact lt_irrefl _ (Finset.mem_filter.mp mem).2

end

/-! ## Names -/

def lineName (number : ℕ) : String := String.ofList (List.replicate (number + 1) 'a')

theorem replicate_lt_replicate_iff (first : ℕ) :
    ∀ second, List.replicate first 'a' < List.replicate second 'a' ↔ first < second := by
  induction first with
  | zero =>
    intro second
    cases second with
    | zero => simp
    | succ second => simp [List.replicate_succ]
  | succ first ih =>
    intro second
    cases second with
    | zero => simp
    | succ second =>
      rw [List.replicate_succ, List.replicate_succ]
      simp [ih]

theorem lineName_lt_iff {first second : ℕ} : lineName first < lineName second ↔ first < second := by
  rw [lineName, lineName, String.lt_iff_toList_lt, String.toList_ofList, String.toList_ofList,
    replicate_lt_replicate_iff, Nat.add_lt_add_iff_right]

theorem lineName_ne_empty (num : ℕ) : lineName num ≠ "" := by
  intro empty
  have := congrArg String.toList empty
  simp [lineName, List.replicate_succ] at this

end DepthFirst
