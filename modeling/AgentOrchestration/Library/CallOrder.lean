import Mathlib.Data.List.Pairwise

/-!
# The order of calls

A history records when calls are made and when they return. `Earlier history a b` says
that `a` had returned when `b` was called; a list is `InOrder` if none of its entries
stands behind one that was called only after it had returned.
-/

namespace CallOrder

set_option autoImplicit false

variable {κ : Type}

/-- What a history records. -/
inductive Mark (κ : Type) where
  | called (call : κ)
  | returned (call : κ)
  deriving DecidableEq

/-- `b` was called after `a` had returned. -/
def Earlier (history : List (Mark κ)) (a b : κ) : Prop :=
  ∃ before after, history = before ++ .called b :: after ∧ .returned a ∈ before

/-- No entry was called after one behind it had returned. -/
def InOrder (history : List (Mark κ)) (calls : List κ) : Prop :=
  calls.Pairwise fun x y => ¬ Earlier history y x

variable {history : List (Mark κ)} {a b call : κ} {calls : List κ}

theorem Earlier.returned_mem (earlier : Earlier history a b) : .returned a ∈ history := by
  obtain ⟨before, after, rfl, mem⟩ := earlier
  exact List.mem_append_left _ mem

theorem earlier_append {mark : Mark κ} (earlier : Earlier (history ++ [mark]) a b) :
    Earlier history a b ∨ mark = .called b ∧ .returned a ∈ history := by
  obtain ⟨before, after, same, mem⟩ := earlier
  rcases List.eq_nil_or_concat after with rfl | ⟨initial, last, rfl⟩
  · obtain ⟨rfl, rfl⟩ := List.append_inj' same rfl |>.imp id (fun eq => List.singleton_inj.mp eq)
    exact .inr ⟨rfl, mem⟩
  · refine .inl ⟨before, initial, ?_, mem⟩
    have shifted : history ++ [mark] = (before ++ .called b :: initial) ++ [last] := by
      rw [same]
      simp
    exact (List.append_inj' shifted rfl).1

theorem earlier_of_append_returned (earlier : Earlier (history ++ [.returned call]) a b) :
    Earlier history a b := by
  rcases earlier_append earlier with old | ⟨ne, -⟩
  · exact old
  · cases ne

/-- No call returned before it was made. -/
def Proper (history : List (Mark κ)) : Prop := ∀ call, ¬ Earlier history call call

theorem Proper.called (proper : Proper history) (fresh : .returned call ∉ history) :
    Proper (history ++ [.called call]) := by
  intro other earlier
  rcases earlier_append earlier with old | ⟨eq, mem⟩
  · exact proper other old
  · cases eq
    exact fresh mem

theorem Proper.returned (proper : Proper history) : Proper (history ++ [.returned call]) :=
  fun other earlier => proper other (earlier_of_append_returned earlier)

theorem InOrder.returned (ordered : InOrder history calls) :
    InOrder (history ++ [.returned call]) calls :=
  ordered.imp fun ne earlier => ne (earlier_of_append_returned earlier)

theorem InOrder.elsewhere (ordered : InOrder history calls) (absent : call ∉ calls) :
    InOrder (history ++ [.called call]) calls := by
  refine List.Pairwise.imp_of_mem (fun {x y} member _ different earlier => ?_) ordered
  rcases earlier_append earlier with old | ⟨eq, -⟩
  · exact different old
  · cases eq
    exact absent member

theorem InOrder.called (ordered : InOrder history calls) (absent : call ∉ calls)
    (fresh : .returned call ∉ history) : InOrder (history ++ [.called call]) (calls ++ [call]) := by
  refine List.pairwise_append.mpr ⟨ordered.elsewhere absent, List.pairwise_singleton _ _, ?_⟩
  intro x _ y last earlier
  rw [List.mem_singleton.mp last] at earlier
  have mem := earlier.returned_mem
  rw [List.mem_append, List.mem_singleton] at mem
  rcases mem with old | new
  · exact fresh old
  · cases new

theorem InOrder.sublist {fewer : List κ} (ordered : InOrder history calls)
    (part : fewer.Sublist calls) : InOrder history fewer :=
  List.Pairwise.sublist part ordered

/-- A block passes entries that had not returned when those of the block were called. -/
theorem InOrder.overtake {first waiting block rest : List κ}
    (ordered : InOrder history (first ++ (waiting ++ block ++ rest)))
    (concurrent : ∀ x ∈ waiting, ∀ y ∈ block, ¬ Earlier history x y) :
    InOrder history (first ++ block ++ (waiting ++ rest)) := by
  unfold InOrder at ordered ⊢
  simp only [List.pairwise_append, List.mem_append] at ordered ⊢
  obtain ⟨start, ⟨⟨passed, blocked, -⟩, tail, behind⟩, ahead⟩ := ordered
  refine ⟨⟨start, blocked, fun x mx y my => ahead x mx y (.inl (.inr my))⟩,
    ⟨passed, tail, fun x mx y my => behind x (.inl mx) y my⟩, ?_⟩
  rintro x (mx | mx) y (my | my)
  · exact ahead x mx y (.inl (.inl my))
  · exact ahead x mx y (.inr my)
  · exact concurrent y my x mx
  · exact behind x (.inr mx) y my

/-- In a list in order that is numbered upwards, an earlier call has the smaller number. -/
theorem InOrder.lt_of_earlier {ρ : Type} {rows : List ρ} {key : ρ → κ} {num : ρ → ℕ}
    (proper : Proper history) (ordered : InOrder history (rows.map key))
    (upwards : (rows.map num).Pairwise (· < ·)) {x y : ρ} (mx : x ∈ rows) (my : y ∈ rows)
    (earlier : Earlier history (key x) (key y)) : num x < num y := by
  have both := (List.pairwise_map.mp ordered).and (List.pairwise_map.mp upwards)
  obtain ⟨i, hi, rfl⟩ := List.getElem_of_mem mx
  obtain ⟨j, hj, rfl⟩ := List.getElem_of_mem my
  rcases Nat.lt_trichotomy i j with before | eq | after
  · exact (List.pairwise_iff_getElem.mp both i j hi hj before).2
  · subst eq
    exact absurd earlier (proper _)
  · exact absurd earlier (List.pairwise_iff_getElem.mp both j i hj hi after).1

end CallOrder
