import Mathlib.Data.List.Basic

/-!
# Labelled transition systems

A system is a function that performs an action in a state, or refuses it.
`trace` runs a list of actions and records the transitions that took place;
refused actions leave no mark.
-/

namespace LabelledSystem

set_option autoImplicit false

variable {σ α : Type}

structure Transition (σ α : Type) where
  before : σ
  action : α
  after : σ

def trace (step : σ → α → Option σ) : σ → List α → List (Transition σ α)
  | _, [] => []
  | s, action :: rest =>
    match step s action with
    | some next => ⟨s, action, next⟩ :: trace step next rest
    | none => trace step s rest

theorem action_mem_of_trace {step} {t : Transition σ α} :
    ∀ {actions : List α} {s : σ}, t ∈ trace step s actions → t.action ∈ actions := by
  intro actions
  induction actions with
  | nil => exact fun mem => nomatch mem
  | cons action rest ih =>
    intro s mem
    rw [trace] at mem
    split at mem
    · rcases List.mem_cons.mp mem with rfl | later
      · exact List.mem_cons_self
      · exact List.mem_cons_of_mem _ (ih later)
    · exact List.mem_cons_of_mem _ (ih mem)

/-- The state after a list of actions; refused ones change nothing. -/
def final (step : σ → α → Option σ) (s : σ) (actions : List α) : σ :=
  actions.foldl (fun s action => (step s action).getD s) s

variable {step : σ → α → Option σ} {I : σ → Prop} {G : σ → α → Prop}

/-- An invariant that guarded transitions keep holds after a guarded trace and at both ends of each
of its transitions. -/
theorem guarded_invariant
    (keep : ∀ s action next, I s → G s action → step s action = some next → I next) :
    ∀ (actions : List α) (s : σ), I s → (∀ t ∈ trace step s actions, G t.before t.action) →
      I (final step s actions) ∧
        ∀ t ∈ trace step s actions, I t.before ∧ step t.before t.action = some t.after := by
  intro actions
  induction actions with
  | nil => exact fun s holds _ => ⟨holds, nofun⟩
  | cons action rest ih =>
    intro s holds guarded
    rw [trace] at guarded ⊢
    rw [final, List.foldl_cons]
    cases res : step s action with
    | none =>
      rw [res] at guarded
      exact ih s holds guarded
    | some next =>
      rw [res] at guarded
      obtain ⟨first, later⟩ := List.forall_mem_cons.mp guarded
      obtain ⟨ends, inner⟩ := ih next (keep s action next holds first res) later
      exact ⟨ends, List.forall_mem_cons.mpr ⟨⟨holds, res⟩, inner⟩⟩

theorem step_of_trace {actions : List α} {s : σ} {t : Transition σ α}
    (taken : t ∈ trace step s actions) : step t.before t.action = some t.after :=
  ((guarded_invariant (I := fun _ => True) (G := fun _ _ => True) (fun _ _ _ _ _ _ => trivial)
    actions s trivial fun _ _ => trivial).2 t taken).2

theorem trace_law {P : Transition σ α → Prop}
    (keep : ∀ s action next, I s → G s action → step s action = some next → I next)
    (law : ∀ s action next, I s → G s action → step s action = some next → P ⟨s, action, next⟩)
    (actions : List α) (s : σ) (holds : I s)
    (guarded : ∀ t ∈ trace step s actions, G t.before t.action) :
    ∀ t ∈ trace step s actions, P t := by
  intro t mem
  obtain ⟨before, ran⟩ := (guarded_invariant keep actions s holds guarded).2 t mem
  exact law t.before t.action t.after before (guarded t mem) ran

theorem final_invariant (keep : ∀ s action next, I s → step s action = some next → I next)
    (actions : List α) (s : σ) (holds : I s) : I (final step s actions) :=
  (guarded_invariant (G := fun _ _ => True) (fun s action next holds _ => keep s action next holds)
    actions s holds fun _ _ => trivial).1

theorem trace_append (first second : List α) : ∀ s : σ, trace step s (first ++ second) =
      trace step s first ++ trace step (final step s first) second := by
  induction first with
  | nil => exact fun _ => rfl
  | cons action rest ih =>
    intro s
    simp only [List.cons_append, trace, final, List.foldl_cons]
    cases res : step s action with
    | none => exact ih s
    | some next => exact congrArg (⟨s, action, next⟩ :: ·) (ih next)

theorem final_append (first second : List α) (s : σ) :
    final step s (first ++ second) = final step (final step s first) second :=
  List.foldl_append

end LabelledSystem
