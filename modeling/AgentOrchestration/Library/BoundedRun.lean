import Mathlib.Algebra.Ring.Nat
import Mathlib.Order.Basic

/-!
# Bounded runs of a step function

A machine is a function that either moves to another state or stops with a
result. `runFor` performs at most a given number of steps.
-/

namespace BoundedRun

set_option autoImplicit false

variable {σ τ ε δ : Type}

/-- The result of a step or of a bounded run: still going, or stopped. -/
inductive Outcome (σ ε : Type) where
  | running (state : σ)
  | stopped (result : ε)

/-- Perform at most `n` steps. -/
def runFor (step : σ → Outcome σ ε) : ℕ → σ → Outcome σ ε
  | 0, s => .running s
  | n + 1, s =>
    match step s with
    | .running s' => runFor step n s'
    | .stopped e => .stopped e

/-- Outcomes of the same shape with related contents. -/
inductive Outcome.Related (R : σ → τ → Prop) (Q : ε → δ → Prop) :
    Outcome σ ε → Outcome τ δ → Prop where
  | running {s : σ} {t : τ} (related : R s t) : Related R Q (.running s) (.running t)
  | stopped {e : ε} {d : δ} (related : Q e d) : Related R Q (.stopped e) (.stopped d)

variable {f : σ → Outcome σ ε}

theorem runFor_lockstep {g} {R : σ → τ → Prop} {Q : ε → δ → Prop}
    (step : ∀ s t, R s t → Outcome.Related R Q (f s) (g t)) :
    ∀ (n : ℕ) (s : σ) (t : τ), R s t → Outcome.Related R Q (runFor f n s) (runFor g n t) := by
  intro n
  induction n with
  | zero => exact fun s t related => .running related
  | succ n ih =>
    intro s t related
    have stepped := step s t related
    simp only [runFor]
    generalize f s = left, g t = right at stepped
    cases stepped with
    | running next => exact ih _ _ next
    | stopped done => exact .stopped done

variable {I : σ → Prop}

/-- What holds of the state and is kept by every step holds of the whole run. -/
theorem runFor_invariant {Q : ε → Prop} (step : ∀ s s', I s → f s = .running s' → I s')
    (stop : ∀ s e, I s → f s = .stopped e → Q e) :
    ∀ (n : ℕ) (s : σ), I s →
      (∀ s', runFor f n s = .running s' → I s') ∧ (∀ e, runFor f n s = .stopped e → Q e) := by
  intro n
  induction n with
  | zero =>
    intro s holds
    refine ⟨fun s' eq => ?_, nofun⟩
    cases eq
    exact holds
  | succ n ih =>
    intro s holds
    rw [runFor]
    cases res : f s with
    | running s' => exact ih s' (step s s' holds res)
    | stopped e =>
      refine ⟨nofun, fun e' eq => ?_⟩
      cases eq
      exact stop s e holds res

/-- A machine whose steps decrease a measure stops before the measure is used up. -/
theorem runFor_stops (measure : σ → ℕ)
    (step : ∀ s s', I s → f s = .running s' → I s' ∧ measure s' < measure s) :
    ∀ (n : ℕ) (s : σ), I s → measure s < n → ∃ e, runFor f n s = .stopped e := by
  intro n
  induction n with
  | zero => exact fun s _ impossible => absurd impossible (Nat.not_lt_zero _)
  | succ n ih =>
    intro s holds small
    rw [runFor]
    cases res : f s with
    | running s' =>
      obtain ⟨holds', decreases⟩ := step s s' holds res
      exact ih s' holds' (by omega)
    | stopped e => exact ⟨e, rfl⟩

/-- Steps that add at most one to a size add at most their number to it. -/
theorem runFor_size (size : σ → ℕ) (sizeStopped : ε → ℕ)
    (running : ∀ s s', f s = .running s' → size s' ≤ size s + 1)
    (stopped : ∀ s e, f s = .stopped e → sizeStopped e ≤ size s + 1) :
    ∀ (n : ℕ) (s : σ) (e : ε), runFor f n s = .stopped e → sizeStopped e ≤ size s + n := by
  intro n
  induction n with
  | zero => exact fun s e impossible => nomatch impossible
  | succ n ih =>
    intro s e res
    rw [runFor] at res
    cases first : f s with
    | running s' =>
      rw [first] at res
      have here := running s s' first
      have later := ih s' e res
      omega
    | stopped e' =>
      rw [first] at res
      cases res
      have here := stopped s e first
      omega

/-- A bounded run stops with a result exactly when a state it reaches within the bound does. -/
theorem runFor_eq_stopped_iff {e : ε} : ∀ (n : ℕ) (s : σ), runFor f n s = .stopped e ↔
      ∃ m < n, ∃ t, runFor f m s = .running t ∧ f t = .stopped e := by
  intro n
  induction n with
  | zero =>
    intro s
    exact ⟨nofun, fun ⟨m, impossible, _⟩ => absurd impossible (Nat.not_lt_zero m)⟩
  | succ n ih =>
    intro s
    cases first : f s with
    | running s' =>
      simp only [runFor, first, ih s']
      constructor
      · rintro ⟨m, within, t, reached, stops⟩
        exact ⟨m + 1, by omega, t, by simpa only [runFor, first] using reached, stops⟩
      · rintro ⟨m, within, t, reached, stops⟩
        cases m with
        | zero =>
          cases reached
          rw [first] at stops
          cases stops
        | succ m =>
          exact ⟨m, by omega, t, by simpa only [runFor, first] using reached, stops⟩
    | stopped e' =>
      simp only [runFor, first]
      constructor
      · intro eq
        exact ⟨0, by omega, s, rfl, first.trans (by cases eq; rfl)⟩
      · rintro ⟨m, within, t, reached, stops⟩
        cases m with
        | zero =>
          cases reached
          rw [first] at stops
          cases stops
          rfl
        | succ m => simp only [runFor, first, reduceCtorEq] at reached

/-- The states from which a bounded run makes its steps. -/
def trail (step : σ → Outcome σ ε) : ℕ → σ → List σ
  | 0, _ => []
  | n + 1, s =>
    s :: match step s with
      | .running s' => trail step n s'
      | .stopped _ => []

/-- A run that is still going has gone on from every state of its trail, and what its steps add to a
size is the sum of what each of them adds. -/
theorem runFor_trail (size weight : σ → ℕ)
    (step : ∀ s s', I s → f s = .running s' → I s' ∧ size s' = size s + weight s) :
    ∀ (n : ℕ) (s t : σ), I s → runFor f n s = .running t →
      I t ∧ size t = size s + ((trail f n s).map weight).sum ∧
        ∀ u ∈ trail f n s, I u ∧ ∃ u', f u = .running u' := by
  intro n
  induction n with
  | zero =>
    intro s t holds reached
    cases reached
    exact ⟨holds, rfl, fun _ mem => absurd mem List.not_mem_nil⟩
  | succ n ih =>
    intro s t holds reached
    rw [runFor] at reached
    rw [trail]
    cases res : f s with
    | running s' =>
      rw [res] at reached
      obtain ⟨holds', first⟩ := step s s' holds res
      obtain ⟨last, sum, running⟩ := ih s' t holds' reached
      dsimp only
      refine ⟨last, ?_, List.forall_mem_cons.mpr ⟨⟨holds, s', res⟩, running⟩⟩
      rw [List.map_cons, List.sum_cons, sum, first, Nat.add_assoc]
    | stopped e =>
      rw [res] at reached
      cases reached

section

variable {ι : Type} {f : σ → Outcome σ ε} (log : Outcome σ ε → List ι) (added : σ → List ι)
  {I : σ → Prop} {P : ι → Prop}

theorem runFor_entries (grows : ∀ s, I s → log (f s) = log (.running s) ++ added s)
    (good : ∀ s, I s → ∀ entry ∈ added s, P entry)
    (keep : ∀ s s', I s → f s = .running s' → I s') :
    ∀ (n : ℕ) (s : σ), I s →
      ∃ more, log (runFor f n s) = log (.running s) ++ more ∧ ∀ entry ∈ more, P entry := by
  intro n
  induction n with
  | zero => exact fun s _ => ⟨[], (List.append_nil _).symm, fun _ mem => nomatch mem⟩
  | succ n ih =>
    intro s holds
    have first := grows s holds
    rw [runFor]
    cases res : f s with
    | running s' =>
      rw [res] at first
      obtain ⟨more, later, all⟩ := ih s' (keep s s' holds res)
      refine ⟨added s ++ more, by simp only [later, first, List.append_assoc], ?_⟩
      intro entry mem
      exact (List.mem_append.mp mem).elim (good s holds entry) (all entry)
    | stopped e =>
      rw [res] at first
      exact ⟨added s, first, good s holds⟩

theorem runFor_added (grows : ∀ s, I s → log (f s) = log (.running s) ++ added s)
    (good : ∀ s, I s → ∀ entry ∈ added s, P entry)
    (keep : ∀ s s', I s → f s = .running s' → I s') (n : ℕ) {s : σ} (holds : I s) :
    ∃ more, log (runFor f (n + 1) s) = log (.running s) ++ (added s ++ more) ∧
      (∀ entry ∈ more, P entry) ∧ (more ≠ [] → ∃ s', f s = .running s') := by
  have first := grows s holds
  rw [runFor]
  cases res : f s with
  | running s' =>
    rw [res] at first
    obtain ⟨more, later, all⟩ := runFor_entries log added grows good keep n s' (keep s s' holds res)
    exact ⟨more, by simp only [later, first, List.append_assoc], all, fun _ => ⟨s', rfl⟩⟩
  | stopped e =>
    rw [res] at first
    exact ⟨[], by simpa using first, (fun _ mem => nomatch mem), fun added => absurd rfl added⟩

end

end BoundedRun
