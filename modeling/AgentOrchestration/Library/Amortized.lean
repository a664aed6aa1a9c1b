import AgentOrchestration.Library.Teams
import Mathlib.Algebra.Ring.Nat
import Mathlib.Order.Lattice.Nat

/-!
# Threads that pay for what they come to

The outcomes of threads have weights. A thread pays for its outcome with the credit it has, and
earns credit by lowering a measure of the shared state. So over a whole run of a pool the weights of
what has finished never exceed what the measure was at the start.
-/

namespace Interleaving

set_option autoImplicit false

open LabelledSystem (trace)

variable {σ ε α β κ : Type}

namespace Thread

/-- Stepping only from admitted states, the thread pays for the weight of its outcome with its
credit and with what it takes off the measure. -/
def Pays (measure : σ → ℕ) (admits : σ → Prop) (weight : Except ε α → ℕ) : ℕ → Thread σ ε α → Prop
  | credit, done value => weight (.ok value) ≤ credit
  | credit, raised error => weight (.error error) ≤ credit
  | credit, act write next => ∀ s, admits s → ∃ left,
      measure (write s) + left ≤ measure s + credit ∧ Pays measure admits weight left (next s)

section

variable {measure : σ → ℕ} {admits : σ → Prop} {weight : Except ε α → ℕ} {t : Thread σ ε α}

theorem Pays.mono {credit credit' : ℕ} (le : credit ≤ credit')
    (pays : Pays measure admits weight credit t) : Pays measure admits weight credit' t := by
  cases t with
  | done val | raised err => exact Nat.le_trans pays le
  | act write next =>
    intro s admitted
    obtain ⟨left, covered, later⟩ := pays s admitted
    exact ⟨left, covered.trans (Nat.add_le_add_left le _), later⟩

/-- The first part has to leave as much credit as the second needs. -/
theorem Pays.bind {t : Thread σ ε α} {k : α → Thread σ ε β} {weight : Except ε β → ℕ}
    {N : Except ε α → ℕ} (raises : ∀ err, weight (.error err) ≤ N (.error err))
    (next : ∀ val, Pays measure admits weight (N (.ok val)) (k val)) :
    ∀ {credit : ℕ}, Pays measure admits N credit t →
      Pays measure admits weight credit (t >>= k) := by
  show ∀ {credit : ℕ}, Pays measure admits N credit t → Pays measure admits weight credit (t.bind k)
  induction t with
  | done val => exact fun pays => (next val).mono pays
  | raised err => exact fun pays => (raises err).trans pays
  | act write rest ih =>
    intro credit pays s admitted
    obtain ⟨left, covered, later⟩ := pays s admitted
    exact ⟨left, covered, ih s later⟩

theorem Pays.act {write : σ → σ} {val : σ → α} {credit : ℕ}
    (covered : ∀ s, admits s → measure (write s) + weight (.ok (val s)) ≤ measure s + credit) :
    Pays measure admits weight credit (.act write fun s => .done (val s)) :=
  fun s admitted => ⟨weight (.ok (val s)), covered s admitted, Nat.le_refl _⟩

theorem Pays.atomic {m : EStateM ε σ α} {credit : ℕ}
    (raises : ∀ s, measure (Program.after m s) ≤ measure s + credit) :
    Pays measure admits (fun _ => 0) credit (Thread.atomic m) := by
  intro s _
  refine ⟨0, raises s, ?_⟩
  dsimp only
  cases m s <;> exact Nat.le_refl 0

theorem Pays.attempt {t weight'} (light : ∀ out, weight' (.ok out) ≤ weight out) :
    ∀ {credit : ℕ}, Pays measure admits weight credit t →
      Pays measure admits weight' credit t.attempt := by
  induction t with
  | done val | raised err => exact (light _).trans
  | act write next ih =>
    intro credit pays s admitted
    obtain ⟨left, covered, later⟩ := pays s admitted
    exact ⟨left, covered, ih s later⟩

/-- A thread that never raises the measure pays for outcomes that weigh no more than its credit. -/
theorem Steps.pays {credit : ℕ} (light : ∀ out, weight out ≤ credit) :
    t.Steps (fun write => ∀ s, measure (write s) ≤ measure s) →
      Pays measure admits weight credit t := by
  induction t with
  | done val => exact fun _ => light (.ok val)
  | raised err => exact fun _ => light (.error err)
  | act write next ih =>
    intro steps s _
    exact ⟨credit, Nat.add_le_add_right (steps.1 s) credit, ih s (steps.2 s)⟩

end

end Thread

/-! ## Pools -/

section

variable {measure : σ → ℕ} {admits : κ → σ → Prop} {weight : κ → Except ε α → ℕ} {bound : ℕ}
  {programs : κ → List (Thread σ ε α)} {pool after : Pool σ ε α κ}

variable (measure admits weight) in
noncomputable def leastCredit (entry : κ × Thread σ ε α) : ℕ :=
  sInf {credit | entry.2.Pays measure (admits entry.1) (weight entry.1) credit}

variable {entry : κ × Thread σ ε α} {credit : ℕ}

theorem leastCredit_le (pays : entry.2.Pays measure (admits entry.1) (weight entry.1) credit) :
    leastCredit measure admits weight entry ≤ credit :=
  Nat.sInf_le pays

theorem pays_leastCredit (pays : entry.2.Pays measure (admits entry.1) (weight entry.1) credit) :
    entry.2.Pays measure (admits entry.1) (weight entry.1)
      (leastCredit measure admits weight entry) := by
  have nonempty :
      {credit | entry.2.Pays measure (admits entry.1) (weight entry.1) credit}.Nonempty :=
    ⟨credit, pays⟩
  exact Nat.sInf_mem nonempty

def Pool.outcomeWeight (weight : κ → Except ε α → ℕ) (pool : Pool σ ε α κ) : ℕ :=
  (pool.finished.map fun entry => weight entry.1 entry.2).sum

variable (measure admits weight) in
/-- The measure, the credit of the running threads and the weight of the finished ones. -/
noncomputable def Pool.total (pool : Pool σ ε α κ) : ℕ :=
  measure pool.shared + (pool.running.map (leastCredit measure admits weight)).sum +
    pool.outcomeWeight weight

variable (measure admits weight bound) in
/-- Every running thread pays for its outcome, and the total stays within the bound. -/
structure Solvent (pool : Pool σ ε α κ) : Prop where
  pays : ∀ entry ∈ pool.running, ∃ credit, entry.2.Pays measure (admits entry.1)
    (weight entry.1) credit
  within : pool.total measure admits weight ≤ bound

theorem Solvent.weight_le (solvent : Solvent measure admits weight bound pool) :
    pool.outcomeWeight weight ≤ bound :=
  (Nat.le_add_left _ _).trans solvent.within

theorem Solvent.bounded (solvent : Solvent measure admits weight bound pool) :
    measure pool.shared ≤ bound :=
  (Nat.le_add_right_of_le (Nat.le_add_right _ _)).trans solvent.within

theorem Solvent.of_idle (idle : pool.running = [])
    (bounded : measure pool.shared + pool.outcomeWeight weight ≤ bound) :
    Solvent measure admits weight bound pool := by
  constructor
  · simp [idle]
  · simpa [Pool.total, idle] using bounded

theorem Solvent.put {label t} {credit : ℕ}
    (pays : t.Pays measure (admits label) (weight label) credit)
    (others : ∀ entry ∈ pool.running, ∃ credit, entry.2.Pays measure (admits entry.1)
      (weight entry.1) credit)
    (room : pool.total measure admits weight + credit ≤ bound) :
    Solvent measure admits weight bound (pool.put label t) := by
  cases t with
  | done val | raised err =>
    have paid : weight label _ ≤ credit := pays
    refine ⟨others, ?_⟩
    simp only [Pool.total, Pool.outcomeWeight, Pool.put, List.map_append, List.sum_append,
      List.map_singleton, List.sum_singleton] at room ⊢
    omega
  | act write next =>
    have least : leastCredit measure admits weight (label, Thread.act write next) ≤ credit :=
      leastCredit_le pays
    constructor
    · exact List.forall_mem_append.mpr ⟨others, List.forall_mem_singleton.mpr ⟨credit, pays⟩⟩
    · simp only [Pool.total, Pool.outcomeWeight, Pool.put, List.map_append, List.sum_append,
        List.map_singleton, List.sum_singleton] at room ⊢
      omega

theorem Solvent.putAll {label : κ} :
    ∀ {threads : List (Thread σ ε α)} {bound : ℕ} {pool : Pool σ ε α κ},
      (∀ t ∈ threads, t.Pays measure (admits label) (weight label) credit) →
      Solvent measure admits weight bound pool →
      Solvent measure admits weight (bound + threads.length * credit)
        (threads.foldl (fun pool t => pool.put label t) pool) := by
  intro threads
  induction threads with
  | nil => exact fun _ solvent => ⟨solvent.pays, Nat.le_add_right_of_le solvent.within⟩
  | cons t rest ih =>
    intro bound pool pays solvent
    have room := Nat.add_le_add_right solvent.within credit
    have put := ih (fun u later => pays u (List.mem_cons_of_mem t later))
      (.put (pays t List.mem_cons_self) solvent.pays room)
    rw [List.length_cons, Nat.succ_mul, Nat.add_comm _ credit, ← Nat.add_assoc]
    exact put

theorem Solvent.advance {idx label write next} (solvent : Solvent measure admits weight bound pool)
    (found : pool.running[idx]? = some (label, .act write next))
    (admitted : admits label pool.shared) :
    Solvent measure admits weight bound (pool.advance idx label write next) := by
  obtain ⟨left, right, split, erased⟩ := running_split found
  obtain ⟨credit, pays⟩ := solvent.pays _ (List.mem_of_getElem? found)
  obtain ⟨kept, covered, later⟩ := pays_leastCredit pays pool.shared admitted
  have total := solvent.within
  refine .put later (fun entry isIn => solvent.pays entry (List.mem_of_mem_eraseIdx isIn)) ?_
  simp only [Pool.total, split, List.map_append, List.map_cons, List.sum_append,
    List.sum_cons] at total
  simp only [Pool.total, Pool.outcomeWeight, erased, List.map_append, List.sum_append] at total ⊢
  omega

theorem Solvent.drop (solvent : Solvent measure admits weight bound pool) {idx : ℕ}
    (isIn : idx < pool.running.length) :
    Solvent measure admits weight bound { pool with running := pool.running.eraseIdx idx } := by
  obtain ⟨entry, found⟩ : ∃ entry, pool.running[idx]? = some entry :=
    ⟨_, List.getElem?_eq_getElem isIn⟩
  obtain ⟨left, right, split, erased⟩ := running_split found
  refine ⟨fun entry mem => solvent.pays entry (List.mem_of_mem_eraseIdx mem), ?_⟩
  have total := solvent.within
  simp only [Pool.total, split, List.map_append, List.map_cons, List.sum_append,
    List.sum_cons] at total
  simp only [Pool.total, Pool.outcomeWeight, erased, List.map_append, List.sum_append] at total ⊢
  omega

/-- A thread takes a step only in a state that admits it. -/
def Admitted (admits : κ → σ → Prop) (pool : Pool σ ε α κ) : Move κ → Prop
  | .start _ => True
  | .advance index => ∀ entry ∈ pool.running[index]?, admits entry.1 pool.shared
  | .drop _ => True

instance [∀ label s, Decidable (admits label s)] (move : Move κ) :
    Decidable (Admitted admits pool move) :=
  match move with
  | .start _ => .isTrue trivial
  | .advance index => inferInstanceAs (Decidable (∀ entry ∈ pool.running[index]?, _))
  | .drop _ => .isTrue trivial

/-- **Programs that start without credit keep a pool solvent.** -/
theorem solvent_trace
    (pays : ∀ label, ∀ t ∈ programs label, t.Pays measure (admits label) (weight label) 0) (moves)
    (solvent : Solvent measure admits weight bound pool)
    (admitted : ∀ t ∈ trace (step programs) pool moves, Admitted admits t.before t.action) :
    ∀ t ∈ trace (step programs) pool moves, Solvent measure admits weight bound t.after := by
  have keeps : ∀ (pool : Pool σ ε α κ) (move : Move κ) (after : Pool σ ε α κ),
      Solvent measure admits weight bound pool → Admitted admits pool move →
      step programs pool move = some after → Solvent measure admits weight bound after := by
    intro pool move after solvent admitted ran
    cases move with
    | start label =>
      cases ran
      exact solvent.putAll (pays label)
    | advance idx =>
      obtain ⟨label, write, next, found, rfl⟩ := step_advance ran
      exact solvent.advance found (admitted _ found)
    | drop idx =>
      obtain ⟨isIn, rfl⟩ := step_drop ran
      exact solvent.drop isIn
  exact LabelledSystem.trace_law keeps keeps moves pool solvent admitted

end

end Interleaving
