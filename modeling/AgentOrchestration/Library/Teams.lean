import AgentOrchestration.Library.RelyGuarantee

/-!
# Threads side by side

Several threads run in one pool, each with what it relies on and the law that its steps obey.
If the law of every thread is tolerated by the others, then every step obeys the law of the
thread that takes it.
-/

namespace Interleaving

set_option autoImplicit false

variable {σ ε α β κ : Type}

namespace Thread

/-! ## Kinds of steps -/

/-- Every step of the thread is of a kind, whatever states it meets. -/
def Steps (kind : (σ → σ) → Prop) : Thread σ ε α → Prop
  | done _ => True
  | raised _ => True
  | act write next => kind write ∧ ∀ s, (next s).Steps kind

variable {kind : (σ → σ) → Prop}

theorem Steps.bind {t : Thread σ ε α} {k : α → Thread σ ε β} (next : ∀ val, (k val).Steps kind) :
    t.Steps kind → (t >>= k).Steps kind := by
  show t.Steps kind → (t.bind k).Steps kind
  induction t with
  | done val => exact fun _ => next val
  | raised err => exact fun _ => trivial
  | act write rest ih => exact fun steps => ⟨steps.1, fun s => ih s (steps.2 s)⟩

variable {t : Thread σ ε α} {k : α → Thread σ ε β}

theorem Steps.andThen (first : t.Steps kind) (next : ∀ val, (k val).Steps kind) :
    (t >>= k).Steps kind :=
  Steps.bind next first

theorem Steps.ite {c : Prop} [Decidable c] {t u : Thread σ ε α} (yes : t.Steps kind)
    (no : u.Steps kind) : (if c then t else u).Steps kind := by
  split
  · exact yes
  · exact no

theorem Steps.attempt {t : Thread σ ε α} : t.Steps kind → t.attempt.Steps kind := by
  induction t with
  | done val | raised err => exact fun _ => trivial
  | act write next ih => exact fun steps => ⟨steps.1, fun s => ih s (steps.2 s)⟩

theorem Steps.atomic {m : EStateM ε σ α} (isKind : kind (Program.after m)) :
    (Thread.atomic m).Steps kind := by
  refine ⟨isKind, fun s => ?_⟩
  dsimp only
  cases m s <;> trivial

theorem Steps.ofExcept (out : Except ε α) : (Thread.ofExcept out : Thread σ ε α).Steps kind := by
  cases out <;> trivial

theorem Steps.read {query : σ → Except ε α} (isKind : kind fun s => s) :
    (Thread.read query).Steps kind :=
  ⟨isKind, fun s => .ofExcept (query s)⟩

theorem Steps.update {change} (isKind : kind change) :
    (Thread.update change : Thread σ ε PUnit).Steps kind :=
  ⟨isKind, fun _ => trivial⟩

theorem Steps.raiseIf (c : Prop) [Decidable c] (err : ε) :
    (Thread.raiseIf c err : Thread σ ε PUnit).Steps kind := by
  unfold Thread.raiseIf
  split <;> trivial

theorem Steps.mono {kind'} (weaker : ∀ write, kind write → kind' write) :
    t.Steps kind → t.Steps kind' := by
  induction t with
  | done val | raised err => exact fun _ => trivial
  | act write next ih => exact fun steps => ⟨weaker write steps.1, fun s => ih s (steps.2 s)⟩

variable {rely law : σ → σ → Prop}

/-- A thread whose steps all keep an invariant that others keep as well. -/
theorem Steps.honours {I} (lawful : ∀ write, kind write → ∀ s, I s → law s (write s) ∧ I (write s))
    (stable : ∀ s s', rely s s' → I s → I s') :
    ∀ {s}, t.Steps kind → I s → t.Honours rely law (fun _ => I) s := by
  induction t with
  | done val | raised err => exact fun _ holds => holds
  | act write next ih =>
    intro s steps holds s' ok
    obtain ⟨obeys, kept⟩ := lawful write steps.1 s' (stable s s' ok holds)
    exact ⟨obeys, ih s' (steps.2 s') kept⟩

theorem Honours.andThen {s} (first : t.Honours rely law (fun _ _ => True) s)
    (next : ∀ val s, (k val).Honours rely law (fun _ _ => True) s) :
    (t >>= k).Honours rely law (fun _ _ => True) s :=
  Honours.bind (fun val s _ => next val s) (fun _ _ _ => trivial) first

theorem Honours.attempt {rely law : σ → σ → Prop} {Q : Except ε α → σ → Prop} {t : Thread σ ε α} :
    ∀ {s : σ}, t.Honours rely law Q s → t.attempt.Honours rely law
        (fun (out : Except ε (Except ε α)) s => ∃ inner, out = .ok inner ∧ Q inner s) s := by
  induction t with
  | done val | raised err => exact fun holds => ⟨_, rfl, holds⟩
  | act write next ih =>
    intro s honours s' ok
    exact ⟨(honours s' ok).1, ih s' (honours s' ok).2⟩

end Thread

/-! ## Teams -/

section

variable {rely law : κ → σ → σ → Prop} {kind : κ → (σ → σ) → Prop} {pool : Pool σ ε α κ}

/-- One thread may rely on what another one does. -/
def Tolerates (rely law : κ → σ → σ → Prop) (label other : κ) : Prop :=
  ∀ s s', law other s s' → rely label s s'

/-- The running threads tolerate each other, and each of them honours its law. -/
structure Team (rely law : κ → σ → σ → Prop) (kind : κ → (σ → σ) → Prop) (pool : Pool σ ε α κ) :
    Prop where
  honours : ∀ entry ∈ pool.running, entry.2.Honours (rely entry.1) (law entry.1)
    (fun _ _ => True) pool.shared
  steps : ∀ entry ∈ pool.running, entry.2.Steps (kind entry.1)
  tolerates : pool.running.Pairwise fun first second =>
    Tolerates rely law first.1 second.1 ∧ Tolerates rely law second.1 first.1

theorem Team.put (team : Team rely law kind pool) {label t}
    (honours : t.Honours (rely label) (law label) (fun _ _ => True) pool.shared)
      (steps : t.Steps (kind label))
    (tolerates : ∀ entry ∈ pool.running,
      Tolerates rely law entry.1 label ∧ Tolerates rely law label entry.1) :
    Team rely law kind (pool.put label t) := by
  cases t with
  | done val | raised err => exact ⟨team.honours, team.steps, team.tolerates⟩
  | act write next =>
    refine ⟨?_, ?_, ?_⟩
    · exact List.forall_mem_append.mpr ⟨team.honours, List.forall_mem_singleton.mpr honours⟩
    · exact List.forall_mem_append.mpr ⟨team.steps, List.forall_mem_singleton.mpr steps⟩
    · refine List.pairwise_append.mpr ⟨team.tolerates, List.pairwise_singleton _ _, ?_⟩
      intro entry mem new isNew
      rw [List.mem_singleton.mp isNew]
      exact tolerates entry mem

theorem Team.drop (team : Team rely law kind pool) (idx : ℕ) :
    Team rely law kind { pool with running := pool.running.eraseIdx idx } :=
  ⟨fun entry mem => team.honours entry (List.mem_of_mem_eraseIdx mem),
    fun entry mem => team.steps entry (List.mem_of_mem_eraseIdx mem),
    team.tolerates.sublist (List.eraseIdx_sublist _ _)⟩

/-- **A step of the team is lawful and keeps it a team.** -/
theorem Team.advance (team : Team rely law kind pool) {idx label write next}
    (reflexive : ∀ label s, rely label s s)
    (transitive : ∀ label s s' s'', rely label s s' → rely label s' s'' → rely label s s'')
    (found : pool.running[idx]? = some (label, .act write next)) :
    Team rely law kind (pool.advance idx label write next) ∧
      law label pool.shared (write pool.shared) ∧
      kind label write := by
  have mem : (label, Thread.act write next) ∈ pool.running := List.mem_of_getElem? found
  obtain ⟨lawful, later⟩ := (team.honours _ mem).step (reflexive label)
  have steps := team.steps _ mem
  obtain ⟨left, right, split, erased⟩ := running_split found
  have tolerates := team.tolerates
  rw [split] at tolerates
  have others : ∀ entry ∈ pool.running.eraseIdx idx,
      Tolerates rely law entry.1 label ∧ Tolerates rely law label entry.1 := by
    intro entry other
    rw [erased] at other
    rcases List.mem_append.mp other with before | behind
    · exact (List.pairwise_append.mp tolerates).2.2 entry before _ List.mem_cons_self
    · exact ((List.pairwise_cons.mp (List.pairwise_append.mp tolerates).2.1).1 entry behind).symm
  have rest : Team rely law kind
      { pool with shared := write pool.shared, running := pool.running.eraseIdx idx } := by
    refine ⟨fun entry other => ?_, (team.drop idx).steps, (team.drop idx).tolerates⟩
    exact (team.honours entry (List.mem_of_mem_eraseIdx other)).disturbed (transitive entry.1)
      (fun _ _ _ _ _ => trivial) ((others entry other).1 _ _ lawful)
  exact ⟨rest.put later (steps.2 pool.shared) others, lawful, steps.1⟩

end

end Interleaving
