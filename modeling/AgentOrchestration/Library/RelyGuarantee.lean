import AgentOrchestration.Library.Interleaving

/-!
# Threads among others

What a thread does may depend on what happens between its steps. `Thread.Honours` says
that, as long as others change the state only as `rely` allows, every step of the thread
obeys `law` and its outcome satisfies a postcondition.
-/

namespace Interleaving

set_option autoImplicit false

variable {σ ε α β κ : Type}

namespace Thread

/-! ## Reads and writes -/

/-- Look at the state, and return or raise. -/
def read (query : σ → Except ε α) : Thread σ ε α := act (fun s => s) fun s => ofExcept (query s)

def update (change : σ → σ) : Thread σ ε PUnit := act change fun _ => done ⟨⟩

variable {value : β} {s after : σ}

theorem run_ofExcept_bind_eq_ok {out : Except ε α} {k : α → Thread σ ε β} :
    (ofExcept out >>= k).run s = .ok value after ↔
      ∃ found, out = .ok found ∧ (k found).run s = .ok value after := by
  show ((ofExcept out).bind k).run s = .ok value after ↔ _
  cases out with
  | ok found => simp [ofExcept, Thread.bind]
  | error err =>
    show EStateM.Result.error err s = .ok value after ↔ _
    simp

theorem run_read_bind_eq_ok {query : σ → Except ε α} {k : α → Thread σ ε β} :
    (read query >>= k).run s = .ok value after ↔
      ∃ found, query s = .ok found ∧ (k found).run s = .ok value after :=
  run_ofExcept_bind_eq_ok

theorem Ensures.update {law P E Q change}
    (lawful : ∀ s, P s → law s (change s)) (holds : ∀ s, P s → Q ⟨⟩ (change s)) :
    Ensures law P (update change : Thread σ ε PUnit) Q E :=
  ⟨fun s before => ⟨lawful s before, trivial⟩, holds⟩

theorem Ensures.act {law : σ → σ → Prop} {P E : σ → Prop} {Q : α → σ → Prop} {write : σ → σ}
    {val : σ → α} (lawful : ∀ s, P s → law s (write s))
    (holds : ∀ s, P s → Q (val s) (write s)) :
    Ensures law P (.act write fun s => .done (val s) : Thread σ ε α) Q E :=
  ⟨fun s before => ⟨lawful s before, trivial⟩, holds⟩

/-- The thread changes nothing. -/
def Silent : Thread σ ε α → Prop
  | done _ => True
  | raised _ => True
  | act write next => ∀ s, write s = s ∧ (next s).Silent

theorem Silent.ofExcept (out : Except ε α) : (ofExcept out : Thread σ ε α).Silent := by
  cases out <;> trivial

theorem Silent.read (query : σ → Except ε α) : (read query).Silent :=
  fun s => ⟨rfl, .ofExcept (query s)⟩

theorem Silent.raiseIf (c : Prop) [Decidable c] (err : ε) :
    (raiseIf c err : Thread σ ε PUnit).Silent := by
  unfold Thread.raiseIf
  split <;> trivial

theorem Silent.bind {t : Thread σ ε α} {k : α → Thread σ ε β} (next : ∀ val, (k val).Silent) :
    t.Silent → (t >>= k).Silent := by
  show t.Silent → (t.bind k).Silent
  induction t with
  | done val => exact fun _ => next val
  | raised err => exact fun _ => trivial
  | act write rest ih => exact fun silent s => ⟨(silent s).1, ih s (silent s).2⟩

/-! ## The judgement -/

/-- From a state, and whatever `rely` allows before each of its steps, the steps of the thread obey
the law and its outcome satisfies `Q`. -/
def Honours (rely law : σ → σ → Prop) (Q : Except ε α → σ → Prop) : Thread σ ε α → σ → Prop
  | done value, s => Q (.ok value) s
  | raised error, s => Q (.error error) s
  | act write next, s =>
    ∀ s', rely s s' → law s' (write s') ∧ (next s').Honours rely law Q (write s')

variable {rely law : σ → σ → Prop} {Q : Except ε α → σ → Prop} {R : Except ε β → σ → Prop} {s : σ}

variable {t : Thread σ ε α}

theorem Honours.imp {Q'} (weaker : ∀ out s, Q out s → Q' out s) :
    ∀ {s}, t.Honours rely law Q s → t.Honours rely law Q' s := by
  induction t with
  | done val | raised err => exact fun holds => weaker _ _ holds
  | act write next ih =>
    intro s honours s' ok
    exact ⟨(honours s' ok).1, ih s' (honours s' ok).2⟩

theorem Honours.bind {t : Thread σ ε α} {k}
    (next : ∀ val s, Q (.ok val) s → (k val).Honours rely law R s)
    (raises : ∀ err s, Q (.error err) s → R (.error err) s) :
    ∀ {s : σ}, t.Honours rely law Q s → (t >>= k).Honours rely law R s := by
  show ∀ {s : σ}, t.Honours rely law Q s → (t.bind k).Honours rely law R s
  induction t with
  | done val => exact fun holds => next val _ holds
  | raised err => exact fun holds => raises err _ holds
  | act write rest ih =>
    intro s honours s' ok
    exact ⟨(honours s' ok).1, ih s' (honours s' ok).2⟩

theorem Honours.read {query} (reflexive : ∀ s, law s s) (out : ∀ s', rely s s' → Q (query s') s') :
    (read query).Honours rely law Q s := by
  intro s' allowed
  refine ⟨reflexive s', ?_⟩
  have ended := out s' allowed
  cases res : query s' with
  | ok val | error err =>
    rw [res] at ended
    simp only [res, ofExcept]
    exact ended

theorem Honours.update {Q : Except ε PUnit → σ → Prop} {change : σ → σ}
    (lawful : ∀ s', rely s s' → law s' (change s'))
    (out : ∀ s', rely s s' → Q (.ok ⟨⟩) (change s')) :
    (update change).Honours rely law Q s :=
  fun s' ok => ⟨lawful s' ok, out s' ok⟩

/-- A silent thread that nothing disturbs leaves the state as it is. -/
theorem Silent.honours (reflexive : ∀ s, law s s) (calm : ∀ s', rely s s' → s' = s)
    (silent : t.Silent) :
    t.Honours rely law (fun _ after => after = s) s := by
  induction t with
  | done val | raised err => rfl
  | act write next ih =>
    intro s' ok
    rw [calm s' ok, (silent s).1]
    exact ⟨reflexive s, ih s (silent s).2⟩

/-- Whatever happens around it, a silent thread obeys a reflexive law. -/
theorem Silent.lawful (reflexive : ∀ s, law s s) (silent : t.Silent) :
    ∀ s, t.Honours rely law (fun _ _ => True) s := by
  induction t with
  | done val | raised err => exact fun _ => trivial
  | act write next ih =>
    intro s s' ok
    rw [(silent s').1]
    exact ⟨reflexive s', ih s' (silent s').2 s'⟩

/-- The judgement survives what others may do, if the postcondition does. -/
theorem Honours.disturbed {s'} (transitive : ∀ s s' s'', rely s s' → rely s' s'' → rely s s'')
    (stable : ∀ out s s', rely s s' → Q out s → Q out s') (ok : rely s s')
    (honours : t.Honours rely law Q s) : t.Honours rely law Q s' := by
  cases t with
  | done val | raised err => exact stable _ s s' ok honours
  | act write next => exact fun s'' later => honours s'' (transitive s s' s'' ok later)

theorem Honours.step {write next} (reflexive : ∀ s, rely s s)
    (honours : (act write next).Honours rely law Q s) :
    law s (write s) ∧ (next s).Honours rely law Q (write s) :=
  honours s (reflexive s)

end Thread

/-! ## One thread and an environment -/

section

variable {rely law : σ → σ → Prop} {pool : Pool σ ε α κ}

/-- Nothing is running, or one thread whose steps obey the law whatever the environment does. -/
def OneHonours (rely law : σ → σ → Prop) (pool : Pool σ ε α κ) : Prop :=
  pool.running = [] ∨ ∃ label t, pool.running = [(label, t)] ∧
      t.Honours rely law (fun _ _ => True) pool.shared

theorem oneHonours_put {label t} (idle : pool.running = [])
    (honours : t.Honours rely law (fun _ _ => True) pool.shared) :
    OneHonours rely law (pool.put label t) := by
  cases t with
  | done val | raised err => exact .inl idle
  | act write next => exact .inr ⟨label, .act write next, by simp [Pool.put, idle], honours⟩

theorem OneHonours.advance {idx label write next} (reflexive : ∀ s, rely s s)
    (one : OneHonours rely law pool) (found : pool.running[idx]? = some (label, .act write next)) :
    OneHonours rely law (pool.advance idx label write next) ∧
      law pool.shared (write pool.shared) := by
  rcases one with idle | ⟨label', t, alone, honours⟩
  · simp [idle] at found
  · obtain ⟨rfl, eq⟩ : idx = 0 ∧ (label', t) = (label, .act write next) := by
      rw [alone] at found
      cases idx with
      | zero => exact ⟨rfl, Option.some.inj found⟩
      | succ idx => simp at found
    obtain ⟨rfl, rfl⟩ := Prod.mk.inj eq
    obtain ⟨lawful, later⟩ := honours.step reflexive
    refine ⟨oneHonours_put ?_ later, lawful⟩
    simp [alone]

theorem OneHonours.drop {idx : ℕ} (one : OneHonours rely law pool)
    (isIn : idx < pool.running.length) :
    OneHonours rely law { pool with running := pool.running.eraseIdx idx } := by
  rcases one with idle | ⟨label, t, alone, honours⟩
  · simp [idle] at isIn
  · left
    have first : idx = 0 := by simpa [alone] using isIn
    simp [alone, first]

theorem OneHonours.disturb {shared} (one : OneHonours rely law pool)
    (transitive : ∀ s s' s'', rely s s' → rely s' s'' → rely s s'')
    (ok : rely pool.shared shared) : OneHonours rely law { pool with shared } := by
  rcases one with idle | ⟨label, t, alone, honours⟩
  · exact .inl idle
  · exact .inr ⟨label, t, alone, honours.disturbed transitive (fun _ _ _ _ _ => trivial) ok⟩

end

end Interleaving
