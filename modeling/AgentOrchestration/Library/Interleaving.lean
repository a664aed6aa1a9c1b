import AgentOrchestration.Library.LabelledSystem
import AgentOrchestration.Library.Program

/-!
# Interleaved programs

A `Thread` is a program cut into its atomic steps: between two of them other threads
may change the state. `Thread.run` is the program run without interruption, and
`Thread.atomic` makes a whole program one step. A `Pool` holds a shared state, the
threads that are running and what the others came to; its moves start a program,
advance a thread by one step, or lose a thread.
-/

namespace Interleaving

set_option autoImplicit false

open LabelledSystem (trace)

variable {σ ε α β : Type}

/-! ## Threads -/

/-- A program as the sequence of its atomic steps. A step changes the state, and what follows
depends on the state it found. -/
inductive Thread (σ ε α : Type) where
  | done (value : α)
  | raised (error : ε)
  | act (write : σ → σ) (next : σ → Thread σ ε α)

namespace Thread

/-- One thread after another. -/
def bind : Thread σ ε α → (α → Thread σ ε β) → Thread σ ε β
  | done value, k => k value
  | raised error, _ => raised error
  | act write next, k => act write fun s => (next s).bind k

instance : Monad (Thread σ ε) where
  pure := done
  bind := bind

def attempt : Thread σ ε α → Thread σ ε (Except ε α)
  | done value => done (.ok value)
  | raised error => done (.error error)
  | act write next => act write fun s => (next s).attempt

/-- Return or raise, without looking at the state. -/
def ofExcept : Except ε α → Thread σ ε α
  | .ok value => done value
  | .error error => raised error

def raiseIf (c : Prop) [Decidable c] (error : ε) : Thread σ ε PUnit := if c then raised error
                                                                       else done ⟨⟩

variable (m : EStateM ε σ α)

/-- A whole program as one step. -/
def atomic : Thread σ ε α :=
  act (Program.after m) fun s =>
    match m s with
    | .ok value _ => done value
    | .error error _ => raised error

def run : Thread σ ε α → EStateM ε σ α
  | done value => pure value
  | raised error => throw error
  | act write next => fun s => (next s).run (write s)

theorem after_act {write : σ → σ} {next : σ → Thread σ ε α} {s} :
    Program.after (act write next).run s = Program.after (next s).run (write s) := rfl

theorem run_pure (val : α) : (pure val : Thread σ ε α).run = pure val := rfl

variable (t : Thread σ ε α)

theorem bind_bind {γ : Type} (k : α → Thread σ ε β) (l : β → Thread σ ε γ) :
    (t >>= k) >>= l = t >>= fun val => k val >>= l := by
  show (t.bind k).bind l = t.bind fun val => (k val).bind l
  induction t with
  | done val => rfl
  | raised err => rfl
  | act write next ih =>
    simp only [bind]
    exact congrArg (act write) (funext ih)

theorem run_bind (k : α → Thread σ ε β) : (t >>= k).run = t.run >>= fun val => (k val).run := by
  show (t.bind k).run = _
  induction t with
  | done val | raised err => rfl
  | act write next ih =>
    funext s
    exact congrFun (ih s) (write s)

theorem run_attempt : t.attempt.run = Program.attempt t.run := by
  induction t with
  | done val | raised err => rfl
  | act write next ih =>
    funext s
    exact congrFun (ih s) (write s)

theorem run_atomic : (atomic m).run = m := by
  funext s
  show (match m s with
    | .ok val _ => done val
    | .error err _ => raised err : Thread σ ε α).run (Program.after m s) = m s
  unfold Program.after
  cases m s <;> rfl

/-! ## Laws of the single step -/

/-- Run alone from a state, every step of the thread obeys the law. -/
def Obeys (law : σ → σ → Prop) : Thread σ ε α → σ → Prop
  | done _, _ => True
  | raised _, _ => True
  | act write next, s => law s (write s) ∧ (next s).Obeys law (write s)

/-- Started in `P` and run alone, the thread returns in `Q` or raises in `E`, and every step on the
way obeys the law. -/
structure Ensures (law : σ → σ → Prop) (P : σ → Prop) (t : Thread σ ε α) (Q : α → σ → Prop)
    (E : σ → Prop) : Prop where
  obeys : ∀ s, P s → t.Obeys law s
  triple : Program.Triple P t.run Q E

variable {law : σ → σ → Prop} {P : σ → Prop} {Q : α → σ → Prop} {R : β → σ → Prop} {E : σ → Prop}

theorem Ensures.done {val} (holds : ∀ s, P s → Q val s) :
    Ensures law P (done val : Thread σ ε α) Q E :=
  ⟨fun _ _ => trivial, .pure holds⟩

theorem Ensures.raised {err} (holds : ∀ s, P s → E s) :
    Ensures law P (raised err : Thread σ ε α) Q E :=
  ⟨fun _ _ => trivial, .throw holds⟩

variable {t : Thread σ ε α}

theorem Ensures.unreached : Ensures law (fun _ => False) t Q E :=
  ⟨fun _ => False.elim, fun _ => False.elim⟩

theorem Ensures.of_fact {fact} (ensures : fact → Ensures law P t Q E) :
    Ensures law (fun s => fact ∧ P s) t Q E :=
  ⟨fun s before => (ensures before.1).obeys s before.2, fun s before =>
    (ensures before.1).triple s before.2⟩

theorem Ensures.atomic {m : EStateM ε σ α} (triple : Program.Triple P m Q E)
    (lawful : ∀ s, P s → law s (Program.after m s)) : Ensures law P (atomic m) Q E := by
  constructor
  · intro s before
    refine ⟨lawful s before, ?_⟩
    simp only
    cases m s <;> trivial
  · rw [run_atomic]
    exact triple

theorem Ensures.reads {m : EStateM ε σ α} (reflexive : ∀ s, law s s)
    (reads : ∀ I : σ → Prop, Program.Keeps I m) (raises : ∀ s, P s → E s) :
    Ensures law P (Thread.atomic m) (fun _ => P) E := by
  refine .atomic ((reads P).imp (fun _ holds => holds) (fun _ _ holds => holds) raises)
    fun s _ => ?_
  rw [show Program.after m s = s from (reads (· = s)).after rfl]
  exact reflexive s

theorem Ensures.ofExcept (out : Except ε α) (raises : ∀ s, P s → E s) :
    Ensures law P (ofExcept out) (fun _ => P) E := by
  cases out with
  | ok val => exact .done fun _ holds => holds
  | error err => exact .raised raises

variable {k : α → Thread σ ε β}

theorem Ensures.bind_ofExcept {out} (raises : ∀ s, P s → E s)
    (next : ∀ val, out = .ok val → Ensures law P (k val) R E) :
    Ensures law P (Thread.ofExcept out >>= k) R E := by
  cases out with
  | ok val => exact next val rfl
  | error err => exact .raised raises

theorem Ensures.raiseIf (c : Prop) [Decidable c] (err : ε) (raises : ∀ s, P s → E s) :
    Ensures law P (raiseIf c err) (fun _ => P) E := by
  unfold Thread.raiseIf
  split
  · exact .raised raises
  · exact .done fun _ holds => holds

theorem Ensures.ite {c : Prop} [Decidable c] {t u : Thread σ ε α} (yes : Ensures law P t Q E)
    (no : Ensures law P u Q E) : Ensures law P (if c then t else u) Q E := by
  split
  · exact yes
  · exact no

theorem obeys_bind : ∀ {s}, t.Obeys law s →
    (∀ val after, t.run s = .ok val after → (k val).Obeys law after) →
      (t.bind k).Obeys law s := by
  induction t with
  | done val => exact fun _ later => later val _ rfl
  | raised err => exact fun _ _ => trivial
  | act write next ih =>
    intro s obeys later
    exact ⟨obeys.1, ih s obeys.2 later⟩

theorem Ensures.bind {t : Thread σ ε α} {k : α → Thread σ ε β} (first : Ensures law P t Q E)
    (next : ∀ val, Ensures law (Q val) (k val) R E) : Ensures law P (t >>= k) R E := by
  constructor
  · intro s before
    refine obeys_bind (first.obeys s before) fun val after gave => ?_
    have stepped := first.triple s before
    rw [gave] at stepped
    exact (next val).obeys after stepped
  · rw [run_bind]
    exact first.triple.bind fun val => (next val).triple

theorem obeys_attempt : ∀ {s}, t.Obeys law s → t.attempt.Obeys law s := by
  induction t with
  | done val | raised err => exact fun _ => trivial
  | act write next ih =>
    intro s obeys
    exact ⟨obeys.1, ih s obeys.2⟩

theorem Ensures.attempt {t : Thread σ ε α} {E' : σ → Prop} (inner : Ensures law P t Q E) :
    Ensures law P t.attempt
      (fun out s => match out with
        | .ok val => Q val s
        | .error _ => E s) E' := by
  refine ⟨fun s before => obeys_attempt (inner.obeys s before), ?_⟩
  rw [run_attempt]
  exact inner.triple.attempt

theorem Ensures.imp {P' : σ → Prop} {Q' : α → σ → Prop} {E' : σ → Prop} {t : Thread σ ε α}
    (ensures : Ensures law P t Q E) (pre : ∀ s, P' s → P s)
    (post : ∀ val s, Q val s → Q' val s) (raised : ∀ s, E s → E' s) :
    Ensures law P' t Q' E' :=
  ⟨fun s before => ensures.obeys s (pre s before), ensures.triple.imp pre post raised⟩

end Thread

/-! ## Pools -/

variable {κ : Type}

/-- Threads over a shared state: those that are running, and what the others came to. -/
structure Pool (σ ε α κ : Type) where
  shared : σ
  running : List (κ × Thread σ ε α)
  finished : List (κ × Except ε α)

/-- What can happen in a pool. -/
inductive Move (κ : Type) where
  | start (label : κ)
  /-- A running thread takes its next step. -/
  | advance (index : ℕ)
  /-- A running thread is lost. -/
  | drop (index : ℕ)

variable (pool : Pool σ ε α κ) (label : κ)

/-- Add a thread, to the running ones or to those that are through. -/
def Pool.put : Thread σ ε α → Pool σ ε α κ
  | .done value => { pool with finished := pool.finished ++ [(label, .ok value)] }
  | .raised error => { pool with finished := pool.finished ++ [(label, .error error)] }
  | .act write next => { pool with running := pool.running ++ [(label, .act write next)] }

variable (index : ℕ)

@[simp] theorem Pool.put_shared (t : Thread σ ε α) : (pool.put label t).shared = pool.shared := by
  cases t <;> rfl

/-- The pool with one thread advanced by the step it is about to take. -/
def Pool.advance (label : κ) (write : σ → σ) (next : σ → Thread σ ε α) : Pool σ ε α κ :=
  Pool.put { pool with shared := write pool.shared, running := pool.running.eraseIdx index } label
    (next pool.shared)

@[simp] theorem Pool.advance_shared (label write next) :
    (pool.advance index label write next).shared = write pool.shared :=
  Pool.put_shared _ _ _

/-- One move. A label may stand for several programs that are started together. -/
def step (programs : κ → List (Thread σ ε α)) (pool : Pool σ ε α κ) : Move κ → Option (Pool σ ε α κ)
  | .start label =>
    some ((programs label).foldl (fun pool thread => pool.put label thread) pool)
  | .advance index =>
    match pool.running[index]? with
    | some (label, .act write next) => some (pool.advance index label write next)
    | _ => none
  | .drop index =>
    if index < pool.running.length then
      some { pool with running := pool.running.eraseIdx index }
    else none

variable {programs : κ → List (Thread σ ε α)} {pool after : Pool σ ε α κ}

theorem step_advance {idx : ℕ} (ran : step programs pool (.advance idx) = some after) :
    ∃ label write next, pool.running[idx]? = some (label, .act write next) ∧
      after = pool.advance idx label write next := by
  rw [step] at ran
  split at ran
  · rename_i label write next found
    exact ⟨label, write, next, found, (Option.some.inj ran).symm⟩
  · cases ran

theorem step_drop {idx : ℕ} (ran : step programs pool (.drop idx) = some after) :
    idx < pool.running.length ∧ after = { pool with running := pool.running.eraseIdx idx } := by
  rw [step] at ran
  split at ran
  · rename_i isIn
    exact ⟨isIn, (Option.some.inj ran).symm⟩
  · cases ran

theorem running_split {idx entry} (found : pool.running[idx]? = some entry) :
    ∃ left right, pool.running = left ++ entry :: right ∧
      pool.running.eraseIdx idx = left ++ right := by
  obtain ⟨isIn, eq⟩ := List.getElem?_eq_some_iff.mp found
  refine ⟨pool.running.take idx, pool.running.drop (idx + 1), ?_,
    List.eraseIdx_eq_take_drop_succ _ _⟩
  rw [← eq, List.getElem_cons_drop, List.take_append_drop]

/-! ## One program at a time -/

section

variable {program : κ → Thread σ ε α} {law : σ → σ → Prop}

/-- Nothing is running, or one thread that obeys the law from here on. -/
def OneLawful (law : σ → σ → Prop) (pool : Pool σ ε α κ) : Prop :=
  pool.running = [] ∨ ∃ label t, pool.running = [(label, t)] ∧ t.Obeys law pool.shared

theorem oneLawful_put {label t} (idle : pool.running = [])
    (obeys : t.Obeys law pool.shared) : OneLawful law (pool.put label t) := by
  cases t with
  | done val | raised err => exact .inl idle
  | act write next => exact .inr ⟨label, .act write next, by simp [Pool.put, idle], obeys⟩

theorem OneLawful.advance {idx label write next} (lawful : OneLawful law pool)
    (found : pool.running[idx]? = some (label, .act write next)) :
    OneLawful law (pool.advance idx label write next) ∧ law pool.shared (write pool.shared) := by
  rcases lawful with idle | ⟨other, t, single, ahead⟩
  · rw [idle] at found
    cases found
  · rw [single] at found
    cases idx with
    | succ later => cases found
    | zero =>
      cases found
      exact ⟨oneLawful_put (by simp [single]) ahead.2, ahead.1⟩

theorem OneLawful.drop {idx : ℕ} (lawful : OneLawful law pool) (isIn : idx < pool.running.length) :
    OneLawful law { pool with running := pool.running.eraseIdx idx } := by
  left
  rcases lawful with idle | ⟨label, t, single, -⟩
  · rw [idle] at isIn
    cases isIn
  · rw [single, List.length_singleton, Nat.lt_one_iff] at isIn
    rw [isIn, single]
    rfl

/-- A move that starts programs only while nothing is running, and only in states that suit them. -/
def Exclusive (G : σ → κ → Prop) (pool : Pool σ ε α κ) : Move κ → Prop
  | .start label => pool.running = [] ∧ G pool.shared label
  | .advance _ => True
  | .drop _ => True

variable {G : σ → κ → Prop}

instance [∀ s label, Decidable (G s label)] (pool : Pool σ ε α κ) :
    ∀ move, Decidable (Exclusive G pool move)
  | .start label => inferInstanceAs (Decidable (pool.running = [] ∧ G pool.shared label))
  | .advance _ => inferInstanceAs (Decidable True)
  | .drop _ => inferInstanceAs (Decidable True)

theorem step_exclusive (reflexive : ∀ s, law s s)
    (obeys : ∀ label s, G s label → (program label).Obeys law s) {move}
    (lawful : OneLawful law pool) (exclusive : Exclusive G pool move)
    (ran : step (fun label => [program label]) pool move = some after) :
    OneLawful law after ∧ law pool.shared after.shared := by
  cases move with
  | start label =>
    cases ran
    refine ⟨oneLawful_put exclusive.1 (obeys label _ exclusive.2), ?_⟩
    rw [List.foldl_cons, List.foldl_nil, Pool.put_shared]
    exact reflexive _
  | advance idx =>
    obtain ⟨label, write, next, found, rfl⟩ := step_advance ran
    rw [Pool.advance_shared]
    exact lawful.advance found
  | drop idx =>
    obtain ⟨isIn, rfl⟩ := step_drop ran
    exact ⟨lawful.drop isIn, reflexive _⟩

/-- **If programs are started one at a time, in states from which each of them obeys the law alone,
then every move of the pool obeys it.** -/
theorem exclusive_trace (reflexive : ∀ s, law s s)
    (obeys : ∀ label s, G s label → (program label).Obeys law s) (moves) (idle : pool.running = [])
    (exclusive : ∀ t ∈ trace (step fun label => [program label]) pool moves,
      Exclusive G t.before t.action) :
    ∀ t ∈ trace (step fun label => [program label]) pool moves,
      law t.before.shared t.after.shared := by
  refine LabelledSystem.trace_law (I := OneLawful law) (G := Exclusive G) ?_ ?_ moves pool
    (.inl idle) exclusive
  · intro before move after lawful exclusive ran
    exact (step_exclusive reflexive obeys lawful exclusive ran).1
  · intro before move after lawful exclusive ran
    exact (step_exclusive reflexive obeys lawful exclusive ran).2

end

end Interleaving
