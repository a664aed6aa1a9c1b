import AgentOrchestration.Library.RelyGuarantee
import Mathlib.Logic.Function.Basic

/-!
# Threads that follow a protocol

A protocol says which steps a thread may take in the role it plays, and which role it
plays next. `Thread.Follows` says that a thread keeps to a protocol whatever happens
between its steps, and that the role it ends in allows its outcome.
-/

namespace Interleaving

set_option autoImplicit false

open LabelledSystem (final final_invariant)

variable {σ τ ε δ α β π κ θ : Type}

namespace Thread

/-! ## Larger states and failing steps -/

/-- A thread over a part of the state, with its errors relabelled. -/
def within (get : σ → τ) (set : σ → τ → σ) (label : ε → δ) : Thread τ ε α → Thread σ δ α
  | done value => done value
  | raised error => raised (label error)
  | act write next =>
    act (fun s => set s (write (get s))) fun s => (next (get s)).within get set label

/-- The thread, with steps that raise instead of being taken. -/
def interrupted : Thread σ ε α → (ℕ → Option ε) → Thread σ ε α
  | done value, _ => done value
  | raised error, _ => raised error
  | act write next, failures =>
    match failures 0 with
    | some error => raised error
    | none => act write fun s => (next s).interrupted fun n => failures (n + 1)

/-- Whatever the state, the steps of the thread obey the law and its value satisfies `P`. -/
def Always (law : σ → σ → Prop) (P : α → Prop) : Thread σ ε α → Prop
  | done value => P value
  | raised _ => True
  | act write next => ∀ s, law s (write s) ∧ (next s).Always law P

variable {law : σ → σ → Prop} {P : α → Prop} {R : β → Prop}

theorem always_of_forall (lawful : ∀ s s', law s s') (holds : ∀ val, P val)
    (t : Thread σ ε α) : t.Always law P := by
  induction t with
  | done val => exact holds val
  | raised err => trivial
  | act write next ih => exact fun s => ⟨lawful s (write s), ih s⟩

theorem Always.bind {t : Thread σ ε α} {k} (next : ∀ val, P val → (k val).Always law R) :
    t.Always law P → (t >>= k).Always law R := by
  show t.Always law P → (t.bind k).Always law R
  induction t with
  | done val => exact next val
  | raised err => exact fun _ => trivial
  | act write rest ih => exact fun always s => ⟨(always s).1, ih s (always s).2⟩

theorem Always.ofExcept {out} (holds : ∀ val, P val) :
    (ofExcept out : Thread σ ε α).Always law P := by
  cases out with
  | ok val => exact holds val
  | error err => trivial

theorem Always.read {query : σ → Except ε α} (reflexive : ∀ s, law s s)
    (holds : ∀ val, P val) : (read query).Always law P :=
  fun s => ⟨reflexive s, .ofExcept holds⟩

theorem Always.update {change} (lawful : ∀ s, law s (change s)) :
    (update change : Thread σ ε PUnit).Always law fun _ => True :=
  fun s => ⟨lawful s, trivial⟩

theorem Always.raiseIf {c} [Decidable c] {err} :
    (raiseIf c err : Thread σ ε PUnit).Always law fun _ => True := by
  unfold Thread.raiseIf
  split <;> trivial

theorem Always.interrupted {t : Thread σ ε α} :
    ∀ {failures : ℕ → Option ε}, t.Always law P → (t.interrupted failures).Always law P := by
  induction t with
  | done val | raised err => exact fun always => always
  | act write next ih =>
    intro failures always
    rw [Thread.interrupted]
    cases failures 0 with
    | some err => trivial
    | none => exact fun s => ⟨(always s).1, ih s (always s).2⟩

/-- A part of the state may change as the law of the whole allows. -/
theorem Always.within {get : σ → τ} {set : σ → τ → σ} {label : ε → δ} {t : Thread τ ε α}
    (lawful : ∀ s x, law s (set s x)) :
    (t.within get set label).Always law fun _ => True := by
  induction t with
  | done val | raised err => trivial
  | act write next ih => exact fun s => ⟨lawful s _, ih (get s)⟩

/-! ## Following a protocol -/

/-- The steps of the thread are those of the protocol, from the role it plays and whatever the
state, and the role it ends in allows its outcome. -/
def Follows (protocol : π → σ → σ → π → Prop) (ends : π → Except ε α → Prop) :
    π → Thread σ ε α → Prop
  | role, done value => ends role (.ok value)
  | role, raised error => ends role (.error error)
  | role, act write next =>
    ∀ s, ∃ role', protocol role s (write s) role' ∧ (next s).Follows protocol ends role'

variable {protocol : π → σ → σ → π → Prop} {ends : π → Except ε α → Prop}
  {ends' : π → Except ε β → Prop}

/-- What follows goes on in the role in which the first thread returned. -/
theorem Follows.bind {t : Thread σ ε α} {k}
    (next : ∀ role val, ends role (.ok val) → (k val).Follows protocol ends' role)
    (raises : ∀ role err, ends role (.error err) → ends' role (.error err)) :
    ∀ {role : π}, t.Follows protocol ends role → (t >>= k).Follows protocol ends' role := by
  show ∀ {role : π}, t.Follows protocol ends role → (t.bind k).Follows protocol ends' role
  induction t with
  | done val => exact fun follows => next _ val follows
  | raised err => exact fun follows => raises _ err follows
  | act write rest ih =>
    intro role follows s
    obtain ⟨role', allowed, later⟩ := follows s
    exact ⟨role', allowed, ih s later⟩

/-- A thread over a part of the state keeps its role, if the protocol lets the part change. -/
theorem Follows.within {get : σ → τ} {set : σ → τ → σ} {label : ε → δ} {law : τ → τ → Prop}
    {role : π} {t : Thread τ ε α} (idle : ∀ s x, law (get s) x → protocol role s (set s x) role) :
    t.Always law P → (t.within get set label).Follows protocol (fun role' out => role' = role ∧
          match out with
          | .ok val => P val
          | .error error => ∃ inner, error = label inner)
        role := by
  induction t with
  | done val => exact fun always => ⟨rfl, always⟩
  | raised error => exact fun _ => ⟨rfl, error, rfl⟩
  | act write next ih =>
    intro always s
    exact ⟨role, idle s _ (always (get s)).1, ih (get s) (always (get s)).2⟩

/-! ## One thread and the others -/

/-- Started in a state, and with what `others` may do before each of its steps, the thread may come
to this outcome and leave this state. -/
def Among (others : σ → σ → Prop) : Thread σ ε α → σ → Except ε α → σ → Prop
  | done value, s, outcome, after => outcome = .ok value ∧ after = s
  | raised error, s, outcome, after => outcome = .error error ∧ after = s
  | act write next, s, outcome, after =>
    ∃ s', others s s' ∧ (next s').Among others (write s') outcome after

/-- What a thread comes to when nobody disturbs it. -/
def outcome (t : Thread σ ε α) (s : σ) : Except ε α :=
  match t.run s with
  | .ok value _ => .ok value
  | .error error _ => .error error

theorem among_run {others} (reflexive : ∀ s, others s s) (t : Thread σ ε α) :
    ∀ s, t.Among others s (t.outcome s) (Program.after t.run s) := by
  induction t with
  | done val | raised err => exact fun s => ⟨rfl, rfl⟩
  | act write next ih => exact fun s => ⟨s, reflexive s, ih s (write s)⟩

/-- An invariant of role and state that the protocol and the others keep holds where the thread
ends, in a role that allows its outcome. -/
theorem Follows.among {others : σ → σ → Prop} {I : π → σ → Prop}
    (own : ∀ role s s' role', I role s → protocol role s s' role' → I role' s')
    (disturbed : ∀ role s s', I role s → others s s' → I role s') {t : Thread σ ε α} {out after} :
    ∀ {role : π} {s : σ}, t.Follows protocol ends role → I role s →
      t.Among others s out after → ∃ role', I role' after ∧ ends role' out := by
  induction t with
  | done val | raised err =>
    rintro role s follows holds ⟨rfl, rfl⟩
    exact ⟨role, holds, follows⟩
  | act write next ih =>
    rintro role s follows holds ⟨s', allowed, later⟩
    obtain ⟨role', step, rest⟩ := follows s'
    exact ih s' rest (own role s' _ role' (disturbed role s s' holds allowed) step) later

end Thread

/-! ## Crews -/

/-- Threads over a shared state, in the order in which they started. -/
structure Crew (σ ε α : Type) where
  shared : σ
  threads : List (Thread σ ε α)

namespace Crew

/-- Nothing has started. -/
def idle (s : σ) : Crew σ ε α := ⟨s, []⟩

def start (crew : Crew σ ε α) (t : Thread σ ε α) : Crew σ ε α :=
  { crew with threads := crew.threads ++ [t] }

def advance (crew : Crew σ ε α) (n : ℕ) : Option (Crew σ ε α) :=
  match crew.threads[n]? with
  | some (.act write next) =>
    some { shared := write crew.shared, threads := crew.threads.set n (next crew.shared) }
  | _ => none

/-- What a thread came to, if it is through. -/
def outcome (crew : Crew σ ε α) (n : ℕ) : Option (Except ε α) :=
  match crew.threads[n]? with
  | some (.done value) => some (.ok value)
  | some (.raised error) => some (.error error)
  | _ => none

/-- What can happen in a crew. A thread that is lost just takes no more steps. -/
inductive Move (κ θ : Type) where
  | start (call : κ)
  | advance (n : ℕ)
  /-- The environment changes the state. -/
  | other (change : θ)

def step (program : κ → Thread σ ε α) (environment : θ → σ → Option σ) (crew : Crew σ ε α) :
    Move κ θ → Option (Crew σ ε α)
  | .start call => some (crew.start (program call))
  | .advance n => crew.advance n
  | .other change => (environment change crew.shared).map fun s => { crew with shared := s }

variable {protocol : π → σ → σ → π → Prop} {ends : π → Except ε α → Prop} {roles : ℕ → π}
  {first : π} {crew after : Crew σ ε α}

/-- The roles that the threads play; those that have not started will begin in the first role. -/
structure Cast (protocol : π → σ → σ → π → Prop) (ends : π → Except ε α → Prop) (first : π)
    (roles : ℕ → π) (crew : Crew σ ε α) : Prop where
  follows : ∀ n (t : Thread σ ε α), crew.threads[n]? = some t → t.Follows protocol ends (roles n)
  waiting : ∀ n, crew.threads.length ≤ n → roles n = first

theorem cast_idle (s : σ) : Cast protocol ends first (fun _ => first) (idle s : Crew σ ε α) :=
  ⟨fun _ _ found => by simp [idle] at found, fun _ _ => rfl⟩

theorem Cast.start (cast : Cast protocol ends first roles crew) {t}
    (follows : t.Follows protocol ends first) :
    Cast protocol ends first roles (crew.start t) := by
  constructor
  · intro n u found
    rw [Crew.start] at found
    rcases Nat.lt_or_ge n crew.threads.length with old | new
    · rw [List.getElem?_append_left old] at found
      exact cast.follows n u found
    · rw [List.getElem?_append_right new, List.getElem?_singleton] at found
      split at found
      · rw [← Option.some.inj found, cast.waiting n new]
        exact follows
      · cases found
  · intro n outside
    refine cast.waiting n (Nat.le_trans ?_ outside)
    simp [Crew.start]

theorem Cast.advance {n : ℕ} (cast : Cast protocol ends first roles crew)
    (ran : crew.advance n = some after) :
    ∃ role, protocol (roles n) crew.shared after.shared role ∧
      Cast protocol ends first (Function.update roles n role) after := by
  rw [Crew.advance] at ran
  split at ran
  · rename_i write next found
    cases ran
    have isIn : n < crew.threads.length := (List.getElem?_eq_some_iff.mp found).1
    obtain ⟨role, allowed, later⟩ := cast.follows n _ found crew.shared
    refine ⟨role, allowed, ?_, ?_⟩
    · intro m t at_m
      by_cases eq : n = m
      · subst eq
        rw [List.getElem?_set_self isIn] at at_m
        rw [Function.update_self, ← Option.some.inj at_m]
        exact later
      · rw [List.getElem?_set_ne eq] at at_m
        rw [Function.update_of_ne (Ne.symm eq)]
        exact cast.follows m t at_m
    · intro m outside
      rw [List.length_set] at outside
      rw [Function.update_of_ne (by omega)]
      exact cast.waiting m outside
  · cases ran

/-- A thread that is through ended in a role that allows its outcome. -/
theorem Cast.ends_of_outcome {n out} (cast : Cast protocol ends first roles crew)
    (through : crew.outcome n = some out) :
    ends (roles n) out := by
  rw [Crew.outcome] at through
  split at through
  · rename_i val found
    cases through
    exact cast.follows n _ found
  · rename_i err found
    cases through
    exact cast.follows n _ found
  · cases through

variable {program : κ → Thread σ ε α} {environment : θ → σ → Option σ} {I : σ → (ℕ → π) → Prop}

/-- **An invariant of the state and the roles, kept by the protocol and by the environment, holds
after every run.** -/
theorem crew_invariant (follows : ∀ call, (program call).Follows protocol ends first)
    (own : ∀ s roles n s' role, I s roles → protocol (roles n) s s' role →
      I s' (Function.update roles n role))
    (disturbed : ∀ s roles change s', I s roles → environment change s = some s' → I s' roles)
    (moves) (cast : Cast protocol ends first roles crew) (holds : I crew.shared roles) :
    ∃ roles', Cast protocol ends first roles' (final (step program environment) crew moves) ∧
      I (final (step program environment) crew moves).shared roles' := by
  refine final_invariant (I := fun crew => ∃ roles, Cast protocol ends first roles crew ∧
    I crew.shared roles)
    ?_ moves crew ⟨roles, cast, holds⟩
  rintro crew move next ⟨roles, cast, holds⟩ ran
  cases move with
  | start call =>
    cases ran
    exact ⟨roles, cast.start (follows call), holds⟩
  | advance n =>
    obtain ⟨role, allowed, cast'⟩ := cast.advance ran
    exact ⟨_, cast', own _ roles n _ role holds allowed⟩
  | other change =>
    obtain ⟨s, changed, rfl⟩ := Option.map_eq_some_iff.mp ran
    exact ⟨roles, ⟨cast.follows, cast.waiting⟩, disturbed _ roles change s holds changed⟩

/-- A thread that is given its turn often enough comes to an end. -/
theorem finishes {n t} : ∀ {crew}, crew.threads[n]? = some t → ∃ turns outcome,
      (final (step program environment) crew (List.replicate turns (.advance n))).outcome n
        = some outcome := by
  induction t with
  | done val => exact fun found => ⟨0, .ok val, by simp [final, Crew.outcome, found]⟩
  | raised err => exact fun found => ⟨0, .error err, by simp [final, Crew.outcome, found]⟩
  | act write next ih =>
    intro crew found
    have isIn : n < crew.threads.length := (List.getElem?_eq_some_iff.mp found).1
    obtain ⟨after, advanced, moved⟩ : ∃ after, crew.advance n = some after ∧
        after.threads[n]? = some (next crew.shared) := by
      simp only [Crew.advance, found]
      exact ⟨_, rfl, List.getElem?_set_self isIn⟩
    obtain ⟨turns, outcome, ended⟩ := ih crew.shared moved
    refine ⟨turns + 1, outcome, ?_⟩
    rw [List.replicate_succ, final, List.foldl_cons]
    simp only [step, advanced, Option.getD_some]
    exact ended

end Crew

end Interleaving
