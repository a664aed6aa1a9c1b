import Mathlib.Logic.Basic

/-!
# Programs with state and exceptions

A program reads and writes a state and returns a value or raises; what it wrote
before it raised stays written. `Triple P m Q E` says what holds when `m`
returns and what holds when it raises, from any state in `P`.

The rules follow the constructs: `pure`, `throw`, `bind`, `modify`, `attempt`, which
runs a program and returns what it raised, and `withFinally`. `Keeps I m` is the case of an
invariant, with a rule for `collect`, which runs a program for every element of a
list. `bind_eq_ok` and `bind_outcome` take a single run apart.
-/

namespace Program

set_option autoImplicit false

variable {σ ε α β : Type}

/-- Started in `P`, the program returns in `Q` or raises in `E`. -/
def Triple (P : σ → Prop) (m : EStateM ε σ α) (Q : α → σ → Prop) (E : σ → Prop) : Prop :=
  ∀ s, P s →
    match m s with
    | .ok value after => Q value after
    | .error _ after => E after

variable (m : EStateM ε σ α)

def attempt : EStateM ε σ (Except ε α) := fun s =>
  match m s with
  | .ok value after => .ok (.ok value) after
  | .error raised after => .ok (.error raised) after

/-- Run a program for every element, in order, and collect what is returned. -/
def collect (m : α → EStateM ε σ β) : List α → EStateM ε σ (List β)
  | [] => pure []
  | x :: rest => do
      let value ← m x
      let values ← collect m rest
      return value :: values

/-- Return a value that may be missing. -/
def ofOption (raised : ε) : Option α → EStateM ε σ α
  | some value => pure value
  | none => throw raised

def raiseIf (c : Prop) [Decidable c] (raised : ε) : EStateM ε σ PUnit := if c then throw raised
                                                                         else pure ⟨⟩

/-- Run a program and, whether it returns or raises, a second one. -/
def withFinally (body : EStateM ε σ α) (cleanup : EStateM ε σ PUnit) : EStateM ε σ α := do
  let outcome ← attempt body
  cleanup
  match outcome with
  | .ok value => pure value
  | .error raised => throw raised

variable (s : σ)

/-- The program returns. -/
def passes : Bool :=
  match m s with
  | .ok _ _ => true
  | .error _ _ => false

/-- The state a program leaves, whether it returns or raises. -/
def after : σ :=
  match m s with
  | .ok _ next => next
  | .error _ next => next

variable {P : σ → Prop} {Q : α → σ → Prop} {R : β → σ → Prop} {E : σ → Prop}

theorem Triple.pure {val} (holds : ∀ s, P s → Q val s) :
    Triple P (Pure.pure val : EStateM ε σ α) Q E :=
  fun s before => holds s before

theorem Triple.throw {raised} (holds : ∀ s, P s → E s) :
    Triple P (MonadExcept.throw raised : EStateM ε σ α) Q E :=
  fun s before => holds s before

theorem Triple.bind {m : EStateM ε σ α} {k : α → EStateM ε σ β} (first : Triple P m Q E)
    (next : ∀ val, Triple (Q val) (k val) R E) : Triple P (m >>= k) R E := by
  intro s before
  have stepped := first s before
  show match EStateM.bind m k s with
    | .ok val after => R val after
    | .error _ after => E after
  unfold EStateM.bind
  cases res : m s with
  | ok val after =>
    rw [res] at stepped
    exact next val after stepped
  | error raised after =>
    rw [res] at stepped
    exact stepped

theorem Triple.get {R} (holds : ∀ s, P s → R s s) : Triple P (MonadState.get : EStateM ε σ σ) R E :=
  fun s before => holds s before

/-- A program that starts by reading goes on from the state it has read. -/
theorem Triple.read {k : σ → EStateM ε σ β} (next : ∀ s, P s → Triple (· = s) (k s) R E) :
    Triple P (MonadState.get >>= k) R E :=
  fun s before => next s before s rfl

theorem Triple.set {next R} (holds : R ⟨⟩ next) :
    Triple P (MonadStateOf.set next : EStateM ε σ PUnit) R E :=
  fun _ _ => holds

theorem Triple.modify {f R} (holds : ∀ s, P s → R ⟨⟩ (f s)) :
    Triple P (modify f : EStateM ε σ PUnit) R E :=
  fun s before => holds s before

theorem Triple.attempt {m : EStateM ε σ α} {E' : σ → Prop} (inner : Triple P m Q E) :
    Triple P (attempt m)
      (fun out s => match out with
        | .ok val => Q val s
        | .error _ => E s) E' := by
  intro s before
  have stepped := inner s before
  unfold Program.attempt
  cases res : m s with
  | ok val after | error raised after =>
    rw [res] at stepped
    exact stepped

theorem Triple.ofOption {raised found} (raises : ∀ s, P s → E s)
    (holds : ∀ val ∈ found, ∀ s, P s → Q val s) :
    Triple P (ofOption raised found : EStateM ε σ α) Q E := by
  cases found with
  | none => exact .throw raises
  | some val => exact .pure (holds val rfl)

theorem Triple.raiseIf {c} [Decidable c] {raised R}
    (raises : ∀ s, P s → c → E s) (holds : ∀ s, P s → ¬ c → R ⟨⟩ s) :
    Triple P (raiseIf c raised : EStateM ε σ PUnit) R E := by
  unfold Program.raiseIf
  split
  · rename_i yes
    exact .throw fun s before => raises s before yes
  · rename_i no
    exact .pure fun s before => holds s before no

/-- What follows a check may assume that it was passed. -/
theorem Triple.check {c} [Decidable c] {raised : ε} {k : PUnit → EStateM ε σ β}
    (raises : ∀ s, P s → E s) (next : ¬ c → Triple P (k ⟨⟩) R E) :
    Triple P (Program.raiseIf c raised >>= k) R E := by
  refine .bind (.raiseIf (R := fun _ s => P s ∧ ¬ c) (fun s before _ => raises s before)
    fun s before passed => ⟨before, passed⟩) fun _ => ?_
  exact fun s known => next known.2 s known.1

variable {m : EStateM ε σ α}

/-- A fact that does not depend on the state moves out of the precondition. -/
theorem Triple.of_fact {fact} (triple : fact → Triple P m Q E) :
    Triple (fun s => P s ∧ fact) m Q E :=
  fun s before => triple before.2 s before.1

theorem Triple.of_exists {ι : Type} {P : ι → σ → Prop} (triple : ∀ i, Triple (P i) m Q E) :
    Triple (fun s => ∃ i, P i s) m Q E := by
  rintro s ⟨i, before⟩
  exact triple i s before

theorem Triple.any (m : EStateM ε σ α) : Triple P m (fun _ _ => True) fun _ => True := by
  intro s _
  cases m s <;> trivial

theorem Triple.imp {P' Q' E'} (triple : Triple P m Q E)
    (pre : ∀ s, P' s → P s) (post : ∀ val s, Q val s → Q' val s) (raised : ∀ s, E s → E' s) :
    Triple P' m Q' E' := by
  intro s before
  have stepped := triple s (pre s before)
  cases res : m s with
  | ok val after =>
    rw [res] at stepped
    exact post val after stepped
  | error _ after =>
    rw [res] at stepped
    exact raised after stepped

/-- What the second program makes of what the first leaves holds in the end. -/
theorem Triple.withFinally {body : EStateM ε σ α} {cleanup : EStateM ε σ PUnit} {R : σ → Prop}
    (inner : Triple P body (fun _ => E) E) (clean : Triple E cleanup (fun _ => R) R) :
    Triple P (withFinally body cleanup) (fun _ => R) R := by
  have attempted : Triple P (Program.attempt body) (fun _ => E) R :=
    .imp (.attempt inner) (fun _ before => before)
      (fun out _ holds => by cases out <;> exact holds) fun _ raised => raised
  refine .bind attempted fun out => .bind clean fun _ => ?_
  cases out with
  | ok val => exact .pure fun _ holds => holds
  | error raised => exact .throw fun _ holds => holds

/-! ## Single runs -/

section

variable {m : EStateM ε σ α} {k : α → EStateM ε σ β} {s : σ}

theorem passes_iff : passes m s = true ↔ ∃ value last, m s = .ok value last := by
  unfold passes
  cases m s with
  | ok value last | error raised last => simp

variable {value : β} {last : σ}

theorem bind_eq_ok :
    (m >>= k) s = .ok value last ↔ ∃ first next, m s = .ok first next ∧
      k first next = .ok value last := by
  show EStateM.bind m k s = .ok value last ↔ _
  unfold EStateM.bind
  cases m s with
  | ok first next => simp [and_assoc]
  | error raised next => simp

theorem except_bind_eq_ok {f : Except ε α} {g : α → Except ε β} :
    (f >>= g) = .ok value ↔ ∃ first, f = .ok first ∧ g first = .ok value := by
  cases f with
  | ok first | error raised => simp [bind, Except.bind]

variable {next : σ}

theorem bind_of_ok {first} (run : m s = .ok first next) : (m >>= k) s = k first next := by
  show EStateM.bind m k s = k first next
  rw [EStateM.bind, run]

variable {raised : ε}

theorem bind_of_error (run : m s = .error raised next) : (m >>= k) s = .error raised next := by
  show EStateM.bind m k s = .error raised next
  rw [EStateM.bind, run]

variable {m' : EStateM ε σ α} {s' : σ}

theorem after_congr (eq : m s = m' s') : after m s = after m' s' := by
  rw [after, after, eq]

theorem attempt_of_ok {val} (run : m s = .ok val next) : attempt m s = .ok (.ok val) next := by
  rw [attempt, run]

theorem attempt_of_error (run : m s = .error raised next) :
    attempt m s = .ok (.error raised) next := by
  rw [attempt, run]

/-- What can come of a sequence: what its first part raises, or what comes of the second. -/
theorem bind_outcome {R : EStateM.Result ε σ β → Prop}
    (raises : ∀ raised next, m s = .error raised next → R (.error raised next))
    (returns : ∀ val next, m s = .ok val next → R (k val next)) : R ((m >>= k) s) := by
  show R (EStateM.bind m k s)
  unfold EStateM.bind
  cases run : m s with
  | ok val next => exact returns val next run
  | error raised next => exact raises raised next run

variable {found : Option α}

theorem ofOption_eq_ok {val} :
    (ofOption raised found : EStateM ε σ α) s = .ok val last ↔ found = some val ∧ last = s := by
  cases found with
  | none => exact ⟨nofun, nofun⟩
  | some other =>
    show EStateM.Result.ok other s = .ok val last ↔ _
    rw [EStateM.Result.ok.injEq, Option.some.injEq, eq_comm (a := s)]

theorem raiseIf_eq_ok {c} [Decidable c] {val} :
    (raiseIf c raised : EStateM ε σ PUnit) s = .ok val last ↔ ¬ c ∧ last = s := by
  by_cases holds : c
  · rw [raiseIf, if_pos holds]
    exact ⟨nofun, fun both => absurd holds both.1⟩
  · rw [raiseIf, if_neg holds]
    show EStateM.Result.ok PUnit.unit s = .ok val last ↔ _
    rw [EStateM.Result.ok.injEq, eq_comm (a := s)]
    exact ⟨fun both => ⟨holds, both.2⟩, fun both => ⟨rfl, both.2⟩⟩

theorem pure_eq_ok {val res} : (pure val : EStateM ε σ α) s = .ok res last ↔
    val = res ∧ last = s := by
  show EStateM.Result.ok val s = .ok res last ↔ _
  rw [EStateM.Result.ok.injEq, eq_comm (a := s)]

theorem get_bind_apply {k : σ → EStateM ε σ β} : (get >>= k) s = k s s := rfl

theorem modify_bind_apply {f : σ → σ} {k : PUnit → EStateM ε σ β} :
    (modify f >>= k) s = k ⟨⟩ (f s) := rfl

theorem ofOption_bind_eq_ok :
    (ofOption raised found >>= k) s = .ok value last ↔ ∃ first, found = some first ∧
      k first s = .ok value last := by
  rw [bind_eq_ok]
  constructor
  · rintro ⟨first, next, run, rest⟩
    obtain ⟨same, rfl⟩ := ofOption_eq_ok.mp run
    exact ⟨first, same, rest⟩
  · rintro ⟨first, same, rest⟩
    exact ⟨first, s, ofOption_eq_ok.mpr ⟨same, rfl⟩, rest⟩

theorem raiseIf_bind_eq_ok {c} [Decidable c] {k} :
    (raiseIf c raised >>= k) s = .ok value last ↔ ¬ c ∧ k ⟨⟩ s = .ok value last := by
  rw [bind_eq_ok]
  constructor
  · rintro ⟨first, next, run, rest⟩
    obtain ⟨passed, rfl⟩ := raiseIf_eq_ok.mp run
    exact ⟨passed, rest⟩
  · rintro ⟨passed, rest⟩
    exact ⟨⟨⟩, s, raiseIf_eq_ok.mpr ⟨passed, rfl⟩, rest⟩

end

/-! ## Invariants -/

/-- The program keeps `I`, whether it returns or raises. -/
def Keeps (I : σ → Prop) (m : EStateM ε σ α) : Prop := Triple I m (fun _ => I) I

variable {I : σ → Prop}

theorem Triple.after {m : EStateM ε σ α} (triple : Triple P m (fun _ => I) I) {s : σ}
    (before : P s) : I (Program.after m s) := by
  have stepped := triple s before
  unfold Program.after
  cases res : m s with
  | ok val next | error raised next =>
    rw [res] at stepped
    exact stepped

theorem Keeps.of_ok (keeps : Keeps I m) {s next val} (before : I s) (run : m s = .ok val next) :
    I next := by
  have stepped := keeps s before
  rw [run] at stepped
  exact stepped

theorem Keeps.of_error (keeps : Keeps I m) {s next raised} (before : I s)
    (run : m s = .error raised next) : I next := by
  have stepped := keeps s before
  rw [run] at stepped
  exact stepped

variable {k : α → EStateM ε σ β}

theorem bind_outcome_of_reads {s : σ} {R : EStateM.Result ε σ β → Prop}
    (reads : ∀ I : σ → Prop, Keeps I m) (raises : ∀ raised, R (.error raised s))
    (returns : ∀ val, m s = .ok val s → R (k val s)) : R ((m >>= k) s) := by
  refine bind_outcome (fun raised next run => ?_) fun val next run => ?_
  · rw [(reads (· = s)).of_error rfl run]
    exact raises raised
  · have eq := (reads (· = s)).of_ok rfl run
    subst eq
    exact returns val run

/-- The invariant holds where the program returns, and what it implies where it raises. -/
theorem Keeps.orRaises (keeps : Keeps I m) (weaker : ∀ s, I s → E s) : Triple I m (fun _ => I) E :=
  keeps.imp (fun _ holds => holds) (fun _ _ holds => holds) weaker

/-- What every value that is returned has in common is known besides the invariant. -/
theorem Keeps.returning {T : α → Prop} (keeps : Keeps I m)
    (values : Triple (fun _ => True) m (fun val _ => T val) fun _ => True) :
    Triple I m (fun val s => I s ∧ T val) I := by
  intro s before
  have kept := keeps s before
  have known := values s trivial
  cases run : m s with
  | ok val next =>
    rw [run] at kept known
    exact ⟨kept, known⟩
  | error raised next =>
    rw [run] at kept
    exact kept

theorem Keeps.pure (val : α) : Keeps I (Pure.pure val : EStateM ε σ α) :=
  Triple.pure fun _ holds => holds

theorem Keeps.throw (raised : ε) : Keeps I (MonadExcept.throw raised : EStateM ε σ α) :=
  Triple.throw fun _ holds => holds

theorem Keeps.bind {m : EStateM ε σ α} {k : α → EStateM ε σ β} (first : Keeps I m)
    (next : ∀ val, Keeps I (k val)) : Keeps I (m >>= k) :=
  Triple.bind first next

theorem Keeps.get : Keeps I (MonadState.get : EStateM ε σ σ) := Triple.get fun _ holds => holds

theorem Keeps.modify {f : σ → σ} (holds : ∀ s, I s → I (f s)) :
    Keeps I (modifyGet fun s => (⟨⟩, f s) : EStateM ε σ PUnit) :=
  Triple.modify holds

theorem Keeps.attempt {m : EStateM ε σ α} (inner : Keeps I m) : Keeps I (attempt m) :=
  (Triple.attempt inner).imp (fun _ holds => holds)
    (fun out s holds => by cases out <;> exact holds) fun _ holds => holds

theorem Keeps.ofOption (raised : ε) (found : Option α) :
    Keeps I (ofOption raised found : EStateM ε σ α) := by
  cases found with
  | none => exact .throw raised
  | some val => exact .pure val

theorem Keeps.ite {c : Prop} [Decidable c] {m n : EStateM ε σ α} (yes : Keeps I m)
    (no : Keeps I n) : Keeps I (if c then m else n) := by
  split
  · exact yes
  · exact no

theorem Keeps.raiseIf (c : Prop) [Decidable c] (raised : ε) :
    Keeps I (raiseIf c raised : EStateM ε σ PUnit) :=
  .ite (.throw raised) (.pure _)

/-- What every element's program keeps, the whole sequence keeps. -/
theorem Keeps.collect {m : α → EStateM ε σ β} {items : List α}
    (each : ∀ x ∈ items, Keeps I (m x)) : Keeps I (collect m items) := by
  induction items with
  | nil => exact .pure []
  | cons x rest ih =>
    refine .bind (each x List.mem_cons_self) fun val => ?_
    refine .bind (ih fun y mem => each y (List.mem_cons_of_mem x mem)) fun values => ?_
    exact .pure _

end Program
