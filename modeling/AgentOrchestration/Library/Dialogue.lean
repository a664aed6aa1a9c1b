import Mathlib.Data.List.Induction
import AgentOrchestration.Library.LabelledSystem

/-!
# Dialogues with collaborators

A `Talk` is a program that asks its collaborators, one call at a time, and goes on with
what they answer: a value or an error. Nothing is assumed about the answers. A `Host`
runs several talks side by side, over a shared state in which the calls are performed.
-/

namespace Dialogue

set_option autoImplicit false

variable {κ E ε δ α β : Type} {Answer : κ → Type}

structure Reply (Answer : κ → Type) (E : Type) where
  call : κ
  answer : Except E (Answer call)

/-- A program as the calls that it makes; `E` is what calls raise, `ε` what the program does. -/
inductive Talk (Answer : κ → Type) (E ε α : Type) where
  | done (value : α)
  | raised (error : ε)
  | ask (call : κ) (next : Except E (Answer call) → Talk Answer E ε α)

namespace Talk

/-- One talk after another. -/
def bind : Talk Answer E ε α → (α → Talk Answer E ε β) → Talk Answer E ε β
  | done value, k => k value
  | raised error, _ => raised error
  | ask call next, k => ask call fun answer => (next answer).bind k

instance : Monad (Talk Answer E ε) where
  pure := done
  bind := bind

def attempt : Talk Answer E ε α → Talk Answer E δ (Except ε α)
  | done value => done (.ok value)
  | raised error => done (.error error)
  | ask call next => ask call fun answer => (next answer).attempt

/-- Raise something else. -/
def mapError (f : ε → δ) : Talk Answer E ε α → Talk Answer E δ α
  | done value => done value
  | raised error => raised (f error)
  | ask call next => ask call fun answer => (next answer).mapError f

/-- Return or raise, without asking anyone. -/
def ofExcept : Except ε α → Talk Answer E ε α
  | .ok value => done value
  | .error error => raised error

/-- Make a call, and raise what it raises. -/
def await (call : κ) : Talk Answer E E (Answer call) := ask call ofExcept

def pending : Talk Answer E ε α → Option κ
  | done _ => none
  | raised _ => none
  | ask call _ => some call

/-! ## Calls and replies -/

/-- After the replies `h`, the talk makes only calls that are lawful after the replies it has had by
then, and what it comes to is as `Q` says. -/
def Meets (lawful : List (Reply Answer E) → κ → Prop)
    (Q : List (Reply Answer E) → Except ε α → Prop) :
    Talk Answer E ε α → List (Reply Answer E) → Prop
  | done value, h => Q h (.ok value)
  | raised error, h => Q h (.error error)
  | ask call next, h =>
    lawful h call ∧ ∀ answer, (next answer).Meets lawful Q (h ++ [⟨call, answer⟩])

variable {lawful : List (Reply Answer E) → κ → Prop}
  {Q : List (Reply Answer E) → Except ε α → Prop} {R : List (Reply Answer E) → Except ε β → Prop}
  {h : List (Reply Answer E)}

variable {t : Talk Answer E ε α}

theorem Meets.imp {Q'} (weaker : ∀ h out, Q h out → Q' h out) :
    ∀ {h}, t.Meets lawful Q h → t.Meets lawful Q' h := by
  induction t with
  | done val | raised err => exact fun holds => weaker _ _ holds
  | ask call next ih => exact fun meets => ⟨meets.1, fun answer => ih answer (meets.2 answer)⟩

theorem Meets.bind {t : Talk Answer E ε α} {k}
    (next : ∀ val h, Q h (.ok val) → (k val).Meets lawful R h)
    (raises : ∀ err h, Q h (.error err) → R h (.error err)) :
    ∀ {h : List (Reply Answer E)}, t.Meets lawful Q h → (t >>= k).Meets lawful R h := by
  show ∀ {h : List (Reply Answer E)}, t.Meets lawful Q h → (t.bind k).Meets lawful R h
  induction t with
  | done val => exact fun holds => next val _ holds
  | raised err => exact fun holds => raises err _ holds
  | ask call rest ih => exact fun meets => ⟨meets.1, fun answer => ih answer (meets.2 answer)⟩

theorem Meets.attempt {t : Talk Answer E ε α} : ∀ {h : List (Reply Answer E)}, t.Meets lawful Q h →
      (t.attempt : Talk Answer E δ (Except ε α)).Meets lawful
        (fun h out => ∃ inner, out = .ok inner ∧ Q h inner) h := by
  induction t with
  | done val | raised err => exact fun holds => ⟨_, rfl, holds⟩
  | ask call next ih => exact fun meets => ⟨meets.1, fun answer => ih answer (meets.2 answer)⟩

theorem Meets.mapError {t : Talk Answer E ε α} {f} {Q' : List (Reply Answer E) → Except δ α → Prop}
    (returns : ∀ h val, Q h (.ok val) → Q' h (.ok val))
    (raises : ∀ h err, Q h (.error err) → Q' h (.error (f err))) :
    ∀ {h : List (Reply Answer E)}, t.Meets lawful Q h → (t.mapError f).Meets lawful Q' h := by
  induction t with
  | done val => exact fun holds => returns _ _ holds
  | raised err => exact fun holds => raises _ _ holds
  | ask call next ih => exact fun meets => ⟨meets.1, fun answer => ih answer (meets.2 answer)⟩

theorem Meets.ofExcept {out} (holds : Q h out) :
    (ofExcept out : Talk Answer E ε α).Meets lawful Q h := by
  cases out with
  | ok val | error err => exact holds

theorem Meets.await {call Q} (isLawful : lawful h call)
    (holds : ∀ answer, Q (h ++ [⟨call, answer⟩]) answer) :
    (await call).Meets lawful Q h :=
  ⟨isLawful, fun answer => .ofExcept (holds answer)⟩

theorem Meets.await_bind {call : κ} {k : Answer call → Talk Answer E E β}
    {R : List (Reply Answer E) → Except E β → Prop} (isLawful : lawful h call)
    (raises : ∀ err, R (h ++ [⟨call, .error err⟩]) (.error err))
    (next : ∀ val, (k val).Meets lawful R (h ++ [⟨call, .ok val⟩])) :
    (Talk.await call >>= k).Meets lawful R h := by
  refine ⟨isLawful, fun answer => ?_⟩
  cases answer with
  | error err => exact raises err
  | ok val => exact next val

/-! ## What is asked at all -/

/-- Every call of the talk satisfies `P`, whatever it is answered. -/
def Only (P : κ → Prop) : Talk Answer E ε α → Prop
  | done _ => True
  | raised _ => True
  | ask call next => P call ∧ ∀ answer, (next answer).Only P

variable {P : κ → Prop}

theorem Only.mono {P'} (weaker : ∀ call, P call → P' call) : t.Only P → t.Only P' := by
  induction t with
  | done val | raised err => exact fun _ => trivial
  | ask call next ih =>
    exact fun only => ⟨weaker call only.1, fun answer => ih answer (only.2 answer)⟩

theorem Only.bind {t : Talk Answer E ε α} {k : α → Talk Answer E ε β}
    (next : ∀ val, (k val).Only P) : t.Only P → (t >>= k).Only P := by
  show t.Only P → (t.bind k).Only P
  induction t with
  | done val => exact fun _ => next val
  | raised err => exact fun _ => trivial
  | ask call rest ih => exact fun only => ⟨only.1, fun answer => ih answer (only.2 answer)⟩

theorem Only.attempt {t : Talk Answer E ε α} :
    t.Only P → (t.attempt : Talk Answer E δ (Except ε α)).Only P := by
  induction t with
  | done val | raised err => exact fun _ => trivial
  | ask call next ih => exact fun only => ⟨only.1, fun answer => ih answer (only.2 answer)⟩

theorem Only.mapError {t : Talk Answer E ε α} {f : ε → δ} : t.Only P → (t.mapError f).Only P := by
  induction t with
  | done val | raised err => exact fun _ => trivial
  | ask call next ih => exact fun only => ⟨only.1, fun answer => ih answer (only.2 answer)⟩

theorem Only.ofExcept (out : Except ε α) : (ofExcept out : Talk Answer E ε α).Only P := by
  cases out <;> trivial

theorem Only.await {call} (holds : P call) : (await call : Talk Answer E E _).Only P :=
  ⟨holds, fun answer => .ofExcept answer⟩

theorem Only.ite {c : Prop} [Decidable c] {t u : Talk Answer E ε α} (yes : t.Only P)
    (no : u.Only P) :
    (if c then t else u).Only P := by
  split
  · exact yes
  · exact no

/-- Calls that are lawful under an invariant of the replies, and keep it. -/
theorem Only.meets {I : List (Reply Answer E) → Prop}
    (keeps : ∀ h call, I h → P call → lawful h call ∧ ∀ answer, I (h ++ [⟨call, answer⟩])) :
    ∀ {h : List (Reply Answer E)}, t.Only P → I h → t.Meets lawful (fun h _ => I h) h := by
  induction t with
  | done val | raised err => exact fun _ holds => holds
  | ask call next ih =>
    intro h only holds
    obtain ⟨isLawful, kept⟩ := keeps h call holds only.1
    exact ⟨isLawful, fun answer => ih answer (only.2 answer) (kept answer)⟩

end Talk

/-! ## What replies tell -/

/-- A fact about replies that further replies do not undo. -/
structure Known (Answer : κ → Type) (E : Type) where
  holds : List (Reply Answer E) → Prop
  lasts : ∀ h reply, holds h → holds (h ++ [reply])

namespace Known

variable (I J : Known Answer E)

def and : Known Answer E :=
  ⟨fun h => I.holds h ∧ J.holds h, fun h reply both =>
    ⟨I.lasts h reply both.1, J.lasts h reply both.2⟩⟩

/-- A fact that does not depend on replies. -/
def const (p : Prop) : Known Answer E := ⟨fun _ => p, fun _ _ holds => holds⟩

def had (reply : Reply Answer E) : Known Answer E :=
  ⟨fun h => reply ∈ h, fun _ _ member => List.mem_append_left _ member⟩

end Known

namespace Talk

variable {lawful : List (Reply Answer E) → κ → Prop} {P : κ → Prop}

/-- Knowing `I`, the talk makes only lawful calls, and if it returns a value, `G` is known of it. -/
def Tells (lawful : List (Reply Answer E) → κ → Prop) (I : Known Answer E) (t : Talk Answer E ε α)
    (G : α → Known Answer E := fun _ => .const True) : Prop :=
  ∀ h, I.holds h → t.Meets lawful (fun after out => ∀ val ∈ out.toOption, (G val).holds after) h

variable {I : Known Answer E} {G : α → Known Answer E} {G' : β → Known Answer E}
  {t : Talk Answer E ε α} {k : α → Talk Answer E ε β}

theorem Meets.known {Q} :
    ∀ {h}, t.Meets lawful Q h → I.holds h →
      t.Meets lawful (fun h out => I.holds h ∧ Q h out) h := by
  induction t with
  | done val | raised err => exact fun meets holds => ⟨holds, meets⟩
  | ask call next ih =>
    exact fun meets holds => ⟨meets.1, fun answer => ih answer (meets.2 answer) (I.lasts _ _ holds)⟩

theorem Tells.bind (first : t.Tells lawful I G)
    (next : ∀ val, (k val).Tells lawful (I.and (G val)) G') :
    (t >>= k).Tells lawful I G' := by
  intro h holds
  refine Meets.bind ?_ ?_ ((first h holds).known holds)
  · exact fun val after known => next val after ⟨known.1, known.2 val rfl⟩
  · exact fun _ _ _ _ none => nomatch none

theorem Tells.andThen (first : t.Tells lawful I) (next : ∀ val, (k val).Tells lawful I G') :
    (t >>= k).Tells lawful I G' :=
  first.bind fun val after known => next val after known.1

theorem Tells.forget (tells : t.Tells lawful I G) : t.Tells lawful I :=
  fun h known => (tells h known).imp fun _ _ _ _ _ => trivial

theorem tells_done {val} (holds : ∀ h, I.holds h → (G val).holds h) :
    (done val : Talk Answer E ε α).Tells lawful I G := by
  intro h known _ eq
  cases eq
  exact holds h known

theorem tells_raised (err : ε) : (raised err : Talk Answer E ε α).Tells lawful I G :=
  fun _ _ _ none => nomatch none

theorem tells_await {call} (isLawful : ∀ h, I.holds h → lawful h call) :
    (await call).Tells lawful I fun val => .had ⟨call, .ok val⟩ := by
  refine fun h known => .await (isLawful h known) fun answer val eq => ?_
  cases answer with
  | error err => cases eq
  | ok val =>
    cases eq
    exact List.mem_append_right h (List.mem_singleton_self _)

theorem Tells.attempt (tells : t.Tells lawful I) :
    (t.attempt : Talk Answer E δ (Except ε α)).Tells lawful I :=
  fun h known => (tells h known).attempt.imp fun _ _ _ _ _ => trivial

theorem Tells.mapError {f : ε → δ} (tells : t.Tells lawful I G) :
    (t.mapError f).Tells lawful I G := by
  intro h known
  refine Meets.mapError ?_ ?_ (tells h known)
  · exact fun _ _ holds => holds
  · exact fun _ _ _ _ none => nomatch none

theorem Only.tells (isLawful : ∀ h call, I.holds h → P call → lawful h call) (only : t.Only P) :
    t.Tells lawful I :=
  fun _ known => (only.meets (fun h call holds plain =>
    ⟨isLawful h call holds plain, fun _ => I.lasts _ _ holds⟩) known).imp fun _ _ _ _ _ => trivial

end Talk

variable (lawful : List (Reply Answer E) → κ → Prop)

def Lawful (h : List (Reply Answer E)) : Prop :=
  ∀ before reply after, h = before ++ reply :: after → lawful before reply.call

theorem lawful_nil : Lawful lawful [] := by
  intro before reply after split
  simp at split

variable {reply : Reply Answer E} {h : List (Reply Answer E)}

theorem Lawful.append {lawful} (earlier : Lawful lawful h) (last : lawful h reply.call) :
    Lawful lawful (h ++ [reply]) := by
  intro before other after split
  rcases List.eq_nil_or_concat after with rfl | ⟨initial, final, rfl⟩
  · obtain ⟨rfl, eq⟩ := List.append_inj' split rfl
    rw [← List.singleton_inj.mp eq]
    exact last
  · have shifted : h ++ [reply] = (before ++ other :: initial) ++ [final] := by
      rw [split]
      simp
    exact earlier before other initial (List.append_inj' shifted rfl).1

theorem Lawful.scripted {script : List κ}
    (lawful : Lawful (fun before call => script[before.length]? = some call) h) :
    h.map Reply.call = script.take h.length := by
  induction h using List.reverseRecOn with
  | nil => rfl
  | append_singleton earlier last ih =>
    have next := lawful earlier last [] rfl
    have initial : earlier.map Reply.call = script.take earlier.length := by
      refine ih fun before reply after split => lawful before reply (after ++ [last]) ?_
      rw [split]
      simp
    rw [List.map_append, initial, List.length_append, List.length_singleton,
      List.take_add_one, next]
    rfl

/-! ## Hosts -/

variable {σ ι β θ : Type}

/-- A talk under way: whose it is, the replies it has had, and the rest of it. -/
structure Task (Answer : κ → Type) (E ε α ι : Type) where
  label : ι
  replies : List (Reply Answer E)
  rest : Talk Answer E ε α

/-- Talks over a shared state. A talk keeps its place, whether it goes on or not. -/
structure Host (Answer : κ → Type) (E ε α ι σ : Type) where
  shared : σ
  tasks : List (Task Answer E ε α ι)

/-- What can happen at a host. -/
inductive Move (ι β θ : Type) where
  | start (label : ι)
  /-- The next call of a talk is performed. -/
  | reply (index : ℕ) (behaviour : β)
  /-- Something happens to the shared state. -/
  | outside (event : θ)

/-- What the talks are, and how calls and other events change the shared state. -/
structure System (Answer : κ → Type) (E ε α ι β θ σ : Type) where
  program : ι → Talk Answer E ε α
  perform : β → (call : κ) → σ → Option (σ × Except E (Answer call))
  outside : θ → σ → Option σ

/-- The call that the talk at a place is about to make. -/
def Host.pending (host : Host Answer E ε α ι σ) (index : ℕ) : Option κ :=
  host.tasks[index]?.bind fun task => task.rest.pending

def Host.answered (host : Host Answer E ε α ι σ) (index : ℕ) (shared : σ) (label : ι)
    (replies : List (Reply Answer E)) (reply : Reply Answer E)
    (next : Except E (Answer reply.call) → Talk Answer E ε α) : Host Answer E ε α ι σ :=
  ⟨shared, host.tasks.set index ⟨label, replies ++ [reply], next reply.answer⟩⟩

def System.step (system : System Answer E ε α ι β θ σ) (host : Host Answer E ε α ι σ) :
    Move ι β θ → Option (Host Answer E ε α ι σ)
  | .start label => some { host with tasks := host.tasks ++ [⟨label, [], system.program label⟩] }
  | .reply index behaviour =>
    match host.tasks[index]? with
    | some ⟨label, replies, .ask call next⟩ =>
      (system.perform behaviour call host.shared).map fun performed =>
        host.answered index performed.1 label replies ⟨call, performed.2⟩ next
    | _ => none
  | .outside event => (system.outside event host.shared).map fun shared => { host with shared }

variable {system : System Answer E ε α ι β θ σ} {host after : Host Answer E ε α ι σ} {index : ℕ}

theorem step_reply {behaviour} (ran : system.step host (.reply index behaviour) = some after) :
    ∃ label replies reply next shared,
      host.tasks[index]? = some ⟨label, replies, .ask reply.call next⟩ ∧
      system.perform behaviour reply.call host.shared = some (shared, reply.answer) ∧
      after = host.answered index shared label replies reply next := by
  rw [System.step] at ran
  split at ran
  · rename_i label replies call next found
    obtain ⟨⟨shared, answer⟩, result, rfl⟩ := Option.map_eq_some_iff.mp ran
    exact ⟨label, replies, ⟨call, answer⟩, next, shared, found, result, rfl⟩
  · cases ran

variable {label : ι} {replies : List (Reply Answer E)} {call : κ}

theorem pending_of_ask {next} (found : host.tasks[index]? = some ⟨label, replies, .ask call next⟩) :
    host.pending index = some call := by
  rw [Host.pending, found]
  rfl

theorem step_outside {event} (ran : system.step host (.outside event) = some after) :
    ∃ shared, system.outside event host.shared = some shared ∧ after = { host with shared } := by
  obtain ⟨shared, result, rfl⟩ := Option.map_eq_some_iff.mp ran
  exact ⟨shared, result, rfl⟩

variable {shared : σ} {next : Except E (Answer reply.call) → Talk Answer E ε α}

theorem getElem?_answered (found : host.tasks[index]? = some ⟨label, replies, .ask reply.call next⟩)
    (place : ℕ) :
    (host.answered index shared label replies reply next).tasks[place]? =
      if place = index then some ⟨label, replies ++ [reply], next reply.answer⟩
      else host.tasks[place]? := by
  obtain ⟨isIn, -⟩ := List.getElem?_eq_some_iff.mp found
  show (host.tasks.set index _)[place]? = _
  rw [List.getElem?_set]
  by_cases eq : index = place
  · rw [if_pos eq, if_pos eq.symm, if_pos isIn]
  · rw [if_neg eq, if_neg (Ne.symm eq)]

theorem mem_answered {task}
    (mem : task ∈ (host.answered index shared label replies reply next).tasks) :
    task ∈ host.tasks ∨ task = ⟨label, replies ++ [reply], next reply.answer⟩ :=
  List.mem_or_eq_of_mem_set mem

/-! ## Places -/

/-- Whose talk is at a place. -/
def Host.labelAt (host : Host Answer E ε α ι σ) (place : ℕ) : Option ι :=
  host.tasks[place]?.map Task.label

def Host.Replied (host : Host Answer E ε α ι σ) (place : ℕ) (P : Reply Answer E → Prop) : Prop :=
  ∃ task, host.tasks[place]? = some task ∧ ∃ reply ∈ task.replies, P reply

variable {place : ℕ} {move : Move ι β θ}

theorem labelAt_step {owner} (ran : system.step host move = some after)
    (isOwner : host.labelAt place = some owner) :
    after.labelAt place = some owner := by
  obtain ⟨task, there, rfl⟩ := Option.map_eq_some_iff.mp isOwner
  cases move with
  | start label =>
    cases ran
    obtain ⟨isIn, -⟩ := List.getElem?_eq_some_iff.mp there
    show Option.map _ (host.tasks ++ [_])[place]? = _
    rw [List.getElem?_append_left isIn, there]
    rfl
  | reply idx behaviour =>
    obtain ⟨label, replies, reply, next, shared, found, -, rfl⟩ := step_reply ran
    rw [Host.labelAt, getElem?_answered found]
    by_cases eq : place = idx
    · subst eq
      rw [if_pos rfl]
      cases there.symm.trans found
      rfl
    · rw [if_neg eq, there]
      rfl
  | outside event =>
    obtain ⟨shared, -, rfl⟩ := step_outside ran
    exact isOwner

variable {P : Reply Answer E → Prop}

theorem not_replied_of_le (beyond : host.tasks.length ≤ place) : ¬ host.Replied place P := by
  rintro ⟨task, there, -⟩
  rw [List.getElem?_eq_none beyond] at there
  cases there

theorem replied_answered
    (found : host.tasks[index]? = some ⟨label, replies, .ask reply.call next⟩) :
    (host.answered index shared label replies reply next).Replied place P ↔
      host.Replied place P ∨ place = index ∧ P reply := by
  unfold Host.Replied
  rw [getElem?_answered found]
  by_cases eq : place = index
  · subst eq
    simp [found, or_and_right, exists_or]
  · simp [eq]

theorem replied_start {talk} :
    (⟨host.shared, host.tasks ++ [⟨label, [], talk⟩]⟩ : Host Answer E ε α ι σ).Replied place P ↔
      host.Replied place P := by
  constructor
  · rintro ⟨task, there, reply, member, holds⟩
    rcases Nat.lt_or_ge place host.tasks.length with isIn | beyond
    · exact ⟨task, (List.getElem?_append_left isIn).symm.trans there, reply, member, holds⟩
    · rw [List.getElem?_append_right beyond] at there
      rw [List.mem_singleton.mp (List.mem_of_getElem? there)] at member
      cases member
  · rintro ⟨task, there, holds⟩
    obtain ⟨isIn, -⟩ := List.getElem?_eq_some_iff.mp there
    exact ⟨task, (List.getElem?_append_left isIn).trans there, holds⟩

/-! ## Disciplined hosts -/

variable {lawful : ι → List (Reply Answer E) → κ → Prop}
  {ends : ι → List (Reply Answer E) → Except ε α → Prop}

/-- Every talk has made only lawful calls, goes on so, and ends as it should. -/
structure Disciplined (lawful : ι → List (Reply Answer E) → κ → Prop)
    (ends : ι → List (Reply Answer E) → Except ε α → Prop) (host : Host Answer E ε α ι σ) :
    Prop where
  past : ∀ task ∈ host.tasks, Lawful (lawful task.label) task.replies
  ahead : ∀ task ∈ host.tasks, task.rest.Meets (lawful task.label) (ends task.label) task.replies

theorem disciplined_idle (shared : σ) :
    Disciplined lawful ends (⟨shared, []⟩ : Host Answer E ε α ι σ) := by
  constructor <;> intro task mem <;> cases mem

theorem Disciplined.lawful_of_ask (disciplined : Disciplined lawful ends host) {next}
    (found : host.tasks[index]? = some ⟨label, replies, .ask call next⟩) :
    lawful label replies call :=
  (disciplined.ahead _ (List.mem_of_getElem? found)).1

theorem Disciplined.step
    (lawfully : ∀ label, (system.program label).Meets (lawful label) (ends label) [])
    (disciplined : Disciplined lawful ends host) (ran : system.step host move = some after) :
    Disciplined lawful ends after := by
  cases move with
  | start label =>
    cases ran
    constructor <;> intro task mem <;> rcases List.mem_append.mp mem with old | new
    · exact disciplined.past task old
    · rw [List.mem_singleton.mp new]
      exact lawful_nil _
    · exact disciplined.ahead task old
    · rw [List.mem_singleton.mp new]
      exact lawfully label
  | reply idx behaviour =>
    obtain ⟨label, replies, reply, next, shared, found, -, rfl⟩ := step_reply ran
    have asking := List.mem_of_getElem? found
    obtain ⟨isLawful, ahead⟩ := disciplined.ahead _ asking
    constructor <;> intro task mem <;> rcases mem_answered mem with old | rfl
    · exact disciplined.past task old
    · exact (disciplined.past _ asking).append isLawful
    · exact disciplined.ahead task old
    · exact ahead reply.answer
  | outside event =>
    obtain ⟨shared, -, rfl⟩ := step_outside ran
    exact ⟨disciplined.past, disciplined.ahead⟩

/-! ## Replies that stay true -/

/-- A disciplined host whose shared state satisfies an invariant, and in which every reply is still
true. -/
structure Truthful (lawful : ι → List (Reply Answer E) → κ → Prop)
    (ends : ι → List (Reply Answer E) → Except ε α → Prop) (I : σ → Prop)
    (fact : Reply Answer E → σ → Prop) (host : Host Answer E ε α ι σ) : Prop
    extends Disciplined lawful ends host where
  invariant : I host.shared
  facts : ∀ task ∈ host.tasks, ∀ reply ∈ task.replies, fact reply host.shared

variable {I : σ → Prop} {fact : Reply Answer E → σ → Prop} {L : σ → σ → Prop}

theorem Truthful.step
    (lawfully : ∀ label, (system.program label).Meets (lawful label) (ends label) [])
    (stable : ∀ reply s s', L s s' → fact reply s → fact reply s')
    (performs : ∀ label replies behaviour (reply : Reply Answer E) s s',
      I s → (∀ earlier ∈ replies, fact earlier s) → lawful label replies reply.call →
      system.perform behaviour reply.call s = some (s', reply.answer) →
      I s' ∧ L s s' ∧ fact reply s')
    (happens : ∀ event s s', I s → system.outside event s = some s' → I s' ∧ L s s') {move}
    (truthful : Truthful lawful ends I fact host) (ran : system.step host move = some after) :
    Truthful lawful ends I fact after := by
  have disciplined := truthful.toDisciplined.step lawfully ran
  cases move with
  | start label =>
    cases ran
    refine ⟨disciplined, truthful.invariant, fun task mem => ?_⟩
    rcases List.mem_append.mp mem with old | new
    · exact truthful.facts task old
    · rw [List.mem_singleton.mp new]
      exact fun _ none => nomatch none
  | reply idx behaviour =>
    obtain ⟨label, replies, reply, next, shared, found, result, rfl⟩ := step_reply ran
    have asking := List.mem_of_getElem? found
    obtain ⟨kept, grown, isTrue⟩ := performs label replies behaviour reply _ _ truthful.invariant
      (truthful.facts _ asking) (truthful.lawful_of_ask found) result
    refine ⟨disciplined, kept, fun task mem => ?_⟩
    rcases mem_answered mem with old | rfl
    · exact fun earlier isIn => stable _ _ _ grown (truthful.facts task old earlier isIn)
    · intro earlier isIn
      rcases List.mem_append.mp isIn with old | new
      · exact stable _ _ _ grown (truthful.facts _ asking earlier old)
      · rw [List.mem_singleton.mp new]
        exact isTrue
  | outside event =>
    obtain ⟨shared, result, rfl⟩ := step_outside ran
    obtain ⟨kept, grown⟩ := happens event _ _ truthful.invariant result
    exact ⟨disciplined, kept, fun task mem earlier isIn =>
      stable _ _ _ grown (truthful.facts task mem earlier isIn)⟩

end Dialogue
