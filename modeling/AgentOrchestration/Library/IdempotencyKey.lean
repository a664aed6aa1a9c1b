import AgentOrchestration.Library.Roles

/-!
# Requests with an idempotency key

A request first checks what it can, then takes its key with a set-if-absent, creates
something and stores its response under the key. A request that finds the key taken
answers with the stored response, or is rejected while there is none. Records may
expire.
-/

namespace IdempotencyKey

set_option autoImplicit false

open Interleaving (Thread Crew)
open LabelledSystem (final)
open Function (update_self update_of_ne)

variable {τ κ ε ι ρ χ θ α : Type}

/-! ## The store -/

structure Response (ι ρ : Type) where
  about : ι
  body : ρ
  deriving DecidableEq

/-- What is stored under a key. -/
inductive Record (ι ρ : Type) where
  | processing
  | result (response : Response ι ρ)
  /-- A record without a response. -/
  | closed
  deriving DecidableEq

structure Entry (ι ρ : Type) where
  record : Record ι ρ
  expires : Option ℕ
  deriving DecidableEq

def Entry.live (entry : Entry ι ρ) (now : ℕ) : Bool := entry.expires.all fun time => now < time

/-- Tables and keys, with a log of what was created and of the times at which the key was tried. -/
structure Store (τ κ ι ρ : Type) where
  tables : τ
  entries : κ → Option (Entry ι ρ)
  now : ℕ
  created : List ι
  attempts : List ℕ

namespace Store

variable (s : Store τ κ ι ρ)

def get (key : κ) : Option (Record ι ρ) := ((s.entries key).filter (·.live s.now)).map Entry.record

def set [DecidableEq κ] (ttl : Option ℕ) (key : κ) (record : Record ι ρ) : Store τ κ ι ρ :=
  { s with entries := Function.update s.entries key (some ⟨record, ttl.map (s.now + ·)⟩) }

/-- Note that the key was tried. -/
def tried : Store τ κ ι ρ := { s with attempts := s.attempts ++ [s.now] }

def withTables (tables : τ) : Store τ κ ι ρ := { s with tables }

variable {s : Store τ κ ι ρ} {key : κ}

theorem get_of_entry {entry} (found : s.entries key = some entry) :
    s.get key = if entry.live s.now then some entry.record else none := by
  rw [get, found]
  cases live : entry.live s.now <;> simp [live]

variable {record : Record ι ρ}

theorem get_of_lasting (found : s.entries key = some ⟨record, none⟩) : s.get key = some record := by
  rw [get_of_entry found]
  rfl

theorem get_of_expiring {expires : ℕ} (entry : s.entries key = some ⟨record, some expires⟩) :
    s.get key = if s.now < expires then some record else none := by
  rw [get_of_entry entry]
  simp [Entry.live]

theorem get_eq_none (absent : s.entries key = none) : s.get key = none := by
  rw [get, absent]
  rfl

end Store

/-- What others may do between the steps of a request: time passes and the tables change, the key
is left alone. -/
structure Elsewhere (key : κ) (s s' : Store τ κ ι ρ) : Prop where
  entry : s'.entries key = s.entries key
  created : s'.created = s.created
  attempts : s'.attempts = s.attempts
  later : s.now ≤ s'.now

theorem Elsewhere.refl (key : κ) (s : Store τ κ ι ρ) : Elsewhere key s s :=
  ⟨rfl, rfl, rfl, Nat.le_refl _⟩

/-! ## Requests -/

/-- How a request may raise. -/
inductive Failure (ε : Type) where
  /-- Refused by the checks made before the key. -/
  | refused (error : ε)
  /-- The key is taken and has no response yet. -/
  | inProgress
  /-- Failed after the key was acquired. -/
  | failed (error : ε)
  deriving DecidableEq

/-- What is to be created: the insert, and what follows it. -/
structure Draft (τ ε ι ρ : Type) where
  insert : τ → Except ε (ι × τ)
  execute : ι → Thread τ ε ρ

/-- An operation checks its input and returns what remains to be done under the key: to prepare a
draft. -/
abbrev Operation (τ ε ι ρ : Type) := Thread τ ε (Thread τ ε (Draft τ ε ι ρ))

section

variable [DecidableEq κ] (ttl : Option ℕ) (key : κ)

def onTables (label : ε → Failure ε) (t : Thread τ ε α) : Thread (Store τ κ ι ρ) (Failure ε) α :=
  t.within Store.tables Store.withTables label

def tryAcquire : Thread (Store τ κ ι ρ) (Failure ε) Bool :=
  .act (fun s => if (s.get key).isNone then s.tried.set ttl key .processing else s.tried)
    fun s => .done (s.get key).isNone

def create (insert : τ → Except ε (ι × τ)) : Thread (Store τ κ ι ρ) (Failure ε) ι :=
  .act
    (fun s =>
      match insert s.tables with
      | .ok (about, tables) => { s with tables, created := s.created ++ [about] }
      | .error _ => s)
    fun s =>
      match insert s.tables with
      | .ok (about, _) => .done about
      | .error error => .raised (.failed error)

def setResult (response : Response ι ρ) : Thread (Store τ κ ι ρ) (Failure ε) PUnit :=
  .update fun s => s.set ttl key (.result response)

/-- What the owner of the key does. -/
def perform (prepare : Thread τ ε (Draft τ ε ι ρ)) :
    Thread (Store τ κ ι ρ) (Failure ε) (Response ι ρ) := do
  let draft ← onTables .failed prepare
  let about ← create draft.insert
  let body ← onTables .failed (draft.execute about)
  setResult ttl key ⟨about, body⟩
  return ⟨about, body⟩

def replay : Thread (Store τ κ ι ρ) (Failure ε) (Response ι ρ) :=
  .read fun s =>
    match s.get key with
    | some (.result response) => .ok response
    | _ => .error .inProgress

def request (operation : Operation τ ε ι ρ) :
    Thread (Store τ κ ι ρ) (Failure ε) (Response ι ρ) := do
  let prepare ← onTables .refused operation
  let acquired ← tryAcquire ttl key
  if acquired then perform ttl key prepare else replay key

/-! ## The protocol -/

/-- How far a request has come. -/
inductive Role (ι ρ : Type) where
  | seeking
  /-- It owns the key, and may have created something. -/
  | owning (made : Option ι)
  /-- It found the key taken. -/
  | taken
  | answered (response : Response ι ρ)
  | rejected

inductive Step (law : τ → τ → Prop) : Role ι ρ → Store τ κ ι ρ → Store τ κ ι ρ →
    Role ι ρ → Prop where
  | check {s : Store τ κ ι ρ} {tables : τ} (lawful : law s.tables tables) :
      Step law .seeking s (s.withTables tables) .seeking
  | acquire {s : Store τ κ ι ρ} (free : s.get key = none) :
      Step law .seeking s (s.tried.set ttl key .processing) (.owning none)
  | miss {s : Store τ κ ι ρ} (held : s.get key ≠ none) : Step law .seeking s s.tried .taken
  | work {s : Store τ κ ι ρ} {made : Option ι} {tables : τ} (lawful : law s.tables tables) :
      Step law (.owning made) s (s.withTables tables) (.owning made)
  /-- The insert raises. -/
  | stay {s : Store τ κ ι ρ} {made : Option ι} : Step law (.owning made) s s (.owning made)
  | create {s : Store τ κ ι ρ} {tables : τ} {about : ι} (lawful : law s.tables tables) :
      Step law (.owning none) s { s with
                                  tables, created := s.created ++ [about] } (.owning (some about))
  | store {s : Store τ κ ι ρ} (response : Response ι ρ) :
      Step law (.owning (some response.about)) s (s.set ttl key (.result response))
        (.answered response)
  | replay {s : Store τ κ ι ρ} {response : Response ι ρ}
      (stored : s.get key = some (.result response)) : Step law .taken s s (.answered response)
  | reject {s : Store τ κ ι ρ} (pending : ∀ response, s.get key ≠ some (.result response)) :
      Step law .taken s s .rejected

end

inductive Ends : Role ι ρ → Except (Failure ε) (Response ι ρ) → Prop where
  | refused {error : ε} : Ends .seeking (.error (.refused error))
  | failed {made : Option ι} {error : ε} : Ends (.owning made) (.error (.failed error))
  | answered {response : Response ι ρ} : Ends (.answered response) (.ok response)
  | rejected : Ends .rejected (.error .inProgress)

/-- The insert and what follows it change the tables as the law allows. -/
structure Draft.Lawful (law : τ → τ → Prop) (draft : Draft τ ε ι ρ) : Prop where
  insert : ∀ s about tables, draft.insert s = .ok (about, tables) → law s tables
  execute : ∀ about, (draft.execute about).Always law fun _ => True

/-- Everything an operation does changes the tables as the law allows. -/
def Operation.Lawful (law : τ → τ → Prop) (operation : Operation τ ε ι ρ) : Prop :=
  Thread.Always law (fun prepare => prepare.Always law (Draft.Lawful law)) operation

theorem Operation.lawful_of_forall {law} (lawful : ∀ s s', law s s')
    (op : Operation τ ε ι ρ) : op.Lawful law := by
  refine Thread.always_of_forall lawful (fun prepare => ?_) op
  refine Thread.always_of_forall lawful (fun draft => ⟨fun s _ tabs _ => lawful s tabs, ?_⟩) prepare
  exact fun about => Thread.always_of_forall lawful (fun _ => trivial) (draft.execute about)

section

variable [DecidableEq κ] {ttl : Option ℕ} {key : κ} {law : τ → τ → Prop}

theorem tryAcquire_follows :
    (tryAcquire ttl key : Thread (Store τ κ ι ρ) (Failure ε) Bool).Follows (Step ttl key law)
      (fun role out => out = .ok true ∧ role = .owning none ∨ out = .ok false ∧ role = .taken)
        .seeking := by
  intro s
  cases found : s.get key with
  | none => exact ⟨.owning none, by simpa [found] using .acquire found, .inl ⟨by simp [found], rfl⟩⟩
  | some record =>
    refine ⟨.taken, ?_, .inr ⟨by simp [found], rfl⟩⟩
    simpa [found] using .miss (by simp [found])

theorem create_follows {insert} (lawful : ∀ s about tabs, insert s = .ok (about, tabs) →
    law s tabs) :
    (create insert : Thread (Store τ κ ι ρ) (Failure ε) ι).Follows (Step ttl key law)
      (fun role out => match out with
        | .ok about => role = .owning (some about)
        | .error error => role = .owning none ∧ ∃ inner, error = .failed inner)
      (.owning none) := by
  intro s
  cases ins : insert s.tables with
  | ok new =>
    obtain ⟨about, tabs⟩ := new
    refine ⟨.owning (some about), ?_, by simp only [ins]; rfl⟩
    simp only [ins]
    exact .create (lawful s.tables about tabs ins)
  | error error =>
    refine ⟨.owning none, ?_, by simp only [ins]; exact ⟨rfl, error, rfl⟩⟩
    simp only [ins]
    exact .stay

theorem perform_follows {prepare : Thread τ ε (Draft τ ε ι ρ)}
    (lawful : prepare.Always law (Draft.Lawful law)) :
    (perform ttl key prepare).Follows (Step ttl key law) Ends (.owning none) := by
  refine .bind ?_ ?_ (Thread.Follows.within (fun s tabs ok => .work ok) lawful)
  · rintro role draft ⟨rfl, draftLawful⟩
    refine .bind ?_ ?_ (create_follows draftLawful.insert)
    · rintro role about rfl
      refine .bind ?_ ?_
        (Thread.Follows.within (fun s tabs ok => .work ok) (draftLawful.execute about))
      · rintro role body ⟨rfl, -⟩ s
        exact ⟨.answered ⟨about, body⟩, .store ⟨about, body⟩, .answered⟩
      · rintro role err ⟨rfl, inner, rfl⟩
        exact .failed
    · rintro role err ⟨rfl, inner, rfl⟩
      exact .failed
  · rintro role err ⟨rfl, inner, rfl⟩
    exact .failed

theorem replay_follows :
    (replay key : Thread (Store τ κ ι ρ) (Failure ε) (Response ι ρ)).Follows (Step ttl key law)
      Ends .taken := by
  intro s
  dsimp only
  split
  · rename_i resp stored
    exact ⟨.answered resp, .replay stored, .answered⟩
  · rename_i pending
    exact ⟨.rejected, .reject pending, .rejected⟩

/-- **A request goes through its roles in order, whatever happens between its steps.** -/
theorem request_follows {op : Operation τ ε ι ρ} (lawful : op.Lawful law) :
    (request ttl key op).Follows (Step ttl key law) Ends .seeking := by
  refine .bind ?_ ?_ (Thread.Follows.within (fun s tabs ok => .check ok) lawful)
  · rintro role prepare ⟨rfl, prepareLawful⟩
    refine .bind ?_ ?_ tryAcquire_follows
    · rintro role got (⟨acquiredNow, rfl⟩ | ⟨missed, rfl⟩)
      · cases acquiredNow
        exact perform_follows prepareLawful
      · cases missed
        exact replay_follows
    · rintro role err (⟨absurdity, -⟩ | ⟨absurdity, -⟩) <;> cases absurdity
  · rintro role err ⟨rfl, inner, rfl⟩
    exact .refused

end

/-! ## Without expiry -/

section

variable {key : κ} {law : τ → τ → Prop} {s s' : Store τ κ ι ρ} {roles : ℕ → Role ι ρ}

/-- A request that does not own the key and was not answered. -/
inductive Role.Bystander : Role ι ρ → Prop where
  | seeking : Bystander .seeking
  | taken : Bystander .taken
  | rejected : Bystander .rejected

inductive Owned (key : κ) (s : Store τ κ ι ρ) (roles : ℕ → Role ι ρ) : Prop where
  | free (unused : s.entries key = none) (nothing : s.created = [])
      (seeking : ∀ n, roles n = .seeking)
  | held (owner : ℕ) (made : Option ι) (entry : s.entries key = some ⟨.processing, none⟩)
      (created : s.created = made.toList) (owns : roles owner = .owning made)
      (others : ∀ n, n ≠ owner → (roles n).Bystander)
  | stored (response : Response ι ρ) (entry : s.entries key = some ⟨.result response, none⟩)
      (created : s.created = [response.about])
      (others : ∀ n, (roles n).Bystander ∨ roles n = .answered response)

theorem Owned.elsewhere (owned : Owned key s roles) (others : Elsewhere key s s') :
    Owned key s' roles := by
  cases owned with
  | free unused nothing seeking =>
    exact .free (others.entry.trans unused) (others.created.trans nothing) seeking
  | held owner made entry created owns bystanders =>
    exact .held owner made (others.entry.trans entry) (others.created.trans created) owns bystanders
  | stored resp entry created bystanders =>
    exact .stored resp (others.entry.trans entry) (others.created.trans created) bystanders

variable {response : Response ι ρ}

theorem Owned.of_stored (owned : Owned key s roles)
    (entry : s.entries key = some ⟨.result response, none⟩) :
    s.created = [response.about] ∧ ∀ n, (roles n).Bystander ∨ roles n = .answered response := by
  cases owned with
  | free unused _ _ => cases entry.symm.trans unused
  | held _ _ held _ _ _ => cases entry.symm.trans held
  | stored other stored made others =>
    cases entry.symm.trans stored
    exact ⟨made, others⟩

variable {n : ℕ}

theorem Owned.of_answered (owned : Owned key s roles) (answered : roles n = .answered response) :
    s.entries key = some ⟨.result response, none⟩ := by
  cases owned with
  | free _ _ seeking => cases answered.symm.trans (seeking n)
  | held owner made _ _ owns others =>
    rcases eq_or_ne n owner with rfl | other
    · cases answered.symm.trans owns
    · cases answered ▸ others n other
  | stored stored entry _ others =>
    rcases others n with bystander | eq
    · cases answered ▸ bystander
    · cases answered.symm.trans eq
      exact entry

variable [DecidableEq κ]

@[simp] theorem Store.entries_set (record : Record ι ρ) :
    (s.set none key record).entries key = some ⟨record, none⟩ := by
  simp [set]

theorem Step.bystander {role role' record}
    (step : Step none key law role s s' role') (bystander : role.Bystander)
    (entry : s.entries key = some ⟨record, none⟩) :
    s'.entries key = s.entries key ∧ s'.created = s.created ∧
      (role'.Bystander ∨ ∃ resp, record = .result resp ∧ role' = .answered resp) := by
  have found : s.get key = some record := Store.get_of_lasting entry
  cases bystander with
  | seeking =>
    cases step with
    | check lawful => exact ⟨rfl, rfl, .inl .seeking⟩
    | acquire free => cases found.symm.trans free
    | miss held => exact ⟨rfl, rfl, .inl .taken⟩
  | taken =>
    cases step with
    | replay stored =>
      exact ⟨rfl, rfl, .inr ⟨_, Option.some.inj (found.symm.trans stored), rfl⟩⟩
    | reject pending => exact ⟨rfl, rfl, .inl .rejected⟩
  | rejected => cases step

theorem Step.owner {made role'}
    (step : Step none key law (.owning made) s s' role') (created : s.created = made.toList) :
    (∃ made', s'.entries key = s.entries key ∧ s'.created = made'.toList ∧ role' = .owning made') ∨
      ∃ resp, s'.entries key = some ⟨.result resp, none⟩ ∧
        s'.created = [resp.about] ∧ role' = .answered resp := by
  cases step with
  | work lawful | stay => exact .inl ⟨made, rfl, created, rfl⟩
  | @create _ _ about lawful =>
    refine .inl ⟨some about, rfl, ?_, rfl⟩
    show s.created ++ [about] = [about]
    rw [created]
    rfl
  | store resp => exact .inr ⟨resp, Store.entries_set _, created, rfl⟩

theorem Owned.step {n role} (owned : Owned key s roles)
    (step : Step none key law (roles n) s s' role) :
    Owned key s' (Function.update roles n role) := by
  cases owned with
  | free unused nothing seeking =>
    rw [seeking n] at step
    cases step with
    | check lawful =>
      refine .free unused nothing fun m => ?_
      rcases eq_or_ne m n with rfl | other
      · rw [update_self]
      · rw [update_of_ne other, seeking m]
    | acquire free =>
      refine .held n none (Store.entries_set _) nothing (update_self ..) fun m other => ?_
      rw [update_of_ne other, seeking m]
      exact .seeking
    | miss held => exact absurd (Store.get_eq_none unused) held
  | held owner made entry created owns others =>
    rcases eq_or_ne n owner with rfl | other
    · rw [owns] at step
      rcases step.owner created with ⟨made', same, created', rfl⟩ | ⟨resp, stored, created', rfl⟩
      · refine .held n made' (same.trans entry) created' (update_self ..) fun m other => ?_
        rw [update_of_ne other]
        exact others m other
      · refine .stored resp stored created' fun m => ?_
        rcases eq_or_ne m n with rfl | other
        · exact .inr (update_self ..)
        · rw [update_of_ne other]
          exact .inl (others m other)
    · obtain ⟨same, created', after⟩ := step.bystander (others n other) entry
      refine .held owner made (same.trans entry) (created'.trans created) ?_ fun m foreign => ?_
      · rw [update_of_ne other.symm, owns]
      · rcases eq_or_ne m n with rfl | ne
        · rw [update_self]
          rcases after with bystander | ⟨resp, absurdity, -⟩
          · exact bystander
          · cases absurdity
        · rw [update_of_ne ne]
          exact others m foreign
  | stored resp entry created others =>
    rcases others n with bystander | answered
    · obtain ⟨same, created', after⟩ := step.bystander bystander entry
      refine .stored resp (same.trans entry) (created'.trans created) fun m => ?_
      rcases eq_or_ne m n with rfl | ne
      · rw [update_self]
        rcases after with bystander | ⟨other, sameResponse, rfl⟩
        · exact .inl bystander
        · cases sameResponse
          exact .inr rfl
      · rw [update_of_ne ne]
        exact others m
    · rw [answered] at step
      cases step

theorem Step.keeps_stored {role} (step : Step none key law (roles n) s s' role)
    (owned : Owned key s roles) (entry : s.entries key = some ⟨.result response, none⟩) :
    s'.entries key = some ⟨.result response, none⟩ := by
  rcases (owned.of_stored entry).2 n with bystander | answered
  · exact (step.bystander bystander entry).1.trans entry
  · rw [answered] at step
    cases step

theorem Step.ne_rejected {role role'} (step : Step none key law role s s' role')
    (entry : s.entries key = some ⟨.result response, none⟩) : role' ≠ .rejected := by
  rintro rfl
  cases step with
  | reject pending => exact pending response (Store.get_of_lasting entry)

theorem Step.tables_of_law {N : τ → Prop} {role role' : Role ι ρ}
    (step : Step none key (fun x x' => N x → N x') role s s' role') (holds : N s.tables) :
    N s'.tables := by
  cases step with
  | check lawful | work lawful | create lawful => exact lawful holds
  | acquire _ | miss _ | stay | store _ | replay _ | reject _ => exact holds

end

section

variable [DecidableEq κ] {key : κ} {operation : χ → Operation τ ε ι ρ}
  {environment : θ → Store τ κ ι ρ → Option (Store τ κ ι ρ)} {N : τ → Prop}

/-- Requests under one key that never expires, interleaved with each other and with an
environment. -/
def run (key : κ) (operation : χ → Operation τ ε ι ρ)
    (environment : θ → Store τ κ ι ρ → Option (Store τ κ ι ρ))
    (crew : Crew (Store τ κ ι ρ) (Failure ε) (Response ι ρ)) (moves : List (Crew.Move χ θ)) :
    Crew (Store τ κ ι ρ) (Failure ε) (Response ι ρ) :=
  final (Crew.step (fun call => request none key (operation call)) environment) crew moves

def Keeping (N : τ → Prop) (operation : χ → Operation τ ε ι ρ) : Prop :=
  ∀ call, (operation call).Lawful fun x x' => N x → N x'

/-- The environment keeps the property, and leaves the key alone where it holds. -/
def LeavesAlone (N : τ → Prop) (key : κ)
    (environment : θ → Store τ κ ι ρ → Option (Store τ κ ι ρ)) : Prop :=
  ∀ change s s', N s.tables → environment change s = some s' → Elsewhere key s s' ∧ N s'.tables

structure Governed (N : τ → Prop) (key : κ)
    (crew : Crew (Store τ κ ι ρ) (Failure ε) (Response ι ρ)) (roles : ℕ → Role ι ρ) : Prop where
  cast : Crew.Cast (Step none key fun x x' => N x → N x') Ends .seeking roles crew
  owned : Owned key crew.shared roles
  kept : N crew.shared.tables

theorem governed_idle {s : Store τ κ ι ρ} (unused : s.entries key = none)
    (nothing : s.created = []) (kept : N s.tables) :
    Governed (ε := ε) N key (.idle s) fun _ => .seeking :=
  ⟨Crew.cast_idle s, .free unused nothing fun _ => rfl, kept⟩

variable {crew : Crew (Store τ κ ι ρ) (Failure ε) (Response ι ρ)} {roles : ℕ → Role ι ρ}

theorem governed_run (keeping : Keeping N operation) (alone : LeavesAlone N key environment)
    (governed : Governed N key crew roles) (moves) :
    ∃ roles', Governed N key (run key operation environment crew moves) roles' := by
  obtain ⟨roles', cast, owned, kept⟩ := Crew.crew_invariant
    (I := fun s roles => Owned key s roles ∧ N s.tables)
    (fun call => request_follows (keeping call))
    (fun s roles n s' role holds step => ⟨holds.1.step step, step.tables_of_law holds.2⟩)
    (fun s roles change s' holds changed =>
      have calm := alone change s s' holds.2 changed
      ⟨holds.1.elsewhere calm.1, calm.2⟩)
    moves governed.cast ⟨governed.owned, governed.kept⟩
  exact ⟨roles', cast, owned, kept⟩

/-- **At most one thing is created under a key.** -/
theorem Governed.created_le_one (governed : Governed N key crew roles) :
    crew.shared.created.length ≤ 1 := by
  cases governed.owned with
  | free _ nothing _ => simp [nothing]
  | held _ made _ created _ _ => cases made <;> simp [created]
  | stored _ _ created _ => simp [created]

/-- **Once a request was answered, nothing more is created, and every later request that passes its
checks gets the same answer.** -/
theorem replayed (keeping : Keeping N operation) (alone : LeavesAlone N key environment)
    (governed : Governed N key crew roles) (moves) {n} {resp : Response ι ρ}
    (answered : crew.outcome n = some (.ok resp)) :
    (run key operation environment crew moves).shared.created = [resp.about] ∧
      ∀ m out, crew.threads.length ≤ m →
        (run key operation environment crew moves).outcome m = some out →
          out = .ok resp ∨ ∃ err, out = .error (.refused err) := by
  have stored : crew.shared.entries key = some ⟨.result resp, none⟩ := by
    have ended := governed.cast.ends_of_outcome answered
    generalize role : roles n = ending at ended
    cases ended with
    | answered => exact governed.owned.of_answered role
  obtain ⟨roles', cast, ⟨owned, kept, entry⟩, later⟩ := Crew.crew_invariant
    (I := fun s roles =>
      (Owned key s roles ∧ N s.tables ∧ s.entries key = some ⟨.result resp, none⟩) ∧
        ∀ m, crew.threads.length ≤ m → roles m ≠ .rejected)
    (fun call => request_follows (keeping call))
    (by
      rintro s roles m s' role ⟨⟨owned, kept, entry⟩, later⟩ step
      refine ⟨⟨owned.step step, step.tables_of_law kept, step.keeps_stored owned entry⟩, ?_⟩
      intro l isIn
      rcases eq_or_ne l m with rfl | other
      · rw [update_self]
        exact step.ne_rejected entry
      · rw [update_of_ne other]
        exact later l isIn)
    (by
      rintro s roles change s' ⟨⟨owned, kept, entry⟩, later⟩ changed
      obtain ⟨calm, kept'⟩ := alone change s s' kept changed
      exact ⟨⟨owned.elsewhere calm, kept', calm.entry.trans entry⟩, later⟩)
    moves governed.cast
    ⟨⟨governed.owned, governed.kept, stored⟩, fun m waiting => by
      rw [governed.cast.waiting m waiting]
      exact nofun⟩
  obtain ⟨made, others⟩ := owned.of_stored entry
  refine ⟨made, fun m out isIn through => ?_⟩
  have ended := cast.ends_of_outcome through
  have unrejected := later m isIn
  rcases others m with bystander | eq
  · generalize roles' m = role at ended bystander unrejected
    cases bystander with
    | seeking =>
      cases ended with
      | refused => exact .inr ⟨_, rfl⟩
    | taken => cases ended
    | rejected => exact absurd rfl unrejected
  · rw [eq] at ended
    cases ended with
    | answered => exact .inl rfl

end

/-! ## With expiry -/

section

variable {key : κ} {law : τ → τ → Prop} {ttl : ℕ}

/-- What a request that has acquired its key has left there, seen from where it started. -/
def LeftProcessing (key : κ) (ttl : ℕ) (start : Store τ κ ι ρ) : Role ι ρ → Store τ κ ι ρ → Prop
  | .seeking, s => s.attempts = start.attempts
  | .owning _, s => ∃ acquiredAt, s.attempts = start.attempts ++ [acquiredAt] ∧
      s.entries key = some ⟨.processing, some (acquiredAt + ttl)⟩
  | _, _ => True

variable {start s s' : Store τ κ ι ρ} {role : Role ι ρ}

theorem LeftProcessing.elsewhere (left : LeftProcessing key ttl start role s)
    (others : Elsewhere key s s') :
    LeftProcessing key ttl start role s' := by
  cases role with
  | seeking => exact others.attempts.trans left
  | owning made =>
    obtain ⟨acquiredAt, tried, entry⟩ := left
    exact ⟨acquiredAt, others.attempts.trans tried, others.entry.trans entry⟩
  | taken | answered resp | rejected => trivial

/-- Where a request stands that found a record without a response under its key: it was turned away
if it tried the key before the record expired. -/
def Turned (key : κ) (expires : ℕ) (start : Store τ κ ι ρ) : Role ι ρ → Store τ κ ι ρ → Prop
  | .seeking, s => s.attempts = start.attempts ∧ s.entries key = some ⟨.processing, some expires⟩
  | .taken, s => ∃ triedAt < expires, s.attempts = start.attempts ++ [triedAt] ∧
      s.entries key = some ⟨.processing, some expires⟩
  | .rejected, s => ∃ triedAt < expires, s.attempts = start.attempts ++ [triedAt]
  | .owning _, s => ∃ triedAt ≥ expires, s.attempts = start.attempts ++ [triedAt]
  | .answered _, s => ∃ triedAt ≥ expires, s.attempts = start.attempts ++ [triedAt]

theorem Turned.elsewhere {expires : ℕ} (turned : Turned key expires start role s)
    (others : Elsewhere key s s') :
    Turned key expires start role s' := by
  have tries := others.attempts
  cases role with
  | seeking => exact ⟨tries.trans turned.1, others.entry.trans turned.2⟩
  | taken =>
    obtain ⟨triedAt, early, tried, entry⟩ := turned
    exact ⟨triedAt, early, tries.trans tried, others.entry.trans entry⟩
  | rejected | owning made | answered resp =>
    exact turned.imp fun _ tried => ⟨tried.1, tries.trans tried.2⟩

variable [DecidableEq κ]

theorem LeftProcessing.step {start s s' : Store τ κ ι ρ} {role role' : Role ι ρ}
    (left : LeftProcessing key ttl start role s) (step : Step (some ttl) key law role s s' role') :
    LeftProcessing key ttl start role' s' := by
  cases step with
  | check _ | work _ | stay | create _ => exact left
  | acquire free =>
    refine ⟨s.now, ?_, update_self ..⟩
    show s.attempts ++ [s.now] = _
    rw [left]
  | miss _ | store _ | replay _ | reject _ => trivial

theorem Turned.step {start s s' : Store τ κ ι ρ} {role role' : Role ι ρ} {expires : ℕ}
    (turned : Turned key expires start role s)
    (step : Step (some ttl) key law role s s' role') : Turned key expires start role' s' := by
  cases step with
  | check _ | work _ | stay | create _ | store _ => exact turned
  | acquire free =>
    obtain ⟨untried, entry⟩ := turned
    rw [Store.get_of_expiring entry] at free
    refine ⟨s.now, ?_, ?_⟩
    · by_contra early
      rw [if_pos (Nat.lt_of_not_le early)] at free
      cases free
    · show s.attempts ++ [s.now] = _
      rw [untried]
  | miss held =>
    obtain ⟨untried, entry⟩ := turned
    rw [Store.get_of_expiring entry] at held
    refine ⟨s.now, ?_, ?_, entry⟩
    · by_contra late
      exact held (if_neg late)
    · show s.attempts ++ [s.now] = _
      rw [untried]
  | replay stored =>
    obtain ⟨_, _, _, entry⟩ := turned
    rw [Store.get_of_expiring entry] at stored
    split at stored <;> cases stored
  | reject _ =>
    obtain ⟨triedAt, early, tried, _⟩ := turned
    exact ⟨triedAt, early, tried⟩

/-- **A request that failed after acquiring its key keeps the next one out exactly until the record
expires.** -/
theorem rejected_iff_unexpired {failed later : Operation τ ε ι ρ}
    {start left retried ended : Store τ κ ι ρ} {err : ε}
    {out : Except (Failure ε) (Response ι ρ)}
    (raises : (request (some ttl) key failed).Among (Elsewhere key) start (.error (.failed err))
      left)
    (between : Elsewhere key left retried)
    (comes : (request (some ttl) key later).Among (Elsewhere key) retried out ended)
    (valid : ∀ err, out ≠ .error (.refused err)) :
    ∃ acquiredAt triedAt, left.attempts = start.attempts ++ [acquiredAt] ∧
      ended.attempts = retried.attempts ++ [triedAt] ∧
      (out = .error .inProgress ↔ triedAt < acquiredAt + ttl) := by
  have anyLaw : ∀ x x' : τ, (fun _ _ => True : τ → τ → Prop) x x' := fun _ _ => trivial
  obtain ⟨role, leftThere, ending⟩ := Thread.Follows.among
    (I := LeftProcessing key ttl start) (fun _ _ _ _ => LeftProcessing.step)
    (fun _ _ _ => LeftProcessing.elsewhere)
    (request_follows (failed.lawful_of_forall anyLaw)) rfl raises
  obtain ⟨acquiredAt, acquired, entry⟩ : ∃ acquiredAt,
    left.attempts = start.attempts ++ [acquiredAt] ∧
        left.entries key = some ⟨.processing, some (acquiredAt + ttl)⟩ := by
    cases ending with
    | failed => exact leftThere
  obtain ⟨role', turned, ending'⟩ := Thread.Follows.among
    (I := Turned key (acquiredAt + ttl) retried) (fun _ _ _ _ => Turned.step)
    (fun _ _ _ => Turned.elsewhere)
    (request_follows (later.lawful_of_forall anyLaw)) ⟨rfl, between.entry.trans entry⟩ comes
  cases ending' with
  | refused => exact absurd rfl (valid _)
  | rejected =>
    obtain ⟨triedAt, early, tried⟩ := turned
    exact ⟨acquiredAt, triedAt, acquired, tried, by simpa using early⟩
  | failed | answered =>
    obtain ⟨triedAt, late, tried⟩ := turned
    exact ⟨acquiredAt, triedAt, acquired, tried, by simpa using late⟩

end

end IdempotencyKey
