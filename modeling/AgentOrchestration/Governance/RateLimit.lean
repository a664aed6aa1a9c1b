import AgentOrchestration.Library.Amortized
import AgentOrchestration.Library.ExpiringTable

/-!
# Rate limits

`RateLimitService.enforce` counts the requests of a principal for an action under a key of its own.
The counter gets its lifetime by a second command, from the request that created it. Two lifetimes
are the most that an interval of that length can meet; but a counter whose creator is lost between
the two commands never expires.
-/

namespace AgentOrchestration.Governance

set_option autoImplicit false

open ExpiringTable (Entry)
open Interleaving (Thread Pool Move step Solvent)
open LabelledSystem (trace)

/-! ## The service -/

structure RateLimitPolicyVersion where
  windowSeconds : ℕ
  limit : ℕ

structure RateLimitPolicyRepository where
  getDefaultPolicyForTenant : (tenantId : ℕ) → Option ℕ
  getPublishedPolicyVersion : (rateLimitPolicyId : ℕ) → (action principalType : String) →
    Option RateLimitPolicyVersion

inductive RateLimitError where
  | rateLimitPolicyNotConfigured
  | rateLimitPolicyNotPublished
  | rateLimitExceeded
  deriving DecidableEq

/-- The time in milliseconds, and the counter
`rate:{tenant_id}:{principal_type}:{principal_id}:{action}`. -/
structure Counter where
  now : ℕ
  entry : Option (Entry ℕ)

namespace Counter

variable (counter : Counter)

/-- What `INCR` returns. -/
def next : ℕ := (counter.entry.map Entry.value).getD 0 + 1

def incr : Counter :=
  { counter with entry := some ⟨counter.next, counter.entry.bind Entry.expiresAt⟩ }

/-- `EXPIRE`, whose argument is in seconds. -/
def expire (ttl : ℕ) : Counter :=
  { counter with
    entry := counter.entry.map fun entry =>
      { entry with expiresAt := some (counter.now + 1000 * ttl) } }

/-- Time passes; the counter vanishes when its lifetime has elapsed. -/
def wait (elapsed : ℕ) : Counter where
  now := counter.now + elapsed
  entry := counter.entry.filter fun entry => decide (entry.Live (counter.now + elapsed))

end Counter

/-- The `EXPIRE` of `incr_with_ttl`, which only the first increment sends. -/
def expireFirst (ttl value : ℕ) : Thread Counter RateLimitError PUnit :=
  if value = 1 then .update fun counter => counter.expire ttl else pure ⟨⟩

/-- `incr_with_ttl`, with the time of its `INCR`. -/
def incrWithTtl (ttl : ℕ) : Thread Counter RateLimitError (ℕ × ℕ) := do
  let counted ← .act Counter.incr fun counter => .done (counter.next, counter.now)
  expireFirst ttl counted.1
  return counted

variable (repository : RateLimitPolicyRepository) (tenantId : ℕ) (principalType action : String)

/-- The version that `enforce` applies. -/
def publishedVersion : Except RateLimitError RateLimitPolicyVersion :=
  match repository.getDefaultPolicyForTenant tenantId with
  | none => .error .rateLimitPolicyNotConfigured
  | some policyId =>
    match repository.getPublishedPolicyVersion policyId action principalType with
    | none => .error .rateLimitPolicyNotPublished
    | some version => .ok version

/-- A request that is admitted is dated by its `INCR`. -/
def enforce : Thread Counter RateLimitError ℕ := do
  let version ← .ofExcept (publishedVersion repository tenantId principalType action)
  let counted ← incrWithTtl version.windowSeconds
  Thread.raiseIf (version.limit < counted.1) .rateLimitExceeded
  return counted.2

/-! ## The system -/

/-- What happens: a request under the key, or the passing of time. -/
inductive RateEvent where
  | request
  | pass (elapsed : ℕ)

def RateEvent.program : RateEvent → Thread Counter RateLimitError (Option ℕ)
  | .request => do
      let time ← enforce repository tenantId principalType action
      return some time
  | .pass elapsed => do
      .update fun counter => counter.wait elapsed
      return none

/-- Requests take their steps in any order, and may be lost between two of them. -/
abbrev requests : Pool Counter RateLimitError (Option ℕ) RateEvent → Move RateEvent →
    Option (Pool Counter RateLimitError (Option ℕ) RateEvent) :=
  step fun event => [event.program repository tenantId principalType action]

/-- The outcome of a request that was admitted in `[start, stop)`. -/
def isAdmitted (start stop : ℕ) : Except RateLimitError (Option ℕ) → Bool
  | .ok (some time) => start ≤ time && time < stop
  | _ => false

/-- How many requests were admitted in `[start, stop)`. -/
def admittedIn (start stop : ℕ) (pool : Pool Counter RateLimitError (Option ℕ) RateEvent) : ℕ :=
  pool.finished.countP fun entry => isAdmitted start stop entry.2

/-! ## Measures -/

variable (version : RateLimitPolicyVersion) (start stop : ℕ)

/-- A number drawn within the limit in `[start, stop)` is worth one. -/
def worth : Except RateLimitError (ℕ × ℕ) → ℕ
  | .ok (value, time) => if value ≤ version.limit ∧ start ≤ time ∧ time < stop then 1 else 0
  | .error _ => 0

/-- An outcome weighs one if it is an admission in `[start, stop)`. -/
def weight (outcome : Except RateLimitError (Option ℕ)) : ℕ :=
  if isAdmitted start stop outcome then 1 else 0

/-- A measure of the counter that pays for the admissions in `[start, stop)`. -/
structure Measures (measure : Counter → ℕ) : Prop where
  incr : ∀ counter, measure counter.incr +
    worth version start stop (.ok (counter.next, counter.now)) ≤ measure counter
  expire : ∀ counter, measure (counter.expire version.windowSeconds) ≤ measure counter
  wait : ∀ counter elapsed, measure (counter.wait elapsed) ≤ measure counter

section

variable {repository tenantId principalType action version start stop} {measure : Counter → ℕ}
  (measures : Measures version start stop measure)
  (published : publishedVersion repository tenantId principalType action = .ok version)

include measures

theorem Measures.pays_incrWithTtl :
    (incrWithTtl version.windowSeconds).Pays measure (fun _ => True)
      (worth version start stop) 0 := by
  refine .bind (N := worth version start stop) (fun _ => le_refl _) (fun counted => ?_)
    (.act fun counter _ => measures.incr counter)
  have steps : (expireFirst version.windowSeconds counted.1).Steps fun write =>
      ∀ counter, measure (write counter) ≤ measure counter :=
    .ite (.update measures.expire) trivial
  exact .bind (N := fun _ => worth version start stop (.ok counted)) (fun _ => Nat.zero_le _)
    (fun _ => le_refl _) (steps.pays fun _ => le_refl _)

include published

theorem Measures.pays_program (event : RateEvent) :
    (event.program repository tenantId principalType action).Pays measure (fun _ => True)
      (weight start stop) 0 := by
  cases event with
  | pass elapsed =>
    exact .bind (N := fun _ => 0) (fun _ => le_refl _) (fun _ => le_refl _)
      (.act fun counter _ => measures.wait counter elapsed)
  | request =>
    refine .bind (N := fun out => weight start stop (out.map some)) (fun _ => le_refl _)
      (fun _ => le_refl _) ?_
    rw [enforce, published]
    refine .bind (N := worth version start stop) (fun _ => Nat.zero_le _) (fun counted => ?_)
      measures.pays_incrWithTtl
    rw [Thread.raiseIf]
    split
    · exact Nat.zero_le _
    · rename_i within
      show weight start stop (.ok (some counted.2)) ≤ worth version start stop (.ok counted)
      simp [weight, isAdmitted, worth, Nat.le_of_not_lt within]

/-- **What a measure bounds**, along every run. -/
theorem Measures.bounds (counter moves) :
    ∀ t ∈ trace (requests repository tenantId principalType action) ⟨counter, [], []⟩ moves,
      admittedIn start stop t.after ≤ measure counter ∧
        measure t.after.shared ≤ measure counter := by
  intro t isStep
  have solvent : Solvent measure (fun _ _ => True) (fun _ => weight start stop) (measure counter)
      t.after := by
    refine Interleaving.solvent_trace (fun event thread only => ?_) moves (.of_idle rfl (le_refl _))
      (fun t _ => ?_) t isStep
    · rw [List.mem_singleton.mp only]
      exact measures.pays_program published event
    · cases t.action <;> simp [Interleaving.Admitted]
  refine ⟨?_, solvent.bounded⟩
  have counted : t.after.outcomeWeight (fun _ => weight start stop) =
      admittedIn start stop t.after := by
    rw [Pool.outcomeWeight, admittedIn]
    induction t.after.finished with
    | nil => rfl
    | cons entry rest ih =>
      rw [List.map_cons, List.sum_cons, ih, List.countP_cons, weight, Nat.add_comm]
  rw [← counted]
  exact solvent.weight_le

end

/-! ## The bound -/

/-- How many requests can still be admitted in the window from `start` on. A counter that ends
within the window leaves room for another one. -/
def allowance (counter : Counter) : ℕ :=
  if counter.now < start then 2 * version.limit
  else if start + 1000 * version.windowSeconds ≤ counter.now then 0
  else match counter.entry with
    | none => version.limit
    | some entry => version.limit - entry.value +
        if ∀ time ∈ entry.expiresAt, start + 1000 * version.windowSeconds ≤ time then 0
        else version.limit

variable (counter : Counter)

theorem allowance_le : allowance version start counter ≤ 2 * version.limit := by
  unfold allowance
  repeat' split
  all_goals omega

theorem measures_allowance :
    Measures version start (start + 1000 * version.windowSeconds) (allowance version start) := by
  refine ⟨fun ⟨now, entry⟩ => ?_, fun ⟨now, entry⟩ => ?_, fun ⟨now, entry⟩ elapsed => ?_⟩
  · cases entry with
    | none =>
      simp [allowance, worth, Counter.incr, Counter.next]
      grind
    | some entry =>
      simp only [allowance, worth, Counter.incr, Counter.next, Option.map_some, Option.getD_some,
        Option.bind_some]
      grind
  · cases entry with
    | none => exact le_refl _
    | some entry =>
      simp only [allowance, Counter.expire, Option.map_some]
      grind
  · by_cases before : now < start
    · refine (allowance_le version start _).trans ?_
      rw [allowance, if_pos before]
    cases entry with
    | none =>
      simp only [allowance, Counter.wait, Option.filter_none]
      grind
    | some entry =>
      by_cases live : entry.Live (now + elapsed)
      · simp only [allowance, Counter.wait, Option.filter_some, live, decide_true, if_true]
        grind
      · -- A counter that ends before the window does left room for another one.
        have ends (within : now + elapsed < start + 1000 * version.windowSeconds) :
            ¬ ∀ time ∈ entry.expiresAt, start + 1000 * version.windowSeconds ≤ time :=
          fun all => live fun time expires => within.trans_le (all time expires)
        simp only [allowance, Counter.wait, Option.filter_some, live, decide_false,
          Bool.false_eq_true, if_false]
        grind

/-- **At most twice the limit is admitted in a window**, wherever it starts, whatever the counter
was and in whatever order the commands come. -/
theorem admitted_within_twice_limit
    (published : publishedVersion repository tenantId principalType action = .ok version)
    (moves : List (Move RateEvent)) :
    ∀ t ∈ trace (requests repository tenantId principalType action) ⟨counter, [], []⟩ moves,
      admittedIn start (start + 1000 * version.windowSeconds) t.after ≤ 2 * version.limit := by
  intro t isStep
  have bounds := (measures_allowance version start).bounds published counter moves t isStep
  exact bounds.1.trans (allowance_le version start counter)

/-- Two requests a minute. -/
def twoAMinute : RateLimitPolicyRepository := ⟨fun _ => some 1, fun _ _ _ => some ⟨60, 2⟩⟩

/-- A second request shortly before the counter of the first minute ends, and three at its end. -/
def aroundTheMinute : List (Move RateEvent) :=
  [RateEvent.request, .pass 59000, .request, .pass 1000, .request, .request, .request].flatMap
    fun event => .start event :: List.replicate 2 (.advance 0)

/-- Three requests of the window from the thirtieth second on are admitted, by two counters. -/
theorem three_requests_within_twice_limit :
    publishedVersion twoAMinute 1 "user" "upload" = .ok ⟨60, 2⟩ ∧
      ((trace (requests twoAMinute 1 "user" "upload") ⟨⟨0, none⟩, [], []⟩
        aroundTheMinute).getLast?.map fun t => admittedIn 30000 90000 t.after) = some 3 ∧
      ∀ t ∈ trace (requests twoAMinute 1 "user" "upload") ⟨⟨0, none⟩, [], []⟩ aroundTheMinute,
        admittedIn 30000 90000 t.after ≤ 2 * 2 :=
  ⟨rfl, by decide +kernel, admitted_within_twice_limit twoAMinute 1 "user" "upload" ⟨60, 2⟩ 30000
    ⟨0, none⟩ rfl aroundTheMinute⟩

/-! ## Recovery -/

def overdue (counter : Counter) : ℕ :=
  match counter.entry with
  | none => 0
  | some entry => entry.expiresAt.getD 0 - (counter.now + 1000 * version.windowSeconds)

theorem measures_overdue : Measures version 0 0 (overdue version) := by
  refine ⟨fun counter => ?_, fun counter => ?_, fun counter elapsed => ?_⟩ <;>
    obtain ⟨now, _ | entry⟩ := counter
  · simp [overdue, worth, Counter.incr]
  · simp [overdue, worth, Counter.incr]
  · simp [overdue, Counter.expire]
  · simp [overdue, Counter.expire]
  · simp [overdue, Counter.wait]
  · by_cases live : entry.Live (now + elapsed) <;>
      simp [overdue, Counter.wait, Option.filter_some, live]
    omega

theorem admitted_iff (published : publishedVersion repository tenantId principalType action =
    .ok version) :
    (∃ time after, (enforce repository tenantId principalType action).run counter =
      .ok time after) ↔ counter.next ≤ version.limit := by
  have counted : ∃ after, (incrWithTtl version.windowSeconds).run counter =
      .ok (counter.next, counter.now) after := by
    show ∃ after, (expireFirst version.windowSeconds counter.next >>= fun _ =>
      pure (counter.next, counter.now)).run counter.incr = _
    rw [expireFirst]
    split <;> exact ⟨_, rfl⟩
  obtain ⟨after, counted⟩ := counted
  rw [enforce, published]
  show (∃ time last, (incrWithTtl version.windowSeconds >>= fun counted =>
    Thread.raiseIf (version.limit < counted.1) .rateLimitExceeded >>= fun _ =>
      pure counted.2).run counter = .ok time last) ↔ _
  rw [Thread.run_bind, Program.bind_of_ok counted, Thread.raiseIf]
  split
  · rename_i tooMany
    refine iff_of_false (fun ⟨_, _, ran⟩ => ?_) (Nat.not_le_of_lt tooMany)
    cases ran
  · rename_i within
    exact iff_of_true ⟨_, _, rfl⟩ (Nat.le_of_not_lt within)

/-- **When the limit recovers** from a history, requests that were lost between two commands
included, once a window has passed without a request: exactly if the counter has a lifetime or is
below the limit. -/
theorem recovers_iff (published : publishedVersion repository tenantId principalType action =
    .ok version)
    (limited : 1 ≤ version.limit) (moves : List (Move RateEvent)) {elapsed : ℕ}
    (passed : 1000 * version.windowSeconds ≤ elapsed) :
    ∀ t ∈ trace (requests repository tenantId principalType action) ⟨⟨0, none⟩, [], []⟩ moves,
      (∃ time after, (enforce repository tenantId principalType action).run
        (t.after.shared.wait elapsed) = .ok time after) ↔
        ∀ entry ∈ t.after.shared.entry, entry.expiresAt = none → entry.value < version.limit := by
  intro t isStep
  have within := ((measures_overdue version).bounds published ⟨0, none⟩ moves t isStep).2
  rw [admitted_iff _ _ _ _ version _ published]
  generalize t.after.shared = counter at within ⊢
  obtain ⟨now, _ | entry⟩ := counter
  · simpa [Counter.next, Counter.wait] using limited
  · cases expires : entry.expiresAt with
    | none =>
      have live : entry.Live (now + elapsed) := by simp [Entry.Live, expires]
      simp only [Counter.next, Counter.wait, Option.filter_some, live, decide_true, if_true,
        Option.map_some, Option.getD_some, Nat.succ_le_iff, Option.mem_def, Option.some.injEq,
        forall_eq', expires, forall_const]
    | some time =>
      simp only [overdue, expires, Option.getD_some] at within
      have gone : ¬ entry.Live (now + elapsed) := fun live => by
        have := live time expires
        omega
      simpa [Counter.next, Counter.wait, Option.filter_some, gone, expires] using limited

/-- One request a minute. -/
def oneAMinute : RateLimitPolicyRepository := ⟨fun _ => some 1, fun _ _ _ => some ⟨60, 1⟩⟩

def servedRequest : List (Move RateEvent) := [.start .request, .advance 0, .advance 0]

theorem served_request_recovers :
    ∃ t ∈ trace (requests oneAMinute 1 "user" "upload") ⟨⟨0, none⟩, [], []⟩ servedRequest,
      t.after.finished.length = 1 ∧ ∃ time after,
        (enforce oneAMinute 1 "user" "upload").run (t.after.shared.wait 60000) =
          .ok time after := by
  refine ⟨_, .tail _ (.tail _ (.head _)), rfl, ?_⟩
  refine (recovers_iff oneAMinute 1 "user" "upload" ⟨60, 1⟩ rfl (by decide) servedRequest
    (le_refl 60000) _
    (.tail _ (.tail _ (.head _)))).mpr ?_
  decide

/-- A request whose process is lost after the first command leaves a counter that never expires: a
year later a request is rejected. -/
theorem lost_request_blocks_key :
    ((trace (requests oneAMinute 1 "user" "upload") ⟨⟨0, none⟩, [], []⟩
        [.start .request, .advance 0, .drop 0]).getLast?.map fun t =>
      match (enforce oneAMinute 1 "user" "upload").run (t.after.shared.wait 31536000000) with
      | .ok _ _ => none
      | .error raised _ => some raised) = some (some .rateLimitExceeded) := by
  decide +kernel

end AgentOrchestration.Governance
