import Mathlib.Logic.Basic
import Mathlib.Order.Basic

/-!
# Calls that are retried

A call is attempted until an attempt returns, fails for good, or the allowed
attempts are used up. Every attempt may change the state, also one that
fails.
-/

namespace Retry

set_option autoImplicit false

variable {σ α : Type}

/-- How one attempt ends. -/
inductive Attempt (α : Type) where
  | returned (value : α)
  | failed (errorType : String) (nonRetryable : Bool)
  | timedOut

/-- How many attempts a call gets, and the errors that end it at once. -/
structure Policy where
  maximumAttempts : ℕ
  nonRetryableErrorTypes : List String

variable (policy : Policy)

/-- Whether an attempt that ended in this way is followed by another. -/
def Policy.retries : Attempt α → Bool
  | .returned _ => false
  | .failed errorType nonRetryable =>
    !nonRetryable && !policy.nonRetryableErrorTypes.contains errorType
  | .timedOut => true

def Attempt.value : Attempt α → Option α
  | .returned value => some value
  | _ => none

/-- At most `remaining` attempts, the first of which has the number `attempt`. -/
def performFrom (policy : Policy) (behaviour : ℕ → σ → Attempt α × σ) : ℕ → ℕ → σ → Option α × σ
  | 0, _, state => (none, state)
  | remaining + 1, attempt, state =>
    let ended := behaviour attempt state
    if policy.retries ended.1 then performFrom policy behaviour remaining (attempt + 1) ended.2
    else (ended.1.value, ended.2)

variable (behaviour : ℕ → σ → Attempt α × σ) (state : σ)

/-- A call: its value, or nothing when it fails for good. -/
def perform : Option α × σ := performFrom policy behaviour policy.maximumAttempts 0 state

/-- No attempt that the policy allows returns. -/
def FailsForGood : Prop := (perform policy behaviour state).1 = none

variable {policy : Policy} {behaviour : ℕ → σ → Attempt α × σ} {state : σ}

/-- A first attempt that is not followed by another is the whole call. -/
theorem perform_of_first {ended : Attempt α} {after : σ} (allowed : 0 < policy.maximumAttempts)
    (first : behaviour 0 state = (ended, after)) (final : policy.retries ended = false) :
    perform policy behaviour state = (ended.value, after) := by
  obtain ⟨remaining, attempts⟩ : ∃ remaining, policy.maximumAttempts = remaining + 1 :=
    Nat.exists_eq_succ_of_ne_zero (Nat.pos_iff_ne_zero.mp allowed)
  simp [perform, attempts, performFrom, first, final]

end Retry
