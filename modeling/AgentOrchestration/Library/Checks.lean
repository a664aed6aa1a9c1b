import Mathlib.Data.List.Basic

/-!
# Sequences of checks

A validator runs checks one after another and stops at the first that fails. It
passes exactly when each of its checks does.
-/

namespace Checks

set_option autoImplicit false

variable {ε α : Type}

/-- Fail unless a condition holds. -/
def require (condition : Prop) [Decidable condition] (error : ε) : Except ε Unit :=
  if condition then .ok () else .error error

def each (check : α → Except ε Unit) : List α → Except ε Unit
  | [] => .ok ()
  | item :: rest => do
      check item
      each check rest

variable {condition : Prop} {first : Except ε Unit} {second : Unit → Except ε Unit}

variable {check : α → Except ε Unit} {items : List α}

@[simp] theorem require_ok_iff [Decidable condition] {err : ε} :
    require condition err = .ok () ↔ condition := by
  unfold require
  split <;> simp_all

@[simp] theorem andThen_ok_iff : first >>= second = .ok () ↔ first = .ok () ∧
    second () = .ok () := by
  cases first with
  | error err => exact ⟨nofun, fun passes => nomatch passes.1⟩
  | ok _ => exact ⟨fun passes => ⟨rfl, passes⟩, fun passes => passes.2⟩

@[simp] theorem each_ok_iff : each check items = .ok () ↔ ∀ item ∈ items, check item = .ok () := by
  induction items with
  | nil => simp [each]
  | cons item rest ih => simp [each, ih]

/-! ## Failing in a certain way -/

theorem require_ne [Decidable condition] {err other : ε} (ne : err ≠ other) :
    require condition err ≠ .error other := by
  unfold require
  split
  · exact nofun
  · rintro ⟨⟩
    exact ne rfl

variable {other : ε}

theorem andThen_ne (left : first ≠ .error other)
    (right : first = .ok () → second () ≠ .error other) :
    first >>= second ≠ .error other := by
  cases first with
  | error err => exact left
  | ok _ => exact right rfl

theorem each_ne (single : ∀ item ∈ items, check item ≠ .error other) :
    each check items ≠ .error other := by
  induction items with
  | nil => exact nofun
  | cons item rest ih =>
    exact andThen_ne (single item List.mem_cons_self) fun _ =>
      ih (List.forall_mem_cons.mp single).2

end Checks
