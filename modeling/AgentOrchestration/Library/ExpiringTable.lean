import Mathlib.Data.Option.Basic
import Mathlib.Data.Nat.Notation
import Mathlib.Logic.Function.Basic

/-!
# Tables whose entries expire

A table maps keys to entries that may carry the time at which they expire. An expired entry
reads as absent; a write keeps the lifetime of a live entry and starts a new one otherwise.
-/

namespace ExpiringTable

set_option autoImplicit false

variable {κ ν : Type}

/-- A value and the time from which it is gone. -/
structure Entry (ν : Type) where
  value : ν
  expiresAt : Option ℕ

def Entry.Live (now : ℕ) (entry : Entry ν) : Prop := ∀ time ∈ entry.expiresAt, now < time

instance (now : ℕ) (entry : Entry ν) : Decidable (entry.Live now) :=
  inferInstanceAs (Decidable (∀ time ∈ entry.expiresAt, now < time))

abbrev Table (κ ν : Type) := κ → Option (Entry ν)

namespace Table

variable (now : ℕ) (table : Table κ ν) (key : κ)

def find : Option (Entry ν) := (table key).filter fun entry => decide (entry.Live now)

def read : Option ν := (table.find now key).map Entry.value

def Lasting : Prop := ∀ entry ∈ table key, entry.Live now

instance (now : ℕ) (table : Table κ ν) (key : κ) : Decidable (table.Lasting now key) :=
  inferInstanceAs (Decidable (∀ entry ∈ table key, entry.Live now))

section

variable {now : ℕ} {table : Table κ ν} {key : κ} {entry : Entry ν}

theorem live_of_find (found : table.find now key = some entry) : entry.Live now := by
  have kept := (Option.filter_eq_some_iff.mp found).2
  exact of_decide_eq_true kept

theorem find_of_live (stored : table key = some entry) (live : entry.Live now) :
    table.find now key = some entry :=
  Option.filter_eq_some_iff.mpr ⟨stored, decide_eq_true live⟩

theorem live_earlier {later : ℕ} (live : entry.Live later) (le : now ≤ later) : entry.Live now :=
  fun time expires => Nat.lt_of_le_of_lt le (live time expires)

theorem Lasting.find (lasting : table.Lasting now key) : table.find now key = table key := by
  cases stored : table key with
  | none => simp [Table.find, stored]
  | some entry => exact find_of_live stored (lasting entry stored)

end

variable [DecidableEq κ]

/-- Set a value. The lifetime of a live entry is kept. -/
def write (value : ν) : Table κ ν :=
  Function.update table key (some ⟨value, (table.find now key).bind Entry.expiresAt⟩)

def expire (ttl : ℕ) : Table κ ν :=
  match table.find now key with
  | some entry => Function.update table key (some { entry with expiresAt := some (now + ttl) })
  | none => table

variable {now later ttl : ℕ} {table : Table κ ν} {key other : κ} {value : ν}

theorem lasting_write_self : (table.write now key value).Lasting now key := by
  intro entry stored
  rw [write, Function.update_self] at stored
  cases stored
  intro time expires
  obtain ⟨entry, found, expiry⟩ := Option.bind_eq_some_iff.mp expires
  exact live_of_find found time expiry

theorem find_write_self : (table.write now key value).find now key =
    some ⟨value, (table.find now key).bind Entry.expiresAt⟩ := by
  rw [lasting_write_self.find, write, Function.update_self]

theorem read_write_self : (table.write now key value).read now key = some value := by
  rw [read, find_write_self]
  rfl

theorem read_write_of_ne (ne : other ≠ key) :
    (table.write now key value).read later other = table.read later other := by
  simp only [read, find, write, Function.update_of_ne ne]

/-- A value written over an entry is there as long as the entry would have been. -/
theorem read_write_later {entry : Entry ν} (stored : table key = some entry)
    (live : entry.Live later) (le : now ≤ later) :
    (table.write now key value).read later key = some value := by
  have found : table.find now key = some entry := find_of_live stored (live_earlier live le)
  rw [read, write, found, find_of_live (Function.update_self ..)]
  · rfl
  · exact live

theorem read_expire_of_ne (ne : other ≠ key) :
    (table.expire now key ttl).read later other = table.read later other := by
  rw [expire]
  split
  · simp only [read, Table.find, Function.update_of_ne ne]
  · rfl

/-- A lifetime that is set is the lifetime of the entry. -/
theorem read_expire_later {entry : Entry ν} (found : table.find now key = some entry)
    (lasts : later < now + ttl) :
    (table.expire now key ttl).read later key = some entry.value := by
  have live : (Entry.mk entry.value (some (now + ttl))).Live later := by
    intro time expires
    rw [← Option.some.inj expires]
    exact lasts
  simp only [expire, found]
  rw [read, find_of_live (Function.update_self ..) live]
  rfl

theorem read_expire (lasts : 0 < ttl) :
    (table.expire now key ttl).read now other = table.read now other := by
  by_cases eq : other = key
  · subst eq
    cases found : table.find now other with
    | none => simp only [expire, found]
    | some entry =>
      rw [read_expire_later found (Nat.lt_add_of_pos_right lasts), read, found]
      rfl
  · exact read_expire_of_ne eq

theorem map_value_expire :
    (table.expire now key ttl other).map Entry.value = (table other).map Entry.value := by
  cases found : table.find now key with
  | none => simp only [expire, found]
  | some entry =>
    simp only [expire, found]
    by_cases eq : other = key
    · obtain ⟨stored, -⟩ := Option.filter_eq_some_iff.mp found
      rw [eq, Function.update_self, stored]
      rfl
    · rw [Function.update_of_ne eq]

end Table

end ExpiringTable
