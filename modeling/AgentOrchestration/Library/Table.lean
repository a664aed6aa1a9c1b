import Mathlib.Data.List.Nodup
import Mathlib.Data.List.Basic

/-!
# Tables with a key

A table is a list of rows with a function that reads the key of a row.
`byKey` selects the row of a key; `UniqueKeys` says that there is at most one.
-/

namespace Table

set_option autoImplicit false

variable {ρ κ : Type} [DecidableEq κ] {key : ρ → κ}

/-- The row with a key: `SELECT … WHERE key = k`. -/
def byKey (key : ρ → κ) (rows : List ρ) (k : κ) : Option ρ := rows.find? fun row => key row = k

def UniqueKeys (key : ρ → κ) (rows : List ρ) : Prop := (rows.map key).Nodup

instance (key : ρ → κ) (rows : List ρ) : Decidable (UniqueKeys key rows) :=
  inferInstanceAs (Decidable (rows.map key).Nodup)

variable {rows : List ρ} {k : κ} {row : ρ}

theorem mem_of_byKey (found : byKey key rows k = some row) : row ∈ rows :=
  List.mem_of_find?_eq_some found

theorem key_of_byKey (found : byKey key rows k = some row) : key row = k := by
  simpa using List.find?_some found

omit [DecidableEq κ] in
theorem UniqueKeys.eq {rows : List ρ} (unique : UniqueKeys key rows) {row row' : ρ}
    (member : row ∈ rows) (member' : row' ∈ rows) (eq : key row = key row') : row = row' :=
  List.inj_on_of_nodup_map unique member member' eq

theorem byKey_eq_some_iff (unique : UniqueKeys key rows) :
    byKey key rows k = some row ↔ row ∈ rows ∧ key row = k := by
  constructor
  · intro found
    exact ⟨mem_of_byKey found, key_of_byKey found⟩
  · rintro ⟨mem, rfl⟩
    cases found : byKey key rows (key row) with
    | none =>
      have absent := List.find?_eq_none.mp found row mem
      simp at absent
    | some row' =>
      rw [unique.eq (mem_of_byKey found) mem (key_of_byKey found)]

theorem byKey_eq_none_iff : byKey key rows k = none ↔ ∀ row ∈ rows, key row ≠ k := by
  simp [byKey, List.find?_eq_none]

theorem filter_of_imp {query kind : ρ → Bool} (only : ∀ row ∈ rows, query row → kind row) :
    rows.filter query = (rows.filter kind).filter query := by
  rw [List.filter_filter]
  apply List.filter_congr
  intro row mem
  cases hit : query row with
  | false => simp
  | true => simp [only row mem hit]

/-- Two tables with the same rows of one kind answer alike every query for such rows. -/
theorem filter_agree {rows rows' : List ρ} {kind kind' query : ρ → Bool}
    (eq : rows.filter kind = rows'.filter kind')
    (only : ∀ row ∈ rows, query row → kind row) (only' : ∀ row ∈ rows', query row → kind' row) :
    rows.filter query = rows'.filter query := by
  rw [filter_of_imp only, filter_of_imp only', eq]

theorem find_agree {rows rows' : List ρ} {kind kind' query : ρ → Bool}
    (eq : rows.filter kind = rows'.filter kind')
    (only : ∀ row ∈ rows, query row → kind row) (only' : ∀ row ∈ rows', query row → kind' row) :
    rows.find? query = rows'.find? query := by
  rw [← List.head?_filter, ← List.head?_filter, filter_agree eq only only']

theorem filter_map_of_foreign {kind update}
    (foreign : ∀ row ∈ rows, update row = row ∨ kind row = false ∧ kind (update row) = false) :
    (rows.map update).filter kind = rows.filter kind := by
  induction rows with
  | nil => rfl
  | cons row rest ih =>
    have tail := ih (List.forall_mem_cons.mp foreign).2
    rw [List.map_cons, List.filter_cons, List.filter_cons, tail]
    rcases foreign row List.mem_cons_self with eq | ⟨before, after⟩
    · rw [eq]
    · simp [before, after]

/-- A row found in one table, and of the kind the tables share, is found in the other. -/
theorem byKey_agree {rows rows' : List ρ} {kind kind' : ρ → Bool}
    (eq : rows.filter kind = rows'.filter kind') (unique : UniqueKeys key rows')
    (found : byKey key rows k = some row) (ofKind : kind row) :
    byKey key rows' k = some row ∧ kind' row := by
  have mem : row ∈ rows'.filter kind' := by
    rw [← eq]
    exact List.mem_filter.mpr ⟨mem_of_byKey found, ofKind⟩
  obtain ⟨isIn, ofKind'⟩ := List.mem_filter.mp mem
  exact ⟨(byKey_eq_some_iff unique).mpr ⟨isIn, key_of_byKey found⟩, ofKind'⟩

/-- An update that keeps the keys is found where the row was found. -/
theorem byKey_map {ρ' : Type} {key' : ρ' → κ} {update : ρ → ρ'}
    (kept : ∀ row, key' (update row) = key row) (k : κ) :
    byKey key' (rows.map update) k = (byKey key rows k).map update := by
  rw [byKey, byKey, List.find?_map]
  simp only [Function.comp_def, kept]

theorem UniqueKeys.append (unique : UniqueKeys key rows) (fresh : byKey key rows (key row) = none) :
    UniqueKeys key (rows ++ [row]) := by
  unfold UniqueKeys at unique ⊢
  rw [List.map_append, List.nodup_append]
  refine ⟨unique, List.nodup_singleton _, ?_⟩
  intro k member k' member' eq
  obtain ⟨row', inside, rfl⟩ := List.mem_map.mp member
  rw [List.map_singleton, List.mem_singleton] at member'
  exact byKey_eq_none_iff.mp fresh row' inside (eq.trans member')

omit [DecidableEq κ] in
theorem UniqueKeys.map {rows : List ρ} (unique : UniqueKeys key rows) {update : ρ → ρ}
    (kept : ∀ row, key (update row) = key row) : UniqueKeys key (rows.map update) := by
  unfold UniqueKeys at unique ⊢
  rw [List.map_map]
  have eq : key ∘ update = key := funext kept
  rw [eq]
  exact unique

end Table
