import Mathlib.Data.List.Basic
import Mathlib.Data.List.Sort
import Mathlib.Order.Basic

/-!
# Insertion-ordered dictionaries and tallies

A dictionary is a list of key/value pairs in insertion order, read by
`List.lookup`. Assigning to a key that is present keeps its position, and a
new key goes to the end.

A tally is a dictionary of counters. `tick` counts one occurrence and fails
when the counter passes a limit; `recount` replays a whole list of
occurrences.
-/

namespace OrderedDict

set_option autoImplicit false

variable {κ ν : Type} [DecidableEq κ]

/-- `d[k] = v`. -/
def set : List (κ × ν) → κ → ν → List (κ × ν)
  | [], k, v => [(k, v)]
  | (k', v') :: rest, k, v => if k' = k then (k, v) :: rest else (k', v') :: set rest k v

/-- The keys in insertion order. -/
def keys (d : List (κ × ν)) : List κ := d.map Prod.fst

variable (d : List (κ × ν))

@[simp] theorem lookup_set_self (k : κ) (v : ν) : (set d k v).lookup k = some v := by
  induction d with
  | nil => simp [set]
  | cons entry rest ih =>
    obtain ⟨k', v'⟩ := entry
    by_cases same : k' = k
    · simp [set, same]
    · have different : (k == k') = false := by simpa using Ne.symm same
      simp [set, same, List.lookup_cons, different, ih]

theorem lookup_set_of_ne {k j : κ} (v : ν) (ne : j ≠ k) : (set d k v).lookup j = d.lookup j := by
  have other : (j == k) = false := by simpa using ne
  induction d with
  | nil => simp [set, List.lookup_cons, other]
  | cons entry rest ih =>
    obtain ⟨k', v'⟩ := entry
    by_cases same : k' = k
    · subst same
      simp [set, List.lookup_cons, other]
    · by_cases hit : j = k'
      · simp [set, same, hit]
      · have miss : (j == k') = false := by simpa using hit
        simp [set, same, List.lookup_cons, miss, ih]

theorem lookup_set (k j : κ) (v : ν) : (set d k v).lookup j = if j = k then some v
                                                              else d.lookup j := by
  by_cases eq : j = k
  · subst eq
    simp
  · simp [eq, lookup_set_of_ne d v eq]

theorem mem_keys_of_lookup {d : List (κ × ν)} {k : κ} {v : ν} (found : d.lookup k = some v) :
    k ∈ keys d := by
  obtain ⟨_, _, split, _⟩ := List.lookup_eq_some_iff.mp found
  simp [keys, split]

theorem set_of_notMem {d : List (κ × ν)} {k : κ} (fresh : k ∉ keys d) (v : ν) :
    set d k v = d ++ [(k, v)] := by
  induction d with
  | nil => rfl
  | cons entry rest ih =>
    obtain ⟨k', v'⟩ := entry
    have ne : k' ≠ k := fun eq => fresh (by simp [keys, eq])
    have later : k ∉ keys rest := fun mem => fresh (List.mem_cons_of_mem _ mem)
    rw [set, if_neg ne, ih later, List.cons_append]

theorem set_of_lookup {d : List (κ × ν)} {k : κ} {v : ν} (found : d.lookup k = some v) :
    set d k v = d := by
  induction d with
  | nil => cases found
  | cons entry rest ih =>
    obtain ⟨k', v'⟩ := entry
    by_cases same : k' = k
    · subst same
      simp_all [set]
    · have miss : (k == k') = false := by simpa using Ne.symm same
      rw [List.lookup_cons, miss] at found
      rw [set, if_neg same, ih found]

variable {α : Type} (key : α → κ) (value : α → ν)

theorem foldl_set_of_nodup : ∀ (items : List α) (d : List (κ × ν)),
    (keys d ++ items.map key).Nodup →
      items.foldl (fun d item => set d (key item) (value item)) d =
        d ++ items.map fun item => (key item, value item) := by
  intro items
  induction items with
  | nil => exact fun d _ => (List.append_nil d).symm
  | cons item rest ih =>
    intro d uniq
    have fresh : key item ∉ keys d := by
      intro mem
      exact (List.nodup_append.mp uniq).2.2 _ mem _ List.mem_cons_self rfl
    have grown : keys (set d (key item) (value item)) = keys d ++ [key item] := by
      simp [set_of_notMem fresh, keys]
    rw [List.foldl_cons, ih _ (by simpa [grown] using uniq), set_of_notMem fresh]
    simp

theorem lookup_foldl_set (k : κ) : ∀ (items : List α) (d : List (κ × ν)),
      (items.foldl (fun d item => set d (key item) (value item)) d).lookup k =
        ((items.reverse.find? fun item => key item = k).map value).or (d.lookup k) := by
  intro items
  induction items with
  | nil => exact fun d => rfl
  | cons item rest ih =>
    intro d
    rw [List.foldl_cons, ih, lookup_set, List.reverse_cons, List.find?_append]
    cases rest.reverse.find? fun item => key item = k with
    | some later => rfl
    | none =>
      by_cases eq : k = key item
      · simp [eq]
      · simp [eq, Ne.symm eq]

theorem nodup_keys_set {d : List (κ × ν)} (uniq : (keys d).Nodup) (k : κ) (v : ν) :
    (keys (set d k v)).Nodup := by
  by_cases has : k ∈ keys d
  · have eq : keys (set d k v) = keys d := by
      clear uniq
      induction d with
      | nil => cases has
      | cons entry rest ih =>
        obtain ⟨k', v'⟩ := entry
        by_cases first : k' = k
        · simp [set, keys, first]
        · have later : k ∈ keys rest := (List.mem_cons.mp has).resolve_left (Ne.symm first)
          have tail := ih later
          simp only [keys] at tail ⊢
          rw [set, if_neg first, List.map_cons, tail, List.map_cons]
    rw [eq]
    exact uniq
  · rw [set_of_notMem has, keys, List.map_append]
    refine List.nodup_append.mpr ⟨uniq, by simp, ?_⟩
    rintro j member j' member' rfl
    cases List.mem_singleton.mp member'
    exact has member

theorem nodup_keys_foldl_set : ∀ (items : List α) (d : List (κ × ν)), (keys d).Nodup →
      (keys (items.foldl (fun d item => set d (key item) (value item)) d)).Nodup := by
  intro items
  induction items with
  | nil => exact fun d uniq => uniq
  | cons item rest ih => exact fun d uniq => ih _ (nodup_keys_set uniq _ _)

theorem lookup_of_mem {d : List (κ × ν)} (uniq : (keys d).Nodup) {k : κ} {v : ν}
    (mem : (k, v) ∈ d) : d.lookup k = some v := by
  obtain ⟨before, after, rfl⟩ := List.append_of_mem mem
  refine List.lookup_eq_some_iff.mpr ⟨before, after, rfl, fun entry isIn => ?_⟩
  rw [keys, List.map_append, List.map_cons] at uniq
  have apart := (List.nodup_append.mp uniq).2.2 _ (List.mem_map_of_mem isIn) k List.mem_cons_self
  simpa using Ne.symm apart

theorem lookup_map_values {μ : Type} (f : ν → μ) (d : List (κ × ν)) (k : κ) :
    (d.map fun entry => (entry.1, f entry.2)).lookup k = (d.lookup k).map f := by
  induction d with
  | nil => rfl
  | cons entry rest ih =>
    rw [List.map_cons, List.lookup_cons, List.lookup_cons, ih]
    cases k == entry.1 <;> rfl

theorem lookup_eq_some_iff_mem {d : List (κ × ν)} (uniq : (keys d).Nodup) {k : κ} {v : ν} :
    d.lookup k = some v ↔ (k, v) ∈ d := by
  refine ⟨fun found => ?_, lookup_of_mem uniq⟩
  obtain ⟨before, after, rfl, -⟩ := List.lookup_eq_some_iff.mp found
  simp

theorem perm_iff_lookup {d e : List (κ × ν)} (distinct : (keys d).Nodup)
    (distinct' : (keys e).Nodup) :
    d.Perm e ↔ ∀ k, d.lookup k = e.lookup k := by
  rw [List.perm_ext_iff_of_nodup distinct.of_map distinct'.of_map]
  constructor
  · intro members k
    ext v
    rw [lookup_eq_some_iff_mem distinct, lookup_eq_some_iff_mem distinct', members]
  · intro reads entry
    rw [← lookup_eq_some_iff_mem distinct, ← lookup_eq_some_iff_mem distinct', reads]

theorem perm_iff_eq_of_keys_eq {d e : List (κ × ν)} (distinct : (keys d).Nodup)
    (aligned : keys d = keys e) : d.Perm e ↔ d = e := by
  refine ⟨fun eq => ?_, fun eq => eq ▸ .refl _⟩
  induction d generalizing e with
  | nil => exact (List.nil_perm.mp eq).symm
  | cons entry rest ih =>
    cases e with
    | nil => cases aligned
    | cons entry' rest' =>
      obtain ⟨key, later⟩ := List.cons.inj aligned
      have distinct' := distinct
      rw [aligned] at distinct'
      have read := (perm_iff_lookup distinct distinct').mp eq entry.1
      have here : entry = entry' := by
        refine Prod.ext key ?_
        rw [List.lookup_cons, List.lookup_cons, ← key] at read
        simpa using read
      subst here
      rw [ih (List.nodup_cons.mp distinct).2 later ((List.perm_cons _).mp eq)]

/-- Sorting by a key forgets the order, where no key occurs twice. -/
theorem insertionSort_eq_iff {α μ : Type} [LinearOrder μ] (key : α → μ) {first second : List α}
    (uniq : (first.map key).Nodup) :
    (first.insertionSort fun a b => key a ≤ key b) =
      (second.insertionSort fun a b => key a ≤ key b) ↔
      first.Perm second := by
  have total : Std.Total fun a b => key a ≤ key b := ⟨fun a b => le_total (key a) (key b)⟩
  have transitive : IsTrans α fun a b => key a ≤ key b := ⟨fun a b c => le_trans⟩
  constructor
  · intro sorted
    have half := (List.perm_insertionSort (fun a b => key a ≤ key b) first).symm
    rw [sorted] at half
    exact half.trans (List.perm_insertionSort _ second)
  · intro reordered
    refine List.Perm.eq_of_pairwise ?_ (List.pairwise_insertionSort _ _)
      (List.pairwise_insertionSort _ _)
      ((List.perm_insertionSort _ first).trans
        (reordered.trans (List.perm_insertionSort _ second).symm))
    intro a b member member' below above
    rw [List.mem_insertionSort] at member member'
    exact List.inj_on_of_nodup_map uniq member (reordered.mem_iff.mpr member')
      (le_antisymm below above)

end OrderedDict

namespace Tally

variable {κ : Type} [DecidableEq κ]

/-- `counters.get(k, 0)`. -/
def count (t : List (κ × ℕ)) (k : κ) : ℕ := (t.lookup k).getD 0

/-- `counters[k] = counters.get(k, 0) + 1`. -/
def bump (t : List (κ × ℕ)) (k : κ) : List (κ × ℕ) := OrderedDict.set t k (count t k + 1)

/-- Count one occurrence; `none` once the counter has passed the limit. -/
def tick (limit : ℕ) (t : List (κ × ℕ)) (k : κ) : Option (List (κ × ℕ)) :=
  if limit < count (bump t k) k then none else some (bump t k)

/-- Count a list of occurrences one after another. -/
def recount (limit : ℕ) : List (κ × ℕ) → List κ → Option (List (κ × ℕ))
  | t, [] => some t
  | t, k :: ks => (tick limit t k).bind fun t' => recount limit t' ks

variable (t : List (κ × ℕ))

@[simp] theorem count_nil (k : κ) : count ([] : List (κ × ℕ)) k = 0 := rfl

theorem count_bump (k j : κ) : count (bump t k) j = count t j + if j = k then 1 else 0 := by
  by_cases eq : j = k
  · subst eq
    simp [count, bump]
  · simp [count, bump, OrderedDict.lookup_set_of_ne _ _ eq, eq]

@[simp] theorem count_bump_self (k : κ) : count (bump t k) k = count t k + 1 := by
  simp [count_bump]

/-- A tick succeeds exactly while the counter is below the limit. -/
theorem tick_eq_some_iff {limit : ℕ} {t t' : List (κ × ℕ)} {k : κ} :
    tick limit t k = some t' ↔ count t k < limit ∧ t' = bump t k := by
  unfold tick
  rw [count_bump_self]
  by_cases room : count t k < limit
  · have below : ¬ limit < count t k + 1 := by omega
    rw [if_neg below, Option.some.injEq]
    exact ⟨fun eq => ⟨room, eq.symm⟩, fun both => both.2.symm⟩
  · have passed : limit < count t k + 1 := by omega
    rw [if_pos passed]
    exact ⟨nofun, fun both => absurd both.1 room⟩

theorem tick_eq_none_iff {limit : ℕ} {t : List (κ × ℕ)} {k : κ} :
    tick limit t k = none ↔ limit ≤ count t k := by
  unfold tick
  rw [count_bump_self, ite_eq_left_iff]
  simp only [reduceCtorEq, imp_false, not_not, Nat.lt_succ_iff]

/-- Pointwise order of tallies. -/
def Below (s t : List (κ × ℕ)) : Prop := ∀ k, count s k ≤ count t k

theorem Below.empty : Below [] t := fun _ => Nat.zero_le _

theorem Below.bump {s t : List (κ × ℕ)} (below : Below s t) (k : κ) :
    Below (Tally.bump s k) (Tally.bump t k) := by
  intro j
  rw [count_bump, count_bump]
  exact Nat.add_le_add_right (below j) _

end Tally
