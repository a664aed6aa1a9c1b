import AgentOrchestration.CanonicalJson
import AgentOrchestration.Memory.UserMemoryProfile

/-!
# Merging profiles

The laws of `_deep_merge`: what a path of keys leads to in a merged profile is told by where it
leads in the profile and in the patch.
-/

namespace AgentOrchestration.Memory

set_option autoImplicit false

open OrderedDict (keys set_of_lookup)

def field (key : String) (value : Value) : Option Value := value.asDict?.bind (·.lookup key)

/-- What a path of keys leads to, from a value that may be missing. -/
def follow : Option Value → List String → Option Value
  | value, [] => value
  | value, key :: path => follow (value.bind (field key)) path

/-- What a patch that may be missing makes of a value that may be missing. -/
def merged (current patch : Option Value) : Option Value :=
  (patch.map (mergeValue current)).or current

variable {current patch : Option Value} {leaf : Value}

theorem mergeValue_none : mergeValue none = id := by
  funext value
  cases value <;> simp [mergeValue]

theorem mergeValue_of_leaf (isLeaf : leaf.asDict? = none) : mergeValue current leaf = leaf := by
  cases leaf with
  | dict fields => cases isLeaf
  | _ => simp [mergeValue]

theorem mergeValue_dict (current : Option Value) (fields : Fields) :
    mergeValue current (.dict fields) = .dict fields ∧ current.bind Value.asDict? = none ∨
      ∃ old, current = some (.dict old) ∧
        mergeValue current (.dict fields) = .dict (deepMerge old fields) := by
  cases current with
  | none => exact .inl ⟨congrFun mergeValue_none _, rfl⟩
  | some value =>
    cases value with
    | dict old => exact .inr ⟨old, rfl, by rw [mergeValue]⟩
    | _ => exact .inl ⟨by simp [mergeValue], rfl⟩

theorem lookup_deepMerge {fields : Fields} (distinct : (keys fields).Nodup) (key : String) :
    ∀ old : Fields, (deepMerge old fields).lookup key =
      merged (old.lookup key) (fields.lookup key) := by
  induction fields with
  | nil => exact fun old => rfl
  | cons entry rest ih =>
    intro old
    obtain ⟨other, value⟩ := entry
    obtain ⟨apart, distinct⟩ := List.nodup_cons.mp distinct
    rw [deepMerge, ih distinct, OrderedDict.lookup_set, List.lookup_cons]
    by_cases same : key = other
    · subst same
      have missing : rest.lookup key = none :=
        Option.eq_none_iff_forall_ne_some.mpr fun _ found =>
          apart (OrderedDict.mem_keys_of_lookup found)
      simp [missing, merged]
    · have miss : (key == other) = false := by simpa using same
      rw [if_neg same, miss]

theorem field_merged (json : ∀ value ∈ patch, value.isJson = true)
    (object : ∀ value ∈ patch, value.asDict? ≠ none) (key : String) :
    (merged current patch).bind (field key) =
      merged (current.bind (field key)) (patch.bind (field key)) := by
  cases patch with
  | none => rfl
  | some value =>
    cases value with
    | dict fields =>
      have distinct := (Value.isJson_dict.mp (json _ rfl)).1
      rcases mergeValue_dict current fields with ⟨eq, missing⟩ | ⟨old, rfl, eq⟩
      · have nothing : current.bind (field key) = none := by
          cases current with
          | none => rfl
          | some value => simp_all [field]
        rw [nothing]
        simp [merged, eq, field, Value.asDict?, mergeValue_none]
      · simpa [merged, eq, field, Value.asDict?] using lookup_deepMerge distinct key old
    | _ => exact absurd rfl (object _ rfl)

theorem deepMerge_of_absorbed {fields patch : Fields} (absorbed : ∀ entry ∈ patch, ∃ value,
      fields.lookup entry.1 = some value ∧ mergeValue (some value) entry.2 = value) :
    deepMerge fields patch = fields := by
  induction patch with
  | nil => rfl
  | cons entry rest ih =>
    obtain ⟨⟨value, found, same⟩, later⟩ := List.forall_mem_cons.mp absorbed
    rw [deepMerge, found, same, set_of_lookup found]
    exact ih later

/-- What a value was merged into takes it in again without a change. -/
theorem mergeValue_absorbed (value : Value) : value.isJson = true → ∀ current,
    mergeValue (some (mergeValue current value)) value = mergeValue current value := by
  induction value using Value.byKind with
  | scalar value scalar =>
    intro _ current
    have isLeaf : value.asDict? = none := by cases value <;> first | rfl | cases scalar
    rw [mergeValue_of_leaf isLeaf, mergeValue_of_leaf isLeaf]
  | str _ | list _ _ | object _ => exact fun _ _ => by simp [mergeValue]
  | dict patch ih =>
    intro json current
    obtain ⟨distinct, parts⟩ := Value.isJson_dict.mp json
    have found : ∀ entry ∈ patch, patch.lookup entry.1 = some entry.2 :=
      fun _ mem => OrderedDict.lookup_of_mem distinct mem
    rcases mergeValue_dict current patch with ⟨eq, -⟩ | ⟨old, -, eq⟩
    · rw [eq, mergeValue, deepMerge_of_absorbed]
      intro entry mem
      have own := ih entry mem (parts entry mem) none
      rw [mergeValue_none] at own
      exact ⟨_, found entry mem, own⟩
    · rw [eq, mergeValue, deepMerge_of_absorbed]
      intro entry mem
      refine ⟨_, ?_, ih entry mem (parts entry mem) (old.lookup entry.1)⟩
      rw [lookup_deepMerge distinct, found entry mem]
      rfl

/-! ## Paths -/

theorem follow_none (path : List String) : follow none path = none := by
  induction path with
  | nil => rfl
  | cons key path ih => exact ih

theorem isJson_of_field (json : ∀ value ∈ patch, value.isJson = true) (key : String) :
    ∀ value ∈ patch.bind (field key), value.isJson = true := by
  intro value found
  obtain ⟨outer, rfl, inner⟩ := Option.bind_eq_some_iff.mp found
  cases outer with
  | dict fields =>
    obtain ⟨distinct, parts⟩ := Value.isJson_dict.mp (json _ rfl)
    exact parts (key, value) ((OrderedDict.lookup_eq_some_iff_mem distinct).mp inner)
  | _ => cases inner

theorem object_of_follow {key : String} {path : List String}
    (leads : follow patch (key :: path) ≠ none) : ∀ value ∈ patch, value.asDict? ≠ none := by
  rintro value rfl missing
  exact leads (by rw [follow, Option.bind_some, field, missing, Option.bind_none, follow_none])

theorem follow_of_patch (isLeaf : leaf.asDict? = none) (path : List String) :
    ∀ {current patch}, (∀ value ∈ patch, value.isJson = true) → follow patch path = some leaf →
      follow (merged current patch) path = some leaf := by
  induction path with
  | nil =>
    rintro current _ _ rfl
    rw [follow, merged, Option.map_some, mergeValue_of_leaf isLeaf, Option.some_or]
  | cons key path ih =>
    intro current patch json leads
    rw [follow, field_merged json (object_of_follow (leads.trans_ne (Option.some_ne_none _)))]
    exact ih (isJson_of_field json key) leads

theorem follow_of_profile (isLeaf : leaf.asDict? = none) (path : List String) :
    ∀ {current patch}, (∀ value ∈ patch, value.isJson = true) → follow current path = some leaf →
      (∀ start, start <+: path → follow patch start = none ∨ ∃ old fields,
        follow current start = some (.dict old) ∧ follow patch start = some (.dict fields)) →
      follow (merged current patch) path = some leaf := by
  induction path with
  | nil =>
    rintro _ patch _ rfl spared
    rcases spared [] (List.prefix_refl _) with absent | ⟨old, fields, object, -⟩
    · rw [show patch = none from absent]
      rfl
    · cases object
      cases isLeaf
  | cons key path ih =>
    intro current patch json leads spared
    have object : ∀ value ∈ patch, value.asDict? ≠ none := by
      rintro value rfl
      rcases spared [] List.nil_prefix with absent | ⟨old, fields, -, object⟩
      · cases absent
      · cases object
        exact Option.some_ne_none _
    rw [follow, field_merged json object]
    exact ih (isJson_of_field json key) leads fun start begins =>
      spared (key :: start) (List.cons_prefix_cons.mpr ⟨rfl, begins⟩)

theorem follow_of_merged (path : List String) : ∀ {current patch},
    (∀ value ∈ patch, value.isJson = true) →
      follow (merged current patch) path ≠ none → follow current path ≠ none ∨
        follow patch path ≠ none := by
  induction path with
  | nil =>
    intro current patch _ leads
    cases patch with
    | none => exact .inl leads
    | some value => exact .inr (Option.some_ne_none _)
  | cons key path ih =>
    intro current patch json leads
    have object : ∀ value ∈ patch, value.asDict? ≠ none := by
      rintro value rfl missing
      refine object_of_follow leads _ ?_ missing
      rw [merged, Option.map_some, mergeValue_of_leaf missing, Option.some_or, Option.mem_some]
    rw [follow, field_merged json object] at leads
    exact ih (isJson_of_field json key) leads

/-- **The laws of `_deep_merge`**: merging a patch again changes nothing; every value of the patch
that is not an object is in the result; so is every such value of the profile whose path the patch
does not cut off; and the result has no other paths. -/
theorem deep_merge_laws (left right : Fields) (json : (Value.dict right).isJson = true) :
    deepMerge (deepMerge left right) right = deepMerge left right ∧
    (∀ path leaf, leaf.asDict? = none → follow (some (.dict right)) path = some leaf →
      follow (some (.dict (deepMerge left right))) path = some leaf) ∧
    (∀ path leaf, leaf.asDict? = none → follow (some (.dict left)) path = some leaf →
      (∀ start, start <+: path → follow (some (.dict right)) start = none ∨ ∃ old fields,
        follow (some (.dict left)) start = some (.dict old) ∧
          follow (some (.dict right)) start = some (.dict fields)) →
      follow (some (.dict (deepMerge left right))) path = some leaf) ∧
    ∀ path, follow (some (.dict (deepMerge left right))) path ≠ none →
      follow (some (.dict left)) path ≠ none ∨ follow (some (.dict right)) path ≠ none := by
  have whole : ∀ value ∈ some (Value.dict right), value.isJson = true :=
    fun _ eq => Option.some.inj eq ▸ json
  have result : some (Value.dict (deepMerge left right)) =
      merged (some (.dict left)) (some (.dict right)) := by
    rw [merged, Option.map_some, mergeValue, Option.some_or]
  have again := mergeValue_absorbed _ json (some (.dict left))
  rw [result]
  refine ⟨?_, fun path leaf isLeaf => follow_of_patch isLeaf path whole,
    fun path leaf isLeaf => follow_of_profile isLeaf path whole, fun path =>
      follow_of_merged path whole⟩
  rw [mergeValue, mergeValue] at again
  exact Value.dict.inj again

theorem nested_patch_kept :
    follow (some (.dict (deepMerge [("profile", .dict [("name", .str "u"), ("city", .str "y")])]
      [("profile", .dict [("city", .str "x")])]))) ["profile", "city"] = some (.str "x") :=
  (deep_merge_laws _ _ rfl).2.1 _ _ rfl rfl

end AgentOrchestration.Memory
