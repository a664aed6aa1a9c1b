import AgentOrchestration.Memory.MemoryWriter
import AgentOrchestration.Memory.PreferencePriority

/-!
# Concurrent memory writes

Upserts of preferences are made under a row lock, but a patch of the profile is merged into a copy
that was read before. If nothing was written in between, the calls amount to their upserts and
merges made one after another.
-/

namespace AgentOrchestration.Memory

set_option autoImplicit false

open LabelledSystem (trace)

/-! ## Merges -/

def SparesPreferences (patch : Fields) : Prop := memoryPrefsKey ∉ OrderedDict.keys patch

theorem preferencesOf_deepMerge {patch : Fields} (spares : SparesPreferences patch)
    (profile : Fields) : preferencesOf (deepMerge profile patch) = preferencesOf profile := by
  induction patch generalizing profile with
  | nil => rfl
  | cons field rest ih =>
    obtain ⟨key, val⟩ := field
    have other : memoryPrefsKey ≠ key := fun eq => spares (List.mem_cons.mpr (.inl eq))
    rw [deepMerge, ih fun mem => spares (List.mem_cons_of_mem key mem),
      preferencesOf_set_of_ne other]

theorem storedEntry_merge {patch} (spares : SparesPreferences patch) (row key) :
    storedEntry (upsertUserMemoryProfile (deepMerge (getUserMemoryProfile row) patch) row) key =
      storedEntry row key := by
  rw [storedEntry, upsertUserMemoryProfile, getUserMemoryProfile_writeProfile, entryOf,
    preferencesOf_deepMerge spares]
  rfl

/-! ## Steps -/

inductive Performs (priorities : SourcePriorities) (before after : MemorySystem) : Prop where
  | nothing (row : after.row = before.row) (performed : after.performed = before.performed)
  | upsert (call : PreferenceUpsert) (row : after.row = applyUpsert priorities call before.row)
      (performed : after.performed = before.performed ++ [.upsert call])
  | merge (patch : Fields) (spares : SparesPreferences patch)
      (row : after.row = MemoryOperation.apply priorities before.row (.merge patch))
      (performed : after.performed = before.performed ++ [.merge patch])

/-- What is written is merged into the profile that is there, and spares the preferences. -/
def MemoryStage.Undisturbed (row : Option UserMemoryProfileRow) : MemoryStage → Prop
  | .writing patch current => getUserMemoryProfile row = current ∧ SparesPreferences patch
  | .enforcing => True
  | .upserting _ => True
  | .reading _ => True
  | .finished => True

instance (row : Option UserMemoryProfileRow) (stage : MemoryStage) :
    Decidable (stage.Undisturbed row) :=
  match stage with
  | .writing patch current =>
    inferInstanceAs
      (Decidable (getUserMemoryProfile row = current ∧ memoryPrefsKey ∉ OrderedDict.keys patch))
  | .enforcing => .isTrue trivial
  | .upserting _ => .isTrue trivial
  | .reading _ => .isTrue trivial
  | .finished => .isTrue trivial

/-- A call writes a merged profile only while the profile is the one it has read, and only with a
patch that does not mention the preferences. -/
def Undisturbed (system : MemorySystem) : MemoryAction → Prop
  | .start _ _ => True
  | .advance index => ∀ call ∈ system.calls[index]?, call.stage.Undisturbed system.row
  | .fail _ => True

instance (system : MemorySystem) (action : MemoryAction) : Decidable (Undisturbed system action) :=
  match action with
  | .start _ _ => .isTrue trivial
  | .advance index => inferInstanceAs (Decidable (∀ call ∈ system.calls[index]?, _))
  | .fail _ => .isTrue trivial

variable {libraries : MemoryLibraries} {system after : MemorySystem}

theorem performs_advance {idx : ℕ} {call : MemoryCall} (calm : call.stage.Undisturbed system.row)
    (ran : system.advance libraries idx call = some after) :
    Performs libraries.priorities system after := by
  unfold MemorySystem.advance at ran
  cases stage : call.stage with
  | enforcing =>
    simp only [stage] at ran
    split at ran
    · cases ran
      exact .nothing rfl rfl
    · cases ran
      exact .nothing rfl rfl
  | upserting upsert =>
    simp only [stage] at ran
    split at ran
    · rename_i res row gave
      cases ran
      refine .upsert upsert ?_ rfl
      rw [applyUpsert, gave]
      rfl
    · rename_i err raised
      cases ran
      refine .upsert upsert ?_ rfl
      rw [applyUpsert, raised]
      rfl
  | reading patch =>
    simp only [stage] at ran
    cases ran
    exact .nothing rfl rfl
  | writing patch current =>
    simp only [stage] at ran
    cases ran
    rw [stage] at calm
    obtain ⟨rfl, spares⟩ := calm
    exact .merge patch spares rfl rfl
  | finished =>
    simp only [stage] at ran
    cases ran

theorem performs_memoryStep {action : MemoryAction} (calm : Undisturbed system action)
    (ran : memoryStep libraries system action = some after) :
    Performs libraries.priorities system after := by
  cases action with
  | start flow item =>
    cases ran
    exact .nothing rfl rfl
  | advance idx =>
    obtain ⟨call, found, advanced⟩ := Option.bind_eq_some_iff.mp ran
    exact performs_advance (calm call found) advanced
  | fail idx =>
    obtain ⟨call, found, rfl⟩ := Option.map_eq_some_iff.mp ran
    exact .nothing rfl rfl

/-! ## Whole runs -/

/-- The profile is what the operations performed so far make of it, one after another. -/
def Serial (priorities : SourcePriorities) (start : Option UserMemoryProfileRow)
    (system : MemorySystem) : Prop :=
  system.row = replayOperations priorities system.performed start

theorem Performs.serial {prios start} (performs : Performs prios system after)
    (serial : Serial prios start system) :
    Serial prios start after := by
  unfold Serial replayOperations at serial ⊢
  cases performs with
  | nothing row performed => rw [row, performed, serial]
  | upsert call row performed | merge patch spares row performed =>
    rw [row, performed, serial, List.foldl_append]
    rfl

theorem Performs.preference {prios} (performs : Performs prios system after) {key}
    (changed : storedEntry after.row key ≠ storedEntry system.row key) :
    ∃ upsert, upsert.preferenceKey = key ∧ after.row = applyUpsert prios upsert system.row ∧
      after.performed = system.performed ++ [.upsert upsert] := by
  cases performs with
  | nothing row ran => exact absurd (by rw [row]) changed
  | upsert call row ran =>
    refine ⟨call, ?_, row, ran⟩
    by_contra other
    exact changed (by rw [row, storedEntry_applyUpsert_of_ne (Ne.symm other)])
  | merge patch spares row ran =>
    exact absurd (by rw [row]; exact storedEntry_merge spares _ key) changed

/-- **Undisturbed writes are serial.** Whatever calls are made and however they interleave and fail:
if every call writes its merged profile over the profile it has read, and no patch mentions the
preferences, then in every state reached the profile is the result of the upserts and merges in the
order in which they were written, and a preference only ever changes by an upsert of it. -/
theorem undisturbed_writes_serial (libraries : MemoryLibraries)
    (start : Option UserMemoryProfileRow)
    (actions : List MemoryAction)
    (undisturbed : ∀ t ∈ trace (memoryStep libraries) ⟨start, [], []⟩ actions,
      Undisturbed t.before t.action) :
    ∀ t ∈ trace (memoryStep libraries) ⟨start, [], []⟩ actions,
      t.after.row = replayOperations libraries.priorities t.after.performed start ∧
        ∀ key, storedEntry t.after.row key ≠ storedEntry t.before.row key →
          ∃ upsert, upsert.preferenceKey = key ∧
            t.after.row = applyUpsert libraries.priorities upsert t.before.row ∧
            t.after.performed = t.before.performed ++ [.upsert upsert] := by
  refine LabelledSystem.trace_law (I := Serial libraries.priorities start) (G := Undisturbed)
    ?_ ?_ actions _ rfl undisturbed
  · intro system action after serial undisturbed performed
    exact (performs_memoryStep undisturbed performed).serial serial
  · intro system action after serial undisturbed performed
    have performs := performs_memoryStep undisturbed performed
    exact ⟨performs.serial serial, fun key => performs.preference⟩

def plainLibraries : MemoryLibraries := ⟨writerPriorities, fun _ => 0⟩

/-- Facts may patch the profile, preferences are upserted under the key that is given. -/
def openPolicy : MemoryPolicyDefinition where
  allowedSchemas :=
    [{ schemaId := "fact", writeTargets := [.userMemoryProfile] },
      { schemaId := "preference"
        writeTargets := [.userPreference]
        preferenceUpdate := some { allowedKeys := ["language"] } }]

def patches (patch : Fields) : MemoryAction :=
  .start (some openPolicy) ⟨"fact", [("profile_patch", .dict patch)], .inferredLlm⟩

def setsLanguage (language : String) : MemoryAction :=
  .start (some openPolicy) ⟨"preference",
    [("preference_key", .str "language"), ("preference_value", .str language)], .explicitUser⟩

/-- A preference and two patches, one after another. -/
def separateWrites : List MemoryAction :=
  [setsLanguage "en", .advance 0, .advance 0, patches [("city", .str "Porto")], .advance 1,
    .advance 1, .advance 1, patches [("team", .str "blue")], .advance 2, .advance 2, .advance 2]

/-- Writes that are made one after another meet the condition, and so they are serial. -/
theorem separate_writes_serial :
    (∀ t ∈ trace (memoryStep plainLibraries) ⟨none, [], []⟩ separateWrites,
      Undisturbed t.before t.action) ∧
    ∀ t ∈ trace (memoryStep plainLibraries) ⟨none, [], []⟩ separateWrites,
      t.after.row = replayOperations writerPriorities t.after.performed none ∧
        ∀ key, storedEntry t.after.row key ≠ storedEntry t.before.row key →
          ∃ upsert, upsert.preferenceKey = key ∧
            t.after.row = applyUpsert writerPriorities upsert t.before.row ∧
            t.after.performed = t.before.performed ++ [.upsert upsert] := by
  have undisturbed : ∀ t ∈ trace (memoryStep plainLibraries) ⟨none, [], []⟩ separateWrites,
      Undisturbed t.before t.action := by
    decide +kernel
  exact ⟨undisturbed, undisturbed_writes_serial plainLibraries none separateWrites undisturbed⟩

/-- Two calls that both read before either writes: whatever order their merges are made in, the
first patch is in the profile, but it is not in the one that is left. And a patch from an inferred
fact overwrites the language that the user has set. -/
theorem concurrent_patch_lost : (∃ t ∈ trace (memoryStep plainLibraries) ⟨none, [], []⟩
        [patches [("city", .str "Porto")], patches [("team", .str "blue")], .advance 0, .advance 0,
          .advance 1, .advance 1, .advance 0, .advance 1],
      ∀ order : List MemoryOperation, order.Perm t.after.performed →
        (getUserMemoryProfile t.after.row).lookup "city" ≠
          (getUserMemoryProfile (replayOperations writerPriorities order none)).lookup "city") ∧
    ∃ t ∈ trace (memoryStep plainLibraries) ⟨none, [], []⟩
      [setsLanguage "en", .advance 0, .advance 0,
          patches [(memoryPrefsKey, .dict [("language", .dict [("value", .str "pt")])])],
          .advance 1, .advance 1, .advance 1],
      (storedPreference t.before.row "language").map PreferenceEntry.value = some (.str "en") ∧
        (storedPreference t.after.row "language").map PreferenceEntry.value = some (.str "pt") ∧
        ∀ upsert, t.after.performed ≠ t.before.performed ++ [.upsert upsert] := by
  constructor
  · have lost : (trace (memoryStep plainLibraries) ⟨none, [], []⟩
        [patches [("city", .str "Porto")], patches [("team", .str "blue")], .advance 0, .advance 0,
          .advance 1, .advance 1, .advance 0, .advance 1]).any (fun t =>
            t.after.performed.permutations'.all fun order => decide
              ((getUserMemoryProfile t.after.row).lookup "city" ≠
                (getUserMemoryProfile (replayOperations writerPriorities order none)).lookup
                  "city")) = true := by
      decide +kernel
    obtain ⟨t, member, always⟩ := List.any_eq_true.mp lost
    refine ⟨t, member, fun order permutes => ?_⟩
    exact of_decide_eq_true (List.all_eq_true.mp always order (List.mem_permutations'.mpr permutes))
  · have overwritten : (trace (memoryStep plainLibraries) ⟨none, [], []⟩
        [setsLanguage "en", .advance 0, .advance 0,
          patches [(memoryPrefsKey, .dict [("language", .dict [("value", .str "pt")])])],
          .advance 1, .advance 1, .advance 1]).any (fun t => decide
            ((storedPreference t.before.row "language").map PreferenceEntry.value =
              some (.str "en") ∧
              (storedPreference t.after.row "language").map PreferenceEntry.value =
                some (.str "pt") ∧
              t.after.performed = t.before.performed ++ [.merge
                [(memoryPrefsKey, .dict [("language", .dict [("value", .str "pt")])])]]))
                  = true := by
      decide +kernel
    obtain ⟨t, member, changed⟩ := List.any_eq_true.mp overwritten
    obtain ⟨before, after, performed⟩ := of_decide_eq_true changed
    refine ⟨t, member, before, after, fun upsert same => ?_⟩
    have last := List.append_cancel_left (performed.symm.trans same)
    cases last

end AgentOrchestration.Memory
