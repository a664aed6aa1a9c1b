import AgentOrchestration.Memory.UserMemoryProfile

/-!
# Preference priorities

A stored preference remembers the source that wrote it. A write by a source of lower priority
is denied, and a write of the value that is there already is ignored: it leaves the entry with the
source it had.

The entries follow an abstract register, `PreferenceEntry`, whose `put` is what one call does.
-/

namespace AgentOrchestration.Memory

set_option autoImplicit false

/-! ## The register -/

structure PreferenceEntry where
  value : Value
  source : String
  version : ℤ

def PreferenceEntry.encode : Option PreferenceEntry → Value
  | none => .null
  | some entry =>
    .dict [("value", entry.value), ("source", .str entry.source), ("version", .int entry.version)]

section

variable (priorities : SourcePriorities) (upsert : PreferenceUpsert)

/-- What becomes of a call. -/
def PreferenceEntry.verdict : Option PreferenceEntry → UpsertReason
  | none => .inserted
  | some entry =>
    if upsert.ignoreIfUnchanged ∧ entry.value.equal upsert.preferenceValue then .unchanged
    else if priorities.priority upsert.source < priorities.priority entry.source then
      .sourcePriorityDenied
    else .updated

def PreferenceEntry.put (entry : Option PreferenceEntry) : Option PreferenceEntry :=
  match PreferenceEntry.verdict priorities upsert entry with
  | .inserted => some ⟨upsert.preferenceValue, upsert.source, 1⟩
  | .updated =>
    some ⟨upsert.preferenceValue, upsert.source, (entry.map PreferenceEntry.version).getD 0 + 1⟩
  | .unchanged => entry
  | .sourcePriorityDenied => entry

end

open PreferenceEntry (encode put verdict)

/-- The verdicts that change the entry. -/
def UpsertReason.applied : UpsertReason → Bool
  | .inserted => true
  | .updated => true
  | .unchanged => false
  | .sourcePriorityDenied => false

/-- A preference read back from its JSON form. -/
def PreferenceEntry.decode : Value → Option PreferenceEntry
  | .dict [("value", value), ("source", .str source), ("version", .int version)] =>
    some ⟨value, source, version⟩
  | _ => none

@[simp] theorem PreferenceEntry.decode_encode (entry) :
    PreferenceEntry.decode (encode entry) = entry := by
  cases entry <;> rfl

open PreferenceEntry (decode_encode)

def storedPreference (row : Option UserMemoryProfileRow) (key : String) : Option PreferenceEntry :=
  PreferenceEntry.decode (storedEntry row key)

/-! ## Refinement -/

section

variable {priorities : SourcePriorities} {upsert : PreferenceUpsert}
  {row after : Option UserMemoryProfileRow} {result : UserPreferenceUpsertResult} {key : String}

theorem readPrevious_encode (entry : PreferenceEntry) :
    readPrevious priorities (encode (some entry)) =
      .ok ⟨some entry.source, priorities.priority entry.source, entry.version, entry.value⟩ := rfl

variable {entry : Option PreferenceEntry}

theorem upsert_spec (stored : storedEntry row upsert.preferenceKey = encode entry)
    (gave : upsertUserPreferenceDeterministic priorities upsert row = .ok (result, after)) :
    storedEntry after upsert.preferenceKey = encode (put priorities upsert entry) ∧
      result.reason = verdict priorities upsert entry ∧
      result.updated = result.reason.applied := by
  obtain ⟨prev, read, settled⟩ := upsert_eq_ok gave
  cases entry with
  | none =>
    have absent : entryOf (getUserMemoryProfile row) upsert.preferenceKey = .null := stored
    rw [settleUpsert, if_pos absent] at settled
    cases settled
    refine ⟨?_, rfl, rfl⟩
    rw [storedEntry_writeProfile, if_pos rfl]
    rfl
  | some entry =>
    rw [stored, readPrevious_encode] at read
    cases read
    have has : ¬ entryOf (getUserMemoryProfile row) upsert.preferenceKey = .null := by
      intro absent
      have stored : Value.null = encode (some entry) := absent.symm.trans stored
      cases stored
    rw [settleUpsert, if_neg has] at settled
    split at settled
    · rename_i eq
      cases settled
      simp only [put, verdict, if_pos eq]
      exact ⟨stored, trivial, rfl⟩
    · rename_i ne
      split at settled
      · rename_i lower
        cases settled
        simp only [put, verdict, if_neg ne, if_pos lower]
        exact ⟨stored, trivial, rfl⟩
      · rename_i notLower
        cases settled
        simp only [put, verdict, if_neg ne, if_neg notLower]
        refine ⟨?_, trivial, rfl⟩
        rw [storedEntry_writeProfile, if_pos rfl]
        rfl

theorem upsert_writes
    (gave : upsertUserPreferenceDeterministic priorities upsert row = .ok (result, after)) :
    (result.updated = true ∧ ∃ version,
      after = some (writeProfile row (storeEntry (getUserMemoryProfile row) upsert version))) ∨
    result.updated = false ∧ after = row := by
  obtain ⟨prev, -, settled⟩ := upsert_eq_ok gave
  simp only [settleUpsert] at settled
  split at settled
  · cases settled
    exact .inl ⟨rfl, _, rfl⟩
  · split at settled
    · cases settled
      exact .inr ⟨rfl, rfl⟩
    · split at settled
      · cases settled
        exact .inr ⟨rfl, rfl⟩
      · cases settled
        exact .inl ⟨rfl, _, rfl⟩

theorem storedEntry_applyUpsert_of_ne (other : key ≠ upsert.preferenceKey) :
    storedEntry (applyUpsert priorities upsert row) key = storedEntry row key := by
  unfold applyUpsert
  split
  · rename_i res after gave
    rcases upsert_writes gave with ⟨-, version, rfl⟩ | ⟨-, rfl⟩
    · rw [storedEntry_writeProfile, if_neg other]
    · rfl
  · rfl

theorem exists_upsert_eq_ok (prios) (upsert : PreferenceUpsert)
    (stored : storedEntry row upsert.preferenceKey = encode entry)
    (supported : validateProfileSchemaVersion (getUserMemoryProfile row) = .ok ()) :
    ∃ out, upsertUserPreferenceDeterministic prios upsert row = .ok out := by
  have read : ∃ prev, readPrevious prios
      (entryOf (getUserMemoryProfile row) upsert.preferenceKey) = .ok prev := by
    rw [show entryOf (getUserMemoryProfile row) upsert.preferenceKey = encode entry from stored]
    cases entry with
    | none => exact ⟨_, rfl⟩
    | some entry => exact ⟨_, readPrevious_encode entry⟩
  obtain ⟨prev, read⟩ := read
  refine ⟨settleUpsert prios upsert row prev, ?_⟩
  simp only [upsertUserPreferenceDeterministic, supported, read]
  rfl

theorem supported_of_upsert {out}
    (gave : upsertUserPreferenceDeterministic priorities upsert row = .ok out) :
    validateProfileSchemaVersion (getUserMemoryProfile row) = .ok () := by
  obtain ⟨_, supported, -⟩ := Program.except_bind_eq_ok.mp gave
  exact supported

theorem row_of_not_updated
    (gave : upsertUserPreferenceDeterministic priorities upsert row = .ok (result, after))
    (ignored : result.updated = false) : after = row := by
  rcases upsert_writes gave with ⟨updated, -⟩ | ⟨-, same⟩
  · rw [ignored] at updated
    cases updated
  · exact same

end

/-! ## Sequences of calls -/

variable (priorities : SourcePriorities)

def replayUpserts (calls : List PreferenceUpsert) (row : Option UserMemoryProfileRow) :
    Option UserMemoryProfileRow :=
  calls.foldl (fun row upsert => applyUpsert priorities upsert row) row

/-- No calls whose sources have lower priorities change the value of the preference. -/
def Protects (key : String) (bound : ℤ) (row : Option UserMemoryProfileRow) : Prop :=
  ∀ later : List PreferenceUpsert,
    (∀ upsert ∈ later, upsert.preferenceKey = key → priorities.priority upsert.source < bound) →
    (storedPreference (replayUpserts priorities later row) key).map PreferenceEntry.value =
      (storedPreference row key).map PreferenceEntry.value

section

variable {priorities : SourcePriorities} {row : Option UserMemoryProfileRow} {key : String}

variable {entry : Option PreferenceEntry}

theorem storedEntry_applyUpsert (prios : SourcePriorities) (upsert : PreferenceUpsert)
    (stored : storedEntry row key = encode entry) :
    storedEntry (applyUpsert prios upsert row) key = encode entry ∨
      upsert.preferenceKey = key ∧ storedEntry (applyUpsert prios upsert row) key =
        encode (put prios upsert entry) := by
  by_cases own : upsert.preferenceKey = key
  · subst own
    cases gave : upsertUserPreferenceDeterministic prios upsert row with
    | error raised =>
      left
      rw [applyUpsert, gave]
      exact stored
    | ok out =>
      right
      refine ⟨rfl, ?_⟩
      rw [applyUpsert, gave]
      exact (upsert_spec stored gave).1
  · left
    rw [storedEntry_applyUpsert_of_ne (Ne.symm own)]
    exact stored

theorem exists_entry_replayUpserts (prios calls) (stored : storedEntry row key = encode entry) :
    ∃ later, storedEntry (replayUpserts prios calls row) key = encode later := by
  induction calls generalizing row entry with
  | nil => exact ⟨entry, stored⟩
  | cons upsert rest ih =>
    rcases storedEntry_applyUpsert prios upsert stored with kept | ⟨-, put⟩
    · exact ih kept
    · exact ih put

variable {upsert : PreferenceUpsert}

theorem put_of_lower {entry : PreferenceEntry}
    (lower : priorities.priority upsert.source < priorities.priority entry.source) :
    put priorities upsert (some entry) = some entry := by
  simp only [put, verdict, if_pos lower]
  split_ifs <;> rfl

theorem storedEntry_replay_of_lower {entry : PreferenceEntry} (prios : SourcePriorities) (later)
    (stored : storedEntry row key = encode (some entry))
    (lower : ∀ upsert ∈ later, upsert.preferenceKey = key →
      prios.priority upsert.source < prios.priority entry.source) :
    storedEntry (replayUpserts prios later row) key = encode (some entry) := by
  induction later generalizing row with
  | nil => exact stored
  | cons upsert rest ih =>
    refine ih ?_ fun other mem => lower other (List.mem_cons_of_mem upsert mem)
    rcases storedEntry_applyUpsert prios upsert stored with kept | ⟨own, put⟩
    · exact kept
    · rw [put, put_of_lower (lower upsert List.mem_cons_self own)]

variable {bound : ℤ}

theorem protects_of_le {entry : PreferenceEntry}
    (stored : storedEntry row key = encode (some entry))
    (le : bound ≤ priorities.priority entry.source) : Protects priorities key bound row := by
  intro later lower
  have kept := storedEntry_replay_of_lower priorities later stored
    fun upsert mem own => (lower upsert mem own).trans_le le
  rw [storedPreference, storedPreference, kept, stored]

variable (value : Value)

def otherValue : Value := if value = .null then .bool true else .null

theorem otherValue_ne : otherValue value ≠ value := by
  unfold otherValue
  split
  · rename_i null
    rw [null]
    exact Value.noConfusion
  · rename_i ne
    exact fun eq => ne eq.symm

theorem le_of_protects {entry : PreferenceEntry}
    (stored : storedEntry row key = encode (some entry))
    (supported : validateProfileSchemaVersion (getUserMemoryProfile row) = .ok ())
    (protects : Protects priorities key bound row) :
    bound ≤ priorities.priority entry.source := by
  by_contra below
  let upsert : PreferenceUpsert := ⟨key, otherValue entry.value, entry.source, false⟩
  have kept := protects [upsert] fun other member _ => by
    rw [List.mem_singleton.mp member]
    exact not_le.mp below
  obtain ⟨outcome, returned⟩ := exists_upsert_eq_ok priorities upsert stored supported
  have written := (upsert_spec stored returned).1
  have replayed : storedEntry (replayUpserts priorities [upsert] row) key = encode
      (some ⟨otherValue entry.value, entry.source, entry.version + 1⟩) := by
    show storedEntry (applyUpsert priorities upsert row) key = _
    rw [applyUpsert, returned]
    refine written.trans ?_
    simp [put, verdict, upsert]
  rw [storedPreference, storedPreference, replayed, stored] at kept
  exact otherValue_ne entry.value (Option.some.inj kept)

def storedVersion (row : Option UserMemoryProfileRow) (key : String) : ℤ :=
  ((storedPreference row key).map PreferenceEntry.version).getD 0

theorem put_of_applied (applied : (verdict priorities upsert entry).applied = true) :
    put priorities upsert entry = some ⟨upsert.preferenceValue, upsert.source,
      (entry.map PreferenceEntry.version).getD 0 + 1⟩ := by
  cases entry with
  | none => rfl
  | some entry =>
    cases answer : verdict priorities upsert (some entry) with
    | updated => simp only [put, answer]
    | inserted =>
      simp only [verdict] at answer
      split_ifs at answer
    | unchanged | sourcePriorityDenied =>
      rw [answer] at applied
      cases applied

theorem equal_of_unchanged (unchanged : verdict priorities upsert entry = .unchanged) :
    ∃ stored, entry = some stored ∧ stored.value.equal upsert.preferenceValue = true := by
  cases entry with
  | none => cases unchanged
  | some stored =>
    simp only [verdict] at unchanged
    split_ifs at unchanged with same
    exact ⟨stored, rfl, same.2⟩

end

/-- **Preferences are protected by the priority of the source that is stored.** Along any calls from
no entry on: a call that is applied stores its value, raises the version by one and protects the
value against sources of lower priority. A call that is reported unchanged found its value stored;
it protects it against sources of lower priority than its own exactly if its priority is not above
that of the source that is stored. A call that is not applied changes nothing. -/
theorem preference_priority (priorities : SourcePriorities) (start : Option UserMemoryProfileRow)
    (upsert : PreferenceUpsert) (noEntry : storedEntry start upsert.preferenceKey = .null)
    (past : List PreferenceUpsert) (result : UserPreferenceUpsertResult)
    (after : Option UserMemoryProfileRow)
    (returned : upsertUserPreferenceDeterministic priorities upsert
      (replayUpserts priorities past start) = .ok (result, after)) :
    (result.updated = true →
      (storedPreference after upsert.preferenceKey).map PreferenceEntry.value =
          some upsert.preferenceValue ∧
        Protects priorities upsert.preferenceKey (priorities.priority upsert.source) after ∧
        storedVersion after upsert.preferenceKey =
          storedVersion (replayUpserts priorities past start) upsert.preferenceKey + 1) ∧
      (result.updated = false → after = replayUpserts priorities past start) ∧
      (result.reason = .unchanged → ∃ entry,
        storedPreference (replayUpserts priorities past start) upsert.preferenceKey = some entry ∧
        entry.value.equal upsert.preferenceValue = true ∧
        (Protects priorities upsert.preferenceKey (priorities.priority upsert.source) after ↔
          priorities.priority upsert.source ≤ priorities.priority entry.source)) := by
  obtain ⟨entry, stored⟩ := exists_entry_replayUpserts priorities past
    (show storedEntry start upsert.preferenceKey = encode none from noEntry)
  obtain ⟨put, reported, updated⟩ := upsert_spec stored returned
  refine ⟨fun applied => ?_, row_of_not_updated returned, fun unchanged => ?_⟩
  · rw [updated, reported] at applied
    rw [put_of_applied applied] at put
    refine ⟨?_, protects_of_le put (le_refl _), ?_⟩
    · rw [storedPreference, put]
      rfl
    · rw [storedVersion, storedVersion, storedPreference, storedPreference, put, stored,
        decode_encode, decode_encode]
      rfl
  · obtain ⟨kept, rfl, equal⟩ := equal_of_unchanged (reported.symm.trans unchanged)
    have same : after = replayUpserts priorities past start :=
      row_of_not_updated returned (updated.trans (by rw [unchanged]; rfl))
    rw [same]
    refine ⟨kept, by rw [storedPreference, stored, decode_encode], equal, ?_, ?_⟩
    · exact le_of_protects stored (supported_of_upsert returned)
    · exact protects_of_le stored

def writerPriorities : SourcePriorities := ⟨sourcePriorityValues, fun _ => ""⟩

def speaks (source : MemoryPolicySource) (language : String) : PreferenceUpsert :=
  { preferenceKey := "language", preferenceValue := .str language, source := source.text }

/-- What the user says is applied over what was inferred, and protected. -/
theorem explicit_over_inferred :
    Protects writerPriorities "language" 4 (replayUpserts writerPriorities
      [speaks .inferredLlm "en", speaks .explicitUser "pt"] none) :=
  ((preference_priority writerPriorities none (speaks .explicitUser "pt") rfl
    [speaks .inferredLlm "en"] _ _ rfl).1 rfl).2.1

/-- The user confirms what was inferred, which is reported unchanged, and a tool overwrites it. -/
theorem confirmed_preference_overwritten :
    (upsertUserPreferenceDeterministic writerPriorities (speaks .explicitUser "en")
        (replayUpserts writerPriorities [speaks .inferredLlm "en"] none)).toOption.map
          (fun outcome => outcome.1.reason) = some .unchanged ∧
      writerPriorities.priority (speaks .toolOutput "pt").source <
        writerPriorities.priority (speaks .explicitUser "en").source ∧
      (storedPreference (replayUpserts writerPriorities
        [speaks .inferredLlm "en", speaks .explicitUser "en", speaks .toolOutput "pt"] none)
          "language").map PreferenceEntry.value = some (.str "pt") := by
  decide +kernel

end AgentOrchestration.Memory
