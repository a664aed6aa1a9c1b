import AgentOrchestration.EdgeEvaluator.Operators
import AgentOrchestration.Library.Program

/-!
# The memory profile of a user

Model of the repository functions on `user_memory_profile`: the row of one user holds a JSON
document, with the user's preferences under `memory_preferences`.
-/

namespace AgentOrchestration.Memory

set_option autoImplicit false

/-! ## Rows -/

/-- What the repository and the writer raise. -/
inductive MemoryError where
  | userMemoryProfileSchemaInvalid
  | userMemoryProfileSchemaUnsupported
  | memoryProfilePatchRequired
  | memoryPolicyRequiredForInferredMemory
  | memorySourceNotAllowed
  | memorySchemaNotAllowed
  | memoryItemTooLarge
  | memoryItemFieldsNotAllowed
  | memoryConsentNotGranted
  | invalidMemoryPolicyTtl
  /-- Raised by `int(...)` and not caught. -/
  | overflowError
  deriving DecidableEq

structure UserMemoryProfileRow where
  profile : Fields
  profileVersion : ℕ
  deriving DecidableEq

def memoryPrefsKey : String := "memory_preferences"

variable (row : Option UserMemoryProfileRow)

def getUserMemoryProfile : Fields := (row.map UserMemoryProfileRow.profile).getD []

variable (profile : Fields)

/-- A new document for the row: inserted with version 1, or the next version. -/
def writeProfile : UserMemoryProfileRow :=
  match row with
  | none => ⟨profile, 1⟩
  | some stored => ⟨profile, stored.profileVersion + 1⟩

def upsertUserMemoryProfile (row : Option UserMemoryProfileRow) : Option UserMemoryProfileRow :=
  some (writeProfile row profile)

/-- `_validate_profile_schema_version`, with `_PROFILE_SCHEMA_MIN = _PROFILE_SCHEMA_MAX = 1`. -/
def validateProfileSchemaVersion : Except MemoryError Unit :=
  match (profile.lookup "profile_schema_version").getD .null with
  | .null => .ok ()
  | raw =>
    match raw.toInt? with
    | some version => if version = 1 then .ok () else .error .userMemoryProfileSchemaUnsupported
    | none =>
      if raw.intErrorClass = "OverflowError" then .error .overflowError
      else .error .userMemoryProfileSchemaInvalid

def preferencesOf : Fields :=
  match profile.lookup memoryPrefsKey with
  | some (.dict preferences) => preferences
  | _ => []

/-- `prefs.get(preference_key)`. -/
def entryOf (key : String) : Value := ((preferencesOf profile).lookup key).getD .null

/-! ## Preferences -/

/-- The arguments of `upsert_user_preference_deterministic`, but for the priorities. -/
structure PreferenceUpsert where
  preferenceKey : String
  preferenceValue : Value
  source : String
  ignoreIfUnchanged : Bool := true
  deriving DecidableEq

/-- The values of `UserPreferenceUpsertResult.reason`. -/
inductive UpsertReason where
  | inserted
  | unchanged
  | sourcePriorityDenied
  | updated
  deriving DecidableEq

structure UserPreferenceUpsertResult where
  updated : Bool
  version : ℤ
  previousSource : Option String
  reason : UpsertReason

/-- The priorities of the sources, and `str(...)`. -/
structure SourcePriorities where
  sourcePriorityMap : List (String × ℤ)
  str : Value → String

variable (priorities : SourcePriorities)

/-- `source_priority_map.get(source, 0)`. -/
def SourcePriorities.priority (source : String) : ℤ :=
  (priorities.sourcePriorityMap.lookup source).getD 0

inductive MemoryPolicySource where
  | explicitUser
  | inferredLlm
  | toolOutput
  | adminSeed
  deriving DecidableEq

/-- `source.value`. -/
def MemoryPolicySource.text : MemoryPolicySource → String
  | .explicitUser => "explicit_user"
  | .inferredLlm => "inferred_llm"
  | .toolOutput => "tool_output"
  | .adminSeed => "admin_seed"

/-- `_source_priority_values`, of `SOURCE_PRIORITY_MAP`. -/
def sourcePriorityValues : List (String × ℤ) :=
  [(MemoryPolicySource.explicitUser.text, 4), (MemoryPolicySource.adminSeed.text, 3),
    (MemoryPolicySource.toolOutput.text, 2), (MemoryPolicySource.inferredLlm.text, 1)]

structure PreviousEntry where
  source : Option String := none
  priority : ℤ := 0
  version : ℤ := 0
  value : Value := .null

/-- The version of an entry: `int(pv)`, and 0 where that raises a `TypeError` or `ValueError`. -/
def previousVersion (version : Value) : Except MemoryError ℤ :=
  match version.toInt? with
  | some previous => .ok previous
  | none => if version.intErrorClass = "OverflowError" then .error .overflowError else .ok 0

/-- The fields of the entry that is there; defaults, if it is not a dictionary. -/
def readPrevious : Value → Except MemoryError PreviousEntry
  | .dict entry => do
      let source := match (entry.lookup "source").getD .null with
        | .null => none
        | .str source => some source
        | other => some (priorities.str other)
      let version ← previousVersion ((entry.lookup "version").getD .null)
      return {
        source
        priority := (source.map priorities.priority).getD 0
        version
        value := (entry.lookup "value").getD .null }
  | _ => .ok {}

variable (upsert : PreferenceUpsert) (version : ℤ)

def newEntry : Value :=
  .dict [("value", upsert.preferenceValue), ("source", .str upsert.source),
    ("version", .int version)]

def storeEntry : Fields :=
  let versioned :=
    if ((profile.lookup "profile_schema_version").getD .null).truthy then profile
    else OrderedDict.set profile "profile_schema_version" (.int 1)
  OrderedDict.set versioned memoryPrefsKey
    (.dict (OrderedDict.set (preferencesOf versioned) upsert.preferenceKey
      (newEntry upsert version)))

/-- The branches of `upsert_user_preference_deterministic`, once the entry has been read. -/
def settleUpsert (row : Option UserMemoryProfileRow) (previous : PreviousEntry) :
    UserPreferenceUpsertResult × Option UserMemoryProfileRow :=
  let profile := getUserMemoryProfile row
  let kept := if previous.version = 0 then 1 else previous.version
  if entryOf profile upsert.preferenceKey = .null then
    (⟨true, 1, none, .inserted⟩, some (writeProfile row (storeEntry profile upsert 1)))
  else if upsert.ignoreIfUnchanged ∧ previous.value.equal upsert.preferenceValue then
    (⟨false, kept, previous.source, .unchanged⟩, row)
  else if priorities.priority upsert.source < previous.priority then
    (⟨false, kept, previous.source, .sourcePriorityDenied⟩, row)
  else
    (⟨true, previous.version + 1, previous.source, .updated⟩,
      some (writeProfile row (storeEntry profile upsert (previous.version + 1))))

/-- `upsert_user_preference_deterministic`, under the lock of the row. -/
def upsertUserPreferenceDeterministic (row : Option UserMemoryProfileRow) :
    Except MemoryError (UserPreferenceUpsertResult × Option UserMemoryProfileRow) := do
  let profile := getUserMemoryProfile row
  validateProfileSchemaVersion profile
  let previous ← readPrevious priorities (entryOf profile upsert.preferenceKey)
  return settleUpsert priorities upsert row previous

def applyUpsert (row : Option UserMemoryProfileRow) : Option UserMemoryProfileRow :=
  match upsertUserPreferenceDeterministic priorities upsert row with
  | .ok (_, after) => after
  | .error _ => row

/-! ## Merging -/

mutual

def mergeValue (current : Option Value) : Value → Value
  | .dict patch =>
    match current with
    | some (.dict fields) => .dict (deepMerge fields patch)
    | _ => .dict patch
  | value => value

def deepMerge (left : Fields) : List (String × Value) → Fields
  | [] => left
  | (key, value) :: rest =>
    deepMerge (OrderedDict.set left key (mergeValue (left.lookup key) value)) rest

end

/-! ## What is stored for a preference -/

/-- The entry stored for a preference; `null` if there is none. -/
def storedEntry (key : String) : Value := entryOf (getUserMemoryProfile row) key

theorem getUserMemoryProfile_writeProfile :
    getUserMemoryProfile (some (writeProfile row profile)) = profile := by
  cases row <;> rfl

theorem preferencesOf_set_of_ne {profile key val} (other : memoryPrefsKey ≠ key) :
    preferencesOf (OrderedDict.set profile key val) = preferencesOf profile := by
  rw [preferencesOf, preferencesOf, OrderedDict.lookup_set_of_ne _ _ other]

theorem preferencesOf_storeEntry : preferencesOf (storeEntry profile upsert version) =
      OrderedDict.set (preferencesOf profile) upsert.preferenceKey (newEntry upsert version) := by
  have versioned : preferencesOf (if ((profile.lookup "profile_schema_version").getD .null).truthy
      then profile else OrderedDict.set profile "profile_schema_version" (.int 1)) =
      preferencesOf profile := by
    split
    · rfl
    · exact preferencesOf_set_of_ne (by decide)
  rw [storeEntry, preferencesOf, OrderedDict.lookup_set, if_pos rfl]
  simp only [versioned]

theorem storedEntry_writeProfile (key : String) :
    storedEntry (some (writeProfile row (storeEntry (getUserMemoryProfile row) upsert version)))
        key =
      if key = upsert.preferenceKey then newEntry upsert version else storedEntry row key := by
  rw [storedEntry, getUserMemoryProfile_writeProfile, entryOf, preferencesOf_storeEntry,
    OrderedDict.lookup_set]
  split <;> rfl

theorem upsert_eq_ok {prios} {upsert : PreferenceUpsert} {row out}
    (gave : upsertUserPreferenceDeterministic prios upsert row = .ok out) :
    ∃ prev, readPrevious prios (storedEntry row upsert.preferenceKey) = .ok prev ∧
      settleUpsert prios upsert row prev = out := by
  obtain ⟨-, -, rest⟩ := Program.except_bind_eq_ok.mp gave
  obtain ⟨prev, read, settled⟩ := Program.except_bind_eq_ok.mp rest
  exact ⟨prev, read, Except.ok.inj settled⟩

end AgentOrchestration.Memory
