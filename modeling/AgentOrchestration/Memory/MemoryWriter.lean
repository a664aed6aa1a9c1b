import AgentOrchestration.Library.LabelledSystem
import AgentOrchestration.Memory.UserMemoryProfile

/-!
# The memory writer

Model of `MemoryWriteService.write_memory_item` for one tenant and user. The policy decides what an
item may write: a preference, which goes through the priority-checked upsert, a patch of the
profile, which is read, merged and overwritten, or a document.

Each repository call on the profile is one step of a `MemoryCall`; calls interleave in a
`MemorySystem`. `performed` keeps the upserts and merges in the order in which they were written.
-/

namespace AgentOrchestration.Memory

set_option autoImplicit false

/-! ## Policies and items -/

inductive MemoryWriteTarget where
  | userPreference
  | userMemoryProfile
  | userMemoryVector
  deriving DecidableEq

structure PreferenceUpdatePolicy where
  fixedKey : Option String := none
  allowedKeys : List String := []
  ignoreIfUnchanged : Bool := true

/-- `AllowedSchema`; `allowFields` is the list under `allow_fields["allowed"]`, if it is one. -/
structure AllowedSchema where
  schemaId : String
  maxItemBytes : Option ℤ := none
  allowFields : Option (List String) := none
  writeTargets : List MemoryWriteTarget := []
  preferenceUpdate : Option PreferenceUpdatePolicy := none

structure ConsentDefinition where
  required : Bool := false
  preferenceKey : String := "memory.consent"
  requiredForSources : List MemoryPolicySource := []

structure MemoryPolicyDefinition where
  retentionTtlSeconds : ℤ := 2592000
  consent : ConsentDefinition := {}
  allowedSources : List MemoryPolicySource := []
  allowedSchemas : List AllowedSchema := []

structure UserMemoryItem where
  schemaId : String
  data : Fields
  source : MemoryPolicySource

/-- What the writer is built with. -/
structure MemoryLibraries where
  priorities : SourcePriorities
  /-- `len(json.dumps(payload).encode())`. -/
  jsonSize : Fields → ℤ

/-! ## `enforce_write` -/

/-- `_preferences_dict_from_profile`, at one key. -/
def preferenceValue (profile : Fields) (key : String) : Value :=
  match (preferencesOf profile).lookup key with
  | none => .null
  | some (.dict entry) => (entry.lookup "value").getD (.dict entry)
  | some entry => entry

def isConsentGranted : Value → Bool
  | .bool granted => granted
  | .dict consent =>
    match consent.lookup "granted", consent.lookup "enabled" with
    | some (.bool granted), _ => granted
    | _, some (.bool enabled) => enabled
    | _, _ => false
  | _ => false

variable (definition : MemoryPolicyDefinition)

def validateAllowedSchema (schemaId : String) : Except MemoryError (Option AllowedSchema) :=
  if definition.allowedSchemas = [] then .ok none
  else
    match definition.allowedSchemas.find? fun schema => schema.schemaId = schemaId with
    | some schema => .ok (some schema)
    | none => .error .memorySchemaNotAllowed

variable (libraries : MemoryLibraries)

def validateSchemaPayload (schema : Option AllowedSchema) (payload : Fields) :
    Except MemoryError Unit :=
  match schema with
  | none => .ok ()
  | some schema =>
    if schema.maxItemBytes.any fun limit => limit < libraries.jsonSize payload then
      .error .memoryItemTooLarge
    else if schema.allowFields.any fun allowed =>
        (OrderedDict.keys payload).any fun field => field ∉ allowed then
      .error .memoryItemFieldsNotAllowed
    else .ok ()

/-- `_enforce_consent`, on the profile it reads. -/
def enforceConsent (source : MemoryPolicySource) (profile : Fields) : Except MemoryError Unit :=
  if definition.consent.required ∨ source ∈ definition.consent.requiredForSources then do
    validateProfileSchemaVersion profile
    if isConsentGranted (preferenceValue profile definition.consent.preferenceKey) then .ok ()
    else .error .memoryConsentNotGranted
  else .ok ()

def enforceWrite (definition : Option MemoryPolicyDefinition) (item : UserMemoryItem)
    (profile : Fields) : Except MemoryError Unit :=
  match definition with
  | none =>
    if item.source = .inferredLlm then .error .memoryPolicyRequiredForInferredMemory else .ok ()
  | some definition =>
    if definition.allowedSources ≠ [] ∧ item.source ∉ definition.allowedSources then
      .error .memorySourceNotAllowed
    else do
      let schema ← validateAllowedSchema definition item.schemaId
      validateSchemaPayload libraries schema item.data
      enforceConsent definition item.source profile
      if definition.retentionTtlSeconds ≤ 0 then .error .invalidMemoryPolicyTtl else .ok ()

/-! ## What is written -/

section

variable (definition : Option MemoryPolicyDefinition) (item : UserMemoryItem)

def findAllowedSchema : Option AllowedSchema :=
  ((definition.map MemoryPolicyDefinition.allowedSchemas).getD []).find? fun schema =>
    schema.schemaId = item.schemaId

/-- `_resolve_write_targets`, with the document store as the default. -/
def resolveWriteTargets : List MemoryWriteTarget :=
  match findAllowedSchema definition item with
  | some schema => if schema.writeTargets = [] then [.userMemoryVector] else schema.writeTargets
  | none => [.userMemoryVector]

/-- A key without blanks at its ends, unless nothing is left of it. -/
def normalizedKey (key : String) : Option String :=
  (some (String.ofList (strip key))).filter (· ≠ "")

def extractPayloadPreferenceKey : Option String :=
  (((item.data.lookup "preference_key").getD .null).asStr?).bind normalizedKey

def derivePreferenceKey (preferencePolicy : Option PreferenceUpdatePolicy) : Option String :=
  match preferencePolicy with
  | none => none
  | some policy =>
    match policy.fixedKey with
    | some fixedKey => normalizedKey fixedKey
    | none => (extractPayloadPreferenceKey item).filter (· ∈ policy.allowedKeys)

def plannedUpsert : Option PreferenceUpsert :=
  if .userPreference ∈ resolveWriteTargets definition item then
    let preferencePolicy := (findAllowedSchema definition item).bind AllowedSchema.preferenceUpdate
    match derivePreferenceKey item preferencePolicy, item.data.lookup "preference_value" with
    | some key, some value =>
      some ⟨key, value, item.source.text,
        (preferencePolicy.map PreferenceUpdatePolicy.ignoreIfUnchanged).getD true⟩
    | _, _ => none
  else none

def plannedPatch : Option (Except MemoryError Fields) :=
  if .userMemoryProfile ∈ resolveWriteTargets definition item then
    match item.data.lookup "profile_patch" with
    | some (.dict patch) => some (.ok patch)
    | _ => some (.error .memoryProfilePatchRequired)
  else none

end

/-! ## Calls -/

/-- How far a call has come. -/
inductive MemoryStage where
  /-- The policy is enforced next. -/
  | enforcing
  | upserting (upsert : PreferenceUpsert)
  | reading (patch : Fields)
  /-- The profile was read and is overwritten next. -/
  | writing (patch current : Fields)
  | finished

/-- A call of `write_memory_item`, with the policy that was resolved for it. -/
structure MemoryCall where
  definition : Option MemoryPolicyDefinition
  item : UserMemoryItem
  stage : MemoryStage

/-- What a call does to the profile. -/
inductive MemoryOperation where
  | upsert (upsert : PreferenceUpsert)
  | merge (patch : Fields)
  deriving DecidableEq

variable (priorities : SourcePriorities)

def MemoryOperation.apply (row : Option UserMemoryProfileRow) : MemoryOperation →
    Option UserMemoryProfileRow
  | .upsert call => applyUpsert priorities call row
  | .merge patch => upsertUserMemoryProfile (deepMerge (getUserMemoryProfile row) patch) row

def replayOperations (operations : List MemoryOperation) (row : Option UserMemoryProfileRow) :
    Option UserMemoryProfileRow :=
  operations.foldl (MemoryOperation.apply priorities) row

variable (call : MemoryCall)

def MemoryCall.profileStage : MemoryStage :=
  match plannedPatch call.definition call.item with
  | some (.ok patch) => .reading patch
  | some (.error _) => .finished
  | none => .finished

def MemoryCall.firstStage : MemoryStage :=
  match plannedUpsert call.definition call.item with
  | some upsert => .upserting upsert
  | none => call.profileStage

structure MemorySystem where
  row : Option UserMemoryProfileRow
  calls : List MemoryCall
  performed : List MemoryOperation

/-- What happens. -/
inductive MemoryAction where
  | start (definition : Option MemoryPolicyDefinition) (item : UserMemoryItem)
  /-- A call makes its next repository call. -/
  | advance (index : ℕ)
  /-- Something that a call awaits raises. -/
  | fail (index : ℕ)

def MemorySystem.moveTo (system : MemorySystem) (index : ℕ) (call : MemoryCall)
    (stage : MemoryStage) : MemorySystem :=
  { system with calls := system.calls.set index { call with stage } }

variable (libraries : MemoryLibraries)

def MemorySystem.advance (system : MemorySystem) (index : ℕ) (call : MemoryCall) :
    Option MemorySystem :=
  match call.stage with
  | .enforcing =>
    match enforceWrite libraries call.definition call.item (getUserMemoryProfile system.row) with
    | .ok _ => some (system.moveTo index call call.firstStage)
    | .error _ => some (system.moveTo index call .finished)
  | .upserting upsert =>
    let later : MemorySystem := { system with performed := system.performed ++ [.upsert upsert] }
    match upsertUserPreferenceDeterministic libraries.priorities upsert system.row with
    | .ok (_, row) =>
      some (MemorySystem.moveTo { later with row } index call call.profileStage)
    | .error _ => some (later.moveTo index call .finished)
  | .reading patch =>
    some (system.moveTo index call (.writing patch (getUserMemoryProfile system.row)))
  | .writing patch current =>
    let later : MemorySystem := { system with
      row := upsertUserMemoryProfile (deepMerge current patch) system.row
      performed := system.performed ++ [.merge patch] }
    some (later.moveTo index call .finished)
  | .finished => none

def memoryStep (system : MemorySystem) : MemoryAction → Option MemorySystem
  | .start definition item =>
    some { system with calls := system.calls ++ [⟨definition, item, .enforcing⟩] }
  | .advance index => system.calls[index]?.bind (system.advance libraries index)
  | .fail index => system.calls[index]?.map fun call => system.moveTo index call .finished

end AgentOrchestration.Memory
