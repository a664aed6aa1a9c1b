import AgentOrchestration.Conversation.ConversationService

/-!
# The calls of a conversation turn

Which calls the parts of a turn make, whatever they are answered. Apart from the stream of the
model's events, nothing between the acquisition of the idempotency key and the turn's result
concerns the queue or a key of the idempotency service.
-/

namespace AgentOrchestration.Conversation

set_option autoImplicit false

/-! ## Keys -/

/-- The key a command is about. -/
def RedisCommand.key : RedisCommand → String
  | get key => key
  | setIfNotExists key _ => key
  | set key _ => key
  | delete key => key
  | incrWithTtl key => key
  | incrByFloatWithTtl key _ => key

/-- A key under which the provider remembers something of a conversation. -/
def CacheKey (key : String) : Prop :=
  ∃ conversationKey, key = conversationCacheKey conversationKey ∨
    key = previousResponseKey conversationKey ∨ key = turnsKey conversationKey ∨
    key = tokensKey conversationKey

variable (conversationKey : String)

theorem cacheKey_conversationCacheKey : CacheKey (conversationCacheKey conversationKey) :=
  ⟨conversationKey, .inl rfl⟩

theorem cacheKey_previousResponseKey : CacheKey (previousResponseKey conversationKey) :=
  ⟨conversationKey, .inr (.inl rfl)⟩

theorem cacheKey_turnsKey : CacheKey (turnsKey conversationKey) :=
  ⟨conversationKey, .inr (.inr (.inl rfl))⟩

theorem cacheKey_tokensKey : CacheKey (tokensKey conversationKey) :=
  ⟨conversationKey, .inr (.inr (.inr rfl))⟩

/-- Keys that differ in a character are different, whatever follows. -/
theorem append_ne_append {first second : String} (shared) {c d cs ds}
    (startsFirst : first.toList = shared ++ c :: cs)
    (startsSecond : second.toList = shared ++ d :: ds) (ne : c ≠ d) (x y) :
    first ++ x ≠ second ++ y := by
  intro eq
  have characters := congrArg String.toList eq
  rw [String.toList_append, String.toList_append, startsFirst, startsSecond, List.append_assoc,
    List.append_assoc] at characters
  exact ne (List.cons.inj (List.append_cancel_left characters)).1

/-- The key of the idempotency record is none of the provider's. -/
theorem idemStoreKey_not_cacheKey (turn : TurnCall) : ¬ CacheKey turn.idemStoreKey := by
  have apart : ∀ {second : String} {d : Char} {ds : List Char} (y : String),
      second.toList = d :: ds → 'i' ≠ d → turn.idemStoreKey ≠ second ++ y := by
    intro second d ds y starts ne
    unfold TurnCall.idemStoreKey
    simp only [String.append_assoc]
    exact append_ne_append [] rfl starts ne _ y
  rintro ⟨convKey, eq | eq | eq | eq⟩
  · exact apart convKey rfl (by decide) eq
  · exact apart convKey rfl (by decide) eq
  · exact apart convKey rfl (by decide) eq
  · exact apart convKey rfl (by decide) eq

/-! ## Kinds of calls -/

/-- A counter of the growth of a conversation. -/
def GrowthKey (key : String) : Prop :=
  ∃ conversationKey, key = turnsKey conversationKey ∨ key = tokensKey conversationKey

/-- Calls that concern neither the client nor the idempotency service nor the provider. -/
def Plain : Await → Prop
  | .put _ => False
  | .redis (.get key) => CacheKey key
  | .redis (.setIfNotExists _ _) => False
  | .redis (.set _ _) => False
  | .redis (.delete key) => CacheKey key
  | .redis (.incrWithTtl key) => GrowthKey key
  | .redis (.incrByFloatWithTtl key _) => GrowthKey key
  | .updateInteractionResult _ _ status _ => status = .success
  | .conversationsCreate _ _ => False
  | .responsesCreate _ => False
  | _ => True

/-- Calls that neither the client nor the idempotency service nor the model sees. -/
def Offstage : Await → Prop
  | .redis (.set key _) => CacheKey key
  | .conversationsCreate _ _ => True
  | call => Plain call

variable {call : Await}

theorem offstage_of_plain (plain : Plain call) : Offstage call := by
  cases call with
  | redis cmd =>
    cases cmd with
    | set key data => exact plain.elim
    | _ => exact plain
  | conversationsCreate convKey seedText => exact plain.elim
  | _ => exact plain

/-- The calls of a turn between its acquisition of the key and its result. -/
def Inner : Await → Prop
  | .put item => ∃ event, item = some event ∧ event.eventType ≠ .done
  | .responsesCreate _ => True
  | call => Offstage call

theorem inner_of_offstage (offstage : Offstage call) : Inner call := by
  cases call with
  | put item => exact offstage.elim
  | responsesCreate payload => trivial
  | _ => exact offstage

theorem inner_of_plain (plain : Plain call) : Inner call :=
  inner_of_offstage (offstage_of_plain plain)

variable {P : Await → Prop}

/-- A single call is of a kind if the call is. -/
theorem only_await (holds : P call) : (await call).Only P := .await holds

theorem only_redisDelete {key : String} (cache : CacheKey key) : (redisDelete key).Only Plain :=
  only_await cache

theorem only_redisSet {key : String} {data : Value} (cache : CacheKey key) :
    (redisSet key data).Only Offstage :=
  only_await cache

theorem only_put {ε : Type} {item} (holds : P (.put item)) : (put item : TurnTalk ε Unit).Only P :=
  ⟨holds, fun _ => trivial⟩

/-- To note the progress of a part changes none of its calls. -/
theorem only_during {α : Type} {progress : Progress} {talk : Turn α} (only : talk.Only P) :
    (during progress talk).Only P :=
  only.mapError

/-! ## The provider -/

/-- To count a turn increments the two counters of the conversation. -/
theorem only_recordTurn (libs policy convKey text) :
    (recordTurn libs policy convKey text).Only Plain := by
  refine .bind (fun out => ?_) (.attempt ?_)
  · cases out <;> trivial
  · refine .bind (fun turns => .bind (fun tokens => trivial) ?_) ?_
    · exact only_await ⟨convKey, .inr rfl⟩
    · exact only_await ⟨convKey, .inl rfl⟩

/-- To reset the growth deletes the counters. -/
theorem only_resetGrowth : (resetGrowth conversationKey).Only Plain := by
  refine .bind (fun _ => trivial) (.attempt (.bind (fun _ => ?_) ?_))
  · exact only_redisDelete (cacheKey_tokensKey conversationKey)
  · exact only_redisDelete (cacheKey_turnsKey conversationKey)

theorem only_commitRollover (policy tenantId convKey sessionId summaryText growth) :
    (commitRollover policy tenantId convKey sessionId summaryText growth).Only Plain :=
  .bind (fun _ => only_resetGrowth convKey) (only_await trivial)

section

variable (continuity : Option ConversationContinuityPolicy) (conversationKey : String)

theorem only_bindProviderConversation (conversationId seedText) :
    (bindProviderConversation continuity conversationKey conversationId seedText).Only Plain :=
  .ite (only_await trivial) trivial

/-- A new conversation is created, remembered and bound. -/
theorem only_createConversation (seedText : Option String) :
    (createConversation continuity conversationKey seedText).Only Offstage := by
  refine .bind (fun conversationId => .bind (fun _ => .bind (fun _ => trivial) ?_) ?_) ?_
  · exact (only_bindProviderConversation continuity conversationKey conversationId seedText).mono
      fun _ => offstage_of_plain
  · exact only_redisSet (cacheKey_conversationCacheKey conversationKey)
  · exact only_await trivial

/-- What is carried forward is only read. -/
theorem only_carriedForward : (carriedForward continuity conversationKey).Only Plain := by
  cases continuity with
  | none => trivial
  | some policy =>
    refine .bind (fun out => ?_) (.attempt (only_await trivial))
    cases out <;> trivial

/-- The conversation is looked up, or seeded and created. -/
theorem only_getOrCreateConversationId :
    (getOrCreateConversationId continuity conversationKey).Only Offstage := by
  refine .bind (fun cached => .ite trivial (.bind (fun seedText => ?_) ?_)) ?_
  · exact only_createConversation continuity conversationKey seedText
  · exact (only_carriedForward continuity conversationKey).mono fun _ => offstage_of_plain
  · exact only_await (cacheKey_conversationCacheKey conversationKey)

variable (tenantId sessionId : Uuid) (summaryText : String) (growth : ConversationGrowth)

theorem only_commitCarryForward :
    (commitCarryForward continuity tenantId conversationKey sessionId summaryText growth).Only
      Plain := by
  cases continuity with
  | none => trivial
  | some policy => exact only_commitRollover policy tenantId conversationKey sessionId _ growth

/-- A roll-over commits the summary, forgets the last response and creates a conversation. -/
theorem only_rollOverConversation :
    (rollOverConversation continuity tenantId conversationKey sessionId summaryText growth).Only
      Offstage := by
  refine .bind (fun _ => .bind (fun _ => ?_) ?_) ?_
  · exact only_createConversation continuity conversationKey _
  · exact (only_redisDelete (cacheKey_previousResponseKey conversationKey)).mono
      fun _ => offstage_of_plain
  · exact (only_commitCarryForward continuity conversationKey tenantId sessionId _ growth).mono
      fun _ => offstage_of_plain

end

theorem only_compileStreamingPayload (continuity req) :
    (compileStreamingPayload continuity req).Only Offstage := by
  refine .bind (fun _ => trivial) ?_
  unfold conversationOf
  cases req.providerKey with
  | none => trivial
  | some convKey =>
    exact .bind (fun _ => trivial) (only_getOrCreateConversationId continuity convKey)

/-- The last response is remembered under a key of the conversation. -/
theorem only_rememberResponse (req resp) : (rememberResponse req resp).Only Offstage := by
  unfold rememberResponse
  split
  · exact only_redisSet (cacheKey_previousResponseKey _)
  · trivial

section

variable {τ : Type} (libraries : TurnLibraries) {onOpenaiEvent : Fields → τ → Turn τ}

/-- Events that are delivered make the calls of the callback; by induction on the events. -/
theorem only_deliver (callback : ∀ event caller, (onOpenaiEvent event caller).Only P) :
    ∀ (events : List StreamEvent) (streamed : Streamed τ),
      (deliver libraries onOpenaiEvent events streamed).Only P := by
  intro events
  induction events with
  | nil => exact fun _ => trivial
  | cons event rest ih =>
    exact fun streamed => .bind (fun caller => ih _) (callback event.payload streamed.caller)

/-- So does the consumption of a stream, which may be opened again; by induction on the tries. -/
theorem only_consumeResponseStream (payload)
    (callback : ∀ event caller, (onOpenaiEvent event caller).Only P)
    (streams : P (.responsesCreate payload)) :
    ∀ (tries : ℕ) (streamed : Streamed τ),
      (consumeResponseStream libraries payload onOpenaiEvent tries streamed).Only P := by
  intro tries
  induction tries with
  | zero => exact fun _ => trivial
  | succ tries ih =>
    refine fun streamed => ⟨streams, fun answer => ?_⟩
    cases answer with
    | error err => exact .ite trivial (ih streamed)
    | ok attempt =>
      refine .bind (fun streamed => ?_) (only_deliver libraries callback attempt.events streamed)
      cases attempt.failure with
      | none => trivial
      | some err => exact .ite trivial (ih streamed)

end

/-! ## The turn -/

section

variable (libraries : TurnLibraries) (continuity : Option ConversationContinuityPolicy)
  (turn : TurnCall)

/-- A session is read and, if it is new, created. -/
theorem only_createSession (sessionId tenantId : Uuid) (userId : String) :
    (createSession sessionId tenantId userId).Only Plain := by
  refine .bind (fun old => ?_) (only_await trivial)
  cases old with
  | none => exact only_await trivial
  | some row => exact .ite trivial trivial

/-- The agent, its active version and that version's row are read. -/
theorem only_activeVersion (tenantId agentId : Uuid) :
    (activeVersion tenantId agentId).Only Plain := by
  refine .bind (fun agent => ?_) (only_await trivial)
  cases agent with
  | none => trivial
  | some agent =>
    refine .ite trivial (.bind (fun versionId => ?_) (only_await trivial))
    cases versionId with
    | none => trivial
    | some versionId =>
      refine .bind (fun version => ?_) (only_await trivial)
      cases version <;> trivial

theorem only_selectedPrompt (tenantId : Uuid) (userPromptId : Option Uuid) :
    (selectedPrompt tenantId userPromptId).Only Plain := by
  cases userPromptId with
  | none => trivial
  | some userPromptId =>
    refine .bind (fun found => ?_) (only_await trivial)
    cases found <;> trivial

/-- To assemble a turn reads the version and the prompt. -/
theorem only_assemble (modelAlias convKey mcpTools history) :
    (assemble turn modelAlias convKey mcpTools history).Only Plain := by
  refine .bind (fun version => .ite trivial (.bind (fun selected => trivial) ?_)) ?_
  · exact only_selectedPrompt turn.tenantId turn.request.userPromptId
  · exact only_activeVersion turn.tenantId turn.request.agentId

/-- To record the usage estimates a cost and appends it. -/
theorem only_recordTurnUsage (model : String) (res : LLMResult) :
    (recordTurnUsage libraries turn model res).Only Plain := by
  refine .bind (fun _ => trivial) (.attempt (.bind (fun cost => only_await trivial) ?_))
  exact .ite (only_await trivial) trivial

/-- To bound the growth counts the turn and may roll the conversation over. -/
theorem only_boundConversationGrowth (convKey turnText) :
    (boundConversationGrowth libraries continuity turn convKey turnText).Only Offstage := by
  unfold boundConversationGrowth
  split
  · rename_i policy key _
    refine .bind (fun _ => trivial) (.attempt (.bind (fun decision => .ite ?_ trivial) ?_))
    · refine .bind (fun summaryText => .bind (fun _ => trivial) ?_) ?_
      · exact only_rollOverConversation (some policy) key turn.tenantId turn.sessionId summaryText _
      · exact .bind (fun _ => trivial) (only_await trivial)
    · exact (only_recordTurn libraries policy key turnText).mono fun _ => offstage_of_plain
  · trivial

/-- For an event of the model the client is sent events, none of them the last. -/
theorem only_onOpenaiEvent (puts : ∀ event : ConversationEvent, event.eventType ≠ .done →
      P (.put (some event))) (event : Fields) (finalText : String) :
    (onOpenaiEvent libraries turn event finalText).Only P := by
  have put_then : ∀ (event : ConversationEvent) (text : String), event.eventType ≠ .done →
      (put (some event) >>= fun _ => pure text : Turn String).Only P :=
    fun event text notDone => .bind (fun _ => trivial) (only_put (puts event notDone))
  refine .ite (.ite trivial (put_then _ _ ?_)) (.ite (put_then _ _ ?_) (.ite (put_then _ _ ?_)
    (.ite (put_then _ _ ?_) trivial))) <;> exact SSEEventType.noConfusion

/-- An inference compiles the payload, consumes the stream and remembers the response. -/
theorem only_inferStreamingRequest {τ : Type} {onOpenaiEvent : Fields → τ → Turn τ}
    (callback : ∀ event caller, (onOpenaiEvent event caller).Only Inner)
    (req : OpenAIStreamingRequest) (caller : τ) :
    (inferStreamingRequest libraries continuity req onOpenaiEvent caller).Only Inner := by
  refine .bind (fun payload => .bind (fun streamed => ?_) (.mapError ?_)) ?_
  · cases streamed.response with
    | none => trivial
    | some resp =>
      exact .bind (fun _ => trivial) ((only_rememberResponse req resp).mono fun _ =>
        inner_of_offstage)
  · exact only_consumeResponseStream libraries payload callback trivial _ _
  · exact (only_compileStreamingPayload continuity req).mono fun _ => inner_of_offstage

/-- A conversation infers, records its usage and bounds its growth. -/
theorem only_converse (spec : ConversationTurnSpec) :
    (converse libraries continuity turn spec).Only Inner := by
  refine .bind (fun answered => .bind (fun _ => .bind (fun _ => trivial) ?_) ?_) ?_
  · exact (only_boundConversationGrowth libraries continuity turn _ _).mono
      fun _ => inner_of_offstage
  · exact (only_recordTurnUsage libraries turn _ answered.1).mono fun _ => inner_of_plain
  · exact only_inferStreamingRequest libraries continuity
      (only_onOpenaiEvent libraries turn fun event notDone => ⟨event, rfl, notDone⟩) _ ""

/-- **Between the acquisition of its key and its result a turn makes inner calls only.** -/
theorem only_runTurn : (runTurn libraries continuity turn).Only Inner := by
  have plain : ∀ {α : Type} {talk : Turn α} (progress : Progress), talk.Only Plain →
      (during progress talk).Only Inner :=
    fun progress only => only_during (only.mono fun _ => inner_of_plain)
  unfold runTurn
  cases parseMessageHistory libraries turn.request.metadata with
  | error msg => trivial
  | ok history =>
    refine .bind (fun _ => .bind (fun interactionId => .bind (fun spec => .bind
      (fun finalText => .bind (fun _ => trivial) ?_) ?_) ?_) ?_) ?_
    · exact plain _ (only_await rfl)
    · exact only_during (only_converse libraries continuity turn spec)
    · exact plain _ (only_assemble turn _ _ _ history)
    · exact plain _ (only_await trivial)
    · exact plain _ (only_createSession _ _ _)

end

end AgentOrchestration.Conversation
