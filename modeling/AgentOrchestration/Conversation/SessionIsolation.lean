import AgentOrchestration.Conversation.TurnSystem

/-!
# Isolation of provider conversations

A turn continues the provider's conversation of its session. The session id is chosen by the
client, and so is the key of the conversation; what keeps tenants and users apart is that a turn
opens its session first, and that a session belongs to the one who opened it first.
-/

namespace AgentOrchestration.Conversation

set_option autoImplicit false

open Dialogue (Talk Truthful)
open LabelledSystem (trace)

/-! ## Proper calls -/

variable (turn : TurnCall) (h : List Reply)

def Owned : Prop :=
  (∃ row : SessionRow, row.tenantId = turn.tenantId ∧ row.userId = turn.endUserId ∧
    ⟨.findSession turn.sessionId, .ok (some row)⟩ ∈ h) ∨
  ⟨.insertSession ⟨turn.sessionId, turn.tenantId, turn.endUserId⟩, .ok ()⟩ ∈ h

variable (conversationKey : String) (conversation : Value)

def Created : Prop :=
  ∃ (seedText : Option String) (id : String),
    ⟨.conversationsCreate conversationKey seedText, .ok id⟩ ∈ h ∧ conversation = .str id

def Resolved : Prop :=
  (conversation.truthy = true ∧
    ⟨.redis (.get (conversationCacheKey conversationKey)), .ok conversation⟩ ∈ h) ∨
  Created h conversationKey conversation

/-- What a turn that has had the replies `h` may do to sessions and conversations. -/
def Proper : Await → Prop
  | .redis (.set key data) =>
    ∀ conversationKey, key = conversationCacheKey conversationKey → Created h conversationKey data
  | .redis (.setIfNotExists key _) => ∀ conversationKey, key ≠ conversationCacheKey conversationKey
  | .redis (.incrWithTtl key) => ∀ conversationKey, key ≠ conversationCacheKey conversationKey
  | .redis (.incrByFloatWithTtl key _) =>
    ∀ conversationKey, key ≠ conversationCacheKey conversationKey
  | .conversationsCreate conversationKey _ => conversationKey = turn.sessionId.text ∧ Owned turn h
  | .responsesCreate payload =>
    ∀ conversation, payload.conversation = some conversation →
      Owned turn h ∧ Resolved h turn.sessionId.text conversation
  | _ => True

section

variable {turn : TurnCall} {h h' : List Reply} {conversationKey : String} {conversation : Value}

theorem Owned.mono (owned : Owned turn h) (more : h ⊆ h') : Owned turn h' := by
  rcases owned with ⟨row, tenant, user, found⟩ | made
  · exact .inl ⟨row, tenant, user, more found⟩
  · exact .inr (more made)

theorem Created.mono (made : Created h conversationKey conversation) (more : h ⊆ h') :
    Created h' conversationKey conversation := by
  obtain ⟨seedText, id, reply, eq⟩ := made
  exact ⟨seedText, id, more reply, eq⟩

theorem Resolved.mono (got : Resolved h conversationKey conversation) (more : h ⊆ h') :
    Resolved h' conversationKey conversation := by
  rcases got with ⟨truthy, found⟩ | made
  · exact .inl ⟨truthy, more found⟩
  · exact .inr (made.mono more)

end

/-! ## Keys -/

theorem conversationCacheKey_injective : Function.Injective conversationCacheKey := by
  intro first second eq
  have characters := congrArg String.toList eq
  unfold conversationCacheKey at characters
  rw [String.toList_append, String.toList_append] at characters
  exact String.toList_injective (List.append_cancel_left characters)

theorem growthKey_ne {key} (growth : GrowthKey key) (convKey : String) :
    key ≠ conversationCacheKey convKey := by
  obtain ⟨other, rfl | rfl⟩ := growth
  · exact append_ne_append [] rfl rfl (by decide) other convKey
  · exact append_ne_append [] rfl rfl (by decide) other convKey

theorem previousResponseKey_ne (other convKey : String) :
    previousResponseKey other ≠ conversationCacheKey convKey :=
  append_ne_append ['o', 'p', 'e', 'n', 'a', 'i', ':'] rfl rfl (by decide) other convKey

theorem idemStoreKey_ne : turn.idemStoreKey ≠ conversationCacheKey conversationKey := by
  intro eq
  exact idemStoreKey_not_cacheKey turn (eq ▸ cacheKey_conversationCacheKey conversationKey)

/-! ## Every call of a turn is proper -/

abbrev Fact := Dialogue.Known Await.Answer TurnError

section

variable (turn : TurnCall) (conversation : Value)

def isOwned : Fact := ⟨Owned turn, fun h _ owned => owned.mono (List.subset_append_left h _)⟩

def isCreated : Fact :=
  ⟨fun h => Created h turn.sessionId.text conversation,
    fun h _ made => made.mono (List.subset_append_left h _)⟩

def isResolved : Fact :=
  ⟨fun h => Resolved h turn.sessionId.text conversation,
    fun h _ got => got.mono (List.subset_append_left h _)⟩

/-- The conversation, if there is one, was found or created for the session of the turn. -/
def continues (conversation : Option Value) : Fact :=
  ⟨fun h => ∀ conv, conversation = some conv → (isResolved turn conv).holds h,
    fun h reply got conv eq => (isResolved turn conv).lasts h reply (got conv eq)⟩

end

def Harmless (call : Await) : Prop := ∀ h, Proper turn h call

section

variable (libraries : TurnLibraries) (continuity : Option ConversationContinuityPolicy)
  {turn : TurnCall}

theorem harmless_of_plain (call : Await) (plain : Plain call) : Harmless turn call := by
  intro h
  cases call with
  | redis cmd =>
    cases cmd with
    | setIfNotExists key data | set key data => exact plain.elim
    | incrWithTtl key | incrByFloatWithTtl key amount => exact growthKey_ne plain
    | _ => trivial
  | conversationsCreate convKey seedText | responsesCreate payload => exact plain.elim
  | _ => trivial

theorem harmless_set {key data} (apart : ∀ convKey, key ≠ conversationCacheKey convKey) :
    Harmless turn (.redis (.set key data)) :=
  fun _ convKey eq => absurd eq (apart convKey)

section

variable {I : Fact} {ε α : Type} {talk : TurnTalk ε α}

theorem tells_harmless (only : talk.Only (Harmless turn)) : talk.Tells (Proper turn) I :=
  only.tells fun h _ _ harmless => harmless h

theorem tells_plain (only : talk.Only Plain) : talk.Tells (Proper turn) I :=
  tells_harmless (only.mono harmless_of_plain)

theorem tells_pure (val : α) : (pure val : TurnTalk ε α).Tells (Proper turn) I :=
  Talk.tells_done fun _ _ => trivial

end

/-! ### Conversations -/

theorem tells_createConversation (seedText : Option String) :
    (createConversation continuity turn.sessionId.text seedText).Tells (Proper turn) (isOwned turn)
      (isCreated turn) := by
  refine (Talk.tells_await fun h owned => ⟨rfl, owned⟩).bind fun id => .andThen
    (Talk.tells_await ?_).forget fun _ =>
      .andThen (tells_plain (only_bindProviderConversation continuity _ id seedText))
    fun _ => Talk.tells_done fun h known => ⟨_, id, known.2, rfl⟩
  intro h known convKey eq
  rw [← conversationCacheKey_injective eq]
  exact ⟨_, id, known.2, rfl⟩

theorem tells_getOrCreateConversationId :
    (getOrCreateConversationId continuity turn.sessionId.text).Tells (Proper turn) (isOwned turn)
      (isResolved turn) := by
  refine (Talk.tells_await fun _ _ => trivial).bind fun cached => ?_
  split
  · rename_i truthy
    exact Talk.tells_done fun h known => .inl ⟨truthy, known.2⟩
  · refine .andThen (tells_plain (only_carriedForward continuity turn.sessionId.text))
      fun seedText => ?_
    exact fun h known => (tells_createConversation continuity seedText h known.1).imp
      fun _ _ made conv eq => .inr (made conv eq)

/-- A request whose provider conversation, if it has one, is that of the turn's session. -/
def OfSession (turn : TurnCall) (request : OpenAIStreamingRequest) : Prop :=
  ∀ conversationKey ∈ request.conversationKey, conversationKey = turn.sessionId.text

variable {request : OpenAIStreamingRequest}

theorem OfSession.providerKey (ofSession : OfSession turn request) {convKey}
    (found : request.providerKey = some convKey) : convKey = turn.sessionId.text := by
  unfold OpenAIStreamingRequest.providerKey at found
  split at found
  · exact ofSession convKey (Option.filter_eq_some_iff.mp found).1
  · cases found

theorem tells_compileStreamingPayload (ofSession : OfSession turn request) :
    (compileStreamingPayload continuity request).Tells (Proper turn) (isOwned turn)
      fun payload => continues turn payload.conversation := by
  refine .bind (G := continues turn) ?_ fun conv => Talk.tells_done fun h known => known.2
  unfold conversationOf
  cases found : request.providerKey with
  | none => exact Talk.tells_done fun h _ conv isSome => nomatch isSome
  | some convKey =>
    cases ofSession.providerKey found
    refine (tells_getOrCreateConversationId continuity).bind fun id => Talk.tells_done ?_
    intro h known conv isSome
    cases isSome
    exact known.2

theorem tells_consumeResponseStream (payload : StreamingPayload) (tries streamed) :
    (consumeResponseStream libraries payload (onOpenaiEvent libraries turn) tries streamed).Tells
      (Proper turn) ((isOwned turn).and (continues turn payload.conversation)) := by
  refine Talk.Only.tells (P := fun call => call = .responsesCreate payload ∨
    ∃ item, call = .put item) ?_ ?_
  · rintro h call known (rfl | ⟨item, rfl⟩)
    · exact fun conv eq => ⟨known.1, known.2 conv eq⟩
    · trivial
  · exact only_consumeResponseStream libraries payload
      (only_onOpenaiEvent libraries turn fun event _ => .inr ⟨some event, rfl⟩) (.inl rfl) tries
      streamed

theorem tells_inferStreamingRequest (ofSession : OfSession turn request) :
    (inferStreamingRequest libraries continuity request (onOpenaiEvent libraries turn) "").Tells
      (Proper turn) (isOwned turn) := by
  refine (tells_compileStreamingPayload continuity ofSession).bind fun payload =>
    (tells_consumeResponseStream libraries payload _ _).mapError.andThen fun streamed => ?_
  cases streamed.response with
  | none => exact Talk.tells_raised _
  | some resp =>
    refine .andThen (tells_harmless ?_) fun _ => tells_pure _
    unfold rememberResponse
    split
    · exact only_await (harmless_set fun convKey => previousResponseKey_ne _ convKey)
    · trivial

theorem tells_boundConversationGrowth {convKey}
    (ofSession : ∀ key ∈ convKey, key = turn.sessionId.text) (turnText) :
    (boundConversationGrowth libraries continuity turn convKey turnText).Tells (Proper turn)
      (isOwned turn) := by
  unfold boundConversationGrowth
  split
  · rename_i policy key found
    cases ofSession key (Option.filter_eq_some_iff.mp found).1
    refine .andThen
      (.attempt (.andThen (tells_plain (only_recordTurn libraries policy _ turnText)) ?_))
      fun _ => tells_pure ()
    intro decision
    split
    · refine .andThen (tells_plain (.bind (fun _ => trivial) (only_await trivial)))
        fun summaryText =>
        .andThen (.andThen ?_ fun _ => .andThen ?_ fun _ => ?_) fun _ => tells_pure ()
      · exact tells_plain (only_commitCarryForward _ _ _ _ summaryText _)
      · exact tells_plain (only_redisDelete (cacheKey_previousResponseKey _))
      · exact (tells_createConversation (some policy) _).forget
    · exact tells_pure ()
  · exact tells_pure ()

theorem tells_converse {spec}
    (ofSession : ∀ key ∈ spec.conversationKey, key = turn.sessionId.text) :
    (converse libraries continuity turn spec).Tells (Proper turn) (isOwned turn) := by
  refine .andThen (tells_inferStreamingRequest libraries continuity ofSession) fun answered =>
    .andThen ?_ fun _ => .andThen ?_ fun _ => tells_pure _
  · exact tells_plain (only_recordTurnUsage libraries turn _ answered.1)
  · exact tells_boundConversationGrowth libraries continuity ofSession _

/-! ### The turn -/

variable (turn) {I : Fact}

theorem tells_createSession :
    (createSession turn.sessionId turn.tenantId turn.endUserId).Tells (Proper turn) I
      fun _ => isOwned turn := by
  refine (Talk.tells_await fun _ _ => trivial).bind fun old => ?_
  cases old with
  | none =>
    exact fun h known => (Talk.tells_await (fun _ _ => trivial) h known).imp
      fun _ _ had val eq => .inr (had val eq)
  | some row =>
    show Talk.Tells _ _ (if _ then _ else _) _
    split
    · exact Talk.tells_raised _
    · rename_i eq
      obtain ⟨tenant, user⟩ := not_or.mp eq
      exact Talk.tells_done fun h known => .inl ⟨row, not_not.mp tenant, not_not.mp user, known.2⟩

theorem tells_assemble (modelAlias convKey mcpTools history) :
    (assemble turn modelAlias convKey mcpTools history).Tells (Proper turn) I
      fun spec => .const (∀ key ∈ spec.conversationKey, key = convKey) := by
  refine .andThen (tells_plain (only_activeVersion turn.tenantId turn.request.agentId))
    fun version => ?_
  show Talk.Tells _ _ (if _ then _ else _) _
  split
  · exact Talk.tells_raised _
  · refine .andThen (tells_plain (only_selectedPrompt turn.tenantId turn.request.userPromptId))
      fun selected => Talk.tells_done fun h _ key mem => ?_
    split at mem
    · exact (Option.some.inj mem).symm
    · cases mem

theorem tells_runTurn : (runTurn libraries continuity turn).Tells (Proper turn) I := by
  unfold runTurn
  cases parseMessageHistory libraries turn.request.metadata with
  | error msg => exact Talk.tells_raised _
  | ok history =>
    refine (tells_createSession turn).mapError.bind fun _ => .andThen ?_ fun interactionId =>
      (tells_assemble turn _ turn.sessionId.text _ history).mapError.bind fun spec =>
      .andThen ?_ fun finalText => .andThen ?_ fun _ => tells_pure _
    · exact tells_plain (only_during (only_await trivial))
    · exact fun h known =>
        (tells_converse libraries continuity known.2).mapError h known.1.2
    · exact tells_plain (only_during (only_await rfl))

theorem harmless_idemStore {data} : Harmless turn (.redis (.set turn.idemStoreKey data)) :=
  harmless_set (idemStoreKey_ne turn)

theorem tells_attemptTurn : (attemptTurn libraries continuity turn).Tells (Proper turn) I := by
  have puts (item : Option ConversationEvent) : Harmless turn (.put item) := fun _ => trivial
  refine .andThen (tells_harmless (only_during (only_await fun _ => trivial))) fun cached => ?_
  split
  · exact tells_harmless
      (.bind (fun payload => .bind (fun _ => only_put (puts _)) (only_put (puts _)))
      (only_during (.ofExcept _)))
  · refine .andThen (tells_harmless ?_) fun _ => .andThen (tells_runTurn libraries continuity turn)
      fun res => tells_harmless ?_
    · refine only_during (.bind (fun got => ?_) (only_await fun _ => idemStoreKey_ne turn))
      cases got <;> trivial
    · exact .bind (fun _ => .bind (fun _ => only_put (puts _))
        (only_during (only_await (harmless_idemStore turn)))) (only_put (puts _))

theorem only_handleFailure (failure : Failure) :
    (handleFailure turn failure).Only (Harmless turn) := by
  refine .bind (fun _ => .bind (fun _ => .bind (fun _ => only_put fun _ => trivial)
    (only_put fun _ => trivial)) ?_) (only_await (harmless_idemStore turn))
  unfold failInteraction
  cases failure.progress.interactionId with
  | none => trivial
  | some interactionId => exact only_await fun _ => trivial

/-- **Every call of a turn is proper.** -/
theorem meets_runDirect :
    (runDirect libraries continuity turn).Meets (Proper turn) (fun _ _ => True) [] := by
  have tells : (runDirect libraries continuity turn).Tells (Proper turn) (.const True) := by
    refine .andThen (tells_harmless (only_put fun _ => trivial)) fun _ =>
      (tells_attemptTurn libraries continuity turn).attempt.andThen fun out => ?_
    cases out with
    | ok _ => exact tells_pure ()
    | error failure => exact tells_harmless (only_handleFailure turn failure)
  exact (tells [] trivial).imp fun _ _ _ => trivial

end

/-! ## The store -/

structure Sound (store : ConversationStore) : Prop where
  sessions : (store.sessions.map SessionRow.sessionId).Nodup
  conversations : (store.conversations.map Prod.fst).Nodup
  cached : ∀ conversationKey conversation,
    store.redis (conversationCacheKey conversationKey) = some conversation →
      ∃ id, conversation = .str id ∧ (id, conversationKey) ∈ store.conversations

structure Later (store after : ConversationStore) : Prop where
  sessions : store.sessions ⊆ after.sessions
  conversations : store.conversations ⊆ after.conversations

def Holds (store : ConversationStore) : Reply → Prop
  | ⟨.findSession sessionId, .ok (some row)⟩ => row ∈ store.sessions ∧ row.sessionId = sessionId
  | ⟨.insertSession row, .ok _⟩ => row ∈ store.sessions
  | ⟨.conversationsCreate conversationKey _, .ok id⟩ => (id, conversationKey) ∈ store.conversations
  | ⟨.redis (.get key), .ok conversation⟩ =>
    ∀ conversationKey, key = conversationCacheKey conversationKey → conversation.truthy = true →
      ∃ id, conversation = .str id ∧ (id, conversationKey) ∈ store.conversations
  | _ => True

section

variable {store after : ConversationStore} {turn : TurnCall} {h : List Reply}

theorem sound_emptyStore : Sound emptyStore :=
  ⟨List.nodup_nil, List.nodup_nil, fun _ _ none => nomatch none⟩

theorem Later.refl (st : ConversationStore) : Later st st := ⟨.refl _, .refl _⟩

variable {reply : Reply}

theorem Holds.mono (later : Later store after) (holds : Holds store reply) : Holds after reply := by
  unfold Holds at holds ⊢
  split
  · exact ⟨later.sessions holds.1, holds.2⟩
  · exact later.sessions holds
  · exact later.conversations holds
  · intro convKey eq truthy
    obtain ⟨id, isId, made⟩ := holds convKey eq truthy
    exact ⟨id, isId, later.conversations made⟩
  · trivial

theorem sound_insertSession {row} (sound : Sound store)
    (ins : store.insertSession row = some after) :
    Sound after ∧ Later store after ∧ row ∈ after.sessions := by
  obtain ⟨free, rfl⟩ := insertSession_eq_some ins
  refine ⟨⟨?_, sound.conversations, sound.cached⟩, ⟨List.subset_append_left _ _, .refl _⟩,
    List.mem_append_right _ (List.mem_singleton_self row)⟩
  simp only [List.map_append, List.map_cons, List.map_nil]
  exact List.nodup_append.mpr ⟨sound.sessions, List.nodup_singleton _, fun id mem other isNew eq =>
    free (by rw [← List.mem_singleton.mp isNew, ← eq]; exact mem)⟩

theorem sound_create {id convKey} (sound : Sound store)
    (fresh : id ∉ store.conversations.map Prod.fst) :
    Sound { store with conversations := store.conversations ++ [(id, convKey)] } := by
  refine ⟨sound.sessions, ?_, fun key conv cached => ?_⟩
  · simp only [List.map_append, List.map_cons, List.map_nil]
    exact List.nodup_append.mpr ⟨sound.conversations, List.nodup_singleton _,
      fun other mem new isNew eq =>
        fresh (by rw [← List.mem_singleton.mp isNew, ← eq]; exact mem)⟩
  · obtain ⟨other, isId, made⟩ := sound.cached key conv cached
    exact ⟨other, isId, List.mem_append_left _ made⟩

/-- A key that is written with nothing but a conversation of its own. -/
theorem sound_update {key val} (sound : Sound store)
    (proper : ∀ convKey, key = conversationCacheKey convKey →
      ∀ conv, val = some conv → ∃ id, conv = .str id ∧ (id, convKey) ∈ store.conversations) :
    Sound { store with redis := Function.update store.redis key val } := by
  refine ⟨sound.sessions, sound.conversations, fun convKey conv cached => ?_⟩
  by_cases eq : conversationCacheKey convKey = key
  · simp only [eq, Function.update_self] at cached
    exact proper convKey eq.symm conv cached
  · simp only [Function.update_of_ne eq] at cached
    exact sound.cached convKey conv cached

theorem Created.holds {convKey conv}
    (made : Created h convKey conv) (facts : ∀ reply ∈ h, Holds store reply) :
    ∃ id, conv = .str id ∧ (id, convKey) ∈ store.conversations := by
  obtain ⟨seedText, id, reply, rfl⟩ := made
  exact ⟨id, rfl, facts _ reply⟩

variable {command : RedisCommand}

theorem sound_run (sound : Sound store) (facts : ∀ reply ∈ h, Holds store reply)
    (proper : Proper turn h (.redis command)) :
    Sound { store with redis := (command.run store.redis).1 } := by
  have apart :
      ∀ {key : String} {val : Option Value}, (∀ convKey, key ≠ conversationCacheKey convKey) →
      Sound { store with redis := Function.update store.redis key val } :=
    fun apart => sound_update sound fun convKey eq => absurd eq (apart convKey)
  cases command with
  | get key => exact sound
  | setIfNotExists key data =>
    simp only [RedisCommand.run]
    split
    · exact apart proper
    · exact sound
  | set key data =>
    refine sound_update sound fun convKey eq conv isSome => ?_
    cases isSome
    exact (proper convKey eq).holds facts
  | delete key =>
    refine sound_update sound fun _ _ _ isSome => ?_
    cases isSome
  | incrWithTtl key | incrByFloatWithTtl key amount => exact apart proper

theorem holds_redis {fault answer}
    (sound : Sound store) (ran : performRedis fault command store = some (after, answer)) :
    Holds store ⟨.redis command, answer⟩ := by
  cases command with
  | get key =>
    cases answer with
    | error err => trivial
    | ok conv =>
      intro convKey eq truthy
      subst eq
      unfold performRedis at ran
      split at ran
      · obtain ⟨-, found⟩ := Prod.mk.inj (Option.some.inj ran)
        have cached : (store.redis (conversationCacheKey convKey)).getD .null =
          conv := Except.ok.inj found
        cases stored : store.redis (conversationCacheKey convKey) with
        | none =>
          rw [stored] at cached
          rw [← cached] at truthy
          cases truthy
        | some val =>
          rw [stored] at cached
          exact sound.cached convKey conv (stored.trans (congrArg some cached))
      · cases ran
      · cases ran
      · obtain ⟨-, found⟩ := Prod.mk.inj (Option.some.inj ran)
        rw [← Except.ok.inj found] at truthy
        cases truthy
  | _ => trivial

/-- **A proper call keeps the store sound, only adds to it, and is answered truly.** -/
theorem sound_perform {behaviour} (sound : Sound store)
    (facts : ∀ earlier ∈ h, Holds store earlier) (proper : Proper turn h reply.call)
    (ran : perform behaviour reply.call store = some (after, reply.answer)) :
    Sound after ∧ Later store after ∧ Holds after reply := by
  obtain ⟨call, answer⟩ := reply
  have unchanged : after = store → Holds store ⟨call, answer⟩ →
      Sound after ∧ Later store after ∧ Holds after ⟨call, answer⟩ := by
    rintro rfl holds
    exact ⟨sound, Later.refl after, holds⟩
  cases call with
  | redis cmd =>
    have holds := holds_redis sound ran
    rcases performRedis_cases ran with rfl | rfl
    · exact ⟨sound_run sound facts proper, ⟨.refl _, .refl _⟩, holds.mono ⟨.refl _, .refl _⟩⟩
    · exact unchanged rfl holds
  | findSession sessionId =>
    simp only [perform] at ran
    split at ran
    · obtain ⟨eq, rfl⟩ := Prod.mk.inj (Option.some.inj ran)
      exact unchanged eq.symm trivial
    · obtain ⟨eq, rfl⟩ := Prod.mk.inj (Option.some.inj ran)
      refine unchanged eq.symm ?_
      cases found : store.sessions.find? fun row => row.sessionId = sessionId with
      | none => trivial
      | some row =>
        exact ⟨List.mem_of_find?_eq_some found, by simpa using List.find?_some found⟩
  | insertSession row =>
    rcases performInsert_cases (Option.some.inj ran) with ins | ⟨eq, error, rfl⟩
    · obtain ⟨sound, later, isRow⟩ := sound_insertSession sound ins
      refine ⟨sound, later, ?_⟩
      cases answer with
      | error error => trivial
      | ok _ => exact isRow
    · exact unchanged eq trivial
  | conversationsCreate convKey seedText =>
    rcases performCreate_cases ran with ⟨id, rfl, -, fresh, rfl⟩ | ⟨eq, error, rfl⟩
    · exact ⟨sound_create sound fresh, ⟨.refl _, List.subset_append_left _ _⟩,
        List.mem_append_right _ (by simp)⟩
    · exact unchanged eq trivial
  | _ =>
    exact unchanged (congrArg Prod.fst (Option.some.inj ran)).symm trivial

theorem sound_happen {event} (sound : Sound store)
    (happened : happen event store = some after) : Sound after ∧ Later store after := by
  cases event with
  | expire key =>
    cases happened
    refine ⟨sound_update sound fun _ _ _ isSome => ?_, ⟨.refl _, .refl _⟩⟩
    cases isSome
  | createSession row =>
    obtain ⟨sound, later, -⟩ := sound_insertSession sound happened
    exact ⟨sound, later⟩

end

/-! ## Isolation -/

/-- The conversations that a reply is about: one that was created, or that the model was asked to
continue. -/
def conversationsIn : Reply → List Value
  | ⟨.conversationsCreate _ _, .ok id⟩ => [.str id]
  | ⟨.responsesCreate payload, _⟩ => payload.conversation.toList
  | _ => []

def usedConversations (task : TurnTask) : List Value := task.replies.flatMap conversationsIn

variable (turn : TurnCall)

def TurnCall.owner : Uuid × String := (turn.tenantId, turn.endUserId)

section

variable {store : ConversationStore} {task : TurnTask} {conversation : Value}

theorem Owned.session {turn h} (owned : Owned turn h) (facts : ∀ reply ∈ h, Holds store reply) :
    ⟨turn.sessionId, turn.tenantId, turn.endUserId⟩ ∈ store.sessions := by
  rcases owned with ⟨⟨sessionId, tenantId, userId⟩, tenant, user, found⟩ | made
  · obtain ⟨mem, eq⟩ := facts _ found
    rwa [← tenant, ← user, ← eq]
  · exact facts _ made

theorem session_of_used (used : conversation ∈ usedConversations task)
    (past : Dialogue.Lawful (Proper task.label) task.replies)
    (facts : ∀ reply ∈ task.replies, Holds store reply) :
    ⟨task.label.sessionId, task.label.tenantId, task.label.endUserId⟩ ∈ store.sessions ∧
      ∃ id, conversation = .str id ∧ (id, task.label.sessionId.text) ∈ store.conversations := by
  obtain ⟨reply, member, isUsed⟩ := List.mem_flatMap.mp used
  obtain ⟨before, after, split⟩ := List.append_of_mem member
  have earlier : before ⊆ task.replies := split ▸ List.subset_append_left _ _
  have proper := past before reply after split
  obtain ⟨call, answer⟩ := reply
  cases call with
  | conversationsCreate conversationKey seedText =>
    cases answer with
    | error error => cases isUsed
    | ok id =>
      cases List.mem_singleton.mp isUsed
      obtain ⟨rfl, owned⟩ := proper
      exact ⟨(owned.mono earlier).session facts, id, rfl, facts _ member⟩
  | responsesCreate payload =>
    obtain ⟨owned, resolved⟩ := proper conversation (Option.mem_toList.mp isUsed)
    refine ⟨(owned.mono earlier).session facts, ?_⟩
    rcases resolved.mono earlier with ⟨truthy, found⟩ | created
    · exact facts _ found _ rfl truthy
    · exact created.holds facts
  | _ => cases isUsed

theorem owner_eq_of_used {other : TurnTask} (sound : Sound store)
    (first : ⟨task.label.sessionId, task.label.tenantId, task.label.endUserId⟩ ∈ store.sessions ∧
      ∃ id, conversation = .str id ∧ (id, task.label.sessionId.text) ∈ store.conversations)
    (second : ⟨other.label.sessionId, other.label.tenantId, other.label.endUserId⟩ ∈
      store.sessions ∧
      ∃ id, conversation = .str id ∧ (id, other.label.sessionId.text) ∈ store.conversations) :
    task.label.owner = other.label.owner := by
  obtain ⟨session, id, rfl, created⟩ := first
  obtain ⟨session', id', same, created'⟩ := second
  cases same
  have keys := List.inj_on_of_nodup_map sound.conversations created created' rfl
  have sessions : task.label.sessionId = other.label.sessionId :=
    Uuid.text_injective (congrArg Prod.snd keys)
  have rows := List.inj_on_of_nodup_map sound.sessions session session' sessions
  simp only [SessionRow.mk.injEq] at rows
  exact Prod.ext rows.2.1 rows.2.2

end

/-- **Conversation isolation.** Whatever turns of whatever tenants and users run side by side, with
session ids as their clients choose them, and whatever the collaborators do: all turns that have
used a conversation of the provider are turns of one tenant and one user. -/
theorem conversation_isolated (libraries : TurnLibraries)
    (continuity : Option ConversationContinuityPolicy) (moves : List ConversationMove) :
    ∀ t ∈ trace (conversationSystem libraries continuity).step ⟨emptyStore, []⟩ moves,
      ∀ first ∈ t.after.tasks, ∀ second ∈ t.after.tasks, ∀ conversation,
        conversation ∈ usedConversations first → conversation ∈ usedConversations second →
          first.label.tenantId = second.label.tenantId ∧
            first.label.endUserId = second.label.endUserId := by
  have keeps : ∀ {host after : ConversationHost} {move : ConversationMove},
      Truthful Proper (fun _ _ _ => True) Sound (fun reply store => Holds store reply) host →
      (conversationSystem libraries continuity).step host move = some after →
      Truthful Proper (fun _ _ _ => True) Sound (fun reply store => Holds store reply) after := by
    intro host after move truthful performed
    refine truthful.step (L := Later) (meets_runDirect libraries continuity) ?_ ?_ ?_ performed
    · exact fun reply store after later holds => holds.mono later
    · exact fun turn replies behaviour reply store after sound facts proper performed =>
        sound_perform sound facts proper performed
    · exact fun event store after sound happened => sound_happen sound happened
  refine LabelledSystem.trace_law
    (G := fun _ _ => True)
    (fun host move after truthful _ performed => keeps truthful performed) ?_ moves _
    ⟨Dialogue.disciplined_idle _, sound_emptyStore, fun _ none => nomatch none⟩ fun _ _ => trivial
  intro host move after truthful _ performed first isFirst second isSecond conversation used used'
  have now := keeps truthful performed
  have same := owner_eq_of_used now.invariant
    (session_of_used used (now.past first isFirst) (now.facts first isFirst))
    (session_of_used used' (now.past second isSecond) (now.facts second isSecond))
  exact Prod.mk.inj same

def twoTurns : List ConversationMove :=
  .start (userTurn "first") :: (List.replicate 19 (.reply 0 helpful) ++
    .start (userTurn "second") :: List.replicate 10 (.reply 1 helpful))

/-- The second turn continues the conversation that the first has created. -/
theorem second_turn_continues :
    (∃ t ∈ trace (conversationSystem plainTurnLibraries none).step ⟨emptyStore, []⟩ twoTurns,
      t.after.tasks.map usedConversations = [[.str "conv_1", .str "conv_1"], [.str "conv_1"]]) ∧
    ∀ t ∈ trace (conversationSystem plainTurnLibraries none).step ⟨emptyStore, []⟩ twoTurns,
      ∀ first ∈ t.after.tasks, ∀ second ∈ t.after.tasks, ∀ conversation,
        conversation ∈ usedConversations first → conversation ∈ usedConversations second →
          first.label.tenantId = second.label.tenantId ∧
            first.label.endUserId = second.label.endUserId := by
  refine ⟨?_, conversation_isolated plainTurnLibraries none twoTurns⟩
  decide +kernel

end AgentOrchestration.Conversation
