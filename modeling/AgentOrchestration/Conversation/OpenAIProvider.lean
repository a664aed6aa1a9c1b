import AgentOrchestration.Conversation.Collaborators

/-!
# The provider side of a conversation turn

Models of `ConversationContinuityService` and of the streaming path of `OpenAIProviderAdapter`. The
transcript of a conversation lives with the provider. Redis maps a conversation key to the id of
the provider's conversation; a miss starts a new one, seeded with the summary that is kept for the
key, and so does a conversation that has grown too large.
-/

namespace AgentOrchestration.Conversation

set_option autoImplicit false

/-! ## Keys -/

variable (conversationKey : String)

def conversationCacheKey : String := "openai:conversation:" ++ conversationKey

def previousResponseKey : String := "openai:previous_response:" ++ conversationKey

def turnsKey : String := "conversation:growth:turns:" ++ conversationKey

def tokensKey : String := "conversation:growth:tokens:" ++ conversationKey

/-! ## `ConversationContinuityService` -/

structure ConversationGrowth where
  turns : ℤ := 0
  estimatedTokens : ℤ := 0

structure RolloverDecision where
  shouldRollOver : Bool := false
  reasonCode : Option String := none
  growth : ConversationGrowth := {}

structure ConversationContinuityPolicy where
  maxTurns : ℤ := 40
  maxEstimatedTokens : ℤ := 60000
  summaryMaxChars : ℕ := 4000

def ConversationContinuityPolicy.decideOn (policy : ConversationContinuityPolicy)
    (growth : ConversationGrowth) : RolloverDecision :=
  if 0 < policy.maxTurns ∧ policy.maxTurns ≤ growth.turns then ⟨true, some "max_turns", growth⟩
  else if 0 < policy.maxEstimatedTokens ∧ policy.maxEstimatedTokens ≤ growth.estimatedTokens then
    ⟨true, some "max_estimated_tokens", growth⟩
  else ⟨false, none, growth⟩

def carryForwardText : Turn (Option String) := await (.getSummary conversationKey)

variable (libraries : TurnLibraries)

/-- What `record_turn` adds to the counters. -/
def countTurn (conversationKey text : String) :
    Turn ConversationGrowth := do
  let turns ← await (.redis (.incrWithTtl (turnsKey conversationKey)))
  let tokens ← await
    (.redis (.incrByFloatWithTtl (tokensKey conversationKey) (libraries.estimateTokens text)))
  return ⟨turns, tokens⟩

def recordTurn (policy : ConversationContinuityPolicy) (conversationKey text : String) :
    Turn RolloverDecision := do
  match ← (countTurn libraries conversationKey text).attempt with
  | .ok growth => return policy.decideOn growth
  | .error _ => return {}

def resetGrowth : Turn Unit := do
  let _ ← (redisDelete (turnsKey conversationKey) >>= fun _ =>
    redisDelete (tokensKey conversationKey)).attempt
  return ()

def commitRollover (policy : ConversationContinuityPolicy) (tenantId : Uuid)
    (conversationKey : String) (sessionId : Uuid) (summaryText : String)
    (growth : ConversationGrowth) : Turn Unit := do
  await (.upsertSummary tenantId conversationKey sessionId
    (String.ofList (summaryText.toList.take policy.summaryMaxChars)) growth.turns
    growth.estimatedTokens)
  resetGrowth conversationKey

/-! ## Provider conversations -/

section

variable (continuity : Option ConversationContinuityPolicy)

def seedOf (text : Option String) : Option String := text.filter (· ≠ "")

/-- The end of `_create_conversation`: a seeded conversation is bound to its summary. -/
def bindProviderConversation (conversationKey conversationId : String) (seedText : Option String) :
    Turn Unit :=
  if continuity.isSome ∧ (seedOf seedText).isSome then
    await (.setProviderConversationId conversationKey conversationId)
  else return ()

def createConversation (conversationKey : String) (seedText : Option String) : Turn Value := do
  let conversationId ← await (.conversationsCreate conversationKey (seedOf seedText))
  redisSet (conversationCacheKey conversationKey) (.str conversationId)
  bindProviderConversation continuity conversationKey conversationId seedText
  return .str conversationId

/-- The carry-forward on a cache miss; without it the conversation starts empty. -/
def carriedForward (conversationKey : String) : Turn (Option String) :=
  match continuity with
  | none => return none
  | some _ => do
      match ← (carryForwardText conversationKey).attempt with
      | .ok text => return text
      | .error _ => return none

def getOrCreateConversationId (conversationKey : String) : Turn Value := do
  let cached ← redisGet (conversationCacheKey conversationKey)
  if cached.truthy then return cached
  else do
    let seedText ← carriedForward continuity conversationKey
    createConversation continuity conversationKey seedText

/-- The first step of `roll_over_conversation`. -/
def commitCarryForward (tenantId : Uuid) (conversationKey : String) (sessionId : Uuid)
    (summaryText : String) (growth : ConversationGrowth) : Turn Unit :=
  match continuity with
  | none => return ()
  | some policy => commitRollover policy tenantId conversationKey sessionId summaryText growth

def rollOverConversation (tenantId : Uuid) (conversationKey : String) (sessionId : Uuid)
    (summaryText : String) (growth : ConversationGrowth) : Turn Value := do
  commitCarryForward continuity tenantId conversationKey sessionId summaryText growth
  redisDelete (previousResponseKey conversationKey)
  createConversation continuity conversationKey (some summaryText)

end

/-! ## Streaming -/

inductive HistoryMode where
  | manual
  | providerConversation
  deriving DecidableEq

structure OpenAIStreamingRequest where
  modelAlias : String
  inputMessages : List LLMMessage
  principalId : Option String
  conversationKey : Option String
  historyMode : HistoryMode
  tools : List Fields

def OpenAIStreamingRequest.providerKey (request : OpenAIStreamingRequest) : Option String :=
  if request.historyMode = .providerConversation then request.conversationKey.filter (· ≠ "")
  else none

variable (continuity : Option ConversationContinuityPolicy)

def conversationOf (request : OpenAIStreamingRequest) : Turn (Option Value) :=
  match request.providerKey with
  | none => return none
  | some conversationKey => do
      let conversationId ← getOrCreateConversationId continuity conversationKey
      return some conversationId

def compileStreamingPayload (request : OpenAIStreamingRequest) : Turn StreamingPayload := do
  let conversation ← conversationOf continuity request
  return { model := request.modelAlias
           input := request.inputMessages
           user := request.principalId.filter (· ≠ "")
           tools := request.tools
           conversation }

/-- Where the consumption of a stream stands; `caller` is what the callback keeps. -/
structure Streamed (τ : Type) where
  caller : τ
  response : Option Response := none
  accumulatedText : String := ""

section

variable {τ : Type} (libraries : TurnLibraries)

/-- What `_consume_response_stream` takes from an event, after the callback. -/
def Streamed.receive (streamed : Streamed τ) (event : StreamEvent) (caller : τ) : Streamed τ :=
  match event.payload.lookup "type" with
  | some (.str "response.output_text.delta") =>
    ⟨caller, streamed.response, streamed.accumulatedText ++ libraries.textAt event.payload "delta"⟩
  | some (.str "response.completed") =>
    match event.payload.lookup "response" with
    | some (.dict _) => ⟨caller, some event.response, streamed.accumulatedText⟩
    | _ => { streamed with caller }
  | _ => { streamed with caller }

def deliver (onOpenaiEvent : Fields → τ → Turn τ) : List StreamEvent → Streamed τ →
    Turn (Streamed τ)
  | [], streamed => return streamed
  | event :: rest, streamed => do
      let caller ← onOpenaiEvent event.payload streamed.caller
      deliver onOpenaiEvent rest (streamed.receive libraries event caller)

/-- `"424" in str(exc) or "Failed Dependency" in str(exc)`. -/
def isFailedDependency (error : TurnError) : Bool :=
  decide ("424".toList <:+: error.text.toList ∨ "Failed Dependency".toList <:+: error.text.toList)

/-- `_consume_response_stream`, with so many attempts left. -/
def consumeResponseStream (payload : StreamingPayload) (onOpenaiEvent : Fields → τ → Turn τ) :
    ℕ → Streamed τ → Turn (Streamed τ)
  | 0, streamed => return streamed
  | attempts + 1, streamed =>
    .ask (.responsesCreate payload) fun
      | .error error =>
        if attempts = 0 ∨ isFailedDependency error = false then .raised error
        else consumeResponseStream payload onOpenaiEvent attempts streamed
      | .ok attempt => do
          let streamed ← deliver libraries onOpenaiEvent attempt.events streamed
          match attempt.failure with
          | none => return streamed
          | some error =>
            if attempts = 0 ∨ isFailedDependency error = false then .raised error
            else consumeResponseStream payload onOpenaiEvent attempts streamed

end

/-! ## The result -/

structure Output where
  json : Option Fields := none
  text : Option String := none

def Output.readItem (output : Output) : Value → Output
  | .dict item =>
    let typed := item.lookup "type"
    let withJson :=
      match item.lookup "json" with
      | some (.dict json) =>
        if typed = some (.str "output_json") then { output with json } else output
      | _ => output
    match item.lookup "text" with
    | some (.str text) =>
      if typed = some (.str "output_text") then { withJson with text } else withJson
    | _ => withJson
  | _ => output

def Output.readBlock (output : Output) (block : Fields) : Output :=
  match block.lookup "content" with
  | some (.list items) => items.foldl Output.readItem output
  | _ => output

structure LLMResult where
  output : Fields
  inputTokens : ℕ
  outputTokens : ℕ

variable (libraries : TurnLibraries)

def buildStreamResult (response : Response) (accumulatedText : String) :
    LLMResult :=
  let read := response.output.foldl Output.readBlock {}
  let text := read.text.or (some accumulatedText |>.filter (· ≠ ""))
  let parsed : Option Fields :=
    match (text.filter (· ≠ "")).bind libraries.jsonLoads with
    | some (.dict fields) => some fields
    | _ => none
  { output := (read.json.or parsed).getD [("content", (text.map Value.str).getD .null)]
    inputTokens := (response.usage.map ResponseUsage.inputTokens).getD 0
    outputTokens := (response.usage.map ResponseUsage.outputTokens).getD 0 }

def sanitizeProviderError (error : TurnError) : String :=
  if isFailedDependency error then "provider_failed_dependency" else error.typeName

/-- `_set_previous_response_id`, for a response of a provider conversation. -/
def rememberResponse (request : OpenAIStreamingRequest) (response : Response) : Turn Unit :=
  match request.providerKey, response.id.filter (· ≠ "") with
  | some conversationKey, some id => redisSet (previousResponseKey conversationKey) (.str id)
  | _, _ => return ()

variable (continuity : Option ConversationContinuityPolicy)

def inferStreamingRequest {τ : Type} (request : OpenAIStreamingRequest)
    (onOpenaiEvent : Fields → τ → Turn τ) (caller : τ) : Turn (LLMResult × τ) := do
  let payload ← compileStreamingPayload continuity request
  let streamed ← (consumeResponseStream libraries payload onOpenaiEvent
    (if request.tools = [] then 2 else 1) ⟨caller, none, ""⟩).mapError fun error =>
      .domainValidation "llm_provider_error" [sanitizeProviderError error]
  match streamed.response with
  | none => .raised (.domainValidation "llm_provider_error" ["stream_completed_without_response"])
  | some response => do
      rememberResponse request response
      return (buildStreamResult libraries response streamed.accumulatedText, streamed.caller)

end AgentOrchestration.Conversation
