import AgentOrchestration.Library.Dialogue
import AgentOrchestration.Library.UuidText
import AgentOrchestration.Value

/-!
# The collaborators of a conversation turn

Everything that a turn awaits is one of the calls in `Await`: the queue of its events, Redis, the
repositories and the model provider. A `Turn` is a talk with these collaborators; what they answer,
or that they raise, is left open.

`RedisAdapter` values are JSON, so Redis is read and written in `Value`s. Times to live are not part
of a call: that a key expires is something that happens to Redis.
-/

namespace AgentOrchestration.Conversation

set_option autoImplicit false

open Dialogue (Talk)

/-- What a call may raise. -/
inductive TurnError where
  /-- A `DomainValidationException` with its `errors()`. -/
  | domainValidation (message : String) (errors : List String)
  /-- Any other exception: the name of its type, and `str(exc)`. -/
  | other (type text : String)
  deriving DecidableEq

namespace TurnError

/-- `type(exc).__name__`. -/
def typeName : TurnError → String
  | domainValidation _ _ => "DomainValidationException"
  | other type _ => type

/-- `str(exc)`. -/
def text : TurnError → String
  | domainValidation message _ => "400: " ++ message
  | other _ text => text

end TurnError

/-! ## Events -/

inductive SSEEventType where
  | connected
  | toolProgress
  | done
  | error
  | ping
  | contentDelta
  deriving DecidableEq

structure ConversationEvent where
  eventType : SSEEventType
  payload : Fields
  deriving DecidableEq

/-! ## Rows and messages -/

/-- `SessionModel`; `sessionId` is the primary key. -/
structure SessionRow where
  sessionId : Uuid
  tenantId : Uuid
  userId : String
  deriving DecidableEq

/-- `AgentModel`. -/
structure AgentRow where
  tenantId : Uuid
  deriving DecidableEq

/-- `AgentVersionModel`. -/
structure AgentVersionRow where
  systemPrompt : Option String
  deriving DecidableEq

/-- `UserPromptModel`. -/
structure UserPromptRow where
  content : Option String
  version : Option ℤ
  deriving DecidableEq

inductive InteractionStatus where
  | success
  | failed
  deriving DecidableEq

structure LLMMessage where
  role : String
  content : String
  deriving DecidableEq

/-- What `responses.create` is given by `_compile_streaming_payload`. -/
structure StreamingPayload where
  model : String
  input : List LLMMessage
  user : Option String
  tools : List Fields
  conversation : Option Value
  deriving DecidableEq

structure ResponseUsage where
  inputTokens : ℕ
  outputTokens : ℕ
  totalTokens : ℕ
  deriving DecidableEq

/-- `Response`, with its output blocks as `model_dump` gives them. -/
structure Response where
  id : Option String
  output : List Fields
  usage : Option ResponseUsage
  deriving DecidableEq

/-- An event of the provider: what `model_dump` gives, and `event.response`. -/
structure StreamEvent where
  payload : Fields
  response : Response
  deriving DecidableEq

structure StreamAttempt where
  events : List StreamEvent
  failure : Option TurnError
  deriving DecidableEq

/-! ## Calls -/

/-- The methods of `RedisAdapter` that a turn uses. -/
inductive RedisCommand where
  | get (key : String)
  | setIfNotExists (key : String) (data : Value)
  | set (key : String) (data : Value)
  | delete (key : String)
  | incrWithTtl (key : String)
  | incrByFloatWithTtl (key : String) (amount : ℤ)
  deriving DecidableEq

/-- What they return; `get` gives `null` for an absent key. -/
@[reducible] def RedisCommand.Answer : RedisCommand → Type
  | get _ => Value
  | setIfNotExists _ _ => Bool
  | set _ _ => Unit
  | delete _ => Unit
  | incrWithTtl _ => ℤ
  | incrByFloatWithTtl _ _ => ℤ

inductive Await where
  /-- `queue.put`, of an event or of the sentinel `None`. -/
  | put (item : Option ConversationEvent)
  | redis (command : RedisCommand)
  /-- The lookup of `create_session`. -/
  | findSession (sessionId : Uuid)
  /-- The insert of `create_session`, which fails if the key is taken. -/
  | insertSession (row : SessionRow)
  | createInteraction (sessionId : Uuid) (requestId : Option String) (traceId : String)
  | updateInteractionResult (interactionId : Uuid) (output : Fields) (status : InteractionStatus)
      (error : Option Fields)
  | getAgent (agentId : Uuid)
  | getActiveAgentVersionId (agentId : Uuid)
  | getAgentVersion (agentVersionId : Uuid)
  | getUserPrompt (tenantId userPromptId : Uuid)
  /-- The summary text of `ConversationSummaryRepository.get`. -/
  | getSummary (conversationKey : String)
  | upsertSummary (tenantId : Uuid) (conversationKey : String) (sessionId : Uuid)
      (summaryText : String) (turnsCovered estimatedTokensCovered : ℤ)
  | setProviderConversationId (conversationKey providerConversationId : String)
  | conversationsCreate (conversationKey : String) (seedText : Option String)
  | responsesCreate (payload : StreamingPayload)
  | computeCost (model : String) (inputTokens outputTokens : ℕ)
  | recordLlmUsage (tenantId sessionId : Uuid) (model : String) (inputTokens outputTokens : ℕ)
      (costUsd : Option ℚ)
  deriving DecidableEq

/-- What the calls return. -/
@[reducible] def Await.Answer : Await → Type
  | put _ => Unit
  | redis command => command.Answer
  | findSession _ => Option SessionRow
  | insertSession _ => Unit
  | createInteraction _ _ _ => Uuid
  | updateInteractionResult _ _ _ _ => Unit
  | getAgent _ => Option AgentRow
  | getActiveAgentVersionId _ => Option Uuid
  | getAgentVersion _ => Option AgentVersionRow
  | getUserPrompt _ _ => Option UserPromptRow
  | getSummary _ => Option String
  | upsertSummary _ _ _ _ _ _ => Unit
  | setProviderConversationId _ _ => Unit
  | conversationsCreate _ _ => String
  | responsesCreate _ => StreamAttempt
  | computeCost _ _ _ => Option ℚ
  | recordLlmUsage _ _ _ _ _ _ => Unit

/-- A talk with the collaborators of a turn that may raise `ε`. -/
abbrev TurnTalk (ε : Type) := Talk Await.Answer TurnError ε

abbrev Turn := TurnTalk TurnError

abbrev Reply := Dialogue.Reply Await.Answer TurnError

def await (call : Await) : Turn call.Answer := Talk.await call

/-- `RedisAdapter.get`. -/
def redisGet (key : String) : Turn Value := await (.redis (.get key))

/-- `RedisAdapter.set`. -/
def redisSet (key : String) (data : Value) : Turn Unit := await (.redis (.set key data))

/-- `RedisAdapter.delete`. -/
def redisDelete (key : String) : Turn Unit := await (.redis (.delete key))

/-- `await queue.put(item)`. The queue is only full until it is read: the call waits, and does not
raise. -/
def put {ε : Type} (item : Option ConversationEvent) : TurnTalk ε Unit :=
  .ask (.put item) fun _ => .done ()

/-- How Python treats values, reads JSON and counts tokens, and how the service is configured. -/
structure TurnLibraries where
  /-- `str(value)`, of a value that is not a string. -/
  valueText : Value → String
  /-- `json.loads`; `none` where it raises. -/
  jsonLoads : String → Option Value
  /-- What `dict(value)` raises. -/
  dictError : Value → TurnError
  estimateTokens : String → ℕ
  /-- `settings.OPENAI_CONVERSATION_MODEL`. -/
  openaiConversationModel : String
  /-- Whether the service has a cost engine. -/
  hasCostEngine : Bool

def TurnLibraries.str (libraries : TurnLibraries) : Value → String
  | .str s => s
  | value => libraries.valueText value

/-- `str(value) if value else ""`, of `event.get(key, "")`. -/
def TurnLibraries.textAt (libraries : TurnLibraries) (event : Fields) (key : String) : String :=
  match event.lookup key with
  | none => ""
  | some value => if value.truthy then libraries.str value else ""

end AgentOrchestration.Conversation
