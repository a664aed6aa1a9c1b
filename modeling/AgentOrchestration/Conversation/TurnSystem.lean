import AgentOrchestration.Conversation.TurnCalls

/-!
# Conversation turns side by side

The turns of any tenants and users run over one Redis, one session table and one provider. Each
call is performed as one step. Redis commands, the session table and the creation of provider
conversations are performed here; every other call is answered as the collaborator pleases.
-/

namespace AgentOrchestration.Conversation

set_option autoImplicit false

open Dialogue (System)
open Function (update update_of_ne)

/-- What the turns share. -/
structure ConversationStore where
  redis : String → Option Value
  sessions : List SessionRow
  /-- The conversations that the provider has created: their ids, and the keys in their metadata. -/
  conversations : List (String × String)

def emptyStore : ConversationStore := ⟨fun _ => none, [], []⟩

/-! ## Redis -/

namespace RedisCommand

def counter : Option Value → ℤ
  | some (.int count) => count
  | _ => 0

def run : (command : RedisCommand) → (String → Option Value) →
    (String → Option Value) × command.Answer
  | get key, redis => (redis, (redis key).getD .null)
  | setIfNotExists key data, redis =>
    match redis key with
    | none => (update redis key (some data), true)
    | some _ => (redis, false)
  | set key data, redis => (update redis key (some data), ())
  | delete key, redis => (update redis key none, ())
  | incrWithTtl key, redis =>
    (update redis key (some (.int (counter (redis key) + 1))), counter (redis key) + 1)
  | incrByFloatWithTtl key amount, redis =>
    (update redis key (some (.int (counter (redis key) + amount))), counter (redis key) + amount)

/-- What a command returns that has failed in silent mode: `False`. The spend counters are not
silenced. -/
def silent : (command : RedisCommand) → Option command.Answer
  | get _ => some (.bool false)
  | setIfNotExists _ _ => some false
  | set _ _ => some ()
  | delete _ => some ()
  | incrWithTtl _ => some 0
  | incrByFloatWithTtl _ _ => none

theorem run_of_ne {cmd : RedisCommand} {redis key} (other : key ≠ cmd.key) :
    (cmd.run redis).1 key = redis key := by
  cases cmd with
  | get key' => rfl
  | setIfNotExists key' data =>
    simp only [run]
    split
    · exact update_of_ne other _ _
    · rfl
  | set key' data | delete key' | incrWithTtl key' | incrByFloatWithTtl key' amount =>
    exact update_of_ne other _ _

end RedisCommand

/-! ## Calls -/

inductive Fault where
  /-- It raises, with or without having taken effect. -/
  | raised (error : TurnError) (performed : Bool)
  /-- A Redis command fails and the adapter is in silent mode. -/
  | silenced
  deriving DecidableEq

structure Behaviour where
  fault : Option Fault
  /-- The answers of those whose state is not modelled. -/
  answer : (call : Await) → Except TurnError call.Answer

def performRedis (fault : Option Fault) (command : RedisCommand) (store : ConversationStore) :
    Option (ConversationStore × Except TurnError command.Answer) :=
  match fault with
  | none =>
    some ({ store with redis := (command.run store.redis).1 }, .ok (command.run store.redis).2)
  | some (.raised error true) =>
    some ({ store with redis := (command.run store.redis).1 }, .error error)
  | some (.raised error false) => some (store, .error error)
  | some .silenced => command.silent.map fun answer => (store, .ok answer)

def ConversationStore.insertSession (store : ConversationStore) (row : SessionRow) :
    Option ConversationStore :=
  if row.sessionId ∈ store.sessions.map SessionRow.sessionId then none
  else some { store with sessions := store.sessions ++ [row] }

def performInsert (fault : Option Fault) (row : SessionRow) (store : ConversationStore) :
    ConversationStore × Except TurnError Unit :=
  match fault, store.insertSession row with
  | some (.raised error true), some after => (after, .error error)
  | some (.raised error _), _ => (store, .error error)
  | _, some after => (after, .ok ())
  | _, none => (store, .error (.other "IntegrityError" "duplicate key value"))

/-- The provider creates a conversation. It gives out no id twice, and no empty one. -/
def performCreate (conversationKey : String) (outcome : Except TurnError String)
    (store : ConversationStore) : Option (ConversationStore × Except TurnError String) :=
  match outcome with
  | .error error => some (store, .error error)
  | .ok id =>
    if id = "" ∨ id ∈ store.conversations.map Prod.fst then none
    else some ({ store with conversations := store.conversations ++ [(id, conversationKey)] },
      .ok id)

def perform (behaviour : Behaviour) : (call : Await) → ConversationStore →
    Option (ConversationStore × Except TurnError call.Answer)
  | .put _, store => some (store, .ok ())
  | .redis command, store => performRedis behaviour.fault command store
  | .findSession sessionId, store =>
    match behaviour.fault with
    | some (.raised error _) => some (store, .error error)
    | _ => some (store, .ok (store.sessions.find? fun row => row.sessionId = sessionId))
  | .insertSession row, store => some (performInsert behaviour.fault row store)
  | .conversationsCreate conversationKey seedText, store =>
    performCreate conversationKey (behaviour.answer (.conversationsCreate conversationKey seedText))
      store
  | call, store => some (store, behaviour.answer call)

/-- What happens beside the turns. -/
inductive Outside where
  /-- The time to live of a key is over. -/
  | expire (key : String)
  /-- A flow run creates a session. -/
  | createSession (row : SessionRow)

def happen : Outside → ConversationStore → Option ConversationStore
  | .expire key, store => some { store with redis := update store.redis key none }
  | .createSession row, store => store.insertSession row

def conversationSystem (libraries : TurnLibraries)
    (continuity : Option ConversationContinuityPolicy) :
    System Await.Answer TurnError TurnError Unit TurnCall Behaviour Outside ConversationStore where
  program := runDirect libraries continuity
  perform := perform
  outside := happen

abbrev TurnTask := Dialogue.Task Await.Answer TurnError TurnError Unit TurnCall

abbrev ConversationHost :=
  Dialogue.Host Await.Answer TurnError TurnError Unit TurnCall ConversationStore

/-- What can happen to them. -/
abbrev ConversationMove := Dialogue.Move TurnCall Behaviour Outside

/-! ## What calls change -/

section

variable {call : Await} {store after : ConversationStore} {answer : Except TurnError call.Answer}

theorem performRedis_cases {fault cmd answer}
    (ran : performRedis fault cmd store = some (after, answer)) :
    after = { store with redis := (cmd.run store.redis).1 } ∨ after = store := by
  unfold performRedis at ran
  split at ran
  · exact .inl (congrArg Prod.fst (Option.some.inj ran)).symm
  · exact .inl (congrArg Prod.fst (Option.some.inj ran)).symm
  · exact .inr (congrArg Prod.fst (Option.some.inj ran)).symm
  · obtain ⟨silent, -, eq⟩ := Option.map_eq_some_iff.mp ran
    exact .inr (congrArg Prod.fst eq).symm

theorem insertSession_eq_some {row} (ins : store.insertSession row = some after) :
    row.sessionId ∉ store.sessions.map SessionRow.sessionId ∧
      after = { store with sessions := store.sessions ++ [row] } := by
  unfold ConversationStore.insertSession at ins
  split at ins
  · cases ins
  · rename_i free
    exact ⟨free, (Option.some.inj ins).symm⟩

/-- The session is inserted, or nothing changes and the call has raised. -/
theorem performInsert_cases {fault row answer}
    (ran : performInsert fault row store = (after, answer)) :
    store.insertSession row = some after ∨ after = store ∧ ∃ err, answer = .error err := by
  unfold performInsert at ran
  split at ran
  · rename_i ins
    exact .inl (ins.trans (congrArg some (congrArg Prod.fst ran)))
  · exact .inr ⟨(congrArg Prod.fst ran).symm, _, (congrArg Prod.snd ran).symm⟩
  · rename_i ins
    exact .inl (ins.trans (congrArg some (congrArg Prod.fst ran)))
  · exact .inr ⟨(congrArg Prod.fst ran).symm, _, (congrArg Prod.snd ran).symm⟩

theorem performCreate_cases {convKey out answer}
    (ran : performCreate convKey out store = some (after, answer)) :
    (∃ id, answer = .ok id ∧ id ≠ "" ∧ id ∉ store.conversations.map Prod.fst ∧
      after = { store with conversations := store.conversations ++ [(id, convKey)] }) ∨
    (after = store ∧ ∃ err, answer = .error err) := by
  unfold performCreate at ran
  split at ran
  · obtain ⟨rfl, rfl⟩ := Prod.mk.inj (Option.some.inj ran)
    exact .inr ⟨rfl, _, rfl⟩
  · rename_i id
    split at ran
    · cases ran
    · rename_i free
      obtain ⟨rfl, rfl⟩ := Prod.mk.inj (Option.some.inj ran)
      exact .inl ⟨id, rfl, fun empty => free (.inl empty), fun taken => free (.inr taken), rfl⟩

end

/-! ## Obliging collaborators -/

def uuidOf (digit : Fin 16) : Uuid := ⟨List.replicate 32 digit, List.length_replicate⟩

def plainTurnLibraries : TurnLibraries where
  valueText := fun _ => ""
  jsonLoads := fun _ => none
  dictError := fun _ => .other "TypeError" ""
  estimateTokens := fun _ => 0
  openaiConversationModel := "gpt-4.1"
  hasCostEngine := false

/-- The answers of collaborators that find what they are asked for; the model answers with the
events of one stream. -/
def obliging (tenantId : Uuid) (events : List StreamEvent) :
    (call : Await) → Except TurnError call.Answer
  | .put _ => .ok ()
  | .redis (.get _) => .ok .null
  | .redis (.setIfNotExists _ _) => .ok true
  | .redis (.set _ _) => .ok ()
  | .redis (.delete _) => .ok ()
  | .redis (.incrWithTtl _) => .ok 1
  | .redis (.incrByFloatWithTtl _ amount) => .ok amount
  | .findSession _ => .ok none
  | .insertSession _ => .ok ()
  | .createInteraction _ _ _ => .ok (uuidOf 9)
  | .updateInteractionResult _ _ _ _ => .ok ()
  | .getAgent _ => .ok (some ⟨tenantId⟩)
  | .getActiveAgentVersionId _ => .ok (some (uuidOf 8))
  | .getAgentVersion _ => .ok (some ⟨some "Answer."⟩)
  | .getUserPrompt _ _ => .ok none
  | .getSummary _ => .ok none
  | .upsertSummary _ _ _ _ _ _ => .ok ()
  | .setProviderConversationId _ _ => .ok ()
  | .conversationsCreate _ _ => .ok "conv_1"
  | .responsesCreate _ => .ok ⟨events, none⟩
  | .computeCost _ _ _ => .ok none
  | .recordLlmUsage _ _ _ _ _ _ => .ok ()

def completedStream (text : String) : List StreamEvent :=
  [⟨[("type", .str "response.completed"), ("response", .dict [])],
    ⟨none, [[("content", .list [.dict [("type", .str "output_text"), ("text", .str text)]])]],
      none⟩⟩]

/-- Nothing fails, and the model says hello. -/
def helpful : Behaviour := ⟨none, obliging (uuidOf 1) (completedStream "Hello")⟩

def userTurn (requestId : String) : TurnCall where
  tenantId := uuidOf 1
  canonicalPrincipalId := "u"
  endUserId := "u"
  request :=
    { agentId := uuidOf 2, sessionId := some (uuidOf 3), userInput := some "Hi"
      correlationId := some (uuidOf 4) }
  requestId := some requestId
  canonicalTraceId := "trace"
  newSessionId := uuidOf 5
  newCorrelationId := uuidOf 6

end AgentOrchestration.Conversation
