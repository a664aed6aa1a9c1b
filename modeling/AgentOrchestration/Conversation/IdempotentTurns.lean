import AgentOrchestration.Conversation.TurnProtocol

/-!
# Turns with one idempotency key

Turns that have the same key run side by side, over a Redis in which the key does not expire.
-/

namespace AgentOrchestration.Conversation

set_option autoImplicit false

open Dialogue (Disciplined Lawful step_reply step_outside pending_of_ask replied_answered
  replied_start
  labelAt_step not_replied_of_le)
open LabelledSystem (trace final trace_append final_append guarded_invariant final_invariant
  action_mem_of_trace)

/-! ## Undisturbed runs -/

def isFailed : Value → Bool
  | .dict record => record.lookup "status" = some (.str "FAILED")
  | _ => false

variable (key : String)

def resultStored (store : ConversationStore) : Bool := (store.redis key).any isDone

variable (host : ConversationHost)

def OtherAttempt (place : ℕ) : Prop :=
  ∃ other ∈ List.range host.tasks.length,
    other ≠ place ∧ (host.labelAt other).map TurnCall.idemStoreKey = some key

instance (key : String) (host : ConversationHost) (place : ℕ) :
    Decidable (OtherAttempt key host place) :=
  inferInstanceAs (Decidable (∃ _ ∈ _, _))

def looksUp : Await → Bool
  | .redis (.get read) => read = key
  | _ => false

def storesFailure : Await → Bool
  | .redis (.set written data) => written = key && isFailed data
  | _ => false

structure UndisturbedCall (key : String) (host : ConversationHost) (place : ℕ)
    (behaviour : Behaviour) (call : Await) : Prop where
  answered : looksUp key call = true → behaviour.fault = none
  spared : storesFailure key call = true → resultStored key host.shared = false ∧
    OtherAttempt key host place

instance (key : String) (host : ConversationHost) (place : ℕ) (behaviour : Behaviour)
    (call : Await) : Decidable (UndisturbedCall key host place behaviour call) :=
  decidable_of_iff ((looksUp key call = true → behaviour.fault = none) ∧
    (storesFailure key call = true →
        resultStored key host.shared = false ∧ OtherAttempt key host place))
    ⟨fun both => ⟨both.1, both.2⟩, fun undisturbed => ⟨undisturbed.answered, undisturbed.spared⟩⟩

def Unexpired : ConversationMove → Prop
  | .outside (.expire expired) => expired ≠ key
  | _ => True

/-- Nothing disturbs what a turn does to the key. -/
def Undisturbed : ConversationMove → Prop
  | .reply place behaviour =>
    ∀ call ∈ host.pending place, UndisturbedCall key host place behaviour call
  | _ => True

instance (key : String) : (move : ConversationMove) → Decidable (Unexpired key move)
  | .start _ => .isTrue trivial
  | .outside (.expire expired) => inferInstanceAs (Decidable (expired ≠ key))
  | .outside (.createSession _) => .isTrue trivial
  | .reply _ _ => .isTrue trivial

instance (key : String) (host : ConversationHost) :
    (move : ConversationMove) → Decidable (Undisturbed key host move)
  | .start _ => .isTrue trivial
  | .outside _ => .isTrue trivial
  | .reply place behaviour =>
    inferInstanceAs
      (Decidable (∀ call ∈ host.pending place, UndisturbedCall key host place behaviour call))

/-! ## The record under a key -/

section

variable {key : String} {behaviour : Behaviour} {store after : ConversationStore}

def redisKey : Await → Option String
  | .redis command => some command.key
  | _ => none

theorem perform_of_ne {call answer} (other : redisKey call ≠ some key)
    (ran : perform behaviour call store = some (after, answer)) :
    after.redis key = store.redis key := by
  cases call with
  | redis cmd =>
    rcases performRedis_cases ran with rfl | rfl
    · exact RedisCommand.run_of_ne fun eq => other (congrArg some eq.symm)
    · rfl
  | insertSession row =>
    rcases performInsert_cases (Option.some.inj ran) with ins | ⟨rfl, -⟩
    · rw [(insertSession_eq_some ins).2]
    · rfl
  | conversationsCreate convKey seedText =>
    rcases performCreate_cases ran with ⟨id, -, -, -, rfl⟩ | ⟨rfl, -⟩ <;> rfl
  | findSession sessionId =>
    simp only [perform] at ran
    split at ran <;>
      exact (congrArg (fun res => res.1.redis key) (Option.some.inj ran)).symm
  | _ => exact (congrArg (fun res => res.1.redis key) (Option.some.inj ran)).symm

/-- What the reply to a permitted call means for the record under the key, and what more if the
call is undisturbed. -/
structure KeyStep (key : String) (host : ConversationHost) (place : ℕ) (behaviour : Behaviour)
    (replies : List Reply) (reply : Reply) (shared : ConversationStore) : Prop where
  acquires : reply = acquisition key → host.shared.redis key = none ∧ shared.redis key ≠ none
  stays : host.shared.redis key ≠ none → shared.redis key ≠ none
  stores : ∀ payload, shared.redis key = some (doneRecord payload) →
    host.shared.redis key = some (doneRecord payload) ∨
      (∃ data, reply.call = .redis (.set key data)) ∧ Acquired key replies
  keeps : UndisturbedCall key host place behaviour reply.call →
    ∀ payload, host.shared.redis key = some (doneRecord payload) →
    shared.redis key = some (doneRecord payload) ∨ Acquired key replies ∧ Unstored key replies
  fails : UndisturbedCall key host place behaviour reply.call →
    ∀ error, reply.call = .redis (.set key (failedRecord error)) →
    OtherAttempt key host place
  finds : UndisturbedCall key host place behaviour reply.call → reply.call = .redis (.get key) →
    reply = ⟨.redis (.get key), .ok ((host.shared.redis key).getD .null)⟩

variable {record : Value}

theorem doneRecord_ne (notDone : isDone record = false) (payload : Fields) :
    doneRecord payload ≠ record := by
  rintro rfl
  cases notDone

theorem isDone_of_stored {payload} (stored : store.redis key = some (doneRecord payload)) :
    resultStored key store = true := by
  rw [resultStored, stored]
  rfl

variable {shared : ConversationStore} {place : ℕ} {replies : List Reply}

/-- A step that leaves the record alone and does not concern the key. -/
theorem keyStep_of_ne {host reply}
    (other : redisKey reply.call ≠ some key) (eq : shared.redis key = host.shared.redis key) :
    KeyStep key host place behaviour replies reply shared where
  acquires := by
    rintro rfl
    exact absurd rfl other
  stays := fun has => eq.trans_ne has
  stores := fun payload stored => .inl (eq.symm.trans stored)
  keeps := fun _ payload stored => .inl (eq.trans stored)
  fails := fun _ err stores => absurd (congrArg redisKey stores) other
  finds := fun _ reads => absurd (congrArg redisKey reads) other

theorem run_setIfNotExists (data redis) :
    ((RedisCommand.setIfNotExists key data).run redis).1 key = some ((redis key).getD data) := by
  simp only [RedisCommand.run]
  cases found : redis key with
  | none => exact Function.update_self key _ _
  | some record => exact found

theorem absent_of_acquired {data}
    (ran : performRedis behaviour.fault (.setIfNotExists key data) store =
      some (shared, .ok true)) :
    store.redis key = none ∧ shared.redis key ≠ none := by
  unfold performRedis at ran
  split at ran
  · obtain ⟨rfl, isTrue⟩ := Prod.mk.inj (Option.some.inj ran)
    refine ⟨?_, (run_setIfNotExists _ _).trans_ne (Option.some_ne_none _)⟩
    simp only [RedisCommand.run] at isTrue
    split at isTrue
    · assumption
    · cases isTrue
  · cases ran
  · cases ran
  · cases ran

variable {command : RedisCommand} {answer : Except TurnError command.Answer}

theorem written_or_same (ran : performRedis behaviour.fault command store = some (after, answer))
    (writes : (command.run store.redis).1 key = some record) :
    after.redis key = some record ∨ after.redis key = store.redis key := by
  rcases performRedis_cases ran with rfl | rfl
  · exact .inl writes
  · exact .inr rfl

theorem present_of_effect
    (effect : after.redis key = some record ∨ after.redis key = store.redis key)
    (has : store.redis key ≠ none) : after.redis key ≠ none := by
  rcases effect with written | eq
  · exact written.trans_ne (Option.some_ne_none _)
  · exact eq.trans_ne has

section

variable {host : ConversationHost} {place : ℕ} {replies : List Reply} {shared : ConversationStore}

theorem keyStep_of_acquire {answer}
    (ran : performRedis behaviour.fault (.setIfNotExists key processingRecord) host.shared =
      some (shared, answer)) :
    KeyStep key host place behaviour replies ⟨.redis (.setIfNotExists key processingRecord), answer⟩
      shared := by
  have effect := written_or_same ran (run_setIfNotExists _ _)
  refine ⟨fun got => ?_, fun has => ?_, fun payload stored => .inl ?_,
    fun _ payload stored => .inl ?_, fun _ err stores => (nomatch stores),
    fun _ reads => (nomatch reads)⟩
  · cases got
    exact absent_of_acquired ran
  · exact present_of_effect effect has
  · rcases effect with written | eq
    · cases found : host.shared.redis key with
      | none =>
        rw [stored, found] at written
        exact absurd (Option.some.inj written) (doneRecord_ne rfl payload)
      | some record =>
        rw [stored, found] at written
        exact written.symm
    · exact eq.symm.trans stored
  · rcases effect with written | eq
    · rw [written, stored]
      rfl
    · exact eq.trans stored

theorem keyStep_of_failure {err answer}
    (ran : performRedis behaviour.fault (.set key (failedRecord err)) host.shared =
      some (shared, answer)) :
    KeyStep key host place behaviour replies ⟨.redis (.set key (failedRecord err)), answer⟩
      shared := by
  have effect := written_or_same ran (Function.update_self key _ _)
  have spared : UndisturbedCall key host place behaviour (.redis (.set key (failedRecord err))) →
      resultStored key host.shared = false ∧ OtherAttempt key host place :=
    fun calm => calm.spared (Bool.and_eq_true_iff.mpr ⟨decide_eq_true rfl, rfl⟩)
  refine ⟨fun got => (nomatch got), fun has => ?_, fun payload stored => .inl ?_,
    fun calm payload stored => ?_, fun calm _ _ => (spared calm).2,
    fun _ reads => (nomatch reads)⟩
  · exact present_of_effect effect has
  · rcases effect with written | eq
    · rw [stored] at written
      exact absurd (Option.some.inj written) (doneRecord_ne rfl payload)
    · exact eq.symm.trans stored
  · have noResult := (spared calm).1
    rw [isDone_of_stored stored] at noResult
    cases noResult

theorem keyStep_of_result {payload answer} (got : Acquired key replies)
    (unstored : Unstored key replies)
    (ran : performRedis behaviour.fault (.set key (doneRecord payload)) host.shared =
      some (shared, answer)) :
    KeyStep key host place behaviour replies ⟨.redis (.set key (doneRecord payload)), answer⟩
      shared := by
  have effect := written_or_same ran (Function.update_self key _ _)
  refine ⟨fun got => (nomatch got), fun has => ?_, fun payload stored => .inr ⟨⟨_, rfl⟩, got⟩,
    fun _ payload stored => .inr ⟨got, unstored⟩, fun _ err stores => ?_,
    fun _ reads => (nomatch reads)⟩
  · exact present_of_effect effect has
  · injection stores with same
    injection same with _ isFailure
    exact absurd isFailure (doneRecord_ne rfl payload)

end

theorem keyStep_of_command {host turn}
    (owned : ¬ CacheKey command.key) (permitted : Permitted turn replies (.redis command))
    (ran : performRedis behaviour.fault command host.shared = some (shared, answer)) :
    KeyStep command.key host place behaviour replies ⟨.redis command, answer⟩ shared := by
  cases command with
  | get read =>
    have eq : shared = host.shared := (performRedis_cases ran).elim id id
    subst eq
    refine ⟨fun acquired => (nomatch acquired), id, fun _ => .inl, fun _ _ => .inl,
      fun _ err stores => (nomatch stores), fun calm _ => ?_⟩
    have unfaulty : behaviour.fault = none := calm.answered (decide_eq_true rfl)
    rw [unfaulty] at ran
    rw [← (Prod.mk.inj (Option.some.inj ran)).2]
    rfl
  | setIfNotExists written data =>
    obtain ⟨-, rfl⟩ := permitted
    exact keyStep_of_acquire ran
  | set written data =>
    rcases permitted with cache | ⟨-, ⟨err, rfl⟩ | ⟨⟨payload, rfl⟩, acquired, unstored⟩⟩
    · exact absurd cache owned
    · exact keyStep_of_failure ran
    · exact keyStep_of_result acquired unstored ran
  | delete written | incrWithTtl written | incrByFloatWithTtl written amount =>
    exact absurd permitted owned

end

/-! ## What a run leaves under a key -/

/-- Who has acquired a key and stored what there, among turns that keep to the protocol. -/
structure KeyHistory (key : String) (host : ConversationHost) : Prop
    extends Disciplined Protocol Closing host where
  unique : ∀ first second, host.Replied first (· = acquisition key) →
    host.Replied second (· = acquisition key) → first = second
  present : ∀ place, host.Replied place (· = acquisition key) → host.shared.redis key ≠ none
  stored : ∀ payload, host.shared.redis key = some (doneRecord payload) →
    ∃ place, host.Replied place (· = acquisition key) ∧
      host.Replied place fun reply => ∃ data, reply.call = .redis (.set key data)
  failed : ∀ place,
    (host.Replied place fun reply => ∃ error, reply.call = .redis (.set key (failedRecord error))) →
    OtherAttempt key host place

section

variable {libraries : TurnLibraries} {continuity : Option ConversationContinuityPolicy}
  {key : String} {host after : ConversationHost}

theorem keyHistory_idle (key : String) : KeyHistory key ⟨emptyStore, []⟩ where
  toDisciplined := Dialogue.disciplined_idle _
  unique := fun _ _ got => absurd got (not_replied_of_le (Nat.zero_le _))
  present := fun _ got => absurd got (not_replied_of_le (Nat.zero_le _))
  stored := fun _ stored => nomatch stored
  failed := fun _ failed => absurd failed (not_replied_of_le (Nat.zero_le _))

variable {place : ℕ}

theorem otherAttempt_iff : OtherAttempt key host place ↔
      ∃ other turn, other ≠ place ∧ host.labelAt other = some turn ∧ turn.idemStoreKey = key := by
  constructor
  · rintro ⟨other, -, different, hasKey⟩
    obtain ⟨turn, isLabel, eq⟩ := Option.map_eq_some_iff.mp hasKey
    exact ⟨other, turn, different, isLabel, eq⟩
  · rintro ⟨other, turn, different, isLabel, eq⟩
    refine ⟨other, List.mem_range.mpr ?_, different, Option.map_eq_some_iff.mpr ⟨turn, isLabel, eq⟩⟩
    obtain ⟨task, there, -⟩ := Option.map_eq_some_iff.mp isLabel
    exact (List.getElem?_eq_some_iff.mp there).1

variable {move : ConversationMove}

theorem OtherAttempt.step
    (ran : (conversationSystem libraries continuity).step host move = some after)
    (otherAttempt : OtherAttempt key host place) : OtherAttempt key after place := by
  obtain ⟨other, turn, different, isLabel, eq⟩ := otherAttempt_iff.mp otherAttempt
  exact otherAttempt_iff.mpr ⟨other, turn, different, labelAt_step ran isLabel, eq⟩

variable {shared : ConversationStore}

theorem happen_unexpired {event} (unexpired : Unexpired key (.outside event))
    (happened : happen event host.shared = some shared) :
    shared.redis key = host.shared.redis key := by
  cases event with
  | expire expired =>
    rw [← Option.some.inj happened]
    exact Function.update_of_ne (Ne.symm unexpired) _ _
  | createSession row => rw [(insertSession_eq_some happened).2]

/-- What a move means for the key: it leaves the record and the replies alone, or it is a reply to a
permitted call. -/
inductive KeyMove (key : String) (host : ConversationHost) (move : ConversationMove) :
    ConversationHost → Prop
  | quiet {after : ConversationHost} (same : after.shared.redis key = host.shared.redis key)
      (replied : ∀ place (P : Reply → Prop), after.Replied place P ↔ host.Replied place P) :
      KeyMove key host move after
  | reply {place : ℕ} {behaviour : Behaviour} {label : TurnCall} {replies : List Reply}
      {reply : Reply} {next : Except TurnError reply.call.Answer → Turn Unit}
      {shared : ConversationStore}
      (found : host.tasks[place]? = some ⟨label, replies, .ask reply.call next⟩)
      (step : KeyStep key host place behaviour replies reply shared)
      (calm : Undisturbed key host move → UndisturbedCall key host place behaviour reply.call) :
      KeyMove key host move (host.answered place shared label replies reply next)

theorem keyMove_of_step (owned : ¬ CacheKey key) (disciplined : Disciplined Protocol Closing host)
    (unexpired : Unexpired key move)
    (ran : (conversationSystem libraries continuity).step host move = some after) :
    KeyMove key host move after := by
  cases move with
  | start turn =>
    cases ran
    exact .quiet rfl fun _ _ => replied_start
  | reply place behaviour =>
    obtain ⟨label, replies, reply, next, shared, found, result, rfl⟩ := step_reply ran
    refine .reply found ?_ fun calm => calm reply.call (pending_of_ask found)
    have lawful := disciplined.lawful_of_ask found
    obtain ⟨call, answer⟩ := reply
    by_cases other : redisKey call = some key
    · cases call with
      | redis cmd =>
        cases other
        exact keyStep_of_command owned lawful.2 result
      | _ => cases other
    · exact keyStep_of_ne other (perform_of_ne other result)
  | outside event =>
    obtain ⟨shared, happened, rfl⟩ := step_outside ran
    exact .quiet (happen_unexpired unexpired happened) fun _ _ => Iff.rfl

theorem KeyHistory.quiet (history : KeyHistory key host)
    (disciplined : Disciplined Protocol Closing after)
    (eq : after.shared.redis key = host.shared.redis key)
    (replied : ∀ place (P : Reply → Prop), after.Replied place P ↔ host.Replied place P)
    (tries : ∀ place, OtherAttempt key host place → OtherAttempt key after place) :
    KeyHistory key after where
  toDisciplined := disciplined
  unique := by
    intro first second acquired again
    exact history.unique first second ((replied _ _).mp acquired) ((replied _ _).mp again)
  present := by
    intro place acquired
    exact eq.trans_ne (history.present place ((replied _ _).mp acquired))
  stored := by
    intro payload stored
    obtain ⟨place, acquired, storing⟩ := history.stored payload (eq.symm.trans stored)
    exact ⟨place, (replied _ _).mpr acquired, (replied _ _).mpr storing⟩
  failed := fun place failed => tries place (history.failed place ((replied _ _).mp failed))

theorem KeyHistory.reply {behaviour label replies reply} {next} (history : KeyHistory key host)
    (found : host.tasks[place]? = some ⟨label, replies, .ask reply.call next⟩)
    (step : KeyStep key host place behaviour replies reply shared)
    (calm : UndisturbedCall key host place behaviour reply.call)
    (isAfter : after = host.answered place shared label replies reply next)
    (disciplined : Disciplined Protocol Closing after)
    (tries : ∀ place, OtherAttempt key host place → OtherAttempt key after place) :
    KeyHistory key after := by
  subst isAfter
  have acquiredBefore : Acquired key replies → host.Replied place (· = acquisition key) :=
    fun acquired => ⟨_, found, _, acquired, rfl⟩
  refine ⟨disciplined, fun first second acquired again => ?_, fun owner acquired => ?_,
    fun payload stored => ?_, fun owner failed => ?_⟩
  · rcases (replied_answered found).mp acquired with old | ⟨rfl, new⟩
    · rcases (replied_answered found).mp again with older | ⟨rfl, new⟩
      · exact history.unique first second old older
      · exact absurd (step.acquires new).1 (history.present first old)
    · rcases (replied_answered found).mp again with old | ⟨rfl, -⟩
      · exact absurd (step.acquires new).1 (history.present second old)
      · rfl
  · rcases (replied_answered found).mp acquired with old | ⟨-, new⟩
    · exact step.stays (history.present owner old)
    · exact (step.acquires new).2
  · rcases step.stores payload stored with old | ⟨storing, acquired⟩
    · obtain ⟨owner, acquired, storing⟩ := history.stored payload old
      exact ⟨owner, (replied_answered found).mpr (.inl acquired),
        (replied_answered found).mpr (.inl storing)⟩
    · exact ⟨place, (replied_answered found).mpr (.inl (acquiredBefore acquired)),
        (replied_answered found).mpr (.inr ⟨rfl, storing⟩)⟩
  · rcases (replied_answered found).mp failed with old | ⟨rfl, error, stores⟩
    · exact tries owner (history.failed owner old)
    · exact tries owner (step.fails calm error stores)

theorem KeyHistory.step {move} (owned : ¬ CacheKey key) (history : KeyHistory key host)
    (unexpired : Unexpired key move) (undisturbed : Undisturbed key host move)
    (ran : (conversationSystem libraries continuity).step host move = some after) :
    KeyHistory key after := by
  have disciplined := history.toDisciplined.step (meets_protocol libraries continuity) ran
  have tries : ∀ place, OtherAttempt key host place → OtherAttempt key after place :=
    fun _ => OtherAttempt.step ran
  cases keyMove_of_step owned history.toDisciplined unexpired ran with
  | quiet eq replied => exact history.quiet disciplined eq replied tries
  | reply found step calm =>
    exact history.reply found step (calm undisturbed) rfl disciplined tries

structure ResultHeld (key : String) (payload : Fields) (host : ConversationHost) : Prop
    extends KeyHistory key host where
  result : host.shared.redis key = some (doneRecord payload)

/-- The turn that has stored a result stores nothing more, and no other turn holds the key. -/
theorem ResultHeld.keeps {payload place behaviour label replies reply} {next shared}
    (held : ResultHeld key payload host)
    (found : host.tasks[place]? = some ⟨label, replies, .ask reply.call next⟩)
    (step : KeyStep key host place behaviour replies reply shared)
    (calm : UndisturbedCall key host place behaviour reply.call) :
    shared.redis key = some (doneRecord payload) := by
  rcases step.keeps calm payload held.result with kept | ⟨acquired, unstored⟩
  · exact kept
  · obtain ⟨owner, acquiredThere, storing⟩ := held.stored payload held.result
    have eq : owner = place := held.unique owner place acquiredThere ⟨_, found, _, acquired, rfl⟩
    subst eq
    obtain ⟨task, there, earlier, member, data, stores⟩ := storing
    cases there.symm.trans found
    exact absurd stores (unstored earlier member data)

theorem ResultHeld.step {payload move} (owned : ¬ CacheKey key) (held : ResultHeld key payload host)
    (unexpired : Unexpired key move) (undisturbed : Undisturbed key host move)
    (ran : (conversationSystem libraries continuity).step host move = some after) :
    ResultHeld key payload after := by
  refine ⟨held.toKeyHistory.step owned unexpired undisturbed ran, ?_⟩
  cases keyMove_of_step owned held.toDisciplined unexpired ran with
  | quiet eq replied => exact eq.trans held.result
  | reply found step calm => exact held.keeps found step (calm undisturbed)

structure Replaying (turn : TurnCall) (payload : Fields) (place : ℕ) (host : ConversationHost) :
    Prop extends ResultHeld turn.idemStoreKey payload host where
  owner : host.labelAt place = some turn
  finds : ¬ host.Replied place fun reply =>
    reply.call = .redis (.get turn.idemStoreKey) ∧ reply ≠ foundResult turn payload

theorem Replaying.step {turn payload place move}
    (replaying : Replaying turn payload place host) (unexpired : Unexpired turn.idemStoreKey move)
    (undisturbed : Undisturbed turn.idemStoreKey host move)
    (ran : (conversationSystem libraries continuity).step host move = some after) :
    Replaying turn payload place after := by
  have owned := idemStoreKey_not_cacheKey turn
  refine ⟨replaying.toResultHeld.step owned unexpired undisturbed ran,
    labelAt_step ran replaying.owner, fun looked => ?_⟩
  cases keyMove_of_step owned replaying.toDisciplined unexpired ran with
  | quiet eq replied => exact replaying.finds ((replied _ _).mp looked)
  | reply found step calm =>
    rcases (replied_answered found).mp looked with old | ⟨-, reads, ne⟩
    · exact replaying.finds old
    · refine ne ((step.finds (calm undisturbed) reads).trans ?_)
      rw [replaying.result]
      rfl

def replayCalls (turn : TurnCall) (payload : Fields) : List Await :=
  [.put (some (connectedEvent turn)), .redis (.get turn.idemStoreKey),
    .put (some ⟨.done, payload⟩), .put none]

/-- The turn has made the first calls of a script, and the next one is what it is about to do. -/
def Follows (script : List Await) (task : TurnTask) : Prop :=
  task.replies.map Dialogue.Reply.call = script.take task.replies.length ∧
    task.rest.pending = script[task.replies.length]?

instance (script : List Await) (task : TurnTask) : Decidable (Follows script task) :=
  inferInstanceAs (Decidable (_ ∧ _))

section

variable {turn : TurnCall} {payload : Fields} {h : List Reply}

theorem call_of_opening {call} (opening : Opening turn h call)
    (finds : ∀ second, h[1]? = some second → second = foundResult turn payload) :
    (replayCalls turn payload)[h.length]? = some call := by
  rcases h with - | ⟨first, - | ⟨second, - | ⟨third, - | ⟨fourth, rest⟩⟩⟩⟩
  · exact congrArg some (Eq.symm opening)
  · exact congrArg some (Eq.symm opening)
  · exact congrArg some (opening payload (finds second rfl)).symm
  · exact congrArg some (opening payload (finds second rfl)).symm
  · exact absurd (finds second rfl) (opening payload)

variable {task : TurnTask}

theorem follows_of_finds (past : Lawful (Protocol turn) task.replies)
    (ahead : task.rest.Meets (Protocol turn) (Closing turn) task.replies)
    (finds : ∀ reply ∈ task.replies, reply.call = .redis (.get turn.idemStoreKey) →
      reply = foundResult turn payload) :
    Follows (replayCalls turn payload) task := by
  have second : ∀ reply, task.replies[1]? = some reply → reply = foundResult turn payload := by
    intro reply there
    refine finds reply (List.mem_of_getElem? there) ?_
    rcases split : task.replies with - | ⟨first, - | ⟨second, rest⟩⟩
    · rw [split] at there
      cases there
    · rw [split] at there
      cases there
    · rw [split] at there
      cases there
      exact (past [first] reply rest split).1
  constructor
  · refine Lawful.scripted fun before reply after split => ?_
    refine call_of_opening (past before reply after split).1 fun reply' there => second reply' ?_
    rw [split, List.getElem?_append_left (List.getElem?_eq_some_iff.mp there).1, there]
  · have ended : ∀ out, Closing turn task.replies out →
        none = (replayCalls turn payload)[task.replies.length]? := by
      rintro out (⟨first, other, rest, split, notFound⟩ | four)
      · exact absurd (second other (by rw [split]; rfl)) (notFound payload)
      · rw [four]
        rfl
    obtain ⟨label, replies, rest⟩ := task
    cases rest with
    | done val | raised err => exact ended _ ahead
    | ask call next => exact (call_of_opening ahead.1.1 second).symm

theorem Replaying.follows (replaying : Replaying turn payload place host)
    (there : host.tasks[place]? = some task) :
    Follows (replayCalls turn payload) task := by
  have mem := List.mem_of_getElem? there
  have isLabel : task.label = turn := by
    have owner := replaying.owner
    rw [Dialogue.Host.labelAt, there] at owner
    exact Option.some.inj owner
  have past := replaying.past task mem
  have ahead := replaying.ahead task mem
  rw [isLabel] at past ahead
  refine follows_of_finds past ahead fun reply replied reads => ?_
  by_contra different
  exact replaying.finds ⟨task, there, reply, replied, reads, different⟩

end

/-- There is a record under the key, and the turn at a place has not acquired it. -/
structure Recorded (key : String) (place : ℕ) (host : ConversationHost) : Prop
    extends Disciplined Protocol Closing host where
  present : host.shared.redis key ≠ none
  refused : ¬ host.Replied place (· = acquisition key)

theorem Recorded.step {place move} (owned : ¬ CacheKey key) (recorded : Recorded key place host)
    (unexpired : Unexpired key move)
    (ran : (conversationSystem libraries continuity).step host move = some after) :
    Recorded key place after := by
  have disciplined := recorded.toDisciplined.step (meets_protocol libraries continuity) ran
  cases keyMove_of_step owned recorded.toDisciplined unexpired ran with
  | quiet eq replied =>
    exact ⟨disciplined, eq.trans_ne recorded.present, fun got =>
      recorded.refused ((replied _ _).mp got)⟩
  | reply found step calm =>
    refine ⟨disciplined, step.stays recorded.present, fun got => ?_⟩
    rcases (replied_answered found).mp got with old | ⟨-, new⟩
    · exact recorded.refused old
    · exact recorded.present (step.acquires new).1

/-! ## Runs of the service -/

/-- The service before the first turn. -/
def idle : ConversationHost := ⟨emptyStore, []⟩

variable (libraries continuity)

def served (moves : List ConversationMove) : ConversationHost :=
  final (conversationSystem libraries continuity).step idle moves

def UndisturbedRun (key : String) (moves : List ConversationMove) : Prop :=
  ∀ t ∈ trace (conversationSystem libraries continuity).step idle moves,
    Undisturbed key t.before t.action

instance (key : String) (moves : List ConversationMove) :
    Decidable (UndisturbedRun libraries continuity key moves) :=
  inferInstanceAs (Decidable (∀ t ∈ trace _ _ _, Undisturbed key t.before t.action))

/-- Nothing disturbs the key from a state on, and it does not expire. -/
def Calm (key : String) (host : ConversationHost) (moves : List ConversationMove) : Prop :=
  ∀ t ∈ trace (conversationSystem libraries continuity).step host moves,
    Unexpired key t.action ∧ Undisturbed key t.before t.action

variable {libraries continuity}

theorem calm_append {first second} (calm : Calm libraries continuity key host (first ++ second)) :
    Calm libraries continuity key host first ∧ Calm libraries continuity key
        (final (conversationSystem libraries continuity).step host first) second := by
  unfold Calm at calm
  rw [trace_append] at calm
  exact ⟨(List.forall_mem_append.mp calm).1, (List.forall_mem_append.mp calm).2⟩

theorem calm_of_undisturbedRun {moves} (unexpired : ∀ move ∈ moves, Unexpired key move)
    (calm : UndisturbedRun libraries continuity key moves) :
    Calm libraries continuity key idle moves :=
  fun t mem => ⟨unexpired t.action (action_mem_of_trace mem), calm t mem⟩

theorem calm_invariant {I : ConversationHost → Prop} {moves}
    (keep : ∀ host move after, I host → Unexpired key move → Undisturbed key host move →
      (conversationSystem libraries continuity).step host move = some after → I after)
    (holds : I host) (calm : Calm libraries continuity key host moves) :
    I (final (conversationSystem libraries continuity).step host moves) :=
  (guarded_invariant (G := fun host move => Unexpired key move ∧ Undisturbed key host move)
    (fun host move after holds guard => keep host move after holds guard.1 guard.2) moves host holds
    calm).1

variable (libraries continuity) (turn : TurnCall)

def started (host : ConversationHost) : ConversationHost :=
  ⟨host.shared, host.tasks ++ [⟨turn, [], runDirect libraries continuity turn⟩]⟩

theorem step_start (host : ConversationHost) : (conversationSystem libraries continuity).step host
    (.start turn) = some (started libraries continuity turn host) := rfl

theorem labelAt_started (host : ConversationHost) :
    (started libraries continuity turn host).labelAt host.tasks.length = some turn := by
  show Option.map _ (host.tasks ++ [_])[host.tasks.length]? = _
  rw [List.getElem?_append_right le_rfl, Nat.sub_self]
  rfl

theorem not_replied_started (host : ConversationHost) (P : Reply → Prop) :
    ¬ (started libraries continuity turn host).Replied host.tasks.length P :=
  fun replied => not_replied_of_le le_rfl (replied_start.mp replied)

def OnlyAttemptFailed (key : String) (host : ConversationHost) : Prop :=
  ∃ place, ¬ OtherAttempt key host place ∧
    host.Replied place fun reply => ∃ error, reply.call = .redis (.set key (failedRecord error))

def isRefusal (key : String) : Reply → Bool
  | ⟨.redis (.setIfNotExists asked _), .ok false⟩ => asked = key
  | _ => false

def refused (key : String) (task : TurnTask) : Bool := task.replies.any (isRefusal key)

theorem served_start (before later) : served libraries continuity (before ++ .start turn :: later) =
      final (conversationSystem libraries continuity).step
        (started libraries continuity turn (served libraries continuity before)) later := by
  rw [served, final_append]
  rfl

variable {later : List ConversationMove}

theorem replaying_of_held {turn : TurnCall} {payload : Fields}
    (held : ResultHeld turn.idemStoreKey payload host)
    (calm : Calm libraries continuity turn.idemStoreKey host (.start turn :: later)) :
    Replaying turn payload host.tasks.length
      (final (conversationSystem libraries continuity).step (started libraries continuity turn host)
        later) := by
  have start := step_start libraries continuity turn host
  refine calm_invariant (fun _ _ _ holds => holds.step) ?_ (List.forall_mem_cons.mp calm).2
  refine ⟨held.step (idemStoreKey_not_cacheKey turn) ?_ ?_ start,
    labelAt_started libraries continuity turn host,
    not_replied_started libraries continuity turn host _⟩ <;> trivial

theorem recorded_of_present {turn} (disciplined : Disciplined Protocol Closing host)
    (present : host.shared.redis turn.idemStoreKey ≠ none)
    (unexpired : ∀ move ∈ later, Unexpired turn.idemStoreKey move) :
    Recorded turn.idemStoreKey host.tasks.length
      (final (conversationSystem libraries continuity).step (started libraries continuity turn host)
        later) := by
  have start := step_start libraries continuity turn host
  refine (guarded_invariant (fun _ _ _ holds => holds.step (idemStoreKey_not_cacheKey turn)) later
    _ ?_ fun t mem => unexpired t.action (action_mem_of_trace mem)).1
  exact ⟨disciplined.step (meets_protocol libraries continuity) start, present,
    not_replied_started libraries continuity turn host _⟩

theorem disciplined_served (moves : List ConversationMove) :
    Disciplined Protocol Closing (served libraries continuity moves) := by
  refine final_invariant ?_ moves _ (Dialogue.disciplined_idle _)
  exact fun _ _ _ holds performed => holds.step (meets_protocol libraries continuity) performed

/-- **However turns are interleaved, and whatever they are answered, each keeps to its protocol**:
it calls the model only once it has its key, and stores at most one result, under this key. -/
theorem turns_keep_protocol (moves : List ConversationMove) :
    ∀ task ∈ (served libraries continuity moves).tasks,
      Lawful (Protocol task.label) task.replies :=
  (disciplined_served libraries continuity moves).past

/-- **A turn that starts after a result was stored under its key replays the result**, as long as
nothing disturbs the key; and a turn that starts when there is any record under its key does not
acquire it. -/
theorem undisturbed_turns_idempotent (turn : TurnCall)
    (earlier between later : List ConversationMove)
    (unexpired : ∀ move ∈ earlier ++ between ++ .start turn :: later,
      Unexpired turn.idemStoreKey move) :
    ∃ task, (served libraries continuity (earlier ++ between ++ .start turn :: later)).tasks[
        (served libraries continuity (earlier ++ between)).tasks.length]? = some task ∧
      task.label = turn ∧
      (UndisturbedRun libraries continuity turn.idemStoreKey
        (earlier ++ between ++ .start turn :: later) →
        (∀ payload, (served libraries continuity earlier).shared.redis turn.idemStoreKey =
          some (doneRecord payload) → Follows (replayCalls turn payload) task) ∧
        (OnlyAttemptFailed turn.idemStoreKey (served libraries continuity (earlier ++ between)) →
          refused turn.idemStoreKey task = false)) ∧
      ((served libraries continuity (earlier ++ between)).shared.redis turn.idemStoreKey ≠ none →
        acquisition turn.idemStoreKey ∉ task.replies) := by
  have owned := idemStoreKey_not_cacheKey turn
  have owner : (served libraries continuity (earlier ++ between ++ .start turn :: later)).labelAt
      (served libraries continuity (earlier ++ between)).tasks.length = some turn := by
    rw [served_start]
    refine final_invariant (I := fun host : ConversationHost => host.labelAt _ =
      some turn) ?_ later _
      (labelAt_started libraries continuity turn _)
    exact fun _ _ _ isOwner performed => labelAt_step performed isOwner
  obtain ⟨task, there, isLabel⟩ := Option.map_eq_some_iff.mp owner
  refine ⟨task, there, isLabel, fun undisturbed => ?_, fun present acquired => ?_⟩
  · obtain ⟨calmBefore, calmAfter⟩ := calm_append (calm_of_undisturbedRun unexpired undisturbed)
    have history : ∀ moves, Calm libraries continuity turn.idemStoreKey idle moves →
        KeyHistory turn.idemStoreKey (served libraries continuity moves) := fun moves =>
      calm_invariant (fun _ _ _ holds => holds.step owned) (keyHistory_idle _)
    refine ⟨fun payload stored => ?_, fun failed => ?_⟩
    · obtain ⟨calmEarlier, calmBetween⟩ := calm_append calmBefore
      have held : ResultHeld turn.idemStoreKey payload
          (served libraries continuity (earlier ++ between)) := by
        rw [served, final_append]
        exact calm_invariant (fun _ _ _ holds => holds.step owned)
          ⟨history earlier calmEarlier, stored⟩ calmBetween
      rw [served_start] at there
      exact (replaying_of_held libraries continuity held calmAfter).follows there
    · obtain ⟨place, alone, failedThere⟩ := failed
      exact absurd ((history _ calmBefore).failed place failedThere) alone
  · rw [served_start] at there
    refine (recorded_of_present libraries continuity (disciplined_served libraries continuity _)
      present fun move member => unexpired move ?_).refused ⟨task, there, _, acquired, rfl⟩
    exact List.mem_append_right _ (List.mem_cons_of_mem _ member)

end

def keyedTurn : TurnCall := userTurn "request"

def goesOn (place count : ℕ) : List ConversationMove := List.replicate count (.reply place helpful)

def wholeTurn : List ConversationMove := .start keyedTurn :: goesOn 0 19

/-- The second turn replays what the first has stored. -/
theorem second_turn_replays :
    ((served plainTurnLibraries none wholeTurn).shared.redis keyedTurn.idemStoreKey =
        some (doneRecord (resultPayload keyedTurn "Hello"))) ∧
      ∃ task, (served plainTurnLibraries none
        (wholeTurn ++ [] ++ .start keyedTurn :: goesOn 1 4)).tasks[
          (served plainTurnLibraries none (wholeTurn ++ [])).tasks.length]? = some task ∧
        Follows (replayCalls keyedTurn (resultPayload keyedTurn "Hello")) task := by
  have stored : (served plainTurnLibraries none wholeTurn).shared.redis keyedTurn.idemStoreKey =
      some (doneRecord (resultPayload keyedTurn "Hello")) := by decide +kernel
  obtain ⟨task, there, -, idempotent, -⟩ := undisturbed_turns_idempotent plainTurnLibraries none
    keyedTurn wholeTurn [] (goesOn 1 4) (by decide +kernel)
  exact ⟨stored, task, there, (idempotent (by decide +kernel)).1 _ stored⟩

theorem wholeTurn_keeps_protocol : ∃ task ∈ (served plainTurnLibraries none wholeTurn).tasks,
    task.replies.length = 18 ∧ Lawful (Protocol task.label) task.replies := by
  have answered : ∃ task ∈ (served plainTurnLibraries none wholeTurn).tasks,
      task.replies.length = 18 := by
    decide +kernel
  obtain ⟨task, there, all⟩ := answered
  exact ⟨task, there, all, turns_keep_protocol _ _ wholeTurn task there⟩

/-- A turn that starts beside another and finds no record, but does not get the key. -/
def besideTurn : List ConversationMove :=
  [.start keyedTurn, .start keyedTurn] ++ goesOn 0 2 ++ goesOn 1 2 ++ goesOn 0 17

/-- The database is down. -/
def outage : Failure := ⟨.other "OperationalError" "", {}⟩

/-- A turn that gets the key, fails at the session table and stores its failure. -/
def failingTurn : List ConversationMove :=
  .start keyedTurn :: goesOn 0 3 ++
    [.reply 0 ⟨some (.raised outage.error false), helpful.answer⟩, .reply 0 helpful]

/-- A turn that was refused its key stores its failure over the result, which no turn replays after
that. The failure of the only turn blocks the key as well. -/
theorem failure_blocks_key :
    ((served plainTurnLibraries none besideTurn).shared.redis keyedTurn.idemStoreKey =
        some (doneRecord (resultPayload keyedTurn "Hello")) ∧
      ∃ task ∈ (served plainTurnLibraries none
          (besideTurn ++ goesOn 1 2 ++ .start keyedTurn :: goesOn 2 3)).tasks[2]?,
        ¬ Follows (replayCalls keyedTurn (resultPayload keyedTurn "Hello")) task ∧
          refused keyedTurn.idemStoreKey task = true) ∧
    (OnlyAttemptFailed keyedTurn.idemStoreKey (served plainTurnLibraries none failingTurn) ∧
      ∃ task ∈ (served plainTurnLibraries none
          (failingTurn ++ [] ++ .start keyedTurn :: goesOn 1 3)).tasks[1]?,
        refused keyedTurn.idemStoreKey task = true) := by
  refine ⟨⟨by decide +kernel, by decide +kernel⟩, ⟨0, by decide +kernel, ?_⟩, by decide +kernel⟩
  have stored : ∃ task ∈ (served plainTurnLibraries none failingTurn).tasks[0]?,
      ∃ reply ∈ task.replies, reply.call =
        .redis (.set keyedTurn.idemStoreKey (failedRecord (buildStructuredError outage).2)) := by
    decide +kernel
  obtain ⟨task, there, reply, member, stores⟩ := stored
  exact ⟨task, there, reply, member, _, stores⟩

end AgentOrchestration.Conversation
