import AgentOrchestration.Conversation.TurnSystem

/-!
# What a turn does to its idempotency key

A turn replays the result that is stored under its key. Otherwise it takes the key with a
set-if-absent, and stores its result there; if it fails, whether it holds the key or not, it stores
the failure.
-/

namespace AgentOrchestration.Conversation

set_option autoImplicit false

open Dialogue (Talk)

/-! ## The protocol of a turn -/

variable (key : String)

def acquisition : Reply := ⟨.redis (.setIfNotExists key processingRecord), .ok true⟩

def Acquired (h : List Reply) : Prop := acquisition key ∈ h

/-- The turn has stored nothing under the key. -/
def Unstored (h : List Reply) : Prop := ∀ reply ∈ h, ∀ data, reply.call ≠ .redis (.set key data)

variable (turn : TurnCall)

/-- What a turn may do to Redis after the replies `h`, and when it may call the model. -/
def Permitted (h : List Reply) : Await → Prop
  | .redis (.setIfNotExists key data) => key = turn.idemStoreKey ∧ data = processingRecord
  | .redis (.set key data) =>
    CacheKey key ∨ key = turn.idemStoreKey ∧ ((∃ error, data = failedRecord error) ∨
        (∃ payload, data = doneRecord payload) ∧ Acquired key h ∧ Unstored key h)
  | .redis (.delete key) => CacheKey key
  | .redis (.incrWithTtl key) => CacheKey key
  | .redis (.incrByFloatWithTtl key _) => CacheKey key
  | .responsesCreate _ => Acquired turn.idemStoreKey h
  | _ => True

def foundResult (payload : Fields) : Reply :=
  ⟨.redis (.get turn.idemStoreKey), .ok (doneRecord payload)⟩

/-- How a turn begins, and that a turn that finds a result replays it and ends. -/
def Opening : List Reply → Await → Prop
  | [], call => call = .put (some (connectedEvent turn))
  | [_], call => call = .redis (.get turn.idemStoreKey)
  | [_, second], call =>
    ∀ payload, second = foundResult turn payload → call = .put (some ⟨.done, payload⟩)
  | [_, second, _], call => ∀ payload, second = foundResult turn payload → call = .put none
  | _ :: second :: _ :: _ :: _, _ => ∀ payload, second ≠ foundResult turn payload

def Protocol (h : List Reply) (call : Await) : Prop := Opening turn h call ∧ Permitted turn h call

def NoResult (h : List Reply) : Prop :=
  ∃ first second rest, h = first :: second :: rest ∧ ∀ payload, second ≠ foundResult turn payload

/-- How a turn ends: it has found no result, or it has replayed one. -/
def Closing (h : List Reply) (_ : Except TurnError Unit) : Prop := NoResult turn h ∨ h.length = 4

def Attempted {ε : Type} (h : List Reply) (outcome : Except ε Unit) : Prop :=
  NoResult turn h ∨ h.length = 4 ∧ outcome = .ok ()

section

variable (libraries : TurnLibraries) (continuity : Option ConversationContinuityPolicy)
  {turn : TurnCall} {h : List Reply}

theorem NoResult.opening (noResult : NoResult turn h) (call : Await) : Opening turn h call := by
  obtain ⟨first, second, rest, rfl, notFound⟩ := noResult
  rcases rest with - | ⟨third, - | ⟨fourth, rest⟩⟩
  · exact fun payload found => absurd found (notFound payload)
  · exact fun payload found => absurd found (notFound payload)
  · exact notFound

theorem NoResult.append (noResult : NoResult turn h) (reply : Reply) :
    NoResult turn (h ++ [reply]) := by
  obtain ⟨first, second, rest, rfl, notFound⟩ := noResult
  exact ⟨first, second, rest ++ [reply], rfl, notFound⟩

theorem Acquired.append {key} (got : Acquired key h) (reply : Reply) :
    Acquired key (h ++ [reply]) :=
  List.mem_append_left _ got

theorem Unstored.append {key reply} (unstored : Unstored key h)
    (other : ∀ data, reply.call ≠ .redis (.set key data)) : Unstored key (h ++ [reply]) := by
  exact List.forall_mem_append.mpr ⟨unstored, List.forall_mem_singleton.mpr other⟩

theorem cacheKey_of_growthKey {key} (growth : GrowthKey key) : CacheKey key := by
  obtain ⟨convKey, rfl | rfl⟩ := growth
  · exact cacheKey_turnsKey convKey
  · exact cacheKey_tokensKey convKey

theorem permitted_of_inner {call} (inner : Inner call)
    (got : Acquired turn.idemStoreKey h) : Permitted turn h call := by
  cases call with
  | redis cmd =>
    cases cmd with
    | get key => trivial
    | setIfNotExists key data => exact inner.elim
    | set key data => exact .inl inner
    | delete key => exact inner
    | incrWithTtl key | incrByFloatWithTtl key amount => exact cacheKey_of_growthKey inner
  | responsesCreate payload => exact got
  | _ => trivial

theorem not_store_of_inner {call} (inner : Inner call) (data : Value) :
    call ≠ .redis (.set turn.idemStoreKey data) := by
  rintro rfl
  exact idemStoreKey_not_cacheKey turn inner

structure Holding (turn : TurnCall) (h : List Reply) : Prop where
  noResult : NoResult turn h
  acquired : Acquired turn.idemStoreKey h
  unstored : Unstored turn.idemStoreKey h

theorem meets_inner {ε α : Type} {talk : TurnTalk ε α} (only : talk.Only Inner)
    (holding : Holding turn h) :
    talk.Meets (Protocol turn) (fun after _ => Holding turn after) h := by
  refine Talk.Only.meets (fun before call holding inner => ?_) only holding
  refine ⟨⟨holding.noResult.opening call, permitted_of_inner inner holding.acquired⟩,
    fun answer => ?_⟩
  exact ⟨holding.noResult.append _, holding.acquired.append _,
    holding.unstored.append (not_store_of_inner inner)⟩

theorem meets_noResult {ε α : Type} {P : Await → Prop} {talk : TurnTalk ε α} (only : talk.Only P)
    (permitted : ∀ h call, P call → Permitted turn h call) (noResult : NoResult turn h) :
    talk.Meets (Protocol turn) (fun after _ => NoResult turn after) h := by
  refine Talk.Only.meets (fun before call noResult holds => ?_) only noResult
  exact ⟨⟨noResult.opening call, permitted before call holds⟩, fun answer => noResult.append _⟩

theorem meets_acquire (noResult : NoResult turn h) (unstored : Unstored turn.idemStoreKey h) :
    (acquire turn).Meets (Protocol turn)
      (fun after out => NoResult turn after ∧ (out = .ok () → Holding turn after)) h := by
  refine Talk.Meets.await_bind ⟨noResult.opening _, rfl, rfl⟩ (fun err => ?_) (fun got => ?_)
  · exact ⟨noResult.append _, fun raised => nomatch raised⟩
  · cases got with
    | false => exact ⟨noResult.append _, fun raised => nomatch raised⟩
    | true =>
      refine ⟨noResult.append _, fun _ => ⟨noResult.append _, ?_, unstored.append ?_⟩⟩
      · exact List.mem_append_right h (List.mem_singleton_self _)
      · intro data eq
        cases eq

theorem meets_finishTurn (finalText : String) (progress : Progress) (holding : Holding turn h) :
    (finishTurn turn finalText progress).Meets (Protocol turn)
      (fun after _ => NoResult turn after) h := by
  refine ⟨⟨holding.noResult.opening _, trivial⟩, fun announced => ?_⟩
  have isHolding :
      Holding turn (h ++ [⟨.put (some ⟨.done, resultPayload turn finalText⟩), announced⟩]) := by
    refine ⟨holding.noResult.append _, holding.acquired.append _, holding.unstored.append ?_⟩
    intro data eq
    cases eq
  refine ⟨⟨isHolding.noResult.opening _, .inr ⟨rfl, .inr ⟨⟨_, rfl⟩, ?_⟩⟩⟩, fun stored => ?_⟩
  · exact ⟨isHolding.acquired, isHolding.unstored⟩
  · have noResult := isHolding.noResult.append
      ⟨.redis (.set turn.idemStoreKey (doneRecord (resultPayload turn finalText))), stored⟩
    cases stored with
    | error err => exact noResult
    | ok _ => exact ⟨⟨noResult.opening _, trivial⟩, fun _ => noResult.append _⟩

theorem replayedPayload_doneRecord (payload : Fields) :
    replayedPayload libraries (doneRecord payload) = .ok payload := by
  cases payload <;> rfl

theorem meets_replayTurn {first cached} :
    (replayTurn libraries cached).Meets (Protocol turn) (Attempted turn)
      [first, ⟨.redis (.get turn.idemStoreKey), .ok cached⟩] := by
  have stored : ∀ payload, (⟨.redis (.get turn.idemStoreKey), .ok cached⟩ : Reply) =
      foundResult turn payload → cached = doneRecord payload := by
    intro payload eq
    cases eq
    rfl
  unfold replayTurn
  cases replayed : replayedPayload libraries cached with
  | error err =>
    refine .inl ⟨first, _, [], rfl, fun payload found => ?_⟩
    rw [stored payload found, replayedPayload_doneRecord] at replayed
    cases replayed
  | ok payload =>
    refine ⟨⟨fun other found => ?_, trivial⟩, fun _ => ⟨⟨fun _ _ => rfl, trivial⟩, fun _ => ?_⟩⟩
    · rw [stored other found, replayedPayload_doneRecord] at replayed
      rw [Except.ok.inj replayed]
    · exact .inr ⟨rfl, rfl⟩

theorem meets_attemptTurn_protocol {first : Reply}
    (connected : first.call = .put (some (connectedEvent turn))) :
    (attemptTurn libraries continuity turn).Meets (Protocol turn) (Attempted turn) [first] := by
  refine ⟨⟨rfl, trivial⟩, fun answer => ?_⟩
  cases answer with
  | error err =>
    refine .inl ⟨first, _, [], rfl, fun payload found => ?_⟩
    cases found
  | ok cached =>
    show Talk.Meets _ _ (if _ then _ else _) _
    split
    · exact meets_replayTurn libraries
    · rename_i notDone
      have noResult : NoResult turn [first, ⟨.redis (.get turn.idemStoreKey), .ok cached⟩] := by
        refine ⟨first, _, [], rfl, fun payload found => notDone ?_⟩
        cases found
        rfl
      have unstored :
          Unstored turn.idemStoreKey [first, ⟨.redis (.get turn.idemStoreKey), .ok cached⟩] := by
        intro reply mem data eq
        rcases List.mem_cons.mp mem with rfl | rest
        · rw [connected] at eq
          cases eq
        · rw [List.mem_singleton.mp rest] at eq
          cases eq
      refine .bind (Q := fun after out => NoResult turn after ∧
        (out = .ok () → Holding turn after)) ?_ (fun _ _ holds => .inl holds.1) ?_
      · intro _ after got
        refine .bind (fun res after holding => ?_) (fun _ _ holding => .inl holding.noResult)
          (meets_inner (only_runTurn libraries continuity turn) (got.2 rfl))
        obtain ⟨finalText, progress⟩ := res
        refine Talk.Meets.imp ?_ (meets_finishTurn finalText progress holding)
        exact fun _ _ noResult => .inl noResult
      · refine .mapError ?_ ?_ (meets_acquire noResult unstored)
        · exact fun after val holds => ⟨holds.1, fun _ => holds.2 rfl⟩
        · exact fun after err holds => ⟨holds.1, fun raised => nomatch raised⟩

theorem meets_handleFailure_protocol (failure : Failure) (noResult : NoResult turn h) :
    (handleFailure turn failure).Meets (Protocol turn) (fun after _ => NoResult turn after) h := by
  refine meets_noResult (P := fun call => (∃ item, call = .put item) ∨
    (∃ id output status error, call = .updateInteractionResult id output status error) ∨
    ∃ error, call = .redis (.set turn.idemStoreKey (failedRecord error))) ?_ ?_ noResult
  · refine .bind (fun _ => .bind (fun _ => .bind (fun _ => ?_) ?_) ?_) ?_
    · exact only_put (.inl ⟨_, rfl⟩)
    · exact only_put (.inl ⟨_, rfl⟩)
    · unfold failInteraction
      cases failure.progress.interactionId with
      | none => trivial
      | some interactionId => exact only_await (.inr (.inl ⟨_, _, _, _, rfl⟩))
    · exact only_await (.inr (.inr ⟨_, rfl⟩))
  · rintro before call (⟨item, rfl⟩ | ⟨id, output, status, error, rfl⟩ | ⟨error, rfl⟩)
    · trivial
    · trivial
    · exact .inr ⟨rfl, .inl ⟨error, rfl⟩⟩

/-- **Every turn keeps to the protocol of its key.** -/
theorem meets_protocol (turn : TurnCall) :
    (runDirect libraries continuity turn).Meets (Protocol turn) (Closing turn) [] := by
  refine ⟨⟨rfl, trivial⟩, fun connected => ?_⟩
  show Talk.Meets _ _ (Talk.attempt (attemptTurn libraries continuity turn) >>= _) [_]
  refine .bind (Q := fun after res => ∃ out, res = .ok out ∧ Attempted turn after out) ?_ ?_
    (.attempt (meets_attemptTurn_protocol libraries continuity rfl))
  · rintro out after ⟨inner, same, attempted⟩
    cases same
    cases out with
    | ok _ => exact attempted.imp id And.left
    | error failure =>
      have noResult : NoResult turn after := by
        rcases attempted with noResult | ⟨-, gave⟩
        · exact noResult
        · cases gave
      refine Talk.Meets.imp ?_ (meets_handleFailure_protocol failure noResult)
      exact fun _ _ kept => .inl kept
  · rintro err after ⟨inner, same, -⟩
    cases same

end

end AgentOrchestration.Conversation
