import AgentOrchestration.Agents.AgentLoop

/-!
# The transcript of an agent run

The loop keeps the messages that it sends to the model in a local list and appends the same
messages to the stored transcript one by one. The two agree whenever the model is called, and
every call of a tool is answered before the model speaks again.
-/

namespace AgentOrchestration.AgentRuntime

set_option autoImplicit false

open Interleaving.Thread (Ensures)
open Program (after)

def AgentRunMessageRow.turnMessage (row : AgentRunMessageRow) : AgentTurnMessage :=
  ⟨row.role, row.content, row.toolCalls, row.toolCallId, row.toolName⟩

variable (record : AgentRunRecord)

def AgentRunRecord.transcript : List AgentTurnMessage := record.listMessages.map (·.turnMessage)

def SendsTranscript (before later : AgentRunRecord) : Prop :=
  later.requests = before.requests ∨
    ∃ request, later.requests = before.requests ++ [request] ∧ request.messages = before.transcript

/-- The turns that the model completed, the first request being sent in an iteration. -/
def completions (env : RuntimeEnvironment) (iteration : ℕ) : List AgentTurnRequest →
    List AgentTurnCompletion
  | [] => []
  | request :: rest =>
    match env.completeAgentTurn iteration request with
    | .ok completion => completion :: completions env (iteration + 1) rest
    | .error _ => completions env (iteration + 1) rest

/-! ## Sequence numbers -/

variable {rows : List AgentRunMessageRow}

theorem lt_nextSequence {row} (mem : row ∈ rows) : row.messageSequence < nextSequence rows := by
  have listed : row.messageSequence ∈ rows.map AgentRunMessageRow.messageSequence :=
    List.mem_map_of_mem mem
  rw [nextSequence]
  cases found : (rows.map AgentRunMessageRow.messageSequence).max? with
  | none =>
    rw [List.max?_eq_none_iff] at found
    rw [found] at listed
    cases listed
  | some highest => exact Nat.lt_succ_of_le ((List.max?_eq_some_iff.mp found).2 _ listed)

def Ordered (rows : List AgentRunMessageRow) : Prop :=
  rows.Pairwise fun first second => first.messageSequence < second.messageSequence

theorem Ordered.append (ordered : Ordered rows) (msg : NewAgentRunMessage) :
    Ordered (rows ++ [{ msg with messageSequence := nextSequence rows }]) := by
  refine List.pairwise_append.mpr ⟨ordered, List.pairwise_singleton _ _, ?_⟩
  intro row mem new isNew
  rw [List.mem_singleton.mp isNew]
  exact lt_nextSequence mem

theorem listMessages_of_ordered {record : AgentRunRecord} (ordered : Ordered record.messages) :
    record.listMessages = record.messages := by
  refine List.mergeSort_of_pairwise (ordered.imp ?_)
  intro first second earlier
  exact decide_eq_true earlier.le

/-! ## Exchanges -/

def Answers (calls : List AgentToolCall) (messages : List AgentTurnMessage) : Prop :=
  messages.map (fun message => (message.role, message.toolCallId)) =
    calls.map fun call => (AgentTurnRole.tool, some call.callId)

/-- A transcript in which calls are answered in order, with the calls that are still to be
answered. -/
inductive Exchanges : List AgentTurnMessage → List AgentToolCall → Prop where
  | prompt {messages : List AgentTurnMessage}
    (silent : ∀ message ∈ messages, message.toolCalls = []) :
      Exchanges messages []
  | turn {messages : List AgentTurnMessage} {message : AgentTurnMessage}
    (before : Exchanges messages [])
      (role : message.role = .assistant) : Exchanges (messages ++ [message]) message.toolCalls
  | answer {messages : List AgentTurnMessage} {message : AgentTurnMessage} {call : AgentToolCall}
      {rest : List AgentToolCall} (before : Exchanges messages (call :: rest))
        (role : message.role = .tool)
      (id : message.toolCallId = some call.callId) : Exchanges (messages ++ [message]) rest

variable (messages : List AgentTurnMessage)

def untilAssistant : List AgentTurnMessage :=
  messages.takeWhile fun message => message.role ≠ .assistant

def SpeaksAgain : Prop := ∃ message ∈ messages, message.role = .assistant

theorem untilAssistant_cons {first} (role : first.role ≠ .assistant) (rest) :
    untilAssistant (first :: rest) = first :: untilAssistant rest := by
  simp [untilAssistant, role]

theorem untilAssistant_append_of_speaks {messages} (speaks : SpeaksAgain messages) (later) :
    untilAssistant (messages ++ later) = untilAssistant messages := by
  induction messages with
  | nil =>
    obtain ⟨msg, member, -⟩ := speaks
    cases member
  | cons first rest ih =>
    by_cases role : first.role = .assistant
    · simp [untilAssistant, role]
    · have others : SpeaksAgain rest := by
        obtain ⟨msg, member, assistant⟩ := speaks
        rcases List.mem_cons.mp member with rfl | inside
        · exact absurd assistant role
        · exact ⟨msg, inside, assistant⟩
      rw [List.cons_append, untilAssistant_cons role, untilAssistant_cons role, ih others]

theorem untilAssistant_of_silent {messages} (silent : ¬ SpeaksAgain messages)
    {msg} (role : msg.role = .assistant) :
    untilAssistant (messages ++ [msg]) = messages := by
  induction messages with
  | nil => simp [untilAssistant, role]
  | cons first rest ih =>
    have other : first.role ≠ .assistant :=
      fun assistant => silent ⟨first, List.mem_cons_self, assistant⟩
    have others : ¬ SpeaksAgain rest := by
      rintro ⟨msg, member, assistant⟩
      exact silent ⟨msg, List.mem_cons_of_mem _ member, assistant⟩
    rw [List.cons_append, untilAssistant_cons other, ih others]

/-- What stands behind a message of the assistant: the answers to its calls, up to the next message
of the assistant, or as far as they have come. -/
def Answered (calls pending : List AgentToolCall) (later : List AgentTurnMessage) : Prop :=
  (SpeaksAgain later → Answers calls (untilAssistant later)) ∧
    (¬ SpeaksAgain later → ∃ answered, calls = answered ++ pending ∧ Answers answered later)

/-- A last message is found at the end or behind what is found before it. -/
theorem split_concat {α : Type} {messages left right : List α} {last msg : α}
    (split : messages ++ [last] = left ++ msg :: right) :
    (right = [] ∧ msg = last) ∨ ∃ inner, right = inner ++ [last] ∧
      messages = left ++ msg :: inner := by
  rcases List.eq_nil_or_concat right with rfl | ⟨inner, final, rfl⟩
  · exact .inl ⟨rfl, (List.append_inj' split rfl).2 |> List.singleton_inj.mp |>.symm⟩
  · rw [List.concat_eq_append] at split ⊢
    rw [← List.cons_append, ← List.append_assoc] at split
    obtain ⟨eq, ends⟩ := List.append_inj' split rfl
    exact .inr ⟨inner, by rw [List.singleton_inj.mp ends], eq⟩

/-- **In a transcript of exchanges every message of the assistant is answered.** -/
theorem Exchanges.answered {messages pending} (exchanges : Exchanges messages pending) :
    ∀ {left right msg}, messages = left ++ msg :: right →
      msg.role = .assistant → msg.toolCalls ≠ [] → Answered msg.toolCalls pending right := by
  induction exchanges with
  | prompt silent =>
    rintro left right msg rfl - calls
    exact absurd (silent msg (by simp)) calls
  | @turn messages last before role ih =>
    intro left right msg split assistant calls
    rcases split_concat split with ⟨rfl, rfl⟩ | ⟨inner, rfl, eq⟩
    · refine ⟨?_, fun _ => ⟨[], rfl, rfl⟩⟩
      rintro ⟨other, member, -⟩
      cases member
    · have earlier := ih eq assistant calls
      have speaks : SpeaksAgain (inner ++ [last]) := ⟨last, by simp, role⟩
      refine ⟨fun _ => ?_, fun silent => absurd speaks silent⟩
      by_cases again : SpeaksAgain inner
      · rw [untilAssistant_append_of_speaks again]
        exact earlier.1 again
      · obtain ⟨answered, all, answers⟩ := earlier.2 again
        rw [untilAssistant_of_silent again role, all, List.append_nil]
        exact answers
  | @answer messages last call rest before role id ih =>
    intro left right msg split assistant calls
    rcases split_concat split with ⟨rfl, rfl⟩ | ⟨inner, rfl, eq⟩
    · rw [role] at assistant
      cases assistant
    · have earlier := ih eq assistant calls
      constructor
      · intro speaks
        have again : SpeaksAgain inner := by
          obtain ⟨other, member, also⟩ := speaks
          rcases List.mem_append.mp member with inside | isLast
          · exact ⟨other, inside, also⟩
          · rw [List.mem_singleton.mp isLast, role] at also
            cases also
        rw [untilAssistant_append_of_speaks again]
        exact earlier.1 again
      · intro silent
        have also : ¬ SpeaksAgain inner := by
          rintro ⟨other, member, speaks⟩
          exact silent ⟨other, List.mem_append_left _ member, speaks⟩
        obtain ⟨answered, all, answers⟩ := earlier.2 also
        refine ⟨answered ++ [call], by rw [all]; simp, ?_⟩
        rw [Answers, List.map_append, List.map_append, answers]
        simp [role, id]

/-! ## Tokens -/

/-- A kind of tokens, summed over the turns that the model completed. -/
def tokenSum (env : RuntimeEnvironment) (key : String) (requests : List AgentTurnRequest) : ℤ :=
  ((completions env 1 requests).map fun completion => completion.tokens key).sum

variable {libraries : Libraries} {env : RuntimeEnvironment} {scope : AgentRunScope}
  {grant : ResolvedToolGrant}

section

variable {request : AgentTurnRequest}

theorem completions_append (earlier : List AgentTurnRequest) (iter : ℕ) :
    completions env iter (earlier ++ [request]) =
      completions env iter earlier ++ completions env (iter + earlier.length) [request] := by
  induction earlier generalizing iter with
  | nil => rfl
  | cons first rest ih =>
    have shift : iter + (first :: rest).length = iter + 1 + rest.length := by
      rw [List.length_cons]
      omega
    rw [List.cons_append, completions, completions, ih, shift]
    cases env.completeAgentTurn iter first with
    | ok completion | error raised => rfl

variable {earlier : List AgentTurnRequest}

theorem tokenSum_append_ok {completion} (key : String)
    (done : env.completeAgentTurn (earlier.length + 1) request = .ok completion) :
    tokenSum env key (earlier ++ [request]) = tokenSum env key earlier + completion.tokens key := by
  rw [tokenSum, completions_append, Nat.add_comm 1, completions, done]
  simp [tokenSum, completions]

theorem tokenSum_append_error {raised}
    (failed : env.completeAgentTurn (earlier.length + 1) request = .error raised) (key) :
    tokenSum env key (earlier ++ [request]) = tokenSum env key earlier := by
  rw [tokenSum, completions_append, Nat.add_comm 1, completions, failed]
  simp [tokenSum, completions]

end

/-! ## The invariant -/

/-- What is stored: messages in their order with some calls to be answered, and a number of
requests. -/
structure Stored (pending : List AgentToolCall) (sent : ℕ) (record : AgentRunRecord) : Prop where
  ordered : Ordered record.messages
  exchanges : Exchanges (record.messages.map (·.turnMessage)) pending
  count : record.requests.length = sent

def Cut (limit : ℕ) (record : AgentRunRecord) : Prop :=
  ∃ pending sent, sent ≤ limit ∧ Stored pending sent record

structure InLoop (env : RuntimeEnvironment) (state : LoopState)
    (pending : List AgentToolCall) (sent : ℕ)
    (record : AgentRunRecord) : Prop extends Stored pending sent record where
  messages : record.messages.map (·.turnMessage) = state.messages
  inputTokens : state.inputTokens = tokenSum env "input_tokens" record.requests
  outputTokens : state.outputTokens = tokenSum env "output_tokens" record.requests

/-- The model has been sent a request and its answer is not yet recorded. -/
structure Asked (env : RuntimeEnvironment) (state : LoopState)
    (request : AgentTurnRequest) (sent : ℕ)
    (record : AgentRunRecord) : Prop extends Stored [] (sent + 1) record where
  messages : record.messages.map (·.turnMessage) = state.messages
  request : ∃ earlier, record.requests = earlier ++ [request] ∧ earlier.length = sent ∧
    state.inputTokens = tokenSum env "input_tokens" earlier ∧
    state.outputTokens = tokenSum env "output_tokens" earlier

structure Returned (env : RuntimeEnvironment) (limit : ℕ) (result : AgentLoopResult)
    (record : AgentRunRecord) :
    Prop where
  stored : ∃ sent ≤ limit, Stored [] sent record
  inputTokens : result.inputTokens = tokenSum env "input_tokens" record.requests
  outputTokens : result.outputTokens = tokenSum env "output_tokens" record.requests

def Stable (I : AgentRunRecord → Prop) : Prop :=
  ∀ record later : AgentRunRecord, later.messages = record.messages →
    later.requests = record.requests →
    I record → I later

section

variable {state : LoopState} {pending : List AgentToolCall} {sent limit : ℕ}
  {record : AgentRunRecord} {request : AgentTurnRequest}

theorem Stored.cut (stored : Stored pending sent record) (within : sent ≤ limit) :
    Cut limit record :=
  ⟨pending, sent, within, stored⟩

theorem stable_stored : Stable (Stored pending sent) := by
  intro record later messages requests stored
  refine ⟨?_, ?_, ?_⟩
  · rw [messages]
    exact stored.ordered
  · rw [messages]
    exact stored.exchanges
  · rw [requests]
    exact stored.count

theorem stable_cut : Stable (Cut limit) := by
  rintro record later messages requests ⟨pending, sent, within, stored⟩
  exact ⟨pending, sent, within, stable_stored record later messages requests stored⟩

theorem stable_inLoop : Stable (InLoop env state pending sent) := by
  intro record later messages requests inLoop
  refine ⟨stable_stored record later messages requests inLoop.toStored, ?_, ?_, ?_⟩
  · rw [messages]
    exact inLoop.messages
  · rw [requests]
    exact inLoop.inputTokens
  · rw [requests]
    exact inLoop.outputTokens

theorem stable_asked : Stable (Asked env state request sent) := by
  intro record later messages requests asked
  refine ⟨stable_stored record later messages requests asked.toStored, ?_, ?_⟩
  · rw [messages]
    exact asked.messages
  · rw [requests]
    exact asked.request

theorem turnMessages_append (msg : NewAgentRunMessage) :
    (record.messages ++ [AgentRunMessageRow.mk msg (nextSequence record.messages)]).map
      (·.turnMessage) = record.messages.map (·.turnMessage) ++
        [⟨msg.role, msg.content, msg.toolCalls, msg.toolCallId, msg.toolName⟩] := by
  simp [AgentRunMessageRow.turnMessage]

theorem InLoop.answer {call : AgentToolCall} {rest} {out : ToolCallOutcome}
    {msg : NewAgentRunMessage} {calls} (inLoop : InLoop env state (call :: rest) sent record)
    (id : out.toolCallId = call.callId)
    (content : (⟨msg.role, msg.content, msg.toolCalls, msg.toolCallId, msg.toolName⟩ :
      AgentTurnMessage) = out.message) :
    InLoop env
      { state with
        messages := state.messages ++ [out.message],
        toolCallCount := state.toolCallCount + 1 } rest sent
      { record with
        messages := record.messages ++ [AgentRunMessageRow.mk msg (nextSequence record.messages)],
        calls := calls } := by
  refine ⟨⟨inLoop.ordered.append msg, ?_, inLoop.count⟩, ?_, inLoop.inputTokens,
    inLoop.outputTokens⟩
  · rw [turnMessages_append, content]
    exact .answer inLoop.exchanges rfl (congrArg some id)
  · rw [turnMessages_append, content, inLoop.messages]

theorem Asked.turn {completion msg} {calls : ℕ} (asked : Asked env state request sent record)
    (done : env.completeAgentTurn (sent + 1) request = .ok completion)
    (content : (⟨msg.role, msg.content, msg.toolCalls, msg.toolCallId, msg.toolName⟩ :
      AgentTurnMessage) = ⟨.assistant, completion.content, completion.toolCalls, none, none⟩) :
    InLoop env (state.afterTurn env (sent + 1) completion) completion.toolCalls (sent + 1)
      { record with
        messages := record.messages ++ [AgentRunMessageRow.mk msg (nextSequence record.messages)],
        calls := calls } := by
  obtain ⟨earlier, requests, rfl, inputTokens, outputTokens⟩ := asked.request
  refine ⟨⟨asked.ordered.append msg, ?_, asked.count⟩, ?_, ?_, ?_⟩
  · rw [turnMessages_append, content]
    exact .turn asked.exchanges rfl
  · rw [turnMessages_append, content, asked.messages]
    rfl
  · rw [requests, tokenSum_append_ok _ done, ← inputTokens]
    rfl
  · rw [requests, tokenSum_append_ok _ done, ← outputTokens]
    rfl

theorem Asked.failed {raised} (asked : Asked env state request sent record)
    (failed : env.completeAgentTurn (sent + 1) request = .error raised) (within : sent + 1 ≤ limit)
    (reason iterationsUsed err) :
    Returned env limit (state.result reason iterationsUsed err) record := by
  obtain ⟨earlier, requests, rfl, inputTokens, outputTokens⟩ := asked.request
  refine ⟨⟨_, within, asked.toStored⟩, ?_, ?_⟩
  · rw [requests, tokenSum_append_error failed]
    exact inputTokens
  · rw [requests, tokenSum_append_error failed]
    exact outputTokens

theorem InLoop.returned (inLoop : InLoop env state [] sent record) (within : sent ≤ limit)
    (reason iterationsUsed err) :
    Returned env limit (state.result reason iterationsUsed err) record :=
  ⟨⟨sent, within, inLoop.toStored⟩, inLoop.inputTokens, inLoop.outputTokens⟩

theorem InLoop.ask (inLoop : InLoop env state [] sent record) (req : AgentTurnRequest) :
    Asked env state req sent { record with requests := record.requests ++ [req] } := by
  refine ⟨⟨inLoop.ordered, inLoop.exchanges, ?_⟩, inLoop.messages, record.requests, rfl,
    inLoop.count, inLoop.inputTokens, inLoop.outputTokens⟩
  rw [List.length_append, inLoop.count]
  rfl

end

/-! ## Steps that do not touch the transcript -/

section

variable {I : AgentRunRecord → Prop}

theorem calm_write (stable : Stable I) {f}
    (messages : ∀ record, (f record).messages = record.messages)
    (requests : ∀ record, (f record).requests = record.requests) :
    Ensures SendsTranscript I (write env f) (fun _ => I) I := by
  refine ensures_write ?_ ?_
  · intro record holds
    exact ⟨.inl (requests record), stable record _ (messages record) (requests record) holds⟩
  · intro record holds
    exact ⟨.inl rfl, stable record _ rfl rfl holds⟩

theorem calm_appendEvent (stable : Stable I) (eventType : AgentRunEventType) (payload : Fields) :
    Ensures SendsTranscript I (appendEvent env eventType payload) (fun _ => I) I :=
  calm_write stable (fun _ => rfl) fun _ => rfl

theorem calm_delegate (stable : Stable I) (req : A2ADelegationRequest) :
    Ensures SendsTranscript I (delegate libraries env req) (fun _ => I) I := by
  refine .bind (.raiseIf _ _ fun _ holds => holds) fun _ => ?_
  refine .bind (ensures_freshUuid fun _ => .inl rfl) fun taskUuid => ?_
  refine .bind (ensures_freshUuid fun _ => .inl rfl) fun uuid => ?_
  refine .bind (calm_write stable (fun _ => rfl) fun _ => rfl) fun _ => ?_
  refine ensures_catchException (.ofExcept _ fun _ holds => holds) (fun _ holds => holds)
    (fun raised => ?_)
    fun res => ?_
  · exact .bind (calm_write stable (fun _ => rfl) fun _ => rfl) fun _ =>
      .raised fun _ holds => holds
  · exact .bind (calm_write stable (fun _ => rfl) fun _ => rfl) fun _ => .done fun _ holds => holds

theorem calm_dispatch (stable : Stable I) (call : AgentToolCall) :
    Ensures SendsTranscript I (dispatch libraries env scope grant call)
      (fun out record => out.toolCallId = call.callId ∧ I record) I := by
  unfold dispatch
  split
  · unfold dispatchDelegation
    dsimp only
    split
    · exact .done fun _ holds => ⟨rfl, holds⟩
    · split
      · exact .done fun _ holds => ⟨rfl, holds⟩
      · split
        · exact .done fun _ holds => ⟨rfl, holds⟩
        · split
          · exact .done fun _ holds => ⟨rfl, holds⟩
          · exact ensures_catchException (calm_delegate stable _) (fun _ holds => holds)
              (fun _ => .done fun _ holds => ⟨rfl, holds⟩) fun _ => .done fun _ holds =>
                ⟨rfl, holds⟩
  · split
    · exact .done fun _ holds => ⟨rfl, holds⟩
    · split
      · exact .raised fun _ holds => holds
      · exact .done fun _ holds => ⟨rfl, holds⟩
      · refine .bind (ensures_freshUuid fun _ => .inl rfl) fun uuid => ?_
        refine .bind (calm_write stable (fun _ => rfl) fun _ => rfl) fun _ => ?_
        exact ensures_catchException (.ofExcept _ fun _ holds => holds) (fun _ holds => holds)
          (fun _ => .done fun _ holds => ⟨rfl, holds⟩) fun _ => .done fun _ holds => ⟨rfl, holds⟩

theorem calm_recordToolOutcome (stable : Stable I) (iter : ℕ) (out : ToolCallOutcome) :
    Ensures SendsTranscript I (recordToolOutcome libraries env iter out) (fun _ => I) I := by
  unfold recordToolOutcome
  dsimp only
  split <;> exact calm_appendEvent stable _ _

end

/-! ## The loop -/

section

variable {limit : ℕ}

/-- A step that leaves the loop where it is; if it raises, the run is cut off. -/
theorem cut_of_calm {α : Type} {Q : α → AgentRunRecord → Prop} {I : AgentRunRecord → Prop}
    {t : Runtime α} (calm : Ensures SendsTranscript I t Q I)
    (cuts : ∀ record, I record → Cut limit record) :
    Ensures SendsTranscript I t Q (Cut limit) :=
  calm.imp (fun _ holds => holds) (fun _ _ holds => holds) cuts

theorem keeps_dispatchCalls {sent limit : ℕ} (within : sent ≤ limit) (iter : ℕ)
    (calls : List AgentToolCall)
    (st : LoopState) :
    Ensures SendsTranscript (InLoop env st calls sent)
      (dispatchCalls libraries env scope grant iter calls st)
      (fun later => InLoop env later [] sent) (Cut limit) := by
  have cuts (calls : List AgentToolCall) (st : LoopState) (record : AgentRunRecord)
      (inLoop : InLoop env st calls sent record) : Cut limit record := inLoop.cut within
  induction calls generalizing st with
  | nil => exact .done fun _ inLoop => inLoop
  | cons call rest ih =>
    refine .bind (cut_of_calm (calm_appendEvent stable_inLoop _ _) (cuts _ _)) fun _ => ?_
    refine .bind (cut_of_calm (calm_dispatch stable_inLoop call) (cuts _ _)) fun out =>
      .of_fact fun id => ?_
    refine .bind (cut_of_calm (calm_recordToolOutcome stable_inLoop _ _) (cuts _ _)) fun _ => ?_
    refine .bind (ensures_write ?_ ?_) fun _ => ih _
    · intro record inLoop
      exact ⟨.inl rfl, inLoop.answer id rfl⟩
    · intro record inLoop
      exact ⟨.inl rfl, stable_cut record _ rfl rfl (inLoop.cut within)⟩

theorem keeps_recordTurn {st : LoopState} {req : AgentTurnRequest}
    {completion : AgentTurnCompletion}
    {sent limit : ℕ} (done : env.completeAgentTurn (sent + 1) req = .ok completion)
    (within : sent + 1 ≤ limit) :
    Ensures SendsTranscript (Asked env st req sent) (recordTurn env (sent + 1) completion)
      (fun _ => InLoop env (st.afterTurn env (sent + 1) completion) completion.toolCalls (sent + 1))
      (Cut limit) := by
  refine .bind (cut_of_calm (calm_appendEvent stable_asked _ _) fun _ asked =>
    asked.cut within) fun _ => ?_
  refine ensures_write ?_ ?_
  · intro record asked
    exact ⟨.inl rfl, asked.turn done rfl⟩
  · intro record asked
    exact ⟨.inl rfl, stable_cut record _ rfl rfl (asked.cut within)⟩

/-- **Whenever the model is called, the loop agrees with what is stored**; by induction on the turns
that are left. -/
theorem keeps_runTurns (flow : AgentDefinition) (turns sent : ℕ) (st : LoopState) :
    Ensures SendsTranscript (InLoop env st [] sent)
      (runTurns libraries env scope flow grant (sent + 1) turns st)
      (Returned env (sent + turns)) (Cut (sent + turns)) := by
  induction turns generalizing sent st with
  | zero => exact .done fun _ inLoop => inLoop.returned (Nat.le_refl _) _ _ _
  | succ turns ih =>
    have within : sent + 1 ≤ sent + (turns + 1) := by omega
    refine .bind (cut_of_calm (calm_appendEvent stable_inLoop _ _)
      fun _ inLoop => inLoop.cut (Nat.le_add_right _ _)) fun _ => ?_
    refine .bind (Q := fun _ => Asked env st (turnRequest libraries scope flow grant st) sent)
      (.update ?_ fun _ inLoop => inLoop.ask _) fun _ => ?_
    · intro record inLoop
      refine .inr ⟨_, rfl, ?_⟩
      rw [AgentRunRecord.transcript, listMessages_of_ordered inLoop.ordered, inLoop.messages]
      rfl
    · split
      · rename_i msg errors failed
        refine .bind (cut_of_calm (calm_appendEvent stable_asked _ _) fun _ asked =>
          asked.cut within) fun _ => ?_
        exact .done fun _ asked => asked.failed failed within _ _ _
      · exact .raised fun _ asked => asked.cut within
      · rename_i completion done
        refine .bind (keeps_recordTurn done within) fun _ => ?_
        dsimp only
        split
        · rename_i silent
          rw [silent]
          exact .done fun _ inLoop => inLoop.returned within _ _ _
        · refine .bind (keeps_dispatchCalls within _ _ _) fun dispatched => ?_
          have rest := ih (sent + 1) dispatched
          have total : sent + 1 + turns = sent + (turns + 1) := by omega
          rwa [total] at rest

theorem keeps_seedTranscript (promptParts : List AgentRunPromptPart) :
    ∀ earlier : List AgentTurnMessage, (∀ msg ∈ earlier, msg.toolCalls = []) →
      Ensures SendsTranscript
        (fun record => Ordered record.messages ∧ record.messages.map (·.turnMessage) = earlier ∧
          record.requests = [])
        (seedTranscript env promptParts)
        (fun _ record => Ordered record.messages ∧
          record.messages.map (·.turnMessage) = earlier ++ promptParts.map (·.toMessage) ∧
            record.requests = [])
        (Cut limit) := by
  induction promptParts with
  | nil =>
    intro earlier silent
    exact .done fun _ before => by simpa using before
  | cons part rest ih =>
    intro earlier silent
    have next := ih (earlier ++ [part.toMessage]) (by
      intro msg mem
      rcases List.mem_append.mp mem with old | new
      · exact silent msg old
      · rw [List.mem_singleton.mp new]
        rfl)
    rw [List.append_assoc] at next
    refine .bind (ensures_write ?_ ?_) fun _ => next
    · rintro record ⟨ordered, messages, requests⟩
      refine ⟨.inl rfl, ordered.append _, ?_, requests⟩
      rw [turnMessages_append, messages]
      rfl
    · rintro record ⟨ordered, messages, requests⟩
      refine ⟨.inl rfl, [], 0, Nat.zero_le _, ordered, ?_, by rw [requests]; rfl⟩
      rw [messages]
      exact .prompt silent

end

theorem keeps_runLoop (libs env scope flow grant promptParts maxIterations) :
    Ensures SendsTranscript (fun record => record.messages = [] ∧ record.requests = [])
      (runLoop libs env scope flow grant promptParts maxIterations)
      (Returned env maxIterations) (Cut maxIterations) := by
  refine .bind ((keeps_seedTranscript promptParts [] nofun).imp ?_ (fun _ _ later => later)
    fun _ cut => cut)
    fun _ => ?_
  · rintro record ⟨messages, requests⟩
    exact ⟨by rw [messages]; exact .nil, by rw [messages]; rfl, requests⟩
  · have turns (st : LoopState) : Ensures SendsTranscript (InLoop env st [] 0)
        (runTurns libs env scope flow grant 1 maxIterations st) (Returned env maxIterations)
        (Cut maxIterations) := by
      simpa only [Nat.zero_add] using keeps_runTurns flow maxIterations 0 st
    refine (turns _).imp ?_ (fun _ _ gave => gave) fun _ cut => cut
    rintro record ⟨ordered, messages, requests⟩
    refine ⟨⟨ordered, ?_, by rw [requests]; rfl⟩,
      messages, by rw [requests]; rfl, by rw [requests]; rfl⟩
    rw [messages]
    refine .prompt ?_
    intro msg mem
    obtain ⟨part, -, rfl⟩ := List.mem_map.mp mem
    rfl

def AgentRunRecord.unwritten : AgentRunRecord := { record with messages := [], requests := [] }

/-- **Transcript integrity.** Whatever the prompt, the model, the tools and the repository do, a run
that starts with an empty transcript sends the stored transcript at each call of the model; it calls
the model at most `maxIterations` times; behind every message of the assistant with calls stand
exactly the answers to these calls in their order, up to the next message of the assistant (and
behind the last one, unless the run was cut off while it was being answered: then the first of these
answers); and the token counts that it returns are the sums over the calls of the model that were
completed. -/
theorem transcript_integrity (libraries : Libraries) (env : RuntimeEnvironment)
    (scope : AgentRunScope)
    (definition : AgentDefinition) (grant : ResolvedToolGrant)
      (promptParts : List AgentRunPromptPart)
    (maxIterations : ℕ) (start : AgentRunRecord) :
    let loop := runLoop libraries env scope definition grant promptParts maxIterations
    let record := after loop.run start.unwritten
    loop.Obeys SendsTranscript start.unwritten ∧ record.requests.length ≤ maxIterations ∧
      (∃ pending, ∀ left message right, record.transcript = left ++ message :: right →
        message.role = .assistant → message.toolCalls ≠ [] →
          Answered message.toolCalls pending right) ∧
      (∀ result later, loop.run start.unwritten = .ok result later →
        (∀ left message right, later.transcript = left ++ message :: right →
          message.role = .assistant → message.toolCalls ≠ [] →
            Answered message.toolCalls [] right) ∧
        result.inputTokens = tokenSum env "input_tokens" later.requests ∧
        result.outputTokens = tokenSum env "output_tokens" later.requests) := by
  intro loop record
  have keeps :
      Ensures SendsTranscript (fun record => record.messages = [] ∧ record.requests = []) loop
      (Returned env maxIterations) (Cut maxIterations) :=
    keeps_runLoop libraries env scope definition grant promptParts maxIterations
  have empty : start.unwritten.messages = [] ∧ start.unwritten.requests = [] := ⟨rfl, rfl⟩
  have cut : Cut maxIterations record := by
    refine (keeps.triple.imp (fun _ before => before) ?_ fun _ cut => cut).after empty
    rintro result later returned
    obtain ⟨sent, within, stored⟩ := returned.stored
    exact stored.cut within
  refine ⟨keeps.obeys _ empty, ?_, ?_, ?_⟩
  · obtain ⟨pending, sent, within, stored⟩ := cut
    exact stored.count.trans_le within
  · obtain ⟨pending, sent, within, stored⟩ := cut
    refine ⟨pending, fun left message right split => ?_⟩
    rw [AgentRunRecord.transcript, listMessages_of_ordered stored.ordered] at split
    exact stored.exchanges.answered split
  · intro result later returns
    have returned : Returned env maxIterations result later := by
      have holds := keeps.triple _ empty
      rw [returns] at holds
      exact holds
    obtain ⟨sent, within, stored⟩ := returned.stored
    refine ⟨fun left message right split => ?_, returned.inputTokens, returned.outputTokens⟩
    rw [AgentRunRecord.transcript, listMessages_of_ordered stored.ordered] at split
    exact stored.exchanges.answered split

end AgentOrchestration.AgentRuntime
