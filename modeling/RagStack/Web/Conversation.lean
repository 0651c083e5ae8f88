import RagStack.Chats.StreamEvents
import RagStack.Web.PendingStream

/-!
# The pending turn in the conversation

`visibleServerMessages` hides the rows of the pending turn by their ids, `isPendingVisible` shows
the pending pair by its status.  The two agree while the turn is streaming.

For somebody who looks at the page, a turn should be there once: not twice when the server returns
its rows early, and not at all only before it exists.  There are three cases.  As long as the client
does not know the ids it hides nothing and shows no pair, so the rows of the server are what is
shown.  While the turn is streaming and the ids are known the rows are hidden and the pair is shown.
When the turn is done, or has failed, and the pending state has not been cleared yet, the rows are
still hidden, but the pair is shown no more.

The last case is a window of time: from the event that ends the turn to the end of the refetch
behind it.  In it the turn disappears from the page, and its prompt from the list.  The state in
which this happens is reached in every turn that is completed.

So the condition for being displayed once is exact.  It is a condition on the pending state, in any
state that can be reached from the start of a send by events of its turn, and whatever else is in
the conversation.

* `ReachedBy` — the states that the pending turn passes through.
* `displayed_once_iff` — prompt and reply are displayed once exactly while the turn is streaming,
  or as long as the client does not know their ids.
* `prompt_hidden` — after `message.completed` neither is on the page.
-/

namespace RagStack

/-- The states of the pending turn, from `send` until it is cleared. -/
inductive ReachedBy (turn : StreamTurn) (content : JsString) : PendingStream → Prop
  | start : ReachedBy turn content (.initial turn.chatId content)
  | event {pending : PendingStream} (event : ChatStreamEvent) : ReachedBy turn content pending →
      (event.isStarted = true → event = turn.started) →
      ReachedBy turn content (applyStreamEvent pending event)
  | failed {pending : PendingStream} (message : String) : ReachedBy turn content pending →
      ReachedBy turn content { pending with status := .Error, errorMessage := some message }

/-- The row shows the prompt `id`, or the pending one. -/
def ShownRow.isPrompt (id : Uuid) : ShownRow → Bool
  | .UserMessage row _ => row = .Message id ∨ row = .Pending
  | .AssistantMessage .. => false

/-- The row shows the reply `id`, or the pending one. -/
def ShownRow.isReply (id : Uuid) : ShownRow → Bool
  | .UserMessage .. => false
  | .AssistantMessage row _ _ => row = .Message id ∨ row = .Pending

/-- The turn is on the page once, and so is its prompt in the list of prompts. -/
structure DisplayedOnce (turn : StreamTurn) (messages : List ChatMessage)
    (pending : Option PendingStream) : Prop where
  prompt : (messageList messages pending).countP (·.isPrompt turn.userMessageId) = 1
  reply : (messageList messages pending).countP (·.isReply turn.assistantMessageId) = 1
  listed : (collectPrompts messages pending).countP
    (fun prompt => prompt.id = .Message turn.userMessageId ∨ prompt.id = .Pending) = 1

/-- The persisted rows of the turn, as a refetch returns them: its prompt and its reply are among
the messages. -/
structure HasRows (turn : StreamTurn) (messages : List ChatMessage) : Prop where
  prompt : ∃ message ∈ messages, message.id = turn.userMessageId ∧ message.role = "user"
  reply : ∃ message ∈ messages, message.id = turn.assistantMessageId ∧ message.role = "assistant"

section Turn

variable {turn : StreamTurn} {content : JsString} {pending : PendingStream}
  {messages : List ChatMessage}

/-- The client knows both ids or none. -/
lemma ReachedBy.ids (h : ReachedBy turn content pending) :
    (pending.userMessageId = none ∧ pending.assistantMessageId = none)
      ∨ pending.userMessageId = some turn.userMessageId
        ∧ pending.assistantMessageId = some turn.assistantMessageId := by
  induction h with
  | start => exact .inl ⟨rfl, rfl⟩
  | event event _ hstarted ih =>
      cases event with
      | StreamStarted chatId userMessageId assistantMessageId model =>
          cases hstarted rfl
          exact .inr ⟨rfl, rfl⟩
      | _ => exact ih
  | failed message _ ih => exact ih

/-- Messages among which `p` singles out the row `message` are counted once. -/
lemma countP_eq_one (hnodup : (messages.map (·.id)).Nodup) {message : ChatMessage}
    (hmem : message ∈ messages) {p : ChatMessage → Bool}
    (hp : ∀ m ∈ messages, p m = true ↔ m.id = message.id) : messages.countP p = 1 := by
  have hcount := List.count_eq_one_of_mem hnodup (List.mem_map_of_mem (f := (·.id)) hmem)
  rw [List.count, List.countP_map] at hcount
  rw [← hcount]
  refine List.countP_congr fun m hm => ?_
  rw [hp m hm, Function.comp_apply, beq_iff_eq]

lemma eq_of_id_eq (hnodup : (messages.map (·.id)).Nodup) {m m' : ChatMessage} (hm : m ∈ messages)
    (hm' : m' ∈ messages) (hid : m.id = m'.id) : m = m' :=
  List.inj_on_of_nodup_map hnodup hm hm' hid

/-- The row of a message on the page. -/
def serverRow (message : ChatMessage) : ShownRow :=
  if message.role = "user" then .UserMessage (.Message message.id) message.content
  else .AssistantMessage (.Message message.id) message.content false

lemma serverRow_isPrompt {message : ChatMessage} {id : Uuid} :
    (serverRow message).isPrompt id = true ↔ message.role = "user" ∧ message.id = id := by
  simp only [serverRow]
  split <;> simp_all [ShownRow.isPrompt]

lemma serverRow_isReply {message : ChatMessage} {id : Uuid} :
    (serverRow message).isReply id = true ↔ message.role ≠ "user" ∧ message.id = id := by
  simp only [serverRow]
  split <;> simp_all [ShownRow.isReply]

/-- Without ids nothing is hidden and no pair is shown. -/
lemma displayedOnce_of_no_ids (hnodup : (messages.map (·.id)).Nodup) (hrows : HasRows turn messages)
    (huser : pending.userMessageId = none) (hreply : pending.assistantMessageId = none) :
    DisplayedOnce turn messages (some pending) := by
  obtain ⟨prompt, hprompt, hpromptId, hpromptRole⟩ := hrows.prompt
  obtain ⟨reply, hreplyMem, hreplyId, hreplyRole⟩ := hrows.reply
  have hvisible : visibleServerMessages messages (some pending) = messages := by
    refine List.filter_eq_self.mpr fun m _ => ?_
    simp [huser, hreply]
  have hpending : isPendingVisible (some pending) = false := by simp [isPendingVisible, huser]
  have hpromptIff :
      ∀ m ∈ messages, m.role = "user" ∧ m.id = turn.userMessageId ↔ m.id = prompt.id := by
    intro m hm
    refine ⟨fun h => h.2.trans hpromptId.symm, fun hid => ?_⟩
    cases eq_of_id_eq hnodup hm hprompt hid
    exact ⟨hpromptRole, hpromptId⟩
  have hreplyIff : ∀ m ∈ messages, m.role ≠ "user" ∧ m.id = turn.assistantMessageId
      ↔ m.id = reply.id := by
    intro m hm
    refine ⟨fun h => h.2.trans hreplyId.symm, fun hid => ?_⟩
    cases eq_of_id_eq hnodup hm hreplyMem hid
    exact ⟨by rw [hreplyRole]; decide, hreplyId⟩
  refine ⟨?_, ?_, ?_⟩
  · simp only [messageList]
    rw [hvisible, hpending]
    simp only [Bool.false_eq_true, if_false, List.append_nil, List.countP_map]
    exact countP_eq_one hnodup hprompt fun m hm => serverRow_isPrompt.trans (hpromptIff m hm)
  · simp only [messageList]
    rw [hvisible, hpending]
    simp only [Bool.false_eq_true, if_false, List.append_nil, List.countP_map]
    exact countP_eq_one hnodup hreplyMem fun m hm => serverRow_isReply.trans (hreplyIff m hm)
  · simp only [collectPrompts]
    rw [hvisible, hpending]
    simp only [Bool.false_eq_true, if_false, List.append_nil, List.countP_map, List.countP_filter]
    refine countP_eq_one hnodup hprompt fun m hm => ?_
    rw [← hpromptIff m hm]
    simp [and_comm]

/-- With its ids the rows of the turn are hidden, and what is left is the pending pair. -/
lemma counts_of_ids (messages : List ChatMessage)
    (huser : pending.userMessageId = some turn.userMessageId)
    (hreply : pending.assistantMessageId = some turn.assistantMessageId) :
    (messageList messages (some pending)).countP (·.isPrompt turn.userMessageId)
        = (if pending.status = .Streaming then 1 else 0)
      ∧ (messageList messages (some pending)).countP (·.isReply turn.assistantMessageId)
        = (if pending.status = .Streaming then 1 else 0)
      ∧ (collectPrompts messages (some pending)).countP
          (fun prompt => prompt.id = .Message turn.userMessageId ∨ prompt.id = .Pending)
        = if pending.status = .Streaming then 1 else 0 := by
  have hvisible : ∀ m ∈ visibleServerMessages messages (some pending),
      m.id ≠ turn.userMessageId ∧ m.id ≠ turn.assistantMessageId := by
    intro m hm
    have h := List.of_mem_filter hm
    simpa [huser, hreply] using h
  have hpending : isPendingVisible (some pending) = decide (pending.status = .Streaming) := by
    simp [isPendingVisible, huser]
  have hhidden : ∀ p : ChatMessage → Bool, (∀ m ∈ visibleServerMessages messages (some pending),
      p m = true → False) → (visibleServerMessages messages (some pending)).countP p = 0 :=
    fun p hp => List.countP_eq_zero.mpr fun m hm => hp m hm
  refine ⟨?_, ?_, ?_⟩
  · simp only [messageList]
    rw [List.countP_append, List.countP_map, hpending, hhidden]
    · split <;> simp_all [ShownRow.isPrompt]
    · exact fun m hm h => (hvisible m hm).1 (serverRow_isPrompt.mp h).2
  · simp only [messageList]
    rw [List.countP_append, List.countP_map, hpending, hhidden]
    · split <;> simp_all [ShownRow.isReply]
    · exact fun m hm h => (hvisible m hm).2 (serverRow_isReply.mp h).2
  · simp only [collectPrompts]
    rw [List.countP_append, List.countP_map, List.countP_filter, hpending, hhidden]
    · split <;> simp_all
    · intro m hm h
      simp only [Function.comp_apply, Bool.and_eq_true, decide_eq_true_eq] at h
      exact (hvisible m hm).1 (by simpa using h.1)

end Turn

/-- **The pending turn is on the page once**, as server rows or as the pending pair, exactly while
it is streaming or has no ids yet.  The messages are those of any refetch in which the rows of the
turn are there. -/
theorem displayed_once_iff (turn : StreamTurn) (content : JsString) (pending : PendingStream)
    (messages : List ChatMessage) (hnodup : (messages.map (·.id)).Nodup)
    (hrows : HasRows turn messages) (hreached : ReachedBy turn content pending) :
    DisplayedOnce turn messages (some pending)
      ↔ pending.status = .Streaming ∨ pending.userMessageId = none := by
  rcases hreached.ids with ⟨huser, hreply⟩ | ⟨huser, hreply⟩
  · exact iff_of_true (displayedOnce_of_no_ids hnodup hrows huser hreply) (.inr huser)
  · obtain ⟨hprompt, hreplies, hlisted⟩ := counts_of_ids messages huser hreply
    by_cases hstatus : pending.status = .Streaming
    · rw [if_pos hstatus] at hprompt hreplies hlisted
      exact iff_of_true ⟨hprompt, hreplies, hlisted⟩ (.inl hstatus)
    · rw [if_neg hstatus] at hprompt
      refine iff_of_false (fun h => ?_) (by simp [hstatus, huser])
      have hzero := hprompt.symm.trans h.prompt
      cases hzero

/-! ## A turn that is done

The first turn of a chat, while it is streaming and after its last event. -/

/-- The turn of a first message. -/
def firstTurn : StreamTurn := ⟨1, 0, 1, "llama3.2:1b"⟩

/-- Its rows, as the server returns them. -/
def firstRows : List ChatMessage :=
  [{ id := 0, role := "user", status := "completed", content := js "Hello", model := none,
     tokenCount := some 2, tokenCountSource := "estimated", promptTokens := none,
     completionTokens := none, totalTokens := none, finishReason := none, createdAt := 0,
     updatedAt := 0 },
   { id := 1, role := "assistant", status := "completed", content := js "Hi",
     model := some "llama3.2:1b", tokenCount := some 1, tokenCountSource := "ollama_reported",
     promptTokens := some 5, completionTokens := some 1, totalTokens := some 6,
     finishReason := some "stop", createdAt := 1, updatedAt := 2 }]

/-- What the client knows of the turn while it is streaming. -/
def firstPending : PendingStream :=
  applyStreamEvents (.initial 1 (js "Hello")) [firstTurn.started, .MessageDelta 1 (js "Hi")]

lemma firstRows_hasRows : HasRows firstTurn firstRows :=
  ⟨⟨_, List.mem_cons_self, rfl, rfl⟩, ⟨_, List.mem_cons_of_mem _ List.mem_cons_self, rfl, rfl⟩⟩

lemma firstPending_reached : ReachedBy firstTurn (js "Hello") firstPending :=
  .event (.MessageDelta 1 (js "Hi")) (.event firstTurn.started .start fun _ => rfl) (by rintro ⟨⟩)

/-- While the first turn is streaming it is on the page once. -/
theorem displayed_once_iff_first :
    DisplayedOnce firstTurn firstRows (some firstPending)
      ↔ firstPending.status = .Streaming ∨ firstPending.userMessageId = none :=
  displayed_once_iff firstTurn (js "Hello") firstPending firstRows (by decide) firstRows_hasRows
    firstPending_reached

/-- **A turn that is done is not on the page.**  After `message.completed` the server rows are
hidden, the pending pair is not shown, and the prompt is not listed. -/
theorem prompt_hidden :
    ReachedBy firstTurn (js "Hello")
        (applyStreamEvent firstPending (.MessageCompleted firstRows[1]))
      ∧ HasRows firstTurn firstRows ∧ (firstRows.map (·.id)).Nodup
      ∧ messageList firstRows
          (some (applyStreamEvent firstPending (.MessageCompleted firstRows[1]))) = []
      ∧ collectPrompts firstRows
          (some (applyStreamEvent firstPending (.MessageCompleted firstRows[1]))) = []
      ∧ ¬ DisplayedOnce firstTurn firstRows
          (some (applyStreamEvent firstPending (.MessageCompleted firstRows[1]))) := by
  have hempty : messageList firstRows
      (some (applyStreamEvent firstPending (.MessageCompleted firstRows[1]))) = [] := by decide
  refine ⟨.event (.MessageCompleted _) firstPending_reached (by rintro ⟨⟩), firstRows_hasRows,
    by decide, hempty,
    by decide, fun h => ?_⟩
  have hprompt := h.prompt
  rw [hempty] at hprompt
  cases hprompt

end RagStack
