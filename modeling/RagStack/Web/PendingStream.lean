import RagStack.Chats.StreamController

/-!
# `chat.helpers.ts`

What the web client knows of a reply that is being streamed, and what it shows of it.
`PendingStream` is a fold of `applyStreamEvent` over the events of one request.  The conversation
shows the messages of the server without the two rows of the pending turn, and then the pending pair
while it is streaming.

The same turn can reach the page in two ways.  The events of the stream build it up piece by piece,
and the server returns its two rows whenever the page refetches, which may happen at any time during
the stream.  So the page has to choose.  It filters the rows of the server by the two ids that the
client has learned from `stream.started`, and shows its own pair instead.  Both functions look at
the same state and ask different questions: one whether the ids are known, the other whether the
turn is still streaming.

The fold is total, and each of its branches changes a few fields.  Events that do not concern the
text leave it as it is.  The status goes from streaming to done or to an error, and never back.

The list of prompts is made of the same rows, with the content on one line for the navigator.  It is
modelled to the character, white space included.

* `applyStreamEvent` — the state after one event.
* `visibleServerMessages`, `isPendingVisible` — which rows are shown.
* `messageList`, `collectPrompts` — what is on the page, and in its list of prompts.
-/

namespace RagStack

/-- The status of a `PendingStream`. -/
inductive PendingStatus where
  | Streaming
  | Done
  | Error
  deriving Repr, DecidableEq

structure PendingStream where
  chatId : Uuid
  status : PendingStatus
  userContent : JsString
  userMessageId : Option Uuid
  assistantMessageId : Option Uuid
  model : Option String
  assistantText : JsString
  errorMessage : Option String
  summarizing : Bool
  context : Option ChatContext
  deriving Repr, DecidableEq

/-- What `send` starts with: streaming, without ids and without a text. -/
def PendingStream.initial (chatId : Uuid) (content : JsString) : PendingStream where
  chatId := chatId
  status := .Streaming
  userContent := content
  userMessageId := none
  assistantMessageId := none
  model := none
  assistantText := []
  errorMessage := none
  summarizing := false
  context := none

/-- `applyStreamEvent`, one branch for each event.  What an event does not mention stays as it is.
-/
def applyStreamEvent (pending : PendingStream) : ChatStreamEvent → PendingStream
  | .StreamStarted _ userMessageId assistantMessageId model =>
      { pending with
        userMessageId := some userMessageId
        assistantMessageId := some assistantMessageId
        model := some model }
  | .MessageDelta _ delta =>
      { pending with summarizing := false, assistantText := pending.assistantText ++ delta }
  | .ContextSummarizing => { pending with summarizing := true }
  | .ContextUpdated context => { pending with context := some context }
  | .MessageCompleted _ => { pending with status := .Done }
  | .StreamError _ message => { pending with status := .Error, errorMessage := some message }
  | .StreamCancelled _ => { pending with status := .Done }

def applyStreamEvents (pending : PendingStream) (events : List ChatStreamEvent) : PendingStream :=
  events.foldl applyStreamEvent pending

@[simp] lemma applyStreamEvents_nil (pending : PendingStream) :
    applyStreamEvents pending [] = pending := rfl

@[simp] lemma applyStreamEvents_append (pending : PendingStream)
    (events events' : List ChatStreamEvent) :
    applyStreamEvents pending (events ++ events')
      = applyStreamEvents (applyStreamEvents pending events) events' := List.foldl_append

lemma applyStreamEvents_assistantText (pending : PendingStream) (events : List ChatStreamEvent) :
    (applyStreamEvents pending events).assistantText = pending.assistantText ++ deltaText events := by
  induction events generalizing pending with
  | nil => exact (List.append_nil _).symm
  | cons event events ih =>
      have hstep : (applyStreamEvent pending event).assistantText
          = pending.assistantText ++ event.delta := by
        cases event <;> simp [applyStreamEvent, ChatStreamEvent.delta]
      show (applyStreamEvents (applyStreamEvent pending event) events).assistantText = _
      rw [ih, hstep, List.append_assoc]
      rfl

/-! ## What is shown

A row on the page is one of a message, or one of the pending pair. -/

def isPendingVisible : Option PendingStream → Bool
  | none => false
  | some pending => decide (pending.status = .Streaming) && pending.userMessageId.isSome

def visibleServerMessages (messages : List ChatMessage) :
    Option PendingStream → List ChatMessage
  | none => messages
  | some pending => messages.filter fun message =>
      decide (some message.id ≠ pending.userMessageId)
        && decide (some message.id ≠ pending.assistantMessageId)

/-- The `id` of a row on the page: that of the message, or `PENDING_PROMPT_ID`. -/
inductive RowId where
  | Message (id : Uuid)
  | Pending
  deriving Repr, DecidableEq

structure PromptSummary where
  id : RowId
  preview : JsString
  deriving Repr, DecidableEq

/-- `content.replace(/\s+/g, ' ')`: a run of white space becomes one space. -/
def joinWhitespace (content : JsString) : JsString :=
  content.foldr (fun u rest =>
    if u ∈ JsString.whitespace then if rest.head? = some 0x20 then rest else 0x20 :: rest
    else u :: rest) []

def collapseWhitespace (content : JsString) : JsString := (joinWhitespace content).trim

def collectPrompts (messages : List ChatMessage) (pending : Option PendingStream) :
    List PromptSummary :=
  ((visibleServerMessages messages pending).filter (·.role = "user")).map
      (fun message => ⟨.Message message.id, collapseWhitespace message.content⟩)
    ++ if isPendingVisible pending then
        (pending.map fun p => ⟨.Pending, collapseWhitespace p.userContent⟩).toList
      else []

/-- What `MessageList` renders for a message. -/
inductive ShownRow where
  | UserMessage (id : RowId) (content : JsString)
  | AssistantMessage (id : RowId) (content : JsString) (streaming : Bool)
  deriving Repr, DecidableEq

/-- The list of `MessageList`: the rows of the server that are shown, and behind them the pending
pair if it is. -/
def messageList (messages : List ChatMessage) (pending : Option PendingStream) : List ShownRow :=
  (visibleServerMessages messages pending).map
      (fun message =>
        if message.role = "user" then .UserMessage (.Message message.id) message.content
        else .AssistantMessage (.Message message.id) message.content false)
    ++ if isPendingVisible pending then
        pending.toList.flatMap fun p =>
          [.UserMessage .Pending p.userContent, .AssistantMessage .Pending p.assistantText true]
      else []

end RagStack
