import RagStack.Chats.Types

/-!
# `chats.helpers.ts`

The pure functions of the chat subsystem: ownership, error mapping, the views sent to the client,
and the filter which turns the rows of a chat into the history the model may see.

A user is never shown as another, and neither is a status: the mappers to the transport types lose
fields but change none, and the enumerations of the database and those of the wire correspond one to
one.  Errors are different.  What the client is told is the code of the exception if it has one,
with a text, and for everything else a code that says nothing.  The code is also what
`endGeneration` decides by, so the mapping is part of the behaviour.

The filter decides every row from its neighbour alone.  What that amounts to on a table that grows
the way the repository makes it grow is said by `completedTurns_chatRows`: a prompt and its reply
are kept or dropped together, and a first prompt that never had a reply row is kept.
-/

namespace RagStack

/-- `getOwnerFilter`, applied to a row. -/
def ownedBy (principal : RequestPrincipal) (chat : Chat) : Bool :=
  match principal with
  | .Authenticated userId _ => chat.userId = some userId
  | .Anonymous anonymousSessionId => chat.anonymousSessionId = some anonymousSessionId

/-- The owner columns `getOwnerFilter` gives to an insert. -/
def ownerColumns : RequestPrincipal → Option Uuid × Option Uuid
  | .Authenticated userId _ => (some userId, none)
  | .Anonymous anonymousSessionId => (none, some anonymousSessionId)

def estimateTokenCount (content : JsString) : ℤ := max 1 ((content.length + 3) / 4 : ℕ)

/-- `role.toLowerCase()`. -/
def MessageRole.wire : MessageRole → String
  | .User => "user"
  | .Assistant => "assistant"

/-- `status.toLowerCase()`. -/
def MessageStatus.wire : MessageStatus → String
  | .Streaming => "streaming"
  | .Completed => "completed"
  | .Failed => "failed"
  | .Cancelled => "cancelled"

/-- `token_count_source.toLowerCase()`. -/
def TokenCountSource.wire : TokenCountSource → String
  | .OllamaReported => "ollama_reported"
  | .Estimated => "estimated"
  | .Unknown => "unknown"

def toChatMessage (message : Message) : ChatMessage where
  id := message.id
  role := message.role.wire
  status := message.status.wire
  content := message.content
  model := message.model
  tokenCount := message.tokenCount
  tokenCountSource := message.tokenCountSource.wire
  promptTokens := message.promptTokens
  completionTokens := message.completionTokens
  totalTokens := message.totalTokens
  finishReason := message.finishReason
  createdAt := message.createdAt
  updatedAt := message.updatedAt

/-- What `getPublicStreamError` tells the client. -/
structure PublicError where
  code : String
  message : String
  deriving Repr, DecidableEq

def getPublicStreamError : JsError → PublicError
  | .Http status message =>
      ⟨if status = 404 then "CHAT_NOT_FOUND"
        else if status = 409 then "GENERATION_CONFLICT"
        else if status = 413 then "INPUT_TOO_LARGE"
        else "BAD_REQUEST", message⟩
  | .Coded code message => ⟨code, message.getD "The generation failed."⟩
  | .Other _ => ⟨"GENERATION_FAILED", "The generation failed."⟩

/-- The sum of two reported counts, `null` unless both are known. -/
def reportedTotal (promptTokens completionTokens : Option ℤ) : Option ℤ :=
  match promptTokens, completionTokens with
  | some p, some c => some (p + c)
  | _, _ => none

def toChatContext (maxTokens : ℕ) (summary : Option ConversationSummary)
    (lastAssistantMessage : Option Message) : ChatContext where
  usedTokens :=
    reportedTotal (lastAssistantMessage.bind (·.promptTokens))
      (lastAssistantMessage.bind (·.completionTokens))
  maxTokens := maxTokens
  summary := summary.map (·.content)
  summarizedThroughMessageId := summary.map (·.summarizedThroughMessageId)

/-! ## The history filter

It goes over the rows in their order and looks one row ahead.  A reply is kept by its own status; a
prompt goes with the row that follows, if that is a reply. -/

/-- `isPartOfCompletedTurn`.  A prompt goes with the reply row right after it; a prompt with no
reply row after it counts as completed. -/
def isPartOfCompletedTurn (message : Message) (next : Option Message) : Bool :=
  match message.role with
  | .Assistant => message.status = .Completed
  | .User =>
      message.status = .Completed
        && (next.map (·.role) != some .Assistant || next.map (·.status) == some .Completed)

/-- `messages.filter((message, index) => isPartOfCompletedTurn(message, messages[index + 1]))`. -/
def completedTurns : List Message → List Message
  | [] => []
  | message :: rest =>
      if isPartOfCompletedTurn message rest.head? then message :: completedTurns rest
      else completedTurns rest

/-- The mapping of `toHistoryEntries`: a reply without a model name is an error. -/
def toHistoryEntry (message : Message) : Except JsError ChatHistoryEntry :=
  match message.role, message.model with
  | .User, _ => .ok (.User message.id message.content)
  | .Assistant, none => .error (.Other "Assistant message has no model.")
  | .Assistant, some model =>
      if model = "" then .error (.Other "Assistant message has no model.")
      else .ok (.Assistant message.id message.content model)

def toHistoryEntries (messages : List Message) : Except JsError (List ChatHistoryEntry) :=
  (completedTurns messages).mapM toHistoryEntry

end RagStack
