import RagStack.Chats.World
import Mathlib.Data.List.Sort

/-!
# `chats.repository.ts`, `conversation-summary.repository.ts` and the usage log

Every repository method is one query or one transaction, so it is a function of the stores first
(`Stores.beginGeneration` and so on: what PostgreSQL does, or the error it raises) and an awaited
call second.  The properties of a method are about the function; how the call settles is left to
`wp_transact`.

The functions are written from the data arguments of the Prisma calls.  An `update` by id finds the
row or raises P2025, and it does not look at the status of the row: whoever calls `endGeneration`
last has decided.  A value that is `undefined` in the data leaves its column alone, while `null`
would clear it.  The transactions touch `last_message_at` of the chat in addition, which decides
nothing here but is part of the row.

Messages are read in the order of creation, by time first and by id within a millisecond.  The order
is computed by sorting, as the database does, since the rows of the table are in the order of
insertion, which need not be the same.
-/

namespace RagStack

/-- `orderBy: [{ created_at: 'asc' }, { id: 'asc' }]`. -/
def Message.precedes (m m' : Message) : Prop :=
  m.createdAt < m'.createdAt ∨ m.createdAt = m'.createdAt ∧ m.id ≤ m'.id

instance : DecidableRel Message.precedes := fun m m' => by
  unfold Message.precedes; infer_instance

/-- Prisma's error for a missing record. -/
def recordNotFound : JsError := .Coded "P2025" (some "No record was found.")

/-- Prisma's error for a violated foreign key. -/
def foreignKeyViolation : JsError := .Coded "P2003" (some "Foreign key constraint violated.")

namespace Stores

/-! ## Queries

They read the stores and change nothing.  `history` is not a query of the repository, but it is what
all readers of the history make of one. -/

/-- The query of `findOwnedChat`, with the joined model. -/
def ownedChat (s : Stores) (chatId : Uuid) (principal : RequestPrincipal) :
    Option (Chat × Model) :=
  (s.chats.find? fun chat => chat.id = chatId && ownedBy principal chat).bind fun chat =>
    (s.models.find? (·.id = chat.selectedModelId)).map fun model => (chat, model)

/-- The query of `findMessagesForHistory`. -/
def messagesForHistory (s : Stores) (chatId : Uuid) : List Message :=
  (s.messages.rows.filter (·.chatId = chatId)).insertionSort Message.precedes

/-- The query of `findLastCompletedAssistantMessage`. -/
def lastCompletedAssistantMessage (s : Stores) (chatId : Uuid) : Option Message :=
  ((s.messagesForHistory chatId).filter fun m =>
    m.role = .Assistant && m.status = .Completed).getLast?

/-- The query of `findByChatId`. -/
def summaryOf (s : Stores) (chatId : Uuid) : Option ConversationSummary :=
  s.summaries.find? (·.chatId = chatId)

/-- What `ChatHistoryService` would load now. -/
def history (s : Stores) (chatId : Uuid) : Except JsError (List ChatHistoryEntry) :=
  toHistoryEntries (s.messagesForHistory chatId)

/-! ## Transactions

Each is atomic: it returns a value and the new stores, or an error and no stores. -/

/-- `chat.update({ data: { last_message_at } })`. -/
def touchChat (s : Stores) (chatId : Uuid) (lastMessageAt : Timestamp) : Stores :=
  { s with chats := s.chats.map fun chat =>
      if chat.id = chatId then { chat with lastMessageAt } else chat }

/-- The prompt row of a generation, and of a first prompt. -/
def promptDraft (chatId : Uuid) (content : JsString) : MessageDraft where
  chatId := chatId
  role := .User
  status := .Completed
  content := content
  model := none
  tokenCount := some (estimateTokenCount content)
  tokenCountSource := .Estimated

/-- The placeholder row of a reply. -/
def replyDraft (chatId : Uuid) (model : String) : MessageDraft where
  chatId := chatId
  role := .Assistant
  status := .Streaming
  content := []
  model := some model
  tokenCount := none
  tokenCountSource := .Unknown

structure GenerationMessages where
  userMessage : Message
  assistantMessage : Message

/-- The transaction of `beginGeneration`. -/
def beginGeneration (s : Stores) (chatId : Uuid) (content : JsString) (model : String) :
    Except JsError (GenerationMessages × Stores) :=
  if s.chats.any (·.id = chatId) then
    let userMessage := s.messages.newRow (promptDraft chatId content)
    let withPrompt := s.messages.create (promptDraft chatId content)
    let assistantMessage := withPrompt.newRow (replyDraft chatId model)
    let withReply := withPrompt.create (replyDraft chatId model)
    .ok (⟨userMessage, assistantMessage⟩,
      { s with messages := withReply }.touchChat chatId userMessage.createdAt)
  else .error foreignKeyViolation

/-- What `completeGeneration` writes into the reply row. -/
def completed (content : JsString) (promptTokens completionTokens : Option ℤ)
    (finishReason : Option String) (now : Timestamp) (m : Message) : Message :=
  { m with
    content := content
    status := .Completed
    -- an `undefined` value leaves the column as it is
    tokenCount := completionTokens.orElse fun _ => m.tokenCount
    tokenCountSource := if completionTokens.isNone then .Unknown else .OllamaReported
    promptTokens := promptTokens.orElse fun _ => m.promptTokens
    completionTokens := completionTokens.orElse fun _ => m.completionTokens
    totalTokens := (reportedTotal promptTokens completionTokens).orElse fun _ => m.totalTokens
    finishReason := finishReason.orElse fun _ => m.finishReason
    updatedAt := now }

/-- The transaction of `completeGeneration`. -/
def completeGeneration (s : Stores) (assistantMessageId : Uuid) (content : JsString)
    (promptTokens completionTokens : Option ℤ) (finishReason : Option String) (now : Timestamp) :
    Except JsError (Message × Stores) :=
  let messages := s.messages.update assistantMessageId
    (completed content promptTokens completionTokens finishReason now)
  match messages.find? assistantMessageId with
  | some message => .ok (message, { s with messages }.touchChat message.chatId message.updatedAt)
  | none => .error recordNotFound

/-- What `endGeneration` writes into the reply row.  An empty error code is no error code. -/
def ended (content : JsString) (errorCode : Option String) (now : Timestamp) (m : Message) :
    Message :=
  { m with
    content := content
    status := if errorCode.any (· ≠ "") then .Failed else .Cancelled
    errorCode := errorCode.orElse fun _ => m.errorCode
    updatedAt := now }

/-- The update of `endGeneration`: by id, whatever the row's status. -/
def endGeneration (s : Stores) (assistantMessageId : Uuid) (content : JsString)
    (errorCode : Option String) (now : Timestamp) : Except JsError (Message × Stores) :=
  let messages := s.messages.update assistantMessageId (ended content errorCode now)
  match messages.find? assistantMessageId with
  | some message => .ok (message, { s with messages })
  | none => .error recordNotFound

/-- The transaction of `createChat`, for the chat id PostgreSQL generates. -/
def createChat (s : Stores) (chatId : Uuid) (principal : RequestPrincipal) (title : JsString)
    (selectedModelId : Uuid) (firstPrompt : Option JsString) (now : Timestamp) :
    Except JsError (Chat × Stores) :=
  let chat : Chat :=
    { id := chatId, userId := (ownerColumns principal).1,
      anonymousSessionId := (ownerColumns principal).2, title, selectedModelId,
      lastMessageAt := now }
  let messages := match JsString.truthy firstPrompt with
    | some prompt => s.messages.create (promptDraft chatId prompt)
    | none => s.messages
  .ok (chat, { s with chats := s.chats ++ [chat], messages })

/-- The statement of `ConversationSummaryRepository.upsert`; `chat_id` is unique. -/
def upsertSummary (s : Stores) (summary : ConversationSummary) :
    Except JsError (ConversationSummary × Stores) :=
  .ok (summary,
    { s with summaries := s.summaries.filter (·.chatId ≠ summary.chatId) ++ [summary] })

def toTokenCount (value : Option ℤ) : ℕ := (value.getD 0).toNat

/-- The transaction of `UsageRepository.create` for a chat-scoped record. -/
def createUsageLog (s : Stores) (principal : RequestPrincipal) (chatId modelId : Uuid)
    (kind : UsageKind) (inputTokens outputTokens : Option ℤ) : Except JsError (Unit × Stores) :=
  let row : UsageLog := match s.chats.find? (·.id = chatId) with
    | some chat =>
        { userId := chat.userId, anonymousSessionId := chat.anonymousSessionId,
          chatId := some chatId, modelId, kind,
          inputTokens := toTokenCount inputTokens, outputTokens := toTokenCount outputTokens }
    | none =>
        { userId := (ownerColumns principal).1, anonymousSessionId := (ownerColumns principal).2,
          chatId := none, modelId, kind,
          inputTokens := toTokenCount inputTokens, outputTokens := toTokenCount outputTokens }
  .ok ((), { s with usageLog := s.usageLog ++ [row] })

end Stores

/-! ## The two updates of a reply -/

/-- The row of a message that is found has the id it was looked up by. -/
lemma find?_id {id : Uuid} {t : MessageTable} {m : Message} (h : t.find? id = some m) : m.id = id := by
  simp only [MessageTable.find?] at h
  simpa using List.find?_some h

/-- `completeGeneration` succeeds on a row that exists, and completes it. -/
lemma completeGeneration_ok {id : Uuid} {t : Stores} {m : Message} (hm : t.messages.find? id = some m)
    (content : JsString) (promptTokens completionTokens : Option ℤ) (finishReason : Option String)
    (now : Timestamp) :
    ∃ message s', t.completeGeneration id content promptTokens completionTokens finishReason now
        = .ok (message, s')
      ∧ s'.messages = t.messages.update id
          (Stores.completed content promptTokens completionTokens finishReason now)
      ∧ s'.messages.find? id = some message ∧ message.status = .Completed := by
  have hfound : (t.messages.update id
      (Stores.completed content promptTokens completionTokens finishReason now)).find? id
        = some { Stores.completed content promptTokens completionTokens finishReason now m with
            id := m.id } := by
    rw [MessageTable.find?_update, hm, Option.map_some, if_pos (find?_id hm)]
  simp only [Stores.completeGeneration]
  simp only [hfound]
  exact ⟨_, _, rfl, rfl, hfound, rfl⟩

/-- `endGeneration` succeeds on a row that exists, and fails or cancels it. -/
lemma endGeneration_ok {id : Uuid} {t : Stores} {m : Message} (hm : t.messages.find? id = some m)
    (content : JsString) (errorCode : Option String) (now : Timestamp) :
    ∃ message s', t.endGeneration id content errorCode now = .ok (message, s')
      ∧ s'.messages = t.messages.update id (Stores.ended content errorCode now)
      ∧ s'.messages.find? id = some message
      ∧ (message.status = .Failed ∨ message.status = .Cancelled) := by
  have hfound : (t.messages.update id (Stores.ended content errorCode now)).find? id
      = some { Stores.ended content errorCode now m with id := m.id } := by
    rw [MessageTable.find?_update, hm, Option.map_some, if_pos (find?_id hm)]
  simp only [Stores.endGeneration]
  simp only [hfound]
  refine ⟨_, _, rfl, rfl, hfound, ?_⟩
  show (if errorCode.any (· ≠ "") then MessageStatus.Failed else .Cancelled) = .Failed
    ∨ (if errorCode.any (· ≠ "") then MessageStatus.Failed else .Cancelled) = .Cancelled
  split
  · exact .inl rfl
  · exact .inr rfl

/-! ## The awaited calls -/

section Calls

variable (env : Env)

def findOwnedChat (chatId : Uuid) (principal : RequestPrincipal) : Handler (Chat × Model) := do
  match ← query env (.FindOwnedChat chatId) (·.ownedChat chatId principal) with
  | some chat => pure chat
  | none => Eff.throw (.Http 404 "Chat not found.")

def resolveForGeneration (name : String) : Handler Model := do
  match ← query env (.FindModelByName name) (·.models.find? (·.name = name)) with
  | none => Eff.throw (.Coded "MODEL_NOT_ALLOWED" (some "The selected model is not allowed."))
  | some model =>
      if model.isAvailable then pure model
      else Eff.throw (.Coded "MODEL_NOT_AVAILABLE"
        (some "The selected model is no longer available. Choose another model."))

def findMessagesForHistory (chatId : Uuid) : Handler (List Message) :=
  query env (.FindMessagesForHistory chatId) (·.messagesForHistory chatId)

def findLastCompletedAssistantMessage (chatId : Uuid) : Handler (Option Message) :=
  query env (.FindLastCompletedAssistantMessage chatId) (·.lastCompletedAssistantMessage chatId)

def findByChatId (chatId : Uuid) : Handler (Option ConversationSummary) :=
  query env (.FindSummary chatId) (·.summaryOf chatId)

def createChat (chatId : Uuid) (principal : RequestPrincipal) (title : JsString)
    (selectedModelId : Uuid) (firstPrompt : Option JsString) : Handler Chat :=
  transact env (.CreateChat firstPrompt) fun t s =>
    s.createChat chatId principal title selectedModelId firstPrompt (env.now t)

def beginGeneration (chatId : Uuid) (content : JsString) (model : String) :
    Handler Stores.GenerationMessages :=
  transact env (.BeginGeneration chatId) fun _ s => s.beginGeneration chatId content model

def completeGeneration (assistantMessageId : Uuid) (content : JsString)
    (promptTokens completionTokens : Option ℤ) (finishReason : Option String) : Handler Message :=
  transact env (.CompleteGeneration assistantMessageId) fun t s =>
    s.completeGeneration assistantMessageId content promptTokens completionTokens finishReason
      (env.now t)

def endGeneration (assistantMessageId : Uuid) (content : JsString) (errorCode : Option String) :
    Handler Message :=
  transact env (.EndGeneration assistantMessageId) fun t s =>
    s.endGeneration assistantMessageId content errorCode (env.now t)

/-- `ConversationSummaryRepository.upsert`. -/
def upsertSummary (summary : ConversationSummary) : Handler ConversationSummary :=
  transact env (.UpsertSummary summary.chatId) fun _ s => s.upsertSummary summary

/-- `UsageRecorderService.record`: a failed write is logged and forgotten. -/
def recordUsage (principal : RequestPrincipal) (chatId modelId : Uuid) (kind : UsageKind)
    (inputTokens outputTokens : Option ℤ) : Handler Unit :=
  await env (.Service .RecordUsage) <|
    Eff.tryCatch
      (transact env .CreateUsageLog fun _ s =>
        s.createUsageLog principal chatId modelId kind inputTokens outputTokens)
      fun _ => pure ()

end Calls

end RagStack
