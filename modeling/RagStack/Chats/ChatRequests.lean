import RagStack.Chats.ChatsTransactions
import RagStack.Core.Runs

/-!
# Requests of many principals

`ChatsService.create`, `update` and `delete`, and the part of `ChatStreamService.stream` that writes
to the tables, as requests that run side by side.  A request checks the owner of its chat once, with
a query of its own, and names the chat only by its id from then on.

Between the check and the write, others go on.  The chat may be deleted, or given to a user by a
sign-in, and the request does not look again.  A model that made a request one step would hide this,
so a request is a sequence of calls, each of them atomic, and the steps of all requests interleave.
A request that is waiting for its next call is described by what it has found out so far, and by
nothing else, because that is all the code remembers.

The calls fail as they can in the source.  A check of the input fails at once, a query finds no row,
a transaction violates a key, and any call may be rejected by the environment before or after it was
carried out.  The values that PostgreSQL generates are arguments of the step, so every choice of
keys and times is covered.

* `deriveChatTitle` — the title of a chat that is given none.
* `upsertSummary`, `changeOwner`, `deleteSession` — the writes that are not among
  `ChatsTransaction`.
* `ChatRequest`, `ChatRequestPhase` — what is asked for, and how far it has come.
* `chatsStep` — one step of the system: a request, its next call, a call that rejects, or what a
  sign-in does to the chats of an anonymous session.
-/

namespace RagStack

/-! ## Titles -/

/-- `content.replace(/\s+/g, ' ')`. -/
def collapseSpaces : JsString → JsString
  | [] => []
  | u :: rest =>
      if u ∈ JsString.whitespace then
        match rest with
        | v :: _ => if v ∈ JsString.whitespace then collapseSpaces rest else 0x20 :: collapseSpaces rest
        | [] => [0x20]
      else u :: collapseSpaces rest

def deriveChatTitle (content : JsString) : JsString :=
  let title := ((collapseSpaces content).trim).sliceTo 80
  if title = [] then js "New chat" else title

/-! ## The other writes -/

namespace ChatsDb

variable (db : ChatsDb)

/-- `INSERT INTO conversation_summary … ON CONFLICT (chat_id) DO UPDATE`. -/
def putSummary (summary : ConversationSummary)
    (hchat : ∃ chat ∈ db.chats.rows, chat.id = summary.chatId) : ChatsDb where
  models := db.models
  chats := db.chats
  messages := db.messages
  summaries := summary :: db.summaries.filter (·.chatId ≠ summary.chatId)
  messages_nodup := db.messages_nodup
  summaries_nodup := by
    refine List.nodup_cons.mpr ⟨fun hmem => ?_, db.summaries_nodup.sublist (List.filter_sublist.map _)⟩
    obtain ⟨other, hother, heq⟩ := List.mem_map.mp hmem
    exact of_decide_eq_true (List.mem_filter.mp hother).2 heq
  messageChat := db.messageChat
  summaryChat := List.forall_mem_cons.mpr
    ⟨hchat, fun summary hsummary => db.summaryChat summary (List.mem_of_mem_filter hsummary)⟩

/-- `ConversationSummaryRepository.upsert`. -/
def upsertSummary (summary : ConversationSummary) : Except JsError ChatsDb :=
  if hchat : ∃ chat ∈ db.chats.rows, chat.id = summary.chatId then .ok (db.putSummary summary hchat)
  else .error foreignKeyViolation

/-- A chat of the anonymous session becomes one of the user. -/
def givenTo (anonymousSessionId userId : Uuid) (chat : ChatRow) : ChatRow :=
  if chat.anonymousSessionId = some anonymousSessionId then
    { chat with anonymousSessionId := none, userId := some userId }
  else chat

@[simp] lemma givenTo_id (anonymousSessionId userId : Uuid) (chat : ChatRow) :
    (givenTo anonymousSessionId userId chat).id = chat.id := by
  unfold givenTo
  split <;> rfl

/-- The UPDATE of `transferAnonymousChats`. -/
def changeOwner (anonymousSessionId userId : Uuid) : ChatsDb where
  models := db.models
  chats :=
    { rows := db.chats.rows.map (givenTo anonymousSessionId userId)
      nodup := by
        rw [List.map_map]
        refine (List.map_congr_left fun chat _ => ?_) ▸ db.chats.nodup
        exact (givenTo_id _ _ chat).symm
      hasModel := by
        intro chat hchat
        obtain ⟨old, hold, rfl⟩ := List.mem_map.mp hchat
        have hmodel := db.chats.hasModel old hold
        unfold givenTo
        split <;> exact hmodel
      oneOwner := by
        intro chat hchat
        obtain ⟨old, hold, rfl⟩ := List.mem_map.mp hchat
        have howner := db.chats.oneOwner old hold
        unfold givenTo
        split
        · simp
        · exact howner }
  messages := db.messages
  summaries := db.summaries
  messages_nodup := db.messages_nodup
  summaries_nodup := db.summaries_nodup
  messageChat := by
    intro message hmessage
    obtain ⟨chat, hchat, heq⟩ := db.messageChat message hmessage
    exact ⟨_, List.mem_map_of_mem hchat, by rw [givenTo_id, heq]⟩
  summaryChat := by
    intro summary hsummary
    obtain ⟨chat, hchat, heq⟩ := db.summaryChat summary hsummary
    exact ⟨_, List.mem_map_of_mem hchat, by rw [givenTo_id, heq]⟩

/-- `DELETE FROM anonymous_session`, with `ON DELETE CASCADE` to its chats. -/
def deleteSession (anonymousSessionId : Uuid) : ChatsDb :=
  db.keepChats fun id => !db.chats.rows.any fun chat =>
    chat.id = id && chat.anonymousSessionId = some anonymousSessionId

/-- A chat as `create` and `update` return it. -/
def chatSummary (chatId : Uuid) : Option ChatSummary :=
  ((db.chats.rows.find? (·.id = chatId)).bind (withModel db.models)).map toChatSummary

/-- `resolveForGeneration`. -/
def resolveModel (name : String) : Except JsError Model :=
  match db.models.find? (·.name = name) with
  | none => .error (.Coded "MODEL_NOT_ALLOWED" (some "The selected model is not allowed."))
  | some model =>
      if model.isAvailable then .ok model
      else .error (.Coded "MODEL_NOT_AVAILABLE"
        (some "The selected model is no longer available. Choose another model."))

end ChatsDb

/-! ## Requests -/

inductive ChatRequest where
  | Create (title : JsString) (selectedModel : String) (firstPrompt : Option JsString)
  | Update (chatId : Uuid) (title : Option JsString) (selectedModel : Option String)
      (archived : Option Bool)
  | Delete (chatId : Uuid)
  | Stream (chatId : Uuid) (content : JsString) (model : Option String)
  deriving Repr, DecidableEq

def ChatRequest.chatId? : ChatRequest → Option Uuid
  | Create .. => none
  | Update chatId .. | Delete chatId | Stream chatId .. => some chatId

/-- How far a request has come. -/
inductive ChatRequestPhase where
  | Begun
  /-- `findOwnedChat` has returned the chat. -/
  | Owned (chat : ChatWithModel)
  /-- The model, if one is asked for, is in the catalog. -/
  | Resolved (model : Option Model)
  /-- `beginGeneration` has returned the reply row. -/
  | Generating (assistantMessageId : Uuid)
  | Over (answer : Except JsError (Option ChatSummary))

structure PendingRequest where
  principal : RequestPrincipal
  request : ChatRequest
  phase : ChatRequestPhase

/-- What PostgreSQL generates: keys and times. -/
structure GeneratedValues where
  chatId : Uuid
  promptId : Uuid
  replyId : Uuid
  promptAt : Timestamp
  replyAt : Timestamp
  now : Timestamp
  deriving Repr, DecidableEq

/-- A write of a generation after its begin. -/
inductive GenerationWrite where
  | Summarize (content : JsString) (summarizedThroughMessageId : Uuid) (tokenCount : ℤ)
  | Complete (content : JsString) (promptTokens completionTokens : Option ℤ)
      (finishReason : Option String) (now : Timestamp)
  | End (content : JsString) (errorCode : Option String) (now : Timestamp)
  deriving Repr, DecidableEq

section Calls

variable (maxMessageChars : ℕ) (db : ChatsDb)

/-- The phase after a call of which nothing but the error is needed. -/
def overOr (result : Except JsError ChatRequestPhase) : ChatRequestPhase :=
  match result with
  | .ok phase => phase
  | .error e => .Over (.error e)

/-- `ChatOwnershipService.findOwnedChat`. -/
def checkOwner (principal : RequestPrincipal) (chatId : Uuid) : ChatRequestPhase :=
  match db.ownedChat principal chatId with
  | some chat => .Owned chat
  | none => .Over (.error (.Http 404 "Chat not found."))

/-- The first call: the checks of the input, and then the model or the owner. -/
def firstCall (principal : RequestPrincipal) : ChatRequest → ChatRequestPhase
  | .Create _ selectedModel firstPrompt =>
      if (firstPrompt.map List.length).getD 0 > maxMessageChars then
        .Over (.error (.Http 413 "The first prompt is too long."))
      else overOr ((db.resolveModel selectedModel).map fun model => .Resolved (some model))
  | .Update chatId title selectedModel archived =>
      if title.isNone && selectedModel.isNone && archived.isNone then
        .Over (.error (.Http 400 "At least one chat field is required."))
      else checkOwner db principal chatId
  | .Delete chatId => checkOwner db principal chatId
  | .Stream chatId content _ =>
      if content.length > maxMessageChars then .Over (.error (.Http 413 "The message is too long."))
      else checkOwner db principal chatId

/-- The tables after a transaction of a request, and the request. -/
def committed (result : Except JsError ChatsDb) (phase : ChatsDb → ChatRequestPhase) :
    ChatsDb × ChatRequestPhase :=
  match result with
  | .ok db' => (db', phase db')
  | .error e => (db, .Over (.error e))

/-- The call after the owner was checked. -/
def ownedCall (chat : ChatWithModel) : ChatRequest → Option (ChatsDb × ChatRequestPhase)
  | .Update _ _ selectedModel _ =>
      match selectedModel.filter (· ≠ "") with
      | none => some (db, .Resolved none)
      | some name =>
          some (db, overOr ((db.resolveModel name).map fun model => .Resolved (some model)))
  | .Delete chatId => some (committed db (db.deleteChat chatId) fun _ => .Over (.ok none))
  | .Stream _ _ model =>
      let name := model.getD chat.selectedModel.name
      some (db, overOr ((db.resolveModel name).map fun model => .Resolved (some model)))
  | .Create .. => none

/-- `params.title || (params.firstPrompt ? deriveChatTitle(params.firstPrompt) : 'New chat')`. -/
def chatTitle (title : JsString) (firstPrompt : Option JsString) : JsString :=
  if title ≠ [] then title
  else match JsString.truthy firstPrompt with
    | some prompt => deriveChatTitle prompt
    | none => js "New chat"

/-- The transaction after the model was resolved. -/
def resolvedCall (principal : RequestPrincipal) (values : GeneratedValues) :
    ChatRequest → Option Model → Option (ChatsDb × ChatRequestPhase)
  | .Create title _ firstPrompt, some model =>
      some (committed db
        (db.createChat values.chatId values.promptId principal (chatTitle title firstPrompt) model.id
          firstPrompt values.now)
        fun db' => .Over (.ok (db'.chatSummary values.chatId)))
  | .Update chatId title _ archived, model =>
      some (committed db (db.updateChat chatId title (model.map (·.id)) archived values.now)
        fun db' => .Over (.ok (db'.chatSummary chatId)))
  | .Stream chatId content _, some model =>
      some (committed db
        (db.beginGeneration chatId content model.name values.promptId values.replyId
          values.promptAt values.replyAt)
        fun _ => .Generating values.replyId)
  | _, _ => none

/-- A write of the generation of a chat. -/
def generationWrite (chatId assistantMessageId : Uuid) : GenerationWrite → Except JsError ChatsDb
  | .Summarize content summarizedThroughMessageId tokenCount =>
      db.upsertSummary ⟨chatId, content, summarizedThroughMessageId, tokenCount⟩
  | .Complete content promptTokens completionTokens finishReason now =>
      db.completeGeneration assistantMessageId content promptTokens completionTokens finishReason now
  | .End content errorCode now => db.endGeneration assistantMessageId content errorCode now

end Calls

/-! ## The system -/

/-- The tables, and all requests in the order of their beginning, each with how far it is. -/
structure ChatsSystem where
  db : ChatsDb
  requests : List PendingRequest

/-- A step of the system.  The numbers are those of the requests, in the order of their beginning.
-/
inductive ChatsAction where
  | Request (principal : RequestPrincipal) (request : ChatRequest)
  /-- The next call of a request that is not generating. -/
  | Next (i : ℕ) (values : GeneratedValues)
  /-- The next write of a request that is. -/
  | Write (i : ℕ) (write : GenerationWrite)
  /-- A call rejects, or the process goes down. -/
  | Stop (i : ℕ) (e : JsError)
  /-- A sign-in takes over the chats of an anonymous session, and deletes the session. -/
  | Transfer (anonymousSessionId userId : Uuid)
  | DeleteSession (anonymousSessionId : Uuid)

/-- The system after a call of request `i`. -/
def ChatsSystem.put (s : ChatsSystem) (i : ℕ) (pending : PendingRequest)
    (result : ChatsDb × ChatRequestPhase) : ChatsSystem :=
  { db := result.1, requests := s.requests.set i { pending with phase := result.2 } }

/-- The next call of a request. -/
def nextCall (maxMessageChars : ℕ) (db : ChatsDb) (values : GeneratedValues)
    (pending : PendingRequest) : Option (ChatsDb × ChatRequestPhase) :=
  match pending.phase with
  | .Begun => some (db, firstCall maxMessageChars db pending.principal pending.request)
  | .Owned chat => ownedCall db chat pending.request
  | .Resolved model => resolvedCall db pending.principal values pending.request model
  | .Generating _ | .Over _ => none

/-- The next write of a request.  One that fails ends it. -/
def nextWrite (db : ChatsDb) (write : GenerationWrite) (pending : PendingRequest) :
    Option (ChatsDb × ChatRequestPhase) :=
  match pending.phase, pending.request.chatId? with
  | .Generating assistantMessageId, some chatId =>
      some (committed db (generationWrite db chatId assistantMessageId write) fun _ =>
        .Generating assistantMessageId)
  | _, _ => none

/-- One step: a request begins, one of its calls or writes is executed, it ends, or a session is
transferred or deleted under its chats. -/
def chatsStep (maxMessageChars : ℕ) (s : ChatsSystem) : ChatsAction → Option ChatsSystem
  | .Request principal request =>
      some { s with requests := s.requests ++ [⟨principal, request, .Begun⟩] }
  | .Next i values => do
      let pending ← s.requests[i]?
      let result ← nextCall maxMessageChars s.db values pending
      return s.put i pending result
  | .Write i write => do
      let pending ← s.requests[i]?
      let result ← nextWrite s.db write pending
      return s.put i pending result
  | .Stop i e => do
      let pending ← s.requests[i]?
      return s.put i pending (s.db, .Over (.error e))
  | .Transfer anonymousSessionId userId =>
      let transferred := s.db.changeOwner anonymousSessionId userId
      some { s with db := transferred.deleteSession anonymousSessionId }
  | .DeleteSession anonymousSessionId => some { s with db := s.db.deleteSession anonymousSessionId }

end RagStack
