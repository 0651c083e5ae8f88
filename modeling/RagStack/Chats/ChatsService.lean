import RagStack.Chats.Helpers
import RagStack.Core.CursorPaging
import Mathlib.Data.Prod.Lex

/-!
# `chats.service.ts`: the sidebar and the pages of a chat

`list` and `get` on a state of the database.  Both ask Prisma for one row more than a page has, and
hand out the id of the last row of the page as the cursor of the next one.

The tables are those of a sidebar: chats with their owner and their model, messages, and summaries.
`ChatsDb` carries the keys and foreign keys as fields, so a join always finds its row, and the owner
check makes the two owner columns one principal.  A request is answered from one state of the
database.  That is a simplification where the service makes several queries, and the theorems which
use it are about what can be learned from one answer, or about pages read one after the other with
any changes in between.

Cursors are texts that come from the client.  A text that is no UUID is an error of Prisma, the
empty text is no cursor, and an id that is in the table may belong to a row which the request would
not show.  The query resolves it all the same, because a cursor is looked up in the whole table.

* `ChatTable`, `ChatsDb` — the tables with their keys, foreign keys and the owner check.
* `listChats`, `listMessages` — the two queries with a cursor.
* `ChatsDb.list`, `ChatsDb.get` — `ChatsService.list` and `ChatsService.get`.
-/

namespace RagStack

/-! ## Rows -/

/-- A row of `chat` with all its columns. -/
structure ChatRow extends Chat where
  createdAt : Timestamp
  updatedAt : Timestamp
  archivedAt : Option Timestamp
  deriving Repr, DecidableEq

/-- `orderBy: [{ last_message_at: 'desc' }, { id: 'desc' }]`. -/
def ChatRow.place (chat : ChatRow) : Timestamp ×ₗ Uuid := toLex (chat.lastMessageAt, chat.id)

/-- `orderBy: [{ created_at: 'desc' }, { id: 'desc' }]`. -/
def Message.place (message : Message) : Timestamp ×ₗ Uuid := toLex (message.createdAt, message.id)

/-- The table `chat`: its key, its foreign key into `model`, and `chat_exactly_one_owner_check`. -/
structure ChatTable (models : List Model) where
  rows : List ChatRow
  nodup : (rows.map (·.id)).Nodup
  hasModel : ∀ chat ∈ rows, ∃ model ∈ models, model.id = chat.selectedModelId
  oneOwner : ∀ chat ∈ rows, chat.userId.isSome ≠ chat.anonymousSessionId.isSome

/-- The tables `list` and `get` read, with their keys and foreign keys.  A database that is valid by
construction needs no invariant elsewhere. -/
structure ChatsDb where
  models : List Model
  chats : ChatTable models
  messages : List Message
  summaries : List ConversationSummary
  messages_nodup : (messages.map Message.id).Nodup
  summaries_nodup : (summaries.map (·.chatId)).Nodup
  messageChat : ∀ message ∈ messages, ∃ chat ∈ chats.rows, chat.id = message.chatId
  summaryChat : ∀ summary ∈ summaries, ∃ chat ∈ chats.rows, chat.id = summary.chatId

/-! ## Views -/

structure ChatWithModel where
  chat : ChatRow
  selectedModel : Model
  deriving Repr, DecidableEq

structure ChatSummary where
  id : Uuid
  title : JsString
  selectedModel : String
  selectedModelAvailable : Bool
  archivedAt : Option Timestamp
  createdAt : Timestamp
  updatedAt : Timestamp
  lastMessageAt : Timestamp
  deriving Repr, DecidableEq

/-- The place of a chat in the sidebar, as the client sees it. -/
def ChatSummary.place (chat : ChatSummary) : Timestamp ×ₗ Uuid := toLex (chat.lastMessageAt, chat.id)

def toChatSummary (chat : ChatWithModel) : ChatSummary where
  id := chat.chat.id
  title := chat.chat.title
  selectedModel := chat.selectedModel.name
  selectedModelAvailable := chat.selectedModel.isAvailable
  archivedAt := chat.chat.archivedAt
  createdAt := chat.chat.createdAt
  updatedAt := chat.chat.updatedAt
  lastMessageAt := chat.chat.lastMessageAt

structure ChatPage where
  chats : List ChatSummary
  nextCursor : Option Uuid
  deriving Repr, DecidableEq

structure ChatDetail extends ChatSummary where
  messages : List ChatMessage
  nextCursor : Option Uuid
  context : ChatContext
  deriving Repr, DecidableEq

/-! ## Parameters -/

/-- The size of a page: whatever text a request gives, `parsePageSize` makes of it a number between
1 and 100. -/
abbrev PageSize : Type := { limit : ℕ // 1 ≤ limit ∧ limit ≤ 100 }

/-- Prisma's error for a text that is no UUID. -/
def malformedUuid : JsError := .Coded "P2023" (some "Inconsistent column data.")

section Parse

variable (parseUuid : String → Option Uuid)

/-- A UUID in a `where`. -/
def parseId (text : String) : Except JsError Uuid :=
  match parseUuid text with
  | none => .error malformedUuid
  | some id => .ok id

/-- `cursor ? { cursor: { id: cursor }, skip: 1 } : {}`: only a non-empty text is a cursor. -/
def parseCursor : Option String → Except JsError (Option Uuid)
  | none => .ok none
  | some text => if text = "" then .ok none else (parseId parseUuid text).map some

end Parse

/-! ## Queries

The two queries are `findMany` of the library of cursors, each with its key and its condition. -/

/-- `include: withModel`. -/
def withModel (models : List Model) (chat : ChatRow) : Option ChatWithModel :=
  (models.find? (·.id = chat.selectedModelId)).map fun model => ⟨chat, model⟩

/-- The `where` of `listChats`. -/
def listed (principal : RequestPrincipal) (includeArchived : Bool) (chat : ChatRow) : Bool :=
  ownedBy principal chat.toChat && (includeArchived || chat.archivedAt.isNone)

/-- `listChats`, before the join. -/
def listChats (principal : RequestPrincipal) (includeArchived : Bool) (limit : ℕ)
    (cursor : Option Uuid) (chats : List ChatRow) : List ChatRow :=
  findMany ChatRow.place (·.id) (listed principal includeArchived) (limit + 1) cursor chats

def listMessages (chatId : Uuid) (limit : ℕ) (cursor : Option Uuid) (messages : List Message) :
    List Message :=
  findMany Message.place Message.id (·.chatId = chatId) (limit + 1) cursor messages

namespace ChatsDb

variable (db : ChatsDb)

/-- `findOwnedChat`. -/
def ownedChat (principal : RequestPrincipal) (chatId : Uuid) : Option ChatWithModel :=
  (db.chats.rows.find? fun chat => chat.id = chatId && ownedBy principal chat.toChat).bind
    (withModel db.models)

/-- `findByChatId`. -/
def summaryOf (chatId : Uuid) : Option ConversationSummary :=
  db.summaries.find? (·.chatId = chatId)

/-- `findLastCompletedAssistantMessage`. -/
def lastAssistantMessage (chatId : Uuid) : Option Message :=
  (newestFirst Message.place (db.messages.filter fun message =>
    message.chatId = chatId && message.role = .Assistant && message.status = .Completed)).head?

/-! ## The service -/

/-- The cursor of the next page: the last row of this one, if there are more. -/
def nextCursor {α : Type} (id : α → Uuid) (limit : ℕ) (rows : List α) : Option Uuid :=
  if limit < rows.length then (rows.take limit).getLast?.map id else none

variable (parseUuid : String → Option Uuid)

def list (principal : RequestPrincipal) (cursor : Option String) (limit : ℕ)
    (includeArchived : Bool) : Except JsError ChatPage := do
  let cursor ← parseCursor parseUuid cursor
  let chats := (listChats principal includeArchived limit cursor db.chats.rows).filterMap
    (withModel db.models)
  let page := chats.take limit
  return { chats := page.map toChatSummary, nextCursor := nextCursor (·.chat.id) limit chats }

def get (principal : RequestPrincipal) (chatId : String) (cursor : Option String) (limit : ℕ) :
    Except JsError ChatDetail := do
  let chatId ← parseId parseUuid chatId
  match db.ownedChat principal chatId with
  | none => throw (.Http 404 "Chat not found.")
  | some chat =>
      let cursor ← parseCursor parseUuid cursor
      let messages := listMessages chatId limit cursor db.messages
      let summary := db.summaryOf chat.chat.id
      let lastAssistantMessage := db.lastAssistantMessage chat.chat.id
      let page := messages.take limit
      return { toChatSummary chat with
        messages := page.reverse.map toChatMessage
        nextCursor := nextCursor Message.id limit messages
        context := toChatContext chat.selectedModel.maxContext summary lastAssistantMessage }

/-! ## What it answers

Each answer is characterized once, so that no later file has to unfold the service. -/

section Answers

variable {parseUuid} {db : ChatsDb} {principal : RequestPrincipal} {cursor : Option String}
  {limit : ℕ}

/-- Ids that do not repeat make keys that do not. -/
lemma nodup_place {α : Type} {rows : List α} {id : α → Uuid} {time : α → Timestamp}
    (hnodup : (rows.map id).Nodup) :
    (rows.map fun row => (toLex (time row, id row) : Timestamp ×ₗ Uuid)).Nodup := by
  refine List.Nodup.of_map (fun place => (ofLex place).2) ?_
  rw [List.map_map]
  exact hnodup

lemma nodup_chats (db : ChatsDb) : (db.chats.rows.map ChatRow.place).Nodup :=
  nodup_place db.chats.nodup

lemma nodup_messages (db : ChatsDb) : (db.messages.map Message.place).Nodup :=
  nodup_place db.messages_nodup

lemma withModel_isSome (db : ChatsDb) {chat : ChatRow} (hchat : chat ∈ db.chats.rows) :
    (withModel db.models chat).isSome := by
  obtain ⟨model, hmodel, hid⟩ := db.chats.hasModel chat hchat
  rw [withModel, Option.isSome_map, List.find?_isSome]
  exact ⟨model, hmodel, decide_eq_true hid⟩

lemma map_chat_withModel (db : ChatsDb) {chats : List ChatRow}
    (hchats : ∀ chat ∈ chats, chat ∈ db.chats.rows) :
    (chats.filterMap (withModel db.models)).map (·.chat) = chats := by
  rw [List.map_filterMap]
  conv_rhs => rw [← List.filterMap_some (l := chats)]
  refine List.filterMap_congr fun chat hchat => ?_
  obtain ⟨found, hfound⟩ := Option.isSome_iff_exists.mp (db.withModel_isSome (hchats chat hchat))
  obtain ⟨model, -, rfl⟩ := Option.map_eq_some_iff.mp hfound
  rw [hfound]
  rfl

/-- A chat that is found is an own one. -/
lemma ownedChat_spec {chatId : Uuid} {found : ChatWithModel}
    (h : db.ownedChat principal chatId = some found) :
    found.chat ∈ db.chats.rows ∧ found.chat.id = chatId
      ∧ ownedBy principal found.chat.toChat = true := by
  obtain ⟨chat, hfind, hmodel⟩ := Option.bind_eq_some_iff.mp h
  obtain ⟨model, -, rfl⟩ := Option.map_eq_some_iff.mp hmodel
  have hp := List.find?_some hfind
  simp only [Bool.and_eq_true, decide_eq_true_eq] at hp
  exact ⟨List.mem_of_find?_eq_some hfind, hp.1, hp.2⟩

/-- The answer to a cursor that parses. -/
lemma list_of_cursor {includeArchived : Bool} {id : Option Uuid}
    (hcursor : parseCursor parseUuid cursor = .ok id) :
    db.list parseUuid principal cursor limit includeArchived
      = let chats := (listChats principal includeArchived limit id db.chats.rows).filterMap
          (withModel db.models)
        .ok ⟨(chats.take limit).map toChatSummary, nextCursor (·.chat.id) limit chats⟩ := by
  simp only [list, hcursor]
  rfl

/-- **A page** is the front of what the query returns. -/
lemma list_page {includeArchived : Bool} {id : Option Uuid}
    (hcursor : parseCursor parseUuid cursor = .ok id) :
    ∃ page, db.list parseUuid principal cursor limit includeArchived = .ok page
      ∧ page.chats.map ChatSummary.place
        = ((listChats principal includeArchived limit id db.chats.rows).take limit).map ChatRow.place
      ∧ page.nextCursor
        = nextCursor (·.id) limit (listChats principal includeArchived limit id db.chats.rows) := by
  have hmem : ∀ chat ∈ listChats principal includeArchived limit id db.chats.rows,
      chat ∈ db.chats.rows := fun chat hchat =>
    (mem_table_of_mem_rowsFrom db.nodup_chats (List.mem_of_mem_take hchat)).1
  have hrows := db.map_chat_withModel hmem
  refine ⟨_, list_of_cursor hcursor, ?_, ?_⟩
  · conv_rhs => rw [← hrows, ← List.map_take, List.map_map]
    rw [List.map_map]
    rfl
  · dsimp only
    conv_rhs => rw [← hrows]
    simp only [nextCursor]
    rw [List.length_map, ← List.map_take, List.getLast?_map, Option.map_map]
    rfl

lemma get_of_cursor {chatId : String} {chat : Uuid} {found : ChatWithModel} {id : Option Uuid}
    (hchat : parseId parseUuid chatId = .ok chat) (hfound : db.ownedChat principal chat = some found)
    (hcursor : parseCursor parseUuid cursor = .ok id) :
    db.get parseUuid principal chatId cursor limit
      = let messages := listMessages chat limit id db.messages
        .ok { toChatSummary found with
          messages := (messages.take limit).reverse.map toChatMessage
          nextCursor := nextCursor Message.id limit messages
          context := toChatContext found.selectedModel.maxContext (db.summaryOf found.chat.id)
            (db.lastAssistantMessage found.chat.id) } := by
  simp only [get, hchat, bind, Except.bind, hfound, hcursor]
  rfl

/-- The id is that of an own chat. -/
def OwnChat (db : ChatsDb) (principal : RequestPrincipal) (id : Uuid) : Prop :=
  ∃ chat ∈ db.chats.rows, ownedBy principal chat.toChat ∧ chat.id = id

lemma exists_ownedChat {id : Uuid} (hown : db.OwnChat principal id) :
    ∃ found, db.ownedChat principal id = some found := by
  obtain ⟨chat, hchat, howned, hid⟩ := hown
  have hsome : (db.chats.rows.find? fun chat =>
      chat.id = id && ownedBy principal chat.toChat).isSome := by
    rw [List.find?_isSome]
    exact ⟨chat, hchat, by simp [hid, howned]⟩
  obtain ⟨found, hfound⟩ := Option.isSome_iff_exists.mp hsome
  obtain ⟨model, hmodel⟩ := Option.isSome_iff_exists.mp
    (db.withModel_isSome (List.mem_of_find?_eq_some hfound))
  exact ⟨model, by rw [ownedChat, hfound, Option.bind_some, hmodel]⟩

/-- **A page of messages** is the front of what the query returns, the oldest message first. -/
lemma get_page {chatId : String} {chat : Uuid} {id : Option Uuid}
    (hchat : parseId parseUuid chatId = .ok chat) (hown : db.OwnChat principal chat)
    (hcursor : parseCursor parseUuid cursor = .ok id) :
    ∃ page, db.get parseUuid principal chatId cursor limit = .ok page
      ∧ page.messages = ((listMessages chat limit id db.messages).take limit).reverse.map toChatMessage
      ∧ page.nextCursor = nextCursor Message.id limit (listMessages chat limit id db.messages) := by
  obtain ⟨found, hfound⟩ := exists_ownedChat hown
  exact ⟨_, get_of_cursor hchat hfound hcursor, rfl, rfl⟩

lemma ownChat_of_get {chatId : String} {chat : Uuid} {page : ChatDetail}
    (hchat : parseId parseUuid chatId = .ok chat)
    (hget : db.get parseUuid principal chatId cursor limit = .ok page) :
    db.OwnChat principal chat := by
  cases hfound : db.ownedChat principal chat with
  | none =>
      simp only [get, hchat, bind, Except.bind, hfound] at hget
      cases hget
  | some found =>
      obtain ⟨hmem, hid, howned⟩ := ownedChat_spec hfound
      exact ⟨found.chat, hmem, howned, hid⟩

end Answers

end ChatsDb

end RagStack
