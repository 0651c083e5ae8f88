import RagStack.Chats.ChatsService
import RagStack.Chats.Repository

/-!
# `chats.repository.ts` on the tables of a sidebar

The writes of `ChatsRepository` as functions of `ChatsDb`.  A row is inserted under an id that is
not in use, updates leave the keys as they are, and deleting a chat deletes what belongs to it.

Since `ChatsDb` carries its keys and foreign keys, a statement has to be shown to keep them before
it is a function at all: an INSERT into a table whose key is in use is an error, as is one whose
foreign key finds no row, and otherwise the new table is valid again.  The proofs are in the
definitions, which is where they are needed and the only place.  Whoever uses a transaction
afterwards gets a valid database or an error.

The ids and times of new rows come from PostgreSQL. They are arguments here, and nothing is assumed
of them except where a statement needs the id to be free.

* `insertChat`, `updateRow`, `deleteRow`, `insertMessage`, `updateMessage` — one statement each.
* `ChatsTransaction`, `ChatsDb.commit` — the transactions, with the ids and times PostgreSQL gives.
-/

namespace RagStack

/-! ## Statements

One definition for each statement of the repository, with what the database checks. -/

/-- The columns of `chat` an UPDATE writes, with the values it gives them. -/
structure ChatUpdate where
  title : Option JsString
  selectedModelId : Option Uuid
  archivedAt : Option (Option Timestamp)
  lastMessageAt : Option Timestamp
  updatedAt : Timestamp

def ChatUpdate.apply (data : ChatUpdate) (chat : ChatRow) : ChatRow :=
  { chat with
    title := data.title.getD chat.title
    selectedModelId := data.selectedModelId.getD chat.selectedModelId
    archivedAt := data.archivedAt.getD chat.archivedAt
    lastMessageAt := data.lastMessageAt.getD chat.lastMessageAt
    updatedAt := data.updatedAt }

namespace ChatsDb

section Statements

variable (db : ChatsDb)

/-- `INSERT INTO chat`. -/
def insertChat (chat : ChatRow) (hid : ∀ other ∈ db.chats.rows, other.id ≠ chat.id)
    (hmodel : ∃ model ∈ db.models, model.id = chat.selectedModelId)
    (howner : chat.userId.isSome ≠ chat.anonymousSessionId.isSome) : ChatsDb where
  models := db.models
  chats :=
    { rows := chat :: db.chats.rows
      nodup := by
        refine List.nodup_cons.mpr ⟨fun hmem => ?_, db.chats.nodup⟩
        obtain ⟨other, hother, heq⟩ := List.mem_map.mp hmem
        exact hid other hother heq
      hasModel := List.forall_mem_cons.mpr ⟨hmodel, db.chats.hasModel⟩
      oneOwner := List.forall_mem_cons.mpr ⟨howner, db.chats.oneOwner⟩ }
  messages := db.messages
  summaries := db.summaries
  messages_nodup := db.messages_nodup
  summaries_nodup := db.summaries_nodup
  messageChat := by
    intro message hmessage
    obtain ⟨other, hother, heq⟩ := db.messageChat message hmessage
    exact ⟨other, List.mem_cons_of_mem _ hother, heq⟩
  summaryChat := by
    intro summary hsummary
    obtain ⟨other, hother, heq⟩ := db.summaryChat summary hsummary
    exact ⟨other, List.mem_cons_of_mem _ hother, heq⟩

/-- `INSERT INTO message`. -/
def insertMessage (message : Message) (hid : ∀ other ∈ db.messages, other.id ≠ message.id)
    (hchat : ∃ chat ∈ db.chats.rows, chat.id = message.chatId) : ChatsDb where
  models := db.models
  chats := db.chats
  messages := message :: db.messages
  summaries := db.summaries
  messages_nodup := by
    refine List.nodup_cons.mpr ⟨fun hmem => ?_, db.messages_nodup⟩
    obtain ⟨other, hother, heq⟩ := List.mem_map.mp hmem
    exact hid other hother heq
  summaries_nodup := db.summaries_nodup
  messageChat := List.forall_mem_cons.mpr ⟨hchat, db.messageChat⟩
  summaryChat := db.summaryChat

/-- `UPDATE chat SET … WHERE id`. -/
def updateRow (chatId : Uuid) (data : ChatUpdate)
    (hmodel : ∀ id ∈ data.selectedModelId, ∃ model ∈ db.models, model.id = id) : ChatsDb where
  models := db.models
  chats :=
    { rows := db.chats.rows.map fun chat => if chat.id = chatId then data.apply chat else chat
      nodup := by
        have hids : (db.chats.rows.map fun chat =>
            if chat.id = chatId then data.apply chat else chat).map (·.id)
              = db.chats.rows.map (·.id) := by
          rw [List.map_map]
          refine List.map_congr_left fun chat _ => ?_
          show (if chat.id = chatId then data.apply chat else chat).id = chat.id
          split <;> rfl
        rw [hids]
        exact db.chats.nodup
      hasModel := by
        intro chat hchat
        obtain ⟨old, hold, rfl⟩ := List.mem_map.mp hchat
        split
        · simp only [ChatUpdate.apply]
          cases hdata : data.selectedModelId with
          | none => exact db.chats.hasModel old hold
          | some id => exact hmodel id hdata
        · exact db.chats.hasModel old hold
      oneOwner := by
        intro chat hchat
        obtain ⟨old, hold, rfl⟩ := List.mem_map.mp hchat
        have howner := db.chats.oneOwner old hold
        split <;> exact howner }
  messages := db.messages
  summaries := db.summaries
  messages_nodup := db.messages_nodup
  summaries_nodup := db.summaries_nodup
  messageChat := by
    intro message hmessage
    obtain ⟨chat, hchat, heq⟩ := db.messageChat message hmessage
    refine ⟨_, List.mem_map_of_mem hchat, ?_⟩
    split <;> exact heq
  summaryChat := by
    intro summary hsummary
    obtain ⟨chat, hchat, heq⟩ := db.summaryChat summary hsummary
    refine ⟨_, List.mem_map_of_mem hchat, ?_⟩
    split <;> exact heq

/-- `UPDATE message SET … WHERE id`: `change` says what happens to the data, the keys stay. -/
def updateMessage (id : Uuid) (change : Message → Message) : ChatsDb where
  models := db.models
  chats := db.chats
  messages := db.messages.map fun message =>
    if message.id = id then { change message with id := message.id, chatId := message.chatId }
    else message
  summaries := db.summaries
  messages_nodup := by
    have hids : (db.messages.map fun message =>
        if message.id = id then { change message with id := message.id, chatId := message.chatId }
        else message).map Message.id = db.messages.map Message.id := by
      rw [List.map_map]
      refine List.map_congr_left fun message _ => ?_
      simp only [Function.comp_apply]
      split <;> rfl
    rw [hids]
    exact db.messages_nodup
  summaries_nodup := db.summaries_nodup
  messageChat := by
    intro message hmessage
    obtain ⟨old, hold, rfl⟩ := List.mem_map.mp hmessage
    have hchat := db.messageChat old hold
    split <;> exact hchat
  summaryChat := db.summaryChat

/-- The chats that are kept and what belongs to them. -/
def keepChats (keep : Uuid → Bool) : ChatsDb where
  models := db.models
  chats :=
    { rows := db.chats.rows.filter fun chat => keep chat.id
      nodup := db.chats.nodup.sublist (List.filter_sublist.map _)
      hasModel := fun chat hchat => db.chats.hasModel chat (List.mem_of_mem_filter hchat)
      oneOwner := fun chat hchat => db.chats.oneOwner chat (List.mem_of_mem_filter hchat) }
  messages := db.messages.filter fun message => keep message.chatId
  summaries := db.summaries.filter fun summary => keep summary.chatId
  messages_nodup := db.messages_nodup.sublist (List.filter_sublist.map _)
  summaries_nodup := db.summaries_nodup.sublist (List.filter_sublist.map _)
  messageChat := by
    intro message hmessage
    obtain ⟨hmessage, hkeep⟩ := List.mem_filter.mp hmessage
    obtain ⟨chat, hchat, heq⟩ := db.messageChat message hmessage
    exact ⟨chat, List.mem_filter.mpr ⟨hchat, heq ▸ hkeep⟩, heq⟩
  summaryChat := by
    intro summary hsummary
    obtain ⟨hsummary, hkeep⟩ := List.mem_filter.mp hsummary
    obtain ⟨chat, hchat, heq⟩ := db.summaryChat summary hsummary
    exact ⟨chat, List.mem_filter.mpr ⟨hchat, heq ▸ hkeep⟩, heq⟩

/-- `DELETE FROM chat WHERE id`, with `ON DELETE CASCADE`. -/
def deleteRow (chatId : Uuid) : ChatsDb := db.keepChats (· ≠ chatId)

end Statements

/-! ## Transactions

A transaction is a sequence of statements.  The first one that fails is the result, and then nothing
has changed. -/

/-- Prisma's error for a key that is in use. -/
def uniqueViolation : JsError := .Coded "P2002" (some "Unique constraint failed.")

/-- `message.create`. -/
def createMessage (db : ChatsDb) (draft : MessageDraft) (id : Uuid) (createdAt : Timestamp) :
    Except JsError ChatsDb :=
  if hchat : ∃ chat ∈ db.chats.rows, chat.id = draft.chatId then
    if hid : ∀ other ∈ db.messages, other.id ≠ id then
      .ok (db.insertMessage (draft.message id createdAt) hid hchat)
    else .error uniqueViolation
  else .error foreignKeyViolation

/-- `chat.update`. -/
def changeChat (db : ChatsDb) (chatId : Uuid) (data : ChatUpdate) : Except JsError ChatsDb :=
  if db.chats.rows.any (·.id = chatId) then
    if hmodel : ∀ id ∈ data.selectedModelId, ∃ model ∈ db.models, model.id = id then
      .ok (db.updateRow chatId data hmodel)
    else .error foreignKeyViolation
  else .error recordNotFound

/-- `chat.update({ data: { last_message_at } })`. -/
def touchChat (db : ChatsDb) (chatId : Uuid) (lastMessageAt now : Timestamp) :
    Except JsError ChatsDb :=
  db.changeChat chatId ⟨none, none, none, some lastMessageAt, now⟩

def createChat (db : ChatsDb) (chatId promptId : Uuid) (principal : RequestPrincipal)
    (title : JsString) (selectedModelId : Uuid) (firstPrompt : Option JsString)
    (now : Timestamp) : Except JsError ChatsDb :=
  if hmodel : ∃ model ∈ db.models, model.id = selectedModelId then
    if hid : ∀ other ∈ db.chats.rows, other.id ≠ chatId then
      let chat : ChatRow :=
        { id := chatId, userId := (ownerColumns principal).1,
          anonymousSessionId := (ownerColumns principal).2, title, selectedModelId,
          lastMessageAt := now, createdAt := now, updatedAt := now, archivedAt := none }
      let created := db.insertChat chat hid hmodel (by cases principal <;> simp [chat, ownerColumns])
      match JsString.truthy firstPrompt with
      | none => .ok created
      | some prompt => created.createMessage (Stores.promptDraft chatId prompt) promptId now
    else .error uniqueViolation
  else .error foreignKeyViolation

def updateChat (db : ChatsDb) (chatId : Uuid) (title : Option JsString)
    (selectedModelId : Option Uuid) (archived : Option Bool) (now : Timestamp) :
    Except JsError ChatsDb :=
  db.changeChat chatId ⟨title, selectedModelId,
    archived.map fun archived => if archived then some now else none, none, now⟩

def deleteChat (db : ChatsDb) (chatId : Uuid) : Except JsError ChatsDb :=
  if db.chats.rows.any (·.id = chatId) then .ok (db.deleteRow chatId) else .error recordNotFound

/-- `beginGeneration`, with the ids and creation times of its two rows. -/
def beginGeneration (db : ChatsDb) (chatId : Uuid) (content : JsString) (model : String)
    (promptId replyId : Uuid) (promptAt replyAt : Timestamp) : Except JsError ChatsDb := do
  let withPrompt ← db.createMessage (Stores.promptDraft chatId content) promptId promptAt
  let withReply ← withPrompt.createMessage (Stores.replyDraft chatId model) replyId replyAt
  withReply.touchChat chatId promptAt replyAt

def completeGeneration (db : ChatsDb) (assistantMessageId : Uuid) (content : JsString)
    (promptTokens completionTokens : Option ℤ) (finishReason : Option String) (now : Timestamp) :
    Except JsError ChatsDb :=
  match db.messages.find? (·.id = assistantMessageId) with
  | none => .error recordNotFound
  | some message =>
      (db.updateMessage assistantMessageId
        (Stores.completed content promptTokens completionTokens finishReason now)).touchChat
          message.chatId now now

def endGeneration (db : ChatsDb) (assistantMessageId : Uuid) (content : JsString)
    (errorCode : Option String) (now : Timestamp) : Except JsError ChatsDb :=
  if db.messages.any (·.id = assistantMessageId) then
    .ok (db.updateMessage assistantMessageId (Stores.ended content errorCode now))
  else .error recordNotFound

end ChatsDb

/-- A transaction, with what PostgreSQL adds to it. -/
inductive ChatsTransaction where
  | CreateChat (chatId promptId : Uuid) (principal : RequestPrincipal) (title : JsString)
      (selectedModelId : Uuid) (firstPrompt : Option JsString) (now : Timestamp)
  | UpdateChat (chatId : Uuid) (title : Option JsString) (selectedModelId : Option Uuid)
      (archived : Option Bool) (now : Timestamp)
  | DeleteChat (chatId : Uuid)
  | BeginGeneration (chatId : Uuid) (content : JsString) (model : String)
      (promptId replyId : Uuid) (promptAt replyAt : Timestamp)
  | CompleteGeneration (assistantMessageId : Uuid) (content : JsString)
      (promptTokens completionTokens : Option ℤ) (finishReason : Option String) (now : Timestamp)
  | EndGeneration (assistantMessageId : Uuid) (content : JsString) (errorCode : Option String)
      (now : Timestamp)

namespace ChatsDb

/-- The transaction commits, or fails and changes nothing. -/
def commit (db : ChatsDb) : ChatsTransaction → Except JsError ChatsDb
  | .CreateChat chatId promptId principal title selectedModelId firstPrompt now =>
      db.createChat chatId promptId principal title selectedModelId firstPrompt now
  | .UpdateChat chatId title selectedModelId archived now =>
      db.updateChat chatId title selectedModelId archived now
  | .DeleteChat chatId => db.deleteChat chatId
  | .BeginGeneration chatId content model promptId replyId promptAt replyAt =>
      db.beginGeneration chatId content model promptId replyId promptAt replyAt
  | .CompleteGeneration assistantMessageId content promptTokens completionTokens finishReason now =>
      db.completeGeneration assistantMessageId content promptTokens completionTokens finishReason now
  | .EndGeneration assistantMessageId content errorCode now =>
      db.endGeneration assistantMessageId content errorCode now

def after (db : ChatsDb) (transaction : ChatsTransaction) : ChatsDb :=
  match db.commit transaction with
  | .ok db' => db'
  | .error _ => db

/-! ## Messages through a transaction -/

/-- The places of the messages of a chat. -/
def places (db : ChatsDb) (chatId : Uuid) : List (Timestamp ×ₗ Uuid) :=
  (db.messages.filter (·.chatId = chatId)).map Message.place

/-- A new message has its place in its chat. -/
lemma filter_insert {draft : MessageDraft} {chatId id : Uuid} {createdAt : Timestamp}
    {messages : List Message} :
    ((draft.message id createdAt :: messages).filter (·.chatId = chatId)).map Message.place
      = if draft.chatId = chatId
        then toLex (createdAt, id) :: (messages.filter (·.chatId = chatId)).map Message.place
        else (messages.filter (·.chatId = chatId)).map Message.place := by
  have hchatId : (draft.message id createdAt).chatId = draft.chatId := rfl
  rw [List.filter_cons, hchatId]
  simp only [decide_eq_true_eq]
  split
  · rfl
  · rfl

/-- **What a chat keeps**: it stays an own chat, its messages stay where they are, and those that
are added come later. -/
structure KeepsChat (principal : RequestPrincipal) (chatId : Uuid) (db db' : ChatsDb) : Prop where
  own : db'.OwnChat principal chatId
  old : ∀ k ∈ db.places chatId, k ∈ db'.places chatId
  new : ∀ k ∈ db'.places chatId, k ∈ db.places chatId ∨ ∀ k' ∈ db.places chatId, k' < k

/-- A transaction that may add messages to the chat, but later ones only. -/
def LaterOnly (chatId : Uuid) (db : ChatsDb) : ChatsTransaction → Prop
  | .BeginGeneration id _ _ promptId replyId promptAt replyAt =>
      id = chatId → ∀ k ∈ db.places chatId,
        k < toLex (promptAt, promptId) ∧ k < toLex (replyAt, replyId)
  | .DeleteChat id => id ≠ chatId
  | _ => True

instance (chatId : Uuid) (db : ChatsDb) : DecidablePred (LaterOnly chatId db)
  | .BeginGeneration .. => inferInstanceAs (Decidable (_ → _))
  | .DeleteChat id => inferInstanceAs (Decidable (id ≠ chatId))
  | .CreateChat .. | .UpdateChat .. | .CompleteGeneration .. | .EndGeneration .. =>
      inferInstanceAs (Decidable True)

section Keeps

variable {principal : RequestPrincipal} {chatId id : Uuid} {db db' : ChatsDb}

lemma KeepsChat.of_places (hown : db'.OwnChat principal chatId)
    (hplaces : db'.places chatId = db.places chatId) : KeepsChat principal chatId db db' :=
  ⟨hown, fun _ hk => hplaces ▸ hk, fun _ hk => .inl (hplaces ▸ hk)⟩

lemma KeepsChat.trans {db'' : ChatsDb} (h : KeepsChat principal chatId db db')
    (h' : KeepsChat principal chatId db' db'') : KeepsChat principal chatId db db'' := by
  refine ⟨h'.own, fun k hk => h'.old k (h.old k hk), fun k hk => ?_⟩
  rcases h'.new k hk with hk | hk
  · exact h.new k hk
  · exact .inr fun k' hk' => hk k' (h.old k' hk')

lemma OwnChat.of_rows (hown : db.OwnChat principal chatId) (hrows : db'.chats.rows = db.chats.rows) :
    db'.OwnChat principal chatId := by
  simp only [OwnChat]
  rwa [hrows]

lemma createMessage_spec {draft : MessageDraft} {createdAt : Timestamp}
    (h : db.createMessage draft id createdAt = .ok db') :
    db'.chats.rows = db.chats.rows ∧ db'.messages = draft.message id createdAt :: db.messages := by
  simp only [createMessage] at h
  split at h
  · split at h
    · cases h
      exact ⟨rfl, rfl⟩
    · cases h
  · cases h

lemma changeChat_spec {data : ChatUpdate} (h : db.changeChat id data = .ok db') :
    db'.messages = db.messages
      ∧ ∀ principal chatId, db.OwnChat principal chatId → db'.OwnChat principal chatId := by
  simp only [changeChat] at h
  split at h
  · split at h
    · cases h
      refine ⟨rfl, fun principal chatId => ?_⟩
      rintro ⟨chat, hchat, howned, hid⟩
      refine ⟨_, List.mem_map_of_mem hchat, ?_⟩
      split
      · exact ⟨howned, hid⟩
      · exact ⟨howned, hid⟩
    · cases h
  · cases h

/-- An update that leaves the creation time alone leaves every message in its place. -/
lemma places_updateMessage {change : Message → Message}
    (hchange : ∀ m, (change m).createdAt = m.createdAt) :
    (db.updateMessage id change).places chatId = db.places chatId := by
  let f : Message → Message := fun m =>
    if m.id = id then { change m with id := m.id, chatId := m.chatId } else m
  have hchat : (fun m : Message => decide (m.chatId = chatId)) ∘ f
      = fun m : Message => decide (m.chatId = chatId) := by
    funext m
    simp only [f, Function.comp_apply]
    split <;> rfl
  have hplace : Message.place ∘ f = Message.place := by
    funext m
    simp only [f, Function.comp_apply]
    split
    · simp only [Message.place, hchange]
    · rfl
  show ((db.messages.map f).filter _).map _ = _
  rw [List.filter_map, List.map_map, hchat, hplace]
  rfl

lemma KeepsChat.refl (hown : db.OwnChat principal chatId) : KeepsChat principal chatId db db :=
  .of_places hown rfl

lemma beginGeneration_spec {content : JsString} {model : String} {promptId replyId : Uuid}
    {promptAt replyAt : Timestamp}
    (h : db.beginGeneration id content model promptId replyId promptAt replyAt = .ok db') :
    db'.messages = (Stores.replyDraft id model).message replyId replyAt
        :: (Stores.promptDraft id content).message promptId promptAt :: db.messages
      ∧ ∀ principal chatId, db.OwnChat principal chatId → db'.OwnChat principal chatId := by
  simp only [beginGeneration] at h
  cases hprompt : db.createMessage (Stores.promptDraft id content) promptId promptAt with
  | error e =>
      simp only [hprompt, bind, Except.bind] at h
      cases h
  | ok withPrompt =>
      simp only [hprompt, bind, Except.bind] at h
      cases hreply : withPrompt.createMessage (Stores.replyDraft id model) replyId replyAt with
      | error e =>
          simp only [hreply] at h
          cases h
      | ok withReply =>
          simp only [hreply] at h
          obtain ⟨hrows, hcons⟩ := createMessage_spec hprompt
          obtain ⟨hrows', hcons'⟩ := createMessage_spec hreply
          obtain ⟨hmessages, hkeep⟩ := changeChat_spec h
          refine ⟨?_, fun principal chatId hown => ?_⟩
          · rw [hmessages, hcons', hcons]
          · exact hkeep _ _ (.of_rows hown (hrows'.trans hrows))

lemma beginGeneration_places {content : JsString} {model : String} {promptId replyId : Uuid}
    {promptAt replyAt : Timestamp}
    (h : db.beginGeneration chatId content model promptId replyId promptAt replyAt = .ok db') :
    db'.places chatId
      = toLex (replyAt, replyId) :: toLex (promptAt, promptId) :: db.places chatId := by
  simp only [places]
  rw [(beginGeneration_spec h).1, filter_insert, filter_insert]
  simp only [Stores.replyDraft, Stores.promptDraft, if_true]

/-- A new generation in the chat adds two later messages. -/
lemma beginGeneration_keepsChat {content : JsString} {model : String} {promptId replyId : Uuid}
    {promptAt replyAt : Timestamp} (hown : db.OwnChat principal chatId)
    (hlater : id = chatId → ∀ k ∈ db.places chatId,
      k < toLex (promptAt, promptId) ∧ k < toLex (replyAt, replyId))
    (h : db.beginGeneration id content model promptId replyId promptAt replyAt = .ok db') :
    KeepsChat principal chatId db db' := by
  obtain ⟨hmessages, hkeep⟩ := beginGeneration_spec h
  by_cases hid : id = chatId
  · subst hid
    have hall := beginGeneration_places h
    refine ⟨hkeep _ _ hown, fun k hk => ?_, fun k hk => ?_⟩
    · rw [hall]
      exact List.mem_cons_of_mem _ (List.mem_cons_of_mem _ hk)
    · rw [hall, List.mem_cons, List.mem_cons] at hk
      rcases hk with rfl | rfl | hk
      · exact .inr fun k' hk' => (hlater rfl k' hk').2
      · exact .inr fun k' hk' => (hlater rfl k' hk').1
      · exact .inl hk
  · refine .of_places (hkeep _ _ hown) ?_
    simp only [places]
    rw [hmessages, filter_insert, filter_insert]
    simp only [Stores.replyDraft, Stores.promptDraft, hid, if_false]

lemma createChat_keepsChat {promptId selectedModelId : Uuid} {owner : RequestPrincipal}
    {title : JsString} {firstPrompt : Option JsString} {now : Timestamp}
    (hown : db.OwnChat principal chatId)
    (h : db.createChat id promptId owner title selectedModelId firstPrompt now = .ok db') :
    KeepsChat principal chatId db db' := by
  obtain ⟨chat, hchat, howned, hid⟩ := hown
  simp only [createChat] at h
  split at h
  · split at h
    · rename_i hfresh
      have hne : id ≠ chatId := fun heq => hfresh chat hchat (hid.trans heq.symm)
      cases hprompt : JsString.truthy firstPrompt with
      | none =>
          simp only [hprompt] at h
          cases h
          exact .of_places ⟨chat, List.mem_cons_of_mem _ hchat, howned, hid⟩ rfl
      | some prompt =>
          simp only [hprompt] at h
          obtain ⟨hrows, hcons⟩ := createMessage_spec h
          refine .of_places ?_ ?_
          · exact .of_rows ⟨chat, List.mem_cons_of_mem _ hchat, howned, hid⟩ hrows
          · simp only [places]
            rw [hcons, filter_insert]
            simp only [Stores.promptDraft, hne, if_false]
            rfl
    · cases h
  · cases h

lemma deleteChat_keepsChat (hown : db.OwnChat principal chatId) (hne : id ≠ chatId)
    (h : db.deleteChat id = .ok db') : KeepsChat principal chatId db db' := by
  simp only [deleteChat] at h
  split at h
  · cases h
    obtain ⟨chat, hchat, howned, hid⟩ := hown
    refine .of_places ⟨chat, List.mem_filter.mpr ⟨hchat, ?_⟩, howned, hid⟩ ?_
    · simpa [hid] using hne.symm
    · simp only [places, deleteRow, keepChats, List.filter_filter]
      congr 1
      refine List.filter_congr fun message _ => ?_
      by_cases heq : message.chatId = chatId
      · simpa [heq] using hne.symm
      · simp [heq]
  · cases h

/-- The end of a generation leaves every message in its place. -/
lemma completeGeneration_spec {content : JsString} {promptTokens completionTokens : Option ℤ}
    {finishReason : Option String} {now : Timestamp}
    (h : db.completeGeneration id content promptTokens completionTokens finishReason now = .ok db') :
    db'.places chatId = db.places chatId
      ∧ ∀ principal chatId, db.OwnChat principal chatId → db'.OwnChat principal chatId := by
  simp only [completeGeneration] at h
  split at h
  · cases h
  · obtain ⟨hmessages, hkeep⟩ := changeChat_spec h
    refine ⟨?_, fun principal chatId hown => hkeep _ _ hown⟩
    have hsame : (db.updateMessage id (Stores.completed content promptTokens completionTokens
        finishReason now)).places chatId = db.places chatId := places_updateMessage fun _ => rfl
    rw [← hsame]
    simp only [places]
    rw [hmessages]

lemma endGeneration_spec {content : JsString} {errorCode : Option String} {now : Timestamp}
    (h : db.endGeneration id content errorCode now = .ok db') :
    db'.places chatId = db.places chatId
      ∧ ∀ principal chatId, db.OwnChat principal chatId → db'.OwnChat principal chatId := by
  simp only [endGeneration] at h
  split at h
  · cases h
    exact ⟨places_updateMessage fun _ => rfl, fun _ _ hown => hown⟩
  · cases h

/-- **A transaction keeps the chat** if it adds later messages only. -/
lemma after_keepsChat {transaction : ChatsTransaction} (hown : db.OwnChat principal chatId)
    (hlater : LaterOnly chatId db transaction) :
    KeepsChat principal chatId db (db.after transaction) := by
  simp only [after]
  cases hcommit : db.commit transaction with
  | error e => exact .refl hown
  | ok db' =>
      cases transaction with
      | CreateChat id promptId owner title selectedModelId firstPrompt now =>
          exact createChat_keepsChat hown hcommit
      | UpdateChat id title selectedModelId archived now =>
          obtain ⟨hmessages, hkeep⟩ := changeChat_spec hcommit
          refine .of_places (hkeep _ _ hown) ?_
          simp only [places]
          rw [hmessages]
      | DeleteChat id => exact deleteChat_keepsChat hown hlater hcommit
      | BeginGeneration id content model promptId replyId promptAt replyAt =>
          exact beginGeneration_keepsChat hown hlater hcommit
      | CompleteGeneration assistantMessageId content promptTokens completionTokens finishReason now =>
          obtain ⟨hplaces, hkeep⟩ := completeGeneration_spec hcommit
          exact .of_places (hkeep _ _ hown) hplaces
      | EndGeneration assistantMessageId content errorCode now =>
          obtain ⟨hplaces, hkeep⟩ := endGeneration_spec hcommit
          exact .of_places (hkeep _ _ hown) hplaces

end Keeps

end ChatsDb

end RagStack
