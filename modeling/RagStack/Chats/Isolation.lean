import RagStack.Chats.ChatsTransactions
import Mathlib.Data.Set.Finite.Lattice

/-!
# What `list` and `get` tell about the chats of others

Two databases which hold the same chats of a principal, with their messages and summaries, and the
same models.  `list` and `get` check the owner of the chats they return, but look the cursor up
among all rows, and compare its ordering values with those of the rows they return.

That a request tells nothing of the chats of others means that it has the same answer on every two
such databases.  This is the usual form of non-interference, and it is more than the statement that
no row of another principal is returned: a page can be cut at a place that depends on a row which is
not shown.  With the id of a stranger's chat as a cursor, the page says how recent that chat is
compared with one's own.

The requests for which nothing is told are characterized exactly.  One half is a congruence: with a
cursor of one's own, or none, or nothing to compare, the query only looks at own rows.  The other
half is constructive.  For every other request there is a second database with the same own chats,
in which the row of the cursor is missing or is somewhere else, and the answers differ.

* `AgreeFor` — two databases that hold the same for a principal.
* `ListGuarded`, `GetGuarded` — the requests whose cursor finds no row of somebody else to compare
  with, or nothing to compare it with.
* `list_congr`, `get_congr` — these requests have the same answer on both.
* `unguarded_list`, `unguarded_get` — every other request has two.
-/

namespace RagStack

/-! ## Agreement -/

/-- The two databases hold the same for `principal`: the models, the chats of the principal, and
what belongs to these.  Of everything else nothing is said. -/
structure AgreeFor (principal : RequestPrincipal) (db db' : ChatsDb) : Prop where
  models : db.models = db'.models
  chats : ∀ chat : ChatRow, ownedBy principal chat.toChat →
    (chat ∈ db.chats.rows ↔ chat ∈ db'.chats.rows)
  messages : ∀ chat ∈ db.chats.rows, ownedBy principal chat.toChat → ∀ message : Message,
    message.chatId = chat.id → (message ∈ db.messages ↔ message ∈ db'.messages)
  summaries : ∀ chat ∈ db.chats.rows, ownedBy principal chat.toChat →
    ∀ summary : ConversationSummary, summary.chatId = chat.id →
      (summary ∈ db.summaries ↔ summary ∈ db'.summaries)

lemma AgreeFor.withModel {principal : RequestPrincipal} {db db' : ChatsDb}
    (hagree : AgreeFor principal db db') :
    RagStack.withModel db'.models = RagStack.withModel db.models :=
  congrArg RagStack.withModel hagree.models.symm

lemma AgreeFor.trans {principal : RequestPrincipal} {db db' db'' : ChatsDb}
    (h : AgreeFor principal db db') (h' : AgreeFor principal db' db'') :
    AgreeFor principal db db'' := by
  refine ⟨h.models.trans h'.models, fun chat howned => ?_, fun chat hchat howned message heq => ?_,
    fun chat hchat howned summary heq => ?_⟩
  · exact (h.chats chat howned).trans (h'.chats chat howned)
  · exact (h.messages chat hchat howned message heq).trans
      (h'.messages chat ((h.chats chat howned).mp hchat) howned message heq)
  · exact (h.summaries chat hchat howned summary heq).trans
      (h'.summaries chat ((h.chats chat howned).mp hchat) howned summary heq)

namespace ChatsDb

variable {principal : RequestPrincipal} {parseUuid : String → Option Uuid}
  {db db' : ChatsDb} {cursor : Option String} {limit : ℕ}

/-! ## Own rows -/

lemma ownedChat_congr (hagree : AgreeFor principal db db') (chatId : Uuid) :
    db.ownedChat principal chatId = db'.ownedChat principal chatId := by
  have hfind : ∀ (db : ChatsDb) (chat : ChatRow),
      (db.chats.rows.find? fun chat => chat.id = chatId && ownedBy principal chat.toChat)
        = some chat ↔ chat ∈ db.chats.rows ∧ chat.id = chatId ∧ ownedBy principal chat.toChat := by
    intro db chat
    rw [find?_eq_some_iff_of_unique]
    · simp
    · intro a ha b hb hida hidb
      simp only [Bool.and_eq_true, decide_eq_true_eq] at hida hidb
      exact List.inj_on_of_nodup_map db.chats.nodup ha hb (hida.1.trans hidb.1.symm)
  have hsame : (db.chats.rows.find? fun chat => chat.id = chatId && ownedBy principal chat.toChat)
      = db'.chats.rows.find? fun chat => chat.id = chatId && ownedBy principal chat.toChat := by
    ext chat
    rw [hfind, hfind]
    constructor
    · rintro ⟨hchat, hid, howned⟩
      exact ⟨(hagree.chats chat howned).mp hchat, hid, howned⟩
    · rintro ⟨hchat, hid, howned⟩
      exact ⟨(hagree.chats chat howned).mpr hchat, hid, howned⟩
  simp only [ownedChat]
  rw [hsame, hagree.withModel]

lemma summaryOf_congr (hagree : AgreeFor principal db db') {chat : ChatRow}
    (hchat : chat ∈ db.chats.rows) (howned : ownedBy principal chat.toChat = true) :
    db.summaryOf chat.id = db'.summaryOf chat.id := by
  ext summary
  simp only [summaryOf]
  rw [find?_eq_some_iff_of_nodup db.summaries_nodup, find?_eq_some_iff_of_nodup db'.summaries_nodup]
  constructor
  · rintro ⟨hsummary, hid⟩
    exact ⟨(hagree.summaries chat hchat howned summary hid).mp hsummary, hid⟩
  · rintro ⟨hsummary, hid⟩
    exact ⟨(hagree.summaries chat hchat howned summary hid).mpr hsummary, hid⟩

lemma lastAssistantMessage_congr (hagree : AgreeFor principal db db') {chat : ChatRow}
    (hchat : chat ∈ db.chats.rows) (howned : ownedBy principal chat.toChat = true) :
    db.lastAssistantMessage chat.id = db'.lastAssistantMessage chat.id := by
  simp only [lastAssistantMessage]
  rw [visible_congr db.nodup_messages db'.nodup_messages]
  intro message hmessage
  simp only [Bool.and_eq_true, decide_eq_true_eq] at hmessage
  exact hagree.messages chat hchat howned message hmessage.1.1

/-! ## The pages

What guards a request is a condition on the request and on the state it meets. -/

/-- A request that has no cursor, or one among `own`. -/
def CursorWithin (parseUuid : String → Option Uuid) (own : Uuid → Prop) (cursor : Option String) :
    Prop :=
  ∀ id, parseCursor parseUuid cursor = .ok (some id) → own id

/-- The id is that of a message in an own chat. -/
def OwnMessage (db : ChatsDb) (principal : RequestPrincipal) (id : Uuid) : Prop :=
  ∃ chat ∈ db.chats.rows, ownedBy principal chat.toChat
    ∧ ∃ message ∈ db.messages, message.chatId = chat.id ∧ message.id = id

/-- A `list` that compares own rows only: with a cursor of its own, or with nothing to compare. -/
def ListGuarded (parseUuid : String → Option Uuid) (db : ChatsDb) (principal : RequestPrincipal)
    (cursor : Option String) (limit : ℕ) (includeArchived : Bool) : Prop :=
  CursorWithin parseUuid (db.OwnChat principal) cursor ∨ limit = 0
    ∨ (db.chats.rows.filter (listed principal includeArchived)).length ≤ 1

/-- A `get` that compares own rows only.  One for no own chat does not come to the messages. -/
def GetGuarded (parseUuid : String → Option Uuid) (db : ChatsDb) (principal : RequestPrincipal)
    (chatId : String) (cursor : Option String) (limit : ℕ) : Prop :=
  ∀ id, parseId parseUuid chatId = .ok id → db.OwnChat principal id →
    CursorWithin parseUuid (db.OwnMessage principal) cursor ∨ limit = 0
      ∨ (db.messages.filter (·.chatId = id)).length ≤ 1

/-- No page of no rows has a next one. -/
@[simp] lemma nextCursor_zero {α : Type} (id : α → Uuid) (rows : List α) :
    nextCursor id 0 rows = none := by
  simp [nextCursor]

/-! ## Guarded requests -/

lemma listChats_congr (hagree : AgreeFor principal db db') {includeArchived : Bool}
    {id : Option Uuid} (hcursor : parseCursor parseUuid cursor = .ok id)
    (h : CursorWithin parseUuid (db.OwnChat principal) cursor
      ∨ (db.chats.rows.filter (listed principal includeArchived)).length ≤ 1) :
    listChats principal includeArchived limit id db'.chats.rows
      = listChats principal includeArchived limit id db.chats.rows := by
  have hrows : ∀ row : ChatRow, listed principal includeArchived row = true →
      (row ∈ db'.chats.rows ↔ row ∈ db.chats.rows) := by
    intro row hrow
    simp only [listed, Bool.and_eq_true] at hrow
    exact (hagree.chats row hrow.1).symm
  simp only [listChats, findMany]
  congr 1
  cases id with
  | none => exact visible_congr db'.nodup_chats db.nodup_chats hrows
  | some id =>
      rcases h with hwithin | hshort
      · refine rowsFrom_congr db'.chats.nodup db.chats.nodup db'.nodup_chats db.nodup_chats hrows ?_
        rintro id' hid'
        obtain ⟨chat, hchat, howned, hid⟩ := hwithin id hcursor
        cases hid'
        exact ⟨chat, (hagree.chats chat howned).mp hchat, hchat, hid⟩
      · have hshort' : (db'.chats.rows.filter (listed principal includeArchived)).length ≤ 1 := by
          rwa [length_visible_congr db'.nodup_chats db.nodup_chats hrows]
        rw [rowsFrom_of_length_le_one hshort', rowsFrom_of_length_le_one hshort]

/-- **A guarded `list`** has one answer. -/
theorem list_congr (hagree : AgreeFor principal db db') {includeArchived : Bool}
    (h : ListGuarded parseUuid db principal cursor limit includeArchived) :
    db'.list parseUuid principal cursor limit includeArchived
      = db.list parseUuid principal cursor limit includeArchived := by
  cases hcursor : parseCursor parseUuid cursor with
  | error e =>
      simp only [list]
      rw [hcursor]
      rfl
  | ok id =>
      rw [list_of_cursor hcursor, list_of_cursor hcursor, hagree.withModel]
      rcases h with hwithin | rfl | hshort
      · rw [listChats_congr hagree hcursor (.inl hwithin)]
      · simp
      · rw [listChats_congr hagree hcursor (.inr hshort)]

lemma listMessages_congr (hagree : AgreeFor principal db db') {chat : ChatRow}
    (hchat : chat ∈ db.chats.rows) (howned : ownedBy principal chat.toChat = true)
    {id : Option Uuid} (hcursor : parseCursor parseUuid cursor = .ok id)
    (h : CursorWithin parseUuid (db.OwnMessage principal) cursor
      ∨ (db.messages.filter (·.chatId = chat.id)).length ≤ 1) :
    listMessages chat.id limit id db'.messages = listMessages chat.id limit id db.messages := by
  have hrows : ∀ row : Message, decide (row.chatId = chat.id) = true →
      (row ∈ db'.messages ↔ row ∈ db.messages) := by
    intro row hrow
    exact (hagree.messages chat hchat howned row (of_decide_eq_true hrow)).symm
  simp only [listMessages, findMany]
  congr 1
  cases id with
  | none => exact visible_congr db'.nodup_messages db.nodup_messages hrows
  | some id =>
      rcases h with hwithin | hshort
      · refine rowsFrom_congr db'.messages_nodup db.messages_nodup db'.nodup_messages
          db.nodup_messages hrows ?_
        rintro id' hid'
        obtain ⟨own, hown, hownOwned, message, hmessage, hin, hid⟩ := hwithin id hcursor
        cases hid'
        exact ⟨message, (hagree.messages own hown hownOwned message hin).mp hmessage, hmessage, hid⟩
      · have hshort' : (db'.messages.filter (·.chatId = chat.id)).length ≤ 1 := by
          rwa [length_visible_congr db'.nodup_messages db.nodup_messages hrows]
        rw [rowsFrom_of_length_le_one hshort', rowsFrom_of_length_le_one hshort]

/-- **A guarded `get`** has one answer. -/
theorem get_congr (hagree : AgreeFor principal db db') {chatId : String}
    (h : GetGuarded parseUuid db principal chatId cursor limit) :
    db'.get parseUuid principal chatId cursor limit
      = db.get parseUuid principal chatId cursor limit := by
  cases hchat : parseId parseUuid chatId with
  | error e => simp only [get, hchat, bind, Except.bind]
  | ok chat =>
      have hsame := ownedChat_congr hagree chat
      cases hfound : db.ownedChat principal chat with
      | none => simp only [get, hchat, bind, Except.bind, ← hsame, hfound]
      | some found =>
          obtain ⟨hmem, rfl, howned⟩ := ownedChat_spec hfound
          have hguard := h _ hchat ⟨found.chat, hmem, howned, rfl⟩
          cases hcursor : parseCursor parseUuid cursor with
          | error e => simp only [get, hchat, bind, Except.bind, ← hsame, hfound, hcursor]
          | ok id =>
              rw [get_of_cursor hchat (hsame ▸ hfound) hcursor, get_of_cursor hchat hfound hcursor,
                summaryOf_congr hagree hmem howned, lastAssistantMessage_congr hagree hmem howned]
              rcases hguard with hwithin | rfl | hshort
              · rw [listMessages_congr hagree hmem howned hcursor (.inl hwithin)]
              · simp
              · rw [listMessages_congr hagree hmem howned hcursor (.inr hshort)]

/-! ## What an unguarded request tells

The second database is the first with only the own rows, or with one more row of a stranger in front
of them. -/

/-- The own chats and what belongs to them. -/
def ownPart (db : ChatsDb) (principal : RequestPrincipal) : ChatsDb :=
  db.keepChats fun id => db.chats.rows.any fun chat => ownedBy principal chat.toChat && chat.id = id

lemma mem_ownPart {db : ChatsDb} {principal : RequestPrincipal} {id : Uuid} :
    (db.chats.rows.any fun chat => ownedBy principal chat.toChat && chat.id = id) = true
      ↔ db.OwnChat principal id := by
  rw [List.any_eq_true]
  simp only [Bool.and_eq_true, decide_eq_true_eq]
  exact Iff.rfl

lemma ownPart_agree (db : ChatsDb) (principal : RequestPrincipal) :
    AgreeFor principal db (db.ownPart principal) := by
  have hin : ∀ chat ∈ db.chats.rows, ownedBy principal chat.toChat = true →
      ∀ id, id = chat.id → db.OwnChat principal id := by
    rintro chat hchat howned id rfl
    exact ⟨chat, hchat, howned, rfl⟩
  refine ⟨rfl, fun chat howned => ?_, fun chat hchat howned message hid => ?_,
    fun chat hchat howned summary hid => ?_⟩
  · simp only [ownPart, keepChats, List.mem_filter, mem_ownPart]
    exact ⟨fun hchat => ⟨hchat, hin chat hchat howned _ rfl⟩, And.left⟩
  · simp only [ownPart, keepChats, List.mem_filter, mem_ownPart, hin chat hchat howned _ hid,
      and_true]
  · simp only [ownPart, keepChats, List.mem_filter, mem_ownPart, hin chat hchat howned _ hid,
      and_true]

/-- A chat of somebody else. -/
def strangerChat (principal : RequestPrincipal) (id selectedModelId : Uuid) (time : Timestamp) :
    ChatRow where
  id := id
  userId := match principal with
    | .Anonymous _ => some 0
    | .Authenticated _ _ => none
  anonymousSessionId := match principal with
    | .Anonymous _ => none
    | .Authenticated _ _ => some 0
  title := []
  selectedModelId := selectedModelId
  lastMessageAt := time
  createdAt := time
  updatedAt := time
  archivedAt := none

lemma strangerChat_not_owned (principal : RequestPrincipal) (id model : Uuid) (time : Timestamp) :
    ownedBy principal (strangerChat principal id model time).toChat = false := by
  cases principal <;> rfl

/-- A prompt in it. -/
def strangerPrompt (id chatId : Uuid) (time : Timestamp) : Message :=
  MessageDraft.message ⟨chatId, .User, .Completed, [], none, none, .Unknown⟩ id time

lemma strangerChat_owner (principal : RequestPrincipal) (id model : Uuid) (time : Timestamp) :
    (strangerChat principal id model time).userId.isSome
      ≠ (strangerChat principal id model time).anonymousSessionId.isSome := by
  cases principal <;> simp [strangerChat]

/-- The database with one more chat and one message in it. -/
def addStranger (db : ChatsDb) (principal : RequestPrincipal) (id prompt : Uuid) (model : Model)
    (time : Timestamp) (hmodel : model ∈ db.models) (hid : ∀ chat ∈ db.chats.rows, chat.id ≠ id)
    (hprompt : ∀ message ∈ db.messages, message.id ≠ prompt) : ChatsDb :=
  (db.insertChat (strangerChat principal id model.id time) hid ⟨model, hmodel, rfl⟩
    (strangerChat_owner principal id model.id time)).insertMessage (strangerPrompt prompt id time)
      hprompt ⟨_, List.mem_cons_self, rfl⟩

lemma addStranger_agree {id prompt : Uuid} {model : Model} {time : Timestamp}
    (hmodel : model ∈ db.models) (hid : ∀ chat ∈ db.chats.rows, chat.id ≠ id)
    (hprompt : ∀ message ∈ db.messages, message.id ≠ prompt) :
    AgreeFor principal db (db.addStranger principal id prompt model time hmodel hid hprompt) := by
  refine ⟨rfl, fun chat howned => ?_, fun chat hchat howned message heq => ?_,
    fun chat hchat howned summary heq => Iff.rfl⟩
  · simp only [addStranger, insertMessage, insertChat]
    rw [List.mem_cons, or_iff_right]
    rintro rfl
    exact Bool.noConfusion (howned.symm.trans (strangerChat_not_owned principal id model.id time))
  · simp only [addStranger, insertMessage, insertChat]
    rw [List.mem_cons, or_iff_right]
    rintro rfl
    exact hid chat hchat heq.symm

/-- Without the others, and with one chat of somebody else. -/
lemma exists_stranger {id prompt : Uuid} {model : Model} (hmodel : model ∈ db.models)
    (hid : ¬ db.OwnChat principal id) (hprompt : ¬ db.OwnMessage principal prompt)
    (time : Timestamp) :
    ∃ own other : ChatsDb, AgreeFor principal db own ∧ AgreeFor principal db other
      ∧ (∀ chat ∈ own.chats.rows, chat.id ≠ id) ∧ (∀ message ∈ own.messages, message.id ≠ prompt)
      ∧ strangerChat principal id model.id time ∈ other.chats.rows
      ∧ strangerPrompt prompt id time ∈ other.messages := by
  have hchats : ∀ chat ∈ (db.ownPart principal).chats.rows, chat.id ≠ id := by
    intro chat hchat heq
    exact hid (heq ▸ mem_ownPart.mp (List.mem_filter.mp hchat).2)
  have hmessages : ∀ message ∈ (db.ownPart principal).messages, message.id ≠ prompt := by
    intro message hmessage heq
    obtain ⟨hmessage, hin⟩ := List.mem_filter.mp hmessage
    obtain ⟨chat, hchat, howned, hid⟩ := mem_ownPart.mp hin
    exact hprompt ⟨chat, hchat, howned, message, hmessage, hid.symm, heq⟩
  have hmodel' : model ∈ (db.ownPart principal).models := hmodel
  have hown := ownPart_agree db principal
  exact ⟨_, (db.ownPart principal).addStranger principal id prompt model time hmodel' hchats
    hmessages, hown, hown.trans (addStranger_agree hmodel' hchats hmessages), hchats, hmessages,
    List.mem_cons_self, List.mem_cons_self⟩

/-- There are always a later time and a new id. -/
lemma exists_gt (numbers : List ℕ) : ∃ bound, ∀ n ∈ numbers, n < bound := by
  obtain ⟨bound, hbound⟩ := numbers.finite_toSet.bddAbove
  exact ⟨bound + 1, fun n hn => Nat.lt_succ_of_le (hbound hn)⟩

lemma list_length {includeArchived : Bool} {id : Option Uuid}
    (hcursor : parseCursor parseUuid cursor = .ok id) :
    (db.list parseUuid principal cursor limit includeArchived).map (·.chats.length)
      = .ok (min limit (rowsFrom ChatRow.place (·.id) (listed principal includeArchived) id
          db.chats.rows).length) := by
  obtain ⟨page, hpage, hplaces, -⟩ := list_page hcursor
  rw [hpage]
  have hlength := congrArg List.length hplaces
  simp only [List.length_map, List.length_take, listChats, findMany] at hlength
  simp only [Except.map]
  congr 1
  omega

/-- **An unguarded `list`** has another answer for the same own chats: none without the row of the
cursor, and some if it is in front of them. -/
theorem unguarded_list {includeArchived : Bool}
    (h : ¬ ListGuarded parseUuid db principal cursor limit includeArchived) :
    ∃ db', AgreeFor principal db db' ∧ db'.list parseUuid principal cursor limit includeArchived
      ≠ db.list parseUuid principal cursor limit includeArchived := by
  simp only [ListGuarded, CursorWithin, not_or, not_forall, not_le] at h
  obtain ⟨⟨id, hcursor, hforeign⟩, hlimit, hmore⟩ := h
  obtain ⟨time, htime⟩ := exists_gt (db.chats.rows.map (·.lastMessageAt))
  obtain ⟨prompt, hprompt⟩ := exists_gt (db.messages.map Message.id)
  obtain ⟨first, hfirst⟩ := List.exists_mem_of_length_pos (Nat.zero_lt_of_lt hmore)
  obtain ⟨model, hmodel, -⟩ := db.chats.hasModel first (List.mem_of_mem_filter hfirst)
  have hfresh : ¬ db.OwnMessage principal prompt := by
    rintro ⟨chat, -, -, message, hmessage, -, heq⟩
    exact (hprompt _ (List.mem_map_of_mem hmessage)).ne heq
  obtain ⟨own, other, hown, hother, hnone, -, hmem, -⟩ :=
    exists_stranger hmodel hforeign hfresh time
  by_contra hall
  push Not at hall
  have heq := congrArg (Except.map fun page : ChatPage => page.chats.length)
    ((hall own hown).trans (hall other hother).symm)
  have hrows : ∀ row : ChatRow, listed principal includeArchived row = true →
      (row ∈ other.chats.rows ↔ row ∈ db.chats.rows) := by
    intro row hrow
    simp only [listed, Bool.and_eq_true] at hrow
    exact (hother.chats row hrow.1).symm
  have hfront : ∀ row ∈ other.chats.rows, listed principal includeArchived row = true →
      row.place ≤ (strangerChat principal id model.id time).place := by
    intro row hrow hlisted
    have hlt := htime _ (List.mem_map_of_mem ((hrows row hlisted).mp hrow))
    exact (Prod.Lex.toLex_lt_toLex.mpr (.inl hlt)).le
  have hlength := rowsFrom_of_front other.chats.nodup hmem hfront
  rw [length_visible_congr other.nodup_chats db.nodup_chats hrows] at hlength
  rw [list_length hcursor, list_length hcursor, rowsFrom_of_not_mem hnone] at heq
  simp only [Except.ok.injEq, List.length_nil, Nat.min_zero] at heq
  change (rowsFrom _ _ _ (some id) _).length = _ at hlength
  omega

lemma get_length {chatId : String} {chat : Uuid} {id : Option Uuid}
    (hchat : parseId parseUuid chatId = .ok chat) (hown : db.OwnChat principal chat)
    (hcursor : parseCursor parseUuid cursor = .ok id) :
    (db.get parseUuid principal chatId cursor limit).map (·.messages.length)
      = .ok (min limit (rowsFrom Message.place Message.id (·.chatId = chat) id
          db.messages).length) := by
  obtain ⟨page, hpage, hmessages, -⟩ := get_page hchat hown hcursor
  rw [hpage]
  simp only [Except.map, hmessages, List.length_map, List.length_reverse, List.length_take,
    listMessages, findMany]
  congr 1
  omega

/-- **An unguarded `get`** has another answer for the same own chats. -/
theorem unguarded_get {chatId : String}
    (h : ¬ GetGuarded parseUuid db principal chatId cursor limit) :
    ∃ db', AgreeFor principal db db' ∧ db'.get parseUuid principal chatId cursor limit
      ≠ db.get parseUuid principal chatId cursor limit := by
  simp only [GetGuarded, CursorWithin, not_or, not_forall, not_le] at h
  obtain ⟨chat, hchat, hownChat, ⟨id, hcursor, hforeign⟩, hlimit, hmore⟩ := h
  obtain ⟨time, htime⟩ := exists_gt (db.messages.map (·.createdAt))
  obtain ⟨fresh, hfresh⟩ := exists_gt (db.chats.rows.map (·.id))
  obtain ⟨row, hrow, howned, rfl⟩ := hownChat
  obtain ⟨model, hmodel, -⟩ := db.chats.hasModel row hrow
  have hnew : ¬ db.OwnChat principal fresh := by
    rintro ⟨other, hother, -, heq⟩
    exact (hfresh _ (List.mem_map_of_mem hother)).ne heq
  obtain ⟨own, other, hown, hother, -, hnone, -, hmem⟩ :=
    exists_stranger hmodel hnew hforeign time
  by_contra hall
  push Not at hall
  have heq := congrArg (Except.map fun page : ChatDetail => page.messages.length)
    ((hall own hown).trans (hall other hother).symm)
  have hrows : ∀ message : Message, decide (message.chatId = row.id) = true →
      (message ∈ other.messages ↔ message ∈ db.messages) := by
    intro message hin
    exact (hother.messages row hrow howned message (of_decide_eq_true hin)).symm
  have hfront : ∀ message ∈ other.messages, decide (message.chatId = row.id) = true →
      message.place ≤ (strangerPrompt id fresh time).place := by
    intro message hmessage hin
    have hlt := htime _ (List.mem_map_of_mem ((hrows message hin).mp hmessage))
    exact (Prod.Lex.toLex_lt_toLex.mpr (.inl hlt)).le
  have hlength := rowsFrom_of_front other.messages_nodup hmem hfront
  rw [length_visible_congr other.nodup_messages db.nodup_messages hrows] at hlength
  have howned' : ∀ db', AgreeFor principal db db' → db'.OwnChat principal row.id :=
    fun db' hagree => ⟨row, (hagree.chats row howned).mp hrow, howned, rfl⟩
  rw [get_length hchat (howned' own hown) hcursor, get_length hchat (howned' other hother) hcursor,
    rowsFrom_of_not_mem hnone] at heq
  simp only [Except.ok.injEq, List.length_nil, Nat.min_zero] at heq
  change (rowsFrom _ _ _ (some id) _).length = _ at hlength
  omega

end ChatsDb

/-- **The chats of others stay hidden** from `list` and `get` exactly if the request is guarded:
then, and only then, every database which holds the same for the principal gives its answer.  Both
services have the same defect, so the two equivalences stand side by side. -/
theorem list_get_hide_others_iff (parseUuid : String → Option Uuid) (principal : RequestPrincipal)
    (db : ChatsDb) (chatId : String) (cursor : Option String) (limit : ℕ)
    (includeArchived : Bool) :
    ((∀ db', AgreeFor principal db db' →
        db'.list parseUuid principal cursor limit includeArchived
          = db.list parseUuid principal cursor limit includeArchived)
      ↔ ChatsDb.ListGuarded parseUuid db principal cursor limit includeArchived)
    ∧ ((∀ db', AgreeFor principal db db' →
        db'.get parseUuid principal chatId cursor limit
          = db.get parseUuid principal chatId cursor limit)
      ↔ ChatsDb.GetGuarded parseUuid db principal chatId cursor limit) := by
  refine ⟨⟨fun hall => ?_, fun h db' hagree => ChatsDb.list_congr hagree h⟩,
    ⟨fun hall => ?_, fun h db' hagree => ChatsDb.get_congr hagree h⟩⟩
  · by_contra h
    obtain ⟨db', hagree, hne⟩ := ChatsDb.unguarded_list h
    exact hne (hall db' hagree)
  · by_contra h
    obtain ⟨db', hagree, hne⟩ := ChatsDb.unguarded_get h
    exact hne (hall db' hagree)

/-- Two chats of user 1, the first with a prompt and a reply. -/
def twoChats : ChatsDb where
  models := [⟨7, "m", 4096, true⟩]
  chats :=
    { rows := [⟨⟨1, some 1, none, [], 7, 10⟩, 10, 10, none⟩,
        ⟨⟨2, some 1, none, [], 7, 20⟩, 20, 20, none⟩]
      nodup := by decide
      hasModel := by decide
      oneOwner := by decide }
  messages := [
    MessageDraft.message ⟨1, .User, .Completed, [], none, none, .Unknown⟩ 3 10,
    MessageDraft.message ⟨1, .Assistant, .Completed, [], some "m", none, .Unknown⟩ 4 10]
  summaries := []
  messages_nodup := by decide
  summaries_nodup := List.nodup_nil
  messageChat := by decide
  summaryChat := by decide

/-- The same with chat 5 of somebody else, and message 6 in it. -/
def andAStranger : ChatsDb :=
  twoChats.addStranger (.Authenticated 1 0) 5 6 ⟨7, "m", 4096, true⟩ 30 (by decide) (by decide)
    (by decide)

/-- The UUIDs 1, 5 and 6. -/
def parseFew (text : String) : Option Uuid :=
  [("00000000-0000-0000-0000-000000000001", 1), ("00000000-0000-0000-0000-000000000005", 5),
    ("00000000-0000-0000-0000-000000000006", 6)].lookup text

/-- User 1 learns of the chat and of the message: as a cursor the one leaves a chat behind it, the
other a message. -/
theorem list_get_tell_of_others :
    ¬ ∀ (parseUuid : String → Option Uuid) (principal : RequestPrincipal) (db db' : ChatsDb),
      AgreeFor principal db db' →
        ∀ (chatId : String) (cursor : Option String) (limit : ℕ) (includeArchived : Bool),
          db.list parseUuid principal cursor limit includeArchived
              = db'.list parseUuid principal cursor limit includeArchived
            ∧ db.get parseUuid principal chatId cursor limit
              = db'.get parseUuid principal chatId cursor limit := by
  intro hall
  have hagree : AgreeFor (.Authenticated 1 0) twoChats andAStranger :=
    ChatsDb.addStranger_agree (by decide) (by decide) (by decide)
  have hlist := (hall parseFew _ _ _ hagree "00000000-0000-0000-0000-000000000001"
    (some "00000000-0000-0000-0000-000000000005") 30 false).1
  exact absurd hlist (by decide +kernel)

end RagStack
