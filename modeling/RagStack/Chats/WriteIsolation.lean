import RagStack.Chats.ChatRequests
import RagStack.Chats.Isolation
import RagStack.Core.Except

/-!
# Nobody writes to the chats of others

A request checks the owner of its chat once and then writes to the chat by its id, so the chat may
have been deleted or given to another principal in between.  It is never that of somebody else all
the same: rows keep their keys, a chat changes its owner only when an anonymous session becomes a
user, and a reply row stays in its chat.

Each write gets one lemma, which says under which condition it spares the chats of a principal.  For
most of them the condition is that the id of the chat is not that of one of them.  This is what the
check has established, and it stays true: an id whose row is somebody else's, or is gone, can never
become that of a chat of the principal, except by a transfer to it.

A generation is the longest such request.  It writes to its reply by the id of the row, long after
the check, and a reply row stays in the chat in which it was created.  So the invariant of a request
has two parts, one about its chat and one about its reply.

* `NotOf` — no chat with this id is that of the principal.
* `Spares` — what a write leaves as it is for the principal; one lemma for each write.
* `BoundToOthers` — the invariant of a request of somebody else: neither its chat nor its reply is
  that of the principal.
* `others_write_nothing` — in any interleaving of requests of others and of transfers between
  others, the chats of a principal stay as they are.
-/

namespace RagStack

/-! ## What a write leaves as it is

`Spares` is a relation between two databases, for a principal that writes nothing itself.  It is
reflexive and transitive, so that the writes of a run can be put together. -/

section Spares

variable (Q : RequestPrincipal)

/-- No chat with this id is that of `Q`. -/
def NotOf (db : ChatsDb) (chatId : Uuid) : Prop :=
  ∀ chat ∈ db.chats.rows, chat.id = chatId → ownedBy Q chat.toChat = false

/-- The chats of `Q` are the same, no chat becomes one, and no message gets into one. -/
structure Spares (db db' : ChatsDb) : Prop where
  agree : AgreeFor Q db db'
  chats : ∀ chatId, NotOf Q db chatId → NotOf Q db' chatId
  messages : ∀ message' ∈ db'.messages,
    (∃ message ∈ db.messages, message.id = message'.id ∧ message.chatId = message'.chatId)
      ∨ NotOf Q db' message'.chatId

/-- The message, if there is one, is in no chat of `Q`. -/
def ReplyNotOf (db : ChatsDb) (messageId : Uuid) : Prop :=
  ∀ message ∈ db.messages, message.id = messageId → NotOf Q db message.chatId

variable {Q} {db db' db'' : ChatsDb} {chatId : Uuid}

lemma AgreeFor.refl (db : ChatsDb) : AgreeFor Q db db :=
  ⟨rfl, fun _ _ => Iff.rfl, fun _ _ _ _ _ => Iff.rfl, fun _ _ _ _ _ => Iff.rfl⟩

lemma Spares.refl (db : ChatsDb) : Spares Q db db :=
  ⟨.refl db, fun _ h => h, fun message hmessage => .inl ⟨message, hmessage, rfl, rfl⟩⟩

lemma Spares.trans (h : Spares Q db db') (h' : Spares Q db' db'') : Spares Q db db'' := by
  refine ⟨h.agree.trans h'.agree, fun id hid => h'.chats id (h.chats id hid),
    fun message hmessage => ?_⟩
  rcases h'.messages message hmessage with ⟨between, hbetween, hid, hchat⟩ | hnot
  · rcases h.messages between hbetween with ⟨old, hold, hid', hchat'⟩ | hnot
    · exact .inl ⟨old, hold, hid'.trans hid, hchat'.trans hchat⟩
    · exact .inr (hchat ▸ h'.chats _ hnot)
  · exact .inr hnot

lemma ReplyNotOf.spares {messageId : Uuid} (h : ReplyNotOf Q db messageId)
    (hspares : Spares Q db db') : ReplyNotOf Q db' messageId := by
  intro message hmessage hid
  rcases hspares.messages message hmessage with ⟨old, hold, hid', hchat⟩ | hnot
  · exact hchat ▸ hspares.chats _ (h old hold (hid'.trans hid))
  · exact hnot

/-- The chats of `Q` and what belongs to them. -/
lemma NotOf.ne_of_owned (h : NotOf Q db chatId) {chat : ChatRow} (hchat : chat ∈ db.chats.rows)
    (howned : ownedBy Q chat.toChat = true) : chat.id ≠ chatId := by
  intro hid
  rw [h chat hchat hid] at howned
  cases howned

/-- A database with the same chats and other messages or summaries. -/
lemma NotOf.of_rows (hrows : db'.chats.rows = db.chats.rows) (h : NotOf Q db chatId) :
    NotOf Q db' chatId := by
  intro chat hchat
  exact h chat (hrows ▸ hchat)

/-! ## Messages and summaries -/

lemma spares_createMessage {draft : MessageDraft} {id : Uuid} {createdAt : Timestamp}
    (h : NotOf Q db draft.chatId) (hcreated : db.createMessage draft id createdAt = .ok db') :
    Spares Q db db' := by
  simp only [ChatsDb.createMessage] at hcreated
  split at hcreated
  · split at hcreated
    · cases hcreated
      refine ⟨⟨rfl, fun _ _ => Iff.rfl, fun chat hchat howned message hin => ?_,
        fun _ _ _ _ _ => Iff.rfl⟩, fun _ hid => hid, fun message hmessage => ?_⟩
      · show _ ↔ message ∈ draft.message id createdAt :: db.messages
        rw [List.mem_cons]
        refine ⟨.inr, fun hmem => hmem.resolve_left ?_⟩
        rintro rfl
        exact h.ne_of_owned hchat howned hin.symm
      · rcases List.mem_cons.mp hmessage with rfl | hmessage
        · exact .inr h
        · exact .inl ⟨message, hmessage, rfl, rfl⟩
    · cases hcreated
  · cases hcreated

lemma spares_updateMessage {id : Uuid} {change : Message → Message} (h : ReplyNotOf Q db id) :
    Spares Q db (db.updateMessage id change) := by
  let f : Message → Message := fun message =>
    if message.id = id then { change message with id := message.id, chatId := message.chatId }
    else message
  have hid : ∀ message, (f message).id = message.id := by
    intro message
    simp only [f]
    split <;> rfl
  have hchat : ∀ message, (f message).chatId = message.chatId := by
    intro message
    simp only [f]
    split <;> rfl
  have hother : ∀ chat ∈ db.chats.rows, ownedBy Q chat.toChat = true → ∀ message ∈ db.messages,
      message.chatId = chat.id → f message = message := by
    intro chat hmem howned message hmessage hin
    refine if_neg fun heq => ?_
    exact (h message hmessage heq).ne_of_owned hmem howned hin.symm
  refine ⟨⟨rfl, fun _ _ => Iff.rfl, fun chat hmem howned message hin => ?_, fun _ _ _ _ _ => Iff.rfl⟩,
    fun _ hnot => hnot, fun message hmessage => ?_⟩
  · show _ ↔ message ∈ db.messages.map f
    constructor
    · intro hmessage
      exact List.mem_map.mpr ⟨message, hmessage, hother chat hmem howned message hmessage hin⟩
    · intro hmessage
      obtain ⟨old, hold, rfl⟩ := List.mem_map.mp hmessage
      rw [hchat] at hin
      rwa [hother chat hmem howned old hold hin]
  · obtain ⟨old, hold, rfl⟩ := List.mem_map.mp hmessage
    exact .inl ⟨old, hold, (hid old).symm, (hchat old).symm⟩

lemma spares_upsertSummary {summary : ConversationSummary} (h : NotOf Q db summary.chatId)
    (hok : db.upsertSummary summary = .ok db') : Spares Q db db' := by
  simp only [ChatsDb.upsertSummary] at hok
  split at hok
  · cases hok
    refine ⟨⟨rfl, fun _ _ => Iff.rfl, fun _ _ _ _ _ => Iff.rfl, fun chat hchat howned other hin => ?_⟩,
      fun _ hid => hid, fun message hmessage => .inl ⟨message, hmessage, rfl, rfl⟩⟩
    have hne : other.chatId ≠ summary.chatId := by
      rw [hin]
      exact h.ne_of_owned hchat howned
    show _ ↔ other ∈ summary :: db.summaries.filter (·.chatId ≠ summary.chatId)
    rw [List.mem_cons, List.mem_filter]
    constructor
    · exact fun hother => .inr ⟨hother, decide_eq_true hne⟩
    · rintro (rfl | hother)
      · exact absurd rfl hne
      · exact hother.1
  · cases hok

/-! ## Chats -/

lemma spares_changeChat {data : ChatUpdate} (h : NotOf Q db chatId)
    (hok : db.changeChat chatId data = .ok db') : Spares Q db db' ∧ db'.messages = db.messages := by
  simp only [ChatsDb.changeChat] at hok
  split at hok
  · split at hok
    · rename_i hmodel
      cases hok
      have howner : ∀ chat : ChatRow, ownedBy Q
          (if chat.id = chatId then data.apply chat else chat).toChat = ownedBy Q chat.toChat := by
        intro chat
        split <;> rfl
      have hid : ∀ chat : ChatRow,
          (if chat.id = chatId then data.apply chat else chat).id = chat.id := by
        intro chat
        split <;> rfl
      refine ⟨⟨⟨rfl, fun chat howned => ?_, fun _ _ _ _ _ => Iff.rfl, fun _ _ _ _ _ => Iff.rfl⟩,
        fun id hnot => ?_, fun message hmessage => .inl ⟨message, hmessage, rfl, rfl⟩⟩, rfl⟩
      · show _ ↔ chat ∈ db.chats.rows.map _
        constructor
        · intro hchat
          exact List.mem_map.mpr ⟨chat, hchat, if_neg (h.ne_of_owned hchat howned)⟩
        · intro hchat
          obtain ⟨old, hold, rfl⟩ := List.mem_map.mp hchat
          rw [howner] at howned
          rwa [if_neg (h.ne_of_owned hold howned)]
      · intro chat hchat heq
        obtain ⟨old, hold, rfl⟩ := List.mem_map.mp hchat
        rw [howner]
        exact hnot old hold ((hid old).symm.trans heq)
    · cases hok
  · cases hok

/-- What is deleted with chats that are not those of `Q`. -/
lemma spares_keepChats {keep : Uuid → Bool}
    (h : ∀ chat ∈ db.chats.rows, ownedBy Q chat.toChat = true → keep chat.id = true) :
    Spares Q db (db.keepChats keep) := by
  refine ⟨⟨rfl, fun chat howned => ?_, fun chat hchat howned message hin => ?_,
    fun chat hchat howned summary hin => ?_⟩, fun id hnot chat hchat => ?_, fun message hmessage => ?_⟩
  · show _ ↔ chat ∈ db.chats.rows.filter _
    rw [List.mem_filter]
    exact ⟨fun hchat => ⟨hchat, h chat hchat howned⟩, And.left⟩
  · show _ ↔ message ∈ db.messages.filter _
    rw [List.mem_filter, hin]
    exact ⟨fun hmessage => ⟨hmessage, h chat hchat howned⟩, And.left⟩
  · show _ ↔ summary ∈ db.summaries.filter _
    rw [List.mem_filter, hin]
    exact ⟨fun hsummary => ⟨hsummary, h chat hchat howned⟩, And.left⟩
  · exact hnot chat (List.mem_of_mem_filter hchat)
  · exact .inl ⟨message, List.mem_of_mem_filter hmessage, rfl, rfl⟩

lemma spares_deleteChat (h : NotOf Q db chatId) (hok : db.deleteChat chatId = .ok db') :
    Spares Q db db' := by
  simp only [ChatsDb.deleteChat] at hok
  split at hok
  · cases hok
    exact spares_keepChats fun chat hchat howned => decide_eq_true (h.ne_of_owned hchat howned)
  · cases hok

lemma spares_insertChat {chat : ChatRow} {hid : ∀ other ∈ db.chats.rows, other.id ≠ chat.id}
    {hmodel : ∃ model ∈ db.models, model.id = chat.selectedModelId}
    {howner : chat.userId.isSome ≠ chat.anonymousSessionId.isSome}
    (h : ownedBy Q chat.toChat = false) : Spares Q db (db.insertChat chat hid hmodel howner) := by
  -- no message and no summary belongs to a chat that does not exist yet
  have hold : ∀ row ∈ (db.insertChat chat hid hmodel howner).chats.rows,
      ownedBy Q row.toChat = true → row ∈ db.chats.rows := by
    intro row hrow howned
    refine (List.mem_cons.mp hrow).resolve_left ?_
    rintro rfl
    rw [h] at howned
    cases howned
  refine ⟨⟨rfl, fun row howned => ⟨List.mem_cons_of_mem _, fun hrow => hold row hrow howned⟩,
    fun _ _ _ _ _ => Iff.rfl, fun _ _ _ _ _ => Iff.rfl⟩, fun id hnot row hrow heq => ?_,
    fun message hmessage => .inl ⟨message, hmessage, rfl, rfl⟩⟩
  rcases List.mem_cons.mp hrow with rfl | hrow
  · exact h
  · exact hnot row hrow heq

section Transfer

variable {anonymousSessionId userId : Uuid} {chat : ChatRow}

/-- A chat of an anonymous session has no user. -/
lemma userId_of_session (hone : chat.userId.isSome ≠ chat.anonymousSessionId.isSome)
    (hsession : chat.anonymousSessionId = some anonymousSessionId) : chat.userId = none := by
  simpa [hsession] using hone

/-- A transfer between others makes nothing a chat of `Q` and takes none of them. -/
lemma givenTo_owner (hone : chat.userId.isSome ≠ chat.anonymousSessionId.isSome)
    (hfrom : getPrincipalLockId Q ≠ .Anonymous anonymousSessionId)
    (hto : getPrincipalLockId Q ≠ .User userId) :
    ownedBy Q (ChatsDb.givenTo anonymousSessionId userId chat).toChat = ownedBy Q chat.toChat := by
  unfold ChatsDb.givenTo
  split
  · rename_i hsession
    have huser := userId_of_session hone hsession
    cases Q with
    | Anonymous id =>
        have hne : anonymousSessionId ≠ id := fun heq => hfrom (by rw [heq]; rfl)
        simp [ownedBy, hsession, hne]
    | Authenticated id _ =>
        have hne : userId ≠ id := fun heq => hto (by rw [heq]; rfl)
        simp [ownedBy, huser, hne]
  · rfl

lemma givenTo_of_owned (hone : chat.userId.isSome ≠ chat.anonymousSessionId.isSome)
    (hfrom : getPrincipalLockId Q ≠ .Anonymous anonymousSessionId)
    (howned : ownedBy Q chat.toChat = true) :
    ChatsDb.givenTo anonymousSessionId userId chat = chat := by
  refine if_neg fun hsession => ?_
  have huser := userId_of_session hone hsession
  cases Q with
  | Anonymous id =>
      simp only [ownedBy, hsession, Option.some.injEq, decide_eq_true_eq] at howned
      exact hfrom (by rw [howned]; rfl)
  | Authenticated id _ => simp [ownedBy, huser] at howned

lemma spares_changeOwner (hfrom : getPrincipalLockId Q ≠ .Anonymous anonymousSessionId)
    (hto : getPrincipalLockId Q ≠ .User userId) :
    Spares Q db (db.changeOwner anonymousSessionId userId) := by
  refine ⟨⟨rfl, fun chat howned => ?_, fun _ _ _ _ _ => Iff.rfl, fun _ _ _ _ _ => Iff.rfl⟩,
    fun id hnot => ?_, fun message hmessage => .inl ⟨message, hmessage, rfl, rfl⟩⟩
  · show _ ↔ chat ∈ db.chats.rows.map _
    constructor
    · intro hchat
      exact List.mem_map.mpr ⟨chat, hchat,
        givenTo_of_owned (db.chats.oneOwner chat hchat) hfrom howned⟩
    · intro hchat
      obtain ⟨old, hold, rfl⟩ := List.mem_map.mp hchat
      have hone := db.chats.oneOwner old hold
      rw [givenTo_owner hone hfrom hto] at howned
      rwa [givenTo_of_owned hone hfrom howned]
  · intro chat hchat heq
    obtain ⟨old, hold, rfl⟩ := List.mem_map.mp hchat
    rw [givenTo_owner (db.chats.oneOwner old hold) hfrom hto]
    rw [ChatsDb.givenTo_id] at heq
    exact hnot old hold heq

/-- The chats of a session that is not `Q` are deleted with it. -/
lemma spares_deleteSession (hfrom : getPrincipalLockId Q ≠ .Anonymous anonymousSessionId) :
    Spares Q db (db.deleteSession anonymousSessionId) := by
  refine spares_keepChats fun chat hchat howned => ?_
  rw [Bool.not_eq_true', List.any_eq_false]
  intro other hother hboth
  simp only [Bool.and_eq_true, decide_eq_true_eq] at hboth
  have hsame : other = chat := List.inj_on_of_nodup_map db.chats.nodup hother hchat hboth.1
  subst hsame
  have hkept : ChatsDb.givenTo anonymousSessionId 0 other = other :=
    givenTo_of_owned (db.chats.oneOwner other hother) hfrom howned
  have hmoved : (ChatsDb.givenTo anonymousSessionId 0 other).anonymousSessionId = none := by
    rw [ChatsDb.givenTo, if_pos hboth.2]
  rw [hkept, hboth.2] at hmoved
  cases hmoved

end Transfer

/-! ## Transactions -/

lemma spares_createChat {promptId : Uuid} {principal : RequestPrincipal} {title : JsString}
    {selectedModelId : Uuid} {firstPrompt : Option JsString} {now : Timestamp}
    (h : getPrincipalLockId principal ≠ getPrincipalLockId Q)
    (hok : db.createChat chatId promptId principal title selectedModelId firstPrompt now = .ok db') :
    Spares Q db db' := by
  simp only [ChatsDb.createChat] at hok
  split at hok
  · split at hok
    · rename_i hmodel hid
      have hother : ownedBy Q ⟨chatId, (ownerColumns principal).1, (ownerColumns principal).2, title,
          selectedModelId, now⟩ = false := by
        cases principal <;> cases Q <;> simp_all [ownedBy, ownerColumns, getPrincipalLockId]
      split at hok
      · cases hok
        exact spares_insertChat hother
      · refine (spares_insertChat hother).trans (spares_createMessage ?_ hok)
        intro chat hchat heq
        rcases List.mem_cons.mp hchat with rfl | hchat
        · exact hother
        · exact absurd heq (hid chat hchat)
    · cases hok
  · cases hok

lemma spares_beginGeneration {content : JsString} {model : String} {promptId replyId : Uuid}
    {promptAt replyAt : Timestamp} (h : NotOf Q db chatId)
    (hok : db.beginGeneration chatId content model promptId replyId promptAt replyAt = .ok db') :
    Spares Q db db' ∧ ReplyNotOf Q db' replyId := by
  obtain ⟨withPrompt, hprompt, hok⟩ := bind_eq_ok.mp hok
  obtain ⟨withReply, hreply, htouch⟩ := bind_eq_ok.mp hok
  have hrows := ChatsDb.createMessage_spec hprompt
  have hrows' := ChatsDb.createMessage_spec hreply
  have h₁ : NotOf Q withPrompt chatId := h.of_rows hrows.1
  have h₂ : NotOf Q withReply chatId := h₁.of_rows hrows'.1
  obtain ⟨htouched, hmessages⟩ := spares_changeChat h₂ htouch
  have hspares : Spares Q db db' :=
    ((spares_createMessage h hprompt).trans (spares_createMessage h₁ hreply)).trans htouched
  refine ⟨hspares, fun message hmessage hid => ?_⟩
  -- the reply row is the only one with its id
  have hrow : (Stores.replyDraft chatId model).message replyId replyAt ∈ db'.messages := by
    rw [hmessages, hrows'.2]
    exact List.mem_cons_self
  have hsame := List.inj_on_of_nodup_map db'.messages_nodup hmessage hrow hid
  rw [hsame]
  exact hspares.chats _ h

lemma spares_completeGeneration {id : Uuid} {content : JsString}
    {promptTokens completionTokens : Option ℤ} {finishReason : Option String} {now : Timestamp}
    (h : ReplyNotOf Q db id)
    (hok : db.completeGeneration id content promptTokens completionTokens finishReason now
      = .ok db') : Spares Q db db' := by
  simp only [ChatsDb.completeGeneration] at hok
  split at hok
  · cases hok
  · rename_i message hfind
    have hid : message.id = id := by simpa using List.find?_some hfind
    have hnot : NotOf Q db message.chatId := h message (List.mem_of_find?_eq_some hfind) hid
    have hupdate : Spares Q db (db.updateMessage id
        (Stores.completed content promptTokens completionTokens finishReason now)) :=
      spares_updateMessage h
    exact hupdate.trans (spares_changeChat (hupdate.chats _ hnot) hok).1

lemma spares_endGeneration {id : Uuid} {content : JsString} {errorCode : Option String}
    {now : Timestamp} (h : ReplyNotOf Q db id)
    (hok : db.endGeneration id content errorCode now = .ok db') : Spares Q db db' := by
  simp only [ChatsDb.endGeneration] at hok
  split at hok
  · cases hok
    exact spares_updateMessage h
  · cases hok

/-! ## Requests of others

The invariant has to survive that a chat changes hands.  It may go from a session to a user, but
only between others, since the principal in question does not sign in. -/

/-- **A request of somebody else** names no chat of `Q` once its owner was checked, and its reply is
in none. -/
structure BoundToOthers (Q : RequestPrincipal) (db : ChatsDb) (pending : PendingRequest) : Prop where
  principal : getPrincipalLockId pending.principal ≠ getPrincipalLockId Q
  chat : pending.phase ≠ .Begun → (∀ answer, pending.phase ≠ .Over answer) →
    ∀ chatId ∈ pending.request.chatId?, NotOf Q db chatId
  reply : ∀ id, pending.phase = .Generating id → ReplyNotOf Q db id

lemma BoundToOthers.spares {pending : PendingRequest} (h : BoundToOthers Q db pending)
    (hspares : Spares Q db db') : BoundToOthers Q db' pending :=
  ⟨h.principal, fun hbegun hover chatId hid => hspares.chats chatId (h.chat hbegun hover chatId hid),
    fun id hphase => (h.reply id hphase).spares hspares⟩

/-- A request that is over is bound to nothing. -/
lemma BoundToOthers.over {pending : PendingRequest} {answer : Except JsError (Option ChatSummary)}
    (h : BoundToOthers Q db pending) : BoundToOthers Q db' { pending with phase := .Over answer } :=
  ⟨h.principal, fun _ hover => absurd rfl (hover answer), fun id hphase => by cases hphase⟩

/-- A chat of one principal is not that of another. -/
lemma notOf_of_ownedChat {principal : RequestPrincipal} {found : ChatWithModel}
    (h : getPrincipalLockId principal ≠ getPrincipalLockId Q)
    (hfound : db.ownedChat principal chatId = some found) : NotOf Q db chatId := by
  obtain ⟨hmem, hid, howned⟩ := ChatsDb.ownedChat_spec hfound
  intro chat hchat hid'
  have hsame : chat = found.chat :=
    List.inj_on_of_nodup_map db.chats.nodup hchat hmem (hid'.trans hid.symm)
  subst hsame
  have hone := db.chats.oneOwner _ hmem
  cases principal <;> cases Q <;> simp_all [ownedBy, getPrincipalLockId]

/-- What a call of a request leaves: nothing of `Q` has changed, and it is still bound to others. -/
def CallSpares (Q : RequestPrincipal) (db : ChatsDb) (pending : PendingRequest)
    (result : ChatsDb × ChatRequestPhase) : Prop :=
  Spares Q db result.1 ∧ BoundToOthers Q result.1 { pending with phase := result.2 }

variable {pending : PendingRequest}

/-- A transaction that fails ends the request and changes nothing. -/
lemma callSpares_committed {result : Except JsError ChatsDb} {phase : ChatsDb → ChatRequestPhase}
    (h : BoundToOthers Q db pending)
    (hok : ∀ db', result = .ok db' → CallSpares Q db pending (db', phase db')) :
    CallSpares Q db pending (committed db result phase) := by
  cases result with
  | ok db' => exact hok db' rfl
  | error e => exact ⟨.refl db, h.over⟩

/-- A transaction that is the last call of a request. -/
lemma callSpares_over {result : Except JsError ChatsDb}
    {answer : ChatsDb → Except JsError (Option ChatSummary)} (h : BoundToOthers Q db pending)
    (hok : ∀ db', result = .ok db' → Spares Q db db') :
    CallSpares Q db pending (committed db result fun db' => .Over (answer db')) :=
  callSpares_committed h fun db' hdb' => ⟨hok db' hdb', h.over⟩

/-- A query that leads to the next phase, or to an error. -/
lemma callSpares_resolve (h : BoundToOthers Q db pending) (result : Except JsError Model)
    (hchat : ∀ chatId ∈ pending.request.chatId?, NotOf Q db chatId) :
    CallSpares Q db pending (db, overOr (result.map fun model => .Resolved (some model))) := by
  cases result with
  | ok model => exact ⟨.refl db, h.principal, fun _ _ => hchat, fun id hphase => by cases hphase⟩
  | error e => exact ⟨.refl db, h.over⟩

lemma callSpares_checkOwner (h : BoundToOthers Q db pending)
    (hrequest : pending.request.chatId? = some chatId) :
    CallSpares Q db pending (db, checkOwner db pending.principal chatId) := by
  unfold checkOwner
  split
  · rename_i found hfound
    refine ⟨.refl db, h.principal, fun _ _ id hid => ?_, fun id hphase => by cases hphase⟩
    rw [show pending.request.chatId? = some chatId from hrequest] at hid
    cases hid
    exact notOf_of_ownedChat h.principal hfound
  · exact ⟨.refl db, h.over⟩

lemma callSpares_first {maxMessageChars : ℕ} (h : BoundToOthers Q db pending) :
    CallSpares Q db pending
      (db, firstCall maxMessageChars db pending.principal pending.request) := by
  rcases hrequest : pending.request with ⟨title, selectedModel, firstPrompt⟩ |
    ⟨chatId, title, selectedModel, archived⟩ | chatId | ⟨chatId, content, model⟩
  · simp only [firstCall]
    split
    · exact ⟨.refl db, h.over⟩
    · exact callSpares_resolve h _ (by simp [hrequest, ChatRequest.chatId?])
  · simp only [firstCall]
    split
    · exact ⟨.refl db, h.over⟩
    · exact callSpares_checkOwner h (by rw [hrequest]; rfl)
  · exact callSpares_checkOwner h (by rw [hrequest]; rfl)
  · simp only [firstCall]
    split
    · exact ⟨.refl db, h.over⟩
    · exact callSpares_checkOwner h (by rw [hrequest]; rfl)

lemma callSpares_owned {chat : ChatWithModel} {result : ChatsDb × ChatRequestPhase}
    (h : BoundToOthers Q db pending) (hphase : pending.phase = .Owned chat)
    (hcall : ownedCall db chat pending.request = some result) : CallSpares Q db pending result := by
  have hchat := h.chat (by rw [hphase]; simp) (by rw [hphase]; simp)
  rcases hrequest : pending.request with ⟨title, selectedModel, firstPrompt⟩ |
    ⟨chatId, title, selectedModel, archived⟩ | chatId | ⟨chatId, content, model⟩
  · rw [hrequest] at hcall
    cases hcall
  · rw [hrequest] at hcall
    simp only [ownedCall] at hcall
    split at hcall
    · cases hcall
      exact ⟨.refl db, h.principal, fun _ _ => hchat, fun id hphase => by cases hphase⟩
    · cases hcall
      exact callSpares_resolve h _ hchat
  · rw [hrequest] at hcall hchat
    cases hcall
    exact callSpares_over h fun db' => spares_deleteChat (hchat chatId rfl)
  · rw [hrequest] at hcall
    cases hcall
    exact callSpares_resolve h _ hchat

lemma callSpares_resolved {model : Option Model} {values : GeneratedValues}
    {result : ChatsDb × ChatRequestPhase} (h : BoundToOthers Q db pending)
    (hphase : pending.phase = .Resolved model)
    (hcall : resolvedCall db pending.principal values pending.request model = some result) :
    CallSpares Q db pending result := by
  have hchat := h.chat (by rw [hphase]; simp) (by rw [hphase]; simp)
  rcases hrequest : pending.request with ⟨title, selectedModel, firstPrompt⟩ |
    ⟨chatId, title, selectedModel, archived⟩ | chatId | ⟨chatId, content, _⟩
  · rw [hrequest] at hcall
    cases model with
    | none => cases hcall
    | some model =>
        cases hcall
        exact callSpares_over h fun db' => spares_createChat h.principal
  · rw [hrequest] at hcall hchat
    cases hcall
    exact callSpares_over h fun db' hok => (spares_changeChat (hchat chatId rfl) hok).1
  · rw [hrequest] at hcall
    cases model <;> cases hcall
  · rw [hrequest] at hcall
    cases model with
    | none => cases hcall
    | some model =>
        cases hcall
        refine callSpares_committed h fun db' hok => ?_
        obtain ⟨hspares, hreply⟩ := spares_beginGeneration (hchat chatId (by rw [hrequest]; rfl)) hok
        refine ⟨hspares, h.principal, fun _ _ id hid => hspares.chats id (hchat id hid), ?_⟩
        rintro id hid
        cases hid
        exact hreply

lemma callSpares_nextCall {maxMessageChars : ℕ} {values : GeneratedValues}
    {result : ChatsDb × ChatRequestPhase} (h : BoundToOthers Q db pending)
    (hcall : nextCall maxMessageChars db values pending = some result) :
    CallSpares Q db pending result := by
  cases hphase : pending.phase with
  | Begun =>
      simp only [nextCall, hphase] at hcall
      cases hcall
      exact callSpares_first h
  | Owned chat =>
      simp only [nextCall, hphase] at hcall
      exact callSpares_owned h hphase hcall
  | Resolved model =>
      simp only [nextCall, hphase] at hcall
      exact callSpares_resolved h hphase hcall
  | Generating id =>
      simp only [nextCall, hphase] at hcall
      cases hcall
  | Over answer =>
      simp only [nextCall, hphase] at hcall
      cases hcall

lemma callSpares_nextWrite {write : GenerationWrite} {result : ChatsDb × ChatRequestPhase}
    (h : BoundToOthers Q db pending) (hcall : nextWrite db write pending = some result) :
    CallSpares Q db pending result := by
  unfold nextWrite at hcall
  split at hcall
  · rename_i id chatId hphase hid
    cases hcall
    have hchat := h.chat (by rw [hphase]; simp) (by rw [hphase]; simp)
    refine callSpares_committed h fun db' hok => ?_
    have hspares : Spares Q db db' := by
      cases write with
      | Summarize content through tokenCount =>
          exact spares_upsertSummary (hchat chatId hid) hok
      | Complete content promptTokens completionTokens finishReason now =>
          exact spares_completeGeneration (h.reply id hphase) hok
      | End content errorCode now => exact spares_endGeneration (h.reply id hphase) hok
    have hbound := h.spares hspares
    rw [← hphase]
    exact ⟨hspares, hbound⟩
  · cases hcall

end Spares

/-! ## Every run -/

/-- The action is that of somebody else, or a transfer between others. -/
def ChatsAction.IsNotOf (Q : RequestPrincipal) : ChatsAction → Prop
  | Request principal _ => getPrincipalLockId principal ≠ getPrincipalLockId Q
  | Next .. | Write .. | Stop .. => True
  | Transfer anonymousSessionId userId =>
      getPrincipalLockId Q ≠ .Anonymous anonymousSessionId ∧ getPrincipalLockId Q ≠ .User userId
  | DeleteSession anonymousSessionId => getPrincipalLockId Q ≠ .Anonymous anonymousSessionId

/-- Nothing of `Q` has changed since `start`, and every request is bound to others. -/
structure OthersOnly (Q : RequestPrincipal) (start : ChatsDb) (s : ChatsSystem) : Prop where
  spares : Spares Q start s.db
  bound : ∀ pending ∈ s.requests, BoundToOthers Q s.db pending

section Run

variable {Q : RequestPrincipal} {start : ChatsDb} {s s' : ChatsSystem}

/-- A call of one request keeps what the others are bound to. -/
lemma OthersOnly.put {i : ℕ} {pending : PendingRequest} {result : ChatsDb × ChatRequestPhase}
    (h : OthersOnly Q start s) (hcall : CallSpares Q s.db pending result) :
    OthersOnly Q start (s.put i pending result) := by
  refine ⟨h.spares.trans hcall.1, fun other hother => ?_⟩
  rcases List.mem_or_eq_of_mem_set hother with hother | rfl
  · exact (h.bound other hother).spares hcall.1
  · exact hcall.2

/-- A write that is no call of a request. -/
lemma OthersOnly.write {db : ChatsDb} (h : OthersOnly Q start s) (hspares : Spares Q s.db db) :
    OthersOnly Q start { s with db } :=
  ⟨h.spares.trans hspares, fun pending hmem => (h.bound pending hmem).spares hspares⟩

lemma OthersOnly.step {maxMessageChars : ℕ} {action : ChatsAction} (h : OthersOnly Q start s)
    (hother : action.IsNotOf Q) (hstep : chatsStep maxMessageChars s action = some s') :
    OthersOnly Q start s' := by
  cases action with
  | Request principal request =>
      cases hstep
      refine ⟨h.spares, fun pending hmem => ?_⟩
      rcases List.mem_append.mp hmem with hmem | hmem
      · exact h.bound pending hmem
      · rw [List.mem_singleton.mp hmem]
        exact ⟨hother, fun hbegun => absurd rfl hbegun, fun id hphase => by cases hphase⟩
  | Next i values =>
      obtain ⟨pending, hpending, hstep⟩ := Option.bind_eq_some_iff.mp hstep
      obtain ⟨result, hcall, hstep⟩ := Option.bind_eq_some_iff.mp hstep
      cases hstep
      exact h.put (callSpares_nextCall (h.bound pending (List.mem_of_getElem? hpending)) hcall)
  | Write i write =>
      obtain ⟨pending, hpending, hstep⟩ := Option.bind_eq_some_iff.mp hstep
      obtain ⟨result, hcall, hstep⟩ := Option.bind_eq_some_iff.mp hstep
      cases hstep
      exact h.put (callSpares_nextWrite (h.bound pending (List.mem_of_getElem? hpending)) hcall)
  | Stop i e =>
      obtain ⟨pending, hpending, hstep⟩ := Option.bind_eq_some_iff.mp hstep
      cases hstep
      have hbound := h.bound pending (List.mem_of_getElem? hpending)
      exact h.put ⟨.refl s.db, hbound.over⟩
  | Transfer anonymousSessionId userId =>
      cases hstep
      exact h.write ((spares_changeOwner hother.1 hother.2).trans (spares_deleteSession hother.1))
  | DeleteSession anonymousSessionId =>
      cases hstep
      exact h.write (spares_deleteSession hother)

end Run

/-- **Nobody writes to the chats of others.**  In any interleaving of requests of other principals,
of sign-ins that transfer chats between others and of deleted sessions of others, with any call
failing, the chats of a principal with their messages and summaries stay as they are, and what
`list` and `get` show of them without a cursor stays the same.  Without a cursor, because a cursor
of somebody else tells of rows that are not one's own. -/
theorem others_write_nothing (maxMessageChars : ℕ) (Q : RequestPrincipal) (db : ChatsDb)
    (actions : List ChatsAction) (s : ChatsSystem)
    (hrun : runSteps (chatsStep maxMessageChars) ⟨db, []⟩ actions = some s)
    (hothers : ∀ action ∈ actions, action.IsNotOf Q) :
    AgreeFor Q db s.db
    ∧ ∀ parseUuid limit includeArchived chatId,
        s.db.list parseUuid Q none limit includeArchived = db.list parseUuid Q none limit includeArchived
        ∧ s.db.get parseUuid Q chatId none limit = db.get parseUuid Q chatId none limit := by
  have hothersOnly : OthersOnly Q db s :=
    runSteps_invariant_of_meets (fun s action s' h hother hstep => h.step hother hstep)
      (runMeets_of_forall _ hothers) hrun ⟨.refl db, by simp⟩
  have hagree := hothersOnly.spares.agree
  have hnone : ∀ (parseUuid : String → Option Uuid) (own : Uuid → Prop),
      ChatsDb.CursorWithin parseUuid own none := fun parseUuid own id hid => by cases hid
  refine ⟨hagree, fun parseUuid limit includeArchived chatId => ⟨?_, ?_⟩⟩
  · exact ChatsDb.list_congr hagree (.inl (hnone parseUuid _))
  · exact ChatsDb.get_congr hagree fun id _ _ => .inl (hnone parseUuid _)

/-- An anonymous session tries to rename a chat of user 1, creates one of its own, and becomes user
8. -/
def strangerActs : List ChatsAction :=
  [.Request (.Anonymous 9) (.Update 1 (some (js "mine")) none none), .Next 0 ⟨0, 0, 0, 0, 0, 30⟩,
    .Request (.Anonymous 9) (.Create [] "m" (some (js "Hello"))), .Next 1 ⟨5, 6, 0, 0, 0, 30⟩,
    .Next 1 ⟨5, 6, 0, 0, 0, 30⟩, .Transfer 9 8]

/-- The chats of user 1 through `strangerActs`. -/
theorem others_write_nothing_stranger :
    ∃ s, runSteps (chatsStep 12000) ⟨twoChats, []⟩ strangerActs = some s
      ∧ AgreeFor (.Authenticated 1 0) twoChats s.db
      ∧ ∀ parseUuid limit includeArchived chatId,
          s.db.list parseUuid (.Authenticated 1 0) none limit includeArchived
            = twoChats.list parseUuid (.Authenticated 1 0) none limit includeArchived
          ∧ s.db.get parseUuid (.Authenticated 1 0) chatId none limit
            = twoChats.get parseUuid (.Authenticated 1 0) chatId none limit := by
  have hpossible : (runSteps (chatsStep 12000) ⟨twoChats, []⟩ strangerActs).isSome = true := by
    decide +kernel
  obtain ⟨s, hrun⟩ := Option.isSome_iff_exists.mp hpossible
  have hothers : ∀ action ∈ strangerActs, action.IsNotOf (.Authenticated 1 0) := by
    simp [strangerActs, ChatsAction.IsNotOf, getPrincipalLockId]
  exact ⟨s, hrun, others_write_nothing 12000 (.Authenticated 1 0) twoChats strangerActs s hrun hothers⟩

end RagStack
