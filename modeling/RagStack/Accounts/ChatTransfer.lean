import RagStack.Accounts.RotationFamilies
import RagStack.Accounts.Transfer

/-!
# Chats created during a transfer

Sign-ins and sign-ups that transfer one anonymous session, and calls of `createChat` of the same
session, in any interleaving.

The user has been chatting without an account and signs in, while a request that creates a chat is
still under way.  The sign-in moves the chats of the session to the user.  If the chat is committed
before the UPDATE starts, it is moved like all others.  If its INSERT comes after the session has
been deleted, its foreign key fails, and the call answers with an error.  In between there is a
window: the chat is committed when the UPDATE has already decided which rows to move, and the DELETE
of the session takes it away with its message.  Both calls have succeeded.

What a created chat needs is a property that all later steps keep: the chat and its message are
there, and its owner is the session as long as that exists, and then a user who signed in with it.
The transfers guarantee it under the assumption of the last file, which is stated for the run as a
condition on commits: none of a `createChat` while a transfer is moving chats.  The condition looks
at one step and the state before it, so what is shown is that every run whose steps satisfy it keeps
every chat.

* `Kept` — a created chat and its message exist, and the chat has its one owner.
* `chatContract` — a transfer relies on it that no chat is added while it moves chats.
* `chats_survive_transfer` — if no `createChat` commits between the start of the UPDATE of a
  transfer and its DELETE, every created chat is kept.
* `chat_lostInTransfer` — otherwise the UPDATE misses the chat and the DELETE cascades to it.
-/

namespace RagStack

inductive TransferCall where
  | SignUp (user : User) (input : SessionInput)
  | SignIn (email : String) (verifies : String → Bool) (input : SessionInput)
  | CreateChat (title : JsString) (selectedModelId : Uuid) (firstPrompt : Option JsString)
      (now : Timestamp)

/-- The statements of a call of the anonymous session. -/
def TransferCall.statements (service : TokenService) (anonymousSessionId : Uuid) :
    TransferCall → Statements
  | SignUp user input => signUp service user (some anonymousSessionId) input
  | SignIn email verifies input => signIn service email verifies (some anonymousSessionId) input
  | CreateChat title selectedModelId firstPrompt now =>
      createChatRecord (.Anonymous anonymousSessionId) title selectedModelId firstPrompt now

/-- **The chat `c`**, with its message, if it was created with one. -/
structure Kept (S : Uuid) (c : Uuid) (message : Option Uuid) (rows : Rows Row) : Prop where
  chat : ∃ chat, rows c = some (.Chat chat)
    ∧ HasOneOwner S rows chat.userId chat.anonymousSessionId
  message : ∀ m ∈ message, ∃ message, rows m = some (.Message message) ∧ message.chatId = c

/-- The session is a session as long as it exists, and it exists as long as it has chats. -/
structure ChatInvariant (S : Uuid) (rows : Rows Row) : Prop where
  session : ∀ r, rows S = some r → SessionExists S rows
  owner : ∀ k r, rows k = some r → r.isTracked S false = true → SessionExists S rows

/-- What every call relies on: the session stays or goes, users stay, and created chats are kept.
While a transfer is moving chats it relies on one thing more, that nobody adds one. -/
structure ChatRely (S : Uuid) (log : List Statement) (rows rows' : Rows Row) : Prop where
  session : rows' S = rows S ∨ rows' S = none
  users : ∀ k user, rows k = some (.User user) → rows' k = some (.User user)
  kept : ∀ c message, Kept S c message rows → Kept S c message rows'
  addsNoChat : movingChats log = true → NoneAdded (Row.isChatOfAnonymous S) rows rows'

/-- What a commit guarantees.  Only the commit of a sign-in gives a chat to a user. -/
structure ChatGuar (S : Uuid) (log : List Statement) (rows rows' : Rows Row) : Prop where
  session : rows' S = rows S ∨ rows' S = none
  users : ∀ k user, rows k = some (.User user) → rows' k = some (.User user)
  kept : ∀ c message, Kept S c message rows → Kept S c message rows'
  addsNoChat : log.head? ≠ some .CommitChat → NoneAdded (Row.isChatOfAnonymous S) rows rows'
  owners : ∀ c chat userId, rows' c = some (.Chat chat) → chat.userId = some userId →
    (∃ chat', rows c = some (.Chat chat') ∧ chat'.userId = some userId)
      ∨ log.head? = some (.CommitSignIn userId (some S))

/-- The contract of all calls, for keys generated from `bound` on. -/
def chatContract (S : Uuid) (bound : ℕ) : Contract Row Statement Reply where
  Rely log _ := ChatRely S log
  Guar := ChatGuar S
  mayFail := True
  Post _ reply rows := ∀ c message, reply = .CreatedChat c message →
    bound ≤ c ∧ Kept S c message rows
  refl _ _ rows := ⟨.inl rfl, fun _ _ h => h, fun _ _ h => h, fun _ => .refl _ _⟩
  trans _ _ rows rows₁ rows₂ h h' := by
    refine ⟨?_, fun k user hk => h'.users k user (h.users k user hk),
      fun c message hc => h'.kept c message (h.kept c message hc),
      fun hmoving => (h.addsNoChat hmoving).trans (h'.addsNoChat hmoving)⟩
    rcases h'.session with hsame | hnone
    · rw [hsame]
      exact h.session
    · exact .inr hnone
  weaken _ _ _ _ h := h

section Transfers

variable {S userId : Uuid} {bound : ℕ} {w : Writes Row} {db db' : Db Row} {log : List Statement}
  {scan : Option Scan}

/-- **The commit of a transfer keeps the chats.** -/
lemma Transferred.kept {usage : Bool} (h : Transferred S userId usage bound w db) {c : Uuid}
    {message : Option Uuid} (hkept : Kept S c message db.rows) :
    Kept S c message (db.apply w).rows := by
  refine ⟨?_, fun m hm => ?_⟩
  · obtain ⟨chat, hc, howner⟩ := hkept.chat
    rcases h.chat hc with ⟨hsame, hother⟩ | ⟨-, hmoved⟩
    · exact ⟨chat, hsame, h.stillOwned howner hother⟩
    · exact ⟨_, hmoved, h.owned⟩
  · obtain ⟨row, hrow, hchat⟩ := hkept.message m hm
    refine ⟨row, ?_, hchat⟩
    have hmoves : RowMoves S userId usage bound m (db.rows m) ((db.apply w).rows m) :=
      h.overwrites.view m
    rw [hrow] at hmoves
    generalize (db.apply w).rows m = y at hmoves
    cases hmoves
    rfl

/-- A transfer gives chats to the user whom its sign-in names. -/
lemma Transferred.owners {usage : Bool} (h : Transferred S userId usage bound w db) {c : Uuid}
    {chat : Chat} {owner : Uuid} (hc : (db.apply w).rows c = some (.Chat chat))
    (howner : chat.userId = some owner) :
    (∃ chat', db.rows c = some (.Chat chat') ∧ chat'.userId = some owner) ∨ owner = userId := by
  have hmoves : RowMoves S userId usage bound c (db.rows c) ((db.apply w).rows c) :=
    h.overwrites.view c
  rw [hc] at hmoves
  generalize db.rows c = x at hmoves ⊢
  cases hmoves with
  | same => exact .inl ⟨chat, rfl, howner⟩
  | chat chat' _ => exact .inr (Option.some.inj howner.symm)

lemma transferContract_chat (hS : S < bound) :
    TransferContract S false bound (ChatInvariant S) (chatContract S bound) where
  mayFail := trivial
  post log reply rows hreply c message hcreated := absurd hcreated (hreply c message)
  owner rows hinv := hinv.owner
  session _ _ _ _ h := h.session
  users _ _ _ _ h := h.users
  addsNoChat _ _ _ _ h := h.addsNoChat
  addsNoUsage h := by cases h
  commit userId log w db h hlater := by
    have hsession := h.session hS hlater.inv.session
    refine ⟨⟨hsession, h.users, fun _ _ => h.kept, fun _ k r hr hchat => ?_, ?_⟩, ?_, ?_⟩
    · have hnone := h.noneLeft k r hr
      rw [Row.isTracked, hchat, Bool.true_or] at hnone
      cases hnone
    · intro c chat owner hc howner
      rcases h.owners hc howner with hbefore | rfl
      · exact .inl hbefore
      · exact .inr rfl
    · intro r hr
      rcases hsession with hsame | hnone
      · rw [hsame] at hr
        obtain ⟨session, hsession⟩ := hlater.inv.session r hr
        exact ⟨session, hsame.trans hsession⟩
      · cases hnone.symm.trans hr
    · intro k r hr htracked
      rw [h.noneLeft k r hr] at htracked
      cases htracked

end Transfers

/-! ## The creation of a chat

From the INSERT of the chat to its commit nobody can delete the session, since a DELETE waits for
rows that refer to what it deletes. -/

/-- How `createChat` changes a row. -/
inductive RowCreated (S : Uuid) (bound : ℕ) : Key → Option Row → Option Row → Prop where
  | same {k : Key} (x : Option Row) : RowCreated S bound k x x
  | chat {k : Key} (hk : bound ≤ k) (chat : Chat) (howner : chat.anonymousSessionId = some S)
      (hnone : chat.userId = none) : RowCreated S bound k none (some (.Chat chat))
  | message {k : Key} (hk : bound ≤ k) (message : Message) :
      RowCreated S bound k none (some (.Message message))

/-- The changes of `createChat`. -/
def creationMoves (S : Uuid) (bound : ℕ) : Evolution Row where
  Moves := RowCreated S bound
  same _ := RowCreated.same
  trans k x r y h h' := by
    cases h with
    | same => exact h'
    | chat hk chat howner hnone =>
        cases h'
        exact .chat hk chat howner hnone
    | message hk message =>
        cases h'
        exact .message hk message

/-- The session exists, and the transaction has written the chat and its message. -/
structure Creating (S : Uuid) (bound : ℕ) (c : Uuid) (message : Option Uuid) (w : Writes Row)
    (db : Db Row) : Prop where
  overwrites : Overwrites (creationMoves S bound) w db
  bound : bound ≤ c
  session : SessionExists S db.rows
  chat : ∃ chat, w c = some (some (.Chat chat)) ∧ chat.anonymousSessionId = some S
    ∧ chat.userId = none
  message : ∀ m ∈ message, ∃ row, w m = some (some (.Message row)) ∧ row.chatId = c

section Creation

variable {S : Uuid} {bound : ℕ} {c : Uuid} {message : Option Uuid} {w : Writes Row} {db db' : Db Row}
  {log : List Statement} {scan : Option Scan}

/-- Nobody deletes the session that the new chat refers to. -/
lemma Creating.later (h : Creating S bound c message w db)
    (hlater : Later accountSchema (ChatInvariant S) (chatContract S bound) log scan w db db') :
    Creating S bound c message w db' := by
  refine ⟨h.overwrites.later hlater.undisturbed, h.bound, ?_, h.chat, h.message⟩
  obtain ⟨chat, hw, howner, -⟩ := h.chat
  obtain ⟨session, hsession⟩ := h.session
  have hparent : (S, Row.isAnonymousSession) ∈ accountSchema.references (.Chat chat) := by
    simp [accountSchema, Row.references, howner]
  have hstays := hlater.undisturbed.parents c _ hw _ hparent (by rw [hsession]; rfl)
  rcases hlater.rely.session with hsame | hnone
  · exact ⟨session, hsame.trans hsession⟩
  · rw [hnone] at hstays
    cases hstays

/-- The chat itself, whose foreign key was checked. -/
lemma creating_insert {chat : Chat} (hbound : bound ≤ db.clock) (hfresh : db.rows db.clock = none)
    (hadmits : accountSchema.ParentsExist db (.Chat chat)) (howner : chat.anonymousSessionId = some S)
    (hnone : chat.userId = none) :
    Creating S bound db.clock none
      (Function.update (fun _ => none) db.clock (some (some (.Chat chat)))) db.tick := by
  refine ⟨(Overwrites.nothing _ _).insert hfresh (.chat hbound _ howner hnone), hbound, ?_,
    ⟨chat, Function.update_self _ _ _, howner, hnone⟩, by simp⟩
  have hparent := hadmits (S, Row.isAnonymousSession) (by
    simp [accountSchema, Row.references, howner])
  obtain ⟨r, hr, htable⟩ := (Option.any_eq_true _ _).mp hparent
  cases r with
  | AnonymousSession session => exact ⟨session, hr⟩
  | _ => cases htable

lemma Creating.insert (h : Creating S bound c none w db) (hbound : bound ≤ db.clock)
    (hfresh : db.rows db.clock = none ∧ w db.clock = none) {row : Message} (hrow : row.chatId = c) :
    Creating S bound c (some db.clock)
      (Function.update w db.clock (some (some (.Message row)))) db.tick := by
  refine ⟨h.overwrites.insert hfresh.1 (.message hbound row), h.bound, h.session, ?_, ?_⟩
  · obtain ⟨chat, hw, howner⟩ := h.chat
    refine ⟨chat, (Function.update_of_ne ?_ _ _).trans hw, howner⟩
    rintro rfl
    cases hfresh.2.symm.trans hw
  · intro m hm
    cases Option.mem_some_iff.mp hm
    exact ⟨row, Function.update_self _ _ _, hrow⟩

/-- A row that exists stays as it is. -/
lemma Creating.row (h : Creating S bound c message w db) {k : Key} {r : Row}
    (hr : db.rows k = some r) : (db.apply w).rows k = some r := by
  have hmoves : RowCreated S bound k (db.rows k) ((db.apply w).rows k) := h.overwrites.view k
  rw [hr] at hmoves
  generalize (db.apply w).rows k = y at hmoves
  cases hmoves
  rfl

lemma Creating.sessionRow (h : Creating S bound c message w db) :
    (db.apply w).rows S = db.rows S := by
  obtain ⟨session, hsession⟩ := h.session
  rw [h.row hsession, hsession]

lemma Creating.sessionExists (h : Creating S bound c message w db) :
    SessionExists S (db.apply w).rows := by
  obtain ⟨session, hsession⟩ := h.session
  exact ⟨session, h.row hsession⟩

/-- **What is created is kept.** -/
lemma Creating.kept (h : Creating S bound c message w db) : Kept S c message (db.apply w).rows := by
  refine ⟨?_, fun m hm => ?_⟩
  · obtain ⟨chat, hw, howner⟩ := h.chat
    exact ⟨chat, Db.rows_apply_some hw, .inl ⟨h.sessionExists, howner⟩⟩
  · obtain ⟨row, hw, hrow⟩ := h.message m hm
    exact ⟨row, Db.rows_apply_some hw, hrow⟩

/-- **The commit of `createChat`.** -/
lemma Creating.guar (h : Creating S bound c message w db) :
    ChatGuar S (.CommitChat :: log) db.rows (db.apply w).rows := by
  refine ⟨.inl h.sessionRow, fun _ _ => h.row, fun c' message' hkept => ⟨?_, fun m hm => ?_⟩,
    fun hhead => absurd rfl hhead, fun c' chat userId hchat howner => .inl ?_⟩
  · obtain ⟨chat, hchat, howner⟩ := hkept.chat
    refine ⟨chat, h.row hchat, ?_⟩
    rcases howner with ⟨-, howner⟩ | ⟨hgone, -⟩
    · exact .inl ⟨h.sessionExists, howner⟩
    · exact absurd h.session hgone
  · obtain ⟨row, hrow, hchat⟩ := hkept.message m hm
    exact ⟨row, h.row hrow, hchat⟩
  · have hmoves : RowCreated S bound c' (db.rows c') ((db.apply w).rows c') :=
      h.overwrites.view c'
    rw [hchat] at hmoves
    generalize db.rows c' = x at hmoves ⊢
    cases hmoves with
    | same => exact ⟨chat, rfl, howner⟩
    | chat _ _ _ hnone => cases hnone.symm.trans howner

lemma safe_commitChat (h : Creating S bound c message w db) :
    Safe accountSchema (ChatInvariant S) (chatContract S bound)
      (.commit .CommitChat (.done (.CreatedChat c message))) log w db := by
  intro db₁ h₁
  have hcreating := h.later h₁
  refine ⟨hcreating.guar, ⟨fun _ _ => hcreating.sessionExists, fun _ _ _ _ =>
    hcreating.sessionExists⟩, fun db₂ h₂ c' message' hreply => ?_⟩
  cases hreply
  exact ⟨hcreating.bound, h₂.rely.kept _ _ hcreating.kept⟩

/-- **A call of `createChat` is safe.**  Only it has written its rows, and they are locked until the
commit.  Their session is there at the commit because it was there at the INSERT. -/
theorem safe_createChatRecord (hbound : bound ≤ db.clock) {title : JsString}
    {selectedModelId : Uuid} {firstPrompt : Option JsString} {now : Timestamp} :
    Safe accountSchema (ChatInvariant S) (chatContract S bound)
      (createChatRecord (.Anonymous S) title selectedModelId firstPrompt now) [] (fun _ => none)
      db := by
  intro db₁ h₁
  have hbound₁ := hbound.trans h₁.undisturbed.clock
  refine ⟨fun hadmits => ?_, fun _ => trivial⟩
  have hcreating := creating_insert hbound₁ h₁.fresh.1 hadmits.1 rfl rfl
  dsimp only
  split
  · exact safe_commitChat hcreating
  · intro db₂ h₂
    exact ⟨fun _ => safe_commitChat ((hcreating.later h₂).insert
      (hbound₁.trans (Nat.le_of_succ_le h₂.undisturbed.clock)) h₂.fresh rfl), fun _ => trivial⟩

end Creation

/-! ## Runs

The owners of chats are users that a call has answered with.  This relates what is in the tables to
what clients were told. -/

/-- The rows before the run, and the calls before their first statements. -/
def transferSystem {n : ℕ} (service : TokenService) (rows : List (Option Row)) (S : Uuid)
    (calls : Fin n → TransferCall) : Sys n Row Statement Reply :=
  .start (.ofRows rows) fun i => (calls i).statements service S

/-- The step is not the commit of a `createChat` while a transfer is moving chats. -/
def missesNoChat {n : ℕ} (mid : Sys n Row Statement Reply) (i : Fin n) : Action → Bool
  | .Proceed =>
      match (mid.procs i).prog with
      | .commit .CommitChat _ => (List.finRange n).all fun j =>
          (mid.procs j).prog matches .failed || !movingChats (mid.procs j).log
      | _ => true
  | _ => true

section Runs

variable {n : ℕ} {service : TokenService} {rows : List (Option Row)} {S : Uuid}
  {calls : Fin n → TransferCall} {sys mid : Sys n Row Statement Reply} {i : Fin n} {a : Action}

lemma not_movingChats (h : missesNoChat mid i .Proceed = true) {next : Statements}
    (hprog : (mid.procs i).prog = .commit .CommitChat next) {j : Fin n}
    (hj : (mid.procs j).prog ≠ .failed) : movingChats (mid.procs j).log = false := by
  simp only [missesNoChat] at h
  simp only [hprog, List.all_eq_true, List.mem_finRange, true_implies, Bool.or_eq_true,
    Bool.not_eq_true'] at h
  refine (h j).resolve_left fun hfailed => hj ?_
  split at hfailed
  · assumption
  · cases hfailed

lemma admissible_of_missesNoChat (bound : ℕ) (h : missesNoChat mid i a = true) :
    Admissible (fun _ : Fin n => chatContract S bound) mid i a := by
  refine ⟨fun _ => trivial, fun ha label next hprog hguar j _ hj => ?_⟩
  refine ⟨hguar.session, hguar.users, hguar.kept, fun hmoving => hguar.addsNoChat ?_⟩
  rintro hlabel
  cases hlabel
  subst ha
  rw [not_movingChats h hprog hj] at hmoving
  cases hmoving

lemma transferSystem_secure (hsession : SessionExists S (Db.ofRows rows).rows) :
    Secure accountSchema (ChatInvariant S) (fun _ => chatContract S rows.length)
      (transferSystem service rows S calls) := by
  have hS : S < rows.length := by
    obtain ⟨session, hs⟩ := hsession
    exact Db.lt_clock_ofRows rows S _ hs
  have hbound : rows.length ≤ (Db.ofRows rows).clock := le_rfl
  refine .start ⟨fun _ _ => hsession, fun _ _ _ _ => hsession⟩ (Db.lt_clock_ofRows rows) fun i => ?_
  cases calls i with
  | SignUp user input => exact safe_signUp (transferContract_chat hS) hbound
  | SignIn email verifies input => exact safe_signIn (transferContract_chat hS) hbound
  | CreateChat title selectedModelId firstPrompt now => exact safe_createChatRecord hbound

/-- **What `createChat` promises.**  The chat exists with its message, and its one owner is the
session, or, once the session is gone, a user who signed in with it. -/
structure Survives (S : Uuid) (c : Uuid) (message : Option Uuid) (sys : Sys n Row Statement Reply) :
    Prop where
  message : ∀ m ∈ message, ∃ row, sys.db.rows m = some (.Message row) ∧ row.chatId = c
  chat : ∃ chat, sys.db.rows c = some (.Chat chat)
    ∧ OwnedOnce S chat.userId chat.anonymousSessionId sys

/-- A new chat that belongs to a user belongs to one who signed in with the session. -/
def OwnersSignedIn (S : Uuid) (bound : ℕ) (sys : Sys n Row Statement Reply) : Prop :=
  ∀ c chat userId, bound ≤ c → sys.db.rows c = some (.Chat chat) → chat.userId = some userId →
    ∃ j, .CommitSignIn userId (some S) ∈ (sys.procs j).log

lemma OwnersSignedIn.step {bound : ℕ} (h : OwnersSignedIn S bound mid)
    (hsecure : Secure accountSchema (ChatInvariant S) (fun _ => chatContract S bound) mid)
    (hmoved : Moved accountSchema mid i a sys) : OwnersSignedIn S bound sys := by
  obtain ⟨hlogs, hrows⟩ := hsecure.moved hmoved
  have hbefore : ∀ c chat userId, bound ≤ c → mid.db.rows c = some (.Chat chat) →
      chat.userId = some userId → ∃ j, .CommitSignIn userId (some S) ∈ (sys.procs j).log := by
    intro c chat userId hc hchat howner
    obtain ⟨j, hj⟩ := h c chat userId hc hchat howner
    exact ⟨j, hlogs j hj⟩
  intro c chat userId hc hchat howner
  rcases hrows with hsame | ⟨label, hlabel, hguar⟩
  · rw [hsame] at hchat
    exact hbefore c chat userId hc hchat howner
  · rcases hguar.owners c chat userId hchat howner with ⟨chat', hchat', howner'⟩ | hhead
    · exact hbefore c chat' userId hc hchat' howner'
    · cases hhead
      exact ⟨i, hlabel⟩

/-- **Chats survive a transfer.**  If no `createChat` commits while a transfer is moving chats,
every chat that a `createChat` returned survives, in every state after its return.  There may be any
number of transfers of the session, one after the other or at the same time, and calls may fail or
be aborted. -/
theorem chats_survive_transfer {acts : List (Fin n × Action)}
    (hsession : SessionExists S (Db.ofRows rows).rows)
    (hrun : (transferSystem service rows S calls).run accountSchema acts = some sys)
    (hmisses : (transferSystem service rows S calls).AlongRun accountSchema
      (fun mid i a => missesNoChat mid i a) acts)
    {c : Uuid} {message : Option Uuid}
    (hdone : (sys.procs i).prog = .done (.CreatedChat c message)) : Survives S c message sys := by
  have hstart : OwnersSignedIn S rows.length (transferSystem service rows S calls) := by
    intro c chat userId hc hchat _
    exact absurd (Db.lt_clock_ofRows rows c _ hchat) (not_lt_of_ge hc)
  obtain ⟨hsecure, howners⟩ := (transferSystem_secure hsession).run_induct
    (hmisses.imp fun _ _ _ => admissible_of_missesNoChat rows.length) hrun hstart
    fun mid i a sys hmid _ hmoved h => h.step hmid hmoved
  obtain ⟨hc, hkept⟩ := hsecure.post hdone c message rfl
  obtain ⟨chat, hchat, howner⟩ := hkept.chat
  refine ⟨hkept.message, chat, hchat, ?_⟩
  rcases howner with howner | ⟨hgone, hnone, userId, -, huserId, -⟩
  · exact .inl howner
  · exact .inr ⟨hgone, hnone, userId, huserId, howners c chat userId hc hchat huserId⟩

end Runs

/-! ## A chat that is created meanwhile

One session, one sign-in and one chat, in two orders that differ by a single step. -/

/-- A user, a session and a model. -/
def oneSession : List (Option Row) :=
  [some (.User ⟨"user@example.com", "hash", none⟩), some (.AnonymousSession ⟨"token", 100⟩),
    some (.Model ⟨2, "model", 4096, true⟩)]

/-- The user signs in with the session, in which a chat is created. -/
def signInAndChat : Fin 2 → TransferCall
  | 0 => .SignIn "user@example.com" (fun _ => true) (plainInput "first")
  | 1 => .CreateChat (js "Hello") 2 (some (js "Hello")) 10

attribute [local instance] neZero_two in
/-- The chat is committed just before the sign-in moves chats. -/
def chatInTime : List (Fin 2 × Action) :=
  [(1, .Proceed), (0, .Proceed), (1, .Proceed), (0, .Proceed), (1, .Proceed), (0, .Proceed),
    (0, .Visit 3), (0, .Proceed), (0, .Proceed), (0, .Proceed), (0, .Proceed), (0, .Proceed),
    (0, .Proceed), (0, .Visit 5), (0, .Proceed), (0, .Proceed)]

attribute [local instance] neZero_two in
/-- The chat is committed when the sign-in has started to move chats. -/
def chatTooLate : List (Fin 2 × Action) :=
  [(1, .Proceed), (1, .Proceed), (0, .Proceed), (0, .Proceed), (0, .Proceed), (1, .Proceed),
    (0, .Proceed), (0, .Proceed), (0, .Proceed), (0, .Proceed), (0, .Proceed), (0, .Proceed),
    (0, .Visit 5), (0, .Proceed), (0, .Proceed)]

/-- The chat that is committed in time belongs to the user. -/
theorem chats_survive_transfer_inTime : ∃ sys,
    (transferSystem sessionTokens oneSession 1 signInAndChat).run accountSchema chatInTime = some sys
      ∧ (sys.procs 1).prog = .done (.CreatedChat 3 (some 4)) ∧ Survives 1 3 (some 4) sys := by
  have hruns : ((transferSystem sessionTokens oneSession 1 signInAndChat).run accountSchema
      chatInTime).any (fun sys => (sys.procs 1).prog.answer == some (.CreatedChat 3 (some 4)))
        = true := by decide +kernel
  have hmisses : (transferSystem sessionTokens oneSession 1 signInAndChat).AlongRun accountSchema
      (fun mid i a => missesNoChat mid i a) chatInTime := by decide +kernel
  obtain ⟨sys, hrun, hend⟩ := (Option.any_eq_true _ _).mp hruns
  rw [beq_iff_eq, Prog.answer_eq_some] at hend
  exact ⟨sys, hrun, hend, chats_survive_transfer ⟨⟨"token", 100⟩, rfl⟩ hrun hmisses hend⟩

/-- The other one is deleted with the session, though both calls succeed. -/
theorem chat_lostInTransfer : ∃ sys reply,
    (transferSystem sessionTokens oneSession 1 signInAndChat).run accountSchema chatTooLate = some sys
      ∧ (sys.procs 0).prog = .done reply ∧ (sys.procs 1).prog = .done (.CreatedChat 3 (some 4))
      ∧ sys.db.rows 3 = none ∧ sys.db.rows 4 = none ∧ ¬ Survives 1 3 (some 4) sys := by
  have hruns : ((transferSystem sessionTokens oneSession 1 signInAndChat).run accountSchema
      chatTooLate).any (fun sys => (sys.procs 0).prog.answer.isSome
        && (sys.procs 1).prog.answer == some (.CreatedChat 3 (some 4))
        && sys.db.rows 3 == none && sys.db.rows 4 == none) = true := by decide +kernel
  obtain ⟨sys, hrun, hend⟩ := (Option.any_eq_true _ _).mp hruns
  simp only [Bool.and_eq_true, beq_iff_eq, Prog.answer_eq_some] at hend
  obtain ⟨⟨⟨hsome, hcreated⟩, hchat⟩, hmessage⟩ := hend
  obtain ⟨reply, hreply⟩ := Option.isSome_iff_exists.mp hsome
  refine ⟨sys, reply, hrun, Prog.answer_eq_some.mp hreply, hcreated, hchat, hmessage, fun h => ?_⟩
  obtain ⟨chat, hrow, -⟩ := h.chat
  cases hchat.symm.trans hrow

end RagStack
