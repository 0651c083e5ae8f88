import RagStack.Accounts.RotationFamilies
import RagStack.Accounts.Transfer

/-!
# Usage recorded during a transfer

The recorder of one call for a chat of an anonymous session, with sign-ins and sign-ups that
transfer the session and with deletions of chats, in any interleaving.

When a reply is complete its usage is recorded.  The recorder reads the chat to see whom it belongs
to now, because the session may have been transferred while the model was answering, and then
inserts a row for that owner.  These are two statements with time between them.  If the transfer
falls into this time, the row refers to a session that no longer exists; the INSERT fails, and the
recorder swallows the error.  If the row is committed while the transfer is already moving usage
rows, it is not moved and loses its owner when the session is deleted.

Both can be excluded by conditions on a step and the state before it: what the row refers to still
exists when it is inserted, and no transfer is moving usage rows when it is committed.  In a run
that meets them, and in which the connection of the recorder is not lost, the recorder succeeds, and
there is exactly one new usage row, with one owner.  That a user among the owners has signed in with
the session is carried along with the chat, from which the recorder takes the owner.

The system has one recorder, so that its rows can be counted by looking at the table.

* `Recorded` — a usage row of the call, with its one owner.
* `usageContract` — a transfer relies on it that no usage row of the session is added while it moves
  them.
* `usage_recorded_once` — if what the recorder refers to still exists when it inserts the row, and
  it does not commit the row while a transfer is moving usage, there is exactly one row.
* `usage_lostInTransfer` — otherwise there may be none, or one that belongs to nobody.
-/

namespace RagStack

/-! ## The deletion of a chat

It takes the messages with it and clears `chat_id` of the usage rows, which stay. -/

/-- What a usage row says about the call, without its owner and its chat. -/
def UsageLog.entry (row : UsageLog) : UsageLog :=
  { row with userId := none, anonymousSessionId := none, chatId := none }

/-- The row `k` is a usage row of the call, with its one owner. -/
def Recorded (S : Uuid) (entry : UsageLog) (rows : Rows Row) (k : Key) : Prop :=
  ∃ row, rows k = some (.UsageLog row) ∧ row.entry = entry
    ∧ HasOneOwner S rows row.userId row.anonymousSessionId

/-- The row `k` is a usage row.  Which keys have one is all that is needed to count new rows. -/
def isUsageAt (rows : Rows Row) (k : Key) : Bool :=
  (rows k).any fun r => r matches .UsageLog _

/-- `user_id` of a chat or a usage row. -/
def Row.userOf : Row → Option Uuid
  | Chat chat => chat.userId
  | UsageLog row => row.userId
  | _ => none

/-- The session exists as long as it has chats or usage rows, and the chat has one owner. -/
structure UsageInvariant (S c : Uuid) (rows : Rows Row) : Prop where
  session : ∀ r, rows S = some r → SessionExists S rows
  owner : ∀ k r, rows k = some r → r.isTracked S true = true → SessionExists S rows
  chat : ∀ r, rows c = some r →
    ∃ chat, r = .Chat chat ∧ HasOneOwner S rows chat.userId chat.anonymousSessionId

/-- What every call relies on.  The recorder also relies on it that nobody else records usage. -/
structure UsageRely (S c : Uuid) (entry : UsageLog) (recording : Prop) (log : List Statement)
    (rows rows' : Rows Row) : Prop where
  session : rows' S = rows S ∨ rows' S = none
  users : ∀ k user, rows k = some (.User user) → rows' k = some (.User user)
  chat : (∀ r, rows c = some r → r.userOf.isSome = true) → rows' c = rows c ∨ rows' c = none
  recorded : ∀ k, Recorded S entry rows k → Recorded S entry rows' k
  addsNoChat : NoneAdded (Row.isChatOfAnonymous S) rows rows'
  addsNoUsage : movingUsage log = true → NoneAdded (Row.isUsageOfAnonymous S) rows rows'
  usageKeys : recording → ∀ k, isUsageAt rows' k = isUsageAt rows k

/-- What a commit guarantees.  Only the recorder records usage, for the owner of the chat. -/
structure UsageGuar (S c : Uuid) (bound : ℕ) (entry : UsageLog) (recording : Prop)
    (log : List Statement) (rows rows' : Rows Row) : Prop where
  session : rows' S = rows S ∨ rows' S = none
  users : ∀ k user, rows k = some (.User user) → rows' k = some (.User user)
  chat : (∀ r, rows c = some r → r.userOf.isSome = true) → rows' c = rows c ∨ rows' c = none
  recorded : ∀ k, Recorded S entry rows k → Recorded S entry rows' k
  addsNoChat : NoneAdded (Row.isChatOfAnonymous S) rows rows'
  owner : ∀ k r, rows' k = some r → r.isTracked S true = true → SessionExists S rows'
  addsNoUsage : ¬ recording → NoneAdded (Row.isUsageOfAnonymous S) rows rows'
  usageKeys : ¬ recording → ∀ k, isUsageAt rows' k = isUsageAt rows k
  owners : ∀ k r userId, k = c ∨ bound ≤ k → rows' k = some r → r.userOf = some userId →
    (∃ k' r', (k' = c ∨ bound ≤ k') ∧ rows k' = some r' ∧ r'.userOf = some userId)
      ∨ log.head? = some (.CommitSignIn userId (some S))

/-- One usage row of the call was added to those in `rows₀`. -/
def RecordedOnce (S : Uuid) (bound : ℕ) (entry : UsageLog) (rows₀ rows : Rows Row) : Prop :=
  ∃ k, bound ≤ k ∧ Recorded S entry rows k
    ∧ ∀ k', isUsageAt rows k' = (isUsageAt rows₀ k' || k' == k)

/-- The contract of all calls, for keys generated from `bound` on. -/
def usageContract (S c : Uuid) (bound : ℕ) (entry : UsageLog) (rows₀ : Rows Row)
    (recording : Prop) : Contract Row Statement Reply where
  Rely log _ := UsageRely S c entry recording log
  Guar := UsageGuar S c bound entry recording
  mayFail := True
  Post _ _ rows := recording → RecordedOnce S bound entry rows₀ rows
  refl _ _ rows := ⟨.inl rfl, fun _ _ h => h, fun _ => .inl rfl, fun _ h => h, .refl _ _,
    fun _ => .refl _ _, fun _ _ => rfl⟩
  trans _ _ rows rows₁ rows₂ h h' := by
    refine ⟨?_, fun k user hk => h'.users k user (h.users k user hk), fun huser => ?_,
      fun k hk => h'.recorded k (h.recorded k hk), h.addsNoChat.trans h'.addsNoChat,
      fun hmoving => (h.addsNoUsage hmoving).trans (h'.addsNoUsage hmoving),
      fun hrecording k => (h'.usageKeys hrecording k).trans (h.usageKeys hrecording k)⟩
    · rcases h'.session with hsame | hnone
      · rw [hsame]
        exact h.session
      · exact .inr hnone
    · rcases h.chat huser with hsame | hnone
      · rw [← hsame] at huser ⊢
        exact h'.chat huser
      · rcases h'.chat (by simp [hnone]) with hsame' | hnone'
        · exact .inr (hsame'.trans hnone)
        · exact .inr hnone'
  weaken _ _ _ _ h := h

/-! ## The commit of a transfer

After it the session has no rows, and the row of the recorder has gone to the user if it was there.
-/

section Transfers

variable {S c userId : Uuid} {usage : Bool} {bound : ℕ} {entry : UsageLog} {rows₀ : Rows Row}
  {w : Writes Row} {db db' : Db Row} {log : List Statement} {scan : Option Scan}

/-- Only the user of the transfer gets rows. -/
lemma RowMoves.userOf {k : Key} {x y : Option Row} (h : RowMoves S userId usage bound k x y) {r : Row}
    {ownerId : Uuid} (hr : y = some r) (howner : r.userOf = some ownerId) :
    (∃ r', x = some r' ∧ r'.userOf = some ownerId) ∨ ownerId = userId := by
  cases h with
  | same => exact .inl ⟨r, hr, howner⟩
  | cleared row =>
      cases hr
      exact .inl ⟨_, rfl, howner⟩
  | chat | usage =>
      cases hr
      exact .inr (Option.some.inj howner.symm)
  | user | created | session =>
      cases hr
      cases howner
  | ended => cases hr

/-- A usage row after the commit of a transfer. -/
lemma Transferred.usageRow (h : Transferred S userId true bound w db) {k : Key} {row : UsageLog}
    (hk : db.rows k = some (.UsageLog row)) :
    (db.apply w).rows k = some (.UsageLog row) ∧ row.anonymousSessionId ≠ some S
      ∨ row.anonymousSessionId = some S ∧ (db.apply w).rows k
        = some (.UsageLog { row with anonymousSessionId := none, userId := some userId }) := by
  have hmoves : RowMoves S userId true bound k (db.rows k) ((db.apply w).rows k) :=
    h.overwrites.view k
  have hnone := h.noneLeft k
  rw [hk] at hmoves
  generalize (db.apply w).rows k = y at hmoves hnone
  cases hmoves with
  | same =>
      refine .inl ⟨rfl, fun howner => ?_⟩
      have htracked := hnone _ rfl
      simp [Row.isTracked, Row.isChatOfAnonymous, Row.isUsageOfAnonymous, howner] at htracked
  | usage _ howner => exact .inr ⟨howner, rfl⟩
  | cleared _ _ husage => cases husage

/-- The usage rows of the session go to the user. -/
lemma Transferred.recorded (h : Transferred S userId true bound w db) {k : Key}
    (hk : Recorded S entry db.rows k) : Recorded S entry (db.apply w).rows k := by
  obtain ⟨row, hrow, hentry, howner⟩ := hk
  rcases h.usageRow hrow with ⟨hsame, hother⟩ | ⟨-, hmoved⟩
  · exact ⟨row, hsame, hentry, h.stillOwned howner hother⟩
  · exact ⟨_, hmoved, hentry, h.owned⟩

end Transfers

/-! ## The commit of a deletion -/

section Deletions

variable {S c : Uuid} {bound : ℕ} {entry : UsageLog} {rows₀ : Rows Row} {w : Writes Row} {db : Db Row}
  {log : List Statement} {k : Key} {r : Row}

end Deletions

/-! ## The recorder

One row is written, for the owner of the chat as it was read, or for the session if the chat has
been deleted. -/

/-- The transaction has written one usage row of the call, whose owner exists.  A user owns it only
as the owner of the chat. -/
structure Recording (S c : Uuid) (bound : ℕ) (entry : UsageLog) (rows₀ : Rows Row) (k : Key)
    (row : UsageLog) (w : Writes Row) (db : Db Row) : Prop where
  key : bound ≤ k
  fresh : db.rows k = none
  written : w = Function.update (fun _ => none) k (some (some (.UsageLog row)))
  recorded : row.entry = entry
  owner : HasOneOwner S db.rows row.userId row.anonymousSessionId
  chat : row.userId.isSome = true →
    row.chatId = some c ∧ ∃ chat, db.rows c = some (.Chat chat) ∧ chat.userId = row.userId
  usageKeys : ∀ k, isUsageAt db.rows k = isUsageAt rows₀ k

section Recorder

variable {S c : Uuid} {bound : ℕ} {entry row : UsageLog} {rows₀ : Rows Row} {k k' : Key}
  {w : Writes Row} {db db' : Db Row} {log : List Statement} {scan : Option Scan}

/-- A session stays away once it is gone. -/
lemma not_sessionExists {recording : Prop} {rows rows' : Rows Row}
    (h : UsageRely S c entry recording log rows rows') (hgone : ¬ SessionExists S rows) :
    ¬ SessionExists S rows' := by
  rintro ⟨session, hs⟩
  rcases h.session with hsame | hnone
  · exact hgone ⟨session, hsame.symm.trans hs⟩
  · cases hnone.symm.trans hs

/-- Nobody deletes what the new row refers to. -/
lemma Recording.later (h : Recording S c bound entry rows₀ k row w db)
    (hlater : Later accountSchema (UsageInvariant S c) (usageContract S c bound entry rows₀ True) log
      scan w db db') : Recording S c bound entry rows₀ k row w db' := by
  have hw : w k = some (some (.UsageLog row)) := by rw [h.written, Function.update_self]
  have hparents := hlater.undisturbed.parents k _ hw
  refine ⟨h.key, (hlater.undisturbed.rows k _ hw).trans h.fresh, h.written, h.recorded, ?_,
    fun huser => ?_, fun k => (hlater.rely.usageKeys trivial k).trans (h.usageKeys k)⟩
  · rcases h.owner with ⟨⟨session, hs⟩, howner, hnone⟩ | ⟨hgone, hnone, id, user, hid, huser⟩
    · refine .inl ⟨?_, howner, hnone⟩
      have hstays := hparents (S, Row.isAnonymousSession)
        (by simp [accountSchema, Row.references, howner]) (by rw [hs]; rfl)
      rcases hlater.rely.session with hsame | hgone
      · exact ⟨session, hsame.trans hs⟩
      · rw [hgone] at hstays
        cases hstays
    · exact .inr ⟨not_sessionExists hlater.rely hgone, hnone, id, user, hid,
        hlater.rely.users id user huser⟩
  · obtain ⟨hchatId, chat, hchat, howner⟩ := h.chat huser
    refine ⟨hchatId, chat, ?_, howner⟩
    have hstays := hparents (c, Row.isChat)
      (by simp [accountSchema, Row.references, hchatId]) (by rw [hchat]; rfl)
    have hkept := hlater.rely.chat fun r hr => by
      cases hchat.symm.trans hr
      rwa [Row.userOf, howner]
    rcases hkept with hsame | hgone
    · exact hsame.trans hchat
    · rw [hgone] at hstays
      cases hstays

/-- The commit adds the row and changes no other. -/
lemma Recording.rows_self (h : Recording S c bound entry rows₀ k row w db) :
    (db.apply w).rows k = some (.UsageLog row) := by
  rw [h.written]
  exact Db.rows_apply_update_self _ _ _ _

lemma Recording.rows_of_ne (h : Recording S c bound entry rows₀ k row w db) (hk : k' ≠ k) :
    (db.apply w).rows k' = db.rows k' := by
  rw [h.written, Db.rows_apply_update_of_ne _ _ hk]
  rfl

lemma Recording.rows_of_some (h : Recording S c bound entry rows₀ k row w db) {r : Row}
    (hr : db.rows k' = some r) : (db.apply w).rows k' = some r := by
  refine (h.rows_of_ne ?_).trans hr
  rintro rfl
  cases h.fresh.symm.trans hr

/-- A row after the commit is the new one or an old one. -/
lemma Recording.row_cases (h : Recording S c bound entry rows₀ k row w db) {r : Row}
    (hr : (db.apply w).rows k' = some r) : k' = k ∧ r = .UsageLog row ∨ db.rows k' = some r := by
  by_cases hk : k' = k
  · subst hk
    exact .inl ⟨rfl, Option.some.inj (hr.symm.trans h.rows_self)⟩
  · exact .inr ((h.rows_of_ne hk).symm.trans hr)

lemma Recording.ownerKept (h : Recording S c bound entry rows₀ k row w db) (hS : S < bound)
    {ownerId anonymousSessionId : Option Uuid}
    (howner : HasOneOwner S db.rows ownerId anonymousSessionId) :
    HasOneOwner S (db.apply w).rows ownerId anonymousSessionId :=
  howner.congr (h.rows_of_ne (hS.trans_le h.key).ne) fun _ _ => h.rows_of_some

/-- **The commit of the recorder.** -/
lemma Recording.commit (h : Recording S c bound entry rows₀ k row w db) (hS : S < bound)
    (hc : c < bound) (hinv : UsageInvariant S c db.rows) :
    UsageGuar S c bound entry True log db.rows (db.apply w).rows
      ∧ UsageInvariant S c (db.apply w).rows := by
  have hsession := h.rows_of_ne (hS.trans_le h.key).ne
  have hchat := h.rows_of_ne (hc.trans_le h.key).ne
  have hexists : SessionExists S db.rows → SessionExists S (db.apply w).rows := by
    rintro ⟨session, hs⟩
    exact ⟨session, hsession.trans hs⟩
  have howner : ∀ k r, (db.apply w).rows k = some r → r.isTracked S true = true →
      SessionExists S (db.apply w).rows := by
    intro k' r hr htracked
    rcases h.row_cases hr with ⟨-, rfl⟩ | hr
    · rcases h.owner with ⟨hs, -⟩ | ⟨-, hnone, -⟩
      · exact hexists hs
      · simp [Row.isTracked, Row.isChatOfAnonymous, Row.isUsageOfAnonymous, hnone] at htracked
    · exact hexists (hinv.owner k' r hr htracked)
  refine ⟨⟨.inl hsession, fun _ _ => h.rows_of_some, fun _ => .inl hchat, fun k' hk' => ?_,
    fun k' r hr hp => ?_, howner, fun hnot => absurd trivial hnot, fun hnot => absurd trivial hnot,
    fun k' r ownerId hk' hr hid => .inl ?_⟩, fun r hr => ?_, howner, fun r hr => ?_⟩
  · obtain ⟨row', hrow', hentry, howner'⟩ := hk'
    exact ⟨row', h.rows_of_some hrow', hentry, h.ownerKept hS howner'⟩
  · rcases h.row_cases hr with ⟨-, rfl⟩ | hr
    · cases hp
    · exact ⟨r, hr, hp⟩
  · rcases h.row_cases hr with ⟨-, rfl⟩ | hr
    · have hid' : row.userId = some ownerId := hid
      obtain ⟨-, chat, hrow, hsame⟩ := h.chat (by rw [hid']; rfl)
      exact ⟨c, _, .inl rfl, hrow, hsame.trans hid⟩
    · exact ⟨k', r, hk', hr, hid⟩
  · rw [hsession] at hr
    exact hexists (hinv.session r hr)
  · rw [hchat] at hr
    obtain ⟨chat, rfl, hone⟩ := hinv.chat r hr
    exact ⟨chat, rfl, h.ownerKept hS hone⟩

/-- **One row is recorded.** -/
lemma Recording.once (h : Recording S c bound entry rows₀ k row w db) (hS : S < bound) :
    RecordedOnce S bound entry rows₀ (db.apply w).rows := by
  refine ⟨k, h.key, ⟨row, h.rows_self, h.recorded, h.ownerKept hS h.owner⟩, fun k' => ?_⟩
  by_cases hk : k' = k
  · subst hk
    simp [isUsageAt, h.rows_self]
  · rw [isUsageAt, h.rows_of_ne hk, ← h.usageKeys k', isUsageAt, beq_false_of_ne hk, Bool.or_false]

lemma RecordedOnce.later {rows rows' : Rows Row} (h : RecordedOnce S bound entry rows₀ rows)
    (hrely : UsageRely S c entry True log rows rows') : RecordedOnce S bound entry rows₀ rows' := by
  obtain ⟨k, hk, hrecorded, hkeys⟩ := h
  exact ⟨k, hk, hrely.recorded k hrecorded, fun k' =>
    (hrely.usageKeys trivial k').trans (hkeys k')⟩

end Recorder

/-! ## Runs

The recorder is client `0`.  The others are any number of transfers of the session and deletions of
chats. -/

/-- A transaction next to the recorder. -/
inductive UsageCall where
  | SignUp (user : User) (input : SessionInput)
  | SignIn (email : String) (verifies : String → Bool) (input : SessionInput)
  | DeleteChat (principal : RequestPrincipal) (chatId : Uuid)

/-- The statements of a call, for transfers of one session. -/
def UsageCall.statements (service : TokenService) (anonymousSessionId : Uuid) : UsageCall → Statements
  | SignUp user input => signUp service user (some anonymousSessionId) input
  | SignIn email verifies input => signIn service email verifies (some anonymousSessionId) input
  | DeleteChat principal chatId => deleteChat principal chatId

/-- A call of the model for a chat, that is to be recorded. -/
structure ModelCall where
  chatId : Uuid
  modelId : Uuid
  kind : UsageKind
  inputTokens : Option ℤ
  outputTokens : Option ℤ

/-- `record`, for an anonymous principal. -/
def ModelCall.statements (call : ModelCall) (anonymousSessionId : Uuid) : Statements :=
  recordChatUsage (.Anonymous anonymousSessionId) call.chatId call.modelId call.kind call.inputTokens
    call.outputTokens

def ModelCall.entry (call : ModelCall) : UsageLog where
  userId := none
  anonymousSessionId := none
  chatId := none
  modelId := call.modelId
  kind := call.kind
  inputTokens := Stores.toTokenCount call.inputTokens
  outputTokens := Stores.toTokenCount call.outputTokens

/-- The contracts of the recorder and of the others. -/
def usageContracts {n : ℕ} (S c : Uuid) (entry : UsageLog) (rows : List (Option Row))
    (i : Fin (n + 1)) : Contract Row Statement Reply :=
  usageContract S c rows.length entry (Db.ofRows rows).rows (i = 0)

section Runs

variable {n : ℕ} {service : TokenService} {rows : List (Option Row)} {S c : Uuid} {entry : UsageLog}
  {call : ModelCall} {calls : Fin n → UsageCall} {sys mid : Sys (n + 1) Row Statement Reply}
  {i : Fin (n + 1)} {a : Action}

/-- The chat and the new usage rows belong to users who signed in with the session. -/
def UsersSignedIn (S c : Uuid) (bound : ℕ) (sys : Sys (n + 1) Row Statement Reply) : Prop :=
  ∀ k r userId, k = c ∨ bound ≤ k → sys.db.rows k = some r → r.userOf = some userId →
    ∃ i, .CommitSignIn userId (some S) ∈ (sys.procs i).log

lemma UsersSignedIn.step (h : UsersSignedIn S c rows.length mid)
    (hsecure : Secure accountSchema (UsageInvariant S c) (usageContracts S c entry rows) mid)
    (hmoved : Moved accountSchema mid i a sys) : UsersSignedIn S c rows.length sys := by
  obtain ⟨hlogs, hrows⟩ := hsecure.moved hmoved
  have hbefore : ∀ k r userId, k = c ∨ rows.length ≤ k → mid.db.rows k = some r →
      r.userOf = some userId → ∃ i, .CommitSignIn userId (some S) ∈ (sys.procs i).log := by
    intro k r userId hk hr howner
    obtain ⟨j, hj⟩ := h k r userId hk hr howner
    exact ⟨j, hlogs j hj⟩
  intro k r userId hk hr howner
  rcases hrows with hsame | ⟨label, hlabel, hguar⟩
  · rw [hsame] at hr
    exact hbefore k r userId hk hr howner
  · rcases hguar.owners k r userId hk hr howner with ⟨k', r', hk', hr', howner'⟩ | hhead
    · exact hbefore k' r' userId hk' hr' howner'
    · cases hhead
      exact ⟨i, hlabel⟩

end Runs

/-! ## Usage that is lost

One session with a chat whose reply is being recorded while its user signs in. -/

/-- A user, a session, a model and a chat of the session. -/
def sessionWithChat : List (Option Row) :=
  [some (.User ⟨"user@example.com", "hash", none⟩), some (.AnonymousSession ⟨"token", 100⟩),
    some (.Model ⟨2, "model", 4096, true⟩), some (.Chat ⟨3, none, some 1, js "Hello", 2, 10⟩)]

/-- A reply for the chat. -/
def replyCall : ModelCall := ⟨3, 2, .Chat, some 12, some 34⟩

end RagStack
