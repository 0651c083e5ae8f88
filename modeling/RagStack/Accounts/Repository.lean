import RagStack.Accounts.Schema

/-!
# `auth.repository.ts`, `usage.repository.ts` and the writers of chats

The repository methods as programs of statements, in the order of the source.  A method that runs
inside somebody else's transaction takes the rest of the transaction as its continuation `next`.  A
method that is one statement of its own commits at once.

A program is a tree.  Each of its nodes is one statement, and the branches below it are what the
method does with the answer, so the control flow of the source (the `if` after a `findUnique`, the
loop over a family, the exception when an `updateMany` has counted no row) is ordinary Lean code
between the nodes.  Between any two nodes other calls may act.  That is why nothing is merged here:
two statements that the source sends one after the other are two nodes, even where one would do.

Each write is labelled with the statement it is, so that a log of the transaction can be read off.
What a program cannot compute by itself (the clock, random bytes, what the JWT service signs) is an
argument.
-/

namespace RagStack

/-- A token as it is sent to the client. -/
abbrev Token : Type := String

/-- The secret a token is signed with. -/
inductive TokenType where
  | Access
  | Refresh
  deriving Repr, DecidableEq

structure TokenClaims where
  sub : Uuid
  sessionId : Uuid
  jti : Uuid
  type : TokenType
  deriving Repr, DecidableEq

structure AuthTokens where
  accessToken : Token
  refreshToken : Token
  deriving Repr, DecidableEq

/-- The JWT service and `hashToken`.  `verify` answers for a token that is signed with the secret
of its type and has not expired. -/
structure TokenService where
  sign : TokenType → TokenClaims → Token
  verify : TokenType → Token → Option TokenClaims
  hashToken : Token → String

/-- What a request contributes to a new session: its metadata, `getRefreshExpiry()`, the current
time, the random placeholder of the hash and the random `jti` of the access token. -/
structure SessionInput where
  userAgent : Option String
  ipHash : Option String
  expiresAt : Timestamp
  now : Timestamp
  placeholder : String
  accessJti : Uuid
  deriving Repr, DecidableEq

/-- The statements that a transaction has executed.  A commit says what it is the commit of, so that
the log of a client tells what it has done. -/
inductive Statement where
  | FindUserByEmail
  | CreateUser
  | FindAnonymousChats
  | MoveChats
  | MoveUsage
  | DeleteAnonymousSession
  | CreateSession
  | SetRefreshTokenHash
  | CommitSignIn (userId : Uuid) (anonymousSessionId : Option Uuid)
  | FindSessionWithUser
  | FindReplacement
  | RevokeFamily
  | ClaimSession (sessionId replacementId : Uuid)
  | CommitRotation (sessionId replacementId : Uuid)
  | RevokeSession
  | RevokeAllSessions
  | RevokeOwnedSession
  | CommitRevocation
  | CreateChat
  | CreateMessage
  | CommitChat
  | FindOwnedChat
  | DeleteChat
  | CommitDeletion
  | FindChat
  | CreateUsage
  | CommitUsage
  deriving Repr, DecidableEq

/-- How a call ends: what it returns, or the exception it throws deliberately.  One that fails in
the database has no reply. -/
inductive Reply where
  | Authenticated (userId : Uuid) (chatIds : List Uuid) (tokens : AuthTokens)
  | Refreshed (replacementId : Uuid) (tokens : AuthTokens)
  | Unauthorized (message : String)
  | NotFound (message : String)
  | CreatedChat (chatId : Uuid) (messageId : Option Uuid)
  | Finished
  deriving Repr, DecidableEq

/-- A call of the API, as the database sees it. -/
abbrev Statements : Type := Prog Row Statement Reply

/-! ## Sessions

A rotation is three statements in one transaction: the replacement is inserted, its hash is set, and
the old session is claimed by an UPDATE that counts.  If it has counted nothing, somebody else was
faster and the transaction is rolled back. -/

def createTokens (service : TokenService) (sessionId userId refreshJti accessJti : Uuid) :
    AuthTokens where
  accessToken := service.sign .Access ⟨userId, sessionId, accessJti, .Access⟩
  refreshToken := service.sign .Refresh ⟨userId, sessionId, refreshJti, .Refresh⟩

/-- The row `createSessionRecord` inserts; `revoked_at` and `replaced_by_session_id` are NULL. -/
def newSession (userId : Uuid) (input : SessionInput) (id : Uuid) : AuthSession where
  userId := userId
  refreshTokenHash := input.placeholder
  refreshJti := id
  userAgent := input.userAgent
  ipHash := input.ipHash
  expiresAt := input.expiresAt
  revokedAt := none
  replacedBySessionId := none
  lastUsedAt := input.now

/-- A change of the columns of a session. -/
def Row.mapSession (f : RagStack.AuthSession → RagStack.AuthSession) : Row → Row
  | AuthSession session => AuthSession (f session)
  | r => r

/-- `data: { refresh_token_hash }`. -/
def setRefreshTokenHash (hash : String) : Row → Row :=
  Row.mapSession fun session => { session with refreshTokenHash := hash }

/-- `data: { revoked_at }`. -/
def setRevokedAt (now : Timestamp) : Row → Row :=
  Row.mapSession fun session => { session with revokedAt := some now }

/-- `data: { revoked_at, replaced_by_session_id, last_used_at }`. -/
def setReplacedBy (now : Timestamp) (replacementId : Uuid) : Row → Row :=
  Row.mapSession fun session => { session with
    revokedAt := some now, replacedBySessionId := some replacementId, lastUsedAt := now }

/-- `where: { revoked_at: null }`. -/
def Row.isActiveSession : Row → Bool
  | AuthSession session => session.revokedAt.isNone
  | _ => false

/-- `where: { user_id, revoked_at: null }`. -/
def Row.isActiveSessionOf (userId : Uuid) : Row → Bool
  | AuthSession session => session.userId == userId && session.revokedAt.isNone
  | _ => false

def createSessionRecord (service : TokenService) (userId : Uuid) (input : SessionInput)
    (next : Uuid → AuthTokens → Statements) : Statements :=
  .insert .CreateSession (fun id => .AuthSession (newSession userId input id)) fun id =>
    let tokens := createTokens service id userId id input.accessJti
    .update .SetRefreshTokenHash (fun k r => k == id && r.isAuthSession)
      (setRefreshTokenHash (service.hashToken tokens.refreshToken)) fun count =>
        if count = 0 then .failed else next id tokens

def rotateSession (service : TokenService) (sessionId : Uuid) (session : AuthSession)
    (input : SessionInput) : Statements :=
  createSessionRecord service session.userId input fun replacementId tokens =>
    .update (.ClaimSession sessionId replacementId) (fun k r => k == sessionId && r.isActiveSession)
      (setReplacedBy input.now replacementId) fun count =>
        if count = 1 then
          .commit (.CommitRotation sessionId replacementId) (.done (.Refreshed replacementId tokens))
        else .rollback (.done (.Unauthorized "Refresh token has already been used."))

/-- `revokeSession`, then `next`. -/
def revokeSession (sessionId : Uuid) (now : Timestamp) (next : Statements) : Statements :=
  .update .RevokeSession (fun k r => k == sessionId && r.isActiveSession) (setRevokedAt now)
    fun _ => .commit .CommitRevocation next

def revokeAllSessions (userId : Uuid) (now : Timestamp) (next : Statements) : Statements :=
  .update .RevokeAllSessions (fun _ r => r.isActiveSessionOf userId) (setRevokedAt now)
    fun _ => .commit .CommitRevocation next

def revokeOwnedSession (userId sessionId : Uuid) (now : Timestamp) (next : Statements) :
    Statements :=
  .update .RevokeOwnedSession (fun k r => k == sessionId && r.isActiveSessionOf userId)
    (setRevokedAt now) fun _ => .commit .CommitRevocation next

/-- `replaced_by_session_id` of a row. -/
def replacementOf (rows : Key → Option Row) (id : Uuid) : Option Uuid :=
  match rows id with
  | some (.AuthSession session) => session.replacedBySessionId
  | _ => none

/-- The loop of `revokeRotationFamily`.  `room` is how many more ids it may add to those it has;
each turn reads one session by itself, so that other calls may act between the turns. -/
def findFamily (next : List Uuid → Statements) : ℕ → List Uuid → Option Uuid → Statements
  | 0, ids, _ | _ + 1, ids, none => next ids
  | room + 1, ids, some nextId =>
      .read .FindReplacement fun db =>
        findFamily next room (ids ++ [nextId]) (replacementOf db.rows nextId)

/-- The bound in the condition of the loop. -/
def maxFamilyIds : ℕ := 100

def revokeRotationFamily (sessionId : Uuid) (session : AuthSession) (now : Timestamp)
    (next : Statements) : Statements :=
  findFamily
    (fun ids => .update .RevokeFamily (fun k r => ids.contains k && r.isAuthSession)
      (setRevokedAt now) fun _ => .commit .CommitRevocation next)
    (maxFamilyIds - 1) [sessionId] session.replacedBySessionId

/-! ## The transfer of an anonymous session

Chats, usage rows, then the session itself, in the transaction of the sign-in. -/

/-- `where: { anonymous_session_id }` on chats. -/
def Row.isChatOfAnonymous (anonymousSessionId : Uuid) : Row → Bool
  | Chat chat => chat.anonymousSessionId == some anonymousSessionId
  | _ => false

/-- `where: { anonymous_session_id }` on the usage log. -/
def Row.isUsageOfAnonymous (anonymousSessionId : Uuid) : Row → Bool
  | UsageLog row => row.anonymousSessionId == some anonymousSessionId
  | _ => false

/-- `data: { anonymous_session_id: null, user_id }`. -/
def setOwner (userId : Uuid) : Row → Row
  | .Chat chat => .Chat { chat with anonymousSessionId := none, userId := some userId }
  | .UsageLog row => .UsageLog { row with anonymousSessionId := none, userId := some userId }
  | r => r

/-- `transferAnonymousChats`, if there is an anonymous session to transfer. -/
def transferAnonymousChats (anonymousSessionId : Option Uuid) (userId : Uuid)
    (next : List Uuid → Statements) : Statements :=
  match anonymousSessionId with
  | none => next []
  | some anonymousSessionId =>
      .read .FindAnonymousChats fun db =>
        let chatIds := db.keysWhere fun _ r => r.isChatOfAnonymous anonymousSessionId
        .update .MoveChats (fun _ r => r.isChatOfAnonymous anonymousSessionId) (setOwner userId)
          fun _ => .update .MoveUsage (fun _ r => r.isUsageOfAnonymous anonymousSessionId)
            (setOwner userId) fun _ =>
              .delete .DeleteAnonymousSession Row.isAnonymousSession anonymousSessionId fun _ =>
                next chatIds

def createSessionWithTransfer (service : TokenService) (userId : Uuid)
    (anonymousSessionId : Option Uuid) (input : SessionInput) : Statements :=
  transferAnonymousChats anonymousSessionId userId fun chatIds =>
    createSessionRecord service userId input fun _ tokens =>
      .commit (.CommitSignIn userId anonymousSessionId)
        (.done (.Authenticated userId chatIds tokens))

def createUserWithSession (service : TokenService) (user : User)
    (anonymousSessionId : Option Uuid) (input : SessionInput) : Statements :=
  .insert .CreateUser (fun _ => .User user) fun userId =>
    createSessionWithTransfer service userId anonymousSessionId input

/-! ## Chats and usage

The two writers that a transfer has to fear.  `createChat` is one transaction; the recorder reads
the chat and inserts the usage row in two steps that are not. -/

/-- `ChatsRepository.createChat`. -/
def createChatRecord (principal : RequestPrincipal) (title : JsString) (selectedModelId : Uuid)
    (firstPrompt : Option JsString) (now : Timestamp) : Statements :=
  .insert .CreateChat
    (fun id => .Chat
      { id, userId := (ownerColumns principal).1, anonymousSessionId := (ownerColumns principal).2,
        title, selectedModelId, lastMessageAt := now })
    fun chatId =>
      match JsString.truthy firstPrompt with
      | none => .commit .CommitChat (.done (.CreatedChat chatId none))
      | some prompt =>
          .insert .CreateMessage
            (fun id => .Message ((Stores.promptDraft chatId prompt).message id now))
            fun messageId => .commit .CommitChat (.done (.CreatedChat chatId (some messageId)))

/-- `ChatsService.delete`: the ownership check, then `deleteChat`. -/
def deleteChat (principal : RequestPrincipal) (chatId : Uuid) : Statements :=
  .read .FindOwnedChat fun db =>
    match db.rows chatId with
    | some (.Chat chat) =>
        if ownedBy principal chat then
          .delete .DeleteChat Row.isChat chatId fun count =>
            if count = 0 then .failed else .commit .CommitDeletion (.done .Finished)
        else .done (.NotFound "Chat not found.")
    | _ => .done (.NotFound "Chat not found.")

/-- The row that `UsageRepository.create` inserts, for what it found of the chat. -/
def usageRow (data : UsageLog) (chat : Option Chat) : UsageLog :=
  match chat with
  | some chat =>
      if data.userId.isNone && data.anonymousSessionId.isNone then data
      else { data with userId := chat.userId, anonymousSessionId := chat.anonymousSessionId }
  | none => { data with chatId := none }

/-- The chat that `UsageRepository.create` finds. -/
def findChat (rows : Key → Option Row) (chatId : Option Uuid) : Option Chat :=
  chatId.bind fun id => match rows id with
    | some (.Chat chat) => some chat
    | _ => none

/-- `UsageRepository.create`. -/
def createUsage (data : UsageLog) : Statements :=
  .read .FindChat fun db =>
    .insert .CreateUsage (fun _ => .UsageLog (usageRow data (findChat db.rows data.chatId))) fun _ =>
      .commit .CommitUsage (.done .Finished)

/-- `UsageRecorderService.record` for a call made for a chat. -/
def recordChatUsage (principal : RequestPrincipal) (chatId modelId : Uuid) (kind : UsageKind)
    (inputTokens outputTokens : Option ℤ) : Statements :=
  createUsage
    { userId := (ownerColumns principal).1, anonymousSessionId := (ownerColumns principal).2,
      chatId := some chatId, modelId, kind, inputTokens := Stores.toTokenCount inputTokens,
      outputTokens := Stores.toTokenCount outputTokens }

end RagStack
