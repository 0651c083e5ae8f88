import RagStack.Accounts.Repository

/-!
# `auth.service.ts`

The calls of the authentication service, each with the statements it sends.  Cookies, the password
hasher and the cache of chat histories are outside: they change no table.

A call of the service is more than its transaction.  `refresh` reads the session first, by a query
of its own, and decides from what it has read whether this is a rotation or the reuse of an old
token.  By the time the transaction begins that answer may be out of date, and the transaction has
to find out for itself.  The same holds for `signIn`, which looks the user up before it opens a
transaction with a session for that user.  Both are modelled with all their reads, since what
happens between a read and the write that relies on it is what the theorems about interleavings are
about.

`AuthCall` collects the calls, so that a system of clients is a function from clients to calls.
Every later file on accounts takes its calls from here, or adds its own next to them.
-/

namespace RagStack

/-- `signUp`, for a normalized email and a hashed password. -/
def signUp (service : TokenService) (user : User) (anonymousSessionId : Option Uuid)
    (input : SessionInput) : Statements :=
  createUserWithSession service user anonymousSessionId input

/-- `signIn`; `verifies` is the answer of the password hasher. -/
def signIn (service : TokenService) (email : String) (verifies : String → Bool)
    (anonymousSessionId : Option Uuid) (input : SessionInput) : Statements :=
  .read .FindUserByEmail fun db =>
    let found := (db.keysWhere fun _ r => match r with
      | .User user => user.email == email
      | _ => false).head?
    match found.bind fun userId => (db.rows userId).map fun r => (userId, r) with
    | some (userId, .User user) =>
        if verifies user.passwordHash then
          createSessionWithTransfer service userId anonymousSessionId input
        else .done (.Unauthorized "Invalid email or password.")
    | _ => .done (.Unauthorized "Invalid email or password.")

/-- `verifyToken` for refresh tokens. -/
def verifyRefreshToken (service : TokenService) (rawToken : Token) : Option TokenClaims :=
  (service.verify .Refresh rawToken).filter fun claims => claims.type == .Refresh

def validateRefreshSession (service : TokenService) (row : Option Row) (claims : TokenClaims)
    (rawToken : Token) : Option AuthSession :=
  match row with
  | some (.AuthSession session) =>
      if session.refreshJti == claims.jti
          && session.refreshTokenHash == service.hashToken rawToken then some session
      else none
  | _ => none

/-- `refresh`, once the session is validated.  An active session is rotated, or revoked if it has
expired.  One that was revoked by a rotation is a reused token, and its whole family is revoked; one
that was revoked otherwise is merely refused. -/
def refreshSession (service : TokenService) (sessionId : Uuid) (session : AuthSession)
    (input : SessionInput) : Statements :=
  if session.revokedAt.isSome then
    match session.replacedBySessionId with
    | some _ =>
        revokeRotationFamily sessionId session input.now
          (.done (.Unauthorized "Refresh token reuse detected."))
    | none => .done (.Unauthorized "Refresh token reuse detected.")
  else if session.expiresAt ≤ input.now then
    revokeSession sessionId input.now (.done (.Unauthorized "Refresh session has expired."))
  else rotateSession service sessionId session input

/-- `refresh`. -/
def refreshCall (service : TokenService) (rawToken : Token) (input : SessionInput) : Statements :=
  match verifyRefreshToken service rawToken with
  | none => .done (.Unauthorized "Refresh token is invalid.")
  | some claims =>
      .read .FindSessionWithUser fun db =>
        match validateRefreshSession service (db.rows claims.sessionId) claims rawToken with
        | none => .done (.Unauthorized "Refresh session is invalid.")
        | some session => refreshSession service claims.sessionId session input

def signOut (sessionId : Uuid) (now : Timestamp) : Statements :=
  revokeSession sessionId now (.done .Finished)

def signOutAll (userId : Uuid) (now : Timestamp) : Statements :=
  revokeAllSessions userId now (.done .Finished)

/-- `revokeOwnedSession`. -/
def revokeOwned (userId sessionId : Uuid) (now : Timestamp) : Statements :=
  revokeOwnedSession userId sessionId now (.done .Finished)

/-- A call of the authentication service, with what its request contributes.  Every client of a
system makes one call. -/
inductive AuthCall where
  | SignUp (user : User) (anonymousSessionId : Option Uuid) (input : SessionInput)
  | SignIn (email : String) (verifies : String → Bool) (anonymousSessionId : Option Uuid)
      (input : SessionInput)
  | Refresh (rawToken : Token) (input : SessionInput)
  | SignOut (sessionId : Uuid) (now : Timestamp)
  | SignOutAll (userId : Uuid) (now : Timestamp)
  | RevokeOwnedSession (userId sessionId : Uuid) (now : Timestamp)

/-- The statements of a call, from its first read to its answer. -/
def AuthCall.statements (service : TokenService) : AuthCall → Statements
  | SignUp user anonymousSessionId input => signUp service user anonymousSessionId input
  | SignIn email verifies anonymousSessionId input =>
      signIn service email verifies anonymousSessionId input
  | Refresh rawToken input => refreshCall service rawToken input
  | SignOut sessionId now => signOut sessionId now
  | SignOutAll userId now => signOutAll userId now
  | RevokeOwnedSession userId sessionId now => revokeOwned userId sessionId now

end RagStack
