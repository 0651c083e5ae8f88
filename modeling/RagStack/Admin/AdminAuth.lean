import RagStack.Accounts.Repository

/-!
# Admin sessions

`admin-sessions.repository.ts`, `admin-accounts.repository.ts` and `admin-auth.service.ts`, as
programs of statements over the tables `admin` and `admin_session`.

Admins have sessions like users, with another rotation.  There is no pointer to the replacement, so
nothing connects the sessions of one device, and a reused token is refused without consequences.
The two statements of a rotation come in the other order as well.  Here the old session is claimed
first, by an UPDATE that finds it unrevoked and counts, and the new one is inserted behind it.  The
UPDATE takes the lock of the old session, so a second rotation has to wait until the first has
ended, and then finds the session revoked.

A request of an admin passes `AdminAuthGuard`, which verifies the access token and looks the session
up.  A token carries its claims with types that nobody has checked, and `verify` does that, so this
part is modelled from the payload on.  The signature and the audience are the business of the JWT
service, which is a parameter.

Each call reads the clock where the source does: when a token is verified, when a session is
checked, and when rows are written.

As for users, `refresh_jti` is generated together with `id` and gets the same number.

* `AdminRow`, `adminSchema` — the tables.
* `createRecord`, `rotate`, `revoke`, `findActive` — the repository.
* `AdminTokenService` — the JWTs of admins; a token carries its claims, and it expires.
* `AdminCall.statements` — the calls.  Requests of an admin pass `AdminAuthGuard` first.

As for users, `refresh_jti` is generated together with `id` and gets the same number.
-/

namespace RagStack

/-! ## The tables

Deleting an admin would delete the sessions, but no call here deletes one. -/

/-- A row of `admin`. -/
structure Admin where
  email : String
  passwordHash : String
  displayName : Option String
  lastSignInAt : Option Timestamp
  deriving Repr, DecidableEq

/-- A row of `admin_session`. -/
structure AdminSession where
  adminId : Uuid
  refreshTokenHash : String
  refreshJti : Uuid
  expiresAt : Timestamp
  revokedAt : Option Timestamp
  lastUsedAt : Timestamp
  deriving Repr, DecidableEq

/-- A row of one of the two tables. -/
inductive AdminRow where
  | Admin (admin : Admin)
  | AdminSession (session : AdminSession)
  deriving Repr, DecidableEq

namespace AdminRow

def isAdmin : AdminRow → Bool
  | Admin _ => true
  | _ => false

def isAdminSession : AdminRow → Bool
  | AdminSession _ => true
  | _ => false

/-- The foreign key, `onDelete: Cascade`. -/
def references : AdminRow → List (Key × (AdminRow → Bool))
  | AdminSession session => [(session.adminId, isAdmin)]
  | Admin _ => []

def clash : AdminRow → AdminRow → Bool
  | Admin a, Admin b => a.email == b.email
  | AdminSession a, AdminSession b =>
      a.refreshTokenHash == b.refreshTokenHash || a.refreshJti == b.refreshJti
  | _, _ => false

/-- `where: { revoked_at: null }`. -/
def isUnrevoked : AdminRow → Bool
  | AdminSession session => session.revokedAt.isNone
  | _ => false

/-- A change of the columns of a session. -/
def mapSession (f : RagStack.AdminSession → RagStack.AdminSession) : AdminRow → AdminRow
  | AdminSession session => AdminSession (f session)
  | r => r

/-- A change of the columns of an admin. -/
def mapAdmin (f : RagStack.Admin → RagStack.Admin) : AdminRow → AdminRow
  | Admin admin => Admin (f admin)
  | r => r

end AdminRow

/-- The two tables: an email belongs to one admin, a `refresh_jti` and a token hash to one session,
and sessions go with their admin. -/
def adminSchema : Schema AdminRow where
  references := AdminRow.references
  cascades := AdminRow.references
  setNull _ r := r
  depth := 1
  clash := AdminRow.clash

/-! ## Tokens

A token is given by what the JWT service says of it, so that tampered and expired ones are among the
inputs. -/

structure AdminTokenClaims where
  sub : Uuid
  sessionId : Uuid
  jti : Uuid
  type : TokenType
  deriving Repr, DecidableEq

/-- What a signed token carries.  The types of its claims are not known. -/
structure AdminTokenPayload where
  sub : Option Uuid
  sessionId : Option Uuid
  jti : Option Uuid
  type : Option TokenType
  deriving Repr, DecidableEq

structure AdminTokens where
  accessToken : Token
  refreshToken : Token
  deriving Repr, DecidableEq

/-- The JWT service with the secret and the audience of admins, and `hashToken`.  `payload` answers
for a token with a valid signature and audience. -/
structure AdminTokenService where
  sign : Timestamp → AdminTokenClaims → Token
  payload : Token → Option AdminTokenPayload
  expired : Token → Timestamp → Bool
  hashToken : Token → String

namespace AdminTokenService

variable (service : AdminTokenService)

def verify (rawToken : Token) (type : TokenType) (now : Timestamp) : Option AdminTokenClaims :=
  if service.expired rawToken now then none
  else match service.payload rawToken with
    | some ⟨some sub, some sessionId, some jti, some type'⟩ =>
        if type' = type then some ⟨sub, sessionId, jti, type⟩ else none
    | _ => none

/-- The session that a token names. -/
def sessionOf (rawToken : Token) : Option Uuid := (service.payload rawToken).bind (·.sessionId)

/-- `credentials`, with the random `jti` of the access token. -/
def credentials (now : Timestamp) (sessionId adminId refreshJti accessJti : Uuid) : AdminTokens where
  accessToken := service.sign now ⟨adminId, sessionId, accessJti, .Access⟩
  refreshToken := service.sign now ⟨adminId, sessionId, refreshJti, .Refresh⟩

end AdminTokenService

/-! ## Calls and their answers -/

/-- What a request contributes: the times at which a token is verified, a session is checked and
rows are written, `refreshExpiry()`, the random placeholder of the hash and the random `jti`. -/
structure AdminInput where
  verifiedAt : Timestamp
  checkedAt : Timestamp
  now : Timestamp
  expiresAt : Timestamp
  placeholder : String
  accessJti : Uuid
  deriving Repr, DecidableEq

structure AdminProfile where
  id : Uuid
  email : String
  displayName : Option String
  deriving Repr, DecidableEq

structure AdminPrincipal where
  adminId : Uuid
  adminSessionId : Uuid
  deriving Repr, DecidableEq

inductive AdminStatement where
  | FindAdminByEmail
  | CreateSession
  | SetRefreshTokenHash
  | CommitSession
  | TouchSignIn
  | CommitSignIn
  | FindSession
  | FindAdmin
  | ClaimSession (sessionId : Uuid)
  | CommitRotation (sessionId : Uuid)
  | FindActiveSession
  | RevokeSession (sessionId : Uuid)
  | CommitRevocation (sessionId : Uuid)
  deriving Repr, DecidableEq

inductive AdminReply where
  | SignedIn (admin : AdminProfile) (tokens : AdminTokens)
  | Refreshed (admin : AdminProfile) (tokens : AdminTokens)
  | Authenticated (principal : AdminPrincipal)
  | SignedOut
  | Unauthorized (message : String)
  deriving Repr, DecidableEq

/-- A call, as the database sees it. -/
abbrev AdminStatements : Type := Prog AdminRow AdminStatement AdminReply

def toAdminProfile (id : Uuid) (admin : Admin) : AdminProfile := ⟨id, admin.email, admin.displayName⟩

/-! ## The repository

Programs with the rest of the call as a continuation, as for users. -/

/-- The row that `createRecord` inserts. -/
def newAdminSession (adminId : Uuid) (input : AdminInput) (id : Uuid) : AdminSession where
  adminId := adminId
  refreshTokenHash := input.placeholder
  refreshJti := id
  expiresAt := input.expiresAt
  revokedAt := none
  lastUsedAt := input.now

def createRecord (service : AdminTokenService) (adminId : Uuid) (input : AdminInput)
    (next : AdminTokens → AdminStatements) : AdminStatements :=
  .insert .CreateSession (fun id => .AdminSession (newAdminSession adminId input id)) fun id =>
    let tokens := service.credentials input.now id adminId id input.accessJti
    .update .SetRefreshTokenHash (fun k r => k == id && r.isAdminSession)
      (AdminRow.mapSession fun session =>
        { session with refreshTokenHash := service.hashToken tokens.refreshToken })
      fun count => if count = 0 then .failed else next tokens

/-- `rotate`: revoke, then create. -/
def rotate (service : AdminTokenService) (sessionId adminId : Uuid) (input : AdminInput)
    (next : AdminTokens → AdminStatements) (rotatedError : AdminStatements) : AdminStatements :=
  .update (.ClaimSession sessionId) (fun k r => k == sessionId && r.isUnrevoked)
    (AdminRow.mapSession fun session =>
      { session with revokedAt := some input.now, lastUsedAt := input.now })
    fun count =>
      if count = 1 then
        createRecord service adminId input fun tokens =>
          .commit (.CommitRotation sessionId) (next tokens)
      else .rollback rotatedError

def revoke (sessionId : Uuid) (input : AdminInput) (next : AdminStatements) : AdminStatements :=
  .update (.RevokeSession sessionId) (fun k r => k == sessionId && r.isUnrevoked)
    (AdminRow.mapSession fun session => { session with revokedAt := some input.now })
    fun _ => .commit (.CommitRevocation sessionId) next

def findActive (rows : Key → Option AdminRow) (sessionId adminId : Uuid) (now : Timestamp) :
    Option AdminPrincipal :=
  match rows sessionId with
  | some (.AdminSession session) =>
      if session.adminId = adminId ∧ session.revokedAt = none ∧ now < session.expiresAt then
        some ⟨session.adminId, sessionId⟩
      else none
  | _ => none

/-! ## The service

The reads before a transaction are made by queries of their own, and may be out of date when it
begins. -/

/-- `signIn`, for a normalized email; `verifies` is the answer of the password hasher. -/
def signInAdmin (service : AdminTokenService) (email : String) (verifies : String → Bool)
    (input : AdminInput) : AdminStatements :=
  .read .FindAdminByEmail fun db =>
    let found := (db.keysWhere fun _ r => match r with
      | .Admin admin => admin.email == email
      | _ => false).head?
    match found.bind fun id => (db.rows id).map fun r => (id, r) with
    | some (id, .Admin admin) =>
        if verifies admin.passwordHash then
          createRecord service id input fun tokens =>
            .commit .CommitSession
              (.update .TouchSignIn (fun k r => k == id && r.isAdmin)
                (AdminRow.mapAdmin fun admin => { admin with lastSignInAt := some input.now })
                fun count =>
                  if count = 0 then .failed
                  else .commit .CommitSignIn (.done (.SignedIn (toAdminProfile id admin) tokens)))
        else .done (.Unauthorized "Invalid email or password.")
    | _ => .done (.Unauthorized "Invalid email or password.")

/-- The condition under which `refresh` goes on with a session.  All its parts are checked on one
read of the row, and a failure of any of them has the same answer. -/
def refreshable (service : AdminTokenService) (rows : Key → Option AdminRow)
    (claims : AdminTokenClaims)
    (rawToken : Token) (now : Timestamp) : Option AdminSession :=
  match rows claims.sessionId with
  | some (.AdminSession session) =>
      if session.adminId ≠ claims.sub ∨ session.refreshJti ≠ claims.jti ∨ session.revokedAt.isSome
          ∨ session.expiresAt ≤ now ∨ session.refreshTokenHash ≠ service.hashToken rawToken then none
      else some session
  | _ => none

/-- `refresh`. -/
def refreshAdmin (service : AdminTokenService) (rawToken : Token) (input : AdminInput) :
    AdminStatements :=
  let invalid : AdminStatements := .done (.Unauthorized "Admin refresh token is invalid.")
  match service.verify rawToken .Refresh input.verifiedAt with
  | none => .done (.Unauthorized "Admin authentication is invalid.")
  | some claims =>
      .read .FindSession fun db =>
        match refreshable service db.rows claims rawToken input.checkedAt with
        | none => invalid
        | some session =>
            .read .FindAdmin fun db =>
              match db.rows session.adminId with
              | some (.Admin admin) =>
                  rotate service claims.sessionId session.adminId input (fun tokens =>
                    .done (.Refreshed (toAdminProfile session.adminId admin) tokens)) invalid
              | _ => invalid

/-- `authenticate`, then `next`. -/
def authenticate (service : AdminTokenService) (rawAccessToken : Token) (input : AdminInput)
    (next : AdminPrincipal → AdminStatements) : AdminStatements :=
  match service.verify rawAccessToken .Access input.verifiedAt with
  | none => .done (.Unauthorized "Admin authentication is invalid.")
  | some claims =>
      .read .FindActiveSession fun db =>
        match findActive db.rows claims.sessionId claims.sub input.checkedAt with
        | none => .done (.Unauthorized "Admin session is invalid.")
        | some principal => next principal

/-- A call of the admin API.  `Authenticate` is any request that only the guard is of interest of,
and a sign-out passes the guard like every other request. -/
inductive AdminCall where
  | SignIn (email : String) (verifies : String → Bool) (input : AdminInput)
  | Refresh (rawToken : Token) (input : AdminInput)
  | Authenticate (rawAccessToken : Token) (input : AdminInput)
  | SignOut (rawAccessToken : Token) (input : AdminInput)

def AdminCall.statements (service : AdminTokenService) : AdminCall → AdminStatements
  | SignIn email verifies input => signInAdmin service email verifies input
  | Refresh rawToken input => refreshAdmin service rawToken input
  | Authenticate rawAccessToken input =>
      authenticate service rawAccessToken input fun principal => .done (.Authenticated principal)
  | SignOut rawAccessToken input =>
      authenticate service rawAccessToken input fun principal =>
        revoke principal.adminSessionId input (.done .SignedOut)

/-- Calls of the admin API on a database, all of them before their first statements. -/
def adminSystem {n : ℕ} (service : AdminTokenService) (rows : List (Option AdminRow))
    (calls : Fin n → AdminCall) : Sys n AdminRow AdminStatement AdminReply :=
  Sys.start (Db.ofRows rows) fun i => (calls i).statements service

end RagStack
