import RagStack.Accounts.UsageLedger
import RagStack.Core.Constraints
import RagStack.Core.PastKeys

/-!
# The principals of requests

The middleware that finds the principal of a request, and the anonymous sessions it falls back to,
with all the other calls that touch accounts, chats and the usage log.

A visitor without an account has a cookie that names an anonymous session.  The middleware looks for
an access token first, and falls back to this cookie.  When the visitor signs in, the session is
transferred and deleted, and its cookie is worth nothing from then on.  In the meantime many
requests may be under way, some of which have found the session already.

What is shown is the life of one cookie in any such system.  It is good until it expires or a
sign-in or sign-up that carries the session succeeds.  That it is good so long needs that nobody
else deletes or changes the session, which is a walk through all calls.  That it is worth nothing
afterwards needs that the transfer has really deleted the session when it answers, and that no row
with its key comes back.  A request that begins after that answer cannot have the session as its
principal.  One that began before may, and is not promised anything.

`last_seen_at` is no column of the modelled row, so the UPDATE that touches a session changes
nothing; it fails if the session has gone.

* `createAnonymous`, `resolvePrincipal` — `anonymous-sessions.service.ts`.
* `usePrincipal`, `ensureAnonymous` — the middleware, and `request-principal.service.ts`.
* `SessionMove` — an anonymous session stays as it is until it is deleted.
* `anonymous_cookie_life` — a cookie is good until it expires or a sign-in or sign-up that carries
  the session succeeds; no request after that has the session as its principal.

`last_seen_at` is no column of the modelled row, so the UPDATE that touches a session changes
nothing; it fails if the session has gone.
-/

namespace RagStack

/-! ## The programs

Statements of the other calls are lifted into a larger set, so that one system can have both kinds
of clients. -/

/-- The statements next to those of the other calls. -/
inductive SessionStatement where
  | Called (statement : Statement)
  | CreateAnonymousSession
  | CommitAnonymousSession
  | FindActiveAccessSession
  | FindActiveByTokenHash
  | Touch
  | CommitTouch
  deriving Repr, DecidableEq

/-- How a call ends: as the call of a service, or with the principal of the request. -/
inductive SessionReply where
  | Called (reply : Reply)
  | Principal (principal : Option RequestPrincipal)
  deriving Repr, DecidableEq

/-- What a request asks of the database. -/
abbrev SessionStatements : Type := Prog Row SessionStatement SessionReply

/-- `AnonymousSessionsService.create`. -/
def createAnonymous (tokenHash : String) (expiresAt : Timestamp) : SessionStatements :=
  .insert .CreateAnonymousSession (fun _ => .AnonymousSession ⟨tokenHash, expiresAt⟩) fun id =>
    .commit .CommitAnonymousSession (.done (.Principal (some (.Anonymous id))))

/-- `where: { token_hash, expires_at: { gt: now } }`. -/
def Row.isActiveByTokenHash (tokenHash : String) (now : Timestamp) : Row → Bool
  | AnonymousSession session => session.tokenHash == tokenHash && decide (now < session.expiresAt)
  | _ => false

def findActiveByTokenHash (db : Db Row) (tokenHash : String) (now : Timestamp) : Option Uuid :=
  (db.keysWhere fun _ r => r.isActiveByTokenHash tokenHash now).head?

/-- `touch`, and the principal. -/
def touch (id : Uuid) : SessionStatements :=
  .update .Touch (fun k r => k == id && r.isAnonymousSession) (fun r => r) fun count =>
    if count = 0 then .failed
    else .commit .CommitTouch (.done (.Principal (some (.Anonymous id))))

def resolvePrincipal (tokenHash : String) (now : Timestamp) : SessionStatements :=
  .read .FindActiveByTokenHash fun db =>
    match findActiveByTokenHash db tokenHash now with
    | none => .done (.Principal none)
    | some id => touch id

/-- What the middleware reads of a request, the times at which it looks, and whether the lookup of
the access session throws. -/
structure PrincipalRequest where
  isAdminPath : Bool
  accessToken : Option Token
  accessLookupFails : Bool
  anonymousToken : Option Token
  now : Timestamp
  anonymousNow : Timestamp

/-- The second half of `use`: the anonymous cookie. -/
def useAnonymous (hashAnonymousToken : Token → String) (request : PrincipalRequest) :
    SessionStatements :=
  match request.anonymousToken with
  | some token => resolvePrincipal (hashAnonymousToken token) request.anonymousNow
  | none => .done (.Principal none)

/-- `RequestPrincipalMiddleware.use`.  An access token that is good decides; otherwise the anonymous
cookie is tried, also when looking the session up has failed. -/
def usePrincipal (service : TokenService) (hashAnonymousToken : Token → String)
    (request : PrincipalRequest) : SessionStatements :=
  if request.isAdminPath then .done (.Principal none)
  else
    match request.accessToken.bind (verifyAccessToken service) with
    | none => useAnonymous hashAnonymousToken request
    | some claims =>
        -- `resolveAccessPrincipal` catches whatever is thrown
        if request.accessLookupFails then useAnonymous hashAnonymousToken request
        else
          .read .FindActiveAccessSession fun db =>
            match findActiveAccessSession db.rows claims.sessionId claims.sub request.now with
            | some principal =>
                .done (.Principal (some (.Authenticated principal.userId principal.authSessionId)))
            | none => useAnonymous hashAnonymousToken request

def ensureAnonymous (principal : Option RequestPrincipal) (tokenHash : String)
    (expiresAt : Timestamp) : SessionStatements :=
  match principal with
  | some principal => .done (.Principal (some principal))
  | none => createAnonymous tokenHash expiresAt

/-- A call next to others: one of those that touch the ledger, a request that passes the middleware,
or one that opens an anonymous session. -/
inductive RequestCall where
  | Ledger (call : LedgerCall)
  | Use (request : PrincipalRequest)
  | EnsureAnonymous (principal : Option RequestPrincipal) (tokenHash : String)
      (expiresAt : Timestamp)

def RequestCall.statements (service : TokenService) (hashAnonymousToken : Token → String) :
    RequestCall → SessionStatements
  | Ledger call => (call.statements service).map .Called .Called
  | Use request => usePrincipal service hashAnonymousToken request
  | EnsureAnonymous principal tokenHash expiresAt => ensureAnonymous principal tokenHash expiresAt

/-- The call is a sign-in or a sign-up with this anonymous session. -/
def RequestCall.carries : RequestCall → Uuid → Prop
  | Ledger (.Account call), S => call.carries S
  | _, _ => False

instance : ∀ (call : RequestCall) (S : Uuid), Decidable (call.carries S)
  | .Ledger (.Account call), S => inferInstanceAs (Decidable (call.carries S))
  | .Ledger (.CreateChat ..), _ | .Ledger (.DeleteChat ..), _ | .Ledger (.Record ..), _
  | .Use _, _ | .EnsureAnonymous .., _ => inferInstanceAs (Decidable False)

/-- Calls on a database, with the statements of the services and those of the middleware in one set.
-/
def requestSystem {n : ℕ} (service : TokenService) (hashAnonymousToken : Token → String)
    (rows : List (Option Row)) (calls : Fin n → RequestCall) :
    Sys n Row SessionStatement SessionReply :=
  Sys.start (Db.ofRows rows) fun i => (calls i).statements service hashAnonymousToken

/-! ## How an anonymous session ends

Of one session only one thing can be said to change, that it is there. -/

/-- The row of the session `S` stays as it is, or goes where it may end. -/
def SessionMove (S : Uuid) (ends : Prop) (k : Key) (x y : Option Row) : Prop :=
  k = S → ∀ s, x = some (.AnonymousSession s) → y = x ∨ ends ∧ y = none

def sessionMoves (S : Uuid) (ends : Prop) : Evolution Row where
  Moves := SessionMove S ends
  same _ _ _ _ _ := .inl rfl
  trans k x r y h h' := by
    intro hk s hx
    rcases h hk s hx with hsame | ⟨-, hnone⟩
    · rcases h' hk s (hsame.trans hx) with hsame' | hgone
      · exact .inl (hsame'.trans hsame)
      · exact .inr hgone
    · cases hnone

section Moves

variable {S : Uuid} {ends : Prop} {k : Key}

lemma sessionMove_of_ne {x y : Option Row} (hx : ∀ s, x ≠ some (.AnonymousSession s)) :
    SessionMove S ends k x y := fun _ s h => absurd h (hx s)

lemma sessionMove_mapSession (f : AuthSession → AuthSession) (r : Row) :
    SessionMove S ends k (some r) (some (Row.mapSession f r)) := by
  cases r with
  | AuthSession s => exact sessionMove_of_ne (by simp)
  | _ => exact (sessionMoves S ends).same _ _

lemma sessionMove_setOwner (userId : Uuid) (r : Row) :
    SessionMove S ends k (some r) (some (setOwner userId r)) := by
  cases r with
  | Chat chat => exact sessionMove_of_ne (by simp)
  | UsageLog row => exact sessionMove_of_ne (by simp)
  | _ => exact (sessionMoves S ends).same _ _

/-- A session goes only if it is deleted itself. -/
lemma eq_of_doomed_session {view : Db Row} {s : AnonymousSession} {n : ℕ}
    (hs : view.rows S = some (.AnonymousSession s)) (h : accountSchema.doomed view k n S = true) :
    S = k := by
  induction n with
  | zero => simpa [Schema.doomed] using h
  | succ n ih =>
      rw [Schema.doomed, hs, Bool.or_eq_true] at h
      rcases h with h | h
      · exact ih h
      · simp [accountSchema, Row.cascades] at h

lemma erase_sessionMove {view : Db Row} {k' : Key} {r : Row} {v : Option Row}
    (hends : ∀ s, view.rows S = some (.AnonymousSession s) → k = S → ends)
    (hr : view.rows k' = some r) (he : accountSchema.erase view k k' = some v) :
    SessionMove S ends k' (some r) v := by
  rintro rfl s ⟨⟩
  obtain ⟨r', hr', hcases⟩ := Schema.erase_some he
  cases hr.symm.trans hr'
  rcases hcases with ⟨hdoomed, rfl⟩ | ⟨-, -, rfl⟩
  · exact .inr ⟨hends s hr (eq_of_doomed_session hr hdoomed).symm, rfl⟩
  · exact .inl rfl

/-- Among the calls of the authentication service only a transfer ends the session. -/
lemma sessionMoves_admitsCalls (S : Uuid) (ends : Prop) :
    AdmitsCalls (sessionMoves S ends) fun T => T = S → ends where
  user _ _ := sessionMove_of_ne (by simp)
  session _ _ := sessionMove_of_ne (by simp)
  hash _ _ r := sessionMove_mapSession _ r
  revoked _ _ r := sessionMove_mapSession _ r
  replaced _ _ _ r := sessionMove_mapSession _ r
  chat _ userId _ r _ _ := sessionMove_setOwner userId r
  usage _ userId _ r _ _ := sessionMove_setOwner userId r
  anonymous _ _ _ hends _ _ _ _ _ hr' he := erase_sessionMove (fun _ _ => hends) hr' he

lemma sessionMove_new (r : Option Row) : SessionMove S ends k none r := sessionMove_of_ne (by simp)

lemma along_ledgerCall_session (service : TokenService) (call : LedgerCall) (S : Uuid) :
    MovesAlong (sessionMoves S ((RequestCall.Ledger call).carries S)) (call.statements service) := by
  cases call with
  | Account call =>
      refine (sessionMoves_admitsCalls S (call.carries S)).along service fun T hT hTS => ?_
      exact hTS ▸ hT
  | CreateChat principal title selectedModelId firstPrompt now =>
      exact along_createChatRecord (fun k chat _ => sessionMove_new _)
        (fun k message => sessionMove_new _) _ _ _ _ _
  | DeleteChat principal chatId =>
      refine along_deleteChat (fun view k chat hr k' r v hr' he => ?_) _ _
      refine erase_sessionMove (fun s hs hk => ?_) hr' he
      subst hk
      cases hr.symm.trans hs
  | Record principal call => exact along_createUsage (fun k row => sessionMove_new _) _

lemma along_touch {E : Evolution Row} {expected : SessionReply → Prop} {id : Uuid}
    (h : expected (.Principal (some (.Anonymous id)))) :
    Along accountSchema E 0 (fun _ => True) expected (touch id) := by
  refine ⟨fun k r _ => E.same _ _, fun count => ?_⟩
  dsimp only
  split
  · trivial
  · exact ⟨trivial, h⟩

lemma along_useAnonymous (hashAnonymousToken : Token → String) (request : PrincipalRequest)
    (E : Evolution Row) : Along accountSchema E 0 (fun _ => True) (fun _ => True)
      (useAnonymous hashAnonymousToken request) := by
  rw [useAnonymous]
  split
  · intro db
    dsimp only
    split
    · trivial
    · exact along_touch trivial
  · trivial

/-- **Every write of every call**: only a transfer ends the session. -/
lemma along_requestCall (service : TokenService) (hashAnonymousToken : Token → String)
    (call : RequestCall) (S : Uuid) :
    Along accountSchema (sessionMoves S (call.carries S)) 0 (fun _ => True) (fun _ => True)
      (call.statements service hashAnonymousToken) := by
  cases call with
  | Ledger call => exact (along_ledgerCall_session service call S).map
  | Use request =>
      simp only [RequestCall.statements, usePrincipal]
      split
      · trivial
      · split
        · exact along_useAnonymous _ request _
        · split
          · exact along_useAnonymous _ request _
          · intro db
            dsimp only
            split
            · trivial
            · exact along_useAnonymous _ request _
  | EnsureAnonymous principal tokenHash expiresAt =>
      simp only [RequestCall.statements, ensureAnonymous]
      split
      · trivial
      · exact fun id _ => ⟨sessionMove_new _, trivial, trivial⟩

end Moves

/-! ## A transfer

The call promises that the session has gone if it answers with success, and others promise not to
bring it back. -/

/-- The answer of a sign-in or a sign-up that has succeeded. -/
def isAuthenticated : SessionReply → Bool
  | .Called (.Authenticated ..) => true
  | _ => false

/-- What all calls guarantee of the session `S`. -/
def cookieContract (S : Uuid) (ends : Prop) : Contract Row SessionStatement SessionReply where
  Rely _ _ _ _ := True
  Guar _ rows rows' := SessionMove S ends S (rows S) (rows' S)
  mayFail := True
  Post _ _ _ := True
  refl _ _ _ := trivial
  trans _ _ _ _ _ _ _ := trivial
  weaken _ _ _ _ _ := trivial

/-- What a call promises that relies on it that the session does not come back. -/
def goneContract (S : Uuid) (ends : Prop) (post : SessionReply → Rows Row → Prop) :
    Contract Row SessionStatement SessionReply :=
  { cookieContract S ends with
    Rely := fun _ _ rows rows' => SessionMove S True S (rows S) (rows' S)
      ∧ (rows S = none → rows' S = none)
    Post := fun _ reply rows => post reply rows
    refl := fun _ _ rows => ⟨(sessionMoves S True).same _ _, id⟩
    trans := fun _ _ rows rows₁ rows₂ h h' => by
      refine ⟨fun hS s hs => ?_, fun hnone => h'.2 (h.2 hnone)⟩
      rcases h.1 hS s hs with hsame | ⟨-, hnone⟩
      · rw [← hsame] at hs ⊢
        exact h'.1 hS s hs
      · exact .inr ⟨trivial, h'.2 hnone⟩
    weaken := fun _ _ _ _ h => h }

/-- What the contracts have in common. -/
structure SessionContract (S : Uuid) (ends : Prop)
    (C : Contract Row SessionStatement SessionReply) : Prop where
  mayFail : C.mayFail
  guar : ∀ log rows rows', C.Guar log rows rows' → SessionMove S ends S (rows S) (rows' S)
  rely : ∀ log scan rows rows', SessionMove S True S (rows S) (rows' S)
    ∧ (rows S = none → rows' S = none) → C.Rely log scan rows rows'

lemma sessionContract_gone (S : Uuid) (ends : Prop) (post : SessionReply → Rows Row → Prop) :
    SessionContract S ends (goneContract S ends post) :=
  ⟨trivial, fun _ _ _ h => h, fun _ _ _ _ h => h⟩

section Transfers

variable {S userId : Uuid} {log : List SessionStatement} {scan : Option Scan} {w : Writes Row}
  {db db' : Db Row}

/-- After a sign-in or sign-up that has succeeded the session has gone. -/
def transferContract (S : Uuid) (ends : Prop) : Contract Row SessionStatement SessionReply :=
  goneContract S ends fun reply rows => isAuthenticated reply = true → rows S = none

/-- The session is there, or was; the transaction has not touched it. -/
structure Carrying (S : Uuid) (w : Writes Row) (db : Db Row) : Prop where
  untouched : w S = none
  generated : S < db.clock
  session : db.rows S = none ∨ ∃ s, db.rows S = some (.AnonymousSession s)
  moves : Overwrites (sessionMoves S True) w db

lemma Carrying.later (h : Carrying S w db)
    (hlater : Later accountSchema (fun _ => True) (transferContract S True) log scan w db db') :
    Carrying S w db' := by
  refine ⟨h.untouched, Nat.lt_of_lt_of_le h.generated hlater.undisturbed.clock, ?_,
    h.moves.later hlater.undisturbed⟩
  rcases h.session with hnone | ⟨s, hs⟩
  · exact .inl (hlater.rely.2 hnone)
  · rcases hlater.rely.1 rfl s hs with hsame | ⟨-, hnone⟩
    · exact .inr ⟨s, hsame.trans hs⟩
    · exact .inl hnone

/-- A row that is seen at the key of the session is the session. -/
lemma Carrying.session_of_view (h : Carrying S w db) {r : Row} (hr : (db.apply w).rows S = some r) :
    ∃ s, r = .AnonymousSession s := by
  rw [Db.rows_apply_none h.untouched] at hr
  rcases h.session with hnone | ⟨s, hs⟩
  · cases hnone.symm.trans hr
  · exact ⟨s, Option.some.inj (hr.symm.trans hs)⟩

lemma Carrying.write (h : Carrying S w db) {k : Key} {r : Row} {v : Option Row}
    (hr : (db.apply w).rows k = some r) (hother : ∀ s, r ≠ .AnonymousSession s) :
    Carrying S (Function.update w k (some v)) db := by
  have hne : S ≠ k := by
    rintro rfl
    obtain ⟨s, hs⟩ := h.session_of_view hr
    exact hother s hs
  refine ⟨(Function.update_of_ne hne _ _).trans h.untouched, h.generated, h.session, ?_⟩
  exact h.moves.write hr (sessionMove_of_ne fun s hs => hother s (Option.some.inj hs))

/-- What a session record does, once the session is not seen any more. -/
lemma safe_createSessionRecord_gone {service : TokenService} {input : SessionInput}
    {chatIds : List Uuid} (hk : S < db.clock) (hw : Overwrites (sessionMoves S True) w db)
    (hgone : (db.apply w).rows S = none) :
    Safe accountSchema (fun _ => True) (transferContract S True)
      ((createSessionRecord service userId input fun _ tokens =>
        .commit (.CommitSignIn userId (some S)) (.done (.Authenticated userId chatIds tokens))).map
          .Called .Called) log w db := by
  have halong : MovesAlong (sessionMoves S True) (createSessionRecord service userId input
      fun _ tokens => .commit (.CommitSignIn userId (some S))
        (.done (.Authenticated userId chatIds tokens))) :=
    (sessionMoves_admitsCalls S True).along_createSessionRecord fun _ _ => ⟨trivial, trivial⟩
  have hcommits : (createSessionRecord service userId input fun _ tokens =>
      .commit (.CommitSignIn userId (some S)) (.done (.Authenticated userId chatIds tokens))).CommitsTo
        fun reply => isAuthenticated (.Called reply) := by
    intro id count
    dsimp only
    split
    · trivial
    · exact ⟨_, rfl, rfl⟩
  have hkeeps : (createSessionRecord service userId input fun _ tokens =>
      .commit (.CommitSignIn userId (some S))
        (.done (.Authenticated userId chatIds tokens))).KeepsWrites := by
    intro id count
    dsimp only
    split
    · trivial
    · trivial
  refine Along.safe_gone (C := transferContract S True) trivial (fun _ _ _ _ hrely => hrely.2)
    (fun _ _ w db hw _ => ⟨hw.view S, trivial⟩) ?_ halong.map
    (hcommits.map fun _ => rfl) hkeeps.map (Nat.zero_le _) hk hw hgone
  rintro log reply rows (hnot | hnone) hauthenticated
  · cases hnot.symm.trans hauthenticated
  · exact hnone

/-- The two UPDATEs of a transfer leave the session alone. -/
lemma safe_setOwner {label : SessionStatement} {p : Row → Bool}
    {next : ℕ → SessionStatements} (h : Carrying S w db)
    (hp : ∀ r, p r = true → ∀ s, r ≠ .AnonymousSession s)
    (hnext : ∀ count w db, Carrying S w db →
      Safe accountSchema (fun _ => True) (transferContract S True) (next count) (label :: log) w db) :
    Safe accountSchema (fun _ => True) (transferContract S True)
      (.update label (fun _ r => p r) (setOwner userId) next) log w db := by
  intro db₁ h₁
  refine safe_updateAll (fun _ _ => False) (Carrying S) trivial h₁.here (h.later h₁)
    (fun _ _ hq => hq.elim) ?_ ?_ fun count w db h _ => hnext count w db h
  · intro scan w db db' h _ hlater
    exact ⟨h.later hlater, fun _ _ _ _ hq => hq.elim⟩
  · intro w db k r h _ hr hpr _
    exact ⟨h.write hr (hp r hpr), id⟩

/-- **A transfer ends the session.** -/
lemma safe_createSessionWithTransfer_gone {service : TokenService} {input : SessionInput}
    (h : Carrying S w db) :
    Safe accountSchema (fun _ => True) (transferContract S True)
      ((createSessionWithTransfer service userId (some S) input).map .Called .Called) log w db := by
  intro db₁ h₁
  refine safe_setOwner (h.later h₁) (fun r hr s hs => by simp [hs, Row.isChatOfAnonymous] at hr) ?_
  intro _ w₂ db₂ h₂
  refine safe_setOwner h₂ (fun r hr s hs => by simp [hs, Row.isUsageOfAnonymous] at hr) ?_
  intro _ w₃ db₃ h₃ db₄ h₄
  have h₃ := h₃.later h₄
  refine ⟨fun hfound => ?_, fun hmissing => ?_⟩
  · obtain ⟨r, hr, -⟩ := (Option.any_eq_true _ _).mp hfound
    refine safe_createSessionRecord_gone h₃.generated (h₃.moves.erase fun k' r' v hr' he => ?_) ?_
    · exact erase_sessionMove (fun _ _ _ => trivial) hr' he
    · show ((accountSchema.erase (db₄.apply w₃) S S).orElse fun _ => w₃ S).getD (db₄.rows S) = none
      rw [Schema.erase_self hr]
      rfl
  · refine safe_createSessionRecord_gone h₃.generated h₃.moves ?_
    cases hr : (db₄.apply w₃).rows S with
    | none => rfl
    | some r =>
        obtain ⟨s, rfl⟩ := h₃.session_of_view hr
        rw [hr] at hmissing
        cases hmissing

/-- **A sign-in or sign-up that carries the session.** -/
lemma safe_transfer (service : TokenService) {call : AuthCall} (hcarries : call.carries S)
    (h : Carrying S (fun _ => none) db) :
    Safe accountSchema (fun _ => True) (transferContract S True)
      ((call.statements service).map .Called .Called) [] (fun _ => none) db := by
  cases call with
  | SignUp user anonymousSessionId input =>
      obtain rfl : anonymousSessionId = some S := hcarries
      intro db₁ h₁
      have hcarrying := h.later h₁
      refine ⟨fun _ => safe_createSessionWithTransfer_gone ?_, fun _ => trivial⟩
      have hne : S ≠ db₁.clock := Nat.ne_of_lt hcarrying.generated
      exact ⟨(Function.update_of_ne hne _ _).trans rfl, hcarrying.generated.trans (Nat.lt_succ_self _),
        hcarrying.session, hcarrying.moves.insert h₁.fresh.1 (sessionMove_new _)⟩
  | SignIn email verifies anonymousSessionId input =>
      obtain rfl : anonymousSessionId = some S := hcarries
      intro db₁ h₁
      dsimp only
      split
      · split
        · exact safe_createSessionWithTransfer_gone (h.later h₁)
        · exact fun _ _ hauthenticated => by cases hauthenticated
      · exact fun _ _ hauthenticated => by cases hauthenticated
  | _ => exact hcarries.elim

end Transfers

/-! ## Runs

The states of the run fall into two, before and after the end of the session, and each step keeps to
one of them or goes from the first to the second. -/

section Runs

variable {n : ℕ} {service : TokenService} {hashAnonymousToken : Token → String}
  {rows : List (Option Row)} {calls : Fin n → RequestCall} {S : Uuid} {s : AnonymousSession}
  {sys sys' : Sys n Row SessionStatement SessionReply} {i : Fin n} {a : Action}
  {acts more : List (Fin n × Action)}

/-- The contracts, from a state on in which no call that carries the session has begun. -/
def cookieContracts (S : Uuid) (calls : Fin n → RequestCall) (i : Fin n) :
    Contract Row SessionStatement SessionReply :=
  if (calls i).carries S then transferContract S ((calls i).carries S)
  else cookieContract S ((calls i).carries S)

lemma sessionContract_cookieContracts (S : Uuid) (calls : Fin n → RequestCall) (i : Fin n) :
    SessionContract S ((calls i).carries S) (cookieContracts S calls i) := by
  unfold cookieContracts
  split
  · exact sessionContract_gone _ _ _
  · exact ⟨trivial, fun _ _ _ h => h, fun _ _ _ _ _ => trivial⟩

/-- Every step is admissible while the session stays away once it has gone. -/
lemma admissible_of_past {C : Fin n → Contract Row SessionStatement SessionReply} {ends : Fin n → Prop}
    (hC : ∀ i, SessionContract S (ends i) (C i)) (hpast : sys.Past S) (i : Fin n) (a : Action) :
    Admissible C sys i a := by
  refine ⟨fun _ => (hC i).mayFail, fun _ label next _ hguar j _ _ => ?_⟩
  refine (hC j).rely _ _ _ _ ⟨fun hS s hs => ?_, hpast.view_none⟩
  exact ((hC i).guar _ _ _ hguar hS s hs).imp id fun hend => ⟨trivial, hend.2⟩

/-- **The states of a run**: the session is there and nobody has transferred it, or it has gone and
somebody has. -/
structure CookieState (S : Uuid) (s : AnonymousSession) (calls : Fin n → RequestCall)
    (sys : Sys n Row SessionStatement SessionReply) : Prop where
  secure : Secure accountSchema (fun _ => True) (cookieContracts S calls) sys
  past : sys.Past S
  carriers : ∀ i, (calls i).carries S →
    (sys.procs i).prog.CommitsTo isAuthenticated ∨ sys.Answered isAuthenticated i
  session : sys.db.rows S = some (.AnonymousSession s)
      ∧ (∀ i, (calls i).carries S → ¬ sys.Answered isAuthenticated i)
    ∨ sys.db.rows S = none ∧ ∃ i, (calls i).carries S ∧ sys.Answered isAuthenticated i

/-- The step does nothing to the session, and no call that carries it has answered in it. -/
lemma CookieState.unchanged (h : CookieState S s calls sys) (hmoved : Moved accountSchema sys i a sys')
    (hsecure : Secure accountSchema (fun _ => True) (cookieContracts S calls) sys')
    (hrow : sys'.db.rows S = sys.db.rows S)
    (hcarriers : ∀ j, (calls j).carries S →
      (sys'.procs j).prog.CommitsTo isAuthenticated ∨ sys'.Answered isAuthenticated j)
    (hanswered : ∀ j, (calls j).carries S →
      (sys'.Answered isAuthenticated j ↔ sys.Answered isAuthenticated j)) :
    CookieState S s calls sys' := by
  refine ⟨hsecure, h.past.step h.secure.locked hmoved, hcarriers, ?_⟩
  rw [hrow]
  rcases h.session with ⟨hs, hnobody⟩ | ⟨hnone, j, hj, hsomebody⟩
  · exact .inl ⟨hs, fun j hj hnow => hnobody j hj ((hanswered j hj).mp hnow)⟩
  · exact .inr ⟨hnone, j, hj, (hanswered j hj).mpr hsomebody⟩

/-- A call that does not carry the session leaves it alone. -/
lemma CookieState.rows_of_moved (h : CookieState S s calls sys)
    (hmoved : Moved accountSchema sys i a sys') (hcarries : ¬ (calls i).carries S) :
    sys'.db.rows S = sys.db.rows S := by
  rcases hmoved.db_cases with hdb | hdb | ⟨hdb, hscan, label, next, hprog⟩
  · rw [hdb]
  · rw [hdb]
    rfl
  · rw [hdb]
    rcases h.session with ⟨hs, -⟩ | ⟨hnone, -⟩
    · have hmove := (sessionContract_cookieContracts S calls i).guar _ _ _ (h.secure.guar hscan hprog)
      rcases hmove rfl s hs with hsame | ⟨hends, -⟩
      · exact hsame
      · exact absurd hends hcarries
    · rw [h.past.view_none hnone, hnone]

/-- **Step lemma.** -/
lemma CookieState.step (h : CookieState S s calls sys)
    (hmoved : Moved accountSchema sys i a sys') : CookieState S s calls sys' := by
  have hsecure := h.secure.step
    (admissible_of_past (sessionContract_cookieContracts S calls) h.past i a) hmoved
  have hothers : ∀ j ≠ i, (calls j).carries S →
      (sys'.Answered isAuthenticated j ↔ sys.Answered isAuthenticated j) :=
    fun j hj _ => Sys.answered_of_moved hmoved hj
  have hkept : ∀ j ≠ i, (calls j).carries S →
      (sys'.procs j).prog.CommitsTo isAuthenticated ∨ sys'.Answered isAuthenticated j :=
    fun j hj hcarries => (Sys.ends_of_moved hmoved hj).mpr (h.carriers j hcarries)
  by_cases hcarries : (calls i).carries S
  · rcases h.carriers i hcarries with hcommits | hanswered
    · rcases hcommits.moved hmoved with ⟨hcommits', hdb⟩ | ⟨hanswered, -⟩
      · have hneither := iff_of_false hcommits'.not_answered hcommits.not_answered
        refine h.unchanged hmoved hsecure ?_ (forall_of_one (fun _ => .inl hcommits') hkept)
          (forall_of_one (fun _ => hneither) hothers)
        rcases hdb with hdb | hdb
        · rw [hdb]
        · rw [hdb]
          rfl
      · -- the transfer is committed
        refine ⟨hsecure, h.past.step h.secure.locked hmoved,
          forall_of_one (fun _ => .inr hanswered) hkept, .inr ⟨?_, i, hcarries, hanswered⟩⟩
        obtain ⟨reply, hdone, hauthenticated⟩ := Sys.answered_iff.mp hanswered
        have hpost := hsecure.post hdone
        simp only [cookieContracts, if_pos hcarries] at hpost
        exact hpost hauthenticated
    · exact absurd hmoved hanswered.not_moved
  · exact h.unchanged hmoved hsecure (h.rows_of_moved hmoved hcarries)
      (forall_of_one (fun hi => absurd hi hcarries) hkept)
      (forall_of_one (fun hi => absurd hi hcarries) hothers)

/-- **Run lemma.** -/
lemma CookieState.run (h : CookieState S s calls sys)
    (hrun : sys.run accountSchema acts = some sys') : CookieState S s calls sys' := by
  induction acts generalizing sys with
  | nil =>
      cases hrun
      exact h
  | cons act acts ih =>
      obtain ⟨mid, hmid, hrest⟩ := Option.bind_eq_some_iff.mp hrun
      exact ih (h.step (Sys.step_moved hmid)) hrest

end Runs

/-! ## Requests after a transfer

For a request that begins when the session has gone, every read it makes fails to find it. -/

section Requests

variable {S : Uuid} {ends : Prop} {log : List SessionStatement} {w : Writes Row} {db : Db Row}

/-- The request does not act for the session. -/
def requestContract (S : Uuid) (ends : Prop) : Contract Row SessionStatement SessionReply :=
  goneContract S ends fun reply _ => reply ≠ .Principal (some (.Anonymous S))

lemma findActiveByTokenHash_isActive {tokenHash : String} {now : Timestamp} {id : Uuid}
    (h : findActiveByTokenHash db tokenHash now = some id) :
    ∃ s, db.rows id = some (.AnonymousSession s) ∧ s.tokenHash = tokenHash ∧ now < s.expiresAt := by
  obtain ⟨-, r, hr, hactive⟩ := Db.mem_keysWhere.mp (List.mem_of_mem_head? h)
  cases r with
  | AnonymousSession s =>
      simp only [Row.isActiveByTokenHash, Bool.and_eq_true, beq_iff_eq, decide_eq_true_eq] at hactive
      exact ⟨s, hr, hactive⟩
  | _ => cases hactive

/-- Where the session has gone, its cookie does not bring it back. -/
lemma safe_useAnonymous (hashAnonymousToken : Token → String) (request : PrincipalRequest)
    (hgone : db.rows S = none) :
    Safe accountSchema (fun _ => True) (requestContract S ends)
      (useAnonymous hashAnonymousToken request) log (fun _ => none) db := by
  rw [useAnonymous]
  split
  · intro db₁ h₁
    have hgone₁ := h₁.rely.2 hgone
    rw [Db.apply_nothing]
    dsimp only
    split
    · exact fun _ _ => by simp [requestContract, goneContract]
    · rename_i id hfound
      have hne : id ≠ S := by
        rintro rfl
        obtain ⟨s, hs, -⟩ := findActiveByTokenHash_isActive hfound
        cases hgone₁.symm.trans hs
      have halong : Along accountSchema (sessionMoves S ends) 0 (fun _ => True)
          (fun reply => reply ≠ .Principal (some (.Anonymous S))) (touch id) :=
        along_touch (by simpa using hne)
      exact halong.safe trivial (fun _ _ w db _ hw _ => ⟨hw.view S, trivial⟩) (fun _ _ _ h => h)
        (Nat.zero_le _) (.nothing _ _)
  · exact fun _ _ => by simp [requestContract, goneContract]

lemma safe_usePrincipal (service : TokenService) (hashAnonymousToken : Token → String)
    (request : PrincipalRequest) (hgone : db.rows S = none) :
    Safe accountSchema (fun _ => True) (requestContract S ends)
      (usePrincipal service hashAnonymousToken request) log (fun _ => none) db := by
  rw [usePrincipal]
  split
  · exact fun _ _ => by simp [requestContract, goneContract]
  · split
    · exact safe_useAnonymous _ request hgone
    · split
      · exact safe_useAnonymous _ request hgone
      · intro db₁ h₁
        dsimp only
        split
        · exact fun _ _ => by simp [requestContract, goneContract]
        · exact safe_useAnonymous _ request (h₁.rely.2 hgone)

end Requests

/-! ## The life of a cookie -/

lemma accountSchema_lawful : accountSchema.Lawful where
  symm r r' := by
    cases r <;> cases r' <;> simp only [accountSchema, Row.clash, Bool.beq_comm]
    rename_i a b
    cases ha : a.replacedBySessionId <;> cases hb : b.replacedBySessionId <;>
      simp [Bool.beq_comm (a := a.refreshTokenHash), Bool.beq_comm (a := a.refreshJti)]
  setNull_clash gone r r' h := by
    cases r with
    | AuthSession a =>
        cases r' with
        | AuthSession b =>
            simp only [accountSchema, Row.clash, Row.setNull, Bool.or_eq_false_iff] at h ⊢
            refine ⟨h.1, ?_⟩
            rcases keepReference_cases gone Row.isAuthSession a.replacedBySessionId with hk | hk
            · rw [hk]
              exact h.2
            · simp [hk]
        | _ => rfl
    | UsageLog a => cases r' <;> rfl
    | _ => exact h
  setNull_check _ _ _ := rfl

/-- The lookup finds the session by the hash of its token, until it expires. -/
lemma findActiveByTokenHash_eq {db : Db Row} {S : Uuid} {s : AnonymousSession} {tokenHash : String}
    {now : Timestamp} (hvalid : Valid accountSchema db.rows)
    (hgenerated : ∀ k r, db.rows k = some r → k < db.clock)
    (hs : db.rows S = some (.AnonymousSession s)) :
    findActiveByTokenHash db tokenHash now = some S ↔ tokenHash = s.tokenHash ∧ now < s.expiresAt := by
  refine ⟨fun hfound => ?_, ?_⟩
  · obtain ⟨s', hs', hhash, hnow⟩ := findActiveByTokenHash_isActive hfound
    cases hs.symm.trans hs'
    exact ⟨hhash.symm, hnow⟩
  · rintro ⟨rfl, hnow⟩
    have hmem : S ∈ db.keysWhere fun _ r => r.isActiveByTokenHash s.tokenHash now := by
      refine Db.mem_keysWhere.mpr ⟨hgenerated S _ hs, _, hs, ?_⟩
      simp [Row.isActiveByTokenHash, hnow]
    cases hfound : findActiveByTokenHash db s.tokenHash now with
    | none =>
        rw [findActiveByTokenHash, List.head?_eq_none_iff] at hfound
        rw [hfound] at hmem
        cases hmem
    | some id =>
        obtain ⟨s', hs', hhash, -⟩ := findActiveByTokenHash_isActive hfound
        by_contra hne
        have hclash := hvalid.clash id S _ _ (fun h => hne (congrArg some h)) hs' hs
        simp [accountSchema, Row.clash, hhash] at hclash

/-- A sign-in or sign-up commits once, when it succeeds. -/
lemma commitsTo_of_carries (service : TokenService) (hashAnonymousToken : Token → String)
    {call : RequestCall} {S : Uuid} (h : call.carries S) :
    (call.statements service hashAnonymousToken).CommitsTo isAuthenticated := by
  have hrecord : ∀ userId anonymousSessionId chatIds input,
      (createSessionRecord service userId input fun _ tokens =>
        .commit (.CommitSignIn userId anonymousSessionId)
          (.done (.Authenticated userId chatIds tokens))).CommitsTo
            fun reply => isAuthenticated (.Called reply) := by
    intro userId anonymousSessionId chatIds input id count
    dsimp only
    split
    · trivial
    · exact ⟨_, rfl, rfl⟩
  have htransfer : ∀ userId input, (createSessionWithTransfer service userId (some S) input).CommitsTo
      fun reply => isAuthenticated (.Called reply) :=
    fun userId input db _ _ _ => hrecord userId (some S) _ input
  cases call with
  | Ledger call =>
      refine Prog.CommitsTo.map (p := fun reply => isAuthenticated (.Called reply)) (fun _ => rfl) ?_
      cases call with
      | Account call =>
          cases call with
          | SignUp user anonymousSessionId input =>
              obtain rfl : anonymousSessionId = some S := h
              exact fun userId => htransfer userId input
          | SignIn email verifies anonymousSessionId input =>
              obtain rfl : anonymousSessionId = some S := h
              intro db
              dsimp only
              split
              · split
                · exact htransfer _ input
                · rfl
              · rfl
          | _ => exact h.elim
      | _ => exact h.elim
  | _ => exact h.elim

section Life

variable {n : ℕ} {service : TokenService} {hashAnonymousToken : Token → String}
  {rows : List (Option Row)} {calls : Fin n → RequestCall} {S : Uuid} {s : AnonymousSession}
  {sys sys' sys'' : Sys n Row SessionStatement SessionReply} {acts more rest : List (Fin n × Action)}

/-- The session is there, and no call that carries it has begun. -/
lemma cookieState_start
    (hrun : (requestSystem service hashAnonymousToken rows calls).run accountSchema acts = some sys)
    (hsession : sys.db.rows S = some (.AnonymousSession s))
    (hstart : ∀ i, (calls i).carries S →
      sys.procs i = .start ((calls i).statements service hashAnonymousToken)) :
    CookieState S s calls sys := by
  have hbegun : Secure accountSchema (fun _ => True) (fun i => cookieContract S ((calls i).carries S))
      (requestSystem service hashAnonymousToken rows calls) := by
    refine Secure.start trivial (Db.lt_clock_ofRows rows) fun i => ?_
    exact (along_requestCall service hashAnonymousToken (calls i) S).safe trivial
      (fun _ _ w db _ hw _ => ⟨hw.view S, trivial⟩) (fun _ _ _ _ => trivial) (Nat.zero_le _)
      (.nothing _ _)
  have hsecure := hbegun.run (.of_forall _ (fun _ _ _ =>
    ⟨fun _ => trivial, fun _ _ _ _ _ _ _ _ => trivial⟩) _ _) hrun
  have hcommits : ∀ i, (calls i).carries S → (sys.procs i).prog.CommitsTo isAuthenticated := by
    intro i hcarries
    rw [hstart i hcarries]
    exact commitsTo_of_carries service hashAnonymousToken hcarries
  refine ⟨⟨hsecure.locked, trivial, fun i => ?_⟩, Sys.past_of_committed hsecure.locked hsession,
    fun i hcarries => .inl (hcommits i hcarries),
    .inl ⟨hsession, fun i hcarries => (hcommits i hcarries).not_answered⟩⟩
  unfold cookieContracts
  split
  · rename_i hcarries
    rw [hstart i hcarries, eq_true hcarries]
    have hcarrying : Carrying S (fun _ => none) sys.db :=
      ⟨rfl, hsecure.locked.generated S _ hsession, .inr ⟨s, hsession⟩, .nothing _ _⟩
    cases hcall : calls i with
    | Ledger call =>
        rw [hcall] at hcarries
        cases call with
        | Account call => exact safe_transfer service hcarries hcarrying
        | _ => exact hcarries.elim
    | _ =>
        rw [hcall] at hcarries
        exact hcarries.elim
  · exact hsecure.procs i

/-- A request that begins where the session has gone does not act for it. -/
lemma CookieState.principal_ne {j : Fin n} {request : PrincipalRequest} {principal : RequestPrincipal}
    (h : CookieState S s calls sys) (hgone : sys.db.rows S = none)
    (hbegin : sys.procs j = .start (usePrincipal service hashAnonymousToken request))
    (hrun : sys.run accountSchema acts = some sys')
    (hdone : (sys'.procs j).prog = .done (.Principal (some principal))) :
    principal ≠ .Anonymous S := by
  have hkind : ∀ i, SessionContract S ((calls i).carries S)
      (Function.update (cookieContracts S calls) j (requestContract S ((calls j).carries S)) i) := by
    refine forall_of_one (i := j) ?_ fun i hi => ?_
    · rw [Function.update_self]
      exact sessionContract_gone _ _ _
    · rw [Function.update_of_ne hi]
      exact sessionContract_cookieContracts S calls i
  have hsafe : SafeProc accountSchema (fun _ => True) (requestContract S ((calls j).carries S))
      (sys.procs j) sys.db := by
    rw [hbegin]
    exact safe_usePrincipal service hashAnonymousToken request hgone
  have hsecure := h.secure.update hsafe
  have hadmissible := Sys.alongRun_of_invariant (S := accountSchema)
    (J := fun mid => Locked accountSchema mid ∧ mid.Past S) ⟨h.secure.locked, h.past⟩
    (fun _ _ _ _ h hmoved => ⟨h.1.step hmoved, h.2.step h.1 hmoved⟩)
    (fun _ i a h => admissible_of_past hkind h.2 i a) acts
  have hpost := (hsecure.run hadmissible hrun).post hdone
  rw [Function.update_self] at hpost
  rintro rfl
  exact hpost rfl

/-- **The life of an anonymous cookie.**  The session is there in the state `sys`, and no sign-in or
sign-up that carries it has begun.  From then on its cookie is good until it expires or such a call
has succeeded; a request that begins afterwards does not have the session as its principal.  The
database at the start may be any that satisfies its constraints. -/
theorem anonymous_cookie_life (hvalid : Valid accountSchema (Db.ofRows rows).rows)
    (hrun : (requestSystem service hashAnonymousToken rows calls).run accountSchema acts = some sys)
    (hsession : sys.db.rows S = some (.AnonymousSession s))
    (hstart : ∀ i, (calls i).carries S →
      sys.procs i = .start ((calls i).statements service hashAnonymousToken))
    (hmore : sys.run accountSchema more = some sys')
    (hrest : sys'.run accountSchema rest = some sys'') :
    (∀ tokenHash now, findActiveByTokenHash sys'.db tokenHash now = some S ↔
        tokenHash = s.tokenHash ∧ now < s.expiresAt
          ∧ ∀ i, (calls i).carries S → ¬ sys'.Answered isAuthenticated i)
      ∧ ∀ i j request principal, (calls i).carries S → sys'.Answered isAuthenticated i →
        sys'.procs j = .start (usePrincipal service hashAnonymousToken request) →
          (sys''.procs j).prog = .done (.Principal (some principal)) → principal ≠ .Anonymous S := by
  have hstate := (cookieState_start hrun hsession hstart).run hmore
  have henforced : Enforced accountSchema sys' :=
    ((Enforced.start hvalid (Db.lt_clock_ofRows rows)).run accountSchema_lawful hrun).run
      accountSchema_lawful hmore
  refine ⟨fun tokenHash now => ?_, fun i j request principal hcarries hanswered hbegin hdone => ?_⟩
  · rcases hstate.session with ⟨hs, hnobody⟩ | ⟨hgone, i, hcarries, hanswered⟩
    · rw [findActiveByTokenHash_eq henforced.committed henforced.locked.generated hs]
      exact ⟨fun h => ⟨h.1, h.2, hnobody⟩, fun h => ⟨h.1, h.2.1⟩⟩
    · refine iff_of_false (fun hfound => ?_) fun h => h.2.2 i hcarries hanswered
      obtain ⟨s', hs', -⟩ := findActiveByTokenHash_isActive hfound
      cases hgone.symm.trans hs'
  · refine hstate.principal_ne ?_ hbegin hrest hdone
    rcases hstate.session with ⟨-, hnobody⟩ | ⟨hgone, -⟩
    · exact absurd hanswered (hnobody i hcarries)
    · exact hgone

end Life

lemma valid_oneUser : Valid accountSchema (Db.ofRows oneUser).rows := by
  refine ⟨fun _ _ _ => rfl, fun k k' r r' hne hr hr' => ?_⟩
  have hk : k < 1 := Db.lt_clock_ofRows oneUser k r hr
  have hk' : k' < 1 := Db.lt_clock_ofRows oneUser k' r' hr'
  exact absurd ((Nat.lt_one_iff.mp hk).trans (Nat.lt_one_iff.mp hk').symm) hne

/-- A request without cookies opens a session, the user signs in with it, and another request has
the cookie. -/
def cookieCalls : Fin 3 → RequestCall
  | 0 => .EnsureAnonymous none "token" 100
  | 1 => .Ledger (.Account (.SignIn "user@example.com" (fun _ => true) (some 1) (plainInput "first")))
  | 2 => .Use ⟨false, none, false, some "token", 10, 10⟩

attribute [local instance] neZero_three in
def openedActs : List (Fin 3 × Action) := [(0, .Proceed), (0, .Proceed)]

attribute [local instance] neZero_three in
def transferredActs : List (Fin 3 × Action) :=
  [(1, .Proceed), (1, .Proceed), (1, .Proceed), (1, .Proceed), (1, .Proceed), (1, .Proceed),
    (1, .Proceed), (1, .Proceed), (1, .Proceed), (1, .Visit 2), (1, .Proceed), (1, .Proceed)]

attribute [local instance] neZero_three in
/-- The cookie was good before the sign-in, and is not after it. -/
theorem anonymous_cookie_life_transferred : ∃ sys sys' sys'',
    (requestSystem sessionTokens id oneUser cookieCalls).run accountSchema openedActs = some sys
      ∧ sys.run accountSchema transferredActs = some sys'
      ∧ sys'.run accountSchema [(2, .Proceed)] = some sys''
      ∧ findActiveByTokenHash sys.db "token" 10 = some 1
      ∧ findActiveByTokenHash sys'.db "token" 10 ≠ some 1
      ∧ ∀ principal, (sys''.procs 2).prog = .done (.Principal (some principal)) →
        principal ≠ .Anonymous 1 := by
  have hruns : ((requestSystem sessionTokens id oneUser cookieCalls).run accountSchema openedActs).any
      (fun sys => sys.db.rows 1 == some (.AnonymousSession ⟨"token", 100⟩)
        && (sys.run accountSchema transferredActs).any fun sys' =>
          decide (sys'.Answered isAuthenticated 1)
            && (sys'.run accountSchema [(2, .Proceed)]).isSome) = true := by
    decide +kernel
  obtain ⟨sys, hrun, hsys⟩ := (Option.any_eq_true _ _).mp hruns
  rw [Bool.and_eq_true, beq_iff_eq] at hsys
  obtain ⟨sys', hmore, hend⟩ := (Option.any_eq_true _ _).mp hsys.2
  rw [Bool.and_eq_true, decide_eq_true_eq] at hend
  obtain ⟨sys'', hrest⟩ := Option.isSome_iff_exists.mp hend.2
  have hcarries : ∀ i, (cookieCalls i).carries 1 ↔ i = 1 := by decide
  have hstart : ∀ i, (cookieCalls i).carries 1 →
      sys.procs i = .start ((cookieCalls i).statements sessionTokens id) := by
    intro i hi
    obtain rfl := (hcarries i).mp hi
    exact Sys.run_procs hrun (by decide)
  have hbegin : sys'.procs 2 = .start (usePrincipal sessionTokens id
      ⟨false, none, false, some "token", 10, 10⟩) := by
    refine (Sys.run_procs hmore (by decide)).trans ?_
    exact Sys.run_procs hrun (by decide)
  have hempty : sys.run accountSchema [] = some sys := rfl
  have hbefore := anonymous_cookie_life valid_oneUser hrun hsys.1 hstart hempty hmore
  have hafter := anonymous_cookie_life valid_oneUser hrun hsys.1 hstart hmore hrest
  refine ⟨sys, sys', sys'', hrun, hmore, hrest, (hbefore.1 "token" 10).mpr ⟨rfl, by decide, ?_⟩, ?_,
    fun principal => hafter.2 1 2 _ principal ((hcarries 1).mpr rfl) hend.1 hbegin⟩
  · intro i hi
    have hcommits := commitsTo_of_carries sessionTokens id hi
    refine Prog.CommitsTo.not_answered (p := isAuthenticated) ?_
    rw [hstart i hi]
    exact hcommits
  · exact fun hfound => ((hafter.1 "token" 10).mp hfound).2.2 1 ((hcarries 1).mpr rfl) hend.1

end RagStack
