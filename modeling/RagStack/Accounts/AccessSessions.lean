import RagStack.Accounts.SignOutAll
import RagStack.Accounts.CallEffects

/-!
# `authenticateAccess`

An access token is good as long as the session it names is active.  The check reads the committed
rows once; the calls that create, rotate and revoke sessions are under way meanwhile.

An access token is signed and carries an expiry of its own, so it could be accepted without looking
anywhere.  The service looks the session up nevertheless, in order that signing out takes effect at
once.  What this achieves is a property of a state and its future.  In one state, two accepted
tokens of one device name the same session.  And a token that is refused although its session is
there stays refused in every later state, whatever the calls under way still do.

The first comes from the chains of the rotation families, of which only the last member can be
active.  The second needs no more than that a session keeps its user and its end, and that revoking
is final.  This is the relation `SessionAges`, and every change that a call makes to a row is in it.

For a sign-out there is one more thing to see.  A refresh that was under way may be faster and leave
a new session.  The access tokens of the old one still name the old one, and that is revoked either
way.

* `authenticateAccess` — the check.
* `SessionAges` — a session keeps its user and its end, and a revoked one stays revoked.
* `access_controlled` — what is accepted in the states of a run: of a device one session at most,
  of a session that was rotated nothing, and nothing that was refused before.
* `signOut_refuses` — after a session was signed out, its access tokens are refused.
-/

namespace RagStack

/-! ## The check -/

/-- `verifyToken` for access tokens. -/
def verifyAccessToken (service : TokenService) (rawToken : Token) : Option TokenClaims :=
  (service.verify .Access rawToken).filter fun claims => claims.type == .Access

/-- The principal of an authenticated request. -/
structure AuthenticatedPrincipal where
  userId : Uuid
  authSessionId : Uuid
  deriving Repr, DecidableEq

def findActiveAccessSession (rows : Rows Row) (sessionId userId : Uuid) (now : Timestamp) :
    Option AuthenticatedPrincipal :=
  match rows sessionId with
  | some (.AuthSession session) =>
      if session.userId == userId && session.revokedAt.isNone && decide (now < session.expiresAt) then
        some ⟨session.userId, sessionId⟩
      else none
  | _ => none

/-- The check of an access token: the token is verified, and then the session it names is looked up.
The two have different errors, and the second is the one for a session that was revoked. -/
def authenticateAccess (service : TokenService) (rows : Rows Row) (now : Timestamp)
    (rawToken : Token) : Except String AuthenticatedPrincipal :=
  match verifyAccessToken service rawToken with
  | none => .error "Access token is invalid."
  | some claims =>
      match findActiveAccessSession rows claims.sessionId claims.sub now with
      | none => .error "Authentication session is invalid."
      | some principal => .ok principal

/-- The session that is found is active. -/
lemma findActiveAccessSession_eq_some_iff {rows : Rows Row} {sessionId userId : Uuid}
    {now : Timestamp} {principal : AuthenticatedPrincipal} :
    findActiveAccessSession rows sessionId userId now = some principal
      ↔ ∃ session, rows sessionId = some (.AuthSession session) ∧ session.userId = userId
        ∧ session.revokedAt = none ∧ now < session.expiresAt ∧ principal = ⟨userId, sessionId⟩ := by
  unfold findActiveAccessSession
  split
  · rename_i session hrow
    simp only [hrow, Option.some.injEq, Row.AuthSession.injEq, exists_eq_left']
    split
    · rename_i hactive
      simp only [Bool.and_eq_true, beq_iff_eq, Option.isNone_iff_eq_none, decide_eq_true_eq] at hactive
      obtain ⟨⟨rfl, hrevoked⟩, hnow⟩ := hactive
      simp [hrevoked, hnow, eq_comm]
    · rename_i hinactive
      refine iff_of_false (by simp) ?_
      rintro ⟨rfl, hrevoked, hnow, -⟩
      exact hinactive (by simp [hrevoked, hnow])
  · rename_i hrow
    exact iff_of_false (by simp) fun ⟨session, hsession, _⟩ => hrow session hsession

/-- **What makes a token good.** -/
lemma authenticateAccess_eq_ok_iff {service : TokenService} {rows : Rows Row} {now : Timestamp}
    {rawToken : Token} {principal : AuthenticatedPrincipal} :
    authenticateAccess service rows now rawToken = .ok principal
      ↔ ∃ claims session, verifyAccessToken service rawToken = some claims
        ∧ rows claims.sessionId = some (.AuthSession session) ∧ session.userId = claims.sub
        ∧ session.revokedAt = none ∧ now < session.expiresAt
        ∧ principal = ⟨claims.sub, claims.sessionId⟩ := by
  unfold authenticateAccess
  cases verifyAccessToken service rawToken with
  | none => simp
  | some claims =>
      simp only [Option.some.injEq, exists_and_left, exists_eq_left',
        ← findActiveAccessSession_eq_some_iff]
      cases findActiveAccessSession rows claims.sessionId claims.sub now <;> simp

/-! ## How sessions age

An update may revoke a session or set its hash or its pointer, but touches neither its user nor its
end. -/

/-- How the row of a session may change: it keeps its user and its end, and once revoked it stays
revoked. -/
def SessionAges (x y : Option Row) : Prop :=
  ∀ s, x = some (.AuthSession s) → ∃ t, y = some (.AuthSession t) ∧ t.userId = s.userId
    ∧ t.expiresAt = s.expiresAt ∧ (s.revokedAt.isSome = true → t.revokedAt.isSome = true)

lemma SessionAges.refl (x : Option Row) : SessionAges x x := fun s hs => ⟨s, hs, rfl, rfl, id⟩

lemma SessionAges.trans {x y z : Option Row} (h : SessionAges x y) (h' : SessionAges y z) :
    SessionAges x z := by
  intro s hs
  obtain ⟨t, ht, huser, hend, hrevoked⟩ := h s hs
  obtain ⟨t', ht', huser', hend', hrevoked'⟩ := h' t ht
  exact ⟨t', ht', huser'.trans huser, hend'.trans hend, fun hsome => hrevoked' (hrevoked hsome)⟩

def sessionsAge : Evolution Row where
  Moves _ x y := SessionAges x y
  same _ x := .refl x
  trans _ _ _ _ h h' := h.trans h'

lemma sessionsAge_of_ne {k : Key} {x y : Option Row} (hx : ∀ s, x ≠ some (.AuthSession s)) :
    sessionsAge.Moves k x y := fun s hs => absurd hs (hx s)

lemma sessionsAge_mapSession {f : AuthSession → AuthSession}
    (hf : ∀ s, (f s).userId = s.userId ∧ (f s).expiresAt = s.expiresAt
      ∧ (s.revokedAt.isSome = true → (f s).revokedAt.isSome = true)) (k : Key) (r : Row) :
    sessionsAge.Moves k (some r) (some (Row.mapSession f r)) := by
  cases r with
  | AuthSession s =>
      rintro _ ⟨⟩
      exact ⟨f s, rfl, hf s⟩
  | _ => exact sessionsAge.same _ _

lemma sessionsAge_setOwner (userId : Uuid) (k : Key) (r : Row) :
    sessionsAge.Moves k (some r) (some (setOwner userId r)) := by
  cases r with
  | AuthSession s => exact sessionsAge.same _ _
  | _ => exact sessionsAge_of_ne (by simp)

/-- A program under which sessions age. -/
def AgesSessions (prog : Statements) : Prop :=
  Along accountSchema sessionsAge 0 (fun _ => True) (fun _ => True) prog

lemma sessionsAge_admitsCalls : AdmitsCalls sessionsAge fun _ => True where
  user _ _ := sessionsAge_of_ne (by simp)
  session _ _ := sessionsAge_of_ne (by simp)
  hash := by
    intro hash k r
    refine sessionsAge_mapSession ?_ k r
    exact fun s => ⟨rfl, rfl, fun hrevoked => hrevoked⟩
  revoked := by
    intro now k r
    refine sessionsAge_mapSession ?_ k r
    exact fun s => ⟨rfl, rfl, fun _ => rfl⟩
  replaced := by
    intro now id k r
    refine sessionsAge_mapSession ?_ k r
    exact fun s => ⟨rfl, rfl, fun _ => rfl⟩
  chat _ userId k r _ _ := sessionsAge_setOwner userId k r
  usage _ userId k r _ _ := sessionsAge_setOwner userId k r
  anonymous := by
    rintro view S r - hr hanonymous k' r' v hr' he s hs
    have hchats : ∀ r'', view.rows S = some r'' → r''.isOfChats = true := by
      intro r'' hr''
      cases hr.symm.trans hr''
      cases r <;> simp_all [Row.isAnonymousSession, Row.isOfChats]
    cases hs
    rw [erase_session hchats hr' he]
    exact SessionAges.refl _ s rfl

/-- **Sessions age under every call.** -/
lemma agesSessions_call (service : TokenService) (call : AuthCall) :
    AgesSessions (call.statements service) :=
  sessionsAge_admitsCalls.along service fun _ _ => trivial

/-! ## Runs

No invariant is needed for this, so the contract is one that relies on nothing. -/

/-- Sessions age, and nothing else is promised. -/
def agingContract : Contract Row Statement Reply where
  Rely _ _ _ _ := True
  Guar _ rows rows' := ∀ k, SessionAges (rows k) (rows' k)
  mayFail := True
  Post _ _ _ := True
  refl _ _ _ := trivial
  trans _ _ _ _ _ _ _ := trivial
  weaken _ _ _ _ _ := trivial

section Runs

variable {n : ℕ} {service : TokenService} {rows : List (Option Row)} {calls : Fin n → AuthCall}
  {sys sys' : Sys n Row Statement Reply} {acts more : List (Fin n × Action)}

/-- **Sessions age along every run.** -/
lemma sessionAges_run (hrun : (authSystem service rows calls).run accountSchema acts = some sys)
    (hmore : sys.run accountSchema more = some sys') (k : Key) :
    SessionAges (sys.db.rows k) (sys'.db.rows k) := by
  have hadmissible : ∀ (sys : Sys n Row Statement Reply) i a,
      Admissible (fun _ => agingContract) sys i a :=
    fun _ _ _ => ⟨fun _ => trivial, fun _ _ _ _ _ _ _ _ => trivial⟩
  have hstart : Secure accountSchema (fun _ => True) (fun _ => agingContract)
      (authSystem service rows calls) := by
    refine Secure.start trivial (Db.lt_clock_ofRows rows) fun i => ?_
    exact (agesSessions_call service (calls i)).safe trivial
      (fun _ _ w db _ hw _ => ⟨fun k => hw.view k, trivial⟩) (fun _ _ _ _ => trivial)
      (Nat.zero_le _) (.nothing _ _)
  have hsecure := hstart.run (.of_forall _ hadmissible _ _) hrun
  exact hsecure.run_guar (.of_forall _ hadmissible _ _) hmore (fun _ _ => .refl _)
    (fun _ _ _ h h' k => (h k).trans (h' k)) (fun _ _ _ _ hguar => hguar) k

/-- **What an access check lets pass**, in a state `rows` of a run and a later one, `rows'`. -/
structure AccessControlled (service : TokenService) (rows rows' : Rows Row) : Prop where
  /-- The principal is the user of the session. -/
  owner : ∀ now token principal, authenticateAccess service rows now token = .ok principal →
    sessionUser rows principal.authSessionId = some principal.userId
  /-- Of the sessions of a device at most one is good. -/
  device : ∀ now now' token token' principal principal',
    authenticateAccess service rows now token = .ok principal →
      authenticateAccess service rows now' token' = .ok principal' →
        InFamily rows principal.authSessionId principal'.authSessionId → principal = principal'
  /-- A session that was rotated is good for nothing. -/
  rotated : ∀ now token principal, authenticateAccess service rows now token = .ok principal →
    replacementOf rows principal.authSessionId = none
  /-- What is good later was good before, as long as its session was there. -/
  final : ∀ now now' token principal, now ≤ now' →
    authenticateAccess service rows' now' token = .ok principal →
      (sessionUser rows principal.authSessionId).isSome →
        authenticateAccess service rows now token = .ok principal

/-- **Access control.**  After any interleaving of calls that began without sessions, and of any
that follow: of a device one session at most is accepted, a session that was replaced is not, and
what was refused stays refused. -/
theorem access_controlled (hempty : ∀ s, some (.AuthSession s) ∉ rows)
    (hrun : (authSystem service rows calls).run accountSchema acts = some sys)
    (hmore : sys.run accountSchema more = some sys') :
    AccessControlled service sys.db.rows sys'.db.rows := by
  have hsecure := authSystem_run hempty hrun
  have hsound := hsecure.inv.sound hsecure.locked.generated
  refine ⟨?_, ?_, ?_, ?_⟩
  · intro now token principal h
    obtain ⟨claims, session, -, hrow, huser, -, -, rfl⟩ := authenticateAccess_eq_ok_iff.mp h
    rw [sessionUser_of_eq hrow, huser]
  · intro now now' token token' principal principal' h h' hfamily
    obtain ⟨claims, session, -, hrow, huser, hactive, -, rfl⟩ := authenticateAccess_eq_ok_iff.mp h
    obtain ⟨claims', session', -, hrow', huser', hactive', -, rfl⟩ :=
      authenticateAccess_eq_ok_iff.mp h'
    obtain ⟨family, hmem, hfamilies⟩ := hsound.families _ session hrow
    have hlast := hfamilies.active _ ((hmem _).mpr (.refl _)) ⟨session, hrow, hactive⟩
    have hlast' := hfamilies.active _ ((hmem _).mpr hfamily) ⟨session', hrow', hactive'⟩
    have hsame : claims.sessionId = claims'.sessionId := Option.some.inj (hlast.symm.trans hlast')
    rw [hsame, hrow'] at hrow
    cases hrow
    rw [← huser, ← huser', hsame]
  · intro now token principal h
    obtain ⟨claims, session, -, hrow, -, hactive, -, rfl⟩ := authenticateAccess_eq_ok_iff.mp h
    exact hsecure.inv.replacementOf_active ⟨session, hrow, hactive⟩
  · intro now now' token principal hnow h hsome
    obtain ⟨claims, session', hclaims, hrow', huser', hactive', hnow', rfl⟩ :=
      authenticateAccess_eq_ok_iff.mp h
    obtain ⟨userId, huser⟩ := Option.isSome_iff_exists.mp hsome
    obtain ⟨session, hrow, -⟩ := exists_of_sessionUser huser
    obtain ⟨t, ht, hkept, hend, hrevoked⟩ := sessionAges_run hrun hmore _ session hrow
    cases hrow'.symm.trans ht
    have hactive : session.revokedAt = none := by
      cases hsession : session.revokedAt with
      | none => rfl
      | some at_ =>
          rw [hsession] at hrevoked
          simp [hactive'] at hrevoked
    rw [hend] at hnow'
    exact authenticateAccess_eq_ok_iff.mpr ⟨claims, session, hclaims, hrow, hkept.symm.trans huser',
      hactive, lt_of_le_of_lt hnow hnow', rfl⟩

end Runs

/-- The access token of a session is good until a refresh replaces the session. -/
theorem access_controlled_rotated : ∃ sys sys',
    (authSystem sessionTokens oneUser overtakingCalls).run accountSchema beforeSignOut = some sys
      ∧ sys.run accountSchema notOvertaken = some sys'
      ∧ AccessControlled sessionTokens sys.db.rows sys'.db.rows
      ∧ authenticateAccess sessionTokens sys.db.rows 15 "a." = .ok ⟨0, 1⟩
      ∧ (authenticateAccess sessionTokens sys'.db.rows 15 "a.").isOk = false := by
  have hruns : ((authSystem sessionTokens oneUser overtakingCalls).run accountSchema
      beforeSignOut).any (fun sys =>
        (authenticateAccess sessionTokens sys.db.rows 15 "a.").toOption == some ⟨0, 1⟩
          && (sys.run accountSchema notOvertaken).any fun sys' =>
            !(authenticateAccess sessionTokens sys'.db.rows 15 "a.").isOk) = true := by
    decide +kernel
  obtain ⟨sys, hrun, hsys⟩ := (Option.any_eq_true _ _).mp hruns
  rw [Bool.and_eq_true, beq_iff_eq] at hsys
  obtain ⟨sys', hmore, hrefused⟩ := (Option.any_eq_true _ _).mp hsys.2
  refine ⟨sys, sys', hrun, hmore, access_controlled (by simp [oneUser]) hrun hmore, ?_,
    by simpa using hrefused⟩
  cases haccess : authenticateAccess sessionTokens sys.db.rows 15 "a." with
  | error e =>
      rw [haccess] at hsys
      cases hsys.1
  | ok principal =>
      rw [haccess] at hsys
      exact congrArg Except.ok (Option.some.inj hsys.1)

/-! ## Signing out

After the UPDATE of a sign-out the session is revoked, by this call or by one that was faster. -/

/-- After the call the session is revoked. -/
def signOutContract (sessionId : Uuid) : Contract Row Statement Reply :=
  { authContract none with Post := fun _ _ rows => IsRevoked rows sessionId }

section SignOut

variable {sessionId userId : Uuid} {w : Writes Row} {db db' : Db Row} {log : List Statement}

/-- What the transaction sees as revoked stays so. -/
lemma IsRevoked.later (h : IsRevoked (db.apply w).rows sessionId)
    (hmoves : ∀ k, SessionMoves (db.rows k) (db'.rows k)) :
    IsRevoked (db'.apply w).rows sessionId := by
  obtain ⟨s, hs, hsome⟩ := h
  cases hw : w sessionId with
  | some v =>
      rw [Db.rows_apply_some hw] at hs
      exact ⟨s, (Db.rows_apply_some hw).trans hs, hsome⟩
  | none =>
      rw [Db.rows_apply_none hw] at hs
      obtain ⟨t, ht, -, hkept⟩ := hmoves sessionId s hs
      exact ⟨t, (Db.rows_apply_none hw).trans ht, (hkept hsome).1⟩

/-- The commit of a transaction that sees the session as revoked. -/
lemma safe_commitSignOut (hw : Overwrites pointersKept w db)
    (hrevoked : IsRevoked (db.apply w).rows sessionId) :
    Safe accountSchema RotationInvariant (signOutContract sessionId)
      (.commit .CommitRevocation (.done .Finished)) log w db := by
  intro db₁ h₁
  have hw₁ := hw.later h₁.undisturbed
  have hpointers : ∀ k, replacementOf (db₁.apply w).rows k = replacementOf db₁.rows k := by
    intro k
    rw [replacementOf_eq, replacementOf_eq]
    exact (hw₁.view k).2
  refine ⟨⟨fun k => (hw₁.view k).1, fun a b hab => .inl ?_⟩,
    h₁.inv.moves (fun k => (hw₁.view k).1) hpointers, fun db₂ h₂ => ?_⟩
  · rwa [hpointers] at hab
  · exact (hrevoked.later h₁.rely).moves h₂.rely

/-- The UPDATE of one session: it is revoked, or was. -/
lemma safe_revokeOne {label : Statement} {q : Row → Bool} {now : Timestamp}
    (hq : ∀ s, s.userId = userId → q (.AuthSession s) = s.revokedAt.isNone)
    (huser : sessionUser db.rows sessionId = some userId) :
    Safe accountSchema RotationInvariant (signOutContract sessionId)
      (.update label (fun k r => k == sessionId && q r) (setRevokedAt now) fun _ =>
        .commit .CommitRevocation (.done .Finished)) log (fun _ => none) db := by
  have hfound : ∀ db₁, (∃ db₀, Later accountSchema RotationInvariant (signOutContract sessionId) log
      none (fun _ => none) db db₀ ∧ Later accountSchema RotationInvariant (signOutContract sessionId)
        (label :: log) none (fun _ => none) db₀ db₁) →
      ∃ s, db₁.rows sessionId = some (.AuthSession s) ∧ s.userId = userId := by
    rintro db₁ ⟨db₀, h₀, h₁⟩
    exact exists_of_sessionUser (sessionUser_moves h₁.rely (sessionUser_moves h₀.rely huser))
  refine safe_updateOne (fun db₁ r h hr _ => ⟨fun _ => ?_, fun _ => trivial⟩) fun db₁ h hmiss => ?_
  · obtain ⟨s, hs, -⟩ := hfound db₁ h
    have hrow := hr
    rw [Db.rows_apply_none rfl, hs] at hrow
    cases hrow
    refine safe_commitSignOut
      ((Overwrites.nothing _ _).write hr (pointersKept_setRevokedAt now _ _)) ?_
    exact ⟨{ s with revokedAt := some now }, Db.rows_apply_update_self _ _ _ _, rfl⟩
  · obtain ⟨s, hs, hsame⟩ := hfound db₁ h
    refine safe_commitSignOut (.nothing _ _) ⟨s, (Db.rows_apply_none rfl).trans hs, ?_⟩
    have hinactive := hmiss _ ((Db.rows_apply_none rfl).trans hs)
    rw [hq s hsame] at hinactive
    simpa using hinactive

/-- The two calls that sign one session out. -/
lemma safe_signOut {now : Timestamp} {prog : Statements}
    (hprog : prog = signOut sessionId now ∨ prog = revokeOwned userId sessionId now)
    (huser : sessionUser db.rows sessionId = some userId) :
    Safe accountSchema RotationInvariant (signOutContract sessionId) prog log (fun _ => none) db := by
  rcases hprog with rfl | rfl
  · exact safe_revokeOne (fun _ _ => rfl) huser
  · exact safe_revokeOne (fun s hs => by simp [Row.isActiveSessionOf, hs]) huser

end SignOut

/-- **Signing a session out.**  Client `i` signs a session out that is there in the state `sys`, and
its call has returned in `sys'`.  From then on the access tokens of the session are refused,
whatever the other calls do; a refresh that was under way may still replace the session. -/
theorem signOut_refuses {n : ℕ} {service : TokenService} {rows : List (Option Row)}
    {calls : Fin n → AuthCall} {acts more rest : List (Fin n × Action)}
    {sys sys' sys'' : Sys n Row Statement Reply} {i : Fin n} {sessionId userId : Uuid}
    {now : Timestamp} {reply : Reply} (hempty : ∀ s, some (.AuthSession s) ∉ rows)
    (hrun : (authSystem service rows calls).run accountSchema acts = some sys)
    (huser : sessionUser sys.db.rows sessionId = some userId)
    (hstart : sys.procs i = .start (signOut sessionId now)
      ∨ sys.procs i = .start (revokeOwned userId sessionId now))
    (hmore : sys.run accountSchema more = some sys') (hdone : (sys'.procs i).prog = .done reply)
    (hrest : sys'.run accountSchema rest = some sys'') :
    ∀ now' token principal, authenticateAccess service sys''.db.rows now' token = .ok principal →
      principal.authSessionId ≠ sessionId := by
  have hsecure := authSystem_run hempty hrun
  -- all contracts promise and rely on the same
  have hcommon : ∀ j,
      (Function.update (authContracts service calls) i (signOutContract sessionId) j).mayFail
      ∧ (Function.update (authContracts service calls) i (signOutContract sessionId) j).Guar
        = (authContract none).Guar
      ∧ ∀ log scan rows rows', (∀ k, SessionMoves (rows k) (rows' k)) →
        (Function.update (authContracts service calls) i (signOutContract sessionId) j).Rely log scan
          rows rows' := by
    intro j
    by_cases hj : j = i
    · rw [hj, Function.update_self]
      exact ⟨trivial, rfl, fun _ _ _ _ h => h⟩
    · rw [Function.update_of_ne hj]
      exact ⟨trivial, rfl, fun _ _ _ _ h => h⟩
  have hsafe : SafeProc accountSchema RotationInvariant (signOutContract sessionId) (sys.procs i)
      sys.db := by
    rcases hstart with hstart | hstart
    · rw [hstart]
      exact safe_signOut (.inl rfl) huser
    · rw [hstart]
      exact safe_signOut (.inr rfl) huser
  have hadmissible : ∀ (mid : Sys n Row Statement Reply) j a, Admissible
      (Function.update (authContracts service calls) i (signOutContract sessionId)) mid j a := by
    refine fun mid j a => ⟨fun _ => (hcommon j).1, fun _ label next _ hguar j' _ _ => ?_⟩
    rw [(hcommon j).2.1] at hguar
    exact (hcommon j').2.2 _ _ _ _ hguar.1
  have hpost := ((hsecure.update hsafe).run (.of_forall _ hadmissible _ _) hmore).post hdone
  rw [Function.update_self] at hpost
  have hrun' : (authSystem service rows calls).run accountSchema (acts ++ more) = some sys' := by
    rw [Sys.run_append, hrun]
    exact hmore
  have hrevoked := (rotation_families hempty hrun' hrest).2.1 sessionId hpost
  rintro now' token principal h rfl
  obtain ⟨claims, session, -, hrow, -, hactive, -, rfl⟩ := authenticateAccess_eq_ok_iff.mp h
  obtain ⟨s, hs, hsome⟩ := hrevoked
  cases hrow.symm.trans hs
  rw [hactive] at hsome
  cases hsome

/-- A sign-in, a refresh with the token it returns, and a sign-out of the session. -/
def signOutCalls : Fin 3 → AuthCall
  | 0 => .SignIn "user@example.com" (fun _ => true) none (plainInput "first")
  | 1 => .Refresh "r." (plainInput "second")
  | 2 => .SignOut 1 20

attribute [local instance] neZero_three in
/-- The sign-in, up to its commit. -/
def signedInActs : List (Fin 3 × Action) :=
  [(0, .Proceed), (0, .Proceed), (0, .Proceed), (0, .Visit 1), (0, .Proceed), (0, .Proceed)]

attribute [local instance] neZero_three in
/-- The sign-out, with a refresh that has read the session before. -/
def signOutActs : List (Fin 3 × Action) :=
  [(1, .Proceed), (2, .Proceed), (2, .Visit 1), (2, .Proceed), (2, .Proceed)]

attribute [local instance] neZero_three in
/-- The rest of the refresh. -/
def lateRefreshActs : List (Fin 3 × Action) :=
  [(1, .Proceed), (1, .Proceed), (1, .Visit 2), (1, .Proceed), (1, .Proceed), (1, .Proceed)]

/-- A session is signed out while a refresh of it is under way: whatever becomes of the refresh, no
access token of the session is accepted any more. -/
theorem signOut_refuses_refreshing : ∃ sys sys' sys'',
    (authSystem sessionTokens oneUser signOutCalls).run accountSchema signedInActs = some sys
      ∧ sys.run accountSchema signOutActs = some sys'
      ∧ sys'.run accountSchema lateRefreshActs = some sys''
      ∧ ∀ now' token principal,
        authenticateAccess sessionTokens sys''.db.rows now' token = .ok principal →
          principal.authSessionId ≠ 1 := by
  have hruns : ((authSystem sessionTokens oneUser signOutCalls).run accountSchema
      signedInActs).any (fun sys => sessionUser sys.db.rows 1 == some 0
        && (sys.run accountSchema signOutActs).any fun sys' =>
          (sys'.procs 2).prog.answer == some .Finished
            && (sys'.run accountSchema lateRefreshActs).isSome) = true := by decide +kernel
  obtain ⟨sys, hrun, hsys⟩ := (Option.any_eq_true _ _).mp hruns
  rw [Bool.and_eq_true, beq_iff_eq] at hsys
  obtain ⟨sys', hmore, hend⟩ := (Option.any_eq_true _ _).mp hsys.2
  simp only [Bool.and_eq_true, beq_iff_eq, Prog.answer_eq_some] at hend
  obtain ⟨sys'', hrest⟩ := Option.isSome_iff_exists.mp hend.2
  have hstart : sys.procs 2 = .start (signOut 1 20) := Sys.run_procs hrun (by decide)
  exact ⟨sys, sys', sys'', hrun, hmore, hrest,
    signOut_refuses (by simp [oneUser]) hrun hsys.1 (.inl hstart) hmore hend.1 hrest⟩

end RagStack
