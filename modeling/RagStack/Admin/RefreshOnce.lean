import RagStack.Admin.AdminAuth
import RagStack.Core.AllOrNothing
import RagStack.Core.Overwrites

/-!
# An admin refresh token is used once

A rotation claims the old session by an UPDATE that finds it unrevoked, and creates the new one in
the same transaction.  So a session that has been rotated or signed out is over.

Two things are meant by this.  The first is that a refresh token can be exchanged once.  Of all
calls that present it at most one succeeds, and the others leave no trace in the tables, neither a
session nor a timestamp.  The second is about the time after a success: once a refresh or a sign-out
of a session has been answered, no refresh of it can succeed, not even one that had found the
session open before, and every request that begins later with a token of the session is rejected.

Both come from one invariant, that a revoked session stays and stays revoked, together with what a
rotation has to find.  At its commit the session was open for everybody else up to then, and is
closed now.  A second commit of the same kind would have to find it open again.  What the other
refreshes have done by then is undone by their rollback, and a call which answers that the token is
invalid has committed nothing.

For the requests it is enough that the guard reads the session after it was closed.  A request that
has passed the guard before goes on, and the theorem says nothing about it.

* `sessionsStay` — how sessions change: a revoked one stays revoked.
* `adminContract`, `AdminCall.safe` — a rotation commits only if its session was open until then.
* `UsedOnce`, `IsOver` — what this means for the calls of a run.
* `adminRefresh_once` — both hold in every run.
-/

namespace RagStack

/-! ## Sessions

`SessionsStay` is transitive, so it holds from any state to any later one. -/

/-- The session is there and has not been revoked. -/
def IsOpen (rows : Rows AdminRow) (id : Uuid) : Prop :=
  ∃ session, rows id = some (.AdminSession session) ∧ session.revokedAt = none

/-- The session is there and has been revoked. -/
def IsClosed (rows : Rows AdminRow) (id : Uuid) : Prop :=
  ∃ session, rows id = some (.AdminSession session) ∧ session.revokedAt.isSome = true

lemma IsClosed.not_isOpen {rows : Rows AdminRow} {id : Uuid} (h : IsClosed rows id) :
    ¬ IsOpen rows id := by
  obtain ⟨s, hs, hrevoked⟩ := h
  rintro ⟨t, ht, hnone⟩
  cases hs.symm.trans ht
  rw [hnone] at hrevoked
  cases hrevoked

/-- A session stays, and stays revoked. -/
def sessionsStay : Evolution AdminRow where
  Moves _ x y := ∀ s, x = some (.AdminSession s) → ∃ t, y = some (.AdminSession t)
    ∧ (s.revokedAt.isSome = true → t.revokedAt.isSome = true)
  same _ _ s hs := ⟨s, hs, id⟩
  trans := by
    intro _ _ _ _ h h' s hs
    obtain ⟨t, ht, hkept⟩ := h s hs
    obtain ⟨t', ht', hkept'⟩ := h' t ht
    exact ⟨t', ht', fun hrevoked => hkept' (hkept hrevoked)⟩

/-- How all sessions may change between two states: none disappears, and what is revoked stays
revoked. -/
def SessionsStay (rows rows' : Rows AdminRow) : Prop :=
  ∀ k, sessionsStay.Moves k (rows k) (rows' k)

lemma SessionsStay.trans {rows rows₁ rows₂ : Rows AdminRow} (h : SessionsStay rows rows₁)
    (h' : SessionsStay rows₁ rows₂) : SessionsStay rows rows₂ := by
  intro k
  cases hmid : rows₁ k with
  | some r => exact sessionsStay.trans k _ r _ (hmid ▸ h k) (hmid ▸ h' k)
  | none =>
      intro s hs
      obtain ⟨t, ht, -⟩ := h k s hs
      rw [hmid] at ht
      cases ht

lemma IsClosed.stays {rows rows' : Rows AdminRow} {id : Uuid} (h : IsClosed rows id)
    (hstay : SessionsStay rows rows') : IsClosed rows' id := by
  obtain ⟨s, hs, hrevoked⟩ := h
  obtain ⟨t, ht, hkept⟩ := hstay id s hs
  exact ⟨t, ht, hkept hrevoked⟩

/-- A change of columns that revokes or leaves `revoked_at`. -/
lemma sessionsStay_mapSession {f : AdminSession → AdminSession}
    (hf : ∀ s, s.revokedAt.isSome = true → (f s).revokedAt.isSome = true) (k : Key) (r : AdminRow) :
    sessionsStay.Moves k (some r) (some (AdminRow.mapSession f r)) := by
  rintro s ⟨⟩
  exact ⟨f s, rfl, hf s⟩

lemma sessionsStay_mapAdmin {f : Admin → Admin} (k : Key) (r : AdminRow) :
    sessionsStay.Moves k (some r) (some (AdminRow.mapAdmin f r)) := by
  rintro s ⟨⟩
  exact ⟨s, rfl, id⟩

lemma sessionsStay_none (k : Key) (y : Option AdminRow) : sessionsStay.Moves k none y := by
  rintro s ⟨⟩

/-! ## The contract of a call

Only a rotation or a sign-out closes a session, and only the one whose token was presented. -/

/-- The answers after which a session is over. -/
def AdminReply.Closes : AdminReply → Prop
  | Refreshed _ _ | SignedOut => True
  | SignedIn _ _ | Authenticated _ | Unauthorized _ => False

/-- The session whose token a call presents. -/
def AdminCall.session (service : AdminTokenService) : AdminCall → Option Uuid
  | SignIn _ _ _ => none
  | Refresh rawToken _ | Authenticate rawToken _ | SignOut rawToken _ => service.sessionOf rawToken

/-- What a call relies on and guarantees: no session is revived, a rotation finds its session open,
and after a refresh or a sign-out the session is closed. -/
def adminContract (presented : Option Uuid) : Contract AdminRow AdminStatement AdminReply where
  Rely _ _ rows rows' := SessionsStay rows rows'
  Guar log rows rows' := SessionsStay rows rows'
    ∧ ∀ id, log.head? = some (.CommitRotation id) → IsOpen rows id
  mayFail := True
  Post _ reply rows := reply.Closes → ∃ id, presented = some id ∧ IsClosed rows id
  refl _ _ _ _ := sessionsStay.same _ _
  trans _ _ _ _ _ h h' := h.trans h'
  weaken _ _ _ _ h := h

/-- Safety of a program that presents a token of a session. -/
abbrev SafeAdmin (presented : Option Uuid) (prog : AdminStatements) (log : List AdminStatement)
    (w : Writes AdminRow) (db : Db AdminRow) : Prop :=
  Safe adminSchema (fun _ => True) (adminContract presented) prog log w db

/-- What may have happened meanwhile. -/
abbrev LaterAdmin (presented : Option Uuid) (log : List AdminStatement) (w : Writes AdminRow)
    (db db' : Db AdminRow) : Prop :=
  Later adminSchema (fun _ => True) (adminContract presented) log none w db db'

section Safety

variable {presented : Option Uuid} {service : AdminTokenService} {sessionId adminId : Uuid}
  {input : AdminInput} {log : List AdminStatement} {w : Writes AdminRow} {db db' : Db AdminRow}

/-- A program that closes no session. -/
def ClosesNone (prog : AdminStatements) : Prop :=
  Along adminSchema sessionsStay 0 (fun label => ∀ id, label ≠ .CommitRotation id)
    (fun reply => ¬ reply.Closes) prog

/-- **A program that closes no session is safe.** -/
lemma ClosesNone.safe {prog : AdminStatements} (h : ClosesNone prog)
    (hw : Overwrites sessionsStay w db) : SafeAdmin presented prog log w db := by
  refine Along.safe trivial ?_ ?_ h (Nat.zero_le _) hw
  · intro label log w db hlabel hw _
    exact ⟨⟨hw.view, fun id hid => absurd (Option.some.inj hid) (hlabel id)⟩, trivial⟩
  · intro log reply rows hreply hcloses
    exact absurd hcloses hreply

lemma closesNone_createRecord {next : AdminTokens → AdminStatements}
    (hnext : ∀ tokens, ClosesNone (next tokens)) :
    ClosesNone (createRecord service adminId input next) := by
  refine fun id _ => ⟨sessionsStay_none _ _, fun k r _ => ?_, fun count => ?_⟩
  · refine sessionsStay_mapSession ?_ k r
    exact fun _ hrevoked => hrevoked
  · show Along _ _ _ _ _ (if count = 0 then _ else _)
    split
    · trivial
    · exact hnext _

lemma closesNone_signIn (email : String) (verifies : String → Bool) :
    ClosesNone (signInAdmin service email verifies input) := by
  intro db
  dsimp only
  split
  · split
    · refine closesNone_createRecord fun tokens => ⟨by simp, ?_⟩
      refine ⟨fun k r _ => sessionsStay_mapAdmin k r, fun count => ?_⟩
      show Along _ _ _ _ _ (if count = 0 then _ else _)
      split
      · trivial
      · exact ⟨by simp, id⟩
    · exact id
  · exact id

/-! ## A rotation

From the claim on the session is locked, so that it stays as the transaction has found it. -/

/-- The session is open for everybody else, and the transaction has revoked it. -/
structure Claiming (sessionId : Uuid) (w : Writes AdminRow) (db : Db AdminRow) : Prop where
  isOpen : IsOpen db.rows sessionId
  claimed : ∃ t, w sessionId = some (some (.AdminSession t)) ∧ t.revokedAt.isSome = true
  overwrites : Overwrites sessionsStay w db

lemma Claiming.later (h : Claiming sessionId w db) (hlater : LaterAdmin presented log w db db') :
    Claiming sessionId w db' := by
  obtain ⟨t, ht, hrevoked⟩ := h.claimed
  obtain ⟨s, hs, hnone⟩ := h.isOpen
  exact ⟨⟨s, (hlater.undisturbed.rows sessionId _ ht).trans hs, hnone⟩, ⟨t, ht, hrevoked⟩,
    h.overwrites.later hlater.undisturbed⟩

lemma Claiming.update (h : Claiming sessionId w db) {k : Key} {v : Option (Option AdminRow)}
    (hk : k ≠ sessionId) {db' : Db AdminRow} (hrows : db'.rows = db.rows)
    (hw : Overwrites sessionsStay (Function.update w k v) db') :
    Claiming sessionId (Function.update w k v) db' := by
  obtain ⟨t, ht, hrevoked⟩ := h.claimed
  refine ⟨hrows ▸ h.isOpen, ⟨t, ?_, hrevoked⟩, hw⟩
  rwa [Function.update_of_ne hk.symm]

lemma Claiming.isClosed (h : Claiming sessionId w db) : IsClosed (db.apply w).rows sessionId := by
  obtain ⟨t, ht, hrevoked⟩ := h.claimed
  exact ⟨t, Db.rows_apply_some ht, hrevoked⟩

lemma Claiming.safe_commit (h : Claiming sessionId w db) {reply : AdminReply} :
    SafeAdmin (some sessionId) (.commit (.CommitRotation sessionId) (.done reply)) log w db := by
  intro db₁ h₁
  have hclaiming := h.later h₁
  refine ⟨⟨hclaiming.overwrites.view, ?_⟩, trivial, fun db₂ h₂ _ => ?_⟩
  · rintro _ ⟨⟩
    exact hclaiming.isOpen
  · exact ⟨sessionId, rfl, hclaiming.isClosed.stays h₂.rely⟩

lemma Claiming.safe_createRecord (h : Claiming sessionId w db) {reply : AdminTokens → AdminReply} :
    SafeAdmin (some sessionId) (createRecord service adminId input fun tokens =>
      .commit (.CommitRotation sessionId) (.done (reply tokens))) log w db := by
  intro db₁ h₁
  refine ⟨fun _ => ?_, fun _ => trivial⟩
  have hclaiming := h.later h₁
  have hne : db₁.clock ≠ sessionId := by
    obtain ⟨s, hs, -⟩ := hclaiming.isOpen
    exact (h₁.generated _ _ hs).ne'
  have hinserted : Claiming sessionId (Function.update w db₁.clock
      (some (some (.AdminSession (newAdminSession adminId input db₁.clock))))) db₁.tick :=
    hclaiming.update hne rfl (hclaiming.overwrites.insert h₁.fresh.1 (sessionsStay_none _ _))
  refine safe_updateOne ?_ ?_
  · rintro db₂ r ⟨db₀, h₀, h₂⟩ hr -
    have hlast := (hinserted.later h₀).later h₂
    refine ⟨fun _ => Claiming.safe_commit ?_, fun _ => trivial⟩
    refine hlast.update hne rfl (hlast.overwrites.write hr (sessionsStay_mapSession ?_ _ _))
    exact fun _ hrevoked => hrevoked
  · rintro db₂ - -
    trivial

/-- **A rotation is safe.** -/
lemma safe_rotate {reply : AdminTokens → AdminReply} {message : String} :
    SafeAdmin (some sessionId) (rotate service sessionId adminId input
      (fun tokens => .done (reply tokens)) (.done (.Unauthorized message))) log (fun _ => none)
      db := by
  refine safe_updateOne ?_ ?_
  · rintro db₁ r - hr hopen
    refine ⟨fun _ => Claiming.safe_createRecord ?_, fun _ => trivial⟩
    cases r with
    | Admin admin => cases hopen
    | AdminSession s =>
        refine ⟨⟨s, hr, Option.isNone_iff_eq_none.mp hopen⟩, ⟨_, Function.update_self _ _ _, rfl⟩, ?_⟩
        exact (Overwrites.nothing _ _).write hr (sessionsStay_mapSession (fun _ _ => rfl) _ _)
  · rintro db₁ - -
    exact fun db₂ _ db₃ _ hcloses => hcloses.elim

/-! ## A sign-out -/

/-- A session that the transaction sees as revoked stays so. -/
lemma isClosed_later {id : Uuid} (h : IsClosed (db.apply w).rows id)
    (hlater : LaterAdmin presented log w db db') : IsClosed (db'.apply w).rows id := by
  cases hw : w id with
  | some v =>
      obtain ⟨s, hs, hrevoked⟩ := h
      rw [Db.rows_apply_some hw] at hs
      exact ⟨s, (Db.rows_apply_some hw).trans hs, hrevoked⟩
  | none =>
      obtain ⟨s, hs, hrevoked⟩ := h
      rw [Db.rows_apply_none hw] at hs
      obtain ⟨t, ht, hrevoked'⟩ := IsClosed.stays ⟨s, hs, hrevoked⟩ hlater.rely
      exact ⟨t, (Db.rows_apply_none hw).trans ht, hrevoked'⟩

lemma safe_commitRevocation (hw : Overwrites sessionsStay w db)
    (hclosed : IsClosed (db.apply w).rows sessionId) :
    SafeAdmin (some sessionId) (.commit (.CommitRevocation sessionId) (.done .SignedOut)) log w
      db := by
  intro db₁ h₁
  refine ⟨⟨(hw.later h₁.undisturbed).view, fun id hid => by cases hid⟩, trivial, fun db₂ h₂ _ => ?_⟩
  exact ⟨sessionId, rfl, (isClosed_later hclosed h₁).stays h₂.rely⟩

/-- **A sign-out is safe**: the session is revoked by it, or has been meanwhile. -/
lemma safe_revoke (hsession : ∃ s, db.rows sessionId = some (.AdminSession s)) :
    SafeAdmin (some sessionId) (revoke sessionId input (.done .SignedOut)) log (fun _ => none)
      db := by
  refine safe_updateOne ?_ ?_
  · rintro db₁ r - hr hopen
    refine ⟨fun _ => safe_commitRevocation ?_ ?_, fun _ => trivial⟩
    · exact (Overwrites.nothing _ _).write hr (sessionsStay_mapSession (fun _ _ => rfl) _ _)
    · cases r with
      | Admin admin => cases hopen
      | AdminSession s => exact ⟨_, Db.rows_apply_update_self _ _ _ _, rfl⟩
  · rintro db₁ ⟨db₀, h₀, h₁⟩ hmiss
    refine safe_commitRevocation (.nothing _ _) ?_
    obtain ⟨s, hs⟩ := hsession
    obtain ⟨t, ht, -⟩ := SessionsStay.trans h₀.rely h₁.rely sessionId s hs
    refine ⟨t, ht, ?_⟩
    simpa [AdminRow.isUnrevoked, Option.isSome_iff_ne_none] using hmiss _ ht

/-! ## The calls -/

/-- What the guard finds is a session. -/
lemma exists_of_findActive {rows : Rows AdminRow} {now : Timestamp} {principal : AdminPrincipal}
    (h : findActive rows sessionId adminId now = some principal) :
    principal.adminSessionId = sessionId ∧ IsOpen rows sessionId := by
  simp only [findActive] at h
  split at h
  · rename_i s hs
    split at h
    · rename_i hactive
      cases h
      exact ⟨rfl, s, hs, hactive.2.1⟩
    · cases h
  · cases h

/-- The claims of a verified token name its session. -/
lemma sessionOf_of_verify {rawToken : Token} {type : TokenType} {now : Timestamp}
    {claims : AdminTokenClaims} (h : service.verify rawToken type now = some claims) :
    service.sessionOf rawToken = some claims.sessionId := by
  simp only [AdminTokenService.verify] at h
  split at h
  · cases h
  · split at h
    · rename_i hpayload
      split at h
      · cases h
        simp only [AdminTokenService.sessionOf, hpayload, Option.bind_some]
      · cases h
    · cases h

lemma safe_refreshAdmin (rawToken : Token) :
    SafeAdmin (service.sessionOf rawToken) (refreshAdmin service rawToken input) log (fun _ => none)
      db := by
  have hquiet : ∀ {log db} {message : String}, SafeAdmin (service.sessionOf rawToken)
      (.done (.Unauthorized message)) log (fun _ => none) db :=
    fun _ _ hcloses => hcloses.elim
  simp only [refreshAdmin]
  cases hverify : service.verify rawToken .Refresh input.verifiedAt with
  | none => exact hquiet
  | some claims =>
      intro db₁ h₁
      dsimp only
      split
      · exact hquiet
      · intro db₂ h₂
        dsimp only
        split
        · rw [sessionOf_of_verify hverify]
          exact safe_rotate
        · exact hquiet

lemma safe_authenticate {rawToken : Token} {next : AdminPrincipal → AdminStatements}
    (hnext : ∀ sessionId principal log db, service.sessionOf rawToken = some sessionId →
      principal.adminSessionId = sessionId → IsOpen db.rows sessionId →
        SafeAdmin (some sessionId) (next principal) log (fun _ => none) db) :
    SafeAdmin (service.sessionOf rawToken) (authenticate service rawToken input next) log
      (fun _ => none) db := by
  simp only [authenticate]
  cases hverify : service.verify rawToken .Access input.verifiedAt with
  | none => exact fun _ _ hcloses => hcloses.elim
  | some claims =>
      intro db₁ h₁
      dsimp only
      split
      · exact fun _ _ hcloses => hcloses.elim
      · rename_i principal hactive
        obtain ⟨hid, hopen⟩ := exists_of_findActive hactive
        rw [sessionOf_of_verify hverify]
        exact hnext _ _ _ _ (sessionOf_of_verify hverify) hid hopen

/-- **Every call keeps its contract.** -/
theorem AdminCall.safe (call : AdminCall) :
    SafeAdmin (call.session service) (call.statements service) [] (fun _ => none) db := by
  cases call with
  | SignIn email verifies input => exact (closesNone_signIn email verifies).safe (.nothing _ _)
  | Refresh rawToken input => exact safe_refreshAdmin rawToken
  | Authenticate rawToken input =>
      exact safe_authenticate fun _ _ _ _ _ _ _ _ _ hcloses => hcloses.elim
  | SignOut rawToken input =>
      refine safe_authenticate fun sessionId principal log db _ hid hopen => ?_
      obtain ⟨s, hs, -⟩ := hopen
      rw [hid]
      exact safe_revoke ⟨s, hs⟩

end Safety

/-! ## Refreshes

A refresh has one commit, at its end.  Having committed and having succeeded are therefore the same.
-/

/-- The call has exchanged its refresh token. -/
def AdminReply.IsRefreshed : AdminReply → Prop
  | Refreshed _ _ => True
  | _ => False

def AdminReply.IsUnauthorized : AdminReply → Prop
  | Unauthorized _ => True
  | _ => False

lemma Proc.Answered.closes {p : Proc AdminRow AdminStatement AdminReply}
    (h : p.Answered AdminReply.IsRefreshed) : p.Answered AdminReply.Closes := by
  obtain ⟨reply, hreply, hgood⟩ := h
  cases reply with
  | Refreshed admin tokens => exact ⟨_, hreply, trivial⟩
  | SignedIn | Authenticated | SignedOut | Unauthorized => cases hgood

/-- The commit of a rotation of the session that the token names. -/
def RotationOf (service : AdminTokenService) (rawToken : Token) (label : AdminStatement) : Prop :=
  ∃ id, service.sessionOf rawToken = some id ∧ label = .CommitRotation id

/-- **A refresh commits exactly when it succeeds.** -/
lemma atomic_refreshAdmin (service : AdminTokenService) (rawToken : Token) (input : AdminInput) :
    (refreshAdmin service rawToken input).Atomic AdminReply.IsRefreshed
      (RotationOf service rawToken) := by
  simp only [refreshAdmin]
  cases hverify : service.verify rawToken .Refresh input.verifiedAt with
  | none => exact id
  | some claims =>
      intro db
      dsimp only
      split
      · exact id
      · intro db'
        dsimp only
        split
        · intro count
          dsimp only
          split
          · intro id count
            dsimp only
            split
            · trivial
            · exact ⟨⟨_, sessionOf_of_verify hverify, rfl⟩, _, rfl, trivial⟩
          · exact id
        · exact id

section Runs

variable {n : ℕ} {service : AdminTokenService} {rows : List (Option AdminRow)}
  {calls : Fin n → AdminCall} {acts more : List (Fin n × Action)}
  {sys sys' : Sys n AdminRow AdminStatement AdminReply} {i j : Fin n} {a : Action}
  {rawToken : Token} {input : AdminInput} {id : Uuid}

variable (service calls) in
def adminContracts (i : Fin n) : Contract AdminRow AdminStatement AdminReply :=
  adminContract ((calls i).session service)

variable (service calls) in
abbrev AdminSecure (sys : Sys n AdminRow AdminStatement AdminReply) : Prop :=
  Secure adminSchema (fun _ => True) (adminContracts service calls) sys

lemma adminContracts_admissible (sys : Sys n AdminRow AdminStatement AdminReply) (i : Fin n)
    (a : Action) : Admissible (adminContracts service calls) sys i a :=
  ⟨fun _ => trivial, fun _ _ _ _ hguar _ _ _ => hguar.1⟩

lemma adminSystem_secure : AdminSecure service calls (adminSystem service rows calls) :=
  Secure.start trivial (Db.lt_clock_ofRows rows) fun _ => AdminCall.safe _

/-- An induction over a run of calls that keep their contracts. -/
lemma AdminSecure.run_induct (h : AdminSecure service calls sys)
    (hrun : sys.run adminSchema acts = some sys')
    {Q : Sys n AdminRow AdminStatement AdminReply → Prop} (hstart : Q sys)
    (hstep : ∀ sys i a sys', AdminSecure service calls sys → Moved adminSchema sys i a sys' →
      Q sys → Q sys') : AdminSecure service calls sys' ∧ Q sys' :=
  Secure.run_induct h (.of_forall _ adminContracts_admissible _ _) hrun hstart
    fun sys i a sys' hsecure _ hmoved => hstep sys i a sys' hsecure hmoved

/-- A session that was refreshed or signed out is closed. -/
lemma isClosed_of_answered (h : AdminSecure service calls sys)
    (hsession : (calls i).session service = some id)
    (hanswered : (sys.procs i).Answered AdminReply.Closes) : IsClosed sys.db.rows id := by
  obtain ⟨reply, hreply, hcloses⟩ := hanswered
  obtain ⟨id', hid', hclosed⟩ := h.post hreply hcloses
  cases hsession.symm.trans hid'
  exact hclosed

/-- **A refresh that succeeds finds its session open.** -/
lemma isOpen_of_refreshed (h : AdminSecure service calls sys)
    (hall : AllOrNothing AdminReply.IsRefreshed (RotationOf service rawToken) (sys.procs i))
    (hmoved : Moved adminSchema sys j a sys')
    (hnot : ¬ (sys.procs i).Answered AdminReply.IsRefreshed)
    (hanswered : (sys'.procs i).Answered AdminReply.IsRefreshed) :
    j = i ∧ ∃ id, service.sessionOf rawToken = some id ∧ IsOpen sys.db.rows id := by
  have hj : j = i := by
    by_contra hj
    rw [Sys.procs_of_moved hmoved (Ne.symm hj)] at hanswered
    exact hnot hanswered
  subst hj
  refine ⟨rfl, ?_⟩
  rcases atomic_of_moved (hall.resolve_right hnot) hmoved with
    ⟨-, hatomic⟩ | ⟨label, next, ⟨id, hid, rfl⟩, hscan, hprog, -⟩
  · exact absurd hanswered hatomic.not_answered
  · exact ⟨id, hid, (h.guar hscan hprog).2 id rfl⟩

lemma sessionsStay_of_moved (h : AdminSecure service calls sys)
    (hmoved : Moved adminSchema sys j a sys') : SessionsStay sys.db.rows sys'.db.rows := by
  rcases (h.moved hmoved).2 with hrows | ⟨label, -, hguar⟩
  · rw [hrows]
    exact fun k => sessionsStay.same k _
  · exact hguar.1

lemma atomic_start (hcall : calls i = .Refresh rawToken input) :
    ((adminSystem service rows calls).procs i).prog.Atomic AdminReply.IsRefreshed
      (RotationOf service rawToken) := by
  show ((calls i).statements service).Atomic _ _
  rw [hcall]
  exact atomic_refreshAdmin _ _ _

/-- Every refresh is all or nothing, at any time. -/
lemma allOrNothing_refresh (hcall : calls i = .Refresh rawToken input)
    (hrun : (adminSystem service rows calls).run adminSchema acts = some sys) :
    AllOrNothing AdminReply.IsRefreshed (RotationOf service rawToken) (sys.procs i) :=
  (adminSystem_secure.run_induct hrun (Q := fun sys =>
    AllOrNothing AdminReply.IsRefreshed (RotationOf service rawToken) (sys.procs i))
    (.inl (atomic_start hcall)) fun _ _ _ _ _ hmoved hall => hall.step hmoved).2

/-! ## Uses of a token

The two properties, and what each follows from. -/

/-- **A refresh token is used once**: of the calls that present it at most one succeeds, and no step
of the others changes a row. -/
structure UsedOnce (service : AdminTokenService) (rows : List (Option AdminRow))
    (calls : Fin n → AdminCall) (acts : List (Fin n × Action))
    (sys : Sys n AdminRow AdminStatement AdminReply) (rawToken : Token) : Prop where
  once : ∀ i j input input', calls i = .Refresh rawToken input → calls j = .Refresh rawToken input' →
    (sys.procs i).Answered AdminReply.IsRefreshed →
      (sys.procs j).Answered AdminReply.IsRefreshed → i = j
  unchanged : ∀ i input, calls i = .Refresh rawToken input →
    ¬ (sys.procs i).Answered AdminReply.IsRefreshed →
      (adminSystem service rows calls).AlongRun adminSchema (fun mid j a => j = i →
        ∀ mid' ∈ mid.step adminSchema j a, mid'.db.rows = mid.db.rows) acts

/-- The client is still before its first statement, or it was rejected, or it has failed. -/
def Rejected (start p : Proc AdminRow AdminStatement AdminReply) : Prop :=
  p = start ∨ p.Answered AdminReply.IsUnauthorized ∨ p.prog = .failed

/-- **The session is over** from `sys` on: no refresh succeeds any more, also none that had begun
before, and every request that begins later is rejected. -/
structure IsOver (service : AdminTokenService) (calls : Fin n → AdminCall) (id : Uuid)
    (sys sys' : Sys n AdminRow AdminStatement AdminReply) : Prop where
  refresh : ∀ i rawToken input, calls i = .Refresh rawToken input →
    service.sessionOf rawToken = some id → ¬ (sys.procs i).Answered AdminReply.IsRefreshed →
      ¬ (sys'.procs i).Answered AdminReply.IsRefreshed
  access : ∀ i rawAccessToken input,
    calls i = .Authenticate rawAccessToken input ∨ calls i = .SignOut rawAccessToken input →
      service.sessionOf rawAccessToken = some id →
        sys.procs i = .start ((calls i).statements service) →
          Rejected (.start ((calls i).statements service)) (sys'.procs i)

/-- At most one refresh succeeds with a token. -/
lemma eq_of_refreshed {input' : AdminInput} (hi : calls i = .Refresh rawToken input)
    (hj : calls j = .Refresh rawToken input')
    (hrun : (adminSystem service rows calls).run adminSchema acts = some sys)
    (hi' : (sys.procs i).Answered AdminReply.IsRefreshed)
    (hj' : (sys.procs j).Answered AdminReply.IsRefreshed) : i = j := by
  -- who comes second finds the session open, and it is closed
  have hsecond : ∀ {k l input'' sys a c sys'}, calls k = .Refresh rawToken input'' →
      AdminSecure service calls sys → Moved adminSchema sys c a sys' →
      AllOrNothing AdminReply.IsRefreshed (RotationOf service rawToken) (sys.procs l) →
      (sys.procs k).Answered AdminReply.IsRefreshed →
      ¬ (sys.procs l).Answered AdminReply.IsRefreshed →
      ¬ (sys'.procs l).Answered AdminReply.IsRefreshed := by
    intro k l input'' sys a c sys' hk hsecure hmoved hall hfirst hnot hanswered
    obtain ⟨-, id, hid, hopen⟩ := isOpen_of_refreshed hsecure hall hmoved hnot hanswered
    have hsession : (calls k).session service = some id := by rwa [hk]
    exact (isClosed_of_answered hsecure hsession hfirst.closes).not_isOpen hopen
  refine (adminSystem_secure.run_induct hrun (Q := fun sys =>
    AllOrNothing AdminReply.IsRefreshed (RotationOf service rawToken) (sys.procs i)
      ∧ AllOrNothing AdminReply.IsRefreshed (RotationOf service rawToken) (sys.procs j)
      ∧ ((sys.procs i).Answered AdminReply.IsRefreshed →
        (sys.procs j).Answered AdminReply.IsRefreshed → i = j)) ?_ ?_).2.2.2 hi' hj'
  · exact ⟨.inl (atomic_start hi), .inl (atomic_start hj),
      fun hanswered => absurd hanswered (atomic_start hi).not_answered⟩
  · rintro sys c a sys' hsecure hmoved ⟨hall, hall', hunique⟩
    refine ⟨hall.step hmoved, hall'.step hmoved, fun hdone hdone' => ?_⟩
    by_cases hi₀ : (sys.procs i).Answered AdminReply.IsRefreshed
    · by_cases hj₀ : (sys.procs j).Answered AdminReply.IsRefreshed
      · exact hunique hi₀ hj₀
      · exact absurd hdone' (hsecond hi hsecure hmoved hall' hi₀ hj₀)
    · by_cases hj₀ : (sys.procs j).Answered AdminReply.IsRefreshed
      · exact absurd hdone (hsecond hj hsecure hmoved hall hj₀ hi₀)
      · exact (isOpen_of_refreshed hsecure hall hmoved hi₀ hdone).1.symm.trans
          (isOpen_of_refreshed hsecure hall' hmoved hj₀ hdone').1

/-- **No refresh of a closed session succeeds.** -/
lemma not_refreshed_of_isClosed (hsecure : AdminSecure service calls sys)
    (hall : AllOrNothing AdminReply.IsRefreshed (RotationOf service rawToken) (sys.procs i))
    (hid : service.sessionOf rawToken = some id) (hclosed : IsClosed sys.db.rows id)
    (hnot : ¬ (sys.procs i).Answered AdminReply.IsRefreshed)
    (hmore : sys.run adminSchema more = some sys') :
    ¬ (sys'.procs i).Answered AdminReply.IsRefreshed := by
  refine (hsecure.run_induct hmore (Q := fun mid => IsClosed mid.db.rows id
    ∧ AllOrNothing AdminReply.IsRefreshed (RotationOf service rawToken) (mid.procs i)
    ∧ ¬ (mid.procs i).Answered AdminReply.IsRefreshed) ⟨hclosed, hall, hnot⟩ ?_).2.2.2
  rintro mid c a mid' hmid hmoved ⟨hclosed, hall, hnot⟩
  refine ⟨hclosed.stays (sessionsStay_of_moved hmid hmoved), hall.step hmoved, fun hanswered => ?_⟩
  obtain ⟨-, id', hid', hopen⟩ := isOpen_of_refreshed hmid hall hmoved hnot hanswered
  cases hid.symm.trans hid'
  exact hclosed.not_isOpen hopen

/-- The guard does not find a closed session. -/
lemma findActive_of_isClosed {db : Rows AdminRow} (hclosed : IsClosed db id) (adminId : Uuid)
    (now : Timestamp) : findActive db id adminId now = none := by
  obtain ⟨s, hs, hrevoked⟩ := hclosed
  simp only [findActive]
  simp only [hs]
  refine if_neg fun hactive => ?_
  rw [hactive.2.1] at hrevoked
  cases hrevoked

/-- What the guard does: it rejects the token, or it reads, and then rejects a closed session. -/
lemma authenticate_cases (next : AdminPrincipal → AdminStatements)
    (hid : service.sessionOf rawToken = some id) :
    (∃ message, authenticate service rawToken input next = .done (.Unauthorized message))
      ∨ ∃ find, authenticate service rawToken input next = .read .FindActiveSession find
        ∧ ∀ db, IsClosed db.rows id → ∃ message, find db = .done (.Unauthorized message) := by
  simp only [authenticate]
  cases hverify : service.verify rawToken .Access input.verifiedAt with
  | none => exact .inl ⟨_, rfl⟩
  | some claims =>
      cases hid.symm.trans (sessionOf_of_verify hverify)
      refine .inr ⟨_, rfl, fun db hclosed => ⟨"Admin session is invalid.", ?_⟩⟩
      simp only [findActive_of_isClosed hclosed]

/-- **No request of a closed session passes the guard.** -/
lemma rejected_of_isClosed {next : AdminPrincipal → AdminStatements}
    (hsecure : AdminSecure service calls sys) (hid : service.sessionOf rawToken = some id)
    (hclosed : IsClosed sys.db.rows id)
    (hstart : sys.procs i = .start (authenticate service rawToken input next))
    (hmore : sys.run adminSchema more = some sys') :
    Rejected (.start (authenticate service rawToken input next)) (sys'.procs i) := by
  refine (hsecure.run_induct hmore (Q := fun mid => IsClosed mid.db.rows id
    ∧ Rejected (.start (authenticate service rawToken input next)) (mid.procs i))
    ⟨hclosed, .inl hstart⟩ ?_).2.2
  rintro mid c a mid' hmid hmoved ⟨hclosed, hrejected⟩
  refine ⟨hclosed.stays (sessionsStay_of_moved hmid hmoved), ?_⟩
  rcases hrejected with hproc | hanswered | hfailed
  · by_cases hc : c = i
    · subst hc
      have hprog : (mid.procs c).prog = authenticate service rawToken input next := by
        rw [hproc]
        rfl
      rcases authenticate_cases next hid with ⟨message, hdone⟩ | ⟨find, hread, hfind⟩
      · exact .inr (.inl (Proc.Answered.step ⟨_, hprog.trans hdone, trivial⟩ hmoved))
      · rcases moved_of_read (hprog.trans hread) hmoved with hanswer | hfailed
        · have hview : (mid.view c).rows = mid.db.rows := by
            rw [Sys.view, hproc]
            rfl
          obtain ⟨message, hdone⟩ := hfind (mid.view c) (hview ▸ hclosed)
          exact .inr (.inl ⟨_, hanswer.trans hdone, trivial⟩)
        · exact .inr (.inr hfailed)
    · rw [Sys.procs_of_moved hmoved (Ne.symm hc)]
      exact .inl hproc
  · exact .inr (.inl (hanswered.step hmoved))
  · exact .inr (.inr (failed_of_moved hfailed hmoved))

/-- **An admin refresh token is used once.**  After any interleaving of calls, at most one refresh
has succeeded with a token, and the others have changed nothing.  From the time on at which a
refresh or a sign-out of a session has been answered, the session is over, for calls under way and
for those to come. -/
theorem adminRefresh_once
    (hrun : (adminSystem service rows calls).run adminSchema acts = some sys)
    (hmore : sys.run adminSchema more = some sys') :
    (∀ rawToken, UsedOnce service rows calls acts sys rawToken)
      ∧ ∀ i id, (calls i).session service = some id →
        (sys.procs i).Answered AdminReply.Closes → IsOver service calls id sys sys' := by
  refine ⟨fun rawToken => ⟨?_, ?_⟩, fun i id hsession hcloses => ?_⟩
  · exact fun i j input input' hi hj => eq_of_refreshed hi hj hrun
  · exact fun i input hi hnot => AllOrNothing.unchanged (.inl (atomic_start hi)) hrun hnot
  · have hsecure := (adminSystem_secure.run_induct hrun (Q := fun _ => True) trivial
      fun _ _ _ _ _ _ _ => trivial).1
    have hclosed := isClosed_of_answered hsecure hsession hcloses
    refine ⟨fun j rawToken input hj hid hnot => ?_, fun j rawAccessToken input hj hid hstart => ?_⟩
    · exact not_refreshed_of_isClosed hsecure (allOrNothing_refresh hj hrun) hid hclosed hnot hmore
    · rcases hj with hj | hj
      · rw [hj] at hstart ⊢
        exact rejected_of_isClosed hsecure hid hclosed hstart hmore
      · rw [hj] at hstart ⊢
        exact rejected_of_isClosed hsecure hid hclosed hstart hmore

end Runs

/-! ## Two refreshes with one token

Both find the session open.  The UPDATE of the second one waits for the first, and finds nothing. -/

/-- Tokens that show the session they belong to, all of the admin `0`. -/
def adminTokens : AdminTokenService where
  sign _ claims := String.ofList
    ((if claims.type = .Access then 'a' else 'r') :: List.replicate claims.sessionId '.')
  payload token :=
    let id := token.toList.length - 1
    some ⟨some 0, some id, some id,
      if token.toList.head? = some 'a' then some .Access else some .Refresh⟩
  expired _ _ := false
  hashToken token := token

/-- A request at the time `10`. -/
def adminInput (placeholder : String) : AdminInput := ⟨10, 10, 10, 100, placeholder, 0⟩

/-- A sign-in, two refreshes with the token it returns, and a request with its access token. -/
def refreshingCalls : Fin 4 → AdminCall
  | 0 => .SignIn "admin@example.com" (fun _ => true) (adminInput "first")
  | 1 => .Refresh "r." (adminInput "second")
  | 2 => .Refresh "r." (adminInput "third")
  | 3 => .Authenticate "a." (adminInput "fourth")

/-- The only row before them. -/
def oneAdmin : List (Option AdminRow) :=
  [some (.Admin ⟨"admin@example.com", "hash", none, none⟩)]

attribute [local instance] neZero_four in
/-- Both refreshes find the session, and the second has to wait for the first. -/
def refreshingActs : List (Fin 4 × Action) :=
  [(0, .Proceed), (0, .Proceed), (0, .Proceed), (0, .Visit 1), (0, .Proceed), (0, .Proceed),
    (0, .Proceed), (0, .Visit 0), (0, .Proceed), (0, .Proceed),
    (1, .Proceed), (2, .Proceed), (1, .Proceed), (2, .Proceed), (1, .Proceed), (2, .Proceed),
    (1, .Visit 1), (1, .Proceed), (1, .Proceed), (1, .Proceed), (1, .Visit 2), (1, .Proceed),
    (1, .Proceed), (2, .Visit 1), (2, .Proceed), (2, .Proceed)]

/-- The second refresh has lost, and the old access token is rejected. -/
theorem adminRefresh_once_racing : ∃ sys sys',
    (adminSystem adminTokens oneAdmin refreshingCalls).run adminSchema refreshingActs = some sys
      ∧ sys.run adminSchema [(3, .Proceed)] = some sys'
      ∧ (sys.procs 1).prog matches .done (.Refreshed _ _)
      ∧ (sys.procs 2).prog = .done (.Unauthorized "Admin refresh token is invalid.")
      ∧ (sys'.procs 3).prog = .done (.Unauthorized "Admin session is invalid.")
      ∧ UsedOnce adminTokens oneAdmin refreshingCalls refreshingActs sys "r."
      ∧ IsOver adminTokens refreshingCalls 1 sys sys' := by
  have hruns : ((adminSystem adminTokens oneAdmin refreshingCalls).run adminSchema
      refreshingActs).any (fun sys => (sys.procs 1).prog matches .done (.Refreshed _ _)
        && (sys.procs 2).prog.answer == some (.Unauthorized "Admin refresh token is invalid.")
        && (sys.run adminSchema [(3, .Proceed)]).any fun sys' =>
          (sys'.procs 3).prog.answer == some (.Unauthorized "Admin session is invalid.")) = true := by
    decide +kernel
  obtain ⟨sys, hrun, hsys⟩ := (Option.any_eq_true _ _).mp hruns
  simp only [Bool.and_eq_true, beq_iff_eq, Prog.answer_eq_some] at hsys
  obtain ⟨⟨hfirst, hsecond⟩, hthird⟩ := hsys
  obtain ⟨sys', hmore, hdone⟩ := (Option.any_eq_true _ _).mp hthird
  rw [beq_iff_eq, Prog.answer_eq_some] at hdone
  obtain ⟨honce, hover⟩ := adminRefresh_once hrun hmore
  refine ⟨sys, sys', hrun, hmore, hfirst, hsecond, hdone, honce "r.", hover 1 1 rfl ?_⟩
  split at hfirst
  · rename_i admin tokens hprog
    exact ⟨_, hprog, trivial⟩
  · cases hfirst

end RagStack
