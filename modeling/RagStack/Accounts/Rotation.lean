import RagStack.Accounts.AuthService
import RagStack.Core.Overwrites

/-!
# Rotation of refresh sessions

What the calls of the authentication service do to `auth_session`, under any interleaving.

A refresh replaces a session by a new one and leaves a pointer behind, `replaced_by_session_id`.
The pointers of one device form a chain, and everything that is said about a device (it has one good
session, its history can be followed, a stolen token gives the whole chain away) is said in terms of
this chain.  So the invariant is about pointers: no two lead to one session, they lead forward, they
stay with one user, and a session that has one is revoked.  From these four, which are easy to keep,
the next file obtains the chains.

A rotation inserts the replacement before it claims the old session.  Until its commit nobody sees
the replacement, so no committed pointer leads to it (`Rotating`), and a rotation that loses the
race for the old session rolls the replacement back.  This is why the first property holds although
the new session is created without looking at anybody else.  The claim is an UPDATE which checks
`revoked_at` again when it comes to the row, so of two rotations of one session only one finds it
active.

A call relies on others leaving revoked sessions alone and guarantees the same.  Everything else
follows from rows which a transaction has written and which are locked until it ends.

* `SessionMoves` — a session keeps its user, and a revoked one stays revoked with its pointer.
* `RotationInvariant` — what holds of the pointers in every committed state.
* `authContract` — what each call relies on and guarantees; `AuthCall.safe` is that it does.

A rotation inserts the replacement before it claims the old session.  Until its commit nobody sees
the replacement, so no committed pointer leads to it (`Rotating`), and a rotation that loses the
race for the old session rolls the replacement back.
-/

namespace RagStack

/-! ## Sessions of a state

`SessionMoves` is the guarantee that all calls share, and it is transitive, so it holds from any
state of a run to any later one. -/

/-- The pointer of a row to its replacement. -/
def pointerOf : Option Row → Option Uuid
  | some (.AuthSession session) => session.replacedBySessionId
  | _ => none

lemma replacementOf_eq (rows : Rows Row) (id : Uuid) :
    replacementOf rows id = pointerOf (rows id) := by
  unfold replacementOf pointerOf
  split <;> simp_all

/-- A session that has `revoked_at` set, by a rotation, by a sign-out or because its family was
revoked. -/
def IsRevoked (rows : Rows Row) (id : Uuid) : Prop :=
  ∃ session, rows id = some (.AuthSession session) ∧ session.revokedAt.isSome = true

/-- A session that has not been revoked.  It may have expired, which is looked at where it is used.
-/
def IsActive (rows : Rows Row) (id : Uuid) : Prop :=
  ∃ session, rows id = some (.AuthSession session) ∧ session.revokedAt = none

def SameUser (rows : Rows Row) (a b : Uuid) : Prop :=
  ∃ s t, rows a = some (.AuthSession s) ∧ rows b = some (.AuthSession t) ∧ s.userId = t.userId

/-- **The pointers in a committed state.**  A replacement has one predecessor, it was created later,
it belongs to the same user, and what was replaced is revoked.  The second says that there are no
cycles, in a form which one commit keeps: keys are counted up, and a replacement is new when its
pointer is set. -/
structure RotationInvariant (rows : Rows Row) : Prop where
  injective : ∀ a b c, replacementOf rows a = some c → replacementOf rows b = some c → a = b
  increases : ∀ a b, replacementOf rows a = some b → a < b
  owner : ∀ a b, replacementOf rows a = some b → SameUser rows a b
  revoked : ∀ a b, replacementOf rows a = some b → IsRevoked rows a

/-- How the row of a session may change: it keeps its user, and once revoked it stays revoked and
keeps its pointer. -/
def SessionMoves (x y : Option Row) : Prop :=
  ∀ s, x = some (.AuthSession s) → ∃ t, y = some (.AuthSession t) ∧ t.userId = s.userId
    ∧ (s.revokedAt.isSome = true →
      t.revokedAt.isSome = true ∧ t.replacedBySessionId = s.replacedBySessionId)

lemma SessionMoves.refl (x : Option Row) : SessionMoves x x :=
  fun s hs => ⟨s, hs, rfl, fun hrevoked => ⟨hrevoked, rfl⟩⟩

lemma SessionMoves.trans {x y z : Option Row} (h : SessionMoves x y) (h' : SessionMoves y z) :
    SessionMoves x z := by
  intro s hs
  obtain ⟨t, ht, huser, hkept⟩ := h s hs
  obtain ⟨t', ht', huser', hkept'⟩ := h' t ht
  refine ⟨t', ht', huser'.trans huser, fun hrevoked => ?_⟩
  obtain ⟨hrevoked, hpointer⟩ := hkept hrevoked
  obtain ⟨hrevoked', hpointer'⟩ := hkept' hrevoked
  exact ⟨hrevoked', hpointer'.trans hpointer⟩

/-- A row that is no session says nothing about sessions. -/
lemma SessionMoves.of_ne {x y : Option Row} (h : ∀ s, x ≠ some (.AuthSession s)) :
    SessionMoves x y :=
  fun s hs => absurd hs (h s)

section Moves

variable {rows rows' : Rows Row} {id : Uuid}

/-- **A revoked session stays revoked.** -/
lemma IsRevoked.moves (h : IsRevoked rows id) (hmoves : ∀ k, SessionMoves (rows k) (rows' k)) :
    IsRevoked rows' id := by
  obtain ⟨s, hs, hrevoked⟩ := h
  obtain ⟨t, ht, -, hkept⟩ := hmoves id s hs
  exact ⟨t, ht, (hkept hrevoked).1⟩

lemma IsRevoked.replacementOf_eq (h : IsRevoked rows id)
    (hmoves : ∀ k, SessionMoves (rows k) (rows' k)) :
    replacementOf rows' id = replacementOf rows id := by
  obtain ⟨s, hs, hrevoked⟩ := h
  obtain ⟨t, ht, -, hkept⟩ := hmoves id s hs
  rw [RagStack.replacementOf_eq, RagStack.replacementOf_eq, hs, ht]
  exact (hkept hrevoked).2

lemma SameUser.moves {a b : Uuid} (h : SameUser rows a b)
    (hmoves : ∀ k, SessionMoves (rows k) (rows' k)) : SameUser rows' a b := by
  obtain ⟨s, t, hs, ht, huser⟩ := h
  obtain ⟨s', hs', huser', -⟩ := hmoves a s hs
  obtain ⟨t', ht', huser'', -⟩ := hmoves b t ht
  exact ⟨s', t', hs', ht', (huser'.trans huser).trans huser''.symm⟩

lemma RotationInvariant.replacementOf_active (h : RotationInvariant rows)
    (hactive : IsActive rows id) : replacementOf rows id = none := by
  obtain ⟨s, hs, hnone⟩ := hactive
  cases hpointer : replacementOf rows id with
  | none => rfl
  | some b =>
      obtain ⟨t, ht, hrevoked⟩ := h.revoked id b hpointer
      cases hs.symm.trans ht
      rw [hnone] at hrevoked
      cases hrevoked

lemma RotationInvariant.moves (h : RotationInvariant rows)
    (hmoves : ∀ k, SessionMoves (rows k) (rows' k))
    (hpointers : ∀ k, replacementOf rows' k = replacementOf rows k) : RotationInvariant rows' := by
  refine ⟨fun a b c ha hb => ?_, fun a b hab => ?_, fun a b hab => ?_, fun a b hab => ?_⟩
  · rw [hpointers] at ha hb
    exact h.injective a b c ha hb
  · rw [hpointers] at hab
    exact h.increases a b hab
  · rw [hpointers] at hab
    exact (h.owner a b hab).moves hmoves
  · rw [hpointers] at hab
    exact (h.revoked a b hab).moves hmoves

end Moves

/-! ## Writes that leave the pointers alone

Most writes are none of sessions, or change no pointer.  They are dealt with at once. -/

/-- A row that belongs to a chat or can own one. -/
def Row.isOfChats : Row → Bool
  | AnonymousSession _ | Chat _ | Message _ => true
  | _ => false

/-- What a DELETE of a chat or of an anonymous session takes away. -/
lemma isOfChats_of_doomed {view : Db Row} {k k' : Key} {r : Row}
    (hk : ∀ r, view.rows k = some r → r.isOfChats = true)
    (hdoomed : accountSchema.doomed view k accountSchema.depth k' = true)
    (hr : view.rows k' = some r) : r.isOfChats = true := by
  refine Schema.doomed_of_closed (T := fun r => r.isOfChats = true) hk ?_ hdoomed hr
  rintro r ref r' href htable hr'
  cases r with
  | AuthSession session =>
      obtain rfl := List.mem_singleton.mp href
      cases r' <;> simp_all [Row.isUser, Row.isOfChats]
  | User _ | Model _ | UsageLog _ => cases href
  | AnonymousSession _ | Chat _ | Message _ => rfl

/-- A reference to a table of which no row goes is kept. -/
lemma keepReference_of_none {gone : Key → Option Row} {table : Row → Bool} (id : Option Uuid)
    (h : ∀ k, (gone k).any table = false) : Row.keepReference gone table id = id := by
  cases id with
  | none => rfl
  | some k => simp [Row.keepReference, Option.filter, h]

/-- Such a DELETE does not touch sessions. -/
lemma erase_session {view : Db Row} {k k' : Key} {s : AuthSession} {v : Option Row}
    (hk : ∀ r, view.rows k = some r → r.isOfChats = true)
    (hs : view.rows k' = some (.AuthSession s)) (he : accountSchema.erase view k k' = some v) :
    v = some (.AuthSession s) := by
  obtain ⟨r, hr, hcases⟩ := Schema.erase_some he
  cases hs.symm.trans hr
  rcases hcases with ⟨hdoomed, -⟩ | ⟨-, -, rfl⟩
  · cases isOfChats_of_doomed hk hdoomed hs
  · have hkept : Row.keepReference (accountSchema.gone view k) Row.isAuthSession
        s.replacedBySessionId = s.replacedBySessionId := by
      refine keepReference_of_none _ fun id => ?_
      cases hgone : accountSchema.gone view k id with
      | none => rfl
      | some r' =>
          obtain ⟨hdoomed, hr'⟩ := Schema.gone_some hgone
          have hchats := isOfChats_of_doomed hk hdoomed hr'
          cases r' <;> first | rfl | cases hchats
    show some (Row.AuthSession { s with replacedBySessionId := _ }) = _
    rw [hkept]

/-- A row that is no session does not become one by losing a reference. -/
lemma setNull_ne_session {gone : Key → Option Row} {r : Row} (hr : ∀ s, r ≠ .AuthSession s)
    (s : AuthSession) : Row.setNull gone r ≠ .AuthSession s := by
  cases r with
  | AuthSession s' => exact absurd rfl (hr s')
  | _ => simp [Row.setNull]

lemma pointerOf_of_ne {x : Option Row} (h : ∀ s, x ≠ some (.AuthSession s)) : pointerOf x = none := by
  cases x with
  | none => rfl
  | some r =>
      cases r with
      | AuthSession s => exact absurd rfl (h s)
      | _ => rfl

/-- Sessions move, and no pointer changes. -/
def pointersKept : Evolution Row where
  Moves _ x y := SessionMoves x y ∧ pointerOf y = pointerOf x
  same _ x := ⟨.refl x, rfl⟩
  trans _ _ _ _ h h' := ⟨h.1.trans h'.1, h'.2.trans h.2⟩

/-- A change of columns that keeps the user and the pointer, and revokes or leaves `revoked_at`. -/
lemma pointersKept_mapSession {f : AuthSession → AuthSession}
    (hf : ∀ s, (f s).userId = s.userId ∧ (f s).replacedBySessionId = s.replacedBySessionId
      ∧ (s.revokedAt.isSome = true → (f s).revokedAt.isSome = true)) (k : Key) (r : Row) :
    pointersKept.Moves k (some r) (some (Row.mapSession f r)) := by
  cases r with
  | AuthSession s =>
      obtain ⟨huser, hpointer, hrevoked⟩ := hf s
      refine ⟨?_, hpointer⟩
      rintro _ ⟨⟩
      exact ⟨f s, rfl, huser, fun h => ⟨hrevoked h, hpointer⟩⟩
  | _ => exact pointersKept.same _ _

lemma pointersKept_of_ne {k : Key} {x y : Option Row} (hx : ∀ s, x ≠ some (.AuthSession s))
    (hy : ∀ s, y ≠ some (.AuthSession s)) : pointersKept.Moves k x y :=
  ⟨.of_ne hx, (pointerOf_of_ne hy).trans (pointerOf_of_ne hx).symm⟩

lemma pointersKept_erase {view : Db Row} {k k' : Key} {r : Row} {v : Option Row}
    (hk : ∀ r, view.rows k = some r → r.isOfChats = true) (hr : view.rows k' = some r)
    (he : accountSchema.erase view k k' = some v) : pointersKept.Moves k' (some r) v := by
  by_cases hsession : ∃ s, r = .AuthSession s
  · obtain ⟨s, rfl⟩ := hsession
    rw [erase_session hk hr he]
    exact pointersKept.same _ _
  · obtain ⟨r', hr', hcases⟩ := Schema.erase_some he
    cases hr.symm.trans hr'
    refine pointersKept_of_ne (fun s hs => hsession ⟨s, Option.some.inj hs⟩) fun s hv => ?_
    rcases hcases with ⟨-, rfl⟩ | ⟨-, -, rfl⟩
    · cases hv
    · exact setNull_ne_session (fun s hs => hsession ⟨s, hs⟩) s (Option.some.inj hv)

/-! ## Calls that rotate nothing -/

/-- The call does not exchange a refresh token. -/
def Reply.IsNoExchange (reply : Reply) : Prop := ∀ id tokens, reply ≠ .Refreshed id tokens

/-- A program that keeps all pointers and exchanges no refresh token. -/
def KeepsPointers (prog : Statements) : Prop :=
  Along accountSchema pointersKept 0 (fun _ => True) Reply.IsNoExchange prog

lemma keepsPointers_createSessionRecord {service : TokenService} {userId : Uuid}
    {input : SessionInput} {next : Uuid → AuthTokens → Statements}
    (hnext : ∀ id tokens, KeepsPointers (next id tokens)) :
    KeepsPointers (createSessionRecord service userId input next) := by
  refine fun id _ => ⟨⟨.of_ne (by simp), rfl⟩, fun k r _ => ?_, fun count => ?_⟩
  · refine pointersKept_mapSession ?_ k r
    exact fun s => ⟨rfl, rfl, fun hrevoked => hrevoked⟩
  · show Along _ _ _ _ _ (if count = 0 then _ else _)
    split
    · trivial
    · exact hnext _ _

lemma pointersKept_setOwner (userId : Uuid) (k : Key) (r : Row) :
    pointersKept.Moves k (some r) (some (setOwner userId r)) := by
  cases r with
  | Chat _ | UsageLog _ => exact pointersKept_of_ne (by simp) (by simp [setOwner])
  | _ => exact pointersKept.same _ _

lemma pointersKept_setRevokedAt (now : Timestamp) (k : Key) (r : Row) :
    pointersKept.Moves k (some r) (some (setRevokedAt now r)) := by
  refine pointersKept_mapSession ?_ k r
  exact fun s => ⟨rfl, rfl, fun _ => rfl⟩

lemma keepsPointers_createSessionWithTransfer (service : TokenService) (userId : Uuid)
    (anonymousSessionId : Option Uuid) (input : SessionInput) :
    KeepsPointers (createSessionWithTransfer service userId anonymousSessionId input) := by
  have hend : ∀ chatIds, KeepsPointers (createSessionRecord service userId input fun _ tokens =>
      .commit (.CommitSignIn userId anonymousSessionId)
        (.done (.Authenticated userId chatIds tokens))) := by
    intro chatIds
    exact keepsPointers_createSessionRecord fun _ tokens => ⟨trivial, fun _ _ h => by cases h⟩
  cases anonymousSessionId with
  | none => exact hend []
  | some anonymousSessionId =>
      refine fun db => ⟨fun k r _ => pointersKept_setOwner userId k r, fun _ =>
        ⟨fun k r _ => pointersKept_setOwner userId k r, fun _ => ⟨?_, fun _ => hend _⟩⟩⟩
      intro view r hr hsession k' r' v hr' he
      refine pointersKept_erase (fun r'' hr'' => ?_) hr' he
      cases hr.symm.trans hr''
      cases r <;> simp_all [Row.isAnonymousSession, Row.isOfChats]

lemma keepsPointers_signIn (service : TokenService) (email : String) (verifies : String → Bool)
    (anonymousSessionId : Option Uuid) (input : SessionInput) :
    KeepsPointers (signIn service email verifies anonymousSessionId input) := by
  intro db
  dsimp only
  split
  · split
    · exact keepsPointers_createSessionWithTransfer _ _ _ _
    · exact fun id tokens h => by cases h
  · exact fun id tokens h => by cases h

lemma keepsPointers_signUp (service : TokenService) (user : User)
    (anonymousSessionId : Option Uuid) (input : SessionInput) :
    KeepsPointers (signUp service user anonymousSessionId input) :=
  fun _ _ => ⟨pointersKept_of_ne (by simp) (by simp),
    keepsPointers_createSessionWithTransfer _ _ _ _⟩

/-- The three calls that revoke sessions by one UPDATE. -/
lemma keepsPointers_revoke {label : Statement} {p : Key → Row → Bool} {now : Timestamp}
    {next : Statements} (hnext : KeepsPointers next) :
    KeepsPointers (.update label p (setRevokedAt now) fun _ => .commit .CommitRevocation next) :=
  ⟨fun k r _ => pointersKept_setRevokedAt now k r, fun _ => ⟨trivial, hnext⟩⟩

lemma keepsPointers_findFamily {next : List Uuid → Statements}
    (hnext : ∀ ids, KeepsPointers (next ids)) (room : ℕ) (ids : List Uuid) (id : Option Uuid) :
    KeepsPointers (findFamily next room ids id) := by
  induction room generalizing ids id with
  | zero => exact hnext ids
  | succ room ih =>
      cases id with
      | none => exact hnext ids
      | some nextId => exact fun db => ih _ _

lemma keepsPointers_revokeRotationFamily (sessionId : Uuid) (session : AuthSession)
    (now : Timestamp) {next : Statements} (hnext : KeepsPointers next) :
    KeepsPointers (revokeRotationFamily sessionId session now next) :=
  keepsPointers_findFamily (fun _ => keepsPointers_revoke hnext) _ _ _

/-! ## The contract of a call

The guarantee names one way in which pointers may change: a commit that answers with new tokens has
replaced the session whose token was presented, and nothing else. -/

/-- The session that the presented refresh token belongs to. -/
def AuthCall.presented (service : TokenService) : AuthCall → Option Uuid
  | Refresh rawToken _ => (verifyRefreshToken service rawToken).map TokenClaims.sessionId
  | _ => none

/-- What a call relies on and guarantees.  Only the commit of a rotation adds a pointer, and a call
that answers with new tokens has replaced the session whose token was presented. -/
def authContract (presented : Option Uuid) : Contract Row Statement Reply where
  Rely _ _ rows rows' := ∀ k, SessionMoves (rows k) (rows' k)
  Guar log rows rows' := (∀ k, SessionMoves (rows k) (rows' k))
    ∧ ∀ a b, replacementOf rows' a = some b →
      replacementOf rows a = some b ∨ log.head? = some (.CommitRotation a b)
  mayFail := True
  Post _ reply rows := ∀ id tokens, reply = .Refreshed id tokens →
    ∃ sessionId, presented = some sessionId ∧ IsRevoked rows sessionId
      ∧ replacementOf rows sessionId = some id
  refl _ _ _ _ := .refl _
  trans _ _ _ _ _ h h' k := (h k).trans (h' k)
  weaken _ _ _ _ h := h

variable {presented : Option Uuid} {log : List Statement} {w : Writes Row} {db db' : Db Row}

/-- **A program that keeps the pointers is safe.** -/
lemma KeepsPointers.safe {prog : Statements} (h : KeepsPointers prog)
    (hw : Overwrites pointersKept w db) :
    Safe accountSchema RotationInvariant (authContract presented) prog log w db := by
  refine Along.safe trivial ?_ ?_ h (Nat.zero_le _) hw
  · intro label log w db _ hw hlater
    have hpointers : ∀ k, replacementOf (db.apply w).rows k = replacementOf db.rows k := by
      intro k
      rw [replacementOf_eq, replacementOf_eq]
      exact (hw.view k).2
    refine ⟨⟨fun k => (hw.view k).1, fun a b hab => .inl ?_⟩,
      hlater.inv.moves (fun k => (hw.view k).1) hpointers⟩
    rwa [hpointers] at hab
  · intro log reply rows hreply id tokens hexchange
    exact absurd hexchange (hreply id tokens)

/-! ## A rotation

The two structures are what is known in the middle of a rotation, before and after the claim.  The
key of the replacement is new, which the counter of the database shows. -/

/-- The replacement `id` of a session is inserted, and nobody else sees it. -/
structure Replacing (sessionId id userId : Uuid) (w : Writes Row) (db : Db Row) : Prop where
  fresh : db.rows id = none
  replacement : ∃ t, w id = some (some (.AuthSession t)) ∧ t.userId = userId
    ∧ t.replacedBySessionId = none
  session : ∃ s, db.rows sessionId = some (.AuthSession s) ∧ s.userId = userId
  older : sessionId < id
  only : ∀ k, k ≠ id → w k = none

/-- The old session is claimed for it. -/
structure Rotating (sessionId id userId : Uuid) (w : Writes Row) (db : Db Row) : Prop where
  fresh : db.rows id = none
  replacement : ∃ t, w id = some (some (.AuthSession t)) ∧ t.userId = userId
    ∧ t.replacedBySessionId = none
  active : ∃ s, db.rows sessionId = some (.AuthSession s) ∧ s.userId = userId ∧ s.revokedAt = none
  claimed : ∃ s, w sessionId = some (some (.AuthSession s)) ∧ s.userId = userId
    ∧ s.revokedAt.isSome = true ∧ s.replacedBySessionId = some id
  older : sessionId < id
  only : ∀ k, k ≠ id → k ≠ sessionId → w k = none

section Rotation

variable {sessionId id userId : Uuid} {scan : Option Scan}

lemma Replacing.later (h : Replacing sessionId id userId w db)
    (hlater : Later accountSchema RotationInvariant (authContract presented) log scan w db db') :
    Replacing sessionId id userId w db' := by
  obtain ⟨t, ht, -⟩ := h.replacement
  obtain ⟨s, hs, huser⟩ := h.session
  obtain ⟨s', hs', huser', -⟩ := hlater.rely sessionId s hs
  exact { h with
    fresh := (hlater.undisturbed.rows id _ ht).trans h.fresh
    session := ⟨s', hs', huser'.trans huser⟩ }

/-- The real hash of its refresh token is set. -/
lemma Replacing.setRefreshTokenHash (h : Replacing sessionId id userId w db) {r : Row} {hash : String}
    (hr : (db.apply w).rows id = some r) : Replacing sessionId id userId
      (Function.update w id (some (some (RagStack.setRefreshTokenHash hash r)))) db := by
  obtain ⟨t, ht, huser, hpointer⟩ := h.replacement
  rw [Db.rows_apply_some ht] at hr
  cases hr
  refine { h with replacement := ⟨_, Function.update_self _ _ _, huser, hpointer⟩, only := ?_ }
  intro k hk
  rw [Function.update_of_ne hk]
  exact h.only k hk

lemma Rotating.later (h : Rotating sessionId id userId w db)
    (hlater : Later accountSchema RotationInvariant (authContract presented) log scan w db db') :
    Rotating sessionId id userId w db' := by
  obtain ⟨t, ht, -⟩ := h.replacement
  obtain ⟨s, hs, -⟩ := h.claimed
  obtain ⟨s₀, hs₀, hactive⟩ := h.active
  exact { h with
    fresh := (hlater.undisturbed.rows id _ ht).trans h.fresh
    active := ⟨s₀, (hlater.undisturbed.rows sessionId _ hs).trans hs₀, hactive⟩ }

lemma Rotating.moves (h : Rotating sessionId id userId w db) (k : Key) :
    SessionMoves (db.rows k) ((db.apply w).rows k) := by
  by_cases hid : k = id
  · subst hid
    rw [h.fresh]
    exact .of_ne (by simp)
  · by_cases hsession : k = sessionId
    · subst hsession
      obtain ⟨s₀, hs₀, huser₀, hactive⟩ := h.active
      obtain ⟨s, hs, huser, -⟩ := h.claimed
      rw [Db.rows_apply_some hs, hs₀]
      rintro _ ⟨⟩
      refine ⟨s, rfl, huser.trans huser₀.symm, fun hrevoked => ?_⟩
      rw [hactive] at hrevoked
      cases hrevoked
    · rw [Db.rows_apply_none (h.only k hid hsession)]
      exact .refl _

/-- The pointers after the commit: one more. -/
lemma Rotating.replacementOf (h : Rotating sessionId id userId w db) {a b : Uuid}
    (hab : replacementOf (db.apply w).rows a = some b) :
    RagStack.replacementOf db.rows a = some b ∨ a = sessionId ∧ b = id := by
  by_cases ha : a = sessionId
  · subst ha
    obtain ⟨s, hs, -, -, hpointer⟩ := h.claimed
    rw [replacementOf_eq, Db.rows_apply_some hs] at hab
    cases hpointer.symm.trans hab
    exact .inr ⟨rfl, rfl⟩
  · by_cases hid : a = id
    · subst hid
      obtain ⟨t, ht, -, hpointer⟩ := h.replacement
      rw [replacementOf_eq, Db.rows_apply_some ht] at hab
      cases hpointer.symm.trans hab
    · rw [replacementOf_eq, Db.rows_apply_none (h.only a hid ha), ← replacementOf_eq] at hab
      exact .inl hab

lemma Rotating.sameUser (h : Rotating sessionId id userId w db) :
    SameUser (db.apply w).rows sessionId id := by
  obtain ⟨s, hs, huser, -⟩ := h.claimed
  obtain ⟨t, ht, huser', -⟩ := h.replacement
  exact ⟨s, t, Db.rows_apply_some hs, Db.rows_apply_some ht, huser.trans huser'.symm⟩

lemma Rotating.isRevoked (h : Rotating sessionId id userId w db) :
    IsRevoked (db.apply w).rows sessionId := by
  obtain ⟨s, hs, -, hrevoked, -⟩ := h.claimed
  exact ⟨s, Db.rows_apply_some hs, hrevoked⟩

/-- **The commit of a rotation keeps the invariant.**  No committed pointer leads to the
replacement, because pointers lead to committed sessions. -/
lemma Rotating.invariant (h : Rotating sessionId id userId w db)
    (hinv : RotationInvariant db.rows) : RotationInvariant (db.apply w).rows := by
  have hfresh : ∀ a, RagStack.replacementOf db.rows a ≠ some id := by
    intro a ha
    obtain ⟨-, t, -, ht, -⟩ := hinv.owner a id ha
    rw [h.fresh] at ht
    cases ht
  refine ⟨fun a b c ha hb => ?_, fun a b hab => ?_, fun a b hab => ?_, fun a b hab => ?_⟩
  · rcases h.replacementOf ha with ha | ⟨rfl, rfl⟩ <;> rcases h.replacementOf hb with hb | ⟨rfl, hc⟩
    · exact hinv.injective a b c ha hb
    · exact absurd (hc ▸ ha) (hfresh a)
    · exact absurd hb (hfresh b)
    · rfl
  · rcases h.replacementOf hab with hab | ⟨rfl, rfl⟩
    · exact hinv.increases a b hab
    · exact h.older
  · rcases h.replacementOf hab with hab | ⟨rfl, rfl⟩
    · exact (hinv.owner a b hab).moves h.moves
    · exact h.sameUser
  · rcases h.replacementOf hab with hab | ⟨rfl, rfl⟩
    · exact (hinv.revoked a b hab).moves h.moves
    · exact h.isRevoked

lemma safe_commitRotation {tokens : AuthTokens} (h : Rotating sessionId id userId w db) :
    Safe accountSchema RotationInvariant (authContract (some sessionId))
      (.commit (.CommitRotation sessionId id) (.done (.Refreshed id tokens))) log w db := by
  intro db₁ h₁
  have hrotating := h.later h₁
  refine ⟨⟨hrotating.moves, fun a b hab => ?_⟩, hrotating.invariant h₁.inv, fun db₂ h₂ => ?_⟩
  · rcases hrotating.replacementOf hab with hab | ⟨rfl, rfl⟩
    · exact .inl hab
    · exact .inr rfl
  · rintro _ _ ⟨⟩
    have hrevoked := hrotating.isRevoked
    refine ⟨sessionId, rfl, hrevoked.moves h₂.rely, ?_⟩
    obtain ⟨s, hs, -, -, hpointer⟩ := hrotating.claimed
    rw [hrevoked.replacementOf_eq h₂.rely, replacementOf_eq, Db.rows_apply_some hs]
    exact hpointer

/-- The old session is claimed, or the replacement is rolled back. -/
lemma safe_claimSession {input : SessionInput} {tokens : AuthTokens}
    (h : Replacing sessionId id userId w db) :
    Safe accountSchema RotationInvariant (authContract (some sessionId))
      (.update (.ClaimSession sessionId id) (fun k r => k == sessionId && r.isActiveSession)
        (setReplacedBy input.now id) fun count =>
          if count = 1 then .commit (.CommitRotation sessionId id) (.done (.Refreshed id tokens))
          else .rollback (.done (.Unauthorized "Refresh token has already been used."))) log w db := by
  refine safe_updateOne ?_ ?_
  · rintro db₁ r ⟨db₀, h₀, h₁⟩ hr hactive
    have hreplacing := (h.later h₀).later h₁
    have hne : sessionId ≠ id := ne_of_lt hreplacing.older
    rw [Db.rows_apply_none (hreplacing.only sessionId hne)] at hr
    have hrotating : Rotating sessionId id userId
        (Function.update w sessionId (some (some (setReplacedBy input.now id r)))) db₁ := by
      obtain ⟨s, hs, huser⟩ := hreplacing.session
      cases hr.symm.trans hs
      obtain ⟨t, ht, ht'⟩ := hreplacing.replacement
      refine ⟨hreplacing.fresh, ⟨t, ?_, ht'⟩, ⟨s, hs, huser, ?_⟩,
        ⟨_, Function.update_self _ _ _, huser, rfl, rfl⟩, hreplacing.older, fun k hk hk' => ?_⟩
      · rwa [Function.update_of_ne hne.symm]
      · exact Option.isNone_iff_eq_none.mp hactive
      · rw [Function.update_of_ne hk']
        exact hreplacing.only k hk
    exact ⟨fun _ => safe_commitRotation hrotating, fun _ => trivial⟩
  · rintro db₁ - -
    exact fun db₂ _ db₃ _ id tokens hexchange => by cases hexchange

/-- **A rotation is safe.**  It inserts a session nobody can see, claims the old one if it is still
active, and commits both together.  If the claim finds nothing it has to undo the insertion, and
nothing of it was ever visible. -/
lemma safe_rotateSession {service : TokenService} {session : AuthSession} {input : SessionInput}
    (hsession : ∃ s, db.rows sessionId = some (.AuthSession s) ∧ s.userId = session.userId) :
    Safe accountSchema RotationInvariant (authContract (some sessionId))
      (rotateSession service sessionId session input) log (fun _ => none) db := by
  intro db₁ h₁
  refine ⟨fun _ => ?_, fun _ => trivial⟩
  have hinserted : Replacing sessionId db₁.clock session.userId
      (Function.update (fun _ => none) db₁.clock
        (some (some (.AuthSession (newSession session.userId input db₁.clock))))) db₁.tick := by
    obtain ⟨s, hs, huser⟩ := hsession
    obtain ⟨s', hs', huser', -⟩ := h₁.rely sessionId s hs
    exact ⟨h₁.fresh.1, ⟨_, Function.update_self _ _ _, rfl, rfl⟩, ⟨s', hs', huser'.trans huser⟩,
      h₁.generated _ _ hs', fun k hk => Function.update_of_ne hk _ _⟩
  refine safe_updateOne ?_ ?_
  · rintro db₂ r ⟨db₀, h₀, h₂⟩ hr -
    have hreplacing := (hinserted.later h₀).later h₂
    exact ⟨fun _ => safe_claimSession (hreplacing.setRefreshTokenHash hr), fun _ => trivial⟩
  · rintro db₂ - -
    trivial

end Rotation

/-! ## The calls -/

lemma eq_of_validateRefreshSession {service : TokenService} {row : Option Row} {claims : TokenClaims}
    {rawToken : Token} {session : AuthSession}
    (h : validateRefreshSession service row claims rawToken = some session) :
    row = some (.AuthSession session) := by
  simp only [validateRefreshSession] at h
  split at h
  · split at h
    · cases h
      rfl
    · cases h
  · cases h

lemma safe_refreshSession {service : TokenService} {sessionId : Uuid} {session : AuthSession}
    {input : SessionInput} (hsession : db.rows sessionId = some (.AuthSession session)) :
    Safe accountSchema RotationInvariant (authContract (some sessionId))
      (refreshSession service sessionId session input) log (fun _ => none) db := by
  have hquiet : ∀ {prog}, KeepsPointers prog → Safe accountSchema RotationInvariant
      (authContract (some sessionId)) prog log (fun _ => none) db :=
    fun hprog => hprog.safe (.nothing _ _)
  simp only [refreshSession]
  split
  · split
    · exact hquiet (keepsPointers_revokeRotationFamily _ _ _ fun _ _ h => by cases h)
    · exact hquiet fun _ _ h => by cases h
  · split
    · exact hquiet (keepsPointers_revoke fun _ _ h => by cases h)
    · exact safe_rotateSession ⟨session, hsession, rfl⟩

/-- **Every call keeps its contract**, from every state and whatever the others do, as long as they
keep theirs.  Only `refresh` needs an argument of its own; the other calls keep all pointers. -/
theorem AuthCall.safe (service : TokenService) (call : AuthCall) (db : Db Row) :
    Safe accountSchema RotationInvariant (authContract (call.presented service))
      (call.statements service) [] (fun _ => none) db := by
  have hquiet : ∀ {presented prog}, KeepsPointers prog → Safe accountSchema RotationInvariant
      (authContract presented) prog [] (fun _ => none) db :=
    fun hprog => hprog.safe (.nothing _ _)
  cases call with
  | SignUp user anonymousSessionId input => exact hquiet (keepsPointers_signUp _ _ _ _)
  | SignIn email verifies anonymousSessionId input => exact hquiet (keepsPointers_signIn _ _ _ _ _)
  | Refresh rawToken input =>
      simp only [statements, presented, refreshCall]
      cases verifyRefreshToken service rawToken with
      | none => exact hquiet fun _ _ h => by cases h
      | some claims =>
          intro db₁ h₁
          dsimp only [Option.map_some]
          split
          · exact KeepsPointers.safe (fun _ _ h => by cases h) (.nothing _ _)
          · rename_i session hvalid
            exact safe_refreshSession (eq_of_validateRefreshSession hvalid)
  | SignOut sessionId now => exact hquiet (keepsPointers_revoke fun _ _ h => by cases h)
  | SignOutAll userId now => exact hquiet (keepsPointers_revoke fun _ _ h => by cases h)
  | RevokeOwnedSession userId sessionId now =>
      exact hquiet (keepsPointers_revoke fun _ _ h => by cases h)

/-! ## Runs from an empty table

With no session in the table there is no pointer, and the invariant holds at first. -/

/-- Calls of the authentication service on a database, all of them before their first statements.  A
run is any interleaving of what they do from here. -/
def authSystem {n : ℕ} (service : TokenService) (rows : List (Option Row)) (calls : Fin n → AuthCall) :
    Sys n Row Statement Reply :=
  Sys.start (Db.ofRows rows) fun i => (calls i).statements service

def authContracts {n : ℕ} (service : TokenService) (calls : Fin n → AuthCall) (i : Fin n) :
    Contract Row Statement Reply :=
  authContract ((calls i).presented service)

section Runs

variable {n : ℕ} {service : TokenService} {rows : List (Option Row)} {calls : Fin n → AuthCall}
  {sys sys' : Sys n Row Statement Reply} {acts more : List (Fin n × Action)}

/-- Every step is covered by the contracts. -/
lemma authContracts_admissible (sys : Sys n Row Statement Reply) (i : Fin n) (a : Action) :
    Admissible (authContracts service calls) sys i a :=
  ⟨fun _ => trivial, fun _ _ _ _ hguar _ _ _ => hguar.1⟩

lemma authSystem_secure (hempty : ∀ s, some (.AuthSession s) ∉ rows) :
    Secure accountSchema RotationInvariant (authContracts service calls)
      (authSystem service rows calls) := by
  refine Secure.start ?_ (Db.lt_clock_ofRows rows) fun i => AuthCall.safe _ _ _
  have hnone : ∀ a b, replacementOf (Db.ofRows rows).rows a ≠ some b := by
    intro a b hab
    rw [replacementOf_eq, pointerOf_of_ne] at hab
    · cases hab
    · intro s hs
      exact hempty s (List.mem_of_getElem? (Db.rows_ofRows.mp hs))
  exact ⟨fun a _ c ha => absurd ha (hnone a c), fun a b hab => absurd hab (hnone a b),
    fun a b hab => absurd hab (hnone a b), fun a b hab => absurd hab (hnone a b)⟩

/-- **Every reachable system is secure**: the invariant holds of what is committed, and each client
is somewhere in a program that keeps its contract.  This is the induction over runs, done once for
all that follows. -/
theorem authSystem_run (hempty : ∀ s, some (.AuthSession s) ∉ rows)
    (hrun : (authSystem service rows calls).run accountSchema acts = some sys) :
    Secure accountSchema RotationInvariant (authContracts service calls) sys :=
  (authSystem_secure hempty).run (.of_forall _ authContracts_admissible _ _) hrun

end Runs

end RagStack
