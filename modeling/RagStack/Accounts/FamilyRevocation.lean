import RagStack.Accounts.RotationFamilies
import RagStack.Core.LoneRun

/-!
# Revocation of a rotation family

`revokeRotationFamily` follows the pointers from the session whose token was used again, and revokes
what it has found by one UPDATE. The loop stops when it has `maxFamilyIds` ids.

A refresh token that was rotated before is presented again, so somebody has a copy of it, and every
session that came from it should end.  The service walks along the chain, from the session of the
token to its replacement and on, and it collects the ids before it revokes anything.  The bound on
their number is there so that the walk ends whatever is in the table.  But the newest session of a
family is at the end of the chain, and it is the one that is active.  If it is too far away, the
UPDATE revokes sessions that were revoked already and misses the only one that matters.

The call is looked at alone, since the question is what it does to a family and not whether somebody
adds to the family meanwhile.  It is started in any state that satisfies the invariant of the
rotations, with any token that counts as reused, and it is shown to return.  Its result is then
described exactly: what it found is revoked and nothing else has changed.  Which families this ends
is a question about chains, and is answered by the lemmas on following pointers.

* `foundFamily` — the ids it finds, `safe_revokeRotationFamily` — what the call does when nobody
  interferes.
* `reuse_revokes_family_iff` — the newest session is revoked exactly if it is near enough, or was
  revoked before.
-/

namespace RagStack

/-- The ids that `revokeRotationFamily` collects. -/
def foundFamily (rows : Rows Row) (sessionId : Uuid) : List Uuid :=
  following (replacementOf rows) maxFamilyIds (some sessionId)

/-- What the call leaves: the found sessions are revoked, and nothing else has changed. -/
structure FoundRevoked (rows : Rows Row) (sessionId : Uuid) (rows' : Rows Row) : Prop where
  found : ∀ k ∈ foundFamily rows sessionId, ∀ s, rows k = some (.AuthSession s) → IsRevoked rows' k
  other : ∀ k, k ∉ foundFamily rows sessionId → rows' k = rows k
  moves : ∀ k, pointersKept.Moves k (rows k) (rows' k)

/-- Nobody else commits anything, and the call ends with `post`. -/
def loneContract (post : Rows Row → Prop) : Contract Row Statement Reply where
  Rely _ _ rows rows' := rows' = rows
  Guar _ _ _ := True
  mayFail := True
  Post _ _ rows := post rows
  refl _ _ _ := rfl
  trans _ _ _ _ _ h h' := h'.trans h
  weaken _ _ _ _ h := h

section Lone

variable {post : Rows Row → Prop} {log : List Statement} {db : Db Row} {rows : Rows Row}

/-- The loop collects what a bounded walk passes. -/
lemma safe_findFamily {next : List Uuid → Statements} (hdb : db.rows = rows) {room : ℕ}
    {ids : List Uuid} {id : Option Uuid}
    (hnext : ∀ log db, db.rows = rows → Safe accountSchema (fun _ => True) (loneContract post)
      (next (ids ++ following (replacementOf rows) room id)) log (fun _ => none) db) :
    Safe accountSchema (fun _ => True) (loneContract post) (findFamily next room ids id) log
      (fun _ => none) db := by
  induction room generalizing ids id log db with
  | zero => simpa [findFamily, following] using hnext log db hdb
  | succ room ih =>
      cases id with
      | none => simpa [findFamily, following] using hnext log db hdb
      | some nextId =>
          intro db₁ h₁
          have hdb₁ : db₁.rows = rows := Eq.trans h₁.rely hdb
          refine ih hdb₁ fun log db hdb => ?_
          have hfollowing := hnext log db hdb
          rw [following] at hfollowing
          simpa [hdb₁] using hfollowing

/-- The UPDATE revokes the sessions with the found ids. -/
lemma safe_revokeFound {sessionId : Uuid} {now : Timestamp} {reply : Reply} (hdb : db.rows = rows)
    (hpost : ∀ rows', FoundRevoked rows sessionId rows' → post rows') :
    Safe accountSchema (fun _ => True) (loneContract post)
      (.update .RevokeFamily
        (fun k r => (foundFamily rows sessionId).contains k && r.isAuthSession) (setRevokedAt now)
        fun _ => .commit .CommitRevocation (.done reply)) log (fun _ => none) db := by
  intro db₁ h₁
  refine safe_updateAll
    (fun k r => k ∈ foundFamily rows sessionId ∧ r.isActiveSession = true)
    (fun w db => db.rows = rows ∧ Overwrites pointersKept w db
      ∧ ∀ k, k ∉ foundFamily rows sessionId → w k = none)
    trivial h₁.here ⟨Eq.trans h₁.rely hdb, .nothing _ _, fun _ _ => rfl⟩ ?_ ?_ ?_ ?_
  · rintro k r ⟨hk, hactive⟩
    rw [Bool.and_eq_true, List.contains_iff_mem]
    refine ⟨hk, ?_⟩
    cases r <;> first | rfl | cases hactive
  · rintro scan w db db' ⟨hdb, hw, hother⟩ - hlater
    have hrely : db'.rows = db.rows := hlater.rely
    exact ⟨⟨hrely.trans hdb, hw.later hlater.undisturbed, hother⟩,
      fun k r _ hr hq => ⟨r, hrely ▸ hr, hq⟩⟩
  · rintro w db k r ⟨hdb, hw, hother⟩ - hr hp -
    rw [Bool.and_eq_true, List.contains_iff_mem] at hp
    refine ⟨⟨hdb, hw.write hr (pointersKept_setRevokedAt now k r), fun k' hk' => ?_⟩, ?_⟩
    · rw [Function.update_of_ne (by rintro rfl; exact hk' hp.1)]
      exact hother k' hk'
    · rintro ⟨-, hactive⟩
      cases r <;> simp_all [setRevokedAt, Row.mapSession, Row.isActiveSession, Row.isAuthSession]
  · rintro count w db ⟨hdb, hw, hother⟩ hrevoked
    refine fun db₂ h₂ => ⟨trivial, trivial, fun db₃ h₃ => hpost db₃.rows ?_⟩
    have hdb₂ : db₂.rows = rows := Eq.trans h₂.rely hdb
    have hview : (db₂.apply w).rows = (db.apply w).rows := by
      funext k
      show (w k).getD (db₂.rows k) = (w k).getD (db.rows k)
      rw [hdb₂, hdb]
    have hrows : db₃.rows = (db.apply w).rows := Eq.trans h₃.rely hview
    have hmoves : ∀ k, pointersKept.Moves k (rows k) (db₃.rows k) := by
      intro k
      rw [hrows, ← hdb]
      exact hw.view k
    refine ⟨fun k hk s hs => ?_, fun k hk => ?_, hmoves⟩
    · obtain ⟨t, ht, -⟩ := (hmoves k).1 s hs
      refine ⟨t, ht, ?_⟩
      have hactive := hrevoked k (.AuthSession t) (hrows ▸ ht)
      cases hnone : t.revokedAt with
      | some time => rfl
      | none => exact absurd ⟨hk, by simp [Row.isActiveSession, hnone]⟩ hactive
    · rw [hrows, Db.rows_apply_none (hother k hk), hdb]

/-- **`revokeRotationFamily`, when nobody interferes.**  Alone, the walk reads the pointers of one
state, and the UPDATE finds the sessions as the walk has seen them. -/
lemma safe_revokeRotationFamily {sessionId : Uuid} {session : AuthSession} {now : Timestamp}
    {reply : Reply} (hsession : rows sessionId = some (.AuthSession session))
    (hdb : db.rows = rows) (hpost : ∀ rows', FoundRevoked rows sessionId rows' → post rows') :
    Safe accountSchema (fun _ => True) (loneContract post)
      (revokeRotationFamily sessionId session now (.done reply)) log (fun _ => none) db := by
  refine safe_findFamily hdb fun log db hdb => ?_
  have hfound : [sessionId] ++ following (replacementOf rows) (maxFamilyIds - 1)
      session.replacedBySessionId = foundFamily rows sessionId := by
    rw [foundFamily, maxFamilyIds, following, replacementOf_eq, hsession]
    rfl
  rw [hfound]
  exact safe_revokeFound hdb hpost

end Lone

/-! ## The call

A token is reused if it is valid for a session that has a pointer.  What the service does with it is
determined by the first read. -/

/-- A refresh token that belongs to a session which was rotated before. -/
structure IsReuse (service : TokenService) (db : Db Row) (rawToken : Token) (sessionId : Uuid) :
    Prop where
  valid : ∃ claims session, verifyRefreshToken service rawToken = some claims
    ∧ claims.sessionId = sessionId
    ∧ validateRefreshSession service (db.rows sessionId) claims rawToken = some session
  rotated : (replacementOf db.rows sessionId).isSome = true

/-- The call that presents such a token, before its first statement. -/
def reuseCall (service : TokenService) (db : Db Row) (rawToken : Token) (input : SessionInput) :
    Sys 1 Row Statement Reply :=
  Sys.start db fun _ => refreshCall service rawToken input

section Reuse

variable {service : TokenService} {db : Db Row} {rawToken : Token} {sessionId : Uuid}
  {input : SessionInput}

/-- A call whose token is verified looks the session up. -/
lemma refreshCall_eq (input : SessionInput) {claims : TokenClaims}
    (hverify : verifyRefreshToken service rawToken = some claims) :
    refreshCall service rawToken input = .read .FindSessionWithUser fun db =>
      match validateRefreshSession service (db.rows claims.sessionId) claims rawToken with
      | none => .done (.Unauthorized "Refresh session is invalid.")
      | some session => refreshSession service claims.sessionId session input := by
  rewrite [refreshCall, hverify]
  rfl

/-- What the call does after it has read the session. -/
lemma refreshCall_of_isReuse (input : SessionInput) (hinv : RotationInvariant db.rows)
    (h : IsReuse service db rawToken sessionId) :
    ∃ session, db.rows sessionId = some (.AuthSession session) ∧ ∃ next,
      refreshCall service rawToken input = .read .FindSessionWithUser next
        ∧ ∀ view, view.rows = db.rows → next view = revokeRotationFamily sessionId session input.now
          (.done (.Unauthorized "Refresh token reuse detected.")) := by
  obtain ⟨claims, session, hverify, rfl, hvalid⟩ := h.valid
  have hsession := eq_of_validateRefreshSession hvalid
  obtain ⟨id, hid⟩ := Option.isSome_iff_exists.mp h.rotated
  obtain ⟨s, hs, hrevoked⟩ := hinv.revoked _ _ hid
  cases hsession.symm.trans hs
  rw [replacementOf_eq, hsession, pointerOf] at hid
  refine ⟨session, hsession, _, refreshCall_eq input hverify, fun view hview => ?_⟩
  rw [hview, hvalid]
  simp only [refreshSession, hrevoked, if_true, hid]

/-- What the call leaves, if nobody interferes. -/
lemma foundRevoked_of_run (hinv : RotationInvariant db.rows)
    (hgenerated : ∀ k r, db.rows k = some r → k < db.clock)
    (h : IsReuse service db rawToken sessionId) {acts : List (Fin 1 × Action)}
    {sys : Sys 1 Row Statement Reply} {reply : Reply}
    (hrun : (reuseCall service db rawToken input).run accountSchema acts = some sys)
    (hdone : (sys.procs 0).prog = .done reply) : FoundRevoked db.rows sessionId sys.db.rows := by
  obtain ⟨session, hsession, next, hprog, hnext⟩ := refreshCall_of_isReuse input hinv h
  have hsecure : Secure accountSchema (fun _ => True)
      (fun _ => loneContract (FoundRevoked db.rows sessionId))
      (reuseCall service db rawToken input) := by
    refine Secure.start trivial hgenerated fun _ => ?_
    rw [hprog]
    intro db₁ h₁
    have hdb₁ : db₁.rows = db.rows := h₁.rely
    rw [hnext (db₁.apply fun _ => none) hdb₁]
    exact safe_revokeRotationFamily hsession hdb₁ fun _ hfound => hfound
  refine Secure.post (hsecure.run (.of_forall _ ?_ _ _) hrun) hdone
  -- there is no other client
  exact fun _ _ _ => ⟨fun _ => trivial, fun _ _ _ _ _ j hj =>
    absurd (Subsingleton.elim j _) hj⟩

/-- Revoking a session is no matter of constraints. -/
lemma similar_setRevokedAt (now : Timestamp) (r : Row) :
    accountSchema.Similar r (setRevokedAt now r) := by
  cases r with
  | AuthSession session =>
      refine ⟨rfl, fun x => ?_, rfl, fun x ref href => ?_⟩
      · cases x <;> exact ⟨rfl, rfl⟩
      · cases x <;> simp [accountSchema, Row.references] at href <;> aesop
  | _ => exact ⟨rfl, fun x => ⟨rfl, rfl⟩, rfl, fun _ _ _ => rfl⟩

lemma returns_findFamily {next : List Uuid → Statements} {room : ℕ} {ids : List Uuid}
    {id : Option Uuid} {log : List Statement}
    (hnext : ∀ ids log, Returns accountSchema db ⟨next ids, fun _ => none, none, log⟩) :
    Returns accountSchema db ⟨findFamily next room ids id, fun _ => none, none, log⟩ := by
  induction room generalizing ids id log with
  | zero => exact hnext ids log
  | succ room ih =>
      cases id with
      | none => exact hnext ids log
      | some nextId => exact Returns.read ih

/-- **The call returns.**  The loop is bounded, and revoking a session violates no constraint, so no
statement of it can fail by itself. -/
theorem reuseCall_returns (hinv : RotationInvariant db.rows)
    (hconsistent : accountSchema.Consistent db) (h : IsReuse service db rawToken sessionId) :
    ∃ acts sys reply, (reuseCall service db rawToken input).run accountSchema acts = some sys
      ∧ (sys.procs 0).prog = .done reply := by
  obtain ⟨session, -, next, hprog, hnext⟩ := refreshCall_of_isReuse input hinv h
  have hreturns : Returns accountSchema db (.start (refreshCall service rawToken input)) := by
    rw [Proc.start, hprog]
    refine Returns.read ?_
    rw [hnext (db.apply fun _ => none) rfl]
    refine returns_findFamily fun ids log => ?_
    exact Returns.update_similar hconsistent (similar_setRevokedAt input.now)
      fun _ _ _ => Returns.commit (Returns.done _)
  obtain ⟨acts, db', p', reply, hrun, hdone⟩ := hreturns
  exact ⟨acts, _, reply, hrun, hdone⟩

end Reuse

/-! ## Which families are revoked

From the found sessions to the whole family: members before the presented one have pointers and are
revoked by the invariant, and those behind it are found in order. -/

/-- The newest session of the family is found, or was revoked before. -/
def NewestIsNear (rows : Rows Row) (sessionId : Uuid) : Prop :=
  ∀ t, Relation.ReflTransGen (Points (replacementOf rows)) sessionId t →
    replacementOf rows t = none →
      IsRevoked rows t ∨ ∃ m < maxFamilyIds, follow (replacementOf rows) m sessionId = some t

section Families

variable {rows rows' : Rows Row} {sessionId : Uuid}

lemma FoundRevoked.replacementOf_eq (h : FoundRevoked rows sessionId rows') :
    replacementOf rows' = replacementOf rows := by
  funext k
  rw [RagStack.replacementOf_eq, RagStack.replacementOf_eq]
  exact (h.moves k).2

/-- What can be reached from a session is sessions. -/
lemma exists_session_of_reflTransGen (hinv : RotationInvariant rows) {session : AuthSession}
    (hsession : rows sessionId = some (.AuthSession session)) {t : Uuid}
    (ht : Relation.ReflTransGen (Points (replacementOf rows)) sessionId t) :
    ∃ s, rows t = some (.AuthSession s) := by
  cases ht with
  | refl => exact ⟨session, hsession⟩
  | tail _ hbt =>
      obtain ⟨-, s, -, hs, -⟩ := hinv.owner _ t hbt
      exact ⟨s, hs⟩

/-- What can be reached is revoked exactly if the newest session was near. -/
lemma FoundRevoked.reached_iff (h : FoundRevoked rows sessionId rows')
    (hinv : RotationInvariant rows) {session : AuthSession}
    (hsession : rows sessionId = some (.AuthSession session)) :
    (∀ t, Relation.ReflTransGen (Points (replacementOf rows')) sessionId t → IsRevoked rows' t)
      ↔ NewestIsNear rows sessionId := by
  rw [h.replacementOf_eq]
  constructor
  · intro hrevoked t ht _
    by_cases hfound : t ∈ foundFamily rows sessionId
    · obtain ⟨a, ha, m, hm, hfollow⟩ := mem_following.mp hfound
      cases ha
      exact .inr ⟨m, hm, hfollow⟩
    · obtain ⟨s, hs, hsome⟩ := hrevoked t ht
      exact .inl ⟨s, h.other t hfound ▸ hs, hsome⟩
  · intro hnear t ht
    obtain ⟨s, hs⟩ := exists_session_of_reflTransGen hinv hsession ht
    have hmoves : ∀ k, SessionMoves (rows k) (rows' k) := fun k => (h.moves k).1
    cases hpointer : replacementOf rows t with
    | some b => exact (hinv.revoked t b hpointer).moves hmoves
    | none =>
        rcases hnear t ht hpointer with hrevoked | ⟨m, hm, hfollow⟩
        · exact hrevoked.moves hmoves
        · exact h.found t (mem_following.mpr ⟨sessionId, rfl, m, hm, hfollow⟩) s hs

/-- A member of the family that cannot be reached has a pointer. -/
lemma reached_of_inFamily (hinv : RotationInvariant rows) {bound : ℕ}
    (hbound : ∀ k r, rows k = some r → k < bound) {t : Uuid} (ht : InFamily rows sessionId t)
    (hnone : replacementOf rows t = none) :
    Relation.ReflTransGen (Points (replacementOf rows)) sessionId t := by
  obtain ⟨family, hmem, hchain⟩ := (hinv.linked hbound).exists_family sessionId
  exact hchain.reaches_last hmem ((hchain.mem_iff_eqvGen hinv.injective hmem).mpr ht) hnone

end Families

/-- **Reuse of a refresh token.**  After the call every session that can be reached from the
presented one is revoked, and no session of the whole family is active, exactly if the newest
session was less than `maxFamilyIds` rotations away, or revoked before.  Both halves have the same
condition, since of the sessions in a family only the newest can be active. -/
theorem reuse_revokes_family_iff {service : TokenService} {db : Db Row} {rawToken : Token}
    {sessionId : Uuid} {input : SessionInput} (hinv : RotationInvariant db.rows)
    (hgenerated : ∀ k r, db.rows k = some r → k < db.clock)
    (hreuse : IsReuse service db rawToken sessionId) {acts : List (Fin 1 × Action)}
    {sys : Sys 1 Row Statement Reply} {reply : Reply}
    (hrun : (reuseCall service db rawToken input).run accountSchema acts = some sys)
    (hdone : (sys.procs 0).prog = .done reply) :
    ((∀ t, Relation.ReflTransGen (Points (replacementOf sys.db.rows)) sessionId t →
        IsRevoked sys.db.rows t) ↔ NewestIsNear db.rows sessionId)
      ∧ ((∀ t, InFamily sys.db.rows sessionId t → ¬ IsActive sys.db.rows t)
        ↔ NewestIsNear db.rows sessionId) := by
  have hfound := foundRevoked_of_run hinv hgenerated hreuse hrun hdone
  obtain ⟨session, hsession, -⟩ := refreshCall_of_isReuse input hinv hreuse
  have hreached := hfound.reached_iff hinv hsession
  refine ⟨hreached, ?_⟩
  rw [← hreached]
  constructor
  · intro hinactive t ht
    have hfamily : InFamily sys.db.rows sessionId t := Relation.EqvGen.reflTransGen_le_eqvGen _ _ _ ht
    rw [hfound.replacementOf_eq] at ht
    obtain ⟨s, hs⟩ := exists_session_of_reflTransGen hinv hsession ht
    obtain ⟨s', hs', -⟩ := (hfound.moves t).1 s hs
    refine ⟨s', hs', ?_⟩
    cases hrevoked : s'.revokedAt with
    | some time => rfl
    | none => exact absurd ⟨s', hs', hrevoked⟩ (hinactive t hfamily)
  · rintro hrevoked t ht ⟨s, hs, hactive⟩
    have hinv' : RotationInvariant sys.db.rows :=
      hinv.moves (fun k => (hfound.moves k).1) fun k => congrFun hfound.replacementOf_eq k
    have hnone := hinv'.replacementOf_active ⟨s, hs, hactive⟩
    rw [InFamily, hfound.replacementOf_eq] at ht
    rw [hfound.replacementOf_eq] at hnone hrevoked
    obtain ⟨s', hs', hsome⟩ := hrevoked t (reached_of_inFamily hinv hgenerated ht hnone)
    cases hs.symm.trans hs'
    rw [hactive] at hsome
    cases hsome

/-! ## A family of any length

One user whose session was refreshed a number of times, with the first token presented again: twice,
when the walk reaches the end, and a hundred times, when it does not. -/

/-- The session `k` of a family whose newest session is `length`. -/
def rotatedSession (length k : ℕ) : AuthSession where
  userId := 0
  refreshTokenHash := sessionTokens.sign .Refresh ⟨0, k, k, .Refresh⟩
  refreshJti := k
  userAgent := none
  ipHash := none
  expiresAt := 100
  revokedAt := if k < length then some 1 else none
  replacedBySessionId := if k < length then some (k + 1) else none
  lastUsedAt := 1

/-- The user `0` has signed in and refreshed `length - 1` times. -/
def rotatedDb (length : ℕ) : Db Row where
  clock := length + 1
  rows k :=
    if k = 0 then some (.User ⟨"user@example.com", "hash", none⟩)
    else if k ≤ length then some (.AuthSession (rotatedSession length k)) else none

section Rotated

variable {length : ℕ}

lemma rows_rotatedDb {k : ℕ} {r : Row} (h : (rotatedDb length).rows k = some r) :
    k = 0 ∧ r = .User ⟨"user@example.com", "hash", none⟩
      ∨ 0 < k ∧ k ≤ length ∧ r = .AuthSession (rotatedSession length k) := by
  simp only [rotatedDb] at h
  split at h
  · cases h
    exact .inl ⟨‹_›, rfl⟩
  · split at h
    · cases h
      exact .inr ⟨Nat.pos_of_ne_zero ‹_›, ‹_›, rfl⟩
    · cases h

lemma rows_rotatedDb_of_le {k : ℕ} (hpos : 0 < k) (hk : k ≤ length) :
    (rotatedDb length).rows k = some (.AuthSession (rotatedSession length k)) := by
  simp [rotatedDb, hpos.ne', hk]

lemma replacementOf_rotatedDb {a b : ℕ} :
    replacementOf (rotatedDb length).rows a = some b ↔ 0 < a ∧ a < length ∧ b = a + 1 := by
  rw [replacementOf_eq]
  constructor
  · intro h
    cases hr : (rotatedDb length).rows a with
    | none =>
        rw [hr] at h
        cases h
    | some r =>
        rw [hr] at h
        rcases rows_rotatedDb hr with ⟨-, rfl⟩ | ⟨hpos, -, rfl⟩
        · cases h
        · simp only [pointerOf, rotatedSession] at h
          split at h
          · exact ⟨hpos, ‹_›, (Option.some.inj h).symm⟩
          · cases h
  · rintro ⟨hpos, hlt, rfl⟩
    rw [rows_rotatedDb_of_le hpos hlt.le]
    simp [pointerOf, rotatedSession, hlt]

lemma rotatedDb_invariant (length : ℕ) : RotationInvariant (rotatedDb length).rows := by
  refine ⟨fun a b c ha hb => ?_, fun a b hab => ?_, fun a b hab => ?_, fun a b hab => ?_⟩
  · obtain ⟨-, -, rfl⟩ := replacementOf_rotatedDb.mp ha
    obtain ⟨-, -, hsucc⟩ := replacementOf_rotatedDb.mp hb
    exact Nat.succ.inj hsucc
  · obtain ⟨-, -, rfl⟩ := replacementOf_rotatedDb.mp hab
    exact Nat.lt_succ_self a
  · obtain ⟨hpos, hlt, rfl⟩ := replacementOf_rotatedDb.mp hab
    exact ⟨_, _, rows_rotatedDb_of_le hpos hlt.le, rows_rotatedDb_of_le (Nat.succ_pos a) hlt, rfl⟩
  · obtain ⟨hpos, hlt, -⟩ := replacementOf_rotatedDb.mp hab
    refine ⟨_, rows_rotatedDb_of_le hpos hlt.le, ?_⟩
    simp [rotatedSession, hlt]

lemma rotatedDb_generated (length : ℕ) (k : Key) (r : Row) (h : (rotatedDb length).rows k = some r) :
    k < (rotatedDb length).clock := by
  rcases rows_rotatedDb h with ⟨rfl, -⟩ | ⟨-, hk, -⟩
  · exact Nat.succ_pos _
  · exact Nat.lt_succ_of_le hk

lemma refreshTokenHash_injective {length k k' : ℕ}
    (h : (rotatedSession length k).refreshTokenHash = (rotatedSession length k').refreshTokenHash) :
    k = k' := by
  have hlists := String.ofList_injective h
  simpa using congrArg List.length hlists

lemma rotatedDb_consistent (length : ℕ) : accountSchema.Consistent (rotatedDb length) := by
  intro k r hr
  refine ⟨fun ref href => ?_, fun k' _ hne => ?_, rfl⟩
  · rcases rows_rotatedDb hr with ⟨-, rfl⟩ | ⟨hpos, hk, rfl⟩
    · cases href
    · simp only [accountSchema, Row.references, rotatedSession, List.mem_cons, Option.mem_toList,
        Option.map_eq_some_iff] at href
      rcases href with rfl | ⟨id, hid, rfl⟩
      · rfl
      · split at hid
        · cases hid
          rw [rows_rotatedDb_of_le (Nat.succ_pos k) (Nat.succ_le_of_lt ‹_›)]
          rfl
        · cases hid
  · cases hr' : (rotatedDb length).rows k' with
    | none => rfl
    | some r' =>
        rw [Option.all_some, Bool.not_eq_true']
        rcases rows_rotatedDb hr with ⟨rfl, rfl⟩ | ⟨hpos, hk, rfl⟩ <;>
          rcases rows_rotatedDb hr' with ⟨rfl, rfl⟩ | ⟨hpos', hk', rfl⟩
        · exact absurd rfl hne
        · rfl
        · rfl
        · simp only [accountSchema, Row.clash, Bool.or_eq_false_iff, beq_eq_false_iff_ne, ne_eq]
          refine ⟨⟨fun h => hne (refreshTokenHash_injective h).symm, fun h => hne h.symm⟩, ?_⟩
          simp only [rotatedSession]
          split <;> split <;> simp [Ne.symm hne]

lemma rotatedDb_isReuse (hlength : 1 < length) :
    IsReuse sessionTokens (rotatedDb length) "r." 1 := by
  refine ⟨⟨⟨0, 1, 1, .Refresh⟩, rotatedSession length 1, by decide, rfl, ?_⟩, ?_⟩
  · rw [rows_rotatedDb_of_le Nat.one_pos hlength.le]
    rfl
  · rw [replacementOf_rotatedDb.mpr ⟨Nat.one_pos, hlength, rfl⟩]
    rfl

lemma follow_rotatedDb {m a b : ℕ} (ha : a ≤ length)
    (h : follow (replacementOf (rotatedDb length).rows) m a = some b) :
    b = a + m ∧ b ≤ length := by
  induction m generalizing a with
  | zero =>
      cases h
      exact ⟨rfl, ha⟩
  | succ m ih =>
      obtain ⟨c, hc, hcb⟩ := Option.bind_eq_some_iff.mp h
      obtain ⟨-, hlt, rfl⟩ := replacementOf_rotatedDb.mp hc
      obtain ⟨hb, hlength⟩ := ih (Nat.succ_le_of_lt hlt) hcb
      exact ⟨by omega, hlength⟩

lemma reaches_newest (hlength : 0 < length) :
    Relation.ReflTransGen (Points (replacementOf (rotatedDb length).rows)) 1 length := by
  have hall : ∀ k, k + 1 ≤ length →
      Relation.ReflTransGen (Points (replacementOf (rotatedDb length).rows)) 1 (k + 1) := by
    intro k
    induction k with
    | zero => exact fun _ => .refl
    | succ k ih =>
        intro hk
        exact .tail (ih (Nat.le_of_succ_le hk))
          (replacementOf_rotatedDb.mpr ⟨Nat.succ_pos k, hk, rfl⟩)
  obtain ⟨k, rfl⟩ := Nat.exists_eq_add_one_of_ne_zero hlength.ne'
  exact hall k le_rfl

/-- A family that is no longer than `maxFamilyIds` is found as a whole. -/
lemma newestIsNear_rotatedDb (hpos : 0 < length) (hlength : length ≤ maxFamilyIds) :
    NewestIsNear (rotatedDb length).rows 1 := by
  intro t ht _
  obtain ⟨m, hm⟩ := reflTransGen_iff_follow.mp ht
  obtain ⟨rfl, ht⟩ := follow_rotatedDb hpos hm
  exact .inr ⟨m, by omega, hm⟩

/-- The newest session of a longer one stays active. -/
lemma newest_isActive (hlength : maxFamilyIds < length) {input : SessionInput}
    {acts : List (Fin 1 × Action)} {sys : Sys 1 Row Statement Reply} {reply : Reply}
    (hrun : (reuseCall sessionTokens (rotatedDb length) "r." input).run accountSchema acts
      = some sys) (hdone : (sys.procs 0).prog = .done reply) :
    Relation.ReflTransGen (Points (replacementOf sys.db.rows)) 1 length
      ∧ IsActive sys.db.rows length := by
  have hlong : 1 < length := lt_trans (by decide) hlength
  have hfound := foundRevoked_of_run (rotatedDb_invariant length) (rotatedDb_generated length)
    (rotatedDb_isReuse hlong) hrun hdone
  rw [hfound.replacementOf_eq]
  refine ⟨reaches_newest (Nat.zero_lt_of_lt hlong), rotatedSession length length, ?_, ?_⟩
  · rw [hfound.other, rows_rotatedDb_of_le (Nat.zero_lt_of_lt hlong) le_rfl]
    intro hmem
    obtain ⟨a, ha, m, hm, hfollow⟩ := mem_following.mp hmem
    cases ha
    obtain ⟨hm', -⟩ := follow_rotatedDb hlong.le hfollow
    omega
  · simp [rotatedSession]

end Rotated

/-- After two rotations the reuse of the first token revokes the third session. -/
theorem reuse_revokes_family_thrice : ∃ acts sys reply,
    (reuseCall sessionTokens (rotatedDb 3) "r." (plainInput "")).run accountSchema acts = some sys
      ∧ (sys.procs 0).prog = .done reply
      ∧ ∀ t, Relation.ReflTransGen (Points (replacementOf sys.db.rows)) 1 t →
        IsRevoked sys.db.rows t := by
  have hreuse : IsReuse sessionTokens (rotatedDb 3) "r." 1 := rotatedDb_isReuse (by decide)
  obtain ⟨acts, sys, reply, hrun, hdone⟩ :=
    reuseCall_returns (rotatedDb_invariant 3) (rotatedDb_consistent 3) hreuse
  exact ⟨acts, sys, reply, hrun, hdone, (reuse_revokes_family_iff (rotatedDb_invariant 3)
    (rotatedDb_generated 3) hreuse hrun hdone).1.mpr
      (newestIsNear_rotatedDb (by decide) (by decide))⟩

/-- After a hundred rotations the reuse of the first token leaves the newest session active. -/
theorem reuse_newestStaysActive : ∃ db : Db Row, RotationInvariant db.rows
    ∧ (∀ k r, db.rows k = some r → k < db.clock) ∧ IsReuse sessionTokens db "r." 1
    ∧ ∃ acts sys reply,
      (reuseCall sessionTokens db "r." (plainInput "")).run accountSchema acts = some sys
        ∧ (sys.procs 0).prog = .done reply
        ∧ ∃ t, Relation.ReflTransGen (Points (replacementOf sys.db.rows)) 1 t
          ∧ IsActive sys.db.rows t := by
  have hreuse : IsReuse sessionTokens (rotatedDb 101) "r." 1 := rotatedDb_isReuse (by decide)
  obtain ⟨acts, sys, reply, hrun, hdone⟩ :=
    reuseCall_returns (rotatedDb_invariant 101) (rotatedDb_consistent 101) hreuse
  exact ⟨rotatedDb 101, rotatedDb_invariant 101, rotatedDb_generated 101, hreuse, acts, sys, reply,
    hrun, hdone, 101, newest_isActive (by decide) hrun hdone⟩

end RagStack
