import RagStack.Accounts.Rotation

/-!
# The transfer of an anonymous session

A sign-in or sign-up moves the chats of an anonymous session, moves its usage rows, and deletes the
session.  The DELETE cascades to the chats that still belong to the session, and clears the owner of
the usage rows that do, so what matters is that none is left.

The three statements are in one transaction, but each of them sees what others commit before it.  An
UPDATE moves the rows that were there when it started.  A row that is added after that is not moved,
and then the DELETE takes it or disowns it.  This can happen only while the UPDATE is at work or
between it and the DELETE. Afterwards the transaction holds the lock of the session, and a new chat
of it has to wait for its foreign key until the session is gone and then fails.

So the transfer relies on one thing, that nobody adds a row while it is moving rows, and what it
guarantees is described by how it changes a single row (`RowMoves`).  The files on chats and on
usage both build on this one.  They differ in which rows they follow, and in what they know of the
programs that add rows.  What they share is collected in `TransferContract`, as the demands that the
proofs here make on a contract, so that the proofs are made once for all contracts which meet them.

* `Row.isTracked` — the rows of the session that have to be moved: its chats, and its usage rows if
  one is interested in them.
* `Transferring` — how the writes of the transaction move rows, with none of the tracked rows left
  from some statement on.  `Transferred` is this after the DELETE.
* `TransferContract` — what a contract has to say for `safe_signIn` and `safe_signUp`: while rows
  are being moved, nobody adds one.
-/

namespace RagStack

/-! ## Rows of the session

A DELETE without tracked rows touches nothing else than the session and its usage rows. -/

/-- The rows that a transfer has to move. -/
def Row.isTracked (anonymousSessionId : Uuid) (usage : Bool) (r : Row) : Bool :=
  r.isChatOfAnonymous anonymousSessionId || usage && r.isUsageOfAnonymous anonymousSessionId

lemma isTracked_authSession (anonymousSessionId : Uuid) (usage : Bool) (s : AuthSession) :
    Row.isTracked anonymousSessionId usage (.AuthSession s) = false := by
  simp [Row.isTracked, Row.isChatOfAnonymous, Row.isUsageOfAnonymous]

/-- The anonymous session exists. -/
def SessionExists (anonymousSessionId : Uuid) (rows : Rows Row) : Prop :=
  ∃ session, rows anonymousSessionId = some (.AnonymousSession session)

/-- Nobody adds a row of some kind. -/
def NoneAdded (p : Row → Bool) (rows rows' : Rows Row) : Prop :=
  ∀ k r, rows' k = some r → p r = true → ∃ r', rows k = some r' ∧ p r' = true

lemma NoneAdded.refl (p : Row → Bool) (rows : Rows Row) : NoneAdded p rows rows :=
  fun _ r hr hp => ⟨r, hr, hp⟩

lemma NoneAdded.trans {p : Row → Bool} {rows rows₁ rows₂ : Rows Row} (h : NoneAdded p rows rows₁)
    (h' : NoneAdded p rows₁ rows₂) : NoneAdded p rows rows₂ := by
  intro k r hr hp
  obtain ⟨r', hr', hp'⟩ := h' k r hr hp
  exact h k r' hr' hp'

/-- How a transaction with a transfer changes a row. -/
inductive RowMoves (anonymousSessionId userId : Uuid) (usage : Bool) (bound : ℕ) :
    Key → Option Row → Option Row → Prop where
  | same {k : Key} (x : Option Row) : RowMoves anonymousSessionId userId usage bound k x x
  | user {k : Key} (hk : bound ≤ k) (user : User) :
      RowMoves anonymousSessionId userId usage bound k none (some (.User user))
  | created {k : Key} (hk : bound ≤ k) (s : AuthSession) :
      RowMoves anonymousSessionId userId usage bound k none (some (.AuthSession s))
  | session {k : Key} (s t : AuthSession) : RowMoves anonymousSessionId userId usage bound k
      (some (.AuthSession s)) (some (.AuthSession t))
  | chat {k : Key} (chat : Chat) (howner : chat.anonymousSessionId = some anonymousSessionId) :
      RowMoves anonymousSessionId userId usage bound k (some (.Chat chat))
        (some (.Chat { chat with anonymousSessionId := none, userId := some userId }))
  | usage {k : Key} (row : UsageLog) (howner : row.anonymousSessionId = some anonymousSessionId) :
      RowMoves anonymousSessionId userId usage bound k (some (.UsageLog row))
        (some (.UsageLog { row with anonymousSessionId := none, userId := some userId }))
  | cleared {k : Key} (row : UsageLog) (howner : row.anonymousSessionId = some anonymousSessionId)
      (husage : usage = false) : RowMoves anonymousSessionId userId usage bound k
        (some (.UsageLog row)) (some (.UsageLog { row with anonymousSessionId := none }))
  | ended (session : AnonymousSession) : RowMoves anonymousSessionId userId usage bound
      anonymousSessionId (some (.AnonymousSession session)) none

variable {S userId : Uuid} {usage : Bool} {bound : ℕ}

lemma RowMoves.trans {k : Key} {x : Option Row} {r : Row} {y : Option Row}
    (h : RowMoves S userId usage bound k x (some r))
    (h' : RowMoves S userId usage bound k (some r) y) : RowMoves S userId usage bound k x y := by
  cases h with
  | same => exact h'
  | user hk user =>
      cases h'
      exact .user hk user
  | created hk s =>
      cases h' with
      | same => exact .created hk s
      | session _ t => exact .created hk t
  | session s t =>
      cases h' with
      | same => exact .session s t
      | session _ t' => exact .session s t'
  | chat chat howner =>
      cases h' with
      | same => exact .chat chat howner
      | chat _ howner' => cases howner'
  | usage row howner =>
      cases h' with
      | same => exact .usage row howner
      | usage _ howner' => cases howner'
      | cleared _ howner' => cases howner'
  | cleared row howner husage =>
      cases h' with
      | same => exact .cleared row howner husage
      | usage _ howner' => cases howner'
      | cleared _ howner' => cases howner'

/-- The changes of a transfer, as an evolution: doing nothing is one, and one after another is one.
-/
def transferMoves (S userId : Uuid) (usage : Bool) (bound : ℕ) : Evolution Row where
  Moves := RowMoves S userId usage bound
  same _ := RowMoves.same
  trans _ _ _ _ := RowMoves.trans

/-- What the two UPDATEs do to the rows they find. -/
lemma rowMoves_setOwner {k : Key} {r : Row}
    (h : r.isChatOfAnonymous S = true ∨ r.isUsageOfAnonymous S = true) :
    RowMoves S userId usage bound k (some r) (some (setOwner userId r)) := by
  cases r with
  | Chat chat =>
      refine .chat chat ?_
      simpa [Row.isChatOfAnonymous, Row.isUsageOfAnonymous] using h
  | UsageLog row =>
      refine .usage row ?_
      simpa [Row.isChatOfAnonymous, Row.isUsageOfAnonymous] using h
  | _ => simp [Row.isChatOfAnonymous, Row.isUsageOfAnonymous] at h

lemma not_isTracked_setOwner (S userId : Uuid) (usage : Bool) (r : Row) :
    (setOwner userId r).isTracked S usage = false := by
  cases r <;> simp [setOwner, Row.isTracked, Row.isChatOfAnonymous, Row.isUsageOfAnonymous]

/-- When no chat of the session is left, its DELETE takes no other row. -/
lemma doomed_session_alone {view : Db Row} {session : AnonymousSession}
    (hsession : view.rows S = some (.AnonymousSession session))
    (hchats : ∀ k r, view.rows k = some r → r.isChatOfAnonymous S = false) {n : ℕ} {k : Key}
    (hdoomed : accountSchema.doomed view S n k = true) : k = S := by
  refine Schema.eq_of_doomed ?_ hdoomed
  rintro k r hr ref href hparent rfl
  rw [hsession, Option.any_some] at hparent
  cases r with
  | AuthSession s =>
      obtain rfl := List.mem_singleton.mp href
      cases hparent
  | Chat chat =>
      simp only [accountSchema, Row.cascades, List.mem_append, Option.mem_toList,
        Option.map_eq_some_iff] at href
      rcases href with ⟨id, -, rfl⟩ | ⟨id, hid, rfl⟩
      · cases hparent
      · have hchat := hchats k _ hr
        simp [Row.isChatOfAnonymous, hid] at hchat
  | Message message =>
      obtain rfl := List.mem_singleton.mp href
      cases hparent
  | _ => cases href

/-- A row with a reference that is lost with the session is a chat or a usage row of it. -/
lemma loses_session {view : Db Row} {session : AnonymousSession} {r : Row}
    (hgone : ∀ k' r', accountSchema.gone view S k' = some r' →
      k' = S ∧ r' = .AnonymousSession session)
    (hloses : accountSchema.losesReference view S r = true) :
    r.isChatOfAnonymous S = true ∨ r.isUsageOfAnonymous S = true := by
  obtain ⟨ref, href, hlost⟩ := List.any_eq_true.mp hloses
  obtain ⟨r', hr', htable⟩ := (Option.any_eq_true _ _).mp hlost
  obtain ⟨hrefS, rfl⟩ := hgone ref.1 r' hr'
  cases r with
  | AuthSession s =>
      simp only [accountSchema, Row.references, List.mem_cons, Option.mem_toList,
        Option.map_eq_some_iff] at href
      rcases href with rfl | ⟨id, -, rfl⟩ <;> cases htable
  | Chat chat =>
      simp only [accountSchema, Row.references, List.mem_append, Option.mem_toList,
        Option.map_eq_some_iff, List.mem_singleton] at href
      rcases href with (⟨id, -, rfl⟩ | ⟨id, hid, rfl⟩) | rfl
      · cases htable
      · exact .inl (by simp [Row.isChatOfAnonymous, hid, show id = S from hrefS])
      · cases htable
  | Message message =>
      obtain rfl := List.mem_singleton.mp href
      cases htable
  | UsageLog row =>
      simp only [accountSchema, Row.references, List.mem_append, Option.mem_toList,
        Option.map_eq_some_iff, List.mem_singleton] at href
      rcases href with ((⟨id, -, rfl⟩ | ⟨id, hid, rfl⟩) | ⟨id, -, rfl⟩) | rfl
      · cases htable
      · exact .inr (by simp [Row.isUsageOfAnonymous, hid, show id = S from hrefS])
      · cases htable
      · cases htable
  | _ => cases href

/-- **The DELETE**, when no chat of the session is left: it takes the session, and clears the owner
of the usage rows that still have it. -/
lemma erase_session_alone {view : Db Row} {session : AnonymousSession}
    (hsession : view.rows S = some (.AnonymousSession session))
    (hchats : ∀ k r, view.rows k = some r → r.isChatOfAnonymous S = false) {k : Key} {r : Row}
    {v : Option Row} (hr : view.rows k = some r) (he : accountSchema.erase view S k = some v) :
    k = S ∧ v = none ∨ ∃ row, r = .UsageLog row ∧ row.anonymousSessionId = some S
      ∧ v = some (.UsageLog { row with anonymousSessionId := none }) := by
  obtain ⟨r', hr', hcases⟩ := Schema.erase_some he
  cases hr.symm.trans hr'
  rcases hcases with ⟨hdoomed, rfl⟩ | ⟨-, hloses, rfl⟩
  · exact .inl ⟨doomed_session_alone hsession hchats hdoomed, rfl⟩
  · have hgone : ∀ k' r', accountSchema.gone view S k' = some r' →
        k' = S ∧ r' = .AnonymousSession session := by
      intro k' r' h
      obtain ⟨hdoomed, hk'⟩ := Schema.gone_some h
      obtain rfl := doomed_session_alone hsession hchats hdoomed
      exact ⟨rfl, Option.some.inj (hk'.symm.trans hsession)⟩
    have hother : ∀ (table : Row → Bool), table (.AnonymousSession session) = false →
        ∀ k', (accountSchema.gone view S k').any table = false := by
      intro table htable k'
      cases hk' : accountSchema.gone view S k' with
      | none => rfl
      | some r' =>
          obtain ⟨-, rfl⟩ := hgone k' r' hk'
          exact htable
    rcases loses_session hgone hloses with hchat | husage
    · rw [hchats k r hr] at hchat
      cases hchat
    · cases r with
      | UsageLog row =>
          have howner : row.anonymousSessionId = some S := by
            simpa [Row.isUsageOfAnonymous] using husage
          refine .inr ⟨row, rfl, howner, ?_⟩
          have hcleared : Row.keepReference (accountSchema.gone view S) Row.isAnonymousSession
              row.anonymousSessionId = none := by
            obtain ⟨ref, -, hlost⟩ := List.any_eq_true.mp hloses
            obtain ⟨r', hr', -⟩ := (Option.any_eq_true _ _).mp hlost
            obtain ⟨hrefS, rfl⟩ := hgone ref.1 r' hr'
            rw [hrefS] at hr'
            rw [howner, Row.keepReference, Option.filter, hr']
            rfl
          show some (Row.UsageLog { row with
            userId := Row.keepReference _ Row.isUser _
            anonymousSessionId := Row.keepReference _ Row.isAnonymousSession _
            chatId := Row.keepReference _ Row.isChat _ }) = _
          rw [hcleared, keepReference_of_none _ (hother Row.isUser rfl),
            keepReference_of_none _ (hother Row.isChat rfl)]
      | _ => cases husage

/-! ## The writes of the transaction

The facts are in the order of the statements: the user exists, the chats are being moved, then the
usage rows, none of them is left, and the session has gone. -/

/-- The chats of the session are being moved. -/
def movingChats (log : List Statement) : Bool :=
  log.contains .MoveChats && !log.contains .DeleteAnonymousSession

/-- The usage rows of the session are being moved. -/
def movingUsage (log : List Statement) : Bool :=
  log.contains .MoveUsage && !log.contains .DeleteAnonymousSession

/-- The transaction has found or created its user, its writes move rows as they should, and it
sees none of the rows that `p` describes. -/
structure Transferring (S userId : Uuid) (usage : Bool) (bound : ℕ) (p : Row → Bool)
    (w : Writes Row) (db : Db Row) : Prop where
  overwrites : Overwrites (transferMoves S userId usage bound) w db
  bound : bound ≤ db.clock
  user : ∃ user, (db.apply w).rows userId = some (.User user)
  noneLeft : ∀ k r, (db.apply w).rows k = some r → p r = false

/-- No tracked row is left, and neither is the session. -/
structure Transferred (S userId : Uuid) (usage : Bool) (bound : ℕ) (w : Writes Row) (db : Db Row) :
    Prop extends Transferring S userId usage bound (Row.isTracked S usage) w db where
  gone : ¬ SessionExists S (db.apply w).rows

section Writes

variable {p : Row → Bool} {w : Writes Row} {db db' : Db Row} {k : Key} {r r' : Row}

/-- What others commit adds no row of the kind. -/
lemma Transferring.later (h : Transferring S userId usage bound p w db)
    (hundisturbed : Undisturbed accountSchema w db db')
    (husers : ∀ k user, db.rows k = some (.User user) → db'.rows k = some (.User user))
    (hadded : NoneAdded p db.rows db'.rows) : Transferring S userId usage bound p w db' := by
  refine ⟨h.overwrites.later hundisturbed, h.bound.trans hundisturbed.clock, ?_, ?_⟩
  · obtain ⟨user, huser⟩ := h.user
    refine ⟨user, ?_⟩
    cases hw : w userId with
    | none =>
        rw [Db.rows_apply_none hw] at huser ⊢
        exact husers _ _ huser
    | some v =>
        rw [Db.rows_apply_some hw] at huser ⊢
        exact huser
  · intro k r hr
    cases hw : w k with
    | none =>
        rw [Db.rows_apply_none hw] at hr
        cases hp : p r with
        | false => rfl
        | true =>
            obtain ⟨r', hr', hp'⟩ := hadded k r hr hp
            rw [h.noneLeft k r' ((Db.rows_apply_none hw).trans hr')] at hp'
            cases hp'
    | some v =>
        rw [Db.rows_apply_some hw] at hr
        exact h.noneLeft k r ((Db.rows_apply_some hw).trans hr)

/-- A row that is no user is written. -/
lemma Transferring.write (h : Transferring S userId usage bound p w db)
    (hr : (db.apply w).rows k = some r) (hne : ∀ user, r ≠ .User user)
    (hmoves : RowMoves S userId usage bound k (some r) (some r')) (hp : p r' = false) :
    Transferring S userId usage bound p (Function.update w k (some (some r'))) db := by
  refine ⟨h.overwrites.write hr hmoves, h.bound, ?_, fun k' r'' hr'' => ?_⟩
  · obtain ⟨user, huser⟩ := h.user
    have hk : userId ≠ k := by
      rintro rfl
      exact hne user (Option.some.inj (hr.symm.trans huser))
    exact ⟨user, (Db.rows_apply_update_of_ne _ _ hk _).trans huser⟩
  · by_cases hk : k' = k
    · subst hk
      rw [Db.rows_apply_update_self] at hr''
      cases hr''
      exact hp
    · rw [Db.rows_apply_update_of_ne _ _ hk] at hr''
      exact h.noneLeft k' r'' hr''

lemma Transferred.insert (h : Transferred S userId usage bound w db) {s : AuthSession}
    (hfresh : db.rows db.clock = none ∧ w db.clock = none) :
    Transferred S userId usage bound
      (Function.update w db.clock (some (some (.AuthSession s)))) db.tick := by
  have hrows : ∀ k, k ≠ db.clock →
      (db.tick.apply (Function.update w db.clock (some (some (.AuthSession s))))).rows k
        = (db.apply w).rows k := fun k hk => Db.rows_apply_update_of_ne db.tick w hk _
  have hself : (db.tick.apply (Function.update w db.clock (some (some (.AuthSession s))))).rows
      db.clock = some (.AuthSession s) := Db.rows_apply_update_self _ _ _ _
  refine ⟨⟨h.overwrites.insert hfresh.1 (.created h.bound s), h.bound.trans (Nat.le_succ _), ?_,
    fun k r hr => ?_⟩, ?_⟩
  · obtain ⟨user, huser⟩ := h.user
    refine ⟨user, (hrows _ ?_).trans huser⟩
    rintro hk
    rw [hk, Db.rows_apply_none hfresh.2, hfresh.1] at huser
    cases huser
  · by_cases hk : k = db.clock
    · subst hk
      cases hself.symm.trans hr
      exact isTracked_authSession _ _ _
    · exact h.noneLeft k r ((hrows k hk).symm.trans hr)
  · rintro ⟨session, hsession⟩
    by_cases hk : S = db.clock
    · rw [hk] at hsession
      cases hself.symm.trans hsession
    · exact h.gone ⟨session, (hrows S hk).symm.trans hsession⟩

lemma Transferred.setRefreshTokenHash (h : Transferred S userId usage bound w db) {hash : String}
    (hr : (db.apply w).rows k = some r) (hsession : r.isAuthSession = true) :
    Transferred S userId usage bound
      (Function.update w k (some (some (RagStack.setRefreshTokenHash hash r)))) db := by
  cases r with
  | AuthSession s =>
      refine ⟨h.toTransferring.write hr (by simp) (.session s _)
        (isTracked_authSession _ _ _), ?_⟩
      rintro ⟨session, hsession⟩
      by_cases hk : S = k
      · subst hk
        rw [Db.rows_apply_update_self] at hsession
        cases hsession
      · rw [Db.rows_apply_update_of_ne _ _ hk] at hsession
        exact h.gone ⟨session, hsession⟩
  | _ => cases hsession

/-- **The DELETE of the session**, when no tracked row is left. -/
lemma Transferring.deleteSession (h : Transferring S userId usage bound (Row.isTracked S usage) w db)
    {session : AnonymousSession} (hsession : (db.apply w).rows S = some (.AnonymousSession session)) :
    Transferred S userId usage bound
      (fun k => (accountSchema.erase (db.apply w) S k).orElse fun _ => w k) db := by
  have hchats : ∀ k r, (db.apply w).rows k = some r → r.isChatOfAnonymous S = false := by
    intro k r hr
    have hnone := h.noneLeft k r hr
    rw [Row.isTracked, Bool.or_eq_false_iff] at hnone
    exact hnone.1
  have herase : ∀ k r v, (db.apply w).rows k = some r →
      accountSchema.erase (db.apply w) S k = some v → k = S ∧ v = none
        ∨ ∃ row, r = .UsageLog row ∧ row.anonymousSessionId = some S
          ∧ v = some (.UsageLog { row with anonymousSessionId := none }) :=
    fun k r v hr he => erase_session_alone hsession hchats hr he
  have hview : ∀ k, (db.apply fun k => (accountSchema.erase (db.apply w) S k).orElse fun _ => w k).rows k
      = (accountSchema.erase (db.apply w) S k).getD ((db.apply w).rows k) := by
    intro k
    show ((accountSchema.erase (db.apply w) S k).orElse fun _ => w k).getD (db.rows k) = _
    cases accountSchema.erase (db.apply w) S k <;> rfl
  refine ⟨⟨h.overwrites.erase fun k r v hr he => ?_, h.bound, ?_, fun k r hr => ?_⟩, ?_⟩
  · rcases herase k r v hr he with ⟨rfl, rfl⟩ | ⟨row, rfl, howner, rfl⟩
    · cases hr.symm.trans hsession
      exact .ended session
    · refine .cleared row howner ?_
      have hnone := h.noneLeft k _ hr
      simpa [Row.isTracked, Row.isChatOfAnonymous, Row.isUsageOfAnonymous, howner] using hnone
  · obtain ⟨user, huser⟩ := h.user
    refine ⟨user, ?_⟩
    rw [hview]
    cases he : accountSchema.erase (db.apply w) S userId with
    | none => exact huser
    | some v =>
        rcases herase userId _ v huser he with ⟨rfl, -⟩ | ⟨row, hrow, -⟩
        · cases huser.symm.trans hsession
        · cases hrow
  · rw [hview] at hr
    cases he : accountSchema.erase (db.apply w) S k with
    | none =>
        rw [he] at hr
        exact h.noneLeft k r hr
    | some v =>
        rw [he, Option.getD_some] at hr
        obtain ⟨r₀, hr₀, -⟩ := Schema.erase_some he
        rcases herase k r₀ v hr₀ he with ⟨-, rfl⟩ | ⟨row, -, -, rfl⟩
        · cases hr
        · cases hr
          simp [Row.isTracked, Row.isChatOfAnonymous, Row.isUsageOfAnonymous]
  · rintro ⟨session', hsession'⟩
    rw [hview, Schema.erase_self hsession] at hsession'
    cases hsession'

end Writes

/-! ## The statements

The same programs as in the file on rotations, with another invariant.  What happens to sessions of
users is of no interest here and is part of `RowMoves`. -/

/-- What a transfer needs of its contract, for keys generated from `bound` on. -/
structure TransferContract (S : Uuid) (usage : Bool) (bound : ℕ) (Inv : Rows Row → Prop)
    (C : Contract Row Statement Reply) : Prop where
  mayFail : C.mayFail
  post : ∀ log reply rows, (∀ c message, reply ≠ .CreatedChat c message) → C.Post log reply rows
  owner : ∀ rows, Inv rows → ∀ k r, rows k = some r → r.isTracked S usage = true →
    SessionExists S rows
  session : ∀ log scan rows rows', C.Rely log scan rows rows' → rows' S = rows S ∨ rows' S = none
  users : ∀ log scan rows rows', C.Rely log scan rows rows' → ∀ k user,
    rows k = some (.User user) → rows' k = some (.User user)
  addsNoChat : ∀ log scan rows rows', C.Rely log scan rows rows' → movingChats log = true →
    NoneAdded (Row.isChatOfAnonymous S) rows rows'
  addsNoUsage : usage = true → ∀ log scan rows rows', C.Rely log scan rows rows' →
    movingUsage log = true → NoneAdded (Row.isUsageOfAnonymous S) rows rows'
  commit : ∀ userId log w db, Transferred S userId usage bound w db →
    Later accountSchema Inv C log none w db db →
      C.Guar (.CommitSignIn userId (some S) :: log) db.rows (db.apply w).rows
        ∧ Inv (db.apply w).rows

section Statements

variable {Inv : Rows Row → Prop} {C : Contract Row Statement Reply} {log : List Statement}
  {scan : Option Scan} {w : Writes Row} {db db' : Db Row}

/-- A row of the session refers to it. -/
lemma references_of_isTracked {r : Row} (h : r.isTracked S usage = true) :
    ∃ ref ∈ accountSchema.references r, ref.1 = S := by
  rw [Row.isTracked, Bool.or_eq_true, Bool.and_eq_true] at h
  cases r with
  | Chat chat =>
      have howner : chat.anonymousSessionId = some S := by
        simpa [Row.isChatOfAnonymous, Row.isUsageOfAnonymous] using h
      exact ⟨(S, Row.isAnonymousSession), by simp [accountSchema, Row.references, howner], rfl⟩
  | UsageLog row =>
      have howner : row.anonymousSessionId = some S := by
        simp only [Row.isChatOfAnonymous, Row.isUsageOfAnonymous, beq_iff_eq] at h
        simpa using h.resolve_left (by simp) |>.2
      exact ⟨(S, Row.isAnonymousSession), by simp [accountSchema, Row.references, howner], rfl⟩
  | _ => simp [Row.isChatOfAnonymous, Row.isUsageOfAnonymous] at h

/-- **After the DELETE nobody can add a row of the session.**  The transaction has deleted it, and
holds the lock, or it had been deleted before. -/
lemma Transferred.later (A : TransferContract S usage bound Inv C)
    (h : Transferred S userId usage bound w db)
    (hlater : Later accountSchema Inv C log scan w db db') :
    Transferred S userId usage bound w db' := by
  have hgone : ¬ SessionExists S (db'.apply w).rows := by
    rintro ⟨session, hsession⟩
    cases hw : w S with
    | some v =>
        rw [Db.rows_apply_some hw] at hsession
        exact h.gone ⟨session, (Db.rows_apply_some hw).trans hsession⟩
    | none =>
        rw [Db.rows_apply_none hw] at hsession
        rcases A.session _ _ _ _ hlater.rely with hsame | hnone
        · exact h.gone ⟨session, (Db.rows_apply_none hw).trans (hsame.symm.trans hsession)⟩
        · cases hnone.symm.trans hsession
  refine ⟨h.toTransferring.later hlater.undisturbed (A.users _ _ _ _ hlater.rely) ?_, hgone⟩
  intro k r hr htracked
  obtain ⟨session, hsession⟩ := A.owner _ hlater.inv k r hr htracked
  refine ⟨r, ?_, htracked⟩
  cases hw : w S with
  | none => exact absurd ⟨session, (Db.rows_apply_none hw).trans hsession⟩ hgone
  | some v =>
      cases v with
      | none => exact hlater.undisturbed.children S hw k r hr (references_of_isTracked htracked)
      | some x =>
          have hmoves : RowMoves S userId usage bound S (db.rows S) (some x) := h.overwrites S _ hw
          rw [← hlater.undisturbed.rows S _ hw, hsession] at hmoves
          cases hmoves
          exact absurd ⟨session, Db.rows_apply_some hw⟩ hgone

/-- The new session is created and everything is committed. -/
lemma safe_createSession (A : TransferContract S usage bound Inv C)
    (h : Transferred S userId usage bound w db) {service : TokenService} {input : SessionInput}
    {chatIds : List Uuid} :
    Safe accountSchema Inv C (createSessionRecord service userId input fun _ tokens =>
      .commit (.CommitSignIn userId (some S)) (.done (.Authenticated userId chatIds tokens)))
      log w db := by
  intro db₁ h₁
  refine ⟨fun _ => ?_, fun _ => A.mayFail⟩
  have hinserted := (h.later A h₁).insert (s := newSession userId input db₁.clock) h₁.fresh
  intro db₂ h₂
  refine safe_updateAll (fun _ _ => False) (Transferred S userId usage bound) A.mayFail h₂.here
    (hinserted.later A h₂) (fun _ _ hq => hq.elim) ?_ ?_ ?_
  · exact fun scan w db db' hw _ hlater => ⟨hw.later A hlater, fun _ _ _ _ hq => hq.elim⟩
  · rintro w db k r hw - hr hp -
    rw [Bool.and_eq_true] at hp
    exact ⟨hw.setRefreshTokenHash hr hp.2, id⟩
  · intro count w db hw _
    dsimp only
    split
    · exact A.mayFail
    · intro db₃ h₃
      obtain ⟨hguar, hinv⟩ := A.commit userId _ w db₃ (hw.later A h₃) h₃.here
      exact ⟨hguar, hinv, fun _ _ => A.post _ _ _ (by simp)⟩

/-- The first UPDATE: no chat of the session is left. -/
lemma safe_moveChats (A : TransferContract S usage bound Inv C)
    (hlog : log.contains .DeleteAnonymousSession = false) {next : Statements}
    (h : Transferring S userId usage bound (fun _ => false) w db)
    (hnext : ∀ w db, Transferring S userId usage bound (Row.isChatOfAnonymous S) w db →
      Safe accountSchema Inv C next (.MoveChats :: log) w db) :
    Safe accountSchema Inv C (.update .MoveChats (fun _ r => r.isChatOfAnonymous S)
      (setOwner userId) fun _ => next) log w db := by
  intro db₁ h₁
  have hnone : ∀ rows rows' : Rows Row, NoneAdded (fun _ => false) rows rows' :=
    fun _ _ _ _ _ hp => by cases hp
  have hchats : movingChats (.MoveChats :: log) = true := by
    simpa [movingChats] using hlog
  refine safe_updateAll (fun _ r => r.isChatOfAnonymous S = true)
    (Transferring S userId usage bound fun _ => false) A.mayFail h₁.here
    (h.later h₁.undisturbed (A.users _ _ _ _ h₁.rely) (hnone _ _)) (fun _ _ hq => hq) ?_ ?_ ?_
  · intro scan w db db' hw _ hlater
    exact ⟨hw.later hlater.undisturbed (A.users _ _ _ _ hlater.rely) (hnone _ _),
      fun k r _ hr hq => A.addsNoChat _ _ _ _ hlater.rely hchats k r hr hq⟩
  · rintro w db k r hw - hr hq -
    refine ⟨hw.write hr ?_ (rowMoves_setOwner (.inl hq)) rfl, ?_⟩
    · rintro user rfl
      cases hq
    · have hnot := not_isTracked_setOwner S userId usage r
      rw [Row.isTracked, Bool.or_eq_false_iff] at hnot
      rw [hnot.1]
      exact Bool.false_ne_true
  · intro _ w db hw hleft
    exact hnext w db
      { hw with noneLeft := fun k r hr => Bool.eq_false_of_not_eq_true (hleft k r hr) }

/-- The second UPDATE: no row of the session is left. -/
lemma safe_moveUsage (A : TransferContract S usage bound Inv C)
    (hlog : log.contains .DeleteAnonymousSession = false) (hchats : movingChats log = true)
    {next : Statements} (h : Transferring S userId usage bound (Row.isChatOfAnonymous S) w db)
    (hnext : ∀ w db, Transferring S userId usage bound (Row.isTracked S usage) w db →
      Safe accountSchema Inv C next (.MoveUsage :: log) w db) :
    Safe accountSchema Inv C (.update .MoveUsage (fun _ r => r.isUsageOfAnonymous S)
      (setOwner userId) fun _ => next) log w db := by
  intro db₁ h₁
  have hchats' : movingChats (.MoveUsage :: log) = true := by
    simpa [movingChats] using hchats
  have husage : movingUsage (.MoveUsage :: log) = true := by
    simpa [movingUsage] using hlog
  refine safe_updateAll (fun _ r => usage = true ∧ r.isUsageOfAnonymous S = true)
    (Transferring S userId usage bound (Row.isChatOfAnonymous S)) A.mayFail h₁.here
    (h.later h₁.undisturbed (A.users _ _ _ _ h₁.rely) (A.addsNoChat _ _ _ _ h₁.rely hchats))
    (fun _ _ hq => hq.2) ?_ ?_ ?_
  · intro scan w db db' hw _ hlater
    refine ⟨hw.later hlater.undisturbed (A.users _ _ _ _ hlater.rely)
      (A.addsNoChat _ _ _ _ hlater.rely hchats'), fun k r _ hr hq => ?_⟩
    obtain ⟨r', hr', hp⟩ := A.addsNoUsage hq.1 _ _ _ _ hlater.rely husage k r hr hq.2
    exact ⟨r', hr', hq.1, hp⟩
  · rintro w db k r hw - hr hq -
    have hnot := not_isTracked_setOwner S userId true r
    rw [Row.isTracked, Bool.or_eq_false_iff, Bool.true_and] at hnot
    refine ⟨hw.write hr ?_ (rowMoves_setOwner (.inr hq)) hnot.1, fun hq' => ?_⟩
    · rintro user rfl
      cases hq
    · rw [hnot.2] at hq'
      cases hq'.2
  · intro _ w db hw hleft
    refine hnext w db { hw with noneLeft := fun k r hr => ?_ }
    rw [Row.isTracked, Bool.or_eq_false_iff, Bool.and_eq_false_imp]
    exact ⟨hw.noneLeft k r hr, fun husage => Bool.eq_false_of_not_eq_true fun hq =>
      hleft k r hr ⟨husage, hq⟩⟩

/-- Then the session, unless somebody else has deleted it. -/
lemma safe_deleteAnonymousSession (A : TransferContract S usage bound Inv C)
    (hchats : movingChats log = true) (husage : movingUsage log = true)
    (h : Transferring S userId usage bound (Row.isTracked S usage) w db) {service : TokenService}
    {input : SessionInput} {chatIds : List Uuid} :
    Safe accountSchema Inv C (.delete .DeleteAnonymousSession Row.isAnonymousSession S fun _ =>
      createSessionRecord service userId input fun _ tokens =>
        .commit (.CommitSignIn userId (some S)) (.done (.Authenticated userId chatIds tokens)))
      log w db := by
  intro db₁ h₁
  have hmoved : Transferring S userId usage bound (Row.isTracked S usage) w db₁ := by
    refine h.later h₁.undisturbed (A.users _ _ _ _ h₁.rely) fun k r hr hp => ?_
    rw [Row.isTracked, Bool.or_eq_true, Bool.and_eq_true] at hp
    rcases hp with hp | ⟨husage', hp⟩
    · obtain ⟨r', hr', hp'⟩ := A.addsNoChat _ _ _ _ h₁.rely hchats k r hr hp
      exact ⟨r', hr', by rw [Row.isTracked, hp', Bool.true_or]⟩
    · obtain ⟨r', hr', hp'⟩ := A.addsNoUsage husage' _ _ _ _ h₁.rely husage k r hr hp
      exact ⟨r', hr', by rw [Row.isTracked, hp', husage', Bool.true_and, Bool.or_true]⟩
  refine ⟨fun hfound => ?_, fun hmissing => ?_⟩
  · obtain ⟨r, hr, hsession⟩ := (Option.any_eq_true _ _).mp hfound
    cases r with
    | AnonymousSession session => exact safe_createSession A (hmoved.deleteSession hr)
    | _ => cases hsession
  · refine safe_createSession A ⟨hmoved, ?_⟩
    rintro ⟨session, hsession⟩
    rw [hsession] at hmissing
    cases hmissing

/-- **The transfer is safe.**  The proof goes through the statements one by one: each UPDATE leaves
no row of its kind behind, and no row is added before the DELETE, by what the contract relies on. -/
lemma safe_createSessionWithTransfer (A : TransferContract S usage bound Inv C)
    (hlog : log.contains .DeleteAnonymousSession = false)
    (h : Transferring S userId usage bound (fun _ => false) w db) {service : TokenService}
    {input : SessionInput} :
    Safe accountSchema Inv C (createSessionWithTransfer service userId (some S) input) log w db := by
  intro db₁ h₁
  have hlog₁ : (Statement.FindAnonymousChats :: log).contains .DeleteAnonymousSession = false := by
    simpa using hlog
  have hlog₂ : (Statement.MoveChats :: .FindAnonymousChats :: log).contains
      .DeleteAnonymousSession = false := by
    simpa using hlog
  have hfound := h.later h₁.undisturbed (A.users _ _ _ _ h₁.rely) fun _ _ _ hp => by cases hp
  refine safe_moveChats A hlog₁ hfound fun w db hchatsMoved => ?_
  have hchats : movingChats (.MoveChats :: .FindAnonymousChats :: log) = true := by
    simpa [movingChats] using hlog
  refine safe_moveUsage A hlog₂ hchats hchatsMoved fun w db hmoved => ?_
  refine safe_deleteAnonymousSession A ?_ ?_ hmoved
  · simpa [movingChats] using hlog
  · simpa [movingUsage] using hlog

/-- **A sign-up is safe.**  It creates its user in the transaction of the transfer. -/
theorem safe_signUp (A : TransferContract S usage bound Inv C) (hbound : bound ≤ db.clock)
    {service : TokenService} {user : User} {input : SessionInput} :
    Safe accountSchema Inv C (signUp service user (some S) input) [] (fun _ => none) db := by
  intro db₁ h₁
  have hbound₁ := hbound.trans h₁.undisturbed.clock
  refine ⟨fun _ => safe_createSessionWithTransfer A rfl ?_, fun _ => A.mayFail⟩
  exact ⟨(Overwrites.nothing _ _).insert h₁.fresh.1 (.user hbound₁ user),
    hbound₁.trans (Nat.le_succ _), ⟨user, Db.rows_apply_update_self _ _ _ _⟩, fun _ _ _ => rfl⟩

/-- **A sign-in is safe.**  Its user was read before the transaction, and a user is never deleted.
-/
theorem safe_signIn (A : TransferContract S usage bound Inv C) (hbound : bound ≤ db.clock)
    {service : TokenService} {email : String} {verifies : String → Bool} {input : SessionInput} :
    Safe accountSchema Inv C (signIn service email verifies (some S) input) [] (fun _ => none)
      db := by
  intro db₁ h₁
  dsimp only
  split
  · rename_i userId user hfound
    split
    · refine safe_createSessionWithTransfer A rfl ?_
      obtain ⟨id, -, hid⟩ := Option.bind_eq_some_iff.mp hfound
      obtain ⟨r, hr, hpair⟩ := Option.map_eq_some_iff.mp hid
      cases hpair
      exact ⟨.nothing _ _, hbound.trans h₁.undisturbed.clock, ⟨user, hr⟩, fun _ _ _ => rfl⟩
    · exact fun _ _ => A.post _ _ _ (by simp)
  · exact fun _ _ => A.post _ _ _ (by simp)

end Statements

/-! ## After the commit

An owner of a row is a session that exists, or a user once it does not. -/

/-- The owner of a row with these columns is the session, or a user once the session is gone. -/
def HasOneOwner (S : Uuid) (rows : Rows Row) (userId anonymousSessionId : Option Uuid) : Prop :=
  SessionExists S rows ∧ anonymousSessionId = some S ∧ userId = none
    ∨ ¬ SessionExists S rows ∧ anonymousSessionId = none
      ∧ ∃ id user, userId = some id ∧ rows id = some (.User user)

/-- The owner stays where the session and the users do. -/
lemma HasOneOwner.congr {rows rows' : Rows Row} {ownerId anonymousSessionId : Option Uuid}
    (h : HasOneOwner S rows ownerId anonymousSessionId) (hsession : rows' S = rows S)
    (husers : ∀ k user, rows k = some (.User user) → rows' k = some (.User user)) :
    HasOneOwner S rows' ownerId anonymousSessionId := by
  simp only [HasOneOwner, SessionExists] at h ⊢
  rw [hsession]
  rcases h with h | ⟨hgone, hnone, id, user, hid, huser⟩
  · exact .inl h
  · exact .inr ⟨hgone, hnone, id, user, hid, husers id user huser⟩

/-- **Exactly one owner**: the session as long as it exists, and then a user who signed in with it.
-/
def OwnedOnce {n : ℕ} (S : Uuid) (userId anonymousSessionId : Option Uuid)
    (sys : Sys n Row Statement Reply) : Prop :=
  SessionExists S sys.db.rows ∧ anonymousSessionId = some S ∧ userId = none
    ∨ ¬ SessionExists S sys.db.rows ∧ anonymousSessionId = none
      ∧ ∃ id, userId = some id ∧ ∃ i, .CommitSignIn id (some S) ∈ (sys.procs i).log

section Commit

variable {w : Writes Row} {db : Db Row}

/-- The session after the commit of a transfer. -/
lemma Transferred.session (h : Transferred S userId usage bound w db)
    (hS : S < bound) (hslot : ∀ r, db.rows S = some r → SessionExists S db.rows) :
    (db.apply w).rows S = db.rows S ∨ (db.apply w).rows S = none := by
  have hmoves : RowMoves S userId usage bound S (db.rows S) ((db.apply w).rows S) :=
    h.overwrites.view S
  cases hr : db.rows S with
  | none =>
      rw [hr] at hmoves
      generalize (db.apply w).rows S = y at hmoves
      cases hmoves with
      | same => exact .inl rfl
      | user hk => exact absurd hS (not_lt_of_ge hk)
      | created hk => exact absurd hS (not_lt_of_ge hk)
  | some r =>
      obtain ⟨session, hsession⟩ := hslot r hr
      rw [hsession] at hmoves
      rw [← hr, hsession]
      generalize (db.apply w).rows S = y at hmoves
      cases hmoves with
      | same => exact .inl rfl
      | ended => exact .inr rfl

lemma Transferred.users (h : Transferred S userId usage bound w db) (k : Key)
    (user : User) (hk : db.rows k = some (.User user)) : (db.apply w).rows k = some (.User user) := by
  have hmoves : RowMoves S userId usage bound k (db.rows k) ((db.apply w).rows k) :=
    h.overwrites.view k
  rw [hk] at hmoves
  generalize (db.apply w).rows k = y at hmoves
  cases hmoves
  rfl

/-- A chat after the commit of a transfer. -/
lemma Transferred.chat (h : Transferred S userId usage bound w db) {c : Uuid}
    {chat : Chat} (hc : db.rows c = some (.Chat chat)) :
    (db.apply w).rows c = some (.Chat chat) ∧ chat.anonymousSessionId ≠ some S
      ∨ chat.anonymousSessionId = some S ∧ (db.apply w).rows c
        = some (.Chat { chat with anonymousSessionId := none, userId := some userId }) := by
  have hmoves : RowMoves S userId usage bound c (db.rows c) ((db.apply w).rows c) :=
    h.overwrites.view c
  have hnone := h.noneLeft c
  rw [hc] at hmoves
  generalize (db.apply w).rows c = y at hmoves hnone
  cases hmoves with
  | same =>
      refine .inl ⟨rfl, fun howner => ?_⟩
      have htracked := hnone _ rfl
      simp [Row.isTracked, Row.isChatOfAnonymous, howner] at htracked
  | chat _ howner => exact .inr ⟨howner, rfl⟩

/-- What has been moved belongs to the user. -/
lemma Transferred.owned (h : Transferred S userId usage bound w db) :
    HasOneOwner S (db.apply w).rows (some userId) none := by
  obtain ⟨user, huser⟩ := h.user
  exact .inr ⟨h.gone, rfl, userId, user, rfl, huser⟩

/-- What did not belong to the session keeps its owner. -/
lemma Transferred.stillOwned (h : Transferred S userId usage bound w db)
    {ownerId anonymousSessionId : Option Uuid}
    (howner : HasOneOwner S db.rows ownerId anonymousSessionId)
    (hother : anonymousSessionId ≠ some S) :
    HasOneOwner S (db.apply w).rows ownerId anonymousSessionId := by
  rcases howner with ⟨-, hsession, -⟩ | ⟨-, hnone, id, user, hid, huser⟩
  · exact absurd hsession hother
  · exact .inr ⟨h.gone, hnone, id, user, hid, h.users id user huser⟩

end Commit

end RagStack
