import RagStack.Accounts.AuthService
import RagStack.Core.Overwrites

/-!
# What the calls do to a row

The calls of `auth.service.ts` add users and sessions, change columns of sessions, move chats and
usage rows to a user and delete an anonymous session with what depends on it.  That is all they ever
do to a row.

For a property of rows that all these changes keep there is no need to look at the programs again.
Most results on single tables are of this kind: a session ages, the usage log only grows, an
anonymous session stays until it is transferred.  Each of them comes with a relation between a row
and what becomes of it, and has to answer for each of the changes above whether it is in the
relation.  The walk through the programs, statement by statement, is made here once and for all such
relations.

The relation may depend on which anonymous sessions are transferred.  So `AdmitsCalls` has them as a
parameter, and a call is only asked for those which it carries.

The DELETE is the exception to the rule that a statement changes the rows it names.  What it takes
away and what it clears is found by following the foreign keys, which is why its part of
`AdmitsCalls` is about several rows at once.

* `AdmitsCalls` — an evolution with these changes.
* `AdmitsCalls.along` — all writes of all calls are such changes.
* `along_createChatRecord`, `along_deleteChat`, `along_createUsage` — the other calls.
-/

namespace RagStack

/-- The anonymous session of the principal that makes the call. -/
def AuthCall.carries : AuthCall → Uuid → Prop
  | SignUp _ anonymousSessionId _, S | SignIn _ _ anonymousSessionId _, S => anonymousSessionId = some S
  | _, _ => False

instance : ∀ (call : AuthCall) (S : Uuid), Decidable (call.carries S)
  | .SignUp _ anonymousSessionId _, S | .SignIn _ _ anonymousSessionId _, S =>
      inferInstanceAs (Decidable (anonymousSessionId = some S))
  | .Refresh .., _ | .SignOut .., _ | .SignOutAll .., _ | .RevokeOwnedSession .., _ =>
      inferInstanceAs (Decidable False)

/-- An evolution to which each change of a call belongs, if it transfers one of the sessions `T`. -/
structure AdmitsCalls (E : Evolution Row) (T : Uuid → Prop) : Prop where
  user : ∀ k user, E.Moves k none (some (.User user))
  session : ∀ k session, E.Moves k none (some (.AuthSession session))
  hash : ∀ hash k r, E.Moves k (some r) (some (setRefreshTokenHash hash r))
  revoked : ∀ now k r, E.Moves k (some r) (some (setRevokedAt now r))
  replaced : ∀ now id k r, E.Moves k (some r) (some (setReplacedBy now id r))
  chat : ∀ S userId k r, T S → r.isChatOfAnonymous S = true →
    E.Moves k (some r) (some (setOwner userId r))
  usage : ∀ S userId k r, T S → r.isUsageOfAnonymous S = true →
    E.Moves k (some r) (some (setOwner userId r))
  anonymous : ∀ (view : Db Row) S r, T S → view.rows S = some r → r.isAnonymousSession = true →
    ∀ k' r' v, view.rows k' = some r' → accountSchema.erase view S k' = some v →
      E.Moves k' (some r') v

/-- A program all of whose writes are changes of `E`. -/
abbrev MovesAlong (E : Evolution Row) (prog : Statements) : Prop :=
  Along accountSchema E 0 (fun _ => True) (fun _ => True) prog

lemma movesAlong_done (E : Evolution Row) (reply : Reply) : MovesAlong E (.done reply) := trivial

namespace AdmitsCalls

variable {E : Evolution Row} {T : Uuid → Prop} (h : AdmitsCalls E T)

include h

lemma along_createSessionRecord {service : TokenService} {userId : Uuid} {input : SessionInput}
    {next : Uuid → AuthTokens → Statements} (hnext : ∀ id tokens, MovesAlong E (next id tokens)) :
    MovesAlong E (createSessionRecord service userId input next) := by
  refine fun id _ => ⟨h.session _ _, fun k r _ => h.hash _ k r, fun count => ?_⟩
  show Along _ _ _ _ _ (if count = 0 then _ else _)
  split
  · trivial
  · exact hnext _ _

lemma along_createSessionWithTransfer (service : TokenService) (userId : Uuid)
    {anonymousSessionId : Option Uuid} (hT : ∀ S, anonymousSessionId = some S → T S)
    (input : SessionInput) :
    MovesAlong E (createSessionWithTransfer service userId anonymousSessionId input) := by
  have hend : ∀ chatIds, MovesAlong E (createSessionRecord service userId input fun _ tokens =>
      .commit (.CommitSignIn userId anonymousSessionId)
        (.done (.Authenticated userId chatIds tokens))) :=
    fun chatIds => h.along_createSessionRecord fun _ _ => ⟨trivial, trivial⟩
  cases anonymousSessionId with
  | none => exact hend []
  | some S =>
      intro db
      have hS := hT S rfl
      refine ⟨fun k r hr => h.chat S userId k r hS hr, fun _ => ?_⟩
      refine ⟨fun k r hr => h.usage S userId k r hS hr, fun _ => ?_⟩
      exact ⟨fun view r hr hsession => h.anonymous view S r hS hr hsession, fun _ => hend _⟩

lemma along_revoke {label : Statement} {p : Key → Row → Bool} {now : Timestamp} {next : Statements}
    (hnext : MovesAlong E next) :
    MovesAlong E (.update label p (setRevokedAt now) fun _ => .commit .CommitRevocation next) :=
  ⟨fun k r _ => h.revoked now k r, fun _ => ⟨trivial, hnext⟩⟩

omit h in
lemma along_findFamily {next : List Uuid → Statements} (hnext : ∀ ids, MovesAlong E (next ids))
    (room : ℕ) (ids : List Uuid) (id : Option Uuid) : MovesAlong E (findFamily next room ids id) := by
  induction room generalizing ids id with
  | zero => exact hnext ids
  | succ room ih =>
      cases id with
      | none => exact hnext ids
      | some nextId => exact fun db => ih _ _

lemma along_rotateSession (service : TokenService) (sessionId : Uuid) (session : AuthSession)
    (input : SessionInput) : MovesAlong E (rotateSession service sessionId session input) := by
  refine h.along_createSessionRecord fun id tokens => ⟨fun k r _ => h.replaced _ _ k r, ?_⟩
  intro count
  show Along _ _ _ _ _ (if count = 1 then _ else _)
  split
  · exact ⟨trivial, trivial⟩
  · trivial

lemma along_refreshSession (service : TokenService) (sessionId : Uuid) (session : AuthSession)
    (input : SessionInput) : MovesAlong E (refreshSession service sessionId session input) := by
  simp only [refreshSession]
  split
  · split
    · exact along_findFamily (fun _ => h.along_revoke (movesAlong_done _ _)) _ _ _
    · trivial
  · split
    · exact h.along_revoke (movesAlong_done _ _)
    · exact h.along_rotateSession _ _ _ _

/-- **All writes of all calls** are changes of the evolution.  The proof is one case for each call,
and in it one step for each statement. -/
theorem along (service : TokenService) {call : AuthCall} (hT : ∀ S, call.carries S → T S) :
    MovesAlong E (call.statements service) := by
  cases call with
  | SignUp user anonymousSessionId input =>
      exact fun _ _ => ⟨h.user _ _, h.along_createSessionWithTransfer _ _ hT _⟩
  | SignIn email verifies anonymousSessionId input =>
      intro db
      dsimp only
      split
      · split
        · exact h.along_createSessionWithTransfer _ _ hT _
        · trivial
      · trivial
  | Refresh rawToken input =>
      simp only [AuthCall.statements, refreshCall]
      split
      · trivial
      · intro db
        dsimp only
        split
        · trivial
        · exact h.along_refreshSession _ _ _ _
  | SignOut sessionId now => exact h.along_revoke (movesAlong_done _ _)
  | SignOutAll userId now => exact h.along_revoke (movesAlong_done _ _)
  | RevokeOwnedSession userId sessionId now => exact h.along_revoke (movesAlong_done _ _)

end AdmitsCalls

section OtherCalls

variable {E : Evolution Row}

lemma along_createChatRecord (hchat : ∀ k chat, chat.userId = none ∨ chat.anonymousSessionId = none →
      E.Moves k none (some (.Chat chat)))
    (hmessage : ∀ k message, E.Moves k none (some (.Message message)))
    (principal : RequestPrincipal) (title : JsString) (selectedModelId : Uuid)
    (firstPrompt : Option JsString) (now : Timestamp) :
    MovesAlong E (createChatRecord principal title selectedModelId firstPrompt now) := by
  refine fun id _ => ⟨hchat _ _ ?_, ?_⟩
  · cases principal with
    | Authenticated userId sessionId => exact .inr rfl
    | Anonymous anonymousSessionId => exact .inl rfl
  · split
    · exact ⟨trivial, trivial⟩
    · exact fun messageId _ => ⟨hmessage _ _, trivial, trivial⟩

lemma along_deleteChat (hdelete : ∀ (view : Db Row) k chat, view.rows k = some (.Chat chat) →
      ∀ k' r v, view.rows k' = some r → accountSchema.erase view k k' = some v → E.Moves k' (some r) v)
    (principal : RequestPrincipal) (chatId : Uuid) : MovesAlong E (deleteChat principal chatId) := by
  intro db
  dsimp only
  split
  · split
    · refine ⟨fun view r hr hchat => ?_, fun count => ?_⟩
      · cases r with
        | Chat chat => exact hdelete view chatId chat hr
        | _ => cases hchat
      · dsimp only
        split
        · trivial
        · exact ⟨trivial, trivial⟩
    · trivial
  · trivial

lemma along_createUsage (husage : ∀ k row, E.Moves k none (some (.UsageLog row))) (data : UsageLog) :
    MovesAlong E (createUsage data) :=
  fun _ _ _ => ⟨husage _ _, trivial, trivial⟩

end OtherCalls

end RagStack
