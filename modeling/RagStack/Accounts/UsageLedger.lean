import RagStack.Accounts.UsageTransfer
import RagStack.Accounts.AccessSessions
import RagStack.Core.Tally

/-!
# The usage log is append-only

The calls of the authentication service with their transfers, new chats, deletions of chats and
recorders of model calls, of any principals, in any interleaving.

The usage log is what the administration bills by.  Its rows refer to chats and owners that come and
go, so they change: a chat that is deleted is cleared from them, and a transfer gives them another
owner.  What they say about the call must not change, and no row must be lost or appear without a
recorder.  A sum over the log, of tokens or of calls, can then be accounted for: it is what it was
at the beginning, plus what each recorder that has returned has recorded.

The second part is a statement about numbers, and it is proved as one about commits.  A commit adds
one row or none, and leaves the entries of the others as they are.  Whatever is added up over the
log changes by the weight of that row, in any commutative monoid, so that one theorem covers all the
reports at once.

A recorder has its one commit at its end, so having returned and having recorded are the same for
it.  One that has ended otherwise, because its INSERT failed or its connection was lost, has added
nothing.

* `EntryKept` — a usage row keeps its entry and its user; it may lose its chat and its session.
* `LogMove` — what a transaction other than a recorder may do to a row.
* `UsageLedger`, `usage_ledger` — no row is ever lost or changed, and whatever is added up over the
  log is what it was at first plus what the recorders that have returned recorded.
-/

namespace RagStack

/-! ## What may happen to a row

`EntryKept` is what the log promises of a row, and `LogMove` is what a call may do that promises it.
-/

/-- The columns `user_id` and `anonymous_session_id`. -/
def Row.owners : Row → Option Uuid × Option Uuid
  | Chat chat => (chat.userId, chat.anonymousSessionId)
  | UsageLog row => (row.userId, row.anonymousSessionId)
  | _ => (none, none)

/-- A row does not belong to a user and to an anonymous session. -/
def Row.AtMostOneOwner (r : Row) : Prop := r.owners.1 = none ∨ r.owners.2 = none

/-- What a usage row keeps: what it says about the call, for ever.  It may lose its chat, and its
session goes to a user or to nobody; a user who has the row keeps it. -/
structure EntryKept (row row' : UsageLog) : Prop where
  entry : row'.entry = row.entry
  chat : row'.chatId = row.chatId ∨ row'.chatId = none
  session : row'.anonymousSessionId = row.anonymousSessionId ∨ row'.anonymousSessionId = none
  user : row.anonymousSessionId = none → row'.userId = row.userId

lemma EntryKept.refl (row : UsageLog) : EntryKept row row := ⟨rfl, .inl rfl, .inl rfl, fun _ => rfl⟩

lemma EntryKept.trans {row row₁ row₂ : UsageLog} (h : EntryKept row row₁) (h' : EntryKept row₁ row₂) :
    EntryKept row row₂ := by
  refine ⟨h'.entry.trans h.entry, ?_, ?_, fun hnone => ?_⟩
  · rcases h'.chat with hsame | hnone
    · rw [hsame]
      exact h.chat
    · exact .inr hnone
  · rcases h'.session with hsame | hnone
    · rw [hsame]
      exact h.session
    · exact .inr hnone
  · have hnone' : row₁.anonymousSessionId = none := by
      rcases h.session with hsame | hnone'
      · exact hsame.trans hnone
      · exact hnone'
    exact (h'.user hnone').trans (h.user hnone)

/-- What may happen to a row while no usage is recorded. -/
structure LogMove (x y : Option Row) : Prop where
  kept : ∀ row, x = some (.UsageLog row) → ∃ row', y = some (.UsageLog row') ∧ EntryKept row row'
  addsNone : ∀ row', y = some (.UsageLog row') → ∃ row, x = some (.UsageLog row)
  owner : (∀ r, x = some r → r.AtMostOneOwner) → ∀ r, y = some r → r.AtMostOneOwner

lemma LogMove.refl (x : Option Row) : LogMove x x :=
  ⟨fun row hx => ⟨row, hx, .refl row⟩, fun row hx => ⟨row, hx⟩, fun h => h⟩

lemma LogMove.trans {x y z : Option Row} (h : LogMove x y) (h' : LogMove y z) : LogMove x z := by
  refine ⟨fun row hx => ?_, fun row hz => ?_, fun hx => h'.owner (h.owner hx)⟩
  · obtain ⟨row₁, hy, hkept⟩ := h.kept row hx
    obtain ⟨row₂, hz, hkept'⟩ := h'.kept row₁ hy
    exact ⟨row₂, hz, hkept.trans hkept'⟩
  · obtain ⟨row₁, hy⟩ := h'.addsNone row hz
    exact h.addsNone row₁ hy

lemma LogMove.of_ne {x y : Option Row} (hx : ∀ row, x ≠ some (.UsageLog row))
    (hy : ∀ row, y ≠ some (.UsageLog row)) (howner : ∀ r, y = some r → r.AtMostOneOwner) :
    LogMove x y :=
  ⟨fun row h => absurd h (hx row), fun row h => absurd h (hy row), fun _ => howner⟩

/-- The changes of the usage log. -/
def logMoves : Evolution Row where
  Moves _ := LogMove
  same _ := LogMove.refl
  trans _ _ _ _ h h' := h.trans h'

lemma logMove_mapSession (f : AuthSession → AuthSession) (r : Row) :
    LogMove (some r) (some (Row.mapSession f r)) := by
  cases r with
  | AuthSession s => exact .of_ne (by simp) (by simp [Row.mapSession]) (by
      rintro _ ⟨⟩
      exact .inl rfl)
  | _ => exact .refl _

lemma keepReference_cases (gone : Key → Option Row) (table : Row → Bool) (id : Option Uuid) :
    Row.keepReference gone table id = id ∨ Row.keepReference gone table id = none := by
  cases id with
  | none => exact .inl rfl
  | some k =>
      unfold Row.keepReference Option.filter
      dsimp only
      split
      · exact .inl rfl
      · exact .inr rfl

/-- **The DELETE of a chat or of an anonymous session.** -/
lemma erase_logMove {view : Db Row} {k k' : Key} {r : Row} {v : Option Row}
    (hk : ∀ r, view.rows k = some r → r.isOfChats = true) (hr : view.rows k' = some r)
    (he : accountSchema.erase view k k' = some v) : LogMove (some r) v := by
  have husers : ∀ id, (accountSchema.gone view k id).any Row.isUser = false := by
    intro id
    cases hgone : accountSchema.gone view k id with
    | none => rfl
    | some r' =>
        obtain ⟨hdoomed, hr'⟩ := Schema.gone_some hgone
        have hchats := isOfChats_of_doomed hk hdoomed hr'
        cases r' <;> simp_all [Row.isOfChats, Row.isUser]
  obtain ⟨r', hr', hcases⟩ := Schema.erase_some he
  cases hr.symm.trans hr'
  rcases hcases with ⟨hdoomed, rfl⟩ | ⟨-, -, rfl⟩
  · have hchats := isOfChats_of_doomed hk hdoomed hr
    refine .of_ne ?_ (by simp) (by simp)
    rintro row ⟨⟩
    cases hchats
  · cases r with
    | AuthSession s =>
        refine .of_ne (by simp) (by simp [accountSchema, Row.setNull]) ?_
        rintro _ ⟨⟩
        exact .inl rfl
    | UsageLog row =>
        have huser : Row.keepReference (accountSchema.gone view k) Row.isUser row.userId = row.userId :=
          keepReference_of_none _ husers
        have hsession := keepReference_cases (accountSchema.gone view k) Row.isAnonymousSession
          row.anonymousSessionId
        refine ⟨?_, fun _ _ => ⟨row, rfl⟩, ?_⟩
        · rintro _ ⟨⟩
          exact ⟨_, rfl, rfl, keepReference_cases _ _ _, hsession, fun _ => huser⟩
        · rintro howner _ ⟨⟩
          rcases howner _ rfl with hnone | hnone
          · exact .inl (huser.trans hnone)
          · rcases hsession with hsame | hgone
            · exact .inr (hsame.trans hnone)
            · exact .inr hgone
    | _ => exact .refl _

/-- No call of the authentication service records usage or takes a recorded entry away. -/
lemma logMoves_admitsCalls : AdmitsCalls logMoves fun _ => True where
  user _ _ := .of_ne (by simp) (by simp) (by
    rintro _ ⟨⟩
    exact .inl rfl)
  session _ _ := .of_ne (by simp) (by simp) (by
    rintro _ ⟨⟩
    exact .inl rfl)
  hash _ _ r := logMove_mapSession _ r
  revoked _ _ r := logMove_mapSession _ r
  replaced _ _ _ r := logMove_mapSession _ r
  chat := by
    rintro S userId k r - hr
    cases r with
    | Chat chat =>
        refine .of_ne (by simp) (by simp [setOwner]) ?_
        rintro _ ⟨⟩
        exact .inr rfl
    | _ => cases hr
  usage := by
    rintro S userId k r - hr
    cases r with
    | UsageLog row =>
        have hsession : row.anonymousSessionId = some S := by
          simpa [Row.isUsageOfAnonymous] using hr
        refine ⟨?_, fun _ _ => ⟨row, rfl⟩, ?_⟩
        · rintro _ ⟨⟩
          exact ⟨_, rfl, rfl, .inl rfl, .inr rfl, fun hnone => by simp [hsession] at hnone⟩
        · rintro - _ ⟨⟩
          exact .inr rfl
    | _ => cases hr
  anonymous := by
    rintro view S r - hr hanonymous k' r' v hr' he
    refine erase_logMove (fun r'' hr'' => ?_) hr' he
    cases hr.symm.trans hr''
    cases r <;> simp_all [Row.isAnonymousSession, Row.isOfChats]

/-! ## The calls

All but the recorders are covered by the walk through the calls made before. -/

/-- A call that touches chats, sessions or the usage log, of any principal. -/
inductive LedgerCall where
  | Account (call : AuthCall)
  | CreateChat (principal : RequestPrincipal) (title : JsString) (selectedModelId : Uuid)
      (firstPrompt : Option JsString) (now : Timestamp)
  | DeleteChat (principal : RequestPrincipal) (chatId : Uuid)
  | Record (principal : RequestPrincipal) (call : ModelCall)

def LedgerCall.statements (service : TokenService) : LedgerCall → Statements
  | Account call => call.statements service
  | CreateChat principal title selectedModelId firstPrompt now =>
      createChatRecord principal title selectedModelId firstPrompt now
  | DeleteChat principal chatId => deleteChat principal chatId
  | Record principal call =>
      recordChatUsage principal call.chatId call.modelId call.kind call.inputTokens call.outputTokens

/-- The entry that a call records. -/
def LedgerCall.entry : LedgerCall → Option UsageLog
  | Record _ call => some call.entry
  | _ => none

/-- **Every call but a recorder** leaves the entries alone. -/
lemma along_ledgerCall (service : TokenService) {call : LedgerCall} (h : call.entry = none) :
    MovesAlong logMoves (call.statements service) := by
  cases call with
  | Account call => exact logMoves_admitsCalls.along service fun _ _ => trivial
  | CreateChat principal title selectedModelId firstPrompt now =>
      refine along_createChatRecord (fun k chat howner => ?_) (fun k message => ?_) _ _ _ _ _
      · refine .of_ne (by simp) (by simp) ?_
        rintro _ ⟨⟩
        exact howner
      · refine .of_ne (by simp) (by simp) ?_
        rintro _ ⟨⟩
        exact .inl rfl
  | DeleteChat principal chatId =>
      refine along_deleteChat (fun view k chat hr k' r v hr' he => erase_logMove ?_ hr' he) _ _
      intro r' hr''
      cases hr.symm.trans hr''
      rfl
  | Record principal call => cases h

/-! ## What a commit does to the log

The contracts rely on nothing: whatever others do to the log, a recorder adds its entry and the
other calls add none. -/

/-- Every usage row is still there. -/
def EntriesKept (rows rows' : Rows Row) : Prop :=
  ∀ k row, rows k = some (.UsageLog row) → ∃ row', rows' k = some (.UsageLog row') ∧ EntryKept row row'

/-- The rows that a commit adds to the log: none, or one with the entry of the call. -/
def AddsEntry (rows rows' : Rows Row) : Option UsageLog → Prop
  | none => ∀ k row', rows' k = some (.UsageLog row') → ∃ row, rows k = some (.UsageLog row)
  | some entry => ∃ k row, rows k = none ∧ rows' k = some (.UsageLog row) ∧ row.entry = entry
      ∧ ∀ k' ≠ k, rows' k' = rows k'

/-- No row belongs to two owners. -/
def NoTwoOwners (rows : Rows Row) : Prop := ∀ k r, rows k = some r → r.AtMostOneOwner

/-- What a call guarantees; it relies on nothing. -/
def ledgerContract (entry : Option UsageLog) : Contract Row Statement Reply :=
  { agingContract with
    Guar := fun _ rows rows' => EntriesKept rows rows' ∧ AddsEntry rows rows' entry }

/-- The owner of a recorded row is the one of the chat, or the principal. -/
lemma usageRow_owner {rows : Rows Row} (hrows : NoTwoOwners rows) {data : UsageLog}
    (hdata : (Row.UsageLog data).AtMostOneOwner) :
    (Row.UsageLog (usageRow data (findChat rows data.chatId))).AtMostOneOwner := by
  cases hfound : findChat rows data.chatId with
  | none => exact hdata
  | some chat =>
      have hchat : (Row.Chat chat).AtMostOneOwner := by
        rw [findChat] at hfound
        obtain ⟨id, -, hid⟩ := Option.bind_eq_some_iff.mp hfound
        split at hid
        · rename_i hr
          cases hid
          exact hrows _ _ hr
        · cases hid
      simp only [usageRow]
      split
      · exact hdata
      · exact hchat

lemma entry_usageRow (data : UsageLog) (chat : Option Chat) :
    (usageRow data chat).entry = data.entry := by
  cases chat with
  | none => rfl
  | some chat =>
      simp only [usageRow]
      split
      · rfl
      · rfl

/-- **A recorder**: its commit adds its entry. -/
lemma safe_addUsage (data : UsageLog) (hdata : (Row.UsageLog data).AtMostOneOwner) (db : Db Row) :
    Safe accountSchema NoTwoOwners (ledgerContract (some data.entry)) (createUsage data) []
      (fun _ => none) db := by
  intro db₁ h₁ db₂ h₂
  refine ⟨fun _ db₃ h₃ => ?_, fun _ => trivial⟩
  have howner := usageRow_owner h₁.inv hdata
  have hentry := entry_usageRow data (findChat db₁.rows data.chatId)
  have hfind : findChat (db₁.apply fun _ => none).rows data.chatId = findChat db₁.rows data.chatId :=
    rfl
  rw [hfind] at h₃ ⊢
  generalize usageRow data (findChat db₁.rows data.chatId) = row at howner hentry h₃ ⊢
  have hfresh : db₃.rows db₂.clock = none :=
    (h₃.undisturbed.rows db₂.clock _ (Function.update_self _ _ _)).trans h₂.fresh.1
  have hself : (db₃.apply (Function.update (fun _ => none) db₂.clock
      (some (some (.UsageLog row))))).rows db₂.clock = some (.UsageLog row) :=
    Db.rows_apply_update_self _ _ _ _
  have hothers : ∀ k ≠ db₂.clock, (db₃.apply (Function.update (fun _ => none) db₂.clock
      (some (some (.UsageLog row))))).rows k = db₃.rows k :=
    fun k hk => (Db.rows_apply_update_of_ne _ _ hk _).trans rfl
  refine ⟨⟨fun k row' hk => ?_, db₂.clock, row, hfresh, hself, hentry, hothers⟩, fun k r hr => ?_,
    fun _ _ => trivial⟩
  · have hne : k ≠ db₂.clock := by
      rintro rfl
      cases hfresh.symm.trans hk
    exact ⟨row', (hothers k hne).trans hk, .refl row'⟩
  · by_cases hk : k = db₂.clock
    · subst hk
      cases hself.symm.trans hr
      exact howner
    · exact h₃.inv k r ((hothers k hk).symm.trans hr)

/-- **Every call** adds its entry, or none. -/
lemma safe_ledgerCall (service : TokenService) (call : LedgerCall) (db : Db Row) :
    Safe accountSchema NoTwoOwners (ledgerContract call.entry) (call.statements service) []
      (fun _ => none) db := by
  cases hentry : call.entry with
  | none =>
      refine (along_ledgerCall service hentry).safe trivial ?_ (fun _ _ _ _ => trivial)
        (Nat.zero_le _) (.nothing _ _)
      intro label log w db _ hw hlater
      have hmoves : ∀ k, LogMove (db.rows k) ((db.apply w).rows k) := fun k => hw.view k
      exact ⟨⟨fun k => (hmoves k).kept, fun k => (hmoves k).addsNone⟩,
        fun k => (hmoves k).owner (hlater.inv k)⟩
  | some entry =>
      cases call with
      | Record principal call =>
          cases hentry
          refine safe_addUsage ⟨(ownerColumns principal).1, (ownerColumns principal).2,
            some call.chatId, call.modelId, call.kind, Stores.toTokenCount call.inputTokens,
            Stores.toTokenCount call.outputTokens⟩ ?_ db
          cases principal with
          | Authenticated userId sessionId => exact .inr rfl
          | Anonymous anonymousSessionId => exact .inl rfl
      | _ => cases hentry

/-! ## Runs

Each commit of the run is related to the client that made it, so that the weights can be added up by
clients. -/

/-- Calls on a database, all of them before their first statements. -/
def ledgerSystem {n : ℕ} (service : TokenService) (rows : List (Option Row))
    (calls : Fin n → LedgerCall) : Sys n Row Statement Reply :=
  Sys.start (Db.ofRows rows) fun i => (calls i).statements service

/-- What a row of the table counts for, if an entry counts for `f`. -/
def entryWeight {M : Type} [Zero M] (f : UsageLog → M) : Option Row → M
  | some (.UsageLog row) => f row.entry
  | _ => 0

/-- What the entry of a call counts for. -/
def LedgerCall.weight {M : Type} [Zero M] (f : UsageLog → M) (call : LedgerCall) : M :=
  (call.entry.map f).getD 0

/-- The answer of a recorder that has recorded its entry. -/
def isFinished (reply : Reply) : Bool := reply == .Finished

/-- A recorder has its one commit at its end. -/
lemma commitsTo_of_weight {M : Type} [Zero M] (f : UsageLog → M) (service : TokenService)
    (call : LedgerCall) : call.weight f = 0 ∨ (call.statements service).CommitsTo isFinished := by
  cases call with
  | Record principal call => exact .inr fun db k => ⟨.Finished, rfl, rfl⟩
  | _ => exact .inl rfl

section Weights

variable {M : Type} [AddCommMonoid M] (f : UsageLog → M) {db : Db Row} {w : Writes Row} {k : Key}

@[simp] lemma entryWeight_usage (row : UsageLog) :
    entryWeight f (some (.UsageLog row)) = f row.entry := rfl

lemma entryWeight_of_ne {x : Option Row} (h : ∀ row, x ≠ some (.UsageLog row)) :
    entryWeight f x = 0 := by
  unfold entryWeight
  split
  · rename_i row
    exact absurd rfl (h row)
  · rfl

/-- A row of the log keeps its weight; another row has none, unless it is new. -/
lemma entryWeight_congr {x y : Option Row}
    (hkept : ∀ row, x = some (.UsageLog row) → ∃ row', y = some (.UsageLog row') ∧ EntryKept row row')
    (hadds : ∀ row', y = some (.UsageLog row') → ∃ row, x = some (.UsageLog row)) :
    entryWeight f y = entryWeight f x := by
  by_cases hx : ∃ row, x = some (.UsageLog row)
  · obtain ⟨row, rfl⟩ := hx
    obtain ⟨row', rfl, hentry⟩ := hkept row rfl
    simp [hentry.entry]
  · have hx' : ∀ row, x ≠ some (.UsageLog row) := fun row h => hx ⟨row, h⟩
    have hy : ∀ row, y ≠ some (.UsageLog row) := fun row h => hx (hadds row h)
    rw [entryWeight_of_ne f hx', entryWeight_of_ne f hy]

/-- A commit adds the weight of the entry of its call. -/
lemma tally_of_addsEntry {call : LedgerCall}
    (hgenerated : ∀ k r, (db.apply w).rows k = some r → k < db.clock)
    (hkept : EntriesKept db.rows (db.apply w).rows)
    (hadds : AddsEntry db.rows (db.apply w).rows call.entry) :
    (db.apply w).tally (entryWeight f) = db.tally (entryWeight f) + call.weight f := by
  simp only [LedgerCall.weight]
  cases hentry : call.entry with
  | none =>
      rw [hentry] at hadds
      rw [Db.tally_apply fun k => entryWeight_congr f (hkept k) (hadds k)]
      simp
  | some entry =>
      rw [hentry] at hadds
      obtain ⟨k, row, hfresh, hnew, hrow, hothers⟩ := hadds
      rw [Db.tally_apply_one (hgenerated k _ hnew) (by rw [hfresh]; rfl)
        fun k' hk' => by rw [hothers k' hk'], hnew]
      simp [hrow]

end Weights

/-- **What the usage log is**, in a state `db` of a run and a later one, `db'`. -/
structure UsageLedger {n : ℕ} (calls : Fin n → LedgerCall) (rows : List (Option Row))
    (sys sys' : Sys n Row Statement Reply) : Prop where
  /-- What is recorded stays recorded. -/
  kept : EntriesKept sys.db.rows sys'.db.rows
  /-- Nothing belongs to two owners. -/
  owners : NoTwoOwners sys'.db.rows
  /-- Each recorder that has returned is counted once, and nothing else. -/
  counted : ∀ (M : Type) [AddCommMonoid M] (f : UsageLog → M),
    sys'.db.tally (entryWeight f)
      = (Db.ofRows rows).tally (entryWeight f) + sys'.answered isFinished fun i => (calls i).weight f

/-- **The usage log is append-only.**  From any state of a run to any later one every row stays,
with what it says about the call; no row belongs to two owners; and what is added up over the log is
what it was at the start plus what the recorders that have returned recorded. -/
theorem usage_ledger {n : ℕ} {service : TokenService} {rows : List (Option Row)}
    {calls : Fin n → LedgerCall} {sys sys' : Sys n Row Statement Reply}
    {acts more : List (Fin n × Action)} (howners : ∀ r, some r ∈ rows → r.AtMostOneOwner)
    (hrun : (ledgerSystem service rows calls).run accountSchema acts = some sys)
    (hmore : sys.run accountSchema more = some sys') : UsageLedger calls rows sys sys' := by
  have hadmissible : ∀ (sys : Sys n Row Statement Reply) i a,
      Admissible (fun i => ledgerContract (calls i).entry) sys i a :=
    fun _ _ _ => ⟨fun _ => trivial, fun _ _ _ _ _ _ _ _ => trivial⟩
  have hstart : Secure accountSchema NoTwoOwners (fun i => ledgerContract (calls i).entry)
      (ledgerSystem service rows calls) := by
    refine Secure.start (fun k r hr => ?_) (Db.lt_clock_ofRows rows)
      fun i => safe_ledgerCall service (calls i) _
    exact howners r (List.mem_of_getElem? (Db.rows_ofRows.mp hr))
  have hsecure := hstart.run (.of_forall _ hadmissible _ _) hrun
  have hsecure' := hsecure.run (.of_forall _ hadmissible _ _) hmore
  refine ⟨?_, hsecure'.inv, fun M _ f => ?_⟩
  · refine hsecure.run_guar (.of_forall _ hadmissible _ _) hmore
      (fun _ _ row hk => ⟨row, hk, .refl row⟩) ?_ (fun _ _ _ _ hguar => hguar.1)
    intro rows₀ rows₁ rows₂ h h' k row hk
    obtain ⟨row₁, hk₁, hkept⟩ := h k row hk
    obtain ⟨row₂, hk₂, hkept'⟩ := h' k row₁ hk₁
    exact ⟨row₂, hk₂, hkept.trans hkept'⟩
  · have hwhole : (ledgerSystem service rows calls).run accountSchema (acts ++ more) = some sys' := by
      rw [Sys.run_append, hrun]
      exact hmore
    exact hstart.run_tally (.of_forall _ hadmissible _ _) hwhole rfl
      (fun i => commitsTo_of_weight f service (calls i))
      fun i label log db w hgenerated hguar => tally_of_addsEntry f hgenerated hguar.1 hguar.2

/-- A reply is recorded, the user signs in, and then deletes the chat. -/
def ledgerCalls : Fin 3 → LedgerCall
  | 0 => .Record (.Anonymous 1) replyCall
  | 1 => .Account (.SignIn "user@example.com" (fun _ => true) (some 1) (plainInput "first"))
  | 2 => .DeleteChat (.Authenticated 0 5) 3

attribute [local instance] neZero_three in
/-- The recorder commits just before the transfer moves usage. -/
def recordedActs : List (Fin 3 × Action) :=
  [(1, .Proceed), (0, .Proceed), (1, .Proceed), (0, .Proceed), (0, .Proceed), (1, .Proceed),
    (1, .Visit 3), (1, .Proceed), (1, .Proceed), (1, .Visit 4), (1, .Proceed), (1, .Proceed),
    (1, .Proceed), (1, .Proceed), (1, .Visit 5), (1, .Proceed), (1, .Proceed)]

attribute [local instance] neZero_three in
def deletedActs : List (Fin 3 × Action) := [(2, .Proceed), (2, .Proceed), (2, .Proceed)]

attribute [local instance] neZero_three in
theorem usage_ledger_deleted : ∃ sys sys',
    (ledgerSystem sessionTokens sessionWithChat ledgerCalls).run accountSchema recordedActs = some sys
      ∧ sys.run accountSchema deletedActs = some sys' ∧ sys'.Answered isFinished 0
      ∧ sys'.db.rows 3 = none
      ∧ UsageLedger ledgerCalls sessionWithChat sys sys' := by
  have howners : ∀ r, some r ∈ sessionWithChat → r.AtMostOneOwner := by
    simp [sessionWithChat, Row.AtMostOneOwner, Row.owners]
  have hruns : ((ledgerSystem sessionTokens sessionWithChat ledgerCalls).run accountSchema
      recordedActs).any (fun sys => (sys.run accountSchema deletedActs).any fun sys' =>
        decide (sys'.Answered isFinished 0) && (sys'.db.rows 3).isNone) = true := by
    decide +kernel
  obtain ⟨sys, hrun, hsys⟩ := (Option.any_eq_true _ _).mp hruns
  obtain ⟨sys', hmore, hend⟩ := (Option.any_eq_true _ _).mp hsys
  rw [Bool.and_eq_true, decide_eq_true_eq, Option.isNone_iff_eq_none] at hend
  exact ⟨sys, sys', hrun, hmore, hend.1, hend.2, usage_ledger howners hrun hmore⟩

end RagStack
