import RagStack.Chats.StreamService

/-!
# What a handler leaves alone

Most calls of a `stream` run touch neither the messages nor the summaries nor the cached history.
`QuietFrame R` says of a relation `R` between two worlds that every such call keeps it, and one
lemma a handler says that the handler then does.  `PromptFrame R` adds a new summary, `CacheFrame R`
the calls that use the cache.  A property of a run supplies its relation once and gets all of these
lemmas.

A property that looks at the events, the buffered reply or the generation locks has fewer steps to
spare.  For it the frames come in parts: `SilentFrame` for what no such property sees, with
`SummaryFrame` and `HistoryFrame` for the two services built on it, `ReplyFrame` for the events and
the buffer, and `LockFrame` for the generation locks.

The calls that are left, `beginGeneration`, `completeGeneration`, `endGeneration` and the request
to the model, are what a property has to look at.

The lemmas follow the handlers from the bottom up, and each of them is one line of composition,
because `Keeps` composes along every construct.  What they save is large: a handler such as
`buildPrompt` has dozens of ways to end, and a property of the messages is not concerned with any of
them.  If the source changes inside such a handler, it is the frame lemma of that handler that has
to be looked at again.
-/

namespace RagStack

/-- The call uses the cached history of some chat. -/
def Call.usesCache : Call → Bool
  | .RedisGet (.Chat _) | .RedisSet (.Chat _) _ | .RedisDelete (.Chat _) => true
  | _ => false

/-- The call neither writes messages nor uses the cache nor asks the model for a reply. -/
def Call.isQuiet : Call → Bool
  | .CreateChat _ | .BeginGeneration _ | .CompleteGeneration _ | .EndGeneration _
  | .OllamaStreamChat .. => false
  | c => !c.usesCache

/-- The key of a lock that a run holds until it is over. -/
def RedisKey.isGeneration : RedisKey → Bool
  | .GenerationLock _ | .PrincipalGenerationLock .. => true
  | _ => false

/-- The call takes or releases a generation lock. -/
def Call.locksGeneration : Call → Bool
  | .RedisSetIfAbsent key | .RedisDeleteIfValueMatches key => key.isGeneration
  | _ => false

/-- The call is an event for the client. -/
def Call.isEvent : Call → Bool
  | .Emit _ => true
  | _ => false

/-- The call is quiet, no event and no matter of a generation lock. -/
def Call.isSilent (c : Call) : Bool := c.isQuiet && !c.isEvent && !c.locksGeneration

/-- Chats, models, messages and summaries are the same, and a cached history is still there or has
run out. -/
structure Stores.SameChats (s s' : Stores) : Prop where
  chats : s'.chats = s.chats
  models : s'.models = s.models
  messages : s'.messages = s.messages
  summaries : s'.summaries = s.summaries
  cache : ∀ chatId, s'.redis (.Chat chatId) = s.redis (.Chat chatId)
    ∨ s'.redis (.Chat chatId) = none

/-- Every silent step keeps `R`. -/
structure SilentFrame (R : World → World → Prop) : Prop extends IsPreorder World R where
  logged : ∀ w c v, c.isSilent = true → R w (w.log c v)
  stores : ∀ w s, w.stores.SameChats s → R w (w.setStores s)

/-- Every silent step and every use of the cache keeps `R`. -/
structure HistoryFrame (R : World → World → Prop) : Prop extends SilentFrame R where
  cacheLogged : ∀ w c v, c.usesCache = true → R w (w.log c v)
  redis : ∀ (w : World) (redis : RedisKey → Option RedisValue),
    R w (w.setStores { w.stores with redis })

/-- Every silent step and every new summary keeps `R`. -/
structure SummaryFrame (R : World → World → Prop) : Prop extends SilentFrame R where
  summaries : ∀ (w : World) (summaries : List ConversationSummary),
    R w (w.setStores { w.stores with summaries })

/-- Every silent step, every event and every change of the buffered reply keeps `R`. -/
structure ReplyFrame (R : World → World → Prop) : Prop extends SilentFrame R where
  emitted : ∀ w event v, R w (w.log (.Emit event) v)
  locals : ∀ (w : World) (l : StreamLocals), l.history = w.locals.history →
    l.assistantMessageId = w.locals.assistantMessageId → R w { w with locals := l }

/-- Every silent step, every matter of a generation lock and the renewal timer keep `R`. -/
structure LockFrame (R : World → World → Prop) : Prop extends SilentFrame R where
  lockLogged : ∀ w c v, c.locksGeneration = true → R w (w.log c v)
  renewing : ∀ (w : World) (b : Bool), R w { w with renewing := b }

/-- Every quiet step keeps `R`. -/
structure QuietFrame (R : World → World → Prop) : Prop extends ReplyFrame R, LockFrame R

/-- Every quiet step and every new summary keeps `R`. -/
structure PromptFrame (R : World → World → Prop) : Prop extends QuietFrame R, SummaryFrame R

/-- Every quiet step and every use of the cache keeps `R`. -/
structure CacheFrame (R : World → World → Prop) : Prop extends QuietFrame R, HistoryFrame R

lemma Stores.SameChats.refl (s : Stores) : s.SameChats s :=
  ⟨rfl, rfl, rfl, rfl, fun _ => .inl rfl⟩

/-- Keys run out, and a key that is no cached history changes. -/
lemma Stores.SameChats.redis (env : Env) (t : ℕ) (s : Stores) {redis : RedisKey → Option RedisValue}
    (h : ∀ chatId, redis (.Chat chatId) = liveKeys env t s (.Chat chatId)) :
    s.SameChats { s with redis } := by
  refine ⟨rfl, rfl, rfl, rfl, fun chatId => ?_⟩
  show redis (.Chat chatId) = _ ∨ redis (.Chat chatId) = none
  rw [h chatId]
  simp only [liveKeys]
  split
  · exact .inr rfl
  · exact .inl rfl

lemma Call.isQuiet_of_isSilent {c : Call} (hc : c.isSilent = true) : c.isQuiet = true := by
  simp only [isSilent] at hc
  simp only [Bool.and_eq_true] at hc
  exact hc.1.1

lemma Call.not_locksGeneration_of_isSilent {c : Call} (hc : c.isSilent = true) :
    c.locksGeneration = false := by
  simp only [isSilent] at hc
  simp only [Bool.and_eq_true, Bool.not_eq_true'] at hc
  exact hc.2

lemma Call.isQuiet_of_locksGeneration {c : Call} (hc : c.locksGeneration = true) :
    c.isQuiet = true := by
  cases c <;> first | rfl | cases hc

section Handlers

variable {R : World → World → Prop} {env : Env} {config : StreamConfig}

/-- A lock is held under the key that was asked for. -/
lemma acquire_key (key : RedisKey) (w : World) :
    Eff.wp (acquire env key) (fun o _ => ∀ lock, o = .Returned (some lock) → lock.key = key) w := by
  refine Eff.wp_seq (P := fun _ _ => True) trivial ?_ (fun _ _ _ => by simp) (fun _ _ => by simp)
  rintro w₀ w' -
  refine Eff.wp_seq (P := fun _ _ => True) trivial ?_ (fun _ _ _ => by simp) (fun _ _ => by simp)
  rintro set w'' -
  show Eff.wp (if set = true then pure (some (RedisLock.mk key w₀.tick)) else pure none) _ w''
  split
  · rintro lock ⟨⟩
    rfl
  · rintro lock ⟨⟩

namespace SilentFrame

variable (hR : SilentFrame R)
include hR

/-! ## Repositories

One lemma for each method, all of them consequences of the rule for an atomic call. -/

lemma operation {α : Type} {c : Call} (hlogged : ∀ w v, R w (w.log c v))
    {operation : ℕ → Stores → Except JsError (α × Stores)}
    (h : ∀ t s a s', operation t s = .ok (a, s') → s.SameChats s') :
    Eff.Keeps R (RagStack.transact env c operation) :=
  have := hR.toIsPreorder
  keeps_transact hlogged fun w v t a s ho =>
    IsTrans.trans _ _ _ (hlogged w v) (hR.stores _ s (h t _ a s ho))

lemma query {α : Type} {c : Call} (hc : c.isSilent = true) (read : Stores → α) :
    Eff.Keeps R (RagStack.query env c read) :=
  have := hR.toIsPreorder
  keeps_query fun w v => hR.logged w c v hc

lemma transact {α : Type} {c : Call} (hc : c.isSilent = true)
    {operation : ℕ → Stores → Except JsError (α × Stores)}
    (h : ∀ t s a s', operation t s = .ok (a, s') → s.SameChats s') :
    Eff.Keeps R (RagStack.transact env c operation) :=
  hR.operation (fun w v => hR.logged w c v hc) h

lemma findOwnedChat (chatId : Uuid) (principal : RequestPrincipal) :
    Eff.Keeps R (RagStack.findOwnedChat env chatId principal) := by
  have := hR.toIsPreorder
  refine .bind (hR.query rfl _) fun found => ?_
  split
  · exact .pure _
  · exact .throw _

lemma resolveForGeneration (name : String) :
    Eff.Keeps R (RagStack.resolveForGeneration env name) := by
  have := hR.toIsPreorder
  refine .bind (hR.query rfl _) fun found => ?_
  split
  · exact .throw _
  · split
    · exact .pure _
    · exact .throw _

lemma recordUsage (principal : RequestPrincipal) (chatId modelId : Uuid) (kind : UsageKind)
    (inputTokens outputTokens : Option ℤ) :
    Eff.Keeps R (RagStack.recordUsage env principal chatId modelId kind inputTokens outputTokens) := by
  have := hR.toIsPreorder
  refine keeps_await (fun w v => hR.logged w _ v rfl) (.tryCatch (hR.transact rfl ?_) fun _ => .pure _)
  rintro t s a s' h
  cases h
  exact ⟨rfl, rfl, rfl, rfl, fun _ => .inl rfl⟩

/-! ## Locks -/

section Locks

variable {key : RedisKey} (hkey : ∀ chatId, key ≠ .Chat chatId)
include hkey

lemma redisSetIfAbsent (hlogged : ∀ w v, R w (w.log (.RedisSetIfAbsent key) v))
    (value : RedisValue) : Eff.Keeps R (RagStack.redisSetIfAbsent env key value) := by
  refine hR.operation hlogged ?_
  intro t s a s' h
  split at h
  · cases h
    exact .redis env t s fun chatId => Function.update_of_ne (hkey chatId).symm _ _
  · cases h
    exact .redis env t s fun _ => rfl

lemma acquire (hlogged : ∀ w v, R w (w.log (.RedisSetIfAbsent key) v)) :
    Eff.Keeps R (RagStack.acquire env key) := by
  have := hR.toIsPreorder
  refine .bind .get fun w => .bind (hR.redisSetIfAbsent hkey hlogged _) fun set => ?_
  split <;> exact .pure _

lemma release (hlogged : ∀ w v, R w (w.log (.RedisDeleteIfValueMatches key) v)) (token : ℕ) :
    Eff.Keeps R (RedisLock.release env ⟨key, token⟩) := by
  refine hR.operation hlogged ?_
  intro t s a s' h
  split at h
  · cases h
    exact .redis env t s fun chatId => Function.update_of_ne (hkey chatId).symm _ _
  · cases h
    exact .redis env t s fun _ => rfl

end Locks

/-! ## Reading and asking -/

lemma signalAborted : Eff.Keeps R (RagStack.signalAborted env) := fun w => hR.refl w

lemma assertContentFits (settings : ContextSettings) (model : Model) (content : JsString) :
    Eff.Keeps R (RagStack.assertContentFits settings model content) := by
  have := hR.toIsPreorder
  simp only [RagStack.assertContentFits]
  split
  · exact .throw _
  · exact .pure _

lemma complete (model : String) (messages : List OllamaHistoryMessage)
    (contextTokens maxTokens : ℕ) :
    Eff.Keeps R (RagStack.complete env model messages contextTokens maxTokens) :=
  have := hR.toIsPreorder
  keeps_await (fun w v => hR.logged w _ v rfl) fun w => hR.refl w

lemma readLocals : Eff.Keeps R RagStack.locals := fun w => hR.refl w

lemma streamEnd (t : ℕ) : Eff.Keeps R (RagStack.streamEnd env t) := by
  intro w
  simp only [RagStack.streamEnd]
  split <;> exact hR.refl w

end SilentFrame

/-! ## The reply -/

namespace ReplyFrame

variable (hR : ReplyFrame R)
include hR

lemma emit (event : ChatStreamEvent) : Eff.Keeps R (RagStack.emit env event) :=
  have := hR.toIsPreorder
  keeps_query fun w v => hR.emitted w event v

lemma assign {f : StreamLocals → StreamLocals} (hhistory : ∀ l, (f l).history = l.history)
    (hid : ∀ l, (f l).assistantMessageId = l.assistantMessageId) :
    Eff.Keeps R (RagStack.assign f) :=
  .modify fun w => hR.locals w _ (hhistory _) (hid _)

lemma receiveChunk (assistantMessageId : Uuid) (chunk : OllamaChatChunk) :
    Eff.Keeps R (RagStack.receiveChunk env config assistantMessageId chunk) := by
  have := hR.toIsPreorder
  have hdone : Eff.Keeps R (if chunk.done = true then
      RagStack.assign fun l => { l with finalChunk := some chunk } else pure ()) := by
    split
    · exact hR.assign (fun _ => rfl) fun _ => rfl
    · exact .pure _
  unfold RagStack.receiveChunk
  simp only
  split
  · refine .bind hR.readLocals fun before => ?_
    split
    · exact .bind (.throw _) fun _ => .bind (hR.assign (fun _ => rfl) fun _ => rfl) fun _ =>
        .bind (hR.emit _) fun _ => hdone
    · exact .bind (hR.assign (fun _ => rfl) fun _ => rfl) fun _ => .bind (hR.emit _) fun _ => hdone
  · exact hdone

end ReplyFrame

/-! ## The generation locks -/

namespace LockFrame

variable (hR : LockFrame R)
include hR

lemma setIfAbsentLogged (key : RedisKey) (w : World) (v : Verdict) :
    R w (w.log (.RedisSetIfAbsent key) v) := by
  cases hkey : key.isGeneration with
  | true => exact hR.lockLogged w _ v hkey
  | false => exact hR.logged w _ v (by simp [Call.isSilent, Call.isQuiet, Call.usesCache,
      Call.isEvent, Call.locksGeneration, hkey])

lemma deleteLogged (key : RedisKey) (w : World) (v : Verdict) :
    R w (w.log (.RedisDeleteIfValueMatches key) v) := by
  cases hkey : key.isGeneration with
  | true => exact hR.lockLogged w _ v hkey
  | false => exact hR.logged w _ v (by simp [Call.isSilent, Call.isQuiet, Call.usesCache,
      Call.isEvent, Call.locksGeneration, hkey])

lemma acquireGenerationLock (chatId : Uuid) :
    Eff.Keeps R (RagStack.acquireGenerationLock env chatId) :=
  hR.acquire (by simp) (hR.setIfAbsentLogged _)

lemma acquireSlot (principal : PrincipalLockId) (slots : List ℕ) :
    Eff.Keeps R (RagStack.acquireSlot env principal slots) := by
  have := hR.toIsPreorder
  induction slots with
  | nil => exact .pure _
  | cons slot slots ih =>
      refine .bind (hR.acquire (by simp) (hR.setIfAbsentLogged _)) fun lock => ?_
      split
      · exact .pure _
      · exact ih

lemma acquirePrincipalGenerationLock (principal : RequestPrincipal) (slots : ℕ) :
    Eff.Keeps R (RagStack.acquirePrincipalGenerationLock env principal slots) :=
  hR.acquireSlot _ _

lemma releaseLock (lock : RedisLock) (hkey : ∀ chatId, lock.key ≠ .Chat chatId) :
    Eff.Keeps R (lock.release env) :=
  hR.release hkey (hR.deleteLogged _) lock.token

lemma settle (lock : RedisLock) (hkey : ∀ chatId, lock.key ≠ .Chat chatId) :
    Eff.Keeps R (RagStack.settle env lock) := by
  have := hR.toIsPreorder
  exact .tryCatch (.bind (hR.releaseLock lock hkey) fun _ => .pure _) fun _ => .pure _

lemma setRenewing (renewing : Bool) : Eff.Keeps R (RagStack.setRenewing renewing) :=
  .modify fun w => hR.renewing w renewing

lemma releaseLocks (chatLock principalLock : RedisLock) (hchat : ∀ c, chatLock.key ≠ .Chat c)
    (hprincipal : ∀ c, principalLock.key ≠ .Chat c) :
    Eff.Keeps R (RagStack.releaseLocks env chatLock principalLock) := by
  have := hR.toIsPreorder
  exact .bind (hR.setRenewing false) fun _ =>
    .bind (hR.settle chatLock hchat) fun _ => hR.settle principalLock hprincipal

end LockFrame

/-! ## The prompt

Summarization is the one part of building a prompt that is not quiet, and only by the row it may
store. -/

namespace SummaryFrame

variable (hR : SummaryFrame R)
include hR

lemma upsertSummary (summary : ConversationSummary) :
    Eff.Keeps R (RagStack.upsertSummary env summary) := by
  have := hR.toIsPreorder
  refine keeps_transact (fun w v => hR.logged w _ v rfl) ?_
  rintro w v t a s h
  cases h
  exact IsTrans.trans _ _ _ (hR.logged w _ v rfl) (hR.summaries _ _)

variable {settings : ContextSettings} (params : BuildPromptParams)

lemma foldChunks (budget : ContextBudget) (chunks : List (List ChatHistoryEntry))
    (content : Option JsString) (tokenCount : ℤ) :
    Eff.Keeps R (RagStack.foldChunks env settings params budget chunks content tokenCount) := by
  have := hR.toIsPreorder
  induction chunks generalizing content tokenCount with
  | nil => exact .pure _
  | cons chunk chunks ih =>
      refine .bind (hR.complete _ _ _ _) fun result => .bind (hR.recordUsage _ _ _ _ _ _) fun _ => ?_
      show Eff.Keeps R (if isDegenerateSummary result.content.trim then Eff.throw emptySummaryError
        else RagStack.foldChunks env settings params budget chunks (some result.content.trim) _)
      split
      · exact .throw _
      · exact ih _ _

lemma summarize (previous : Option ConversationSummary) (folded : List ChatHistoryEntry)
    (budget : ContextBudget) :
    Eff.Keeps R (RagStack.summarize env settings params previous folded budget) := by
  have := hR.toIsPreorder
  refine .bind (hR.foldChunks params _ _ _ _) ?_
  rintro ⟨content, tokenCount⟩
  cases content with
  | none => exact .throw _
  | some content =>
      cases folded.getLast? with
      | none => exact .throw _
      | some lastFolded => exact hR.upsertSummary _

lemma foldOldTurns (honSummarizing : Eff.Keeps R params.onSummarizing)
    (existing : Option ConversationSummary) (turns : List ChatHistoryEntry) (count : ℕ) :
    Eff.Keeps R (RagStack.foldOldTurns env settings params existing turns count) := by
  have := hR.toIsPreorder
  simp only [RagStack.foldOldTurns]
  split
  · refine .bind honSummarizing fun _ =>
      .tryCatch (.bind (hR.summarize params _ _ _) fun _ => .pure _) fun error =>
        .bind hR.signalAborted fun aborted => ?_
    split
    · exact .throw _
    · exact .pure _
  · exact .pure _

/-- Building a prompt is quiet, except for the summary it may store. -/
lemma buildPrompt (honSummarizing : Eff.Keeps R params.onSummarizing) :
    Eff.Keeps R (RagStack.buildPrompt env settings params) := by
  have := hR.toIsPreorder
  exact .bind (hR.query rfl _) fun _ => .bind (hR.query rfl _) fun _ =>
    .bind (hR.foldOldTurns params honSummarizing _ _ _) fun _ => .pure _

lemma foldOldTurns_rule (existing : Option ConversationSummary) (turns : List ChatHistoryEntry)
    (count : ℕ) {w : World} {Q : World → Prop} (quiet : Q w)
    (announced : Eff.wp params.onSummarizing (fun _ w₁ => ∀ w', R w₁ w' → Q w') w) :
    Eff.wp (RagStack.foldOldTurns env settings params existing turns count) (fun _ w' => Q w') w := by
  have := hR.toIsPreorder
  simp only [RagStack.foldOldTurns]
  split
  · refine Eff.wp_seq announced ?_ (fun _ w' h => h w' (Std.Refl.refl w'))
      (fun w' h => h w' (Std.Refl.refl w'))
    intro _ w₁ hw₁
    have hfold : Eff.Keeps R (Eff.tryCatch
        (do
          let summary ← RagStack.summarize env settings params existing (turns.take count)
            (getContextBudget params.model.maxContext settings)
          pure (some summary, turns.drop count))
        fun error => do
          if ← RagStack.signalAborted env then Eff.throw error
          else pure (existing, turns)) := by
      refine .tryCatch (.bind (hR.summarize params _ _ _) fun _ => .pure _) fun error =>
        .bind hR.signalAborted fun aborted => ?_
      split
      · exact .throw _
      · exact .pure _
    exact hw₁ _ (hfold w₁)
  · exact quiet

/-- **Building a prompt announces at most one summarization.**  A property of the worlds that
`onSummarizing` may lead to from the beginning, and that the other steps keep. -/
lemma buildPrompt_rule {w : World} {Q : World → Prop} (quiet : ∀ w', R w w' → Q w')
    (announced : ∀ w₁, R w w₁ →
      Eff.wp params.onSummarizing (fun _ w₂ => ∀ w', R w₂ w' → Q w') w₁) :
    Eff.wp (RagStack.buildPrompt env settings params) (fun _ w' => Q w') w := by
  have := hR.toIsPreorder
  refine Eff.wp_seq (P := fun _ w' => R w w') ((hR.query rfl _) w) ?_ (fun _ _ h => quiet _ h)
    (fun _ h => quiet _ h)
  intro existing w₁ hw₁
  refine Eff.wp_seq (P := fun _ w' => R w w') (IsTrans.trans _ _ _ hw₁ ((hR.query rfl _) w₁)) ?_
    (fun _ _ h => quiet _ h) (fun _ h => quiet _ h)
  intro lastAssistant w₂ hw₂
  exact Eff.wp_seq (P := fun _ w' => Q w')
    (hR.foldOldTurns_rule params _ _ _ (quiet _ hw₂) (announced _ hw₂)) (fun _ _ h => h)
    (fun _ _ h => h) (fun _ h => h)

end SummaryFrame

/-! ## The cache -/

namespace HistoryFrame

variable (hR : HistoryFrame R)
include hR

lemma redisOperation {α : Type} {c : Call} (hc : c.usesCache = true)
    {operation : ℕ → Stores → Except JsError (α × Stores)}
    (h : ∀ t s a s', operation t s = .ok (a, s') → ∃ redis, s' = { s with redis }) :
    Eff.Keeps R (RagStack.transact env c operation) := by
  have := hR.toIsPreorder
  refine keeps_transact (fun w v => hR.cacheLogged w c v hc) fun w v t a s ho => ?_
  obtain ⟨redis, rfl⟩ := h t _ a s ho
  exact IsTrans.trans _ _ _ (hR.cacheLogged w c v hc) (hR.redis _ redis)

lemma invalidate (chatId : Uuid) : Eff.Keeps R (RagStack.invalidate env chatId) := by
  have := hR.toIsPreorder
  refine .tryCatch (hR.redisOperation rfl ?_) fun _ => .pure _
  rintro t s a s' h
  cases h
  exact ⟨_, rfl⟩

lemma writeCache (chatId : Uuid) (history : List ChatHistoryEntry) :
    Eff.Keeps R (RagStack.writeCache env chatId history) := by
  have := hR.toIsPreorder
  refine .tryCatch (hR.redisOperation rfl ?_) fun _ => .pure _
  rintro t s a s' h
  cases h
  exact ⟨_, rfl⟩

lemma loadFromDatabase (chatId : Uuid) : Eff.Keeps R (RagStack.loadFromDatabase env chatId) := by
  have := hR.toIsPreorder
  refine .bind (hR.query rfl _) fun messages => ?_
  split
  · exact .pure _
  · exact .throw _

lemma cachedHistory (chatId : Uuid) : Eff.Keeps R (RagStack.cachedHistory env chatId) := by
  have := hR.toIsPreorder
  refine .tryCatch (.bind (hR.redisOperation rfl ?_) fun cached => ?_) fun _ => .pure _
  · rintro t s a s' h
    cases h
    exact ⟨_, rfl⟩
  · split
    · exact .pure _
    · exact .pure _
    · exact .bind (hR.invalidate chatId) fun _ => .pure _
    · exact .throw _
    · exact .throw _

lemma getHistory (chatId : Uuid) : Eff.Keeps R (RagStack.getHistory env chatId) := by
  have := hR.toIsPreorder
  refine .bind (hR.cachedHistory chatId) fun cached => ?_
  split
  · exact .pure _
  · exact .bind (hR.loadFromDatabase chatId) fun _ => .bind (hR.writeCache chatId _) fun _ => .pure _

lemma append (chatId : Uuid) (entry : ChatHistoryEntry) :
    Eff.Keeps R (RagStack.append env chatId entry) := by
  have := hR.toIsPreorder
  intro w
  -- what is released is the lock that was taken, which is no generation lock
  let held : Outcome JsError (Option RedisLock) → World → Prop := fun o w' =>
    R w w' ∧ ∀ lock, o = .Returned (some lock) → lock.key = .HistoryLock chatId
  have hacquire : Eff.wp (Eff.tryCatch (RagStack.acquire env (.HistoryLock chatId))
      fun _ => pure none) held w := by
    have hkeeps : Eff.Keeps R (RagStack.acquire env (.HistoryLock chatId)) :=
      hR.acquire (by simp) fun w v => hR.logged w _ v rfl
    have hlock : Eff.wp (RagStack.acquire env (.HistoryLock chatId)) held w :=
      ⟨hkeeps w, acquire_key _ w⟩
    refine Eff.wp_tryCatch hlock (fun _ _ h => h) ?_ (fun _ h => h)
    rintro e w' ⟨h, -⟩
    exact ⟨h, fun lock hlock => by cases hlock⟩
  show Eff.wp (RagStack.append env chatId entry) (fun _ w' => R w w') w
  refine Eff.wp_seq hacquire ?_ (fun _ _ h => h.1) (fun _ h => h.1)
  rintro lock w' ⟨hw', hlock⟩
  cases lock with
  | none => exact hw'
  | some lock =>
      have hkey := hlock lock rfl
      have hrelease : Eff.Keeps R (lock.release env) :=
        hR.release (by simp [hkey]) (fun w v => hR.logged w _ v (by rw [hkey]; rfl)) lock.token
      have hlocked : Eff.Keeps R (appendLocked env chatId entry) :=
        .bind (hR.getHistory chatId) fun _ => hR.writeCache chatId _
      exact IsTrans.trans _ _ _ hw'
        (Eff.Keeps.andFinally hlocked
          (.tryCatch (.bind hrelease fun _ => .pure _) fun _ => .pure _) w')

lemma refresh (chatId : Uuid) : Eff.Keeps R (RagStack.refresh env chatId) := by
  have := hR.toIsPreorder
  exact .bind (hR.loadFromDatabase chatId) fun _ => hR.writeCache chatId _

lemma refreshHistory (chatId : Uuid) : Eff.Keeps R (RagStack.refreshHistory env chatId) := by
  have := hR.toIsPreorder
  exact .tryCatch (keeps_await (fun w v => hR.logged w _ v rfl) (hR.refresh chatId)) fun _ =>
    keeps_await (fun w v => hR.logged w _ v rfl) (hR.invalidate chatId)

end HistoryFrame

/-! ## One run

The frame lemmas of the two large blocks, and the rule that reduces a property of a run to them. -/

/-- The `try` block from `stream.started` on. -/
def generateReply (env : Env) (config : StreamConfig) (params : StreamChatParams) (model : Model)
    (history : List ChatHistoryEntry) (userMessageId assistantMessageId : Uuid) :
    Handler Unit := do
  emit env (.StreamStarted params.chatId userMessageId assistantMessageId model.name)
  let prompt ← await env (.Service .BuildPrompt) <| buildPrompt env config.settings
    { principal := params.principal, chatId := params.chatId, model, history,
      content := params.content, onSummarizing := emit env .ContextSummarizing }
  receiveReply env config assistantMessageId model prompt.messages
  match (← locals).finalChunk with
  | none => Eff.throw (.Other "Ollama stream ended without a completion frame.")
  | some finalChunk =>
      finishGeneration env params model assistantMessageId prompt.summary finalChunk

lemma generate_eq (params : StreamChatParams) (model : Model) :
    generate env config params model = (do
      let history ← await env (.Service .GetHistory) (getHistory env params.chatId)
      assign fun l => { l with history := some history }
      let messages ← beginGeneration env params.chatId params.content model.name
      assign fun l => { l with assistantMessageId := some messages.assistantMessage.id }
      await env (.Service .AppendHistory)
        (append env params.chatId (.User messages.userMessage.id params.content))
      generateReply env config params model history messages.userMessage.id
        messages.assistantMessage.id) := rfl

/-- `stream`, for a message that is not too long. -/
def streamAccepted (env : Env) (config : StreamConfig) (params : StreamChatParams) :
    Handler Unit := do
  let (_, chatModel) ← findOwnedChat env params.chatId params.principal
  let selectedModel ← resolveForGeneration env (params.model.getD chatModel.name)
  assertContentFits config.settings selectedModel params.content
  match ← acquirePrincipalGenerationLock env params.principal config.principalSlots with
  | none => Eff.throw (.Http 409 "Too many active generations.")
  | some principalLock =>
      match ← acquireGenerationLock env params.chatId with
      | none => do
          let _ ← principalLock.release env
          Eff.throw (.Http 409 "This chat is already generating a response.")
      | some chatLock => streamLocked env config params selectedModel chatLock principalLock

/-- The length is all that is checked first. -/
lemma stream_eq (params : StreamChatParams) :
    stream env config params = (do
      assign fun _ => .initial
      if params.content.length > config.maxMessageChars then
        Eff.throw (.Http 413 "The message is too long.")
      streamAccepted env config params) := rfl

lemma acquireSlot_key (principal : PrincipalLockId) (slots : List ℕ) (w : World) :
    Eff.wp (acquireSlot env principal slots)
      (fun o _ => ∀ lock, o = .Returned (some lock) → ∀ chatId, lock.key ≠ .Chat chatId) w := by
  induction slots generalizing w with
  | nil => rintro lock ⟨⟩
  | cons slot slots ih =>
      refine Eff.wp_seq (acquire_key _ w) ?_ (fun _ _ _ => by simp) (fun _ _ => by simp)
      rintro lock w' hlock
      split
      · rintro _ ⟨⟩ chatId
        rw [hlock _ rfl]
        simp
      · exact ih w'

lemma settle_never_throws (lock : RedisLock) :
    Eff.ThrowsOnly (fun _ => False) (settle env lock) := .tryCatch fun _ => .pure ()

lemma releaseLocks_never_throws (chatLock principalLock : RedisLock) :
    Eff.ThrowsOnly (fun _ => False) (releaseLocks env chatLock principalLock) :=
  .bind (.modify _) fun _ => .bind (settle_never_throws chatLock) fun _ =>
    settle_never_throws principalLock

/-- **The rule of a run.**  Up to the `try` block and after it a run only takes silent steps and
those of its locks, so a property that these keep is a property of the block and its handler.   -/
theorem stream_rule (hR : LockFrame R) {params : StreamChatParams} {w : World}
    {Q : Outcome JsError Unit → World → Prop}
    (early : ∀ o w', R { w with locals := .initial } w' → (∀ a, o ≠ .Returned a) → Q o w')
    (tried : ∀ model w₁, R { w with locals := .initial } w₁ →
      Eff.wp (Eff.tryCatch (generate env config params model) (generationFailed env params))
        (fun o w₂ => ∀ o' w₃, R w₂ w₃ → (o' = o ∨ o' = .Halted) → Q o' w₃) w₁) :
    Eff.wp (stream env config params) Q w := by
  have := hR.toIsPreorder
  rw [stream_eq]
  refine Eff.wp_seq (P := fun _ (w' : World) => w' = { w with locals := .initial }) rfl ?_
    (fun _ _ h => early _ _ (h ▸ hR.refl _) (by simp))
    (fun _ h => early _ _ (h ▸ hR.refl _) (by simp))
  rintro _ _ rfl
  -- a quiet call either ends the run or leads to the next one
  have next : ∀ {α : Type} {m : Handler α} {f : α → Handler Unit} {w₁ : World}
      {P : Outcome JsError α → World → Prop}, R { w with locals := .initial } w₁ →
      Eff.Keeps R m → Eff.wp m P w₁ →
      (∀ a w₂, R { w with locals := .initial } w₂ → P (.Returned a) w₂ → Eff.wp (f a) Q w₂) →
      Eff.wp (m >>= f) Q w₁ := by
    intro α m f w₁ P hw₁ hm hP hf
    refine Eff.wp_seq (P := fun o w₂ => R { w with locals := .initial } w₂ ∧ P o w₂)
      ⟨IsTrans.trans _ _ _ hw₁ (hm w₁), hP⟩ (fun a w₂ h => hf a w₂ h.1 h.2)
      (fun _ _ h => early _ _ h.1 (by simp)) (fun _ h => early _ _ h.1 (by simp))
  have rest : ∀ w₁, R { w with locals := .initial } w₁ →
      Eff.wp (streamAccepted env config params) Q w₁ := by
    intro w₁ hw₁
    refine next (P := fun _ _ => True) hw₁ (hR.findOwnedChat _ _) trivial ?_
    rintro ⟨chat, chatModel⟩ w₂ hw₂ -
    refine next (P := fun _ _ => True) hw₂ (hR.resolveForGeneration _) trivial ?_
    rintro model w₃ hw₃ -
    refine next (P := fun _ _ => True) hw₃ (hR.assertContentFits _ _ _) trivial ?_
    rintro _ w₄ hw₄ -
    refine next hw₄ (hR.acquirePrincipalGenerationLock _ _) (acquireSlot_key _ _ w₄) ?_
    rintro principalLock w₅ hw₅ hprincipal
    cases principalLock with
    | none => exact early (.Thrown _) _ hw₅ (by simp)
    | some principalLock =>
        refine next hw₅ (hR.acquireGenerationLock _) (acquire_key _ w₅) ?_
        rintro chatLock w₆ hw₆ hchat
        cases chatLock with
        | none =>
            refine next (P := fun _ _ => True) hw₆ (hR.releaseLock _ (hprincipal _ rfl)) trivial ?_
            rintro _ w₇ hw₇ -
            exact early (.Thrown _) _ hw₇ (by simp)
        | some chatLock =>
            refine next (P := fun _ _ => True) hw₆ (hR.setRenewing true) trivial ?_
            rintro _ w₇ hw₇ -
            refine Eff.wp_andFinally (tried model w₇ hw₇) ?_
              (fun w₈ h => h _ _ (hR.refl _) (.inl rfl))
            intro o w₈ ho h
            refine Eff.wp_mono (Eff.wp_and (hR.releaseLocks chatLock principalLock
              (by rw [hchat _ rfl]; simp) (hprincipal _ rfl)).wp
              (releaseLocks_never_throws chatLock principalLock w₈)) ?_
            rintro o' w₉ ⟨hw₉, hthrows⟩
            cases o' with
            | Returned _ => exact h _ _ hw₉ (.inl rfl)
            | Thrown e => exact (hthrows e rfl).elim
            | Halted => exact h _ _ hw₉ (.inr rfl)
  show Eff.wp (if params.content.length > config.maxMessageChars then _ else _) Q _
  split
  · exact early (.Thrown _) _ (hR.refl _) (by simp)
  · exact rest _ (hR.refl _)

end Handlers

end RagStack
