import RagStack.Chats.Lemmas.Frame
import RagStack.Core.Except

/-!
# The cached history against PostgreSQL

PostgreSQL holds the messages, Redis a cached history per chat.  During a turn the cache runs ahead:
`append` adds a prompt which the history does not have before its reply is completed.  The `refresh`
at the end of the turn brings it back, and a `set` that is lost there is swallowed by `writeCache`.

What is cached is right between two turns and may be wrong within one.  So the invariant is stated
for the ends of turns, and a turn is followed through its calls with two facts about the cache, one
for the time before its prompt exists and one for the time after.  A turn that finds the cache right
obtains the history that PostgreSQL holds: from the cache, or from the query if Redis does not
answer.  The rest is about how it leaves the cache.

Every failure of Redis is considered.  A `get` that fails costs a query.  A `delete` that fails
leaves what was there, which is right or is overwritten later.  A `set` that fails is harmless if
nothing wrong is under the key, and this is the condition: it is about the state in which the `set`
is lost, and the runs that violate it are those that leave a wrong history behind.

* `CacheFresh` — what is cached is the history in PostgreSQL.
* `NoStaleLeft` — the condition: a write of the cache that is lost finds nothing stale to leave.
* `stream_fresh` — one turn keeps the cache fresh, and obtains the history that PostgreSQL holds.
* `getHistory_fresh_run` — so does every turn of every sequence of turns.
* `getHistory_stale` — two turns: the `set` of the first refresh is lost, the second turn obtains
  a prompt without its reply.
-/

namespace RagStack

/-! ## Statement

The condition is read off the trace, entry by entry, so it cannot come back once it has failed.
This is what `wpIf` asks of a condition. -/

/-- What is cached under the chat, if it can be read as a history, is the history in PostgreSQL. -/
def CacheFresh (s : Stores) (chatId : Uuid) : Prop :=
  ∀ history, s.redis (.Chat chatId) = some (.Json history) → s.history chatId = .ok history

/-- A write of the cache that is not carried out leaves no stale history under the key. -/
def TraceEntry.Harmless (chatId : Uuid) (entry : TraceEntry) : Prop :=
  ∀ value, entry.call = .RedisSet (.Chat chatId) value → entry.verdict.applied = false →
    CacheFresh entry.before chatId

/-- **The condition of a run.**  No entry of its trace is a lost `set` that has left a history under
the key which does not agree with the rows.  Each entry is judged by the stores as they were when
its call was issued. -/
def NoStaleLeft (chatId : Uuid) (w : World) : Prop :=
  ∀ entry ∈ w.trace, entry.Harmless chatId

/-- PostgreSQL succeeds, and the methods of the history service end as their statements do; Redis,
Ollama and the client may fail. -/
structure PostgresReliable (env : Env) : Prop where
  postgres : ∀ t c, c.isPostgres = true → env.verdict t c = .Resolves
  history : ∀ t service, service ∈ [Service.GetHistory, .AppendHistory, .RefreshHistory,
    .InvalidateHistory] → env.verdict t (.Service service) = .Resolves

/-- Several turns, one at a time: each begins in the world that the one before has left. -/
def streams (env : Env) (config : StreamConfig) (w : World) (calls : List StreamChatParams) :
    World :=
  calls.foldl (fun w params => (stream env config params w).2) w

/-! ## Frames -/

/-- From `w` to `w'` the messages stayed, and the cached history stayed or ran out. -/
structure CacheKept (chatId : Uuid) (w w' : World) : Prop where
  trace : w.trace <:+ w'.trace
  messages : w'.stores.messages = w.stores.messages
  cache : w'.stores.redis (.Chat chatId) = w.stores.redis (.Chat chatId)
    ∨ w'.stores.redis (.Chat chatId) = none
  history : w'.locals.history = w.locals.history
  assistantMessageId : w'.locals.assistantMessageId = w.locals.assistantMessageId

/-- From `w` to `w'` the messages stayed; the cache may hold anything. -/
structure RowsKept (w w' : World) : Prop where
  trace : w.trace <:+ w'.trace
  messages : w'.stores.messages = w.stores.messages
  history : w'.locals.history = w.locals.history
  assistantMessageId : w'.locals.assistantMessageId = w.locals.assistantMessageId

section Frames

variable {chatId : Uuid}

instance : IsPreorder World (CacheKept chatId) where
  refl _ := ⟨List.suffix_rfl, rfl, .inl rfl, rfl, rfl⟩
  trans _ _ _ h h' := by
    refine ⟨h.trace.trans h'.trace, h'.messages.trans h.messages, ?_, h'.history.trans h.history,
      h'.assistantMessageId.trans h.assistantMessageId⟩
    rcases h'.cache with hcache | hcache
    · rw [hcache]
      exact h.cache
    · exact .inr hcache

instance : IsPreorder World RowsKept where
  refl _ := ⟨List.suffix_rfl, rfl, rfl, rfl⟩
  trans _ _ _ h h' := ⟨h.trace.trans h'.trace, h'.messages.trans h.messages,
    h'.history.trans h.history, h'.assistantMessageId.trans h.assistantMessageId⟩

lemma CacheKept.log (w : World) (c : Call) (v : Verdict) : CacheKept chatId w (w.log c v) :=
  ⟨List.suffix_cons _ _, rfl, .inl rfl, rfl, rfl⟩

lemma RowsKept.log (w : World) (c : Call) (v : Verdict) : RowsKept w (w.log c v) :=
  ⟨List.suffix_cons _ _, rfl, rfl, rfl⟩

lemma cacheKept_frame (chatId : Uuid) : QuietFrame (CacheKept chatId) where
  refl := Std.Refl.refl
  trans := IsTrans.trans
  logged w c v _ := .log w c v
  emitted w _ v := .log w _ v
  lockLogged w c v _ := .log w c v
  stores _ _ h := ⟨List.suffix_rfl, h.messages, h.cache chatId, rfl, rfl⟩
  locals _ _ hhistory hid := ⟨List.suffix_rfl, rfl, .inl rfl, hhistory, hid⟩
  renewing _ _ := ⟨List.suffix_rfl, rfl, .inl rfl, rfl, rfl⟩

lemma rowsKept_frame : CacheFrame RowsKept where
  refl := Std.Refl.refl
  trans := IsTrans.trans
  logged w c v _ := .log w c v
  emitted w _ v := .log w _ v
  lockLogged w c v _ := .log w c v
  stores _ _ h := ⟨List.suffix_rfl, h.messages, rfl, rfl⟩
  locals _ _ hhistory hid := ⟨List.suffix_rfl, rfl, hhistory, hid⟩
  renewing _ _ := ⟨List.suffix_rfl, rfl, rfl, rfl⟩
  cacheLogged w c v _ := .log w c v
  redis _ _ := ⟨List.suffix_rfl, rfl, rfl, rfl⟩

lemma rowsKept_promptFrame : PromptFrame RowsKept where
  toQuietFrame := rowsKept_frame.toQuietFrame
  summaries _ _ := ⟨List.suffix_rfl, rfl, rfl, rfl⟩

lemma Stores.history_congr {s s' : Stores} (h : s'.messages = s.messages) (chatId : Uuid) :
    s'.history chatId = s.history chatId := by
  simp only [Stores.history, Stores.messagesForHistory]
  rw [h]

lemma CacheKept.fresh {w w' : World} (h : CacheKept chatId w w') (hw : CacheFresh w.stores chatId) :
    CacheFresh w'.stores chatId := by
  intro history hcached
  rw [Stores.history_congr h.messages]
  rcases h.cache with hcache | hcache
  · exact hw history (hcache ▸ hcached)
  · rw [hcache] at hcached
    cases hcached

/-- The condition of a longer run is one of the shorter. -/
lemma NoStaleLeft.of_suffix {w w' : World} (h : w.trace <:+ w'.trace)
    (hw' : NoStaleLeft chatId w') : NoStaleLeft chatId w :=
  fun entry hentry => hw' entry (h.subset hentry)

end Frames

/-! ## The cache operations -/

section Cache

variable {env : Env} {chatId : Uuid}

lemma CacheKept.noStaleLeft {w w' : World} (h : CacheKept chatId w w')
    (hC : NoStaleLeft chatId w') : NoStaleLeft chatId w := hC.of_suffix h.trace

lemma RowsKept.noStaleLeft {w w' : World} (h : RowsKept w w')
    (hC : NoStaleLeft chatId w') : NoStaleLeft chatId w := hC.of_suffix h.trace

lemma CacheKept.rowsKept {w w' : World} (h : CacheKept chatId w w') : RowsKept w w' :=
  ⟨h.trace, h.messages, h.history, h.assistantMessageId⟩

/-- Reading and deleting leave the cached history or remove it. -/
lemma redisDelete_kept : Eff.Keeps (CacheKept chatId) (redisDelete env (.Chat chatId)) := by
  refine keeps_transact (fun w v => .log w _ v) ?_
  rintro w v t a s h
  cases h
  exact ⟨List.suffix_cons _ _, rfl, .inr (Function.update_self _ _ _), rfl, rfl⟩

lemma liveKeys_kept (env : Env) (t : ℕ) (s : Stores) (key : RedisKey) :
    liveKeys env t s key = s.redis key ∨ liveKeys env t s key = none := by
  simp only [liveKeys]
  split
  · exact .inr rfl
  · exact .inl rfl

lemma redisGet_spec (w : World) :
    Eff.wp (redisGet env (.Chat chatId)) (fun o w' => CacheKept chatId w w'
      ∧ ∀ value, o = .Returned (some value) → w.stores.redis (.Chat chatId) = some value) w := by
  have hread : ∀ v t, CacheKept chatId w ((w.log (.RedisGet (.Chat chatId)) v).setStores
      { w.stores with redis := liveKeys env t w.stores }) := fun v t =>
    ⟨List.suffix_cons _ _, rfl, liveKeys_kept env t w.stores _, rfl, rfl⟩
  refine wp_transact ?_ ?_ ?_ ?_
  · rintro a s - h
    cases h
    refine ⟨hread _ _, fun value hvalue => ?_⟩
    rcases liveKeys_kept env (w.tick + 1) w.stores (.Chat chatId) with hlive | hlive
    · rw [hlive] at hvalue
      exact Outcome.Returned.inj hvalue
    · rw [hlive] at hvalue
      cases hvalue
  · exact fun e v _ _ => ⟨.log w _ v, by simp⟩
  · rintro a s - h
    cases h
    exact ⟨hread _ _, by simp⟩
  · exact fun _ => ⟨.log w _ _, by simp⟩

/-- A cached history that is used is the one that was there. -/
lemma cachedHistory_spec (w : World) :
    Eff.wp (cachedHistory env chatId) (fun o w' => CacheKept chatId w w'
      ∧ ∀ history, o = .Returned (some history) →
        w.stores.redis (.Chat chatId) = some (.Json history)) w := by
  refine Eff.wp_tryCatch (P := fun o w' => CacheKept chatId w w'
      ∧ ∀ history, o = .Returned (some history) →
        w.stores.redis (.Chat chatId) = some (.Json history)) ?_ (fun _ _ h => h)
    (fun _ _ h => ⟨h.1, by rintro history ⟨⟩⟩) (fun _ h => h)
  refine Eff.wp_seq (redisGet_spec w) ?_ (fun _ _ h => ⟨h.1, by simp⟩) (fun _ h => ⟨h.1, by simp⟩)
  rintro cached w₁ ⟨hkept, hvalue⟩
  split
  · exact ⟨hkept, by rintro history ⟨⟩⟩
  · refine ⟨hkept, ?_⟩
    rintro history ⟨⟩
    exact hvalue _ rfl
  · have hinvalidate : Eff.Keeps (CacheKept chatId) (do
        invalidate env chatId
        pure (none : Option (List ChatHistoryEntry))) :=
      .bind (.tryCatch redisDelete_kept fun _ => .pure _) fun _ => .pure _
    refine ⟨IsTrans.trans _ _ _ hkept (hinvalidate w₁), ?_⟩
    intro history hhistory
    obtain ⟨-, w₂, -, hpure⟩ := Eff.bind_eq_returned.mp (Prod.ext hhistory rfl)
    cases hpure
  · exact ⟨hkept, by rintro history ⟨⟩⟩
  · exact ⟨hkept, by rintro history ⟨⟩⟩

/-- After a write the cache holds what was written, or nothing stale was left in it. -/
lemma writeCache_spec (history : List ChatHistoryEntry) (w : World) :
    Eff.wpIf (NoStaleLeft chatId) (writeCache env chatId history)
      (fun o w' => RowsKept w w' ∧ (∀ e, o ≠ .Thrown e)
        ∧ (w'.stores.redis (.Chat chatId) = some (.Json history) ∨ CacheFresh w'.stores chatId))
      w := by
  have hlost : ∀ v, v.applied = false →
      NoStaleLeft chatId (w.log (.RedisSet (.Chat chatId) (.Json history)) v) →
      CacheFresh w.stores chatId :=
    fun v hv hC => hC ⟨_, v, w.stores, w.locals⟩ List.mem_cons_self _ rfl hv
  have hwritten : Eff.wp (writeCache env chatId history) (fun o w' => NoStaleLeft chatId w' →
      (∀ e, o ≠ .Thrown e) ∧ (w'.stores.redis (.Chat chatId) = some (.Json history)
        ∨ CacheFresh w'.stores chatId)) w := by
    refine Eff.wp_tryCatch (P := fun _ w' => NoStaleLeft chatId w' →
        w'.stores.redis (.Chat chatId) = some (.Json history) ∨ CacheFresh w'.stores chatId) ?_
      (fun _ _ h hC => ⟨by simp, h hC⟩) (fun _ _ h hC => ⟨by rintro e ⟨⟩, h hC⟩)
      (fun _ h hC => ⟨by simp, h hC⟩)
    refine wp_transact ?_ ?_ ?_ ?_
    · rintro a s - h -
      cases h
      exact .inl (Function.update_self _ _ _)
    · rintro e v - (rfl | h) hC
      · exact .inr (hlost _ rfl hC)
      · cases h
    · rintro a s - h -
      cases h
      exact .inl (Function.update_self _ _ _)
    · exact fun _ hC => .inr (hlost _ rfl hC)
  have hkept : RowsKept w (writeCache env chatId history w).2 :=
    rowsKept_frame.writeCache chatId history w
  exact fun hC => ⟨hkept.noStaleLeft hC, hkept, hwritten hC⟩

/-- Writing the history of PostgreSQL makes the cache fresh. -/
lemma RowsKept.fresh_of_written {w w' : World} {history : List ChatHistoryEntry}
    (h : RowsKept w w') (hhistory : w.stores.history chatId = .ok history)
    (hcache : w'.stores.redis (.Chat chatId) = some (.Json history)
      ∨ CacheFresh w'.stores chatId) : CacheFresh w'.stores chatId := by
  rcases hcache with hcache | hcache
  · intro history' hcached
    rw [hcache] at hcached
    cases hcached
    rw [Stores.history_congr h.messages, hhistory]
  · exact hcache

variable (henv : PostgresReliable env)
include henv

/-- A load is the history in PostgreSQL, or its error. -/
lemma loadFromDatabase_spec (w : World) :
    Eff.wp (loadFromDatabase env chatId) (fun o w' => CacheKept chatId w w' ∧ match o with
      | .Returned history => w.stores.history chatId = .ok history
      | .Thrown e => w.stores.history chatId = .error e
      | .Halted => False) w := by
  have hresolves : env.verdict w.tick (.FindMessagesForHistory chatId) = .Resolves :=
    henv.postgres _ _ rfl
  refine Eff.wp_seq (P := fun o w' => CacheKept chatId w w'
      ∧ o = .Returned (w.stores.messagesForHistory chatId)) ?_ ?_ (fun _ _ h => nomatch h.2)
    (fun _ h => nomatch h.2)
  · simp only [Eff.wp, findMessagesForHistory]
    rw [query_resolved hresolves]
    exact ⟨.log w _ _, rfl⟩
  · rintro messages w' ⟨hkept, hmessages⟩
    obtain rfl := Outcome.Returned.inj hmessages
    simp only [Stores.history]
    cases toHistoryEntries (w.stores.messagesForHistory chatId) with
    | ok history => exact ⟨hkept, rfl⟩
    | error e => exact ⟨hkept, rfl⟩

/-- A refresh makes the cache fresh, whatever it held before. -/
lemma refresh_spec (w : World) :
    Eff.wpIf (NoStaleLeft chatId) (refresh env chatId) (fun o w' => RowsKept w w' ∧ match o with
      | .Thrown e => w.stores.history chatId = .error e
      | _ => CacheFresh w'.stores chatId) w := by
  refine Eff.wpIf_seq (Eff.wp_mono (loadFromDatabase_spec henv w) fun _ _ h hC =>
    ⟨h.1.noStaleLeft hC, h⟩) ?_ (fun _ _ _ _ h => ⟨h.1.rowsKept, h.2⟩) (fun _ _ _ h => h.2.elim)
  rintro history w₁ hloaded
  refine Eff.wpIf_mono (writeCache_spec history w₁) ?_
  rintro o w₂ hC₁ hC ⟨hrows, hreturns, hcache⟩
  obtain ⟨-, hkept, hhistory⟩ := hloaded hC₁
  refine ⟨IsTrans.trans _ _ _ hkept.rowsKept hrows, ?_⟩
  have hfresh : CacheFresh w₂.stores chatId :=
    RowsKept.fresh_of_written (IsTrans.trans _ _ _ hkept.rowsKept hrows) hhistory hcache
  cases o with
  | Returned a => exact hfresh
  | Thrown e => exact absurd rfl (hreturns e)
  | Halted => exact hfresh

/-- **`getHistory` on a fresh cache** is the history in PostgreSQL, and leaves the cache fresh. -/
lemma getHistory_spec {w : World} (hw : NoStaleLeft chatId w → CacheFresh w.stores chatId) :
    Eff.wpIf (NoStaleLeft chatId) (getHistory env chatId) (fun o w' => RowsKept w w'
      ∧ CacheFresh w'.stores chatId
      ∧ ∀ history, o = .Returned history → w.stores.history chatId = .ok history) w := by
  refine Eff.wpIf_seq (Eff.wp_mono (cachedHistory_spec w) fun _ _ h hC =>
    ⟨h.1.noStaleLeft hC, h⟩) ?_
    (fun _ _ _ hC h => ⟨h.1.rowsKept, h.1.fresh (hw hC), by simp⟩)
    (fun _ _ hC h => ⟨h.1.rowsKept, h.1.fresh (hw hC), by simp⟩)
  rintro cached w₁ hcached
  split
  · rename_i history
    refine fun hC => ⟨hC, ?_⟩
    obtain ⟨hC₀, hkept, hjson⟩ := hcached hC
    refine ⟨hkept.rowsKept, hkept.fresh (hw hC₀), ?_⟩
    rintro history' ⟨⟩
    exact hw hC₀ _ (hjson _ rfl)
  · refine Eff.wpIf_seq (Eff.wp_mono (loadFromDatabase_spec henv w₁) fun _ _ h hC =>
      ⟨h.1.noStaleLeft hC, h⟩) ?_ ?_ (fun _ _ _ h => h.2.elim)
    · rintro history w₂ hloaded
      have hall : ∀ w₃, NoStaleLeft chatId w₂ → RowsKept w₂ w₃ →
          (w₃.stores.redis (.Chat chatId) = some (.Json history) ∨ CacheFresh w₃.stores chatId) →
          RowsKept w w₃ ∧ CacheFresh w₃.stores chatId
            ∧ w.stores.history chatId = .ok history := by
        intro w₃ hC₂ hrows hcache
        obtain ⟨hC₁, hkept₁, hhistory⟩ := hloaded hC₂
        have hkept : RowsKept w w₁ := (hcached hC₁).2.1.rowsKept
        have hrows₁ : RowsKept w₁ w₃ := IsTrans.trans _ _ _ hkept₁.rowsKept hrows
        exact ⟨IsTrans.trans _ _ _ hkept hrows₁, hrows₁.fresh_of_written hhistory hcache,
          (Stores.history_congr hkept.messages chatId).symm.trans hhistory⟩
      refine Eff.wpIf_seq (writeCache_spec history w₂) ?_ ?_ ?_
      · rintro _ w₃ hwritten hC
        obtain ⟨hC₂, hrows, -, hcache⟩ := hwritten hC
        obtain ⟨hrows₀, hfresh, hhistory⟩ := hall w₃ hC₂ hrows hcache
        refine ⟨hC, hrows₀, hfresh, ?_⟩
        rintro history' ⟨⟩
        exact hhistory
      · rintro e w₃ - hC₂ ⟨hrows, -, hcache⟩
        obtain ⟨hrows₀, hfresh, -⟩ := hall w₃ hC₂ hrows hcache
        exact ⟨hrows₀, hfresh, by simp⟩
      · rintro w₃ - hC₂ ⟨hrows, -, hcache⟩
        obtain ⟨hrows₀, hfresh, -⟩ := hall w₃ hC₂ hrows hcache
        exact ⟨hrows₀, hfresh, by simp⟩
    · rintro e w₂ hC hC₁ ⟨hkept₁, -⟩
      obtain ⟨hC₀, hkept, -⟩ := hcached hC₁
      exact ⟨IsTrans.trans _ _ _ hkept.rowsKept hkept₁.rowsKept,
        hkept₁.fresh (hkept.fresh (hw hC₀)), by simp⟩

end Cache

/-! ## Rows that can be converted

`toHistoryEntries` throws on a reply without a model.  The repository writes none, so a history of
this chat can be loaded at every moment, except that the row of the reply under way is not looked
at. -/

/-- The row can be converted to a history entry. -/
def Message.HasModel (m : Message) : Prop := m.model ≠ none ∧ m.model ≠ some ""

/-- Every completed reply of the chat, except the row `id`, can be converted. -/
def ConvertibleExcept (id : Option Uuid) (s : Stores) (chatId : Uuid) : Prop :=
  ∀ m ∈ s.messages.rows, m.chatId = chatId → m.role = .Assistant → m.status = .Completed →
    some m.id ≠ id → m.HasModel

lemma toHistoryEntry_isOk {m : Message} :
    (∃ entry, toHistoryEntry m = .ok entry) ↔ (m.role = .Assistant → m.HasModel) := by
  simp only [toHistoryEntry, Message.HasModel]
  cases m.role with
  | User => simp
  | Assistant =>
      cases m.model with
      | none => simp
      | some model =>
          by_cases hmodel : model = ""
          · simp [hmodel]
          · simp [hmodel]

lemma mem_completedTurns {m : Message} {messages : List Message} (h : m ∈ completedTurns messages) :
    m ∈ messages ∧ m.status = .Completed := by
  induction messages with
  | nil => cases h
  | cons head rest ih =>
      simp only [completedTurns] at h
      split at h
      · rename_i hpart
        rcases List.mem_cons.mp h with rfl | h
        · refine ⟨List.mem_cons_self, ?_⟩
          simp only [isPartOfCompletedTurn] at hpart
          split at hpart
          · exact of_decide_eq_true hpart
          · exact of_decide_eq_true (Bool.and_eq_true_iff.mp hpart).1
        · exact ⟨List.mem_cons_of_mem _ (ih h).1, (ih h).2⟩
      · exact ⟨List.mem_cons_of_mem _ (ih h).1, (ih h).2⟩

lemma completedTurns_of_assistant {m : Message} {messages : List Message} (hm : m ∈ messages)
    (hrole : m.role = .Assistant) (hstatus : m.status = .Completed) :
    m ∈ completedTurns messages := by
  induction messages with
  | nil => cases hm
  | cons head rest ih =>
      simp only [completedTurns]
      rcases List.mem_cons.mp hm with rfl | hm
      · have hpart : isPartOfCompletedTurn m rest.head? = true := by
          simp only [isPartOfCompletedTurn]
          rw [hrole]
          exact decide_eq_true hstatus
        rw [if_pos hpart]
        exact List.mem_cons_self
      · split
        · exact List.mem_cons_of_mem _ (ih hm)
        · exact ih hm

/-- **When a history can be loaded.** -/
lemma history_isOk {s : Stores} {chatId : Uuid} :
    (∃ history, s.history chatId = .ok history) ↔ ConvertibleExcept none s chatId := by
  have hmem : ∀ m, m ∈ s.messagesForHistory chatId ↔ m ∈ s.messages.rows ∧ m.chatId = chatId := by
    intro m
    simp only [Stores.messagesForHistory]
    rw [(List.perm_insertionSort _ _).mem_iff, List.mem_filter, decide_eq_true_iff]
  simp only [Stores.history, toHistoryEntries, ConvertibleExcept]
  simp only [exists_mapM_eq_ok_iff, toHistoryEntry_isOk]
  constructor
  · intro h m hm hchat hrole hstatus _
    exact h m (completedTurns_of_assistant ((hmem m).mpr ⟨hm, hchat⟩) hrole hstatus) hrole
  · intro h m hm hrole
    obtain ⟨hrow, hstatus⟩ := mem_completedTurns hm
    obtain ⟨hrow, hchat⟩ := (hmem m).mp hrow
    exact h m hrow hchat hrole hstatus (by simp)

/-! ## One turn

The `try` block and the `catch` block each come with what they do to the cache, and the turn is put
together by `stream_rule`. -/

/-- The history a turn has obtained, if it got that far, is the one PostgreSQL held at the
beginning of the turn. -/
def ObtainedTrue (chatId : Uuid) (w₀ w : World) : Prop :=
  ∀ history, w.locals.history = some history → w₀.stores.history chatId = .ok history

/-- A reply was created, and it is the only row that may not be convertible. -/
structure ReplyOpen (chatId : Uuid) (id : Uuid) (w : World) : Prop where
  row : ∃ m, w.stores.messages.find? id = some m
  convertible : ConvertibleExcept (some id) w.stores chatId
  assistantMessageId : w.locals.assistantMessageId = some id

/-- Where the `try` block can end. -/
def TurnOutcome (chatId : Uuid) (w₀ : World) (o : Outcome JsError Unit) (w : World) : Prop :=
  ObtainedTrue chatId w₀ w ∧ match o with
    | .Returned _ => CacheFresh w.stores chatId
    | .Thrown _ => w.locals.assistantMessageId = none ∧ CacheFresh w.stores chatId
        ∨ ∃ id, ReplyOpen chatId id w
    | .Halted => True

section Turn

variable {env : Env} {config : StreamConfig} {chatId : Uuid}

lemma RowsKept.replyOpen {id : Uuid} {w w' : World} (h : RowsKept w w')
    (hw : ReplyOpen chatId id w) : ReplyOpen chatId id w' := by
  refine ⟨h.messages ▸ hw.row, ?_, h.assistantMessageId.trans hw.assistantMessageId⟩
  simp only [ConvertibleExcept]
  rw [h.messages]
  exact hw.convertible

lemma RowsKept.obtainedTrue {w₀ w w' : World} (h : RowsKept w w')
    (hw : ObtainedTrue chatId w₀ w) : ObtainedTrue chatId w₀ w' :=
  fun history hhistory => hw history (h.history ▸ hhistory)

/-- An update of the open reply leaves the other rows alone. -/
lemma ReplyOpen.update {id : Uuid} {w : World} {c : Call} {v : Verdict} {s' : Stores}
    {change : Message → Message} (hw : ReplyOpen chatId id w)
    (hs' : s'.messages = w.stores.messages.update id change) :
    ReplyOpen chatId id ((w.log c v).setStores s') := by
  obtain ⟨m, hm⟩ := hw.row
  have hfound : (w.stores.messages.update id change).find? id
      = some { change m with id := m.id } := by
    rw [MessageTable.find?_update, hm, Option.map_some, if_pos (find?_id hm)]
  refine ⟨⟨_, hs'.symm ▸ hfound⟩, ?_, hw.assistantMessageId⟩
  intro m' hm' hchat hrole hstatus hid
  rw [World.stores_setStores, hs', MessageTable.rows_update] at hm'
  obtain ⟨m₀, hm₀, rfl⟩ := List.mem_map.mp hm'
  by_cases hm₀id : m₀.id = id
  · rw [if_pos hm₀id] at hid
    exact absurd (congrArg some hm₀id) hid
  · rw [if_neg hm₀id] at hchat hrole hstatus hid ⊢
    exact hw.convertible m₀ hm₀ hchat hrole hstatus hid

/-- Both new rows of a generation can be converted, and the reply is found. -/
lemma beginGeneration_open {s s' : Stores} {content : JsString} {model : String}
    {messages : Stores.GenerationMessages} (hs : ConvertibleExcept none s chatId)
    (h : s.beginGeneration chatId content model = .ok (messages, s')) :
    (∃ m, s'.messages.find? messages.assistantMessage.id = some m)
      ∧ ConvertibleExcept (some messages.assistantMessage.id) s' chatId := by
  simp only [Stores.beginGeneration] at h
  split at h
  · cases h
    refine ⟨⟨_, (MessageTable.find?_create _ _ _).trans (if_pos rfl)⟩, ?_⟩
    intro m hm hchat hrole hstatus hid
    simp only [Stores.touchChat, MessageTable.rows_create, List.mem_append,
      List.mem_singleton] at hm
    rcases hm with (hm | rfl) | rfl
    · exact hs m hm hchat hrole hstatus (by simp)
    · cases hrole
    · exact absurd rfl hid
  · cases h

variable (henv : PostgresReliable env)
include henv

lemma wpIf_historyService {α : Type} {service : Service} {effect : Handler α} {w : World}
    {Q : Outcome JsError α → World → Prop}
    (hservice : service ∈ [Service.GetHistory, .AppendHistory, .RefreshHistory, .InvalidateHistory])
    (h : Eff.wpIf (NoStaleLeft chatId) effect Q (w.log (.Service service) .Resolves)) :
    Eff.wpIf (NoStaleLeft chatId) (await env (.Service service) effect) Q w := by
  have hresolves : env.verdict w.tick (.Service service) = .Resolves := henv.history _ _ hservice
  have hlog : NoStaleLeft chatId (w.log (.Service service) .Resolves) → NoStaleLeft chatId w :=
    NoStaleLeft.of_suffix (List.suffix_cons _ _)
  refine wp_await (fun _ => Eff.wp_mono h fun _ _ h hC => ⟨hlog (h hC).1, (h hC).2⟩) ?_ ?_ ?_
  all_goals
    intro hv
    rw [hresolves] at hv
    cases hv

/-- `refresh` as the stream service awaits it. -/
lemma refreshService_spec (w : World) :
    Eff.wpIf (NoStaleLeft chatId) (await env (.Service .RefreshHistory) (refresh env chatId))
      (fun o w' => RowsKept w w' ∧ match o with
        | .Thrown e => w.stores.history chatId = .error e
        | _ => CacheFresh w'.stores chatId) w := by
  refine wpIf_historyService henv (by simp) (Eff.wpIf_mono (refresh_spec henv _) ?_)
  rintro o w' _ _ ⟨hrows, h⟩
  exact ⟨IsTrans.trans _ _ _ (RowsKept.log w _ _) hrows, h⟩

omit henv in
lemma wpIf_rowsKept {α : Type} {m : Handler α} (hm : Eff.Keeps RowsKept m) {w₁ w : World}
    (hw : RowsKept w₁ w) :
    Eff.wpIf (NoStaleLeft chatId) m (fun _ w' => RowsKept w₁ w') w :=
  fun hC => ⟨(hm w).noStaleLeft hC, IsTrans.trans _ _ _ hw (hm w)⟩

/-- A query that PostgreSQL answers is carried out, or refused by its operation. -/
lemma wpIf_postgres {α : Type} {c : Call} {operation : ℕ → Stores → Except JsError (α × Stores)}
    {w : World} {Q : Outcome JsError α → World → Prop} (hc : c.isPostgres = true)
    (returned : ∀ a s, NoStaleLeft chatId w → operation (w.tick + 1) w.stores = .ok (a, s) →
      Q (.Returned a) ((w.log c .Resolves).setStores s))
    (refused : ∀ e, NoStaleLeft chatId w → operation (w.tick + 1) w.stores = .error e →
      Q (.Thrown e) (w.log c .Resolves)) :
    Eff.wpIf (NoStaleLeft chatId) (transact env c operation) Q w := by
  have hresolves : env.verdict w.tick c = .Resolves := henv.postgres _ _ hc
  have hlog : ∀ v, NoStaleLeft chatId (w.log c v) → NoStaleLeft chatId w :=
    fun v => NoStaleLeft.of_suffix (List.suffix_cons _ _)
  refine wp_transact ?_ ?_ ?_ ?_
  · intro a s _ hok hC
    exact ⟨hlog _ hC, returned a s (hlog _ hC) hok⟩
  · intro e v hv herror hC
    rw [hresolves] at hv
    subst hv
    exact ⟨hlog _ hC, refused e (hlog _ hC) (herror.resolve_left (by simp))⟩
  · intro a s hv
    rw [hresolves] at hv
    cases hv
  · intro hv
    rw [hresolves] at hv
    cases hv

/-- The reply is completed, and still open for the cache. -/
lemma completeGeneration_turn {id : Uuid} {w₀ w : World}
    (hw : NoStaleLeft chatId w → ReplyOpen chatId id w ∧ ObtainedTrue chatId w₀ w)
    (promptTokens completionTokens : Option ℤ) (finishReason : Option String) :
    Eff.wpIf (NoStaleLeft chatId) (completeGeneration env id w.locals.assistantContent promptTokens
        completionTokens finishReason)
      (fun o w' => (∃ message, o = .Returned message)
        ∧ ReplyOpen chatId id w' ∧ ObtainedTrue chatId w₀ w') w := by
  refine wpIf_postgres henv rfl ?_ ?_
  · intro message s' hC h
    obtain ⟨hopen, hobtained⟩ := hw hC
    obtain ⟨m, hm⟩ := hopen.row
    obtain ⟨message', s'', hok, hs', -⟩ := completeGeneration_ok hm w.locals.assistantContent
      promptTokens completionTokens finishReason (env.now (w.tick + 1))
    cases hok.symm.trans h
    exact ⟨⟨message, rfl⟩, hopen.update hs', hobtained⟩
  · intro e hC h
    obtain ⟨m, hm⟩ := (hw hC).1.row
    obtain ⟨message', s'', hok, -⟩ := completeGeneration_ok hm w.locals.assistantContent
      promptTokens completionTokens finishReason (env.now (w.tick + 1))
    cases hok.symm.trans h

/-- The end of the `try` block: it refreshes the cache, or leaves the reply to the handler. -/
lemma finishGeneration_turn {id : Uuid} {w₀ w : World} {params : StreamChatParams}
    (hparams : params.chatId = chatId)
    (hw : NoStaleLeft chatId w → ReplyOpen chatId id w ∧ ObtainedTrue chatId w₀ w) (model : Model)
    (summary : Option ConversationSummary) (finalChunk : OllamaChatChunk) :
    Eff.wpIf (NoStaleLeft chatId) (finishGeneration env params model id summary finalChunk)
      (TurnOutcome chatId w₀) w := by
  subst hparams
  refine Eff.wpIf_bind_of_eq rfl (fun hC => hC) ?_
  refine Eff.wpIf_seq (completeGeneration_turn henv hw _ _ _) ?_
    (by rintro e w' - - ⟨⟨message, hmessage⟩, -⟩; cases hmessage)
    (by rintro w' - - ⟨⟨message, hmessage⟩, -⟩; cases hmessage)
  rintro completed w₁ hw₁
  -- from here on the reply stays open; only `refresh` touches the cache
  have hleaf : ∀ w', NoStaleLeft params.chatId w₁ → RowsKept w₁ w' →
      ReplyOpen params.chatId id w' ∧ ObtainedTrue params.chatId w₀ w' := fun w' hC h =>
    ⟨h.replyOpen (hw₁ hC).2.2.1, h.obtainedTrue (hw₁ hC).2.2.2⟩
  refine Eff.wpIf_seq (wpIf_rowsKept (rowsKept_frame.recordUsage _ _ _ _ _ _) (Std.Refl.refl w₁)) ?_
    ?_ ?_
  · rintro _ w₂ hw₂
    refine Eff.wpIf_seq (refreshService_spec henv w₂) ?_ ?_ ?_
    · rintro _ w₃ hw₃
      have hquiet : Eff.Keeps (CacheKept params.chatId) (do
          emit env (.MessageCompleted (toChatMessage completed))
          emit env (.ContextUpdated (toChatContext model.maxContext summary (some completed)))) :=
        .bind ((cacheKept_frame _).emit _) fun _ => (cacheKept_frame _).emit _
      have hkept := hquiet w₃
      intro hC
      have hC₃ := hkept.noStaleLeft hC
      obtain ⟨hC₂, hrows, hfresh⟩ := hw₃ hC₃
      obtain ⟨hC₁, hrows₁⟩ := hw₂ hC₂
      obtain ⟨hopen, hobtained⟩ := hleaf _ hC₁
        (IsTrans.trans _ _ _ hrows₁ (IsTrans.trans _ _ _ hrows hkept.rowsKept))
      refine ⟨hC₃, hobtained, ?_⟩
      split
      · exact hkept.fresh hfresh
      · exact .inr ⟨id, hopen⟩
      · trivial
    · rintro e w₃ - hC₂ ⟨hrows, -⟩
      obtain ⟨hC₁, hrows₁⟩ := hw₂ hC₂
      obtain ⟨hopen, hobtained⟩ := hleaf w₃ hC₁ (IsTrans.trans _ _ _ hrows₁ hrows)
      exact ⟨hobtained, .inr ⟨id, hopen⟩⟩
    · rintro w₃ - hC₂ ⟨hrows, -⟩
      obtain ⟨hC₁, hrows₁⟩ := hw₂ hC₂
      exact ⟨(hleaf w₃ hC₁ (IsTrans.trans _ _ _ hrows₁ hrows)).2, trivial⟩
  · exact fun e w₂ _ hC₁ h => ⟨(hleaf w₂ hC₁ h).2, .inr ⟨id, (hleaf w₂ hC₁ h).1⟩⟩
  · exact fun w₂ _ hC₁ h => ⟨(hleaf w₂ hC₁ h).2, trivial⟩

omit henv in
/-- As long as the reply is open, a step that keeps the messages either ends the block or leads to
the next one. -/
lemma ReplyOpen.next {α : Type} {m : Handler α} {f : α → Handler Unit} {id : Uuid} {w₀ w : World}
    (hm : Eff.Keeps RowsKept m)
    (hw : NoStaleLeft chatId w → ReplyOpen chatId id w ∧ ObtainedTrue chatId w₀ w)
    (hf : ∀ a w', (NoStaleLeft chatId w' → ReplyOpen chatId id w' ∧ ObtainedTrue chatId w₀ w') →
      Eff.wpIf (NoStaleLeft chatId) (f a) (TurnOutcome chatId w₀) w') :
    Eff.wpIf (NoStaleLeft chatId) (m >>= f) (TurnOutcome chatId w₀) w := by
  refine Eff.wpIf_seq (P := fun _ w' => ReplyOpen chatId id w' ∧ ObtainedTrue chatId w₀ w') ?_
    (fun a w' h => hf a w' fun hC => (h hC).2) (fun e w' _ _ h => ⟨h.2, .inr ⟨id, h.1⟩⟩)
    (fun w' _ _ h => ⟨h.2, trivial⟩)
  intro hC
  have hC₀ := (hm w).noStaleLeft hC
  exact ⟨hC₀, (hm w).replyOpen (hw hC₀).1, (hm w).obtainedTrue (hw hC₀).2⟩

lemma generateReply_turn {id : Uuid} {w₀ w : World} {params : StreamChatParams}
    (hparams : params.chatId = chatId)
    (hw : NoStaleLeft chatId w → ReplyOpen chatId id w ∧ ObtainedTrue chatId w₀ w) (model : Model)
    (history : List ChatHistoryEntry) (userMessageId : Uuid) :
    Eff.wpIf (NoStaleLeft chatId) (generateReply env config params model history userMessageId id)
      (TurnOutcome chatId w₀) w := by
  have hframe := rowsKept_frame
  refine ReplyOpen.next (hframe.emit _) hw ?_
  rintro _ w₁ hw₁
  refine ReplyOpen.next (keeps_await (fun w v => hframe.logged w _ v rfl)
    (rowsKept_promptFrame.buildPrompt _ (hframe.emit _))) hw₁ ?_
  rintro prompt w₂ hw₂
  have hreceive : Eff.Keeps RowsKept (receiveReply env config id model prompt.messages) :=
    .bind (keeps_await (fun w v => .log w _ v) fun w => Std.Refl.refl w) fun t =>
      .bind (.forEach (fun chunk => hframe.receiveChunk _ chunk) _) fun _ => hframe.streamEnd t
  refine ReplyOpen.next hreceive hw₂ ?_
  rintro _ w₃ hw₃
  refine ReplyOpen.next hframe.readLocals hw₃ ?_
  rintro l w₄ hw₄
  split
  · exact fun hC => ⟨hC, (hw₄ hC).2, .inr ⟨_, (hw₄ hC).1⟩⟩
  · exact finishGeneration_turn henv hparams hw₄ _ _ _

/-- A reply is created on rows that can be converted. -/
lemma beginGeneration_turn {w₀ w : World} {params : StreamChatParams}
    (hparams : params.chatId = chatId)
    (hw : NoStaleLeft chatId w → CacheFresh w.stores chatId
      ∧ ConvertibleExcept none w.stores chatId ∧ ObtainedTrue chatId w₀ w)
    (hid : NoStaleLeft chatId w → w.locals.assistantMessageId = none) (model : String) :
    Eff.wpIf (NoStaleLeft chatId) (beginGeneration env params.chatId params.content model)
      (fun o w' => ObtainedTrue chatId w₀ w' ∧ match o with
        | .Returned messages =>
            (∃ m, w'.stores.messages.find? messages.assistantMessage.id = some m)
              ∧ ConvertibleExcept (some messages.assistantMessage.id) w'.stores chatId
        | .Thrown _ => w'.locals.assistantMessageId = none ∧ CacheFresh w'.stores chatId
        | .Halted => True) w := by
  subst hparams
  refine wpIf_postgres henv rfl ?_ ?_
  · intro messages s' hC h
    obtain ⟨-, hconvertible, hobtained⟩ := hw hC
    exact ⟨hobtained, beginGeneration_open hconvertible h⟩
  · intro e hC _
    obtain ⟨hfresh, -, hobtained⟩ := hw hC
    exact ⟨hobtained, hid hC, hfresh⟩

/-- **The `try` block of a turn** that finds a fresh cache. -/
lemma generate_turn {w : World} {params : StreamChatParams} (hparams : params.chatId = chatId)
    (hw : NoStaleLeft chatId w → CacheFresh w.stores chatId) (hhistory : w.locals.history = none)
    (hid : w.locals.assistantMessageId = none) (model : Model) :
    Eff.wpIf (NoStaleLeft chatId) (generate env config params model) (TurnOutcome chatId w) w := by
  subst hparams
  rw [generate_eq]
  -- before the history is there, nothing was obtained and no reply exists
  have hearly : ∀ w', RowsKept w w' → ObtainedTrue params.chatId w w'
      ∧ w'.locals.assistantMessageId = none := by
    intro w' h
    refine ⟨fun history hobtained => ?_, h.assistantMessageId.trans hid⟩
    rw [h.history, hhistory] at hobtained
    cases hobtained
  have hlog : RowsKept w (w.log (.Service .GetHistory) .Resolves) := .log w _ _
  refine Eff.wpIf_seq (wpIf_historyService henv (by simp) (getHistory_spec henv
      fun hC => hw (hlog.noStaleLeft hC))) ?_
    (fun _ _ _ _ h => ⟨(hearly _ (IsTrans.trans _ _ _ hlog h.1)).1,
      .inl ⟨(hearly _ (IsTrans.trans _ _ _ hlog h.1)).2, h.2.1⟩⟩)
    (fun _ _ _ h => ⟨(hearly _ (IsTrans.trans _ _ _ hlog h.1)).1, trivial⟩)
  rintro history w₁ hw₁
  refine Eff.wpIf_bind_of_eq rfl (fun hC => hC) ?_
  set w₂ : World := { w₁ with locals := { w₁.locals with history := some history } }
  have hw₂ : NoStaleLeft params.chatId w₂ → CacheFresh w₂.stores params.chatId
      ∧ ConvertibleExcept none w₂.stores params.chatId ∧ ObtainedTrue params.chatId w w₂ := by
    intro hC
    obtain ⟨-, hrows, hfresh, hobtained⟩ := hw₁ hC
    have htrue : w.stores.history params.chatId = .ok history := hobtained history rfl
    refine ⟨hfresh, history_isOk.mp ⟨history, ?_⟩, ?_⟩
    · rw [Stores.history_congr hrows.messages]
      exact htrue
    · rintro history' ⟨⟩
      exact htrue
  have hid₂ : NoStaleLeft params.chatId w₂ → w₂.locals.assistantMessageId = none := fun hC =>
    (hearly _ (IsTrans.trans _ _ _ hlog (hw₁ hC).2.1)).2
  refine Eff.wpIf_seq (beginGeneration_turn henv rfl hw₂ hid₂ model.name) ?_
    (fun _ _ _ _ h => ⟨h.1, .inl h.2⟩) (fun _ _ _ h => ⟨h.1, trivial⟩)
  rintro messages w₃ hw₃
  refine Eff.wpIf_bind_of_eq rfl (fun hC => hC) ?_
  set w₄ : World := { w₃ with locals := { w₃.locals with
    assistantMessageId := some messages.assistantMessage.id } }
  have hw₄ : NoStaleLeft params.chatId w₄ →
      ReplyOpen params.chatId messages.assistantMessage.id w₄ ∧ ObtainedTrue params.chatId w w₄ :=
    fun hC => ⟨⟨(hw₃ hC).2.2.1, (hw₃ hC).2.2.2, rfl⟩, (hw₃ hC).2.1⟩
  refine ReplyOpen.next (keeps_await (fun w v => rowsKept_frame.logged w _ v rfl)
    (rowsKept_frame.append _ _)) hw₄ ?_
  rintro _ w₅ hw₅
  exact generateReply_turn henv rfl hw₅ model history _

/-- The guarded refresh of the `catch` block: it cannot fail on rows that can be converted. -/
lemma refreshHistory_spec {w : World}
    (hw : NoStaleLeft chatId w → ∃ history, w.stores.history chatId = .ok history) :
    Eff.wpIf (NoStaleLeft chatId) (refreshHistory env chatId)
      (fun o w' => RowsKept w w' ∧ (o ≠ .Halted → CacheFresh w'.stores chatId)) w := by
  refine Eff.wpIf_tryCatch (refreshService_spec henv w) (fun _ _ _ _ h => ⟨h.1, fun _ => h.2⟩) ?_
    (fun _ _ _ h => ⟨h.1, fun _ => h.2⟩)
  intro e w₁ hw₁
  have hkept : RowsKept w₁ (await env (.Service .InvalidateHistory) (invalidate env chatId) w₁).2 :=
    keeps_await (fun w v => .log w _ v) (rowsKept_frame.invalidate chatId) w₁
  intro hC
  -- the refresh throws the error of the conversion only, and there is none
  obtain ⟨hC₀, -, herror⟩ := hw₁ (hkept.noStaleLeft hC)
  obtain ⟨history, hhistory⟩ := hw hC₀
  rw [hhistory] at herror
  cases herror

/-- A reply that is open is ended, and then its rows can be converted again. -/
lemma endGeneration_turn {id : Uuid} {w₀ w : World}
    (hw : NoStaleLeft chatId w → ReplyOpen chatId id w ∧ ObtainedTrue chatId w₀ w)
    (content : JsString) (errorCode : Option String) :
    Eff.wpIf (NoStaleLeft chatId) (endGeneration env id content errorCode)
      (fun o w' => (∃ message, o = .Returned message) ∧ ObtainedTrue chatId w₀ w'
        ∧ ∃ history, w'.stores.history chatId = .ok history) w := by
  refine wpIf_postgres henv rfl ?_ ?_
  · intro message s' hC h
    obtain ⟨hopen, hobtained⟩ := hw hC
    obtain ⟨m, hm⟩ := hopen.row
    obtain ⟨message', s'', hok, hs', hfound, hstatus⟩ :=
      endGeneration_ok hm content errorCode (env.now (w.tick + 1))
    cases hok.symm.trans h
    have hopen' : ReplyOpen chatId id ((w.log (.EndGeneration id) .Resolves).setStores s') :=
      hopen.update hs'
    refine ⟨⟨message, rfl⟩, hobtained, history_isOk.mpr ?_⟩
    intro m' hm' hchat hrole hcompleted _
    refine hopen'.convertible m' hm' hchat hrole hcompleted fun hid' => ?_
    -- the ended row itself is no longer completed
    have hsame := s'.messages.find?_of_mem hm'
    rw [Option.some.inj hid', hfound] at hsame
    cases hsame
    rcases hstatus with hstatus | hstatus <;> rw [hcompleted] at hstatus <;> cases hstatus
  · intro error hC h
    obtain ⟨m, hm⟩ := (hw hC).1.row
    obtain ⟨message', s'', hok, -⟩ := endGeneration_ok hm content errorCode (env.now (w.tick + 1))
    cases hok.symm.trans h

/-- **The `catch` block of a turn.** -/
lemma generationFailed_turn {w₀ w : World} {e : JsError} {params : StreamChatParams}
    (hparams : params.chatId = chatId)
    (hw : NoStaleLeft chatId w → TurnOutcome chatId w₀ (.Thrown e) w) :
    Eff.wpIf (NoStaleLeft chatId) (generationFailed env params e)
      (fun o w' => ObtainedTrue chatId w₀ w' ∧ (o ≠ .Halted → CacheFresh w'.stores chatId)) w := by
  subst hparams
  refine Eff.wpIf_bind_of_eq rfl (fun hC => hC) ?_
  have hafter : ∀ id, w.locals.assistantMessageId = some id → ∀ content errorCode event,
      Eff.wpIf (NoStaleLeft params.chatId) (do
          let _ ← endGeneration env id content errorCode
          refreshHistory env params.chatId
          emit env event)
        (fun o w' => ObtainedTrue params.chatId w₀ w'
          ∧ (o ≠ .Halted → CacheFresh w'.stores params.chatId)) w := by
    intro id hid content errorCode event
    have hopen : NoStaleLeft params.chatId w →
        ReplyOpen params.chatId id w ∧ ObtainedTrue params.chatId w₀ w := by
      intro hC
      obtain ⟨hobtained, ⟨hnone, -⟩ | ⟨id', hopen⟩⟩ := hw hC
      · rw [hid] at hnone
        cases hnone
      · cases hid.symm.trans hopen.assistantMessageId
        exact ⟨hopen, hobtained⟩
    refine Eff.wpIf_seq (endGeneration_turn henv hopen content errorCode) ?_
      (by rintro e w' - - ⟨⟨message, hmessage⟩, -⟩; cases hmessage)
      (by rintro w' - - ⟨⟨message, hmessage⟩, -⟩; cases hmessage)
    rintro message w₁ hw₁
    refine Eff.wpIf_seq (refreshHistory_spec henv fun hC => (hw₁ hC).2.2.2) ?_
      (fun _ w₂ _ hC₁ h => ⟨h.1.obtainedTrue (hw₁ hC₁).2.2.1, h.2⟩)
      (fun w₂ _ hC₁ h => ⟨h.1.obtainedTrue (hw₁ hC₁).2.2.1, h.2⟩)
    rintro _ w₂ hw₂ hC
    have hkept : CacheKept params.chatId w₂ (emit env event w₂).2 :=
      (cacheKept_frame _).emit event w₂
    obtain ⟨hC₁, hrows, hfresh⟩ := hw₂ (hkept.noStaleLeft hC)
    exact ⟨hkept.noStaleLeft hC,
      (IsTrans.trans _ _ _ hrows hkept.rowsKept).obtainedTrue (hw₁ hC₁).2.2.1,
      fun _ => hkept.fresh (hfresh (by simp))⟩
  cases hid : w.locals.assistantMessageId with
  | none =>
      refine fun hC => ⟨hC, ?_⟩
      obtain ⟨hobtained, ⟨-, hfresh⟩ | ⟨id, hopen⟩⟩ := hw hC
      · exact ⟨hobtained, fun _ => hfresh⟩
      · rw [hopen.assistantMessageId] at hid
        cases hid
  | some id =>
      refine Eff.wpIf_bind_of_eq rfl (fun hC => hC) ?_
      cases env.aborted w.tick
      · exact hafter id hid _ _ _
      · exact hafter id hid _ _ _

/-- **One turn.**  On a fresh cache a turn obtains the history that PostgreSQL holds, and when it
ends the cache is fresh again. -/
theorem stream_fresh {w : World} {params : StreamChatParams} (hparams : params.chatId = chatId)
    (hw : NoStaleLeft chatId w → CacheFresh w.stores chatId) :
    Eff.wpIf (NoStaleLeft chatId) (stream env config params)
      (fun o w' => ObtainedTrue chatId w w' ∧ (o ≠ .Halted → CacheFresh w'.stores chatId)) w := by
  refine stream_rule (cacheKept_frame chatId).toLockFrame ?_ ?_
  · rintro o w' h - hC
    refine ⟨h.noStaleLeft hC, fun history hobtained => ?_, fun _ => h.fresh (hw (h.noStaleLeft hC))⟩
    rw [h.history] at hobtained
    cases hobtained
  · intro model w₁ hw₁
    have hback : NoStaleLeft chatId w₁ → NoStaleLeft chatId w := hw₁.noStaleLeft
    have hmessages : ∀ w', ObtainedTrue chatId w₁ w' → ObtainedTrue chatId w w' :=
      fun w' h history hhistory =>
        (Stores.history_congr hw₁.messages chatId).symm.trans (h history hhistory)
    have hfinal : ∀ {o : Outcome JsError Unit} {w₂ : World},
        (NoStaleLeft chatId w₂ → NoStaleLeft chatId w₁ ∧ ObtainedTrue chatId w₁ w₂
          ∧ (o ≠ .Halted → CacheFresh w₂.stores chatId)) →
        ∀ (o' : Outcome JsError Unit) w₃, CacheKept chatId w₂ w₃ → (o' = o ∨ o' = .Halted) →
          NoStaleLeft chatId w₃ → NoStaleLeft chatId w ∧ ObtainedTrue chatId w w₃
            ∧ (o' ≠ .Halted → CacheFresh w₃.stores chatId) := by
      intro o w₂ h o' w₃ hkept hends hC
      obtain ⟨hC₁, hobtained, hfresh⟩ := h (hkept.noStaleLeft hC)
      exact ⟨hback hC₁, hkept.rowsKept.obtainedTrue (hmessages _ hobtained),
        fun ho' => hkept.fresh (hfresh (hends.resolve_right ho' ▸ ho'))⟩
    refine Eff.wp_mono (Eff.wpIf_tryCatch (C := NoStaleLeft chatId) (Q := fun o w₂ =>
        ObtainedTrue chatId w₁ w₂ ∧ (o ≠ .Halted → CacheFresh w₂.stores chatId))
      (generate_turn henv hparams (fun hC => hw₁.fresh (hw (hback hC))) hw₁.history
        hw₁.assistantMessageId model) (fun _ _ _ _ h => ⟨h.1, fun _ => h.2⟩) ?_
      (fun _ _ _ h => ⟨h.1, by simp⟩)) fun o w₂ h => hfinal h
    exact fun e w₂ h => generationFailed_turn henv hparams fun hC => (h hC).2

end Turn

/-! ## Every sequence of turns -/

/-- Every turn of the sequence ends: completed, failed or cancelled. -/
def AllEnd (env : Env) (config : StreamConfig) (w : World) (calls : List StreamChatParams) : Prop :=
  ∀ earlier params later, calls = earlier ++ params :: later →
    (stream env config params (streams env config w earlier)).1 ≠ .Halted

lemma streams_append (env : Env) (config : StreamConfig) (w : World)
    (calls more : List StreamChatParams) :
    streams env config w (calls ++ more) = streams env config (streams env config w calls) more :=
  List.foldl_append

section Runs

variable {env : Env} {config : StreamConfig} {chatId : Uuid} {w : World}
  (henv : PostgresReliable env) (hfresh : CacheFresh w.stores chatId)
include henv hfresh

/-- **Run lemma.**  Under the condition of the run so far the cache is fresh after each turn. -/
lemma streams_fresh (calls : List StreamChatParams)
    (hchat : ∀ params ∈ calls, params.chatId = chatId) (hends : AllEnd env config w calls) :
    NoStaleLeft chatId (streams env config w calls) →
      CacheFresh (streams env config w calls).stores chatId := by
  induction calls using List.reverseRecOn with
  | nil => exact fun _ => hfresh
  | append_singleton calls params ih =>
      rw [streams_append]
      have hearlier := ih (fun p hp => hchat p (List.mem_append_left _ hp))
        fun earlier p later h => hends earlier p (later ++ [params]) (by rw [h]; simp)
      intro hC
      exact ((stream_fresh henv (hchat params (by simp)) hearlier) hC).2.2 (hends calls params [] rfl)

/-- The condition of a run is the condition of its beginning. -/
lemma noStaleLeft_streams (calls later : List StreamChatParams)
    (hchat : ∀ params ∈ calls ++ later, params.chatId = chatId)
    (hends : AllEnd env config w (calls ++ later)) :
    NoStaleLeft chatId (streams env config w (calls ++ later)) →
      NoStaleLeft chatId (streams env config w calls) := by
  induction later using List.reverseRecOn with
  | nil => simp
  | append_singleton later params ih =>
      rw [← List.append_assoc] at hchat hends ⊢
      have hchat' : ∀ p ∈ calls ++ later, p.chatId = chatId :=
        fun p hp => hchat p (List.mem_append_left _ hp)
      have hends' : AllEnd env config w (calls ++ later) :=
        fun earlier p rest h => hends earlier p (rest ++ [params]) (by rw [h]; simp)
      rw [streams_append]
      intro hC
      exact ih hchat' hends' ((stream_fresh henv (hchat params (by simp))
        (streams_fresh henv hfresh (calls ++ later) hchat' hends')) hC).1

end Runs

/-- **The history a turn obtains is the one in PostgreSQL.** For every sequence of turns on one
chat, one at a time, whatever their outcome and whichever Redis operations fail, as long as no write
of the cache is lost on top of a stale history.  The last history a turn has obtained is compared
with the rows at the beginning of that turn. -/
theorem getHistory_fresh_run (env : Env) (config : StreamConfig) (chatId : Uuid) (s : Stores)
    (calls : List StreamChatParams) (henv : PostgresReliable env)
    (hfresh : CacheFresh s chatId) (hchat : ∀ params ∈ calls, params.chatId = chatId)
    (hends : AllEnd env config (.start s) calls)
    (hcondition : NoStaleLeft chatId (streams env config (.start s) calls)) :
    ∀ earlier params later, calls = earlier ++ params :: later →
      ObtainedTrue chatId (streams env config (.start s) earlier)
        (stream env config params (streams env config (.start s) earlier)).2 := by
  rintro earlier params later rfl
  rw [List.append_cons] at hchat hends hcondition
  have hC := noStaleLeft_streams henv hfresh (earlier ++ [params]) later hchat hends hcondition
  rw [streams_append] at hC
  have hearlier := streams_fresh henv hfresh earlier
    (fun p hp => hchat p (by simp [hp]))
    fun before p rest h => hends before p (rest ++ [params] ++ later) (by rw [h]; simp)
  exact (stream_fresh henv (hchat params (by simp)) hearlier hC).2.1

/-! ## A lost write -/

/-- Redis answers no `get`. -/
def deafCache : Env :=
  { Env.answering with
    verdict := fun _ c => match c with
      | .RedisGet _ => .Rejects
      | _ => .Resolves }

/-- Without the cache being read, the second turn obtains the first from PostgreSQL. -/
theorem getHistory_fresh_run_deafCache :
    ObtainedTrue 1 (streams deafCache .defaults (.start .oneChat) [.hello])
      (stream deafCache .defaults .hello
        (streams deafCache .defaults (.start .oneChat) [.hello])).2 := by
  have henv : PostgresReliable deafCache := by
    refine ⟨fun t c hc => ?_, fun t service _ => rfl⟩
    cases c <;> first | rfl | cases hc
  have hends : AllEnd deafCache .defaults (.start .oneChat) [.hello, .hello] := by
    have hfirst : (stream deafCache .defaults .hello (.start .oneChat)).1 ≠ .Halted := by
      decide +kernel
    have hsecond : (stream deafCache .defaults .hello
        (streams deafCache .defaults (.start .oneChat) [.hello])).1 ≠ .Halted := by
      decide +kernel
    rintro (_ | ⟨p, _ | ⟨p', earlier⟩⟩) params later h
    · cases h
      exact hfirst
    · cases h
      exact hsecond
    · simp at h
  have hwrites : (streams deafCache .defaults (.start .oneChat) [.hello, .hello]).trace.all
      (fun entry => entry.verdict.applied || entry.call.usesCache
        && !(entry.call matches .RedisSet _ _)) = true := by
    decide +kernel
  have hcondition : NoStaleLeft 1
      (streams deafCache .defaults (.start .oneChat) [.hello, .hello]) := by
    intro entry hentry value hcall hlost
    have happlied := List.all_eq_true.mp hwrites entry hentry
    rw [hcall, hlost] at happlied
    cases happlied
  exact getHistory_fresh_run deafCache .defaults 1 .oneChat [.hello, .hello] henv
    (by rintro history ⟨⟩) (by simp [StreamChatParams.hello]) hends hcondition [.hello] .hello []
    rfl

/-- Redis loses one write: the one with which the first turn refreshes the cache. -/
def lostSet : Env :=
  { Env.answering with
    verdict := fun t c => match c with
      | .RedisSet _ _ => if t = 25 then .Rejects else .Resolves
      | _ => .Resolves }

/-- **A turn can obtain a stale history.**  The first turn is completed, but its refresh is lost;
the second turn obtains the prompt of the first without the reply. -/
theorem getHistory_stale :
    let first := streams lostSet .defaults (.start .oneChat) [.hello]
    (stream lostSet .defaults .hello first).2.locals.history = some [.User 0 (js "Hello")]
      ∧ first.stores.history 1
        = .ok [.User 0 (js "Hello"), .Assistant 1 (js "Hi") "llama3.2:1b"] := by
  decide +kernel

end RagStack
