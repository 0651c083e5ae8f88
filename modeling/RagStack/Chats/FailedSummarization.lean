import RagStack.Chats.SummaryMemory

/-!
# A summarization that fails

`buildPrompt` catches what `summarize` throws.  By then some chunks may have been summarized and
recorded; nothing of it may be seen in the prompt or in the stored summary.

The points of failure are many.  For each chunk the model may reject, its usage may not be recorded
because `usage.record` throws, and its answer may clean to nothing; and at the end the upsert may be
refused.  `foldFails` lists them in the order in which a fold comes to them, as a condition on the
script.  It is exact: a fold throws if and only if one of them is met first, and if it throws it has
written no summary, since the only write is its last call.

What the prompt then is can be said without the fold: it is the prompt of the same call under
settings that select nothing to fold.  The two calls differ in the number of their calls and in what
was recorded, and agree in everything a reader of the prompt or of the summaries can see.  An upsert
that is carried out although it rejects is the one way in which the row can change, and it is named.

* `foldFails` — the points at which a fold can fail, as a condition on the script.
* `foldChunks_settles`, `summarize_settles` — a fold throws exactly there, and then writes no
  summary.
* `failedSummarization_harmless` — the prompt is the one without a fold.
-/

namespace RagStack

/-- The caller is told that the call failed. -/
def Verdict.rejected : Verdict → Bool
  | .Rejects | .RejectsLate => true
  | _ => false

lemma rejected_resolves : Verdict.rejected .Resolves = false := rfl

/-- The call of the model for one chunk. -/
def chunkCall (settings : ContextSettings) (params : BuildPromptParams) (budget : ContextBudget)
    (content : Option JsString) (chunk : List ChatHistoryEntry) : Call :=
  .OllamaComplete params.model.name
    (buildSummaryRequest content chunk (budget.chunkTokens * settings.charsPerToken))
    params.model.maxContext budget.summaryMaxTokens

/-- **A point of failure.**  From the `t`-th call on, the fold of some chunks fails: a call of the
model rejects, its usage cannot be recorded, its output is degenerate, a later chunk fails, or the
upsert rejects. -/
def foldFails (env : Env) (settings : ContextSettings) (params : BuildPromptParams)
    (budget : ContextBudget) : List (List ChatHistoryEntry) → Option JsString → ℕ → Bool
  | [], _, t => (env.verdict t (.UpsertSummary params.chatId)).rejected
  | chunk :: chunks, content, t =>
      let text := (env.completion (t + 1)).content.trim
      (env.verdict t (chunkCall settings params budget content chunk)).rejected
        || env.verdict t (chunkCall settings params budget content chunk) = .Resolves
          && (env.recordFails (t + 1)
            || env.recordReturns (t + 1)
              && (isDegenerateSummary text
                || foldFails env settings params budget chunks (some text) (t + 3)))

variable {env : Env} {settings : ContextSettings}

/-- How a call of the model ends is up to the script. -/
lemma complete_settles (model : String) (messages : List OllamaHistoryMessage)
    (contextTokens maxTokens : ℕ) (w : World) :
    let verdict := env.verdict w.tick (.OllamaComplete model messages contextTokens maxTokens)
    Eff.wp (complete env model messages contextTokens maxTokens)
      (fun o w' => match o with
        | .Returned result => verdict = .Resolves ∧ result = env.completion (w.tick + 1)
            ∧ w'.tick = w.tick + 1
        | .Thrown _ => verdict.rejected = true
        | .Halted => verdict = .Hangs) w := by
  refine wp_await ?_ ?_ ?_ ?_
  · exact fun hv => ⟨hv, rfl, rfl⟩
  · exact fun hv => by simp [hv, Verdict.rejected]
  · exact fun hv => show Verdict.rejected _ = true by simp [hv, Verdict.rejected]
  · exact fun hv => hv

/-- **The loop of `summarize`.**  It throws at a point of failure; where it gets to its end, the
upsert is the last of them. -/
lemma foldChunks_settles (params : BuildPromptParams) (budget : ContextBudget)
    (chunks : List (List ChatHistoryEntry)) (content : Option JsString) (tokenCount : ℤ)
    (w : World) :
    Eff.wp (foldChunks env settings params budget chunks content tokenCount)
      (fun o w' => foldFails env settings params budget chunks content w.tick
        = match o with
          | .Returned _ => (env.verdict w'.tick (.UpsertSummary params.chatId)).rejected
          | .Thrown _ => true
          | .Halted => false) w := by
  induction chunks generalizing content tokenCount w with
  | nil => rfl
  | cons chunk chunks ih =>
      rw [foldFails]
      refine Eff.wp_seq (complete_settles _ _ _ _ w) ?_ ?_ ?_
      · rintro _ w₁ ⟨hresolved, rfl, htick₁⟩
        have hverdict : env.verdict w.tick (chunkCall settings params budget content chunk)
          = .Resolves := hresolved
        simp only [hverdict, rejected_resolves, decide_true, Bool.true_and, Bool.false_or]
        refine Eff.wp_seq (recordUsage_settles _ _ _ _ _ _ w₁) ?_ ?_ ?_
        · rintro _ w₂ ⟨hreturns, hfails, htick₂⟩
          rw [htick₁] at hreturns hfails htick₂
          show Eff.wp (if isDegenerateSummary (env.completion (w.tick + 1)).content.trim then
            Eff.throw emptySummaryError
            else foldChunks env settings params budget chunks
              (some (env.completion (w.tick + 1)).content.trim) _) _ w₂
          split
          · rename_i hdegenerate
            exact show _ = true by simp [hreturns, hdegenerate]
          · rename_i hdegenerate
            refine Eff.wp_mono (ih (some (env.completion (w.tick + 1)).content.trim) _ w₂) ?_
            intro o w' h
            rw [← h, htick₂]
            simp [hreturns, hfails, hdegenerate]
        · rintro e w' ⟨-, hfails⟩
          rw [htick₁] at hfails
          simp [hfails]
        · rintro w' ⟨hreturns, hfails⟩
          rw [htick₁] at hreturns hfails
          simp [hreturns, hfails]
      · intro e w' hrejected
        have hverdict : (env.verdict w.tick
          (chunkCall settings params budget content chunk)).rejected = true := hrejected
        simp [hverdict]
      · intro w' hhangs
        have hverdict : env.verdict w.tick (chunkCall settings params budget content chunk)
          = .Hangs := hhangs
        simp [hverdict, Verdict.rejected]

/-- The summaries stay as they are, unless an upsert of the chat is carried out although it
rejects. -/
def KeptUnlessLate (env : Env) (chatId : Uuid) (w w' : World) : Prop :=
  (∀ t, env.verdict t (.UpsertSummary chatId) ≠ .RejectsLate) →
    w'.stores.summaries = w.stores.summaries

/-- **`summarize` throws exactly at the points of failure**, and then leaves the summaries
alone. -/
lemma summarize_settles (params : BuildPromptParams) (previous : Option ConversationSummary)
    {folded : List ChatHistoryEntry} (hne : folded ≠ []) (budget : ContextBudget) (w : World) :
    Eff.wp (summarize env settings params previous folded budget)
      (fun o w' =>
        ((∃ e, o = .Thrown e) ↔ foldFails env settings params budget
          (chunkEntries folded budget.chunkTokens settings.charsPerToken)
          (previous.map (·.content)) w.tick = true)
        ∧ ((∃ e, o = .Thrown e) → KeptUnlessLate env params.chatId w w')) w := by
  refine Eff.wp_seq (Eff.wp_and (foldChunks_settles _ _ _ _ _ w) (foldChunks_spec _ _ _ _ _ w))
    ?_ ?_ ?_
  · rintro ⟨content, tokenCount⟩ w₁ ⟨hfails, hkept, hreturned⟩
    obtain ⟨steps, hentries, hlast, -⟩ := hreturned _ rfl
    -- there is a last chunk, whose answer is the text
    obtain ⟨content, rfl⟩ : ∃ text, content = some text := by
      rcases List.eq_nil_or_concat steps with rfl | ⟨front, last, rfl⟩
      · exact absurd hentries.symm (chunkEntries_ne_nil _ _ hne)
      · exact ⟨last.call.answer, hlast.trans (by simp [FoldStep.lastAnswer])⟩
    obtain ⟨lastFolded, hfolded⟩ : ∃ entry, folded.getLast? = some entry :=
      ⟨_, List.getLast?_eq_some_getLast hne⟩
    have hupsert : Eff.wp (upsertSummary env
          { chatId := params.chatId, content, summarizedThroughMessageId := lastFolded.id,
            tokenCount })
        (fun o w' => ((∃ e, o = .Thrown e)
            ↔ (env.verdict w₁.tick (.UpsertSummary params.chatId)).rejected = true)
          ∧ ((∃ e, o = .Thrown e) → KeptUnlessLate env params.chatId w w')) w₁ := by
      refine wp_transact ?_ ?_ ?_ ?_
      · intro a s hv
        simp [hv, Verdict.rejected]
      · rintro e v hv (rfl | ho)
        · exact ⟨by simp [hv, Verdict.rejected], fun _ _ => hkept.1⟩
        · cases ho
      · exact fun a s hv _ =>
          ⟨by simp [hv, Verdict.rejected], fun _ hlate => absurd hv (hlate _)⟩
      · intro hv
        simp [hv, Verdict.rejected]
    simp only [hfails, hfolded]
    exact hupsert
  · rintro e w' ⟨hfails, hkept, -⟩
    exact ⟨iff_of_true ⟨e, rfl⟩ hfails, fun _ _ => hkept.1⟩
  · rintro w' ⟨hfails, -⟩
    exact ⟨by simp [hfails], by simp⟩

/-! ## The call -/

/-- The settings with which no turn of a history is selected for folding. -/
def ContextSettings.keepingAll (settings : ContextSettings) (history : List ChatHistoryEntry) :
    ContextSettings :=
  { settings with keepRecentMessages := history.length }

lemma buildPrompt_eq {params : BuildPromptParams} {w : World}
    (hsummary : env.verdict w.tick (.FindSummary params.chatId) = .Resolves)
    (hlast : env.verdict (w.tick + 1) (.FindLastCompletedAssistantMessage params.chatId)
      = .Resolves) :
    buildPrompt env settings params w
      = (do
          let (summary, turns) ← foldOldTurns env settings params
            (w.stores.summaryOf params.chatId) (initialTurns params w.stores)
            (initialFoldCount settings params w.stores)
          pure (assemblePrompt settings params summary turns)) (afterQueries params w) := by
  have hsecond : findLastCompletedAssistantMessage env params.chatId
      (w.log (.FindSummary params.chatId) .Resolves)
      = (.Returned (w.stores.lastCompletedAssistantMessage params.chatId),
        afterQueries params w) := query_resolved hlast
  show Eff.bind (findByChatId env params.chatId) _ w = _
  simp only [Eff.bind, findByChatId]
  rw [query_resolved hsummary]
  show Eff.bind (findLastCompletedAssistantMessage env params.chatId) _ _ = _
  simp only [Eff.bind]
  rw [hsecond]
  rfl

/-- The rule of `buildPrompt`: what the block does, and the prompt that is made of it. -/
lemma wp_buildPrompt {params : BuildPromptParams} {w : World}
    {P : Outcome JsError (Option ConversationSummary × List ChatHistoryEntry) → World → Prop}
    {Q : Outcome JsError BuiltPrompt → World → Prop}
    (hsummary : env.verdict w.tick (.FindSummary params.chatId) = .Resolves)
    (hlast : env.verdict (w.tick + 1) (.FindLastCompletedAssistantMessage params.chatId)
      = .Resolves)
    (hfold : Eff.wp (foldOldTurns env settings params (w.stores.summaryOf params.chatId)
      (initialTurns params w.stores) (initialFoldCount settings params w.stores)) P
      (afterQueries params w))
    (returned : ∀ r w', P (.Returned r) w' →
      Q (.Returned (assemblePrompt settings params r.1 r.2)) w')
    (thrown : ∀ e w', P (.Thrown e) w' → Q (.Thrown e) w')
    (halted : ∀ w', P .Halted w' → Q .Halted w') :
    Eff.wp (buildPrompt env settings params) Q w := by
  simp only [Eff.wp]
  rw [buildPrompt_eq hsummary hlast]
  exact Eff.wp_seq hfold returned thrown halted

/-- A call that selects no turns for folding. -/
lemma buildPrompt_unfolded {params : BuildPromptParams} {w : World}
    (hsummary : env.verdict w.tick (.FindSummary params.chatId) = .Resolves)
    (hlast : env.verdict (w.tick + 1) (.FindLastCompletedAssistantMessage params.chatId)
      = .Resolves)
    (hnone : initialFoldCount settings params w.stores = 0) :
    buildPrompt env settings params w
      = (.Returned (assemblePrompt settings params (w.stores.summaryOf params.chatId)
          (initialTurns params w.stores)), afterQueries params w) := by
  rw [buildPrompt_eq hsummary hlast, hnone]
  rfl

/-- **A fold that fails** leaves the summary in force and the turns as they were. -/
lemma foldOldTurns_fails {params : BuildPromptParams} {existing : Option ConversationSummary}
    {turns : List ChatHistoryEntry} {count : ℕ} (hcount : count ≤ turns.length) {w w₁ : World}
    (hsummarizing : params.onSummarizing w = (.Returned (), w₁)) (hstores : w₁.stores = w.stores)
    (hfails : foldFails env settings params (getContextBudget params.model.maxContext settings)
      (chunkEntries (turns.take count)
        (getContextBudget params.model.maxContext settings).chunkTokens settings.charsPerToken)
      (existing.map (·.content)) w₁.tick = true) :
    Eff.wp (foldOldTurns env settings params existing turns count)
      (fun o w' => KeptUnlessLate env params.chatId w w'
        ∧ (env.aborted w'.tick = false → o = .Returned (existing, turns))) w := by
  simp only [foldOldTurns]
  split
  · rename_i hpos
    have hne : turns.take count ≠ [] := by
      rw [← List.length_pos_iff, List.length_take]
      omega
    refine Eff.wp_bind_of_eq hsummarizing ?_
    refine Eff.wp_tryCatch (P := fun o w' => (∃ e, o = .Thrown e)
      ∧ KeptUnlessLate env params.chatId w₁ w') ?_ ?_ ?_ ?_
    · have hsummarize : Eff.wp (summarize env settings params existing (turns.take count)
            (getContextBudget params.model.maxContext settings))
          (fun o w' => (∃ e, o = .Thrown e) ∧ KeptUnlessLate env params.chatId w₁ w') w₁ :=
        Eff.wp_mono (summarize_settles params existing hne _ w₁)
          fun o w' h => ⟨h.1.mpr hfails, h.2 (h.1.mpr hfails)⟩
      refine Eff.wp_seq hsummarize ?_ (fun e w' h => ⟨⟨e, rfl⟩, h.2⟩) ?_
      · rintro summary w' ⟨⟨e, ⟨⟩⟩, -⟩
      · rintro w' ⟨⟨e, ⟨⟩⟩, -⟩
    · rintro r w' ⟨⟨e, ⟨⟩⟩, -⟩
    · rintro error w' ⟨-, hkept⟩
      have hkept' : KeptUnlessLate env params.chatId w w' := fun hlate => hstores ▸ hkept hlate
      show Eff.wp (signalAborted env >>= fun aborted =>
        if aborted then Eff.throw error else pure (existing, turns)) _ w'
      refine Eff.wp_bind_of_eq (a := env.aborted w'.tick) rfl ?_
      split
      · rename_i haborted
        refine ⟨hkept', fun hsignal => ?_⟩
        rw [show env.aborted w'.tick = false from hsignal] at haborted
        cases haborted
      · exact ⟨hkept', fun _ => rfl⟩
    · rintro w' ⟨⟨e, ⟨⟩⟩, -⟩
  · exact ⟨fun _ => rfl, fun _ => rfl⟩

/-- With `keepingAll` there is nothing to fold. -/
lemma initialFoldCount_keepingAll (settings : ContextSettings) (params : BuildPromptParams)
    (s : Stores) : initialFoldCount (settings.keepingAll params.history) params s = 0 := by
  have hlength : (initialTurns params s).length - params.history.length = 0 :=
    Nat.sub_eq_zero_of_le (entriesAfter_isSuffix _ _).length_le
  unfold initialFoldCount foldCount
  simp only
  split
  · simp only [selectTurnsToFold]
    rw [show (settings.keepingAll params.history).keepRecentMessages = params.history.length
      from rfl, hlength]
    rfl
  · rfl

/-- **A failed summarization does no harm.**  Wherever it fails, while the signal is not aborted:
the prompt is the one of a call that selects no turns for folding, and no summary is changed.  The
hypotheses say that the call gets as far as its fold, and that the fold fails at one of its points.
-/
theorem failedSummarization_harmless (env : Env) (settings : ContextSettings) (chatId : Uuid)
    (history : List ChatHistoryEntry) (call : PromptCall) (w : World)
    (hqueries : env.verdict w.tick (.FindSummary chatId) = .Resolves
      ∧ env.verdict (w.tick + 1) (.FindLastCompletedAssistantMessage chatId) = .Resolves)
    (hevent : env.verdict (w.tick + 2) (.Emit .ContextSummarizing) = .Resolves)
    (hfails :
      let params := call.params env chatId history
      let budget := getContextBudget call.model.maxContext settings
      foldFails env settings params budget
        (chunkEntries ((initialTurns params w.stores).take
          (initialFoldCount settings params w.stores)) budget.chunkTokens settings.charsPerToken)
        ((w.stores.summaryOf chatId).map (·.content)) (w.tick + 3) = true)
    (hsignal : env.aborted
      (buildPrompt env settings (call.params env chatId history) w).2.tick = false) :
    ∃ prompt,
      (buildPrompt env settings (call.params env chatId history) w).1 = .Returned prompt
        ∧ (buildPrompt env (settings.keepingAll history) (call.params env chatId history) w).1
          = .Returned prompt
        ∧ KeptUnlessLate env chatId w
          (buildPrompt env settings (call.params env chatId history) w).2 := by
  have hsummarizing : (call.params env chatId history).onSummarizing
      (afterQueries (call.params env chatId history) w)
      = (.Returned (), (afterQueries (call.params env chatId history) w).log
          (.Emit .ContextSummarizing) .Resolves) :=
    @query_resolved Unit env (.Emit .ContextSummarizing) (fun _ => ())
      (afterQueries (call.params env chatId history) w) hevent
  have hfold : Eff.wp (buildPrompt env settings (call.params env chatId history))
      (fun o w' => KeptUnlessLate env chatId w w' ∧ (env.aborted w'.tick = false →
        o = .Returned (assemblePrompt settings (call.params env chatId history)
          (w.stores.summaryOf chatId) (initialTurns (call.params env chatId history) w.stores))))
      w := by
    refine wp_buildPrompt hqueries.1 hqueries.2
      (foldOldTurns_fails (foldCount_spec _ _ _ _ _).1 hsummarizing rfl hfails) ?_ ?_ ?_
    · rintro r w' ⟨hkept, hreturned⟩
      refine ⟨hkept, fun hsignal => ?_⟩
      cases hreturned hsignal
      rfl
    · rintro e w' ⟨hkept, hreturned⟩
      exact ⟨hkept, fun hsignal => by cases hreturned hsignal⟩
    · rintro w' ⟨hkept, hreturned⟩
      exact ⟨hkept, fun hsignal => by cases hreturned hsignal⟩
  have hunfolded := @buildPrompt_unfolded env (settings.keepingAll history)
    (call.params env chatId history) w hqueries.1 hqueries.2
    (initialFoldCount_keepingAll settings (call.params env chatId history) w.stores)
  exact ⟨_, hfold.2 hsignal, congrArg Prod.fst hunfolded, hfold.1⟩

/-- A summarizer which notes the same fact each time, and is gone at the second chunk. -/
def failingEnv : Env :=
  { notingEnv with verdict := fun t _ => if t = 6 then .Rejects else .Resolves }

/-- The first turn is folded in two chunks, and the second of them fails. -/
theorem failedSummarization_harmless_tea :
    ∃ prompt,
      (buildPrompt failingEnv .defaults (PromptCall.params failingEnv 1 teaHistory
          ⟨.Anonymous 1, ⟨1, "llama3.2:1b", 512, true⟩, js "More"⟩) (.start (.empty .counting))).1
          = .Returned prompt
        ∧ (buildPrompt failingEnv (ContextSettings.defaults.keepingAll teaHistory)
            (PromptCall.params failingEnv 1 teaHistory
              ⟨.Anonymous 1, ⟨1, "llama3.2:1b", 512, true⟩, js "More"⟩)
            (.start (.empty .counting))).1
          = .Returned prompt
        ∧ KeptUnlessLate failingEnv 1 (.start (.empty .counting))
          (buildPrompt failingEnv .defaults (PromptCall.params failingEnv 1 teaHistory
            ⟨.Anonymous 1, ⟨1, "llama3.2:1b", 512, true⟩, js "More"⟩)
            (.start (.empty .counting))).2 :=
  failedSummarization_harmless failingEnv .defaults 1 teaHistory
    ⟨.Anonymous 1, ⟨1, "llama3.2:1b", 512, true⟩, js "More"⟩ (.start (.empty .counting))
    (by decide +kernel) (by decide +kernel) (by decide +kernel) (by decide +kernel)

end RagStack
