import RagStack.Chats.FailedSummarization

/-!
# Building the prompt again

A reply is cancelled or fails after its prompt was built with a fold, and the user sends the message
again.  The estimate of the second call is the one of the new prompt, but the size Ollama reported
is still that of the last completed reply, from before the fold.

One would expect the second call to find everything done.  Its turns are those after the new anchor,
its summary is the one just stored, and their estimate is below the target, hence below the trigger.
But the decision takes the greater of two sizes, and the second one is a number that was reported
for a longer prompt.  It has not gone down, because no reply was completed in between.  So the
second call may fold again, turns that would have fitted, and asks the model once more.

Taking the maximum is what the source intends, as a reported size is more reliable than an estimate.
The file determines when it makes a difference, and shows that when it does not, the second call
only reads.

* `ReportedOver` — the reported size alone exceeds the trigger.
* `NoTurnLeft` — between the anchor and the messages that are kept, no turn begins.
* `repeatedPrompt_same` — the second call folds again exactly if the size exceeds the trigger and a
  turn is left; otherwise it returns the same prompt, and only reads.
-/

namespace RagStack

variable {env : Env} {settings : ContextSettings}

/-! ## The second decision

Two things keep it from folding: the reported size is small enough, or no turn begins in front of
the messages that are kept. -/

/-- The size Ollama reported last, with the new message, exceeds the trigger. -/
def ReportedOver (settings : ContextSettings) (params : BuildPromptParams)
    (lastAssistant : Option Message) : Prop :=
  ∃ tokens ∈ reportedTotal (lastAssistant.bind (·.promptTokens))
      (lastAssistant.bind (·.completionTokens)),
    ((getContextBudget params.model.maxContext settings).trigger : ℤ)
      < tokens + estimateMessageTokens params.content settings.charsPerToken

/-- No turn begins in front of the messages that are kept. -/
def NoTurnLeft (settings : ContextSettings) (turns : List ChatHistoryEntry) : Prop :=
  ∀ index ∈ List.range' 1 (turns.length - settings.keepRecentMessages),
    isTurnBoundary turns index = false

/-- The target is not above the trigger. -/
lemma target_le_trigger (settings : ContextSettings) (maxContext : ℕ) :
    (getContextBudget maxContext settings).target
      ≤ (getContextBudget maxContext settings).trigger := by
  refine Nat.floor_mono (mul_le_mul_of_nonneg_left ?_ (Nat.cast_nonneg _))
  exact settings.target_lt_summarizeAt.le

/-- A prompt within the target is over budget only for what was reported. -/
lemma overBudget_iff_of_le {params : BuildPromptParams} {existing : Option ConversationSummary}
    {turns : List ChatHistoryEntry} {lastAssistant : Option Message}
    (h : estimatePromptTokens (existing.map (·.content)) turns params.content
      settings.charsPerToken ≤ (getContextBudget params.model.maxContext settings).target) :
    overBudget settings params existing turns lastAssistant = true
      ↔ ReportedOver settings params lastAssistant := by
  have htrigger := h.trans (target_le_trigger settings params.model.maxContext)
  simp only [overBudget, needsSummarization, ReportedOver]
  cases reportedTotal (lastAssistant.bind (·.promptTokens))
    (lastAssistant.bind (·.completionTokens)) with
  | none => simp; omega
  | some tokens => simp; omega

/-- A prompt within the target is folded again only for what was reported, and only if a turn is
left to fold. -/
lemma foldCount_eq_zero_iff {params : BuildPromptParams} {existing : Option ConversationSummary}
    {turns : List ChatHistoryEntry} {lastAssistant : Option Message}
    (h : estimatePromptTokens (existing.map (·.content)) turns params.content
      settings.charsPerToken ≤ (getContextBudget params.model.maxContext settings).target) :
    foldCount settings params existing turns lastAssistant = 0
      ↔ ¬ ReportedOver settings params lastAssistant ∨ NoTurnLeft settings turns := by
  unfold foldCount
  simp only
  split
  · rename_i hover
    have hreported := (overBudget_iff_of_le h).mp hover
    rw [selectTurnsToFold_eq_zero_iff]
    exact ⟨.inr, fun h => h.resolve_left (not_not_intro hreported)⟩
  · rename_i hover
    exact iff_of_true rfl (.inl fun hreported => hover ((overBudget_iff_of_le h).mpr hreported))

/-! ## The first call -/

/-- A summary that `summarize` returns is the stored one, and its anchor is the last entry. -/
lemma summarize_stored {params : BuildPromptParams} {previous : Option ConversationSummary}
    {folded : List ChatHistoryEntry} {budget : ContextBudget} {w w' : World}
    {summary : ConversationSummary}
    (h : summarize env settings params previous folded budget w = (.Returned summary, w')) :
    w'.stores.summaryOf params.chatId = some summary
      ∧ ∃ last, folded.getLast? = some last ∧ summary.summarizedThroughMessageId = last.id := by
  have hwp : Eff.wp (summarize env settings params previous folded budget)
      (fun o w' => ∀ summary, o = .Returned summary →
        w'.stores.summaryOf params.chatId = some summary
          ∧ ∃ last, folded.getLast? = some last
            ∧ summary.summarizedThroughMessageId = last.id) w := by
    refine Eff.wp_seq (P := fun _ _ => True) trivial ?_ (by simp) (by simp)
    rintro ⟨content, tokenCount⟩ w₁ -
    cases content with
    | none => rintro summary ⟨⟩
    | some content =>
        cases hfolded : folded.getLast? with
        | none => rintro summary ⟨⟩
        | some lastFolded =>
            refine wp_transact ?_ (by simp) (by simp) (by simp)
            rintro a s - h
            cases h
            rintro summary ⟨⟩
            exact ⟨summaryOf_upsert w₁.stores _, lastFolded, rfl, rfl⟩
  simp only [Eff.wp] at hwp
  rw [h] at hwp
  exact hwp summary rfl

/-- A block that has folded ends where `summarize` does. -/
lemma foldOldTurns_folded {params : BuildPromptParams} {existing : Option ConversationSummary}
    {turns : List ChatHistoryEntry} {count : ℕ} {w w' : World}
    {r : Option ConversationSummary × List ChatHistoryEntry} {summary : ConversationSummary}
    (h : foldOldTurns env settings params existing turns count w = (.Returned r, w'))
    (hpos : 0 < count)
    (hsummary : (summarize env settings params existing (turns.take count)
      (getContextBudget params.model.maxContext settings) (params.onSummarizing w).2).1
      = .Returned summary) :
    r = (some summary, turns.drop count)
      ∧ summarize env settings params existing (turns.take count)
        (getContextBudget params.model.maxContext settings) (params.onSummarizing w).2
        = (.Returned summary, w') := by
  simp only [foldOldTurns] at h
  rw [if_pos hpos] at h
  obtain ⟨_, w₁, honSummarizing, h⟩ := Eff.bind_eq_returned.mp h
  rw [show (params.onSummarizing w).2 = w₁ from congrArg Prod.snd honSummarizing] at hsummary ⊢
  simp only [Eff.tryCatch] at h
  rcases hrun : summarize env settings params existing (turns.take count)
    (getContextBudget params.model.maxContext settings) w₁ with ⟨outcome, w₂⟩
  rw [hrun] at hsummary
  obtain rfl : outcome = .Returned summary := hsummary
  simp only [bind, Eff.bind, hrun] at h
  cases h
  exact ⟨rfl, rfl⟩

/-- What a call that has folded leaves behind. -/
lemma buildPrompt_folded {params : BuildPromptParams} {w w₁ : World} {prompt : BuiltPrompt}
    {summary : ConversationSummary}
    (h : buildPrompt env settings params w = (.Returned prompt, w₁))
    (hpos : 0 < initialFoldCount settings params w.stores)
    (hsummary : summarization env settings params w = .Returned summary) :
    let count := initialFoldCount settings params w.stores
    prompt = assemblePrompt settings params (some summary)
        ((initialTurns params w.stores).drop count)
      ∧ w₁.stores.summaryOf params.chatId = some summary
      ∧ ∃ last, ((initialTurns params w.stores).take count).getLast? = some last
        ∧ summary.summarizedThroughMessageId = last.id := by
  obtain ⟨r, hfold, rfl⟩ := buildPrompt_assembled h
  obtain ⟨rfl, hrun⟩ := foldOldTurns_folded hfold hpos hsummary
  exact ⟨rfl, summarize_stored hrun⟩

/-! ## Both calls

The second call starts from the entries after the anchor of the first, which are the turns that the
first call has kept. -/

/-- Behind the new anchor are the turns that were left. -/
lemma entriesAfter_folded {history : List ChatHistoryEntry} {anchor : Option Uuid} {count : ℕ}
    {last : ChatHistoryEntry} (hnodup : (history.map ChatHistoryEntry.id).Nodup)
    (hlast : ((entriesAfter history anchor).take count).getLast? = some last) :
    entriesAfter history (some last.id) = (entriesAfter history anchor).drop count := by
  obtain ⟨before, hbefore⟩ := entriesAfter_isSuffix history anchor
  obtain ⟨front, hfront⟩ := List.getLast?_eq_some_iff.mp hlast
  have hsplit : history
      = (before ++ front) ++ last :: (entriesAfter history anchor).drop count := by
    rw [List.append_assoc, ← List.singleton_append, ← List.append_assoc front, ← hfront,
      List.take_append_drop, hbefore]
  generalize (entriesAfter history anchor).drop count = rest at hsplit ⊢
  subst hsplit
  exact entriesAfter_eq_of_anchor hnodup

/-- **The prompt is built again.**  A call has folded turns, and its prompt is within the target;
the same call follows, with the summary it has stored and no further reply completed.  It selects
no turns exactly if the size reported last does not exceed the trigger or no turn is left to fold;
and then it returns the same prompt, and does nothing but its two queries. -/
theorem repeatedPrompt_same (env : Env) (settings : ContextSettings) (params : BuildPromptParams)
    (w w₁ w₂ : World) (prompt : BuiltPrompt) (summary : ConversationSummary)
    (hnodup : (params.history.map ChatHistoryEntry.id).Nodup)
    (hfirst : buildPrompt env settings params w = (.Returned prompt, w₁))
    (hpos : 0 < initialFoldCount settings params w.stores)
    (hfolded : summarization env settings params w = .Returned summary)
    (htarget :
      let remaining := (initialTurns params w.stores).drop (initialFoldCount settings params w.stores)
      estimatePromptTokens (some summary.content) remaining params.content settings.charsPerToken
        ≤ (getContextBudget params.model.maxContext settings).target)
    (hsummary : w₂.stores.summaryOf params.chatId = w₁.stores.summaryOf params.chatId)
    (hlast : w₂.stores.lastCompletedAssistantMessage params.chatId
      = w.stores.lastCompletedAssistantMessage params.chatId)
    (hqueries : env.verdict w₂.tick (.FindSummary params.chatId) = .Resolves
      ∧ env.verdict (w₂.tick + 1) (.FindLastCompletedAssistantMessage params.chatId)
        = .Resolves) :
    let remaining := (initialTurns params w.stores).drop (initialFoldCount settings params w.stores)
    let settled := ¬ ReportedOver settings params
        (w.stores.lastCompletedAssistantMessage params.chatId) ∨ NoTurnLeft settings remaining
    (initialFoldCount settings params w₂.stores = 0 ↔ settled)
      ∧ (settled → buildPrompt env settings params w₂
        = (.Returned prompt, afterQueries params w₂)) := by
  intro remaining settled
  obtain ⟨rfl, hstored, last, hgetLast, hanchor⟩ := buildPrompt_folded hfirst hpos hfolded
  have hturns : initialTurns params w₂.stores = remaining := by
    simp only [initialTurns]
    rw [hsummary, hstored, Option.map_some, hanchor]
    exact entriesAfter_folded hnodup hgetLast
  have hagain : initialFoldCount settings params w₂.stores = 0 ↔ settled := by
    simp only [initialFoldCount]
    rw [hsummary, hstored, hturns, hlast]
    exact foldCount_eq_zero_iff htarget
  refine ⟨hagain, fun hsettled => ?_⟩
  rw [buildPrompt_unfolded hqueries.1 hqueries.2 (hagain.mpr hsettled), hturns, hsummary, hstored]

/-- The call of the chat about tea. -/
def teaParams : BuildPromptParams :=
  PromptCall.params notingEnv 1 teaHistory
    ⟨.Anonymous 1, ⟨1, "llama3.2:1b", 512, true⟩, js "More"⟩

/-- Without a reported size, the second call finds nothing to do. -/
theorem repeatedPrompt_same_tea :
    let prompt := assemblePrompt .defaults teaParams (some ⟨1, js "- likes tea", 2, 8⟩)
      (teaHistory.drop 2)
    let w₁ := (buildPrompt notingEnv .defaults teaParams (.start (.empty .counting))).2
    buildPrompt notingEnv .defaults teaParams w₁
      = (.Returned prompt, afterQueries teaParams w₁) := by
  intro prompt w₁
  refine (repeatedPrompt_same notingEnv .defaults teaParams (.start (.empty .counting)) w₁ w₁ prompt
    ⟨1, js "- likes tea", 2, 8⟩ (by decide +kernel) (Prod.ext (by decide +kernel) rfl)
    (by decide +kernel) (by decide +kernel) (by decide +kernel) rfl (by decide +kernel)
    ⟨rfl, rfl⟩).2 (.inl ?_)
  rintro ⟨tokens, htokens, -⟩
  cases htokens

/-- Four short turns, the last of them with the size that Ollama reported for it: 400 tokens. -/
def reportedMessages : MessageTable :=
  (((List.range 4).foldl (fun table _ =>
      (table.create ⟨1, .User, .Completed, js "Tea?", none, none, .Unknown⟩).create
        ⟨1, .Assistant, .Completed, js "Yes", some "llama3.2:1b", none, .Unknown⟩)
    (MessageTable.empty .counting)).update 7 fun m =>
      { m with promptTokens := some 380, completionTokens := some 20 })

/-- The world of this chat. -/
def reportedWorld : World := .start { Stores.empty .counting with messages := reportedMessages }

/-- A new message in this chat. -/
def reportedParams : BuildPromptParams where
  principal := .Anonymous 1
  chatId := 1
  model := ⟨1, "llama3.2:1b", 512, true⟩
  history := [.User 0 (js "Tea?"), .Assistant 1 (js "Yes") "llama3.2:1b",
    .User 2 (js "Tea?"), .Assistant 3 (js "Yes") "llama3.2:1b",
    .User 4 (js "Tea?"), .Assistant 5 (js "Yes") "llama3.2:1b",
    .User 6 (js "Tea?"), .Assistant 7 (js "Yes") "llama3.2:1b"]
  content := js "More"
  onSummarizing := pure ()

/-- **It can fold again.**  The first call folds the first turn, and its prompt is far below the
target of 204 tokens; the second call asks the model once more and moves the anchor on. -/
theorem repeatedPrompt_foldsAgain :
    let w₁ := (buildPrompt notingEnv .defaults reportedParams reportedWorld).2
    let w₂ := (buildPrompt notingEnv .defaults reportedParams w₁).2
    (reportedWorld.stores.history 1).toOption = some reportedParams.history
      ∧ summarization notingEnv .defaults reportedParams reportedWorld
        = .Returned ⟨1, js "- likes tea", 1, 8⟩
      ∧ estimatePromptTokens (some (js "- likes tea")) (reportedParams.history.drop 2)
          reportedParams.content 3 ≤ (getContextBudget 512 .defaults).target
      ∧ w₁.stores.lastCompletedAssistantMessage 1
        = reportedWorld.stores.lastCompletedAssistantMessage 1
      ∧ w₁.stores.summaryOf 1 = some ⟨1, js "- likes tea", 1, 8⟩
      ∧ (summarizerCalls notingEnv w₁.trace).length = 1
      ∧ w₂.stores.summaryOf 1 = some ⟨1, js "- likes tea", 3, 8⟩
      ∧ (summarizerCalls notingEnv w₂.trace).length = 2 := by
  decide +kernel

end RagStack
