import RagStack.Chats.ContextWindowService
import RagStack.Chats.Lemmas.ContextWindow

/-!
# When the prompt fits the model

`dropOldestTurns` is the last line of defence of `buildPrompt`, but turns are all it can drop: the
summary in force and the new message stay.  The check made beforehand, `assertContentFits`, looks at
the new message alone, and nothing bounds the text of a summary.

A call can take many ways to its prompt.  There may be no summary or an old one, a fold may succeed
or fail or not be tried, and turns may be dropped in the end.  All of them come down to one formula,
that the prompt is built from the summary in force and from a suffix of the turns after it, cut by
`dropOldestTurns`.  What that cut can achieve is known, so whether the prompt fits is a question
about the two texts that stay.

The summary in force depends on the answers of the model.  It is not computed by the prompt that is
returned but by the fold alone, so the condition says in advance what the fold comes to and compares
its size with the trigger.

* `summaryInForce` — the summary a prompt is built with: the stored one, or the one the fold of
  this call has just written.
* `buildPrompt_returned` — the prompt of a call that returns, as a function of that summary and of
  the turns it leaves.
* `buildPrompt_fits_iff` — the prompt fits exactly when that summary and the message fit alone.
* `buildPrompt_overflows` — stored notes of 600 characters for which they do not.
-/

namespace RagStack

variable (env : Env) (settings : ContextSettings)

/-- The estimated size of the messages of a prompt. -/
def estimateMessages (messages : List OllamaHistoryMessage) (charsPerToken : ℚ) : ℕ :=
  (messages.map fun message => estimateMessageTokens message.content charsPerToken).sum

/-- The messages of a prompt are as large as the estimate that was made of them. -/
theorem estimateMessages_toPromptMessages (summary : Option JsString)
    (turns : List ChatHistoryEntry) (content : JsString) (charsPerToken : ℚ) :
    estimateMessages (toPromptMessages summary turns content) charsPerToken
      = estimatePromptTokens summary turns content charsPerToken := by
  rw [estimatePromptTokens_eq_sum, ← map_content_toPromptMessages, List.map_map]
  rfl

/-! ## The two variables of the `if (overBudget)` block

They are the summary in force and the turns that are left.  Both are functions of the stores, the
parameters and the answers of the model. -/

/-- The turns a call starts from. -/
def initialTurns (params : BuildPromptParams) (s : Stores) : List ChatHistoryEntry :=
  entriesAfter params.history ((s.summaryOf params.chatId).map (·.summarizedThroughMessageId))

/-- `foldCount` of a call in the stores `s`. -/
def initialFoldCount (params : BuildPromptParams) (s : Stores) : ℕ :=
  foldCount settings params (s.summaryOf params.chatId) (initialTurns params s)
    (s.lastCompletedAssistantMessage params.chatId)

/-- The world after the two queries of `buildPrompt`. -/
def afterQueries (params : BuildPromptParams) (w : World) : World :=
  (w.log (.FindSummary params.chatId) .Resolves).log
    (.FindLastCompletedAssistantMessage params.chatId) .Resolves

/-- How the summarization of a call ends, if there are turns to fold. -/
def summarization (params : BuildPromptParams) (w : World) : Outcome JsError ConversationSummary :=
  (summarize env settings params (w.stores.summaryOf params.chatId)
    ((initialTurns params w.stores).take (initialFoldCount settings params w.stores))
    (getContextBudget params.model.maxContext settings)
    (params.onSummarizing (afterQueries params w)).2).1

/-- The summary in force: the one the fold produced, otherwise the stored one. -/
def summaryInForce (params : BuildPromptParams) (w : World) : Option ConversationSummary :=
  if 0 < initialFoldCount settings params w.stores then
    match summarization env settings params w with
    | .Returned summary => some summary
    | _ => w.stores.summaryOf params.chatId
  else w.stores.summaryOf params.chatId

variable {env settings}

/-- A fold is empty, or ends where a turn ends. -/
theorem foldCount_spec (settings : ContextSettings) (params : BuildPromptParams)
    (existing : Option ConversationSummary) (turns : List ChatHistoryEntry)
    (lastAssistant : Option Message) :
    let count := foldCount settings params existing turns lastAssistant
    count ≤ turns.length ∧ (count = 0 ∨ isTurnBoundary turns count = true) := by
  unfold foldCount
  simp only
  split
  · exact selectTurnsToFold_spec _ _ _ _ _ _
  · exact ⟨Nat.zero_le _, .inl rfl⟩

/-- A fold that returns: it was not needed, or it succeeded, or it failed and changes nothing. -/
theorem foldOldTurns_returned {params : BuildPromptParams} {existing : Option ConversationSummary}
    {turns : List ChatHistoryEntry} {count : ℕ} {w w' : World}
    {r : Option ConversationSummary × List ChatHistoryEntry}
    (h : foldOldTurns env settings params existing turns count w = (.Returned r, w')) :
    let outcome := (summarize env settings params existing (turns.take count)
      (getContextBudget params.model.maxContext settings) (params.onSummarizing w).2).1
    count = 0 ∧ r = (existing, turns)
      ∨ 0 < count ∧ (∃ summary, outcome = .Returned summary ∧ r = (some summary, turns.drop count))
      ∨ 0 < count ∧ (∃ error, outcome = .Thrown error) ∧ r = (existing, turns) := by
  simp only [foldOldTurns] at h
  split at h
  · rename_i hcount
    right
    obtain ⟨_, w₁, honSummarizing, h⟩ := Eff.bind_eq_returned.mp h
    rw [show (params.onSummarizing w).2 = w₁ from congrArg Prod.snd honSummarizing]
    -- the `try` block by the outcome of `summarize`
    simp only [Eff.tryCatch] at h
    rcases hsum : summarize env settings params existing (turns.take count)
      (getContextBudget params.model.maxContext settings) w₁ with ⟨outcome, w₂⟩
    cases outcome with
    | Returned summary =>
        left
        refine ⟨hcount, summary, rfl, ?_⟩
        simp only [bind, Eff.bind, hsum] at h
        cases h
        rfl
    | Thrown error =>
        right
        refine ⟨hcount, ⟨error, rfl⟩, ?_⟩
        simp only [bind, Eff.bind, hsum, signalAborted] at h
        split at h
        · cases h
        · cases h
          rfl
    | Halted =>
        simp only [bind, Eff.bind, hsum] at h
        cases h
  · rename_i hcount
    left
    cases h
    exact ⟨by omega, rfl⟩

/-- The end of `buildPrompt`, from its two variables. -/
def assemblePrompt (settings : ContextSettings) (params : BuildPromptParams)
    (summary : Option ConversationSummary) (turns : List ChatHistoryEntry) : BuiltPrompt :=
  let turns := dropOldestTurns (summary.map (·.content)) turns params.content
    settings.charsPerToken (getContextBudget params.model.maxContext settings).trigger
  ⟨toPromptMessages (summary.map (·.content)) turns params.content, summary⟩

@[simp] lemma assemblePrompt_summary (settings : ContextSettings) (params : BuildPromptParams)
    (summary : Option ConversationSummary) (turns : List ChatHistoryEntry) :
    (assemblePrompt settings params summary turns).summary = summary := rfl

/-- A prompt that is returned is assembled from what the block returns. -/
lemma buildPrompt_assembled {params : BuildPromptParams} {w w' : World} {prompt : BuiltPrompt}
    (h : buildPrompt env settings params w = (.Returned prompt, w')) :
    ∃ r, foldOldTurns env settings params (w.stores.summaryOf params.chatId)
        (initialTurns params w.stores) (initialFoldCount settings params w.stores)
        (afterQueries params w) = (.Returned r, w')
      ∧ prompt = assemblePrompt settings params r.1 r.2 := by
  simp only [buildPrompt] at h
  obtain ⟨existing, w₁, hexisting, h⟩ := Eff.bind_eq_returned.mp h
  obtain ⟨rfl, rfl⟩ := query_eq_returned hexisting
  obtain ⟨lastAssistant, w₂, hlast, h⟩ := Eff.bind_eq_returned.mp h
  obtain ⟨rfl, rfl⟩ := query_eq_returned hlast
  obtain ⟨r, w₃, hfold, h⟩ := Eff.bind_eq_returned.mp h
  cases h
  exact ⟨r, hfold, rfl⟩

/-- **A prompt that is returned.**  It is built from the summary in force and from what
`dropOldestTurns` leaves of the turns after it. -/
theorem buildPrompt_returned {params : BuildPromptParams} {w w' : World} {prompt : BuiltPrompt}
    (h : buildPrompt env settings params w = (.Returned prompt, w')) :
    ∃ count ≤ (initialTurns params w.stores).length,
      (count = 0 ∨ isTurnBoundary (initialTurns params w.stores) count = true)
      ∧ prompt.summary = summaryInForce env settings params w
      ∧ prompt.messages = toPromptMessages (prompt.summary.map (·.content))
          (dropOldestTurns (prompt.summary.map (·.content))
            ((initialTurns params w.stores).drop count) params.content
            settings.charsPerToken (getContextBudget params.model.maxContext settings).trigger)
          params.content := by
  obtain ⟨r, hfold, rfl⟩ := buildPrompt_assembled h
  have hcases := foldOldTurns_returned hfold
  simp only [summaryInForce, summarization]
  rcases hcases with ⟨hcount, rfl⟩ | ⟨hcount, summary, hsum, rfl⟩ | ⟨hcount, ⟨error, hsum⟩, rfl⟩
  · exact ⟨0, Nat.zero_le _, .inl rfl, (if_neg (by omega)).symm, rfl⟩
  · obtain ⟨hle, hbound⟩ := foldCount_spec settings params (w.stores.summaryOf params.chatId)
      (initialTurns params w.stores) (w.stores.lastCompletedAssistantMessage params.chatId)
    refine ⟨_, hle, hbound, ?_, rfl⟩
    rw [if_pos hcount]
    simp only [hsum, assemblePrompt_summary]
  · refine ⟨0, Nat.zero_le _, .inl rfl, ?_, rfl⟩
    rw [if_pos hcount]
    simp only [hsum, assemblePrompt_summary]

/-- **The prompt fits exactly when the summary in force and the message fit without a single turn.**
Turns are never the reason for an overflow, however many there are and however long: those that do
not fit are dropped. -/
theorem buildPrompt_fits_iff (env : Env) (settings : ContextSettings) (params : BuildPromptParams)
    (w : World) (prompt : BuiltPrompt)
    (h : (buildPrompt env settings params w).1 = .Returned prompt) :
    estimateMessages prompt.messages settings.charsPerToken
        ≤ (getContextBudget params.model.maxContext settings).trigger
      ↔ estimatePromptTokens ((summaryInForce env settings params w).map (·.content)) []
          params.content settings.charsPerToken
        ≤ (getContextBudget params.model.maxContext settings).trigger := by
  obtain ⟨count, -, -, hsummary, hmessages⟩ :=
    buildPrompt_returned (Prod.ext h rfl : buildPrompt env settings params w = (.Returned prompt, _))
  rw [hmessages, estimateMessages_toPromptMessages, hsummary]
  exact_mod_cast estimate_dropOldestTurns_le_iff _ _ _ _
    ((getContextBudget params.model.maxContext settings).trigger : ℚ)

/-! ## A summary that is too long -/

/-- A chat whose notes were written for a larger model. -/
def longSummary : ConversationSummary := ⟨1, List.replicate 600 0x61, 7, 200⟩

/-- A new message for a model with a context of 512 tokens, whose trigger is 384. -/
def longMessage (length : ℕ) : BuildPromptParams where
  principal := .Anonymous 1
  chatId := 1
  model := ⟨1, "llama3.2:1b", 512, true⟩
  history := []
  content := List.replicate length 0x62
  onSummarizing := pure ()

/-- The chat with these notes. -/
def longSummaryWorld : World :=
  .start { Stores.empty .counting with summaries := [longSummary] }

/-- The messages of the prompt: the notes and the new message. -/
def longPrompt (length : ℕ) : BuiltPrompt where
  messages := toPromptMessages (some longSummary.content) [] (List.replicate length 0x62)
  summary := some longSummary

/-- Two turns after the notes, the first of them a long one. -/
def turnsSinceNotes : List ChatHistoryEntry :=
  [.User 6 (js "Hi"), .Assistant 7 (js "Hello") "llama3.2:1b",
    .User 8 (List.replicate 400 0x63), .Assistant 9 (List.replicate 300 0x64) "llama3.2:1b",
    .User 10 (js "Tea?"), .Assistant 11 (js "Yes") "llama3.2:1b"]

/-- What is sent of them with a message of thirty characters: the notes cover the turn before, and
the long turn is dropped. -/
def shortPrompt : BuiltPrompt where
  messages := toPromptMessages (some longSummary.content) (turnsSinceNotes.drop 4)
    (List.replicate 30 0x62)
  summary := some longSummary

/-- A message of thirty characters next to the same notes fits, because a turn can be dropped. -/
theorem buildPrompt_fits_iff_short :
    estimateMessages shortPrompt.messages 3 ≤ 384
      ↔ estimatePromptTokens (some longSummary.content) [] (List.replicate 30 0x62) 3 ≤ 384 :=
  have hsummary : (summaryInForce .reliable .defaults
      { longMessage 30 with history := turnsSinceNotes } longSummaryWorld).map (·.content)
        = some longSummary.content := by decide +kernel
  have htrigger : (getContextBudget 512 .defaults).trigger = 384 := by decide +kernel
  htrigger ▸ hsummary ▸ buildPrompt_fits_iff .reliable .defaults
    { longMessage 30 with history := turnsSinceNotes } longSummaryWorld shortPrompt
    (by decide +kernel)

/-- **The prompt can overflow.**  A message that `assertContentFits` accepts and notes of 600
characters: nothing is left to drop, and the prompt exceeds the trigger of 384 tokens and the
context of 512. -/
theorem buildPrompt_overflows :
    (assertContentFits .defaults (longMessage 1100).model (longMessage 1100).content
        longSummaryWorld).1 = .Returned ()
      ∧ (buildPrompt .reliable .defaults (longMessage 1100) longSummaryWorld).1
        = .Returned (longPrompt 1100)
      ∧ ¬ estimateMessages (longPrompt 1100).messages ContextSettings.defaults.charsPerToken
        ≤ (getContextBudget (longMessage 1100).model.maxContext .defaults).trigger
      ∧ estimateMessages (longPrompt 1100).messages 3 = 588 := by
  decide +kernel

end RagStack
