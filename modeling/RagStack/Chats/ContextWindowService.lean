import RagStack.Chats.HistoryService
import RagStack.Chats.ContextWindowHelpers

/-!
# `context-window.service.ts`

`buildPrompt` decides whether the history still fits the model, folds old turns into the stored
summary when it does not, and drops what cannot be folded.  The `if (overBudget)` block of the
source is `foldOldTurns`: it returns the summary in force and the turns left after it, which are the
two variables the block assigns.

A fold is a sequence of requests to the model.  The turns to be folded are cut into chunks, each
request carries the notes so far and one chunk, and its answer, cleaned, is the notes for the next
one.  Only when the last answer is in is anything stored, with the id of the last entry as the
anchor.  So a failure at any chunk loses the answers before it and leaves the row as it was; it is
logged, and the prompt is built from the old summary and all the turns.  This is why the dropping of
turns comes last and is not part of the block.

The decision to fold looks at two sizes, the estimate of the prompt and what the model reported for
the last turn together with the new message, and takes the greater one.
-/

namespace RagStack

structure BuiltPrompt where
  messages : List OllamaHistoryMessage
  summary : Option ConversationSummary
  deriving Repr, DecidableEq

/-- The parameters of `buildPrompt`, without the signal (which is part of the script). -/
structure BuildPromptParams where
  principal : RequestPrincipal
  chatId : Uuid
  model : Model
  history : List ChatHistoryEntry
  content : JsString
  onSummarizing : Handler Unit

/-- The error of a summarization that produced nothing. -/
def emptySummaryError : JsError := .Other "The model returned an empty summary."

section Service

variable (env : Env) (settings : ContextSettings)

def assertContentFits (model : Model) (content : JsString) : Handler Unit :=
  if estimateMessageTokens content settings.charsPerToken
      > (getContextBudget model.maxContext settings).trigger then
    Eff.throw (.Http 413 "The message is too long for this model's context.")
  else pure ()

def complete (model : String) (messages : List OllamaHistoryMessage)
    (contextTokens maxTokens : ℕ) : Handler OllamaCompletion :=
  await env (.OllamaComplete model messages contextTokens maxTokens) fun w =>
    (.Returned (env.completion w.tick), w)

/-- The loop of `summarize` over the remaining chunks: the text so far and its size. -/
def foldChunks (params : BuildPromptParams) (budget : ContextBudget) :
    List (List ChatHistoryEntry) → Option JsString → ℤ → Handler (Option JsString × ℤ)
  | [], content, tokenCount => pure (content, tokenCount)
  | chunk :: chunks, content, _ => do
      let result ← complete env params.model.name
        (buildSummaryRequest content chunk (budget.chunkTokens * settings.charsPerToken))
        params.model.maxContext budget.summaryMaxTokens
      recordUsage env params.principal params.chatId params.model.id .Summary
        result.promptTokens result.completionTokens
      let text := result.content.trim
      if isDegenerateSummary text then Eff.throw emptySummaryError
      else
        foldChunks params budget chunks (some text)
          (result.completionTokens.getD (estimateMessageTokens text settings.charsPerToken))

def summarize (params : BuildPromptParams) (previous : Option ConversationSummary)
    (folded : List ChatHistoryEntry) (budget : ContextBudget) : Handler ConversationSummary := do
  let (content, tokenCount) ← foldChunks env settings params budget
    (chunkEntries folded budget.chunkTokens settings.charsPerToken)
    (previous.map (·.content)) ((previous.map (·.tokenCount)).getD 0)
  match content, folded.getLast? with
  | some content, some lastFolded =>
      upsertSummary env
        { chatId := params.chatId, content, summarizedThroughMessageId := lastFolded.id,
          tokenCount }
  | _, _ => Eff.throw emptySummaryError

/-- `overBudget`: the prompt with all `turns`, or the size Ollama reported last, exceeds the
trigger. -/
def overBudget (params : BuildPromptParams) (existing : Option ConversationSummary)
    (turns : List ChatHistoryEntry) (lastAssistant : Option Message) : Bool :=
  needsSummarization
    (estimatePromptTokens (existing.map (·.content)) turns params.content settings.charsPerToken)
    (reportedTotal (lastAssistant.bind (·.promptTokens)) (lastAssistant.bind (·.completionTokens)))
    (estimateMessageTokens params.content settings.charsPerToken)
    (getContextBudget params.model.maxContext settings).trigger

/-- `foldCount`: how many turns the block would fold, `0` for none. -/
def foldCount (params : BuildPromptParams) (existing : Option ConversationSummary)
    (turns : List ChatHistoryEntry) (lastAssistant : Option Message) : ℕ :=
  let budget := getContextBudget params.model.maxContext settings
  if overBudget settings params existing turns lastAssistant then
    selectTurnsToFold turns params.content settings.keepRecentMessages budget.target
      budget.summaryMaxTokens settings.charsPerToken
  else 0

/-- The `if (overBudget)` block: the summary in force and the remaining turns.  An exception of the
fold is caught here, and both variables keep the values they had. -/
def foldOldTurns (params : BuildPromptParams) (existing : Option ConversationSummary)
    (turns : List ChatHistoryEntry) (count : ℕ) :
    Handler (Option ConversationSummary × List ChatHistoryEntry) :=
  if 0 < count then do
    params.onSummarizing
    Eff.tryCatch
      (do
        let summary ← summarize env settings params existing (turns.take count)
          (getContextBudget params.model.maxContext settings)
        pure (some summary, turns.drop count))
      fun error => do
        if ← signalAborted env then Eff.throw error
        else pure (existing, turns)
  else pure (existing, turns)

def buildPrompt (params : BuildPromptParams) : Handler BuiltPrompt := do
  let existing ← findByChatId env params.chatId
  let lastAssistant ← findLastCompletedAssistantMessage env params.chatId
  let turns := entriesAfter params.history (existing.map (·.summarizedThroughMessageId))
  let (summary, turns) ← foldOldTurns env settings params existing turns
    (foldCount settings params existing turns lastAssistant)
  let turns := dropOldestTurns (summary.map (·.content)) turns params.content
    settings.charsPerToken (getContextBudget params.model.maxContext settings).trigger
  pure ⟨toPromptMessages (summary.map (·.content)) turns params.content, summary⟩

end Service

end RagStack
