import RagStack.Chats.StreamController
import RagStack.Core.Except

/-!
# What a handler throws

`endGeneration` takes an empty error code for none and marks the reply CANCELLED. The errors of the
program have codes, so an empty code is one that a collaborator rejected with: if none does, no
handler of a generation throws an error without a code.

The lemmas go through the handlers in the order in which they call each other and use nothing but
the rules for exceptions.  Each error that a handler raises by itself is checked where it is raised,
and everything that comes from a collaborator comes from the script, about which the one assumption
is made.  What is caught inside a handler does not have to be looked at, since it never gets out.

It is needed in one place, to compare the status of a row with the event that the client was told.
For a reply that has failed, the event names the code, and the row must not be the one of a reply
that was cancelled.
-/

namespace RagStack

/-- The code that `getPublicStreamError` reports is not empty. -/
def CodeNonempty (error : JsError) : Prop := (getPublicStreamError error).code ≠ ""

lemma codeNonempty_http (status : ℕ) (message : String) : CodeNonempty (.Http status message) := by
  unfold CodeNonempty getPublicStreamError
  simp only
  split_ifs <;> simp

lemma codeNonempty_other (message : String) : CodeNonempty (.Other message) := by
  simp [CodeNonempty, getPublicStreamError]

lemma codeNonempty_coded {code : String} (h : code ≠ "") (message : Option String) :
    CodeNonempty (.Coded code message) := h

lemma codeNonempty_toHistoryEntries {messages : List Message} {e : JsError}
    (h : toHistoryEntries messages = .error e) : CodeNonempty e := by
  obtain ⟨message, -, hentry⟩ := mem_of_mapM_eq_error h
  simp only [toHistoryEntry] at hentry
  split at hentry
  · cases hentry
  · cases hentry
    exact codeNonempty_other _
  · split at hentry
    · cases hentry
      exact codeNonempty_other _
    · cases hentry

section Handlers

variable {env : Env} {config : StreamConfig} (hcodes : env.CodesNonempty)
include hcodes

lemma codeNonempty_rejection (t : ℕ) : CodeNonempty (env.rejection t) := by
  cases h : env.rejection t with
  | Http status message => exact codeNonempty_http status message
  | Coded code message =>
      refine codeNonempty_coded ?_ message
      rintro rfl
      exact hcodes t message h
  | Other message => exact codeNonempty_other message

lemma throws_query_coded {α : Type} (c : Call) (read : Stores → α) :
    Eff.ThrowsOnly CodeNonempty (query env c read) :=
  throws_query (codeNonempty_rejection hcodes)

lemma throws_await_coded {α : Type} (c : Call) {effect : Handler α}
    (h : Eff.ThrowsOnly CodeNonempty effect) : Eff.ThrowsOnly CodeNonempty (await env c effect) :=
  throws_await (codeNonempty_rejection hcodes) h

lemma throws_loadFromDatabase (chatId : Uuid) :
    Eff.ThrowsOnly CodeNonempty (loadFromDatabase env chatId) := by
  refine .bind (throws_query_coded hcodes _ _) fun messages => ?_
  split
  · exact .pure _
  · rename_i e he
    exact .throw (codeNonempty_toHistoryEntries he)

omit hcodes in
lemma throws_writeCache (chatId : Uuid) (history : List ChatHistoryEntry) :
    Eff.ThrowsOnly CodeNonempty (writeCache env chatId history) := .tryCatch fun _ => .pure ()

lemma throws_getHistory (chatId : Uuid) :
    Eff.ThrowsOnly CodeNonempty (getHistory env chatId) := by
  refine .bind (.tryCatch fun _ => .pure none) fun cached => ?_
  split
  · exact .pure _
  · exact .bind (throws_loadFromDatabase hcodes chatId) fun history =>
      .bind (throws_writeCache chatId history) fun _ => .pure history

lemma throws_append (chatId : Uuid) (entry : ChatHistoryEntry) :
    Eff.ThrowsOnly CodeNonempty (append env chatId entry) := by
  refine .bind (.tryCatch fun _ => .pure none) fun lock => ?_
  split
  · exact .pure _
  · exact .andFinally
      (.bind (throws_getHistory hcodes chatId) fun _ => throws_writeCache chatId _)
      (.tryCatch fun _ => .pure ())

lemma throws_refresh (chatId : Uuid) : Eff.ThrowsOnly CodeNonempty (refresh env chatId) :=
  .bind (throws_loadFromDatabase hcodes chatId) fun _ => throws_writeCache chatId _

lemma throws_recordUsage (principal : RequestPrincipal) (chatId modelId : Uuid) (kind : UsageKind)
    (inputTokens outputTokens : Option ℤ) :
    Eff.ThrowsOnly CodeNonempty
      (recordUsage env principal chatId modelId kind inputTokens outputTokens) :=
  throws_await_coded hcodes _ (.tryCatch fun _ => .pure ())

lemma throws_foldChunks (settings : ContextSettings) (params : BuildPromptParams)
    (budget : ContextBudget) (chunks : List (List ChatHistoryEntry)) (content : Option JsString)
    (tokenCount : ℤ) :
    Eff.ThrowsOnly CodeNonempty
      (foldChunks env settings params budget chunks content tokenCount) := by
  induction chunks generalizing content tokenCount with
  | nil => exact .pure _
  | cons chunk chunks ih =>
      refine .bind (throws_await_coded hcodes _ (by rintro w e ⟨⟩)) fun result =>
        .bind (throws_recordUsage hcodes _ _ _ _ _ _) fun _ => ?_
      show Eff.ThrowsOnly _ (if isDegenerateSummary result.content.trim then
        Eff.throw emptySummaryError
        else foldChunks env settings params budget chunks (some result.content.trim) _)
      split
      · exact .throw (codeNonempty_other _)
      · exact ih _ _

lemma throws_summarize (settings : ContextSettings) (params : BuildPromptParams)
    (previous : Option ConversationSummary) (folded : List ChatHistoryEntry)
    (budget : ContextBudget) :
    Eff.ThrowsOnly CodeNonempty (summarize env settings params previous folded budget) := by
  refine .bind (throws_foldChunks hcodes _ _ _ _ _ _) ?_
  rintro ⟨content, tokenCount⟩
  cases content with
  | none => exact .throw (codeNonempty_other _)
  | some content =>
      cases folded.getLast? with
      | none => exact .throw (codeNonempty_other _)
      | some lastFolded =>
          refine throws_transact (codeNonempty_rejection hcodes) ?_
          rintro t s e ⟨⟩

lemma throws_buildPrompt (settings : ContextSettings) (params : BuildPromptParams)
    (h : Eff.ThrowsOnly CodeNonempty params.onSummarizing) :
    Eff.ThrowsOnly CodeNonempty (buildPrompt env settings params) := by
  refine .bind (throws_query_coded hcodes _ _) fun existing =>
    .bind (throws_query_coded hcodes _ _) fun lastAssistant => .bind ?_ fun _ => .pure _
  simp only [foldOldTurns]
  split
  · refine .bind h fun _ => ?_
    -- the handler throws what the summarization threw
    intro w
    refine Eff.wp_tryCatch (Eff.ThrowsOnly.bind (throws_summarize hcodes _ _ _ _ _)
      (fun _ => .pure _) w) (by simp) ?_ (by simp)
    intro e w' he
    refine Eff.wp_bind_of_eq rfl ?_
    split
    · rintro _ ⟨⟩
      exact he e rfl
    · rintro _ ⟨⟩
  · exact .pure _

lemma throws_receiveChunk (assistantMessageId : Uuid) (chunk : OllamaChatChunk) :
    Eff.ThrowsOnly CodeNonempty (receiveChunk env config assistantMessageId chunk) := by
  have hdone : Eff.ThrowsOnly CodeNonempty (if chunk.done = true then
      assign fun l => { l with finalChunk := some chunk } else pure ()) := by
    split
    · exact .modify _
    · exact .pure _
  unfold receiveChunk
  simp only
  split
  · refine .bind (by rintro w e ⟨⟩) fun before => ?_
    split
    · exact .bind (.throw (codeNonempty_http _ _)) fun _ => .bind (.modify _) fun _ =>
        .bind (throws_query_coded hcodes _ _) fun _ => hdone
    · exact .bind (.modify _) fun _ => .bind (throws_query_coded hcodes _ _) fun _ => hdone
  · exact hdone

lemma throws_receiveReply (assistantMessageId : Uuid) (model : Model)
    (messages : List OllamaHistoryMessage) :
    Eff.ThrowsOnly CodeNonempty (receiveReply env config assistantMessageId model messages) := by
  refine .bind (throws_await_coded hcodes _ (by rintro w e ⟨⟩)) fun t =>
    .bind (.forEach (throws_receiveChunk hcodes _) _) fun _ => ?_
  intro w
  simp only [streamEnd, Eff.wp]
  split
  · simp
  · rintro _ ⟨⟩
    exact codeNonempty_rejection hcodes t
  · simp

lemma throws_finishGeneration (params : StreamChatParams) (model : Model)
    (assistantMessageId : Uuid) (summary : Option ConversationSummary)
    (finalChunk : OllamaChatChunk) :
    Eff.ThrowsOnly CodeNonempty
      (finishGeneration env params model assistantMessageId summary finalChunk) := by
  refine .bind (by rintro w e ⟨⟩) fun before => .bind ?_ fun completed => ?_
  · refine throws_transact (codeNonempty_rejection hcodes) ?_
    intro t s e he
    unfold Stores.completeGeneration at he
    simp only at he
    split at he
    · cases he
    · cases he
      exact codeNonempty_coded (by decide) _
  · exact .bind (throws_recordUsage hcodes _ _ _ _ _ _) fun _ =>
      .bind (throws_await_coded hcodes _ (throws_refresh hcodes _)) fun _ =>
        .bind (throws_query_coded hcodes _ _) fun _ => throws_query_coded hcodes _ _

/-- **The exceptions of the `try` block** have a code. -/
lemma throws_generate (params : StreamChatParams) (model : Model) :
    Eff.ThrowsOnly CodeNonempty (generate env config params model) := by
  refine .bind (throws_await_coded hcodes _ (throws_getHistory hcodes _)) fun history =>
    .bind (.modify _) fun _ => .bind ?_ fun messages => .bind (.modify _) fun _ =>
    .bind (throws_await_coded hcodes _ (throws_append hcodes _ _)) fun _ =>
    .bind (throws_query_coded hcodes _ _) fun _ =>
    .bind (throws_await_coded hcodes _ (throws_buildPrompt hcodes _ _
      (throws_query_coded hcodes _ _))) fun prompt =>
    .bind (throws_receiveReply hcodes _ _ _) fun _ => .bind (by rintro w e ⟨⟩) fun l => ?_
  · refine throws_transact (codeNonempty_rejection hcodes) ?_
    intro t s e he
    simp only [Stores.beginGeneration] at he
    split at he
    · cases he
    · cases he
      exact codeNonempty_coded (by decide) _
  · split
    · exact .throw (codeNonempty_other _)
    · exact throws_finishGeneration hcodes _ _ _ _ _

end Handlers

end RagStack
