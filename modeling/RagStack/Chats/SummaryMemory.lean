import RagStack.Chats.FedEntries
import RagStack.Chats.PromptFits

/-!
# What the stored summary remembers

A conversation summary is text; which part of the conversation went into it can only be read off the
requests the summarizer answered.  `summarizerCalls` lists them from the trace, and a list of
`FoldStep`s says how some of them hang together: the request of each feeds the next entries of the
history to the model, together with the answer before it.  What it means that entries are fed is
said in `FedEntries`, without the functions that build the request.

Between a summary and the history stand four mechanisms, and a mistake in any of them would lose or
repeat a part of the conversation: finding the entries after the anchor, choosing how many of them
to fold, cutting these into chunks, and storing the result with a new anchor.  The specifications of
the first three are lists that concatenate to the right list.  The fourth is the one write at the
end of a fold, so that a fold which is not finished has changed nothing.

A run is any number of calls with other models, other messages and a longer history each time.  Its
invariant is that the stored row, if there is one, is remembered: its anchor is an entry of the
history, and a linked list of answered requests leads to its text.  The list is a part of the trace,
so it is still there after every later call, whether that call folds or fails.

* `foldChunks_spec`, `summarize_spec` — one fold: its requests are linked, its chunks are the folded
  entries, and the row is only written at the end.
* `ContextRun` — calls of `buildPrompt` on one chat whose history grows at its end in between.
* `inv_step`, `inv_run` — by induction over the run, the stored text was produced from the history
  up to the anchor, each entry once and in order.
* `summary_covers_history` — the same for every run, with what each single call can do.
-/

namespace RagStack

/-! ## The requests of a trace

A step is linked to the one before by the text that was answered there.  The number of characters
shown of an entry belongs to the model that was asked, since models differ in what a chunk may hold.
-/

/-- A request to the summarizer, with the context of the model it went to, and the text that was
answered. -/
structure SummarizerCall where
  contextTokens : ℕ
  messages : List OllamaHistoryMessage
  answer : JsString

/-- The request of an entry, if it is one that was answered; `t` is the number of the call. -/
def TraceEntry.answeredRequest (env : Env) (entry : TraceEntry) (t : ℕ) : List SummarizerCall :=
  match entry.call with
  | .OllamaComplete _ messages contextTokens _ =>
      if entry.verdict = .Resolves then
        [⟨contextTokens, messages, (env.completion t).content.trim⟩]
      else []
  | _ => []

/-- The answered requests of a trace, in the order they were made. -/
def summarizerCalls (env : Env) : List TraceEntry → List SummarizerCall
  | [] => []
  | entry :: earlier =>
      summarizerCalls env earlier ++ entry.answeredRequest env (earlier.length + 1)

/-- One request of a fold: the entries it was about, and the request with its answer. -/
structure FoldStep where
  entries : List ChatHistoryEntry
  call : SummarizerCall

namespace FoldStep

/-- The text after some steps from `previous`. -/
def lastAnswer (previous : Option JsString) (steps : List FoldStep) : Option JsString :=
  steps.foldl (fun _ step => some step.call.answer) previous

/-- **The steps hang together** from `previous`: the request of each feeds its entries to the model,
every one with its speaker and as much of its content as fills a chunk of this model, together with
the answer before it. -/
def Linked (settings : ContextSettings) (previous : Option JsString) : List FoldStep → Prop
  | [] => True
  | step :: steps =>
      notesFrame.Feeds (entryLimit settings step.call.contextTokens) previous step.entries
          step.call.messages
        ∧ Linked settings (some step.call.answer) steps

/-- The entries some steps were about. -/
def fed (steps : List FoldStep) : List ChatHistoryEntry := (steps.map entries).flatten

lemma linked_append {settings : ContextSettings} {previous : Option JsString}
    {steps more : List FoldStep} :
    Linked settings previous (steps ++ more)
      ↔ Linked settings previous steps ∧ Linked settings (lastAnswer previous steps) more := by
  induction steps generalizing previous with
  | nil => simp [Linked, lastAnswer]
  | cons step steps ih =>
      rw [List.cons_append, Linked, ih, Linked, and_assoc]
      rfl

lemma lastAnswer_append (previous : Option JsString) (steps more : List FoldStep) :
    lastAnswer previous (steps ++ more) = lastAnswer (lastAnswer previous steps) more :=
  List.foldl_append

lemma fed_append (steps more : List FoldStep) : fed (steps ++ more) = fed steps ++ fed more := by
  simp [fed]

end FoldStep

/-! ## Calls that leave the summaries alone -/

/-- The summaries are as before, and no summarizer request was answered. -/
def Quiet (env : Env) (w w' : World) : Prop :=
  w'.stores.summaries = w.stores.summaries
    ∧ summarizerCalls env w'.trace = summarizerCalls env w.trace

/-- The summaries are as before; requests may have been answered. -/
def SummariesKept (env : Env) (w w' : World) : Prop :=
  w'.stores.summaries = w.stores.summaries
    ∧ summarizerCalls env w.trace <+: summarizerCalls env w'.trace

instance (env : Env) : IsPreorder World (Quiet env) where
  refl _ := ⟨rfl, rfl⟩
  trans _ _ _ h h' := ⟨h'.1.trans h.1, h'.2.trans h.2⟩

instance (env : Env) : IsPreorder World (SummariesKept env) where
  refl _ := ⟨rfl, List.prefix_rfl⟩
  trans _ _ _ h h' := ⟨h'.1.trans h.1, h.2.trans h'.2⟩

lemma Quiet.summariesKept {env : Env} {w w' : World} (h : Quiet env w w') :
    SummariesKept env w w' :=
  ⟨h.1, h.2 ▸ List.prefix_rfl⟩

lemma SummariesKept.summaryOf {env : Env} {w w' : World} (h : SummariesKept env w w')
    (chatId : Uuid) : w'.stores.summaryOf chatId = w.stores.summaryOf chatId := by
  simp only [Stores.summaryOf]
  rw [h.1]

/-- The call is not a request to the summarizer. -/
def Call.isSummarizerCall : Call → Bool
  | .OllamaComplete .. => true
  | _ => false

lemma quiet_log (env : Env) {c : Call} (hc : c.isSummarizerCall = false) (w : World) (v : Verdict) :
    Quiet env w (w.log c v) := by
  have hnone : TraceEntry.answeredRequest env ⟨c, v, w.stores, w.locals⟩ (w.trace.length + 1) = [] := by
    cases c <;> simp [TraceEntry.answeredRequest, Call.isSummarizerCall] at hc ⊢
  refine ⟨rfl, ?_⟩
  rw [World.trace_log, summarizerCalls, hnone, List.append_nil]

lemma summariesKept_log (env : Env) (c : Call) (w : World) (v : Verdict) :
    SummariesKept env w (w.log c v) :=
  ⟨rfl, List.prefix_append _ _⟩

variable {env : Env} {settings : ContextSettings}

lemma recordUsage_quiet (principal : RequestPrincipal) (chatId modelId : Uuid) (kind : UsageKind)
    (inputTokens outputTokens : Option ℤ) :
    Eff.Keeps (Quiet env)
      (recordUsage env principal chatId modelId kind inputTokens outputTokens) := by
  refine keeps_await (quiet_log env rfl) (Eff.Keeps.tryCatch ?_ fun _ => .pure ())
  refine keeps_transact (quiet_log env rfl) ?_
  rintro w v t a s h
  cases h
  exact quiet_log env rfl w v

/-- `usage.record` returns, as the `t`-th call. -/
def Env.recordReturns (env : Env) (t : ℕ) : Bool :=
  env.verdict t (.Service .RecordUsage) = .Resolves
    && env.verdict (t + 1) .CreateUsageLog ≠ .Hangs

/-- `usage.record` throws, as the `t`-th call. -/
def Env.recordFails (env : Env) (t : ℕ) : Bool :=
  match env.verdict t (.Service .RecordUsage) with
  | .Rejects => true
  | .RejectsLate => env.verdict (t + 1) .CreateUsageLog ≠ .Hangs
  | _ => false

/-- The write of `usage.record` returns unless it hangs: what it throws is caught. -/
lemma createUsageLog_settles (principal : RequestPrincipal) (chatId modelId : Uuid)
    (kind : UsageKind) (inputTokens outputTokens : Option ℤ) (w : World) :
    Eff.wp (Eff.tryCatch (transact env .CreateUsageLog fun _ s =>
        s.createUsageLog principal chatId modelId kind inputTokens outputTokens) fun _ => pure ())
      (fun o w' => o = (if env.verdict w.tick .CreateUsageLog = .Hangs then .Halted
          else .Returned ())
        ∧ w'.tick = w.tick + 1) w := by
  simp only [Eff.wp, Eff.tryCatch, transact, await]
  cases hv : env.verdict w.tick .CreateUsageLog <;>
    simp [Stores.createUsageLog, pure, Eff.pure, World.tick]

/-- How `usage.record` ends is up to the script. -/
lemma recordUsage_settles (principal : RequestPrincipal) (chatId modelId : Uuid)
    (kind : UsageKind) (inputTokens outputTokens : Option ℤ) (w : World) :
    Eff.wp (recordUsage env principal chatId modelId kind inputTokens outputTokens)
      (fun o w' => match o with
        | .Returned _ => env.recordReturns w.tick = true ∧ env.recordFails w.tick = false
            ∧ w'.tick = w.tick + 2
        | .Thrown _ => env.recordReturns w.tick = false ∧ env.recordFails w.tick = true
        | .Halted => env.recordReturns w.tick = false ∧ env.recordFails w.tick = false) w := by
  have hlogged : ∀ v, (w.log (.Service .RecordUsage) v).tick = w.tick + 1 := fun _ => rfl
  simp only [Env.recordReturns, Env.recordFails]
  refine wp_await ?_ ?_ ?_ ?_
  · intro hv
    refine Eff.wp_mono (createUsageLog_settles _ _ _ _ _ _ _) ?_
    rintro o w' ⟨rfl, htick⟩
    rw [hlogged] at htick ⊢
    by_cases hhangs : env.verdict (w.tick + 1) .CreateUsageLog = .Hangs <;>
      simp [hv, hhangs, htick]
  · exact fun hv => by simp [hv]
  · intro hv
    refine Eff.wp_mono (createUsageLog_settles _ _ _ _ _ _ _) ?_
    rintro o w' ⟨rfl, -⟩
    rw [hlogged]
    by_cases hhangs : env.verdict (w.tick + 1) .CreateUsageLog = .Hangs <;> simp [hv, hhangs]
  · exact fun hv => by simp [hv]

/-- A request that is answered is added to the list. -/
lemma complete_spec (model : String) (messages : List OllamaHistoryMessage)
    (contextTokens maxTokens : ℕ) (w : World) :
    Eff.wp (complete env model messages contextTokens maxTokens)
      (fun o w' => SummariesKept env w w' ∧ ∀ r, o = .Returned r →
        summarizerCalls env w'.trace
          = summarizerCalls env w.trace ++ [⟨contextTokens, messages, r.content.trim⟩]) w := by
  refine wp_await ?_ ?_ ?_ ?_
  · intro _
    refine ⟨summariesKept_log env _ w _, ?_⟩
    rintro r hr
    cases hr
    rfl
  · exact fun _ => ⟨summariesKept_log env _ w _, by simp⟩
  · intro _
    exact ⟨summariesKept_log env _ w _, by simp⟩
  · exact fun _ => ⟨summariesKept_log env _ w _, by simp⟩

/-! ## One fold

The loop over the chunks carries the steps so far.  It can be left at any chunk, and what is then
known is only that the summaries are as before. -/

/-- **The loop of `summarize`.**  When it ends, its chunks are the steps and its requests their
calls, which are linked if the chunks were cut for the model that was asked; whatever happens, the
summaries are untouched. -/
lemma foldChunks_spec (params : BuildPromptParams) (budget : ContextBudget)
    (chunks : List (List ChatHistoryEntry)) (content : Option JsString) (tokenCount : ℤ)
    (w : World) :
    Eff.wp (foldChunks env settings params budget chunks content tokenCount)
      (fun o w' => SummariesKept env w w' ∧ ∀ r, o = .Returned r →
        ∃ steps : List FoldStep, steps.map FoldStep.entries = chunks
          ∧ r.1 = FoldStep.lastAnswer content steps
          ∧ summarizerCalls env w'.trace
            = summarizerCalls env w.trace ++ steps.map FoldStep.call
          ∧ (budget = getContextBudget params.model.maxContext settings →
              FoldStep.Linked settings content steps)) w := by
  induction chunks generalizing content tokenCount w with
  | nil =>
      refine ⟨Std.Refl.refl w, ?_⟩
      rintro r hr
      cases hr
      exact ⟨[], rfl, rfl, (List.append_nil _).symm, fun _ => trivial⟩
  | cons chunk chunks ih =>
      refine Eff.wp_seq (complete_spec _ _ _ _ w) ?_ (fun e w' h => ⟨h.1, by simp⟩)
        (fun w' h => ⟨h.1, by simp⟩)
      rintro result w₁ ⟨hkept, hcalls⟩
      refine Eff.wp_seq (recordUsage_quiet _ _ _ _ _ _).wp ?_
        (fun e w' h => ⟨IsTrans.trans _ _ _ hkept h.summariesKept, by simp⟩)
        (fun w' h => ⟨IsTrans.trans _ _ _ hkept h.summariesKept, by simp⟩)
      rintro _ w₂ hquiet
      have hkept₂ : SummariesKept env w w₂ := IsTrans.trans _ _ _ hkept hquiet.summariesKept
      show Eff.wp (if isDegenerateSummary result.content.trim then Eff.throw emptySummaryError
        else foldChunks env settings params budget chunks (some result.content.trim) _) _ w₂
      split
      · exact ⟨hkept₂, by rintro r ⟨⟩⟩
      · refine Eff.wp_mono (ih (some result.content.trim) _ w₂) ?_
        rintro o w' ⟨hrest, hreturned⟩
        refine ⟨IsTrans.trans _ _ _ hkept₂ hrest, ?_⟩
        intro r hr
        obtain ⟨steps, hentries, hlast, hrequests, hlinked⟩ := hreturned r hr
        refine ⟨⟨chunk, params.model.maxContext,
          buildSummaryRequest content chunk (budget.chunkTokens * settings.charsPerToken),
          result.content.trim⟩ :: steps, by rw [List.map_cons, hentries], hlast, ?_, ?_⟩
        · rw [hrequests, hquiet.2, hcalls result rfl, List.append_assoc]
          rfl
        · rintro rfl
          exact ⟨buildSummaryRequest_feeds (entryLimit_nonneg settings _) content chunk, hlinked rfl⟩

/-- What a fold that finished has done: its requests are linked, they were about exactly the
`folded` entries, and the stored row is the last answer with the last of them as its anchor. -/
structure FoldFinished (env : Env) (settings : ContextSettings) (chatId : Uuid)
    (previous : Option ConversationSummary)
    (folded : List ChatHistoryEntry) (w w' : World) : Prop where
  exists_steps : ∃ (steps : List FoldStep) (summary : ConversationSummary)
    (lastFolded : ChatHistoryEntry),
    FoldStep.fed steps = folded
      ∧ folded.getLast? = some lastFolded
      ∧ summary.summarizedThroughMessageId = lastFolded.id
      ∧ some summary.content = FoldStep.lastAnswer (previous.map (·.content)) steps
      ∧ FoldStep.Linked settings (previous.map (·.content)) steps
      ∧ summarizerCalls env w'.trace = summarizerCalls env w.trace ++ steps.map FoldStep.call
      ∧ w'.stores.summaryOf chatId = some summary

/-- A fold may start a quiet call later. -/
lemma FoldFinished.of_quiet {chatId : Uuid} {previous : Option ConversationSummary}
    {folded : List ChatHistoryEntry} {w w₁ w' : World} (hquiet : Quiet env w w₁)
    (h : FoldFinished env settings chatId previous folded w₁ w') :
    FoldFinished env settings chatId previous folded w w' := by
  obtain ⟨steps, summary, lastFolded, hfed, hlast, hanchor, htext, hlinked, hcalls, hstored⟩ := h
  exact ⟨steps, summary, lastFolded, hfed, hlast, hanchor, htext, hlinked, hquiet.2 ▸ hcalls,
    hstored⟩

lemma summaryOf_upsert (s : Stores) (summary : ConversationSummary) :
    Stores.summaryOf { s with
      summaries := s.summaries.filter (·.chatId ≠ summary.chatId) ++ [summary] } summary.chatId
      = some summary := by
  simp only [Stores.summaryOf]
  rw [List.find?_append, List.find?_eq_none.mpr]
  · simp
  · intro other hother
    simpa using (List.mem_filter.mp hother).2

/-- **`summarize`.**  The row changes only when the whole fold is done. -/
lemma summarize_spec (params : BuildPromptParams) (previous : Option ConversationSummary)
    (folded : List ChatHistoryEntry) (w : World) :
    Eff.wp (summarize env settings params previous folded
        (getContextBudget params.model.maxContext settings))
      (fun _ w' => SummariesKept env w w'
        ∨ FoldFinished env settings params.chatId previous folded w w') w := by
  refine Eff.wp_seq (foldChunks_spec _ _ _ _ _ w) ?_ (fun _ _ h => .inl h.1) (fun _ h => .inl h.1)
  rintro ⟨content, tokenCount⟩ w₁ ⟨hkept, hreturned⟩
  obtain ⟨steps, hentries, hlast, hrequests, hlinked⟩ := hreturned _ rfl
  have hfed : FoldStep.fed steps = folded := by
    rw [FoldStep.fed, hentries, chunkEntries_flatten]
  cases content with
  | none => exact .inl hkept
  | some content =>
      cases hfolded : folded.getLast? with
      | none => simp only; exact .inl hkept
      | some lastFolded =>
          have hdone : ∀ v s r, Stores.upsertSummary w₁.stores
              ⟨params.chatId, content, lastFolded.id, tokenCount⟩ = .ok (r, s) →
              FoldFinished env settings params.chatId previous folded w
                ((w₁.log (.UpsertSummary params.chatId) v).setStores s) := by
            rintro v s r h
            cases h
            refine ⟨steps, _, lastFolded, hfed, hfolded, rfl, hlast, hlinked rfl, ?_,
              summaryOf_upsert w₁.stores _⟩
            exact ((quiet_log env rfl w₁ v).2).trans hrequests
          have hkept₁ : ∀ v, SummariesKept env w (w₁.log (.UpsertSummary params.chatId) v) :=
            fun v => IsTrans.trans _ _ _ hkept (summariesKept_log env _ w₁ v)
          exact wp_transact (fun a s _ h => .inr (hdone _ s a h)) (fun _ v _ _ => .inl (hkept₁ v))
            (fun a s _ h => .inr (hdone _ s a h)) (fun _ => .inl (hkept₁ _))

/-! ## One call -/

/-- What the caller says for one call: the model may be another one each time. -/
structure PromptCall where
  principal : RequestPrincipal
  model : Model
  content : JsString

/-- The parameters `ChatStreamService` passes on. -/
def PromptCall.params (env : Env) (chatId : Uuid) (history : List ChatHistoryEntry)
    (call : PromptCall) : BuildPromptParams where
  principal := call.principal
  chatId := chatId
  model := call.model
  history := history
  content := call.content
  onSummarizing := emit env .ContextSummarizing

/-- What a call with `params` can do to the stored summary: nothing, or finish a fold of the first
turns after the anchor, up to where one of them ends. -/
def KeptOrFolded (env : Env) (settings : ContextSettings) (params : BuildPromptParams)
    (w w' : World) : Prop :=
  let existing := w.stores.summaryOf params.chatId
  let turns := entriesAfter params.history (existing.map (·.summarizedThroughMessageId))
  SummariesKept env w w'
    ∨ ∃ count ≤ turns.length, isTurnBoundary turns count = true
      ∧ FoldFinished env settings params.chatId existing (turns.take count) w w'

lemma Eff.Keeps.emit_quiet (event : ChatStreamEvent) : Eff.Keeps (Quiet env) (emit env event) :=
  keeps_query (quiet_log env rfl)

/-- The block folds before it returns, or leaves everything as it was. -/
lemma foldOldTurns_spec (chatId : Uuid) (history : List ChatHistoryEntry) (call : PromptCall)
    (existing : Option ConversationSummary) (turns : List ChatHistoryEntry) (count : ℕ)
    (w : World) :
    Eff.wp (foldOldTurns env settings (call.params env chatId history) existing turns count)
      (fun _ w' => SummariesKept env w w'
        ∨ 0 < count ∧ FoldFinished env settings chatId existing (turns.take count) w w') w := by
  simp only [foldOldTurns]
  split
  · rename_i hcount
    refine Eff.wp_seq (Eff.Keeps.emit_quiet .ContextSummarizing).wp ?_
      (fun _ _ h => .inl h.summariesKept) (fun _ h => .inl h.summariesKept)
    rintro _ w₁ hquiet
    -- a fold from `w₁` is a fold from `w`: the event in between is no request
    have hback : ∀ w', SummariesKept env w₁ w'
          ∨ FoldFinished env settings chatId existing (turns.take count) w₁ w' →
        SummariesKept env w w'
          ∨ 0 < count ∧ FoldFinished env settings chatId existing (turns.take count) w w' :=
      fun _ h => h.imp (IsTrans.trans _ _ _ hquiet.summariesKept) fun h => ⟨hcount, .of_quiet hquiet h⟩
    refine Eff.wp_tryCatch (P := fun _ w' => SummariesKept env w₁ w'
      ∨ FoldFinished env settings chatId existing (turns.take count) w₁ w') ?_
      (fun _ w' h => hback w' h) ?_ (fun w' h => hback w' h)
    · exact Eff.wp_seq (summarize_spec (call.params env chatId history) existing _ w₁)
        (fun _ _ h => h) (fun _ _ h => h) (fun _ h => h)
    · intro error w' h
      show Eff.wp (signalAborted env >>= fun aborted =>
        if aborted then Eff.throw error else pure (existing, turns)) _ w'
      refine Eff.wp_seq (P := fun _ w'' => w'' = w') rfl ?_ (fun _ _ h' => h' ▸ hback w' h)
        (fun _ h' => h' ▸ hback w' h)
      rintro aborted _ rfl
      split
      · exact hback _ h
      · exact hback _ h
  · exact .inl (Std.Refl.refl w)

/-- **One call of `buildPrompt`**, whatever its outcome. -/
theorem buildPrompt_keptOrFolded (chatId : Uuid) (history : List ChatHistoryEntry)
    (call : PromptCall) (w : World) :
    Eff.wp (buildPrompt env settings (call.params env chatId history))
      (fun _ w' => KeptOrFolded env settings (call.params env chatId history) w w') w := by
  simp only [buildPrompt]
  refine Eff.wp_seq (P := fun o w' => Quiet env w w' ∧ ∀ a, o = .Returned a →
    a = w.stores.summaryOf chatId) ?_ ?_ (fun _ _ h => .inl h.1.summariesKept)
    (fun _ h => .inl h.1.summariesKept)
  · refine wp_query ?_ (fun _ v _ _ => ⟨quiet_log env rfl w v, by rintro a ⟨⟩⟩)
      (fun _ => ⟨quiet_log env rfl w _, by rintro a ⟨⟩⟩)
    intro _
    refine ⟨quiet_log env rfl w _, ?_⟩
    rintro a ⟨⟩
    rfl
  rintro existing w₁ ⟨hquiet₁, hexisting⟩
  obtain rfl := hexisting existing rfl
  refine Eff.wp_seq (P := fun _ w' => Quiet env w w') ?_ ?_ (fun _ _ h => .inl h.summariesKept)
    (fun _ h => .inl h.summariesKept)
  · exact Eff.wp_mono (keeps_query (quiet_log env rfl)).wp
      fun _ _ h => IsTrans.trans _ _ _ hquiet₁ h
  rintro lastAssistant w₂ hquiet₂
  refine Eff.wp_seq (P := fun _ w' => KeptOrFolded env settings (call.params env chatId history) w w')
    (Eff.wp_mono (foldOldTurns_spec chatId history call _ _ _ w₂) ?_) (fun _ _ h => h)
    (fun _ _ h => h) (fun _ h => h)
  refine fun _ w' h => h.imp (IsTrans.trans _ _ _ hquiet₂.summariesKept) ?_
  rintro ⟨hcount, hfold⟩
  obtain ⟨hle, hbound⟩ := foldCount_spec settings (call.params env chatId history)
    (w.stores.summaryOf chatId) _ lastAssistant
  exact ⟨_, hle, hbound.resolve_left (Nat.ne_of_gt hcount), .of_quiet hquiet₂ hfold⟩

/-! ## Runs

The history grows between two calls in ways that do not matter here, as long as the summaries are
left alone. -/

/-- What can happen to a chat: its history grows at its end, with any change of the stores that
leaves the summaries alone, or a prompt is built. -/
inductive ContextStep where
  | Grow (entries : List ChatHistoryEntry) (change : Stores → Stores)
  | Build (call : PromptCall)

/-- A run: the world and the chat's history of completed turns. -/
structure ContextRun where
  world : World
  history : List ChatHistoryEntry

namespace ContextRun

def start (s : Stores) : ContextRun := ⟨.start s, []⟩

def step (env : Env) (settings : ContextSettings) (chatId : Uuid) (r : ContextRun) :
    ContextStep → ContextRun
  | .Grow entries change =>
      { world := r.world.setStores
          { change r.world.stores with summaries := r.world.stores.summaries }
        history := r.history ++ entries }
  | .Build call =>
      { r with world := (buildPrompt env settings (call.params env chatId r.history) r.world).2 }

def run (env : Env) (settings : ContextSettings) (chatId : Uuid) (r : ContextRun)
    (steps : List ContextStep) : ContextRun :=
  steps.foldl (step env settings chatId) r

lemma run_append (env : Env) (settings : ContextSettings) (chatId : Uuid) (r : ContextRun)
    (steps more : List ContextStep) :
    r.run env settings chatId (steps ++ more)
      = (r.run env settings chatId steps).run env settings chatId more :=
  List.foldl_append

def summary (chatId : Uuid) (r : ContextRun) : Option ConversationSummary :=
  r.world.stores.summaryOf chatId

/-- How many entries of the history the stored summary is about, counted by its anchor. -/
def covered (chatId : Uuid) (r : ContextRun) : ℕ :=
  r.history.length
    - (entriesAfter r.history ((r.summary chatId).map (·.summarizedThroughMessageId))).length

/-- **The stored text was produced from the history up to the anchor.**  The anchor is an entry of
the history, and among the requests answered so far there are linked ones, the last of which gave
the text, that were about exactly the entries through the anchor, each once and in order. -/
def Remembers (env : Env) (settings : ContextSettings) (r : ContextRun)
    (summary : ConversationSummary) : Prop :=
  ∃ (before : List ChatHistoryEntry) (anchor : ChatHistoryEntry) (rest : List ChatHistoryEntry)
    (steps : List FoldStep),
    r.history = before ++ anchor :: rest
      ∧ anchor.id = summary.summarizedThroughMessageId
      ∧ FoldStep.fed steps = before ++ [anchor]
      ∧ FoldStep.Linked settings none steps
      ∧ (steps.map FoldStep.call).Sublist (summarizerCalls env r.world.trace)
      ∧ FoldStep.lastAnswer none steps = some summary.content

/-- What a call can do to the stored row: it leaves it unchanged, or it finishes a fold of turns
that follow the anchor. -/
def CallOutcome (env : Env) (settings : ContextSettings) (chatId : Uuid) (r r' : ContextRun) : Prop :=
  r'.summary chatId = r.summary chatId
    ∨ ∃ count, FoldFinished env settings chatId (r.summary chatId)
        ((entriesAfter r.history ((r.summary chatId).map (·.summarizedThroughMessageId))).take count)
        r.world r'.world

/-- The history of a run only grows at its end. -/
lemma history_prefix_step (env : Env) (settings : ContextSettings) (chatId : Uuid)
    (r : ContextRun) (st : ContextStep) :
    r.history <+: (r.step env settings chatId st).history := by
  cases st with
  | Grow entries change => exact List.prefix_append _ _
  | Build call => exact List.prefix_rfl

lemma history_prefix_run (env : Env) (settings : ContextSettings) (chatId : Uuid)
    (r : ContextRun) (steps : List ContextStep) :
    r.history <+: (r.run env settings chatId steps).history := by
  induction steps generalizing r with
  | nil => exact List.prefix_rfl
  | cons st steps ih => exact (history_prefix_step env settings chatId r st).trans (ih _)

/-- A step is a growth that keeps the summary, or a call. -/
lemma step_outcome (env : Env) (settings : ContextSettings) (chatId : Uuid)
    (r : ContextRun) (st : ContextStep) :
    let r' := r.step env settings chatId st
    (r'.summary chatId = r.summary chatId
        ∧ summarizerCalls env r.world.trace <+: summarizerCalls env r'.world.trace)
      ∨ r'.history = r.history ∧ ∃ count, FoldFinished env settings chatId (r.summary chatId)
          ((entriesAfter r.history
            ((r.summary chatId).map (·.summarizedThroughMessageId))).take count)
          r.world r'.world := by
  cases st with
  | Grow entries change => exact .inl ⟨rfl, List.prefix_rfl⟩
  | Build call =>
      rcases buildPrompt_keptOrFolded chatId r.history call r.world with h | h
      · exact .inl ⟨h.summaryOf chatId, h.2⟩
      · obtain ⟨count, -, -, hfold⟩ := h
        exact .inr ⟨rfl, count, hfold⟩

/-- The stored row, if there is one, is remembered. -/
def Inv (env : Env) (settings : ContextSettings) (chatId : Uuid) (r : ContextRun) : Prop :=
  ∀ summary, r.summary chatId = some summary → r.Remembers env settings summary

/-- The history of a remembered state splits behind the anchor, and the text so far was produced
from the front.  Without a stored summary the front is empty. -/
lemma Inv.exists_front {chatId : Uuid} {r : ContextRun} (hinv : r.Inv env settings chatId)
    (hnodup : (r.history.map ChatHistoryEntry.id).Nodup) :
    ∃ (front : List ChatHistoryEntry) (steps : List FoldStep),
      r.history = front
          ++ entriesAfter r.history ((r.summary chatId).map (·.summarizedThroughMessageId))
        ∧ FoldStep.fed steps = front
        ∧ FoldStep.Linked settings none steps
        ∧ (steps.map FoldStep.call).Sublist (summarizerCalls env r.world.trace)
        ∧ FoldStep.lastAnswer none steps = (r.summary chatId).map (·.content) := by
  cases hs : r.summary chatId with
  | none => exact ⟨[], [], rfl, rfl, trivial, List.nil_sublist _, rfl⟩
  | some summary =>
      obtain ⟨before, anchor, rest, steps, hhistory, hanchor, hfed, hlinked, hrequests, hlast⟩ :=
        hinv summary hs
      refine ⟨before ++ [anchor], steps, ?_, hfed, hlinked, hrequests, hlast⟩
      rw [hhistory] at hnodup
      rw [Option.map_some, ← hanchor, hhistory, entriesAfter_eq_of_anchor hnodup,
        List.append_assoc, List.singleton_append]

/-- The anchor of a summary counts the entries up to and including it. -/
lemma covered_of_anchor {chatId : Uuid} {r : ContextRun} {summary : ConversationSummary}
    {before rest : List ChatHistoryEntry} {anchor : ChatHistoryEntry}
    (hnodup : (r.history.map ChatHistoryEntry.id).Nodup) (hs : r.summary chatId = some summary)
    (hhistory : r.history = before ++ anchor :: rest)
    (hanchor : anchor.id = summary.summarizedThroughMessageId) :
    r.covered chatId = before.length + 1 := by
  simp only [covered]
  rw [hhistory] at hnodup ⊢
  rw [hs, Option.map_some, ← hanchor, entriesAfter_eq_of_anchor hnodup]
  simp only [List.length_append, List.length_cons]
  omega

/-- A finished fold moves the anchor to the last folded entry, and what was fed to the summarizer
is the front, then the folded entries. -/
lemma FoldFinished.remembers {chatId : Uuid} {r r' : ContextRun} {count : ℕ}
    (hinv : r.Inv env settings chatId) (hnodup : (r.history.map ChatHistoryEntry.id).Nodup)
    (hhistory : r'.history = r.history)
    (h : FoldFinished env settings chatId (r.summary chatId) ((entriesAfter r.history
      ((r.summary chatId).map (·.summarizedThroughMessageId))).take count) r.world r'.world) :
    r'.Inv env settings chatId ∧ r.covered chatId ≤ r'.covered chatId := by
  obtain ⟨front, steps, hsplit, hfed, hlinked, hrequests, hlast⟩ := hinv.exists_front hnodup
  generalize hafter : entriesAfter r.history ((r.summary chatId).map
    (·.summarizedThroughMessageId)) = after at h hsplit
  obtain ⟨newSteps, summary, lastFolded, hnewFed, hgetLast, hanchor, htext, hnewLinked, hcalls,
    hstored⟩ := h
  obtain ⟨folded, hfolded⟩ : ∃ folded, after.take count = folded ++ [lastFolded] :=
    List.getLast?_eq_some_iff.mp hgetLast
  have hnewHistory : r'.history = (front ++ folded) ++ lastFolded :: after.drop count := by
    rw [hhistory, hsplit, List.append_assoc, ← List.singleton_append, ← List.append_assoc folded,
      ← hfolded, List.take_append_drop]
  refine ⟨?_, ?_⟩
  · intro summary' hsummary'
    obtain rfl : summary = summary' := Option.some.inj (hstored.symm.trans hsummary')
    refine ⟨front ++ folded, lastFolded, after.drop count, steps ++ newSteps, hnewHistory,
      hanchor.symm, ?_, ?_, ?_, ?_⟩
    · rw [FoldStep.fed_append, hfed, hnewFed, hfolded, List.append_assoc]
    · exact FoldStep.linked_append.mpr ⟨hlinked, hlast ▸ hnewLinked⟩
    · rw [List.map_append, hcalls]
      exact List.Sublist.append hrequests (List.Sublist.refl _)
    · rw [FoldStep.lastAnswer_append, hlast, htext]
  · have hcovered : r.covered chatId = front.length := by
      simp only [covered]
      rw [hafter, hsplit, List.length_append]
      omega
    rw [hcovered, covered_of_anchor (hhistory ▸ hnodup) hstored hnewHistory hanchor.symm,
      List.length_append]
    omega

/-- **Step lemma.**  The invariant is kept and the anchor does not move backwards. -/
lemma inv_step {chatId : Uuid} {r : ContextRun} {st : ContextStep} (hinv : r.Inv env settings chatId)
    (hnodup : ((r.step env settings chatId st).history.map ChatHistoryEntry.id).Nodup) :
    (r.step env settings chatId st).Inv env settings chatId
      ∧ r.covered chatId ≤ (r.step env settings chatId st).covered chatId := by
  obtain ⟨more, hmore⟩ := history_prefix_step env settings chatId r st
  have hnodup₀ : (r.history.map ChatHistoryEntry.id).Nodup := by
    rw [← hmore, List.map_append] at hnodup
    exact hnodup.of_append_left
  rcases step_outcome env settings chatId r st with
    ⟨hsummary, hcalls⟩ | ⟨hhistory, count, hfold⟩
  · generalize r.step env settings chatId st = r' at *
    cases hs : r.summary chatId with
    | none =>
        have hcovered : r.covered chatId = 0 := by
          simp only [covered]
          rw [hs]
          exact Nat.sub_self _
        refine ⟨?_, hcovered ▸ Nat.zero_le _⟩
        intro summary h
        rw [hsummary, hs] at h
        cases h
    | some summary =>
        obtain ⟨before, anchor, rest, steps, hhistory, hanchor, hfed, hlinked, hrequests, hlast⟩ :=
          hinv summary hs
        have hhistory' : r'.history = before ++ anchor :: (rest ++ more) := by
          rw [← hmore, hhistory]
          simp
        refine ⟨?_, ?_⟩
        · intro summary' h
          obtain rfl : summary = summary' := Option.some.inj (hs.symm.trans (hsummary ▸ h))
          exact ⟨before, anchor, rest ++ more, steps, hhistory', hanchor, hfed, hlinked,
            hrequests.trans hcalls.sublist, hlast⟩
        · rw [covered_of_anchor hnodup₀ hs hhistory hanchor,
            covered_of_anchor hnodup (hsummary.trans hs) hhistory' hanchor]
  · exact FoldFinished.remembers hinv hnodup₀ hhistory hfold

/-- **Run lemma.**  By induction over the steps; the history of a prefix of the run is a prefix
of the history, so its ids are distinct as well. -/
lemma inv_run {chatId : Uuid} {r : ContextRun} {steps : List ContextStep}
    (hinv : r.Inv env settings chatId)
    (hnodup : ((r.run env settings chatId steps).history.map ChatHistoryEntry.id).Nodup) :
    (r.run env settings chatId steps).Inv env settings chatId
      ∧ r.covered chatId ≤ (r.run env settings chatId steps).covered chatId := by
  induction steps generalizing r with
  | nil => exact ⟨hinv, le_rfl⟩
  | cons st steps ih =>
      obtain ⟨more, hmore⟩ :=
        history_prefix_run env settings chatId
          (r.step env settings chatId st) steps
      have hnodup₁ : ((r.step env settings chatId st).history.map ChatHistoryEntry.id).Nodup := by
        change ((((r.step env settings chatId st).run env settings chatId steps).history.map
          ChatHistoryEntry.id).Nodup) at hnodup
        rw [← hmore, List.map_append] at hnodup
        exact hnodup.of_append_left
      obtain ⟨hstep, hle⟩ := inv_step hinv hnodup₁
      obtain ⟨hrun, hle'⟩ := ih hstep hnodup
      exact ⟨hrun, hle.trans hle'⟩

end ContextRun

/-! ## Every run -/

/-- **The summary is the conversation so far.**  In every run that starts without a summary: the
stored text was produced from the history up to its anchor, each entry once and in order; the anchor
is never behind where it was; and the next call leaves the stored row as it is or finishes its fold.
The entries of a history have distinct ids, which is what makes an anchor one place in it. -/
theorem summary_covers_history (env : Env) (settings : ContextSettings) (chatId : Uuid)
    (s : Stores) (steps : List ContextStep) (hfresh : s.summaryOf chatId = none)
    (hnodup : (((ContextRun.start s).run env settings chatId steps).history.map
      ChatHistoryEntry.id).Nodup) :
    let after := (ContextRun.start s).run env settings chatId
    (∀ summary, (after steps).summary chatId = some summary →
        (after steps).Remembers env settings summary)
      ∧ (∀ earlier, earlier <+: steps →
          (after earlier).covered chatId ≤ (after steps).covered chatId)
      ∧ ∀ call, (after steps).CallOutcome env settings chatId
          ((after steps).step env settings chatId (.Build call)) := by
  have hstart : (ContextRun.start s).Inv env settings chatId := by
    intro summary h
    rw [show (ContextRun.start s).summary chatId = none from hfresh] at h
    cases h
  refine ⟨(ContextRun.inv_run hstart hnodup).1, ?_, ?_⟩
  · rintro earlier ⟨later, rfl⟩
    rw [ContextRun.run_append] at hnodup ⊢
    have hearlier : (((ContextRun.start s).run env settings chatId earlier).history.map
        ChatHistoryEntry.id).Nodup := by
      obtain ⟨more, hmore⟩ := ContextRun.history_prefix_run env settings
        chatId ((ContextRun.start s).run env settings chatId earlier) later
      rw [← hmore, List.map_append] at hnodup
      exact hnodup.of_append_left
    exact (ContextRun.inv_run (ContextRun.inv_run hstart hearlier).1 hnodup).2
  · intro call
    exact (ContextRun.step_outcome env settings chatId _ (.Build call)).imp And.left And.right

/-- A summarizer which notes the same fact each time. -/
def notingEnv : Env := { Env.reliable with completion := fun _ => ⟨js " - likes tea ", none, none⟩ }

/-- Three turns, the first of them a long one. -/
def teaHistory : List ChatHistoryEntry :=
  [.User 1 (List.replicate 700 0x61), .Assistant 2 (List.replicate 600 0x62) "llama3.2:1b",
    .User 3 (js "Hi"), .Assistant 4 (js "Hello") "llama3.2:1b",
    .User 5 (js "Tea?"), .Assistant 6 (js "Yes") "llama3.2:1b"]

/-- The three turns, then a prompt for a model with a context of 512 tokens. -/
def teaRun : List ContextStep :=
  [.Grow teaHistory id, .Build ⟨.Anonymous 1, ⟨1, "llama3.2:1b", 512, true⟩, js "More"⟩]

/-- In this run the first turn is folded, and the notes remember it. -/
theorem summary_covers_history_tea :
    ((ContextRun.start (.empty .counting)).run notingEnv .defaults 1 teaRun).Remembers notingEnv
      .defaults ⟨1, js "- likes tea", 2, 8⟩ :=
  (summary_covers_history notingEnv .defaults 1 (.empty .counting) teaRun rfl
    (by decide +kernel)).1 _ (by decide +kernel)

end RagStack
