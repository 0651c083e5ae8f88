import RagStack.Ollama.OllamaClient
import RagStack.Chats.SummaryMemory
import RagStack.Admin.ChatSummaryService
import RagStack.Core.Runs

/-!
# Summaries of streams that end early

The text of a chat reply counts only when its completion frame has arrived.  `complete` does not
look for one, and neither `summarize` nor `generate` can: a stream that is closed early is to them a
model that had no more to say.

For a chat reply `stream` throws when none of the chunks was `done`, and what has arrived is kept as
a reply that has failed.  The two services that make summaries use `complete`, which returns the
text of whatever has arrived.  If Ollama is restarted in the middle of an answer and the connection
is closed in an orderly way, they persist half a sentence as the summary of a chat.

When exactly does this happen?  A service goes on with a text unless the stream ends with an error
or the text is degenerate, or for the administrator an echo.  So a summary that is persisted rests
on complete streams if, for all the streams of a run that gets to its upsert, the frame was there.
Otherwise there must have been something else that stops the run.  The theorem says this for each
service as an equivalence, in terms of the responses of Ollama and of the verdicts on the other
calls.

Both loops are brought into one form first.  What a run persists, and the numbers of the calls of
`complete` it has made till then, is described without its trace: by the chunks, the texts of the
streams, and which of the recordings have failed.

* `keptNotes`, `keptOverview` — what the two loops ask of a stream before they go on.
* `foldChunks_streamed`, `summarize_streamed` — the calls of a fold, and when it gets to its end.
* `generatePersists_iff` — when `generate` gets to its upsert.
* `summaries_delivered_iff` — a summary that is persisted rests on complete streams only if no
  stream without a completion frame has a text that is kept, or the summarization fails elsewhere.
-/

namespace RagStack

open OllamaClient

/-! ## The answers of Ollama in a script

A script answers the calls of a run by their number.  Here the answers of `complete` are computed
from responses. -/

section Streams

variable (parse : JsString → Option (Option OllamaChatResponse))

/-- The text of a stream that ends without an error. -/
def streamedText (response : OllamaResponse) : Option JsString :=
  match streamRequest parse response with
  | (chunks, none) => some (chunks.flatMap (·.delta))
  | (_, some _) => none

/-- `complete` returns the text of the stream. -/
lemma complete_text (response : OllamaResponse) :
    (OllamaClient.complete parse response).toOption.map (·.content)
      = streamedText parse response := by
  simp only [OllamaClient.complete, streamedText]
  rcases streamRequest parse response with ⟨chunks, _ | error⟩ <;> rfl

/-- The script in which the `t`-th call, if it is one of `complete`, is answered with
`response t`. -/
def Env.answeredWith (env : Env) (response : ℕ → OllamaResponse) : Env :=
  { env with
    verdict := fun t call =>
      match call, OllamaClient.complete parse (response t) with
      | .OllamaComplete .., .ok _ => .Resolves
      | .OllamaComplete .., .error _ => .Rejects
      | call, _ => env.verdict t call
    rejection := fun t =>
      match OllamaClient.complete parse (response t) with
      | .ok _ => env.rejection t
      | .error error => error
    completion := fun t =>
      match OllamaClient.complete parse (response (t - 1)) with
      | .ok result => result
      | .error _ => env.completion t }

/-- A call of `complete` returns or throws what the client makes of the stream. -/
lemma complete_answeredWith (env : Env) (response : ℕ → OllamaResponse) (model : String)
    (messages : List OllamaHistoryMessage) (contextTokens maxTokens : ℕ) (w : World) :
    complete (env.answeredWith parse response) model messages contextTokens maxTokens w
      = match OllamaClient.complete parse (response w.tick) with
        | .ok result =>
            (.Returned result,
              w.log (.OllamaComplete model messages contextTokens maxTokens) .Resolves)
        | .error error =>
            (.Thrown error,
              w.log (.OllamaComplete model messages contextTokens maxTokens) .Rejects) := by
  simp only [RagStack.complete, await]
  have htick : (w.log (.OllamaComplete model messages contextTokens maxTokens)
      .Resolves).tick = w.tick + 1 := rfl
  cases h : OllamaClient.complete parse (response w.tick) with
  | ok result => simp [Env.answeredWith, h, htick]
  | error error => simp [Env.answeredWith, h]

/-- `summarize` goes on with the text of a stream: no error, and not degenerate. -/
def keptNotes (response : OllamaResponse) : Bool :=
  (streamedText parse response).any fun text => !isDegenerateSummary text.trim

/-- `generate` goes on with the text of a stream: no error, not degenerate, and no echo of the
chunk. -/
def keptOverview (chunk : List ChatHistoryEntry) (response : OllamaResponse) : Bool :=
  (streamedText parse response).any fun text =>
    !(isDegenerateSummary (cleanAdminSummary text) || isEchoedSummary (cleanAdminSummary text) chunk)

end Streams

/-! ## The calls of a fold

Which of the calls in a trace are those of `complete`, and which of them persist something. -/

/-- An upsert of a summary that took effect. -/
def TraceEntry.persists (entry : TraceEntry) : Bool :=
  match entry.call with
  | .UpsertSummary _ => entry.verdict.applied
  | _ => false

/-- How often a summary was persisted. -/
def World.persisted (w : World) : ℕ := w.trace.countP (·.persists)

/-- The numbers of the calls of `complete` in a trace. -/
def completeCalls : List TraceEntry → List ℕ
  | [] => []
  | entry :: earlier =>
      completeCalls earlier ++ if entry.call.isSummarizerCall then [earlier.length] else []

/-- **A summary is persisted only after complete streams.**  If one was persisted from `w` to `w'`,
every call of `complete` in between got its completion frame. -/
def PersistsDelivered (parse : JsString → Option (Option OllamaChatResponse))
    (response : ℕ → OllamaResponse) (w w' : World) : Prop :=
  w.persisted < w'.persisted →
    ∀ t ∈ completeCalls w'.trace, w.tick ≤ t → Delivered parse (response t)

/-! ## One fold

`summarize`, chunk by chunk. -/

/-- The calls of `complete`, and how often a summary was persisted, are as before. -/
def SameCalls (w w' : World) : Prop :=
  w'.persisted = w.persisted ∧ completeCalls w'.trace = completeCalls w.trace

instance : IsPreorder World SameCalls where
  refl _ := ⟨rfl, rfl⟩
  trans _ _ _ h h' := ⟨h'.1.trans h.1, h'.2.trans h.2⟩

lemma sameCalls_log {c : Call} (hcomplete : c.isSummarizerCall = false)
    (hupsert : ∀ chatId, c ≠ .UpsertSummary chatId) (w : World) (v : Verdict) :
    SameCalls w (w.log c v) := by
  refine ⟨?_, ?_⟩
  · have hpersists : TraceEntry.persists ⟨c, v, w.stores, w.locals⟩ = false := by
      cases c <;> simp [TraceEntry.persists] at hupsert ⊢
    simp [World.persisted, hpersists]
  · simp [completeCalls, hcomplete]

variable {env : Env} {settings : ContextSettings}
  {parse : JsString → Option (Option OllamaChatResponse)} {response : ℕ → OllamaResponse}

lemma recordUsage_sameCalls (principal : RequestPrincipal) (chatId modelId : Uuid)
    (kind : UsageKind) (inputTokens outputTokens : Option ℤ) :
    Eff.Keeps SameCalls
      (recordUsage env principal chatId modelId kind inputTokens outputTokens) := by
  refine keeps_await (sameCalls_log rfl (by simp)) (Eff.Keeps.tryCatch ?_ fun _ => .pure ())
  refine keeps_transact (sameCalls_log rfl (by simp)) ?_
  rintro w v t a s h
  exact sameCalls_log (c := .CreateUsageLog) rfl (by simp) w v

/-- **One request of a fold**, up to where its text is looked at: it fails, and no text of its
stream is used, or the text is there and three calls were made. -/
lemma wp_request {α : Type} {f : OllamaCompletion → Handler α}
    {Q : Outcome JsError α → World → Prop}
    (model : String) (messages : List OllamaHistoryMessage) (contextTokens maxTokens : ℕ)
    (principal : RequestPrincipal) (chatId modelId : Uuid) (kind : UsageKind) (w : World)
    (failed : ∀ o w', (∀ r, o ≠ .Returned r) → w'.persisted = w.persisted →
      ¬ ((streamedText parse (response w.tick)).isSome ∧ env.recordReturns (w.tick + 1)) → Q o w')
    (done : ∀ result w', streamedText parse (response w.tick) = some result.content →
      env.recordReturns (w.tick + 1) → w'.tick = w.tick + 3 → w'.persisted = w.persisted →
      completeCalls w'.trace = completeCalls w.trace ++ [w.tick] → Eff.wp (f result) Q w') :
    Eff.wp (do
      let result ← complete (env.answeredWith parse response) model messages contextTokens maxTokens
      recordUsage (env.answeredWith parse response) principal chatId modelId kind
        result.promptTokens result.completionTokens
      f result) Q w := by
  have hcomplete := complete_answeredWith parse env response model messages contextTokens
    maxTokens w
  have htext := complete_text parse (response w.tick)
  set request : Call := .OllamaComplete model messages contextTokens maxTokens with hrequest
  have hlogged : ∀ v, (w.log request v).persisted = w.persisted := by
    simp [World.persisted, TraceEntry.persists, hrequest]
  cases hresult : OllamaClient.complete parse (response w.tick) with
  | error error =>
      rw [hresult] at hcomplete htext
      refine Eff.wp_bind_of_thrown hcomplete (failed _ _ (by simp) (hlogged _) ?_)
      rintro ⟨hsome, -⟩
      simp [← htext, Except.toOption] at hsome
  | ok result =>
      rw [hresult] at hcomplete htext
      have hcalls : completeCalls (w.log request .Resolves).trace
        = completeCalls w.trace ++ [w.tick] := rfl
      refine Eff.wp_bind_of_eq hcomplete ?_
      refine Eff.wp_seq (Eff.wp_and (recordUsage_settles _ _ _ _ _ _ _)
        (recordUsage_sameCalls _ _ _ _ _ _).wp) ?_ ?_ ?_
      · rintro _ w' ⟨⟨hreturns, -, htick⟩, hsame⟩
        exact done result w' htext.symm hreturns htick (hsame.1.trans (hlogged _))
          (hsame.2.trans hcalls)
      · rintro e w' ⟨⟨hreturns, -⟩, hsame⟩
        refine failed _ _ (by simp) (hsame.1.trans (hlogged _)) ?_
        exact fun h => Bool.false_ne_true (hreturns.symm.trans h.2)
      · rintro w' ⟨⟨hreturns, -⟩, hsame⟩
        refine failed _ _ (by simp) (hsame.1.trans (hlogged _)) ?_
        exact fun h => Bool.false_ne_true (hreturns.symm.trans h.2)

/-- A chunk of `summarize` is done when the text of its stream is kept and its usage is
recorded. -/
def chunkDone (parse : JsString → Option (Option OllamaChatResponse))
    (response : ℕ → OllamaResponse) (env : Env) (t : ℕ) : Bool :=
  keptNotes parse (response t) && env.recordReturns (t + 1)

/-- **The loop of `summarize`.**  It makes three calls for a chunk, never persists anything, and
gets to its end when every chunk is done. -/
lemma foldChunks_streamed (params : BuildPromptParams) (budget : ContextBudget)
    (chunks : List (List ChatHistoryEntry)) (content : Option JsString) (tokenCount : ℤ)
    (w : World) :
    Eff.wp (foldChunks (env.answeredWith parse response) settings params budget chunks content
        tokenCount)
      (fun o w' => w'.persisted = w.persisted
        ∧ ((∃ r, o = .Returned r)
          ↔ ∀ k < chunks.length, chunkDone parse response env (w.tick + 3 * k))
        ∧ ∀ r, o = .Returned r →
            w'.tick = w.tick + 3 * chunks.length
              ∧ completeCalls w'.trace
                = completeCalls w.trace ++ (List.range chunks.length).map (w.tick + 3 * ·)
              ∧ (r.1.isSome ↔ content.isSome ∨ chunks ≠ [])) w := by
  induction chunks generalizing content tokenCount w with
  | nil =>
      refine ⟨rfl, by simp [foldChunks, pure, Eff.pure], ?_⟩
      rintro r hr
      cases hr
      exact ⟨rfl, (List.append_nil _).symm, by simp⟩
  | cons chunk chunks ih =>
      simp only [List.length_cons, Nat.forall_lt_succ_left, Nat.mul_zero, Nat.add_zero]
      refine wp_request _ _ _ _ _ _ _ _ w ?_ ?_
      · intro o w' hnone hpersisted hfailed
        refine ⟨hpersisted, ?_, fun r hr => absurd hr (hnone r)⟩
        refine iff_of_false (not_exists.mpr hnone) ?_
        rintro ⟨hdone, -⟩
        obtain ⟨hkept, hrecorded⟩ := Bool.and_eq_true_iff.mp hdone
        obtain ⟨text, htext, -⟩ := (Option.any_eq_true _ _).mp hkept
        exact hfailed ⟨by simp [htext], hrecorded⟩
      · intro result w₁ htext hrecorded htick hpersisted hcalls
        have hdone : chunkDone parse response env w.tick
            = !isDegenerateSummary result.content.trim := by
          simp [chunkDone, keptNotes, htext, hrecorded]
        show Eff.wp (if isDegenerateSummary result.content.trim then Eff.throw emptySummaryError
          else foldChunks _ settings params budget chunks (some result.content.trim) _) _ w₁
        split
        · rename_i hdegenerate
          refine ⟨hpersisted, ?_, ?_⟩
          · simp [hdone, hdegenerate, Eff.throw]
          · rintro r ⟨⟩
        · rename_i hdegenerate
          refine Eff.wp_mono (ih (some result.content.trim) _ w₁) ?_
          rintro o w' ⟨hpersisted', hend, hreturn⟩
          -- the later chunks count their calls from `w₁`
          have hshift : ∀ k, w₁.tick + 3 * k = w.tick + 3 * (k + 1) := by
            intro k
            omega
          simp only [hshift] at hend hreturn
          refine ⟨hpersisted'.trans hpersisted, by simpa [hdone, hdegenerate] using hend, ?_⟩
          intro r hr
          obtain ⟨htick', hcalls', hsome⟩ := hreturn r hr
          refine ⟨by omega, ?_, by simpa using hsome⟩
          rw [hcalls', hcalls, List.range_succ_eq_map, List.map_cons, List.map_map,
            List.append_assoc]
          rfl

/-- How many calls of `complete` a fold takes. -/
def chunkCount (settings : ContextSettings) (folded : List ChatHistoryEntry)
    (budget : ContextBudget) : ℕ :=
  (chunkEntries folded budget.chunkTokens settings.charsPerToken).length

/-- A fold that begins with the `t`-th call gets to its upsert, and the upsert is carried out. -/
def SummarizePersists (parse : JsString → Option (Option OllamaChatResponse))
    (response : ℕ → OllamaResponse) (env : Env) (settings : ContextSettings) (chatId : Uuid)
    (folded : List ChatHistoryEntry) (budget : ContextBudget) (t : ℕ) : Prop :=
  folded ≠ []
    ∧ (∀ k < chunkCount settings folded budget, chunkDone parse response env (t + 3 * k))
    ∧ (env.verdict (t + 3 * chunkCount settings folded budget) (.UpsertSummary chatId)).applied

lemma persisted_of_upsert {chatId : Uuid} {v : Verdict} {w w' : World}
    (h : w'.trace = (w.log (.UpsertSummary chatId) v).trace) :
    w'.persisted = w.persisted + if v.applied then 1 else 0 := by
  simp only [World.persisted]
  rw [h, World.trace_log, List.countP_cons]
  rfl

/-- A fold from `w` to `w'`: a summary was persisted exactly if the fold got to its upsert and that
was carried out, and then the calls of `complete` are those of its chunks. -/
structure FoldStreamed (parse : JsString → Option (Option OllamaChatResponse))
    (response : ℕ → OllamaResponse) (env : Env) (settings : ContextSettings) (chatId : Uuid)
    (folded : List ChatHistoryEntry) (budget : ContextBudget) (w w' : World) : Prop where
  persists : w.persisted < w'.persisted
    ↔ SummarizePersists parse response env settings chatId folded budget w.tick
  calls : w.persisted < w'.persisted → completeCalls w'.trace
    = completeCalls w.trace ++ (List.range (chunkCount settings folded budget)).map (w.tick + 3 * ·)

lemma FoldStreamed.of_same {chatId : Uuid} {folded : List ChatHistoryEntry} {budget : ContextBudget}
    {w w' : World} (hsame : w'.persisted = w.persisted)
    (hnot : ¬ SummarizePersists parse response env settings chatId folded budget w.tick) :
    FoldStreamed parse response env settings chatId folded budget w w' :=
  ⟨iff_of_false (by omega) hnot, fun h => absurd h (by omega)⟩

/-- The upsert persists the summary exactly when it is carried out. -/
lemma FoldStreamed.of_upsert {chatId : Uuid} {folded : List ChatHistoryEntry}
    {budget : ContextBudget} {w w₁ w' : World} (hne : folded ≠ [])
    (hdone : ∀ k < chunkCount settings folded budget,
      chunkDone parse response env (w.tick + 3 * k))
    (hsame : w₁.persisted = w.persisted)
    (htick : w₁.tick = w.tick + 3 * chunkCount settings folded budget)
    (hcalls : completeCalls w₁.trace = completeCalls w.trace
      ++ (List.range (chunkCount settings folded budget)).map (w.tick + 3 * ·))
    (htrace : w'.trace
      = (w₁.log (.UpsertSummary chatId) (env.verdict w₁.tick (.UpsertSummary chatId))).trace) :
    FoldStreamed parse response env settings chatId folded budget w w' := by
  have hpersists : SummarizePersists parse response env settings chatId folded budget w.tick
      ↔ (env.verdict w₁.tick (.UpsertSummary chatId)).applied := by
    simp only [SummarizePersists]
    rw [← htick]
    exact ⟨fun h => h.2.2, fun h => ⟨hne, hdone, h⟩⟩
  refine ⟨?_, fun _ => ?_⟩
  · rw [hpersists, persisted_of_upsert htrace, hsame]
    cases (env.verdict w₁.tick (.UpsertSummary chatId)).applied <;> simp
  · rw [htrace]
    exact (List.append_nil _).trans hcalls

/-- **`summarize`.**  What it takes for a summary to be persisted, and the calls made till then. -/
lemma summarize_streamed (params : BuildPromptParams) (previous : Option ConversationSummary)
    (folded : List ChatHistoryEntry) (budget : ContextBudget) (w : World) :
    Eff.wp (summarize (env.answeredWith parse response) settings params previous folded budget)
      (fun _ w' => FoldStreamed parse response env settings params.chatId folded budget w w')
      w := by
  refine Eff.wp_seq (foldChunks_streamed params budget _ _ _ w) ?_ ?_ ?_
  · rintro ⟨content, tokenCount⟩ w₁ ⟨hsame, hend, hreturn⟩
    have hdone := hend.mp ⟨_, rfl⟩
    obtain ⟨htick, hcalls, hsome⟩ := hreturn _ rfl
    cases hfolded : folded.getLast? with
    | none =>
        have hempty : folded = [] := List.getLast?_eq_none_iff.mp hfolded
        have hstop : FoldStreamed parse response env settings params.chatId folded budget w w₁ :=
          .of_same hsame fun h => h.1 hempty
        cases content with
        | none => exact hstop
        | some content => simp only; exact hstop
    | some lastFolded =>
        have hne : folded ≠ [] := by
          rintro rfl
          cases hfolded
        obtain ⟨content, rfl⟩ := Option.isSome_iff_exists.mp
          (hsome.mpr (.inr (chunkEntries_ne_nil _ _ hne)))
        have hupsert : ∀ (v : Verdict) (w' : World),
            env.verdict w₁.tick (.UpsertSummary params.chatId) = v →
            w'.trace = (w₁.log (.UpsertSummary params.chatId) v).trace →
            FoldStreamed parse response env settings params.chatId folded budget w w' := by
          rintro v w' rfl htrace
          exact .of_upsert hne hdone hsame htick hcalls htrace
        exact wp_transact (fun _ _ hv _ => hupsert _ _ hv rfl) (fun _ v hv _ => hupsert v _ hv rfl)
          (fun _ _ hv _ => hupsert _ _ hv rfl) (fun hv => hupsert _ _ hv rfl)
  · rintro e w' ⟨hsame, hend, -⟩
    exact .of_same hsame fun h => by simpa using hend.mpr h.2.1
  · rintro w' ⟨hsame, hend, -⟩
    exact .of_same hsame fun h => by simpa using hend.mpr h.2.1

lemma lt_of_mem_completeCalls {t : ℕ} {trace : List TraceEntry} (h : t ∈ completeCalls trace) :
    t < trace.length := by
  induction trace with
  | nil => cases h
  | cons entry earlier ih =>
      rw [completeCalls, List.mem_append] at h
      rw [List.length_cons]
      rcases h with h | h
      · exact Nat.lt_succ_of_lt (ih h)
      · split at h
        · obtain rfl : t = earlier.length := by simpa using h
          exact Nat.lt_succ_self _
        · cases h

/-- A summary persisted by `summarize` rests on complete streams exactly if the streams of a fold
that gets to its end are. -/
lemma summarize_delivered_iff (params : BuildPromptParams)
    (previous : Option ConversationSummary) (folded : List ChatHistoryEntry)
    (budget : ContextBudget) (w : World) :
    PersistsDelivered parse response w
        (summarize (env.answeredWith parse response) settings params previous folded budget w).2
      ↔ (SummarizePersists parse response env settings params.chatId folded budget w.tick →
          ∀ k < chunkCount settings folded budget,
            Delivered parse (response (w.tick + 3 * k))) := by
  obtain ⟨hpersists, hcalls⟩ := @summarize_streamed env settings parse response params previous
    folded budget w
  simp only [PersistsDelivered]
  rw [hpersists]
  refine imp_congr_right fun h => ?_
  rw [hcalls (hpersists.mpr h)]
  refine ⟨fun hall k hk => hall _ ?_ (Nat.le_add_right _ _), ?_⟩
  · exact List.mem_append_right _ (List.mem_map.mpr ⟨k, List.mem_range.mpr hk, rfl⟩)
  · intro hall t ht hle
    rcases List.mem_append.mp ht with hold | hnew
    · exact absurd (lt_of_mem_completeCalls hold) (Nat.not_lt.mpr hle)
    · obtain ⟨k, hk, rfl⟩ := List.mem_map.mp hnew
      exact hall k (List.mem_range.mp hk)

/-! ## The administrator's summary

`generate`, with one round for each chunk. -/

/-- A round of the loop in `generate`: what Ollama answers, and the error of `usage.record`. -/
structure GenerateRound where
  response : OllamaResponse
  recordError : Option JsError

/-- What the `await`s of a round get. -/
def GenerateRound.answers (parse : JsString → Option (Option OllamaChatResponse))
    (round : GenerateRound) : List RefreshAnswer :=
  match OllamaClient.complete parse round.response with
  | .error error => [.Error error]
  | .ok result => [.Completion result, round.recordError.elim .Recorded .Error]

/-- The `await` of `repository.upsertSummary`. -/
def BodyPhase.isUpserting : BodyPhase → Bool
  | .Upserting .. => true
  | _ => false

/-- The `try` block, where it has got to, is led to its upsert by some answers. -/
def upsertsAfter (settings : ContextSettings) : BodyNext → List RefreshAnswer → Bool
  | .Finish _, _ => false
  | .Await phase, [] => phase.isUpserting
  | .Await phase, answer :: answers =>
      match bodyStep settings phase answer with
      | some (next, _) => upsertsAfter settings next answers
      | none => false

/-- A round goes on when the text of its stream is kept and its usage is recorded. -/
def RoundDone (parse : JsString → Option (Option OllamaChatResponse))
    (chunk : List ChatHistoryEntry) (round : GenerateRound) : Prop :=
  keptOverview parse chunk round.response = true ∧ round.recordError = none

lemma upsertsAfter_finish (outcome : RefreshOutcome) (answers : List RefreshAnswer) :
    upsertsAfter settings (.Finish outcome) answers = false := by
  cases answers <;> rfl

/-- The upsert awaits neither of the answers of a round. -/
lemma upsertsAfter_upserting (model : Model) (lastEntry : ChatHistoryEntry) (content : JsString)
    (tokenCount : ℤ) (round : GenerateRound) (answers : List RefreshAnswer) :
    upsertsAfter settings (.Await (.Upserting model lastEntry content tokenCount))
      (round.answers parse ++ answers) = false := by
  simp only [GenerateRound.answers]
  cases OllamaClient.complete parse round.response with
  | ok result => rfl
  | error error =>
      -- the upsert has failed, and the call is about to end
      rcases answers with _ | ⟨answer, answers⟩
      · rfl
      · cases answer <;> simp [upsertsAfter, bodyStep, upsertsAfter_finish]

/-- **One round of `generate`**: if it is done, the loop goes on with the rest of the answers, and
otherwise the call is over. -/
lemma upsertsAfter_round (model : Model) (lastEntry : ChatHistoryEntry)
    (content : Option JsString) (chunk : List ChatHistoryEntry)
    (chunks : List (List ChatHistoryEntry)) (round : GenerateRound) (answers : List RefreshAnswer) :
    let after := upsertsAfter settings (.Await (.Completing model lastEntry content chunk chunks))
      (round.answers parse ++ answers)
    ¬ RoundDone parse chunk round ∧ after = false
      ∨ RoundDone parse chunk round ∧ ∃ content' tokenCount', after = upsertsAfter settings
        (nextChunk settings model lastEntry (some content') tokenCount' chunks).1 answers := by
  intro after
  have htext := complete_text parse round.response
  cases hresult : OllamaClient.complete parse round.response with
  | error error =>
      rw [hresult] at htext
      have hkept : keptOverview parse chunk round.response = false := by
        simp [keptOverview, ← htext, Except.toOption]
      have hanswers : round.answers parse = [.Error error] := by
        simp [GenerateRound.answers, hresult]
      refine .inl ⟨fun h => Bool.false_ne_true (hkept.symm.trans h.1), ?_⟩
      simp [after, hanswers, upsertsAfter, bodyStep, upsertsAfter_finish]
  | ok result =>
      rw [hresult] at htext
      have hkept : keptOverview parse chunk round.response
          = !(isDegenerateSummary (cleanAdminSummary result.content)
            || isEchoedSummary (cleanAdminSummary result.content) chunk) := by
        simp [keptOverview, ← htext, Except.toOption]
      have hanswers : round.answers parse
          = [.Completion result, round.recordError.elim .Recorded .Error] := by
        simp [GenerateRound.answers, hresult]
      simp only [after, hanswers]
      cases hrecord : round.recordError with
      | some error =>
          refine .inl ⟨fun h => ?_, ?_⟩
          · rw [h.2] at hrecord
            cases hrecord
          · simp [upsertsAfter, bodyStep, upsertsAfter_finish]
      | none =>
          simp only [List.cons_append, List.nil_append, upsertsAfter, bodyStep, Option.elim_none,
            afterRecord]
          split
          · rename_i hrejected
            exact .inl ⟨by simp [RoundDone, hkept, hrejected], upsertsAfter_finish _ _⟩
          · rename_i hrejected
            exact .inr ⟨by simpa [RoundDone, hkept, hrecord] using hrejected, _, _, rfl⟩

/-- **The loop of `generate`** gets to its upsert when there is a round for each chunk, and every
round is done. -/
lemma nextChunk_upserts (model : Model) (lastEntry : ChatHistoryEntry) (content : Option JsString)
    (tokenCount : ℤ) (chunks : List (List ChatHistoryEntry)) (rounds : List GenerateRound) :
    upsertsAfter settings (nextChunk settings model lastEntry content tokenCount chunks).1
        (rounds.flatMap (·.answers parse)) = true
      ↔ List.Forall₂ (RoundDone parse) chunks rounds ∧ (content.isSome ∨ chunks ≠ []) := by
  induction chunks generalizing content tokenCount rounds with
  | nil =>
      cases content with
      | none => simp [nextChunk, upsertsAfter_finish]
      | some content =>
          cases rounds with
          | nil => simp [nextChunk, upsertsAfter, BodyPhase.isUpserting]
          | cons round rounds => simp [nextChunk, upsertsAfter_upserting]
  | cons chunk chunks ih =>
      cases rounds with
      | nil => simp [nextChunk, upsertsAfter, BodyPhase.isUpserting]
      | cons round rounds =>
          rw [List.flatMap_cons, List.forall₂_cons]
          show upsertsAfter settings (.Await (.Completing model lastEntry content chunk chunks))
            (round.answers parse ++ rounds.flatMap _) = true ↔ _
          rcases upsertsAfter_round model lastEntry content chunk chunks round
              (rounds.flatMap (·.answers parse)) with
            ⟨hnot, hafter⟩ | ⟨hdone, content', tokenCount', hafter⟩
          · rw [hafter]
            simp [hnot]
          · rw [hafter, ih]
            simp [hdone]

/-- `generate`, from its first `await`: the model of the catalog, then its rounds.  `upserted` is
whether the upsert it then asks for is carried out. -/
def generatePersists (parse : JsString → Option (Option OllamaChatResponse))
    (settings : ContextSettings) (previous : Option AdminChatSummaryWithModel)
    (pending : List ChatHistoryEntry) (model : Model) (rounds : List GenerateRound)
    (upserted : Bool) : Bool :=
  upsertsAfter settings (.Await (.Choosing previous pending))
      (.DefaultModel model :: rounds.flatMap (·.answers parse))
    && upserted

/-- **`generate`.**  What it takes for a summary to be persisted. -/
lemma generatePersists_iff (previous : Option AdminChatSummaryWithModel)
    (pending : List ChatHistoryEntry) (model : Model) (rounds : List GenerateRound)
    (upserted : Bool) :
    generatePersists parse settings previous pending model rounds upserted = true
      ↔ pending ≠ []
        ∧ List.Forall₂ (RoundDone parse)
            (chunkEntries pending (getContextBudget model.maxContext settings).chunkTokens
              settings.charsPerToken) rounds
        ∧ upserted = true := by
  simp only [generatePersists]
  rw [Bool.and_eq_true, ← and_assoc, and_congr_left_iff]
  intro _
  simp only [upsertsAfter, bodyStep, afterDefault]
  cases hlast : pending.getLast? with
  | none =>
      have hempty : pending = [] := List.getLast?_eq_none_iff.mp hlast
      refine iff_of_false ?_ fun h => h.1 hempty
      simp only [upsertsAfter_finish, Bool.false_eq_true, not_false_eq_true]
  | some lastEntry =>
      have hne : pending ≠ [] := by
        rintro rfl
        cases hlast
      simp only
      rw [nextChunk_upserts]
      have hchunks := chunkEntries_ne_nil (getContextBudget model.maxContext settings).chunkTokens
        settings.charsPerToken hne
      exact ⟨fun h => ⟨hne, h.1⟩, fun h => ⟨h.2, .inr hchunks⟩⟩

/-! ## Both services

The two characterizations, side by side. -/

/-- **When a persisted summary rests on complete streams.**  Either service meets this exactly if
the completion frames have arrived wherever a run would get to its upsert: where every stream ends
without an error and with a text that is kept, and nothing else fails. -/
theorem summaries_delivered_iff (parse : JsString → Option (Option OllamaChatResponse))
    (settings : ContextSettings) :
    (∀ (env : Env) (response : ℕ → OllamaResponse) (params : BuildPromptParams)
        (previous : Option ConversationSummary) (folded : List ChatHistoryEntry)
        (budget : ContextBudget) (w : World),
      PersistsDelivered parse response w
          (summarize (env.answeredWith parse response) settings params previous folded budget w).2
        ↔ (SummarizePersists parse response env settings params.chatId folded budget w.tick →
            ∀ k < chunkCount settings folded budget,
              Delivered parse (response (w.tick + 3 * k))))
      ∧ ∀ (previous : Option AdminChatSummaryWithModel) (pending : List ChatHistoryEntry)
          (model : Model) (rounds : List GenerateRound) (upserted : Bool),
        (generatePersists parse settings previous pending model rounds upserted = true →
            ∀ round ∈ rounds, Delivered parse round.response)
          ↔ (pending ≠ []
              ∧ List.Forall₂ (RoundDone parse)
                  (chunkEntries pending (getContextBudget model.maxContext settings).chunkTokens
                    settings.charsPerToken) rounds
              ∧ upserted = true →
            ∀ round ∈ rounds, Delivered parse round.response) := by
  refine ⟨?_, ?_⟩
  · intro env response params previous folded budget w
    exact summarize_delivered_iff params previous folded budget w
  · intro previous pending model rounds upserted
    rw [generatePersists_iff]

/-- A line of a stream, as Ollama writes it. -/
def cutOffLine : String :=
  "\x7b\"message\":\x7b\"content\":\"- the user likes t\"\x7d,\"done\":false\x7d"

/-- `JSON.parse`, on that line. -/
def parseCutOff (line : JsString) : Option (Option OllamaChatResponse) :=
  if line = js cutOffLine then
    some (some ⟨some (js "- the user likes t"), false, none, none, none, none⟩)
  else none

/-- A stream that is closed behind its first line. -/
def cutOffResponse : OllamaResponse :=
  ⟨.Responded 200 (some ⟨[encodeText (cutOffLine.toList ++ ['\n'])], none⟩), .NotAborted⟩

/-- The parameters of a prompt for a model with a context of 512 tokens. -/
def cutOffParams : BuildPromptParams where
  principal := .Anonymous 1
  chatId := 1
  model := ⟨1, "llama3.2:1b", 512, true⟩
  history := []
  content := []
  onSummarizing := pure ()

/-- Both services persist the beginning of a sentence. -/
theorem summaries_delivered_cutOff :
    ¬ PersistsDelivered parseCutOff (fun _ => cutOffResponse) (.start (.empty .counting))
        (summarize (Env.reliable.answeredWith parseCutOff fun _ => cutOffResponse) .defaults
          cutOffParams none [.User 1 (js "I like tea.")] (getContextBudget 512 .defaults)
          (.start (.empty .counting))).2
      ∧ generatePersists parseCutOff .defaults none [.User 1 (js "I like tea.")]
          ⟨1, "llama3.2:1b", 512, true⟩ [⟨cutOffResponse, none⟩] true = true
      ∧ ¬ Delivered parseCutOff cutOffResponse := by
  refine ⟨?_, by decide +kernel, by decide +kernel⟩
  rw [summarize_delivered_iff]
  intro h
  exact absurd (h ⟨by decide +kernel, by decide +kernel, by decide +kernel⟩ 0 (by decide +kernel))
    (by decide +kernel)

end RagStack
