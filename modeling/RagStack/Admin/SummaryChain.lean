import RagStack.Admin.SummaryTraces
import RagStack.Chats.FedEntries
import RagStack.Chats.Lemmas.ContextWindow
import RagStack.Chats.Lemmas.History
import RagStack.Core.DigestChain
import RagStack.Core.Except

/-!
# Where a stored summary comes from

Calls of `refreshSummary` read the row and the messages at different times, feed the model for as
long as it takes, and store what they have made long after.  The stored text still is a digest of
the completed turns up to the stored anchor.

A digest is what a chain of model calls makes of a list of entries.  The first call is fed some
entries, each next one the text so far and the entries that follow, until all of them were fed, in
their order and each of them once.  What it means for a call to be fed entries is said of the
request itself: the speaker and the content of each entry stand in it, one entry after the other,
cut off where a content is longer than the model's chunk allows.

Two refreshes may run at once when a lock is lost, and the later one may store a text that covers
less than the one it replaces.  That is not excluded.  But whichever row is stored, its text and its
anchor belong together, because both come from one call, which has made the text from the entries
that lead to this anchor.  A call that goes on from a stored text goes on behind its anchor, and
entries up to an anchor never change, since turns that are completed stay and new ones are added
behind them.  So the digest of the stored row is extended, and the invariant for the call that reads
a row is the invariant of the row.

If the anchor of a row is not among the entries, the call begins anew.

* `overviewFrame`, `summarizes` — a model call: what it is fed, and the text made of its answer.
* `BodyPhase.Sound` — the invariant: what a call holds at an `await` is a digest of the entries
  before those it has yet to feed.
* `refreshes_safe` — the main result, with what `SummaryTraces` says of the calls.
-/

namespace RagStack

/-! ## Entries of the completed turns

What is completed stays at the front of the list when the chat grows. -/

lemma toHistoryEntries_eq_ok {messages : List Message} {entries : List ChatHistoryEntry}
    (h : toHistoryEntries messages = .ok entries) : entries.map .ok = turnEntries messages :=
  (mapM_eq_ok_iff.mp h).symm

lemma completedTurns_sublist (messages : List Message) :
    (completedTurns messages).Sublist messages := by
  induction messages with
  | nil => exact List.Sublist.refl _
  | cons message rest ih =>
      simp only [completedTurns]
      split
      · exact ih.cons_cons message
      · exact ih.cons message

/-- Entries keep the ids of their rows. -/
lemma map_id_of_map_ok {turns : List Message} {items : List ChatHistoryEntry}
    (h : items.map .ok = turns.map toHistoryEntry) :
    items.map ChatHistoryEntry.id = turns.map Message.id := by
  induction turns generalizing items with
  | nil =>
      rw [List.map_nil, List.map_eq_nil_iff] at h
      rw [h]
      rfl
  | cons turn turns ih =>
      cases items with
      | nil => cases h
      | cons item items =>
          rw [List.map_cons, List.map_cons, List.cons.injEq] at h
          have hid : item.id = turn.id := by
            rw [toHistoryEntry_eq_ok h.1.symm]
            exact entryOf_id turn
          rw [List.map_cons, List.map_cons, hid, ih h.2]

/-- The ids of entries are keys, since those of the messages are. -/
lemma ChatMessages.nodup_entries (messages : ChatMessages) {items : List ChatHistoryEntry}
    (h : items.map .ok <+: turnEntries messages.rows) : (items.map ChatHistoryEntry.id).Nodup := by
  have hitems : items.map .ok
      = ((completedTurns messages.rows).take items.length).map toHistoryEntry := by
    have htake := List.prefix_iff_eq_take.mp h
    rwa [List.length_map, turnEntries, ← List.map_take] at htake
  rw [map_id_of_map_ok hitems]
  refine messages.nodup.sublist (List.Sublist.map _ ?_)
  exact (List.take_sublist _ _).trans (completedTurns_sublist messages.rows)

/-! ## Model calls

The chain and what a single call contributes to it. -/

/-- A model call, with its answer. -/
abbrev AnsweredCall : Type := CompletionRequest × OllamaCompletion

/-- The model calls that were answered, in the order of their answers. -/
def modelCalls (events : List (ℕ × RefreshEvent)) : List AnsweredCall :=
  events.filterMap fun event =>
    match event.2 with
    | .Answered request result => some (request, result)
    | _ => none

@[simp] lemma modelCalls_append (events events' : List (ℕ × RefreshEvent)) :
    modelCalls (events ++ events') = modelCalls events ++ modelCalls events' :=
  List.filterMap_append

/-- The frame of an overview for the administrator. -/
def overviewFrame : RequestFrame where
  instructions := adminSummaryInstructions
  before
    | none => js "Conversation transcript:\n<transcript>\n"
    | some previous =>
        js "Existing overview:\n<overview>\n" ++ previous
          ++ js "\n</overview>\n\nNew messages:\n<transcript>\n"
  behind
    | none =>
        js "\n</transcript>\n\n" ++ transcriptNotice
          ++ js " Write the administrator overview now. "
          ++ js "Cover every topic from start to end, not only the last message."
    | some _ =>
        js "\n</transcript>\n\n" ++ transcriptNotice
          ++ js " Write the updated administrator overview now, as one overview covering both."

/-- **The overview** is asked for with a request that feeds the entries. -/
lemma buildAdminSummaryRequest_feeds {maxChars : ℚ} (hmax : 0 ≤ maxChars)
    (previous : Option JsString) (entries : List ChatHistoryEntry) :
    overviewFrame.Feeds maxChars previous entries
      (buildAdminSummaryRequest previous entries maxChars) := by
  refine ⟨_, formatTranscript_isTranscript hmax entries, ?_⟩
  cases previous with
  | none => simp [buildAdminSummaryRequest, overviewFrame]
  | some text => simp [buildAdminSummaryRequest, overviewFrame]

/-- A model call that was fed the text so far and some entries, each of them with its speaker and as
much of its content as fills a chunk of the model that was asked, and what is made of its answer. -/
def summarizes (settings : ContextSettings) (previous : Option JsString)
    (entries : List ChatHistoryEntry) (call : AnsweredCall) (text : JsString) : Prop :=
  overviewFrame.Feeds (entryLimit settings call.1.contextTokens) previous entries call.1.messages
    ∧ text = cleanAdminSummary call.2.content

/-- The text is a digest of the completed turns up to the anchor. -/
abbrev SummarizesThrough (settings : ContextSettings) (calls : List AnsweredCall)
    (source : List (Except JsError ChatHistoryEntry)) (anchor : Uuid) (text : JsString) : Prop :=
  DigestedThrough (summarizes settings) ChatHistoryEntry.id .ok calls source anchor text

/-- A call has the text so far, and `remaining` is what it has yet to feed. -/
def Underway (settings : ContextSettings) (calls : List AnsweredCall)
    (source : List (Except JsError ChatHistoryEntry)) (lastEntry : ChatHistoryEntry)
    (remaining : List ChatHistoryEntry) (content : Option JsString) : Prop :=
  ∃ before, (before ++ remaining).map .ok <+: source
    ∧ (before ++ remaining).getLast? = some lastEntry
    ∧ DigestProgress (summarizes settings) calls before content

/-- **The invariant**: what a call holds at an `await`. -/
def BodyPhase.Sound (settings : ContextSettings) (calls : List AnsweredCall)
    (source : List (Except JsError ChatHistoryEntry)) : BodyPhase → Prop
  | Loading summary messages =>
      (∀ row, summary = some (some row) →
        SummarizesThrough settings calls source row.summarizedThroughMessageId row.content)
      ∧ ∀ rows, messages = some rows → turnEntries rows <+: source
  | Choosing previous pending =>
      ∃ before, (before ++ pending).map .ok <+: source
        ∧ DigestProgress (summarizes settings) calls before (previous.map (·.content))
  | Completing _ lastEntry content chunk chunks =>
      Underway settings calls source lastEntry (chunk ++ chunks.flatten) content
  | Recording _ lastEntry result _ chunks =>
      Underway settings calls source lastEntry chunks.flatten
        (some (cleanAdminSummary result.content))
  | Upserting _ lastEntry content _ =>
      SummarizesThrough settings calls source lastEntry.id content
  | Rechecking _ | Reloading _ => True

section Body

variable {settings : ContextSettings} {calls calls' : List AnsweredCall}
  {source source' : List (Except JsError ChatHistoryEntry)}

lemma Underway.mono {lastEntry : ChatHistoryEntry} {remaining : List ChatHistoryEntry}
    {content : Option JsString} (hcalls : calls.Sublist calls') (hsource : source <+: source')
    (h : Underway settings calls source lastEntry remaining content) :
    Underway settings calls' source' lastEntry remaining content := by
  obtain ⟨before, hbefore, hlast, hprogress⟩ := h
  exact ⟨before, hbefore.trans hsource, hlast, hprogress.mono hcalls⟩

/-- Other calls and new turns take nothing from it. -/
lemma BodyPhase.Sound.mono {phase : BodyPhase} (hcalls : calls.Sublist calls')
    (hsource : source <+: source') (h : phase.Sound settings calls source) :
    phase.Sound settings calls' source' := by
  cases phase with
  | Loading summary messages =>
      refine ⟨fun row hrow => (h.1 row hrow).mono hcalls hsource, fun rows hrows => ?_⟩
      exact (h.2 rows hrows).trans hsource
  | Choosing previous pending =>
      obtain ⟨before, hbefore, hprogress⟩ := h
      exact ⟨before, hbefore.trans hsource, hprogress.mono hcalls⟩
  | Completing | Recording => exact Underway.mono hcalls hsource h
  | Upserting => exact DigestedThrough.mono hcalls hsource h
  | Rechecking | Reloading => trivial

lemma Underway.answered {model : Model} {lastEntry : ChatHistoryEntry}
    {chunk rest : List ChatHistoryEntry} {content : Option JsString} (result : OllamaCompletion)
    (h : Underway settings calls source lastEntry (chunk ++ rest) content) :
    Underway settings (calls ++ [(completionRequest settings model content chunk, result)]) source
      lastEntry rest (some (cleanAdminSummary result.content)) := by
  obtain ⟨before, hbefore, hlast, hprogress⟩ := h
  refine ⟨before ++ chunk, ?_, ?_, hprogress.answered
    ⟨buildAdminSummaryRequest_feeds (entryLimit_nonneg settings _) content chunk, rfl⟩⟩
  · rwa [List.append_assoc]
  · rwa [List.append_assoc]

lemma Underway.done {lastEntry : ChatHistoryEntry} {content : JsString}
    (h : Underway settings calls source lastEntry [] (some content)) :
    SummarizesThrough settings calls source lastEntry.id content := by
  obtain ⟨before, hbefore, hlast, hprogress⟩ := h
  rw [List.append_nil] at hbefore hlast
  exact ⟨before, hbefore, by rw [hlast]; rfl, hprogress⟩

lemma nextChunk_sound {lastEntry : ChatHistoryEntry} {content : Option JsString}
    {chunks : List (List ChatHistoryEntry)} (model : Model) (tokenCount : ℤ)
    (h : Underway settings calls source lastEntry chunks.flatten content) {phase : BodyPhase}
    (hnext : (nextChunk settings model lastEntry content tokenCount chunks).1 = .Await phase) :
    phase.Sound settings calls source := by
  cases chunks with
  | cons chunk chunks =>
      cases hnext
      exact h
  | nil =>
      cases content with
      | none => cases hnext
      | some content =>
          cases hnext
          exact h.done

lemma afterDefault_sound {previous : Option AdminChatSummaryWithModel}
    {pending : List ChatHistoryEntry} (model : Model)
    (h : (BodyPhase.Choosing previous pending).Sound settings calls source) {phase : BodyPhase}
    (hnext : (afterDefault settings previous pending model).1 = .Await phase) :
    phase.Sound settings calls source := by
  simp only [afterDefault] at hnext
  split at hnext
  · cases hnext
  · rename_i lastEntry hlast
    refine nextChunk_sound _ _ ?_ hnext
    obtain ⟨before, hbefore, hprogress⟩ := h
    rw [chunkEntries_flatten]
    refine ⟨before, hbefore, ?_, hprogress⟩
    rw [List.getLast?_append, hlast]
    rfl

/-- **The anchor.**  A summary whose anchor is among the entries goes on behind it; otherwise the
call begins anew with all entries. -/
lemma resume_sound {row : AdminChatSummaryWithModel} {entries : List ChatHistoryEntry}
    (hnodup : ∀ items : List ChatHistoryEntry, items.map .ok <+: source →
      (items.map ChatHistoryEntry.id).Nodup)
    (hsummary : SummarizesThrough settings calls source row.summarizedThroughMessageId row.content)
    (hentries : entries.map .ok <+: source) :
    ∃ before, (before ++ entriesAfter entries (some row.summarizedThroughMessageId)).map .ok
        <+: source
      ∧ DigestProgress (summarizes settings) calls before
        ((if entries.any fun entry => some entry.id = some row.summarizedThroughMessageId
          then some row else none).map (·.content)) := by
  by_cases hmem : row.summarizedThroughMessageId ∈ entries.map ChatHistoryEntry.id
  · have hany : (entries.any fun entry =>
        some entry.id = some row.summarizedThroughMessageId) = true := by
      obtain ⟨entry, hentry, hid⟩ := List.mem_map.mp hmem
      exact List.any_eq_true.mpr ⟨entry, hentry, by simp [hid]⟩
    obtain ⟨front, last, rest, rfl, hlast, hdigest⟩ :=
      hsummary.resume (fun _ _ => Except.ok.inj) hentries hnodup hmem
    rw [if_pos hany, ← hlast, entriesAfter_eq_of_anchor (hnodup _ hentries)]
    exact ⟨front ++ [last], by simpa using hentries, hdigest⟩
  · have hany : ¬ (entries.any fun entry =>
        some entry.id = some row.summarizedThroughMessageId) = true := by
      intro hany
      obtain ⟨entry, hentry, hid⟩ := List.any_eq_true.mp hany
      exact hmem (List.mem_map.mpr ⟨entry, hentry, by simpa using hid⟩)
    rw [if_neg hany, entriesAfter_of_not_mem hmem]
    exact ⟨[], hentries, rfl⟩

lemma afterLoad_sound {summary : Option AdminChatSummaryWithModel} {messages : List Message}
    (hnodup : ∀ items : List ChatHistoryEntry, items.map .ok <+: source →
      (items.map ChatHistoryEntry.id).Nodup)
    (hsummary : ∀ row, summary = some row →
      SummarizesThrough settings calls source row.summarizedThroughMessageId row.content)
    (hmessages : turnEntries messages <+: source) {phase : BodyPhase}
    (hnext : (afterLoad summary messages).1 = .Await phase) :
    phase.Sound settings calls source := by
  simp only [afterLoad] at hnext
  split at hnext
  · cases hnext
  · rename_i entries hentries
    rw [← toHistoryEntries_eq_ok hentries] at hmessages
    dsimp only at hnext
    split at hnext
    · cases hnext
      cases summary with
      | none =>
          refine ⟨[], hmessages, ?_⟩
          rw [ite_self]
          rfl
      | some row => exact resume_sound hnodup (hsummary row rfl) hmessages
    · cases hnext

lemma loaded_sound {summary : Option (Option AdminChatSummaryWithModel)}
    {messages : Option (List Message)}
    (hnodup : ∀ items : List ChatHistoryEntry, items.map .ok <+: source →
      (items.map ChatHistoryEntry.id).Nodup)
    (h : (BodyPhase.Loading summary messages).Sound settings calls source) {phase : BodyPhase}
    (hnext : (loaded summary messages).1 = .Await phase) : phase.Sound settings calls source := by
  simp only [loaded] at hnext
  split at hnext
  · rename_i summary messages
    exact afterLoad_sound hnodup (fun row hrow => h.1 row (congrArg some hrow))
      (h.2 messages rfl) hnext
  · cases hnext
    exact h

/-- **The `try` block** keeps the invariant, if its reads tell the truth. -/
lemma bodyStep_sound {phase : BodyPhase} {answer : RefreshAnswer}
    {resumed : BodyNext × List RefreshEvent}
    (hnodup : ∀ items : List ChatHistoryEntry, items.map .ok <+: source →
      (items.map ChatHistoryEntry.id).Nodup)
    (hsummary : ∀ row, answer = .Summary (some row) →
      SummarizesThrough settings calls source row.summarizedThroughMessageId row.content)
    (hmessages : ∀ messages, answer = .Messages messages → turnEntries messages <+: source)
    (h : phase.Sound settings calls source)
    (hstep : bodyStep settings phase answer = some resumed) (i : ℕ) {next : BodyPhase}
    (hnext : resumed.1 = .Await next) :
    next.Sound settings (calls ++ modelCalls (resumed.2.map (i, ·))) source := by
  have hmono : next.Sound settings calls source →
      next.Sound settings (calls ++ modelCalls (resumed.2.map (i, ·))) source :=
    BodyPhase.Sound.mono (List.sublist_append_left _ _) (List.prefix_refl source)
  simp only [bodyStep] at hstep
  split at hstep <;> cases hstep
  case h_1 summary =>
    refine hmono (loaded_sound hnodup ⟨?_, h.2⟩ hnext)
    rintro row ⟨⟩
    exact hsummary row rfl
  case h_2 messages =>
    refine hmono (loaded_sound hnodup ⟨h.1, ?_⟩ hnext)
    rintro rows ⟨⟩
    exact hmessages _ rfl
  case h_3 => exact hmono (afterDefault_sound _ h hnext)
  case h_4 =>
    cases hnext
    exact Underway.answered _ h
  case h_5 =>
    unfold afterRecord at hnext
    dsimp only at hnext
    split at hnext
    · cases hnext
    · exact hmono (nextChunk_sound _ _ h hnext)
  case h_8 saved messages =>
    obtain ⟨outcome, houtcome⟩ := afterReload_finish saved messages
    cases houtcome ▸ hnext
  all_goals cases hnext
  all_goals trivial

/-- **A call** keeps it too: before the lock it holds nothing, after the body it feeds nothing. -/
lemma refreshStep_sound {phase : RefreshPhase} {answer : RefreshAnswer}
    {resumed : RefreshPhase × List RefreshEvent}
    (hnodup : ∀ items : List ChatHistoryEntry, items.map .ok <+: source →
      (items.map ChatHistoryEntry.id).Nodup)
    (hsummary : ∀ row, answer = .Summary (some row) →
      SummarizesThrough settings calls source row.summarizedThroughMessageId row.content)
    (hmessages : ∀ messages, answer = .Messages messages → turnEntries messages <+: source)
    (h : ∀ lock body, phase = .Trying lock body → body.Sound settings calls source)
    (hstep : refreshStep settings phase answer = some resumed) (i : ℕ) {lock : TokenLock}
    {next : BodyPhase} (hnext : resumed.1 = .Trying lock next) :
    next.Sound settings (calls ++ modelCalls (resumed.2.map (i, ·))) source := by
  rcases refreshStep_eq_trying hstep hnext with ⟨-, rfl, -⟩ | ⟨body, rfl, hbody⟩
  · refine ⟨?_, ?_⟩
    · rintro row ⟨⟩
    · rintro rows ⟨⟩
  · exact bodyStep_sound hnodup hsummary hmessages (h lock body rfl) hbody i rfl

end Body

/-! ## The system

A read gives a call what the row says, and an upsert gives the row what a call holds. -/

/-- **The invariant of the system**: the row, and what the calls hold. -/
structure SummarySystem.Sound (settings : ContextSettings) (s : SummarySystem) : Prop where
  row : ∀ chat row, s.chat = some chat → chat.summary = some row →
    SummarizesThrough settings (modelCalls s.events) (turnEntries chat.messages.rows)
      row.summarizedThroughMessageId row.content
  body : ∀ chat lock (phase : BodyPhase), s.chat = some chat → .Trying lock phase ∈ s.calls →
    phase.Sound settings (modelCalls s.events) (turnEntries chat.messages.rows)

section System

variable {settings : ContextSettings} {chatId : String} {lockTtlMs : ℤ} {s s' : SummarySystem}

lemma SummarySystem.Sound.initial (messages : ChatMessages) (store : LeaseStore String String) :
    (SummarySystem.initial messages store).Sound settings where
  row chat row hchat hrow := by
    cases hchat
    cases hrow
  body chat lock phase hchat hcall := by cases hcall

/-- What a call reads is what the invariant says of the row and of the messages. -/
lemma SummarySystem.Sound.resumed {i : ℕ} {phase next : RefreshPhase} {answer : RefreshAnswer}
    {resumed : List RefreshEvent} {chat : ChatRecord} (h : s.Sound settings)
    (hchat : s.chat = some chat) (hcall : s.calls[i]? = some phase)
    (hsees : answer.Sees s.chat) (hstep : refreshStep settings phase answer = some (next, resumed))
    {lock : TokenLock} {body : BodyPhase} (hbody : next = .Trying lock body) :
    body.Sound settings (modelCalls s.events ++ modelCalls (resumed.map (i, ·)))
      (turnEntries chat.messages.rows) := by
  refine refreshStep_sound (fun items => chat.messages.nodup_entries) ?_ ?_ ?_ hstep i hbody
  · rintro row rfl
    rw [hchat] at hsees
    exact h.row chat row.toAdminChatSummary hchat hsees.symm
  · rintro messages rfl
    rw [hchat] at hsees
    rw [show messages = chat.messages.rows from hsees]
  · rintro lock body rfl
    exact h.body chat lock body hchat (List.mem_of_getElem? hcall)

lemma Performed.messages {chat chat' : Option ChatRecord} {phase : RefreshPhase}
    {answer : RefreshAnswer} {performed : List RefreshEvent}
    (h : Performed chat phase answer chat' performed) {record : ChatRecord}
    (hrecord : chat' = some record) :
    ∃ record', chat = some record' ∧ record.messages = record'.messages := by
  cases h with
  | read hsees => exact ⟨record, hrecord, rfl⟩
  | upsert hsees =>
      cases hrecord
      exact ⟨_, rfl, rfl⟩

/-- An operation that is executed is no answer of the model. -/
lemma Performed.modelCalls {chat chat' : Option ChatRecord} {phase : RefreshPhase}
    {answer : RefreshAnswer} {performed : List RefreshEvent}
    (h : Performed chat phase answer chat' performed) (i : ℕ) :
    RagStack.modelCalls (performed.map (i, ·)) = [] := by
  cases h with
  | read hsees => rfl
  | upsert hsees => rfl

/-- The row after an operation: an upsert stores what its call holds. -/
lemma Performed.row {i : ℕ} {phase : RefreshPhase} {answer : RefreshAnswer}
    {performed : List RefreshEvent} {chat' : Option ChatRecord}
    (hperformed : Performed s.chat phase answer chat' performed) (h : s.Sound settings)
    (hcall : s.calls[i]? = some phase) {record : ChatRecord} {row : AdminChatSummary}
    (hrecord : chat' = some record) (hrow : record.summary = some row) :
    SummarizesThrough settings (RagStack.modelCalls s.events) (turnEntries record.messages.rows)
      row.summarizedThroughMessageId row.content := by
  generalize hchat : s.chat = chat at hperformed
  cases hperformed with
  | read hsees =>
      rw [hrecord] at hchat
      exact h.row record row hchat hrow
  | upsert hsees =>
      cases hrecord
      cases hrow
      exact h.body _ _ _ hchat (List.mem_of_getElem? hcall)

/-- **Every step** keeps the invariant. -/
lemma SummaryMoves.sound (hmove : SummaryMoves settings s s') (h : s.Sound settings) :
    s'.Sound settings := by
  cases hmove with
  | called =>
      refine ⟨h.row, fun chat lock phase hchat hcall => ?_⟩
      rcases List.mem_append.mp hcall with hcall | hcall
      · exact h.body chat lock phase hchat hcall
      · cases List.mem_singleton.mp hcall
  | @resumed i phase next answer chat store performed resumed hcall hperformed hresumed =>
      have hcalls : modelCalls (s.events ++ (performed ++ resumed).map (i, ·))
          = modelCalls s.events ++ modelCalls (resumed.map (i, ·)) := by
        rw [modelCalls_append, List.map_append, modelCalls_append, hperformed.modelCalls,
          List.nil_append]
      refine ⟨?_, ?_⟩
      · intro record row hrecord hrow
        rw [hcalls]
        exact (hperformed.row h hcall hrecord hrow).mono (List.sublist_append_left _ _)
          (List.prefix_refl _)
      · intro record lock body hrecord hbody
        obtain ⟨record', hchat, hmessages⟩ := hperformed.messages hrecord
        rw [hcalls, hmessages]
        rcases List.mem_or_eq_of_mem_set hbody with hold | hnew
        · exact (h.body record' lock body hchat hold).mono (List.sublist_append_left _ _)
            (List.prefix_refl _)
        · exact h.resumed hchat hcall hperformed.sees hresumed hnew.symm
  | leased => exact ⟨h.row, h.body⟩
  | @grown chat messages hchat hgrown =>
      refine ⟨?_, ?_⟩
      · rintro record row ⟨⟩ hrow
        exact (h.row chat row hchat hrow).mono (List.Sublist.refl _) hgrown
      · rintro record lock phase ⟨⟩ hcall
        exact (h.body chat lock phase hchat hcall).mono (List.Sublist.refl _) hgrown
  | deleted =>
      refine ⟨?_, ?_⟩
      · rintro record row ⟨⟩
      · rintro record lock phase ⟨⟩

/-- **Every run** keeps the invariant. -/
theorem summaryStep_sound {messages : ChatMessages} {store : LeaseStore String String}
    {actions : List SummaryAction}
    (hrun : runSteps (summaryStep settings chatId lockTtlMs)
      (SummarySystem.initial messages store) actions = some s) : s.Sound settings := by
  refine runSteps_invariant (fun s action s' h hstep => ?_) hrun (.initial messages store)
  exact (summaryStep_moves hstep).sound h

/-! ## The main result

Five properties of every state, the first of which is the chain. -/

/-- What holds in every state: where the stored text comes from, that the row is the one stored
last, and what the events of each call are. -/
structure RefreshesSafe (settings : ContextSettings) (s : SummarySystem) : Prop where
  /-- The stored text is what a chain of model calls made of the completed turns up to the stored
  anchor. -/
  chained : ∀ chat row, s.chat = some chat → chat.summary = some row →
    SummarizesThrough settings (modelCalls s.events) (turnEntries chat.messages.rows)
      row.summarizedThroughMessageId row.content
  /-- The row is the one that was stored last. -/
  last : ∀ chat, s.chat = some chat → chat.summary = (storedRows s.events).getLast?
  /-- A call that fails at a chunk stores nothing. -/
  failed : ∀ i error, .ChunkFailed error ∈ eventsOf i s.events →
    ∀ row, .Stored row ∉ eventsOf i s.events
  /-- A call that finds nothing pending makes no model call. -/
  idle : ∀ i, .Found [] ∈ eventsOf i s.events →
    ∀ request, .Invoked request ∉ eventsOf i s.events
  /-- A call that took the lock releases it once, and settles after that. -/
  released : ∀ i before outcome rest,
    eventsOf i s.events = before ++ .Settled outcome :: rest →
      .LockTaken ∈ eventsOf i s.events → before.count .Released = 1 ∧ rest = []

/-- An event of a call comes from a call that has begun. -/
lemma SummarySystem.Traced.exists_phase (h : s.Traced) {i : ℕ} {event : RefreshEvent}
    (hevent : event ∈ eventsOf i s.events) :
    ∃ phase : RefreshPhase, phase.Traced (eventsOf i s.events) := by
  cases hcall : s.calls[i]? with
  | none =>
      rw [h.unbegun i (List.getElem?_eq_none_iff.mp hcall)] at hevent
      cases hevent
  | some phase => exact ⟨phase, h.call i phase hcall⟩

/-- **Refreshes of one chat**, any number of them in any interleaving, with the lock running out and
the completed turns growing.  The stored text is always a digest of the turns up to its anchor, and
each call keeps to its order: it calls the model only for pending entries, stores nothing after a
failure, and releases its lock once. -/
theorem refreshes_safe {messages : ChatMessages} {store : LeaseStore String String}
    {actions : List SummaryAction}
    (hrun : runSteps (summaryStep settings chatId lockTtlMs)
      (SummarySystem.initial messages store) actions = some s) : RefreshesSafe settings s := by
  have htraced : s.Traced := summaryStep_traced hrun
  refine ⟨(summaryStep_sound hrun).row, htraced.row, ?_, ?_, ?_⟩
  · intro i error hfailed
    obtain ⟨phase, hphase⟩ := htraced.exists_phase hfailed
    exact hphase.failed hfailed
  · intro i hfound
    obtain ⟨phase, hphase⟩ := htraced.exists_phase hfound
    exact hphase.idle hfound
  · intro i before outcome rest hsettled htaken
    obtain ⟨phase, hphase⟩ := htraced.exists_phase htaken
    exact hphase.released hsettled htaken

end System

/-! ### A race -/

def completedRow (id : Uuid) (role : MessageRole) (content model : String) : Message where
  id := id
  chatId := 0
  role := role
  status := .Completed
  content := js content
  model := some model
  tokenCount := none
  tokenCountSource := .Unknown
  promptTokens := none
  completionTokens := none
  totalTokens := none
  finishReason := none
  errorCode := none
  createdAt := id
  updatedAt := id

/-- One turn. -/
def oneTurn : ChatMessages where
  rows := [completedRow 1 .User "Q1" "m", completedRow 2 .Assistant "R1" "m"]
  nodup := by decide

/-- A second turn. -/
def twoTurns : ChatMessages where
  rows := oneTurn.rows ++ [completedRow 3 .User "Q2" "m", completedRow 4 .Assistant "R2" "m"]
  nodup := by decide

/-- A refresh up to its model call. -/
def refreshUntilCompletion (call : ℕ) (token : String) : List SummaryAction :=
  [.Call, .Await call .ChatExists none, .Await call (.Acquire token) none,
    .Await call .FindMessages none, .Await call (.FindSummary "m") none,
    .Await call (.GetDefault ⟨0, "m", 8192, true⟩) none]

/-- The answer of the model, and the rest of a refresh that stores it. -/
def refreshAfterCompletion (call : ℕ) (text : String) : List SummaryAction :=
  [.Await call (.Complete ⟨js text, none, some 1⟩) none, .Await call .Record none,
    .Await call (.Upsert 5 "m") none, .Await call .FindMessages none, .Await call .Release none]

/-- The lock runs out while the first refresh waits for the model.  The second one reads a turn more
and stores first, then the first one stores less; the model fails the third, and the fourth goes on
from what the first has stored. -/
def racingRefreshes : List SummaryAction :=
  refreshUntilCompletion 0 "a"
    ++ [.Heartbeat 0, .Expire (adminSummaryLockKey "c"), .Extend 0, .Grow twoTurns]
    ++ refreshUntilCompletion 1 "b" ++ refreshAfterCompletion 1 "both"
    ++ refreshAfterCompletion 0 "one"
    ++ refreshUntilCompletion 2 "d"
    ++ [.Await 2 (.Complete ⟨js "User: Q2", none, none⟩) none, .Await 2 .Record none,
      .Await 2 .Release none]
    ++ refreshUntilCompletion 3 "e" ++ refreshAfterCompletion 3 "two"
    ++ [.Call, .Await 4 .ChatExists none, .Await 4 (.Acquire "f") none,
      .Await 4 .FindMessages none, .Await 4 (.FindSummary "m") none, .Await 4 .Release none]

theorem refreshes_safe_race :
    ∃ s, runSteps (summaryStep ContextSettings.defaults "c" 1000)
        (SummarySystem.initial oneTurn fun _ => none) racingRefreshes = some s
      ∧ storedRows s.events =
        [⟨js "both", 4, 0, 1, 5⟩, ⟨js "one", 2, 0, 1, 5⟩, ⟨js "two", 4, 0, 1, 5⟩]
      ∧ RefreshesSafe ContextSettings.defaults s := by
  have hrun : (runSteps (summaryStep ContextSettings.defaults "c" 1000)
      (SummarySystem.initial oneTurn fun _ => none) racingRefreshes).map
        (fun s => storedRows s.events)
      = some [⟨js "both", 4, 0, 1, 5⟩, ⟨js "one", 2, 0, 1, 5⟩, ⟨js "two", 4, 0, 1, 5⟩] := by
    decide +kernel
  obtain ⟨s, hs, hrows⟩ := Option.map_eq_some_iff.mp hrun
  exact ⟨s, hs, hrows, refreshes_safe hs⟩

end RagStack
