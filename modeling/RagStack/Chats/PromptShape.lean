import RagStack.Chats.CacheCoherence
import RagStack.Chats.Lemmas.History
import RagStack.Chats.SummaryMemory
import Mathlib.Data.List.Flatten

/-!
# What the model is asked

A chat grows by turns, so its history does, and every cut that `buildPrompt` makes is at a turn
boundary.  Hence a request to the model is a summary, whole answered turns and the new message —
after the first prompt of `createChat`, which has no reply and which the filter keeps.

Whether the model can be shown a prompt that it has not answered is decided by several parts of the
program together, none of which looks at the whole request: the two transactions that write rows,
the filter, the anchor, the fold, and the dropping of turns.  What holds them together is the notion
of a turn.  The rows are turns, the filter keeps or drops turns, the anchor ends one, the fold and
the drop cut between two.  Each part has one lemma to that effect, and the run puts them in order.

A run that fails leaves a turn behind that is not answered, and the next run works on a table with
one more turn.  So the invariant between runs does not speak of completed turns, only of turns, and
the history is what the filter makes of them.  For this the history has to come from PostgreSQL: a
stale cache can show anything that was once right.

The first prompt of `createChat` is the exception that the program makes on purpose: it is kept
without a reply, and the next message is sent after it.

* `TableShape` — the rows of the chat are a first prompt and turns, in the order they are read.
* `Requesting` — the invariant inside a run: the table, the anchor of the stored summary, and the
  shape of the requests so far; `Settled` is what it leaves between two runs.
* `stream_settled` — one run, whatever its outcome, takes the invariant between runs to itself.
* `prompt_shape_run` — hence every request of every sequence of runs has the shape.
* `prompt_unansweredFirstPrompt` — a chat created with a first prompt: the model sees two user
  messages in a row.
-/

namespace RagStack

/-! ## Statement -/

/-- The order of creation is the order in which `findMessagesForHistory` reads: by time, and within
one time by id. -/
def RowSupply.Ordered (supply : RowSupply) : Prop :=
  ∀ i j, i < j → supply.createdAt i < supply.createdAt j
    ∨ supply.createdAt i = supply.createdAt j ∧ supply.id i ≤ supply.id j

/-- The two rows were created by one `beginGeneration` of the chat, prompt first. -/
structure Turn.Begun (t : Turn) (chatId : Uuid) (table : MessageTable) : Prop
    extends t.WellFormed where
  promptMem : t.prompt ∈ table.rows ∧ t.prompt.chatId = chatId
  replyMem : t.reply ∈ table.rows ∧ t.reply.chatId = chatId
  together : ∃ n, t.prompt.id = table.supply.id n ∧ t.reply.id = table.supply.id (n + 1)

/-- The messages of an answered turn. -/
def Turn.messages (t : Turn) : List OllamaHistoryMessage :=
  [⟨.User, t.prompt.content⟩, ⟨.Assistant, t.reply.content⟩]

/-- **The shape of a request.**  A summary if there is one; the first prompt of the chat if it has
one and it was not cut off; answered turns; the new message, whose reply is STREAMING.  Without a
`firstPrompt` users and assistants alternate, and no prompt but the last is unanswered. -/
def PromptShape (chatId : Uuid) (firstPrompt : Option JsString) (table : MessageTable)
    (messages : List OllamaHistoryMessage) : Prop :=
  ∃ (summary : Option JsString) (first : Option Message) (answered : List Turn) (current : Turn),
    messages = (summary.map fun text => ⟨.System, formatSummaryMessage text⟩).toList
        ++ (first.map fun m => ⟨.User, m.content⟩).toList
        ++ answered.flatMap Turn.messages ++ [⟨.User, current.prompt.content⟩]
      ∧ (∀ m ∈ first, JsString.truthy firstPrompt = some m.content)
      ∧ (∀ t ∈ answered, t.Begun chatId table ∧ t.reply.status = .Completed)
      ∧ current.Begun chatId table ∧ current.reply.status = .Streaming

/-- Every request in the trace has the shape, judged by the messages as they were when it was
issued. -/
def RequestsShaped (chatId : Uuid) (firstPrompt : Option JsString) (w : World) : Prop :=
  ∀ entry ∈ w.trace, ∀ model messages contextTokens,
    entry.call = .OllamaStreamChat model messages contextTokens →
      PromptShape chatId firstPrompt entry.before.messages messages

/-- No `get` returns a cached history of the chat: the history is read from PostgreSQL. -/
def HistoryFromPostgres (env : Env) (chatId : Uuid) : Prop :=
  ∀ t, env.verdict t (.RedisGet (.Chat chatId)) = .Resolves →
    env.expired (t + 1) (.Chat chatId) = true

/-! ## The table

Rows of a chat in the order in which they are read, whatever else is in the table. -/

/-- The rows of a chat, when it was written by `createChat` and `beginGeneration` only. -/
structure TableShape (chatId : Uuid) (first : Option Message) (turns : List Turn)
    (table : MessageTable) : Prop where
  rows : table.rows.filter (·.chatId = chatId) = chatRows first turns
  firstPrompt : FirstPrompt first
  eachTurn : ∀ t ∈ turns, t.WellFormed
    ∧ ∃ n, t.prompt.id = table.supply.id n ∧ t.reply.id = table.supply.id (n + 1)
  issued : ∀ m ∈ chatRows first turns, ∃ n < table.inserted,
    m.id = table.supply.id n ∧ m.createdAt = table.supply.createdAt n
  sorted : (chatRows first turns).Pairwise Message.precedes

namespace TableShape

variable {chatId : Uuid} {first : Option Message} {turns : List Turn} {table : MessageTable}

lemma wellFormed (h : TableShape chatId first turns table) : ∀ t ∈ turns, t.WellFormed :=
  fun t ht => (h.eachTurn t ht).1

lemma mem (h : TableShape chatId first turns table) {m : Message} (hm : m ∈ chatRows first turns) :
    m ∈ table.rows ∧ m.chatId = chatId := by
  rw [← h.rows, List.mem_filter, decide_eq_true_iff] at hm
  exact hm

lemma nodup (h : TableShape chatId first turns table) :
    ((chatRows first turns).map Message.id).Nodup := by
  rw [← h.rows]
  exact table.nodup.sublist (List.filter_sublist.map Message.id)

lemma begun (h : TableShape chatId first turns table) {t : Turn} (ht : t ∈ turns) :
    t.Begun chatId table := by
  have hrows : ∀ m ∈ t.rows, m ∈ chatRows first turns := fun m hm =>
    List.mem_append_right _ (List.mem_flatMap.mpr ⟨t, ht, hm⟩)
  exact ⟨(h.eachTurn t ht).1, h.mem (hrows _ (by simp [Turn.rows])),
    h.mem (hrows _ (by simp [Turn.rows])), (h.eachTurn t ht).2⟩

/-- The history of the chat is its first prompt and its answered turns. -/
lemma history {s : Stores} (h : TableShape chatId first turns s.messages)
    {history : List ChatHistoryEntry} (hhistory : s.history chatId = .ok history) :
    history = chatEntries first (turns.filter Turn.answered) := by
  simp only [Stores.history, Stores.messagesForHistory] at hhistory
  rw [h.rows, List.Pairwise.insertionSort_eq h.sorted] at hhistory
  exact toHistoryEntries_turns h.firstPrompt h.wellFormed hhistory

/-- The entries of the history have distinct ids. -/
lemma nodup_history (h : TableShape chatId first turns table) :
    ((chatEntries first (turns.filter Turn.answered)).map ChatHistoryEntry.id).Nodup := by
  have hids : (chatEntries first (turns.filter Turn.answered)).map ChatHistoryEntry.id
      = (chatRows first (turns.filter Turn.answered)).map Message.id := by
    rw [List.map_map]
    exact List.map_congr_left fun m _ => entryOf_id m
  rw [hids]
  refine h.nodup.sublist (List.Sublist.map _ (List.Sublist.append_left ?_ _))
  exact List.filter_sublist.flatMap Turn.rows

/-- A new row of the chat is read after the others. -/
lemma append_sorted (h : TableShape chatId first turns table) (hordered : table.supply.Ordered)
    (d : MessageDraft) : (chatRows first turns ++ [table.newRow d]).Pairwise Message.precedes := by
  rw [List.pairwise_append]
  refine ⟨h.sorted, List.pairwise_singleton _ _, ?_⟩
  intro m hm m' hm'
  obtain ⟨n, hn, hid, hcreated⟩ := h.issued m hm
  rw [List.mem_singleton] at hm'
  subst hm'
  have hlater := hordered n table.inserted hn
  show m.createdAt < table.supply.createdAt table.inserted ∨ _
  rw [hcreated]
  refine hlater.imp_right ?_
  rintro ⟨hsame, hle⟩
  exact ⟨hsame, hid ▸ hle⟩

/-- The first prompt of a chat that has no rows yet. -/
lemma create_first (h : TableShape chatId none [] table) {d : MessageDraft}
    (hchat : d.chatId = chatId) (hrole : d.role = .User) (hstatus : d.status = .Completed) :
    TableShape chatId (some (table.newRow d)) [] (table.create d) := by
  refine ⟨?_, ?_, by simp, ?_, List.pairwise_singleton _ _⟩
  · rw [MessageTable.rows_create, List.filter_append, h.rows]
    simp [chatRows, MessageTable.newRow, MessageDraft.message, hchat]
  · rintro m ⟨⟩
    exact ⟨hrole, hstatus⟩
  · intro m hm
    obtain rfl : m = table.newRow d := by simpa [chatRows] using hm
    exact ⟨table.inserted, Nat.lt_succ_self _, rfl, rfl⟩

lemma begin_turn (h : TableShape chatId first turns table) (hordered : table.supply.Ordered)
    (content : JsString) (model : String) :
    let prompt := Stores.promptDraft chatId content
    let reply := Stores.replyDraft chatId model
    TableShape chatId first
      (turns ++ [⟨table.newRow prompt, (table.create prompt).newRow reply⟩])
      ((table.create prompt).create reply) := by
  intro prompt reply
  have hrows : chatRows first (turns ++ [⟨table.newRow prompt, (table.create prompt).newRow reply⟩])
      = chatRows first turns ++ [table.newRow prompt] ++ [(table.create prompt).newRow reply] := by
    simp [chatRows, Turn.rows]
  refine ⟨?_, h.firstPrompt, ?_, ?_, ?_⟩
  · rw [hrows, MessageTable.rows_create, MessageTable.rows_create, List.filter_append,
      List.filter_append, h.rows]
    simp [MessageTable.newRow, MessageDraft.message, prompt, reply, Stores.promptDraft,
      Stores.replyDraft]
  · intro t ht
    rcases List.mem_append.mp ht with ht | ht
    · exact h.eachTurn t ht
    · obtain rfl := List.mem_singleton.mp ht
      exact ⟨⟨rfl, rfl, rfl⟩, table.inserted, rfl, rfl⟩
  · intro m hm
    rw [hrows, List.append_assoc] at hm
    rcases List.mem_append.mp hm with hm | hm
    · obtain ⟨n, hn, hissued⟩ := h.issued m hm
      exact ⟨n, hn.trans (Nat.lt_add_of_pos_right Nat.two_pos), hissued⟩
    · simp only [List.singleton_append, List.mem_cons, List.not_mem_nil, or_false] at hm
      rcases hm with rfl | rfl
      · exact ⟨table.inserted, Nat.lt_add_of_pos_right Nat.two_pos, rfl, rfl⟩
      · exact ⟨table.inserted + 1, Nat.lt_succ_self _, rfl, rfl⟩
  · rw [hrows, List.pairwise_append]
    refine ⟨h.append_sorted hordered prompt, List.pairwise_singleton _ _, ?_⟩
    intro m hm m' hm'
    rw [List.mem_singleton] at hm'
    subst hm'
    have hn : ∃ n < table.inserted + 1,
        m.id = table.supply.id n ∧ m.createdAt = table.supply.createdAt n := by
      rcases List.mem_append.mp hm with hm | hm
      · obtain ⟨n, hn, hissued⟩ := h.issued m hm
        exact ⟨n, hn.trans (Nat.lt_succ_self _), hissued⟩
      · obtain rfl := List.mem_singleton.mp hm
        exact ⟨table.inserted, Nat.lt_succ_self _, rfl, rfl⟩
    obtain ⟨n, hn, hid, hcreated⟩ := hn
    have hlater := hordered n (table.inserted + 1) hn
    show m.createdAt < table.supply.createdAt (table.inserted + 1) ∨ _
    rw [hcreated]
    refine hlater.imp_right ?_
    rintro ⟨hsame, hle⟩
    exact ⟨hsame, hid ▸ hle⟩

/-- An update of the reply of the last turn changes that reply and nothing else. -/
lemma update_reply {t : Turn} (h : TableShape chatId first (turns ++ [t]) table)
    {change : Message → Message} (hrole : ∀ m, (change m).role = m.role)
    (hchat : ∀ m, (change m).chatId = m.chatId) (hcreated : ∀ m, (change m).createdAt = m.createdAt) :
    TableShape chatId first
      (turns ++ [⟨t.prompt, { change t.reply with id := t.reply.id }⟩])
      (table.update t.reply.id change) := by
  have hrows : ∀ t' : Turn, chatRows first (turns ++ [t'])
      = (chatRows first turns ++ [t'.prompt]) ++ [t'.reply] := fun t' => by
    simp [chatRows, Turn.rows]
  -- only the last row of the chat has the id
  have hother : ∀ m ∈ chatRows first turns ++ [t.prompt], m.id ≠ t.reply.id := by
    intro m hm
    have hnodup := h.nodup
    rw [hrows, List.map_append, List.nodup_append] at hnodup
    exact hnodup.2.2 _ (List.mem_map_of_mem hm) _ (by simp)
  have hupdated : (table.update t.reply.id change).rows.filter (·.chatId = chatId)
      = (chatRows first turns ++ [t.prompt]) ++ [{ change t.reply with id := t.reply.id }] := by
    rw [MessageTable.filter_rows_update _ _ _ hchat, h.rows, hrows, List.map_append]
    congr 1
    · refine (List.map_congr_left fun m hm => ?_).trans (List.map_id _)
      rw [if_neg (hother m hm)]
      rfl
    · simp
  have hlast := h.eachTurn t (by simp)
  refine ⟨by rw [hrows]; exact hupdated, h.firstPrompt, ?_, ?_, ?_⟩
  · intro t' ht'
    rcases List.mem_append.mp ht' with ht' | ht'
    · exact h.eachTurn t' (List.mem_append_left _ ht')
    · obtain rfl := List.mem_singleton.mp ht'
      exact ⟨⟨hlast.1.promptRole, hlast.1.promptStatus, (hrole _).trans hlast.1.replyRole⟩, hlast.2⟩
  · intro m hm
    rw [hrows] at hm
    have hissued := h.issued
    rw [hrows] at hissued
    rcases List.mem_append.mp hm with hm | hm
    · exact hissued m (List.mem_append_left _ hm)
    · obtain rfl := List.mem_singleton.mp hm
      obtain ⟨n, hn, hid, hat⟩ := hissued t.reply (by simp)
      exact ⟨n, hn, hid, (hcreated _).trans hat⟩
  · have hsorted := h.sorted
    rw [hrows, List.pairwise_append] at hsorted ⊢
    refine ⟨hsorted.1, List.pairwise_singleton _ _, ?_⟩
    intro m hm m' hm'
    rw [List.mem_singleton] at hm'
    subst hm'
    have hle := hsorted.2.2 m hm t.reply (by simp)
    simp only [Message.precedes] at hle ⊢
    show m.createdAt < (change t.reply).createdAt ∨ m.createdAt = (change t.reply).createdAt ∧ _
    rw [hcreated]
    exact hle

end TableShape

/-! ## Frames -/

/-- From `w` to `w'` the model was asked for no reply and the messages stayed. -/
structure RequestsKept (chatId : Uuid) (firstPrompt : Option JsString) (w w' : World) : Prop where
  requests : RequestsShaped chatId firstPrompt w → RequestsShaped chatId firstPrompt w'
  messages : w'.stores.messages = w.stores.messages
  assistantMessageId : w'.locals.assistantMessageId = w.locals.assistantMessageId

/-- The requests stay as they are, and so do the stored summaries.  It is what the calls guarantee
that are made before the prompt is built. -/
structure ShapeKept (chatId : Uuid) (firstPrompt : Option JsString) (w w' : World) : Prop
    extends RequestsKept chatId firstPrompt w w' where
  summaries : w'.stores.summaries = w.stores.summaries

section Frames

variable {chatId : Uuid} {firstPrompt : Option JsString}

/-- A request that is logged has to have the shape. -/
lemma RequestsShaped.log {w : World} {c : Call} {v : Verdict}
    (h : RequestsShaped chatId firstPrompt w)
    (hc : ∀ model messages contextTokens, c = .OllamaStreamChat model messages contextTokens →
      PromptShape chatId firstPrompt w.stores.messages messages) :
    RequestsShaped chatId firstPrompt (w.log c v) := by
  intro entry hentry model messages contextTokens hcall
  rcases List.mem_cons.mp hentry with rfl | hentry
  · exact hc model messages contextTokens hcall
  · exact h entry hentry model messages contextTokens hcall

/-- The call does not ask the model for a reply. -/
def Call.isNoRequest : Call → Bool
  | .OllamaStreamChat .. => false
  | _ => true

lemma RequestsShaped.log_other {w : World} {c : Call} {v : Verdict} (hc : c.isNoRequest = true)
    (h : RequestsShaped chatId firstPrompt w) : RequestsShaped chatId firstPrompt (w.log c v) := by
  refine h.log ?_
  rintro _ _ _ rfl
  cases hc

lemma isNoRequest_of_isQuiet {c : Call} (hc : c.isQuiet = true) : c.isNoRequest = true := by
  cases c <;> first | rfl | cases hc

lemma isNoRequest_of_usesCache {c : Call} (hc : c.usesCache = true) : c.isNoRequest = true := by
  cases c <;> first | rfl | cases hc

instance : IsPreorder World (RequestsKept chatId firstPrompt) where
  refl _ := ⟨id, rfl, rfl⟩
  trans _ _ _ h h' := ⟨h'.requests ∘ h.requests, h'.messages.trans h.messages,
    h'.assistantMessageId.trans h.assistantMessageId⟩

instance : IsPreorder World (ShapeKept chatId firstPrompt) where
  refl w := ⟨Std.Refl.refl w, rfl⟩
  trans _ _ _ h h' := ⟨IsTrans.trans _ _ _ h.toRequestsKept h'.toRequestsKept,
    h'.summaries.trans h.summaries⟩

lemma ShapeKept.log {c : Call} (hc : c.isNoRequest = true) (w : World) (v : Verdict) :
    ShapeKept chatId firstPrompt w (w.log c v) :=
  ⟨⟨.log_other hc, rfl, rfl⟩, rfl⟩

lemma requestsKept_frame : PromptFrame (RequestsKept chatId firstPrompt) where
  refl := Std.Refl.refl
  trans := IsTrans.trans
  logged w _ v hc :=
    (ShapeKept.log (isNoRequest_of_isQuiet (Call.isQuiet_of_isSilent hc)) w v).toRequestsKept
  emitted w _ v := (ShapeKept.log rfl w v).toRequestsKept
  lockLogged w _ v hc :=
    (ShapeKept.log (isNoRequest_of_isQuiet (Call.isQuiet_of_locksGeneration hc)) w v).toRequestsKept
  stores _ _ h := ⟨id, h.messages, rfl⟩
  locals _ _ _ hid := ⟨id, rfl, hid⟩
  renewing _ _ := ⟨id, rfl, rfl⟩
  summaries _ _ := ⟨id, rfl, rfl⟩

lemma shapeKept_frame (chatId : Uuid) (firstPrompt : Option JsString) :
    CacheFrame (ShapeKept chatId firstPrompt) where
  refl := Std.Refl.refl
  trans := IsTrans.trans
  logged w _ v hc := .log (isNoRequest_of_isQuiet (Call.isQuiet_of_isSilent hc)) w v
  emitted w _ v := .log rfl w v
  lockLogged w _ v hc := .log (isNoRequest_of_isQuiet (Call.isQuiet_of_locksGeneration hc)) w v
  stores _ _ h := ⟨⟨id, h.messages, rfl⟩, h.summaries⟩
  locals _ _ _ hid := ⟨⟨id, rfl, hid⟩, rfl⟩
  renewing _ _ := ⟨⟨id, rfl, rfl⟩, rfl⟩
  cacheLogged w _ v hc := .log (isNoRequest_of_usesCache hc) w v
  redis _ _ := ⟨⟨id, rfl, rfl⟩, rfl⟩

end Frames

/-! ## The invariant

Inside a run the turn of the run is the last one and is not answered yet.  It is no part of the
history that the run has read, because that was read before the turn began. -/

/-- **A chat during a run**: its first prompt, the turns before the run, and the turn of the run
once it has begun. -/
structure Requesting (chatId : Uuid) (firstPrompt : Option JsString) (first : Option Message)
    (turns : List Turn) (current : Option Turn) (w : World) : Prop where
  table : TableShape chatId first (turns ++ current.toList) w.stores.messages
  ordered : w.stores.messages.supply.Ordered
  firstContent : ∀ m ∈ first, JsString.truthy firstPrompt = some m.content
  anchored : ∀ summary, w.stores.summaryOf chatId = some summary →
    AnchorAt first (turns.filter Turn.answered) summary.summarizedThroughMessageId
  requests : RequestsShaped chatId firstPrompt w
  amid : ∀ id, w.locals.assistantMessageId = some id → ∃ t ∈ current, t.reply.id = id

/-- **A chat between two runs.**  The messages are a list of turns, after the first prompt if there
is one, and no request is under way.  What a run leaves behind is such a chat again, whatever has
become of its turn. -/
def Settled (chatId : Uuid) (firstPrompt : Option JsString) (w : World) : Prop :=
  ∃ first turns, Requesting chatId firstPrompt first turns none { w with locals := .initial }

section Turn

variable {env : Env} {config : StreamConfig} {chatId : Uuid} {firstPrompt : Option JsString}
  {first : Option Message} {turns : List Turn} {current : Option Turn} {w w' : World}

/-- When a run is over its turn is one of the turns before the next. -/
lemma Requesting.settled (h : Requesting chatId firstPrompt first turns current w) :
    Settled chatId firstPrompt w := by
  refine ⟨first, turns ++ current.toList, ?_, h.ordered, h.firstContent, ?_, h.requests, ?_⟩
  · rw [Option.toList_none, List.append_nil]
    exact h.table
  · intro summary hsummary
    rw [List.filter_append]
    exact (h.anchored summary hsummary).append _
  · rintro id ⟨⟩

lemma Requesting.of_kept (h : Requesting chatId firstPrompt first turns current w)
    (hkept : ShapeKept chatId firstPrompt w w') :
    Requesting chatId firstPrompt first turns current w' := by
  have hsummaryOf : w'.stores.summaryOf chatId = w.stores.summaryOf chatId := by
    simp only [Stores.summaryOf]
    rw [hkept.summaries]
  exact ⟨hkept.messages ▸ h.table, hkept.messages ▸ h.ordered, h.firstContent,
    hsummaryOf ▸ h.anchored, hkept.requests h.requests, hkept.assistantMessageId ▸ h.amid⟩

/-- Where a block of a run can end. -/
def EndsRequesting (chatId : Uuid) (firstPrompt : Option JsString) (first : Option Message)
    (turns : List Turn) (_ : Outcome JsError Unit) (w : World) : Prop :=
  ∃ current, Requesting chatId firstPrompt first turns current w

/-- A step of the frame ends the block or leads to the next one. -/
lemma Requesting.seq {α : Type} {m : Handler α} {f : α → Handler Unit}
    {P : Outcome JsError α → World → Prop}
    (h : Requesting chatId firstPrompt first turns current w)
    (hm : Eff.Keeps (ShapeKept chatId firstPrompt) m) (hP : Eff.wp m P w)
    (hf : ∀ a w', Requesting chatId firstPrompt first turns current w' → P (.Returned a) w' →
      Eff.wp (f a) (EndsRequesting chatId firstPrompt first turns) w') :
    Eff.wp (m >>= f) (EndsRequesting chatId firstPrompt first turns) w :=
  Eff.wp_seq (P := fun o w' => Requesting chatId firstPrompt first turns current w' ∧ P o w')
    ⟨h.of_kept (hm w), hP⟩ (fun a w' h => hf a w' h.1 h.2) (fun _ _ h => ⟨_, h.1⟩)
    (fun _ h => ⟨_, h.1⟩)

/-- A block of the frame ends where it can. -/
lemma Requesting.last {m : Handler Unit} (h : Requesting chatId firstPrompt first turns current w)
    (hm : Eff.Keeps (ShapeKept chatId firstPrompt) m) :
    Eff.wp m (EndsRequesting chatId firstPrompt first turns) w :=
  ⟨current, h.of_kept (hm w)⟩

/-! ## The history -/

/-- A history that is read from PostgreSQL is the one that is there. -/
lemma getHistory_postgres (henv : HistoryFromPostgres env chatId) (w : World) :
    Eff.wp (getHistory env chatId) (fun o _ => ∀ history, o = .Returned history →
      w.stores.history chatId = .ok history) w := by
  refine Eff.wp_seq (P := fun o w' => RowsKept w w' ∧ ∀ history, o ≠ .Returned (some history)) ?_
    ?_ (fun _ _ _ => by simp) (fun _ _ => by simp)
  · refine ⟨rowsKept_frame.cachedHistory chatId w, ?_⟩
    show Eff.wp (cachedHistory env chatId) (fun o _ => ∀ history, o ≠ .Returned (some history)) w
    refine Eff.wp_tryCatch (P := fun o _ => ∀ history, o ≠ .Returned (some history)) ?_
      (fun _ _ h => h) (fun _ _ _ => by rintro history ⟨⟩) (fun _ _ => by simp)
    refine Eff.wp_seq (P := fun o _ => ∀ value, o = .Returned value → value = none) ?_ ?_
      (fun _ _ _ => by simp) (fun _ _ => by simp)
    · refine wp_transact ?_ (fun _ _ _ _ => by simp) (fun _ _ _ _ => by simp) (fun _ => by simp)
      rintro a s hv h value ⟨⟩
      cases h
      exact if_pos (henv _ hv)
    · rintro cached w₁ hnone
      obtain rfl := hnone cached rfl
      rintro history ⟨⟩
  rintro cached w₁ ⟨hrows, hnone⟩
  cases cached with
  | some history => exact absurd rfl (hnone history)
  | none =>
      refine Eff.wp_seq (P := fun o _ => ∀ history, o = .Returned history →
        w.stores.history chatId = .ok history) ?_ ?_ (fun _ _ _ => by simp) (fun _ _ => by simp)
      · refine Eff.wp_seq (P := fun o _ => ∀ messages, o = .Returned messages →
          messages = w.stores.messagesForHistory chatId) ?_ ?_ (fun _ _ _ => by simp)
          (fun _ _ => by simp)
        · refine wp_query ?_ (fun _ _ _ _ => by simp) (fun _ => by simp)
          rintro - messages ⟨⟩
          simp only [Stores.messagesForHistory]
          rw [hrows.messages]
        · rintro messages w₂ hmessages
          obtain rfl := hmessages messages rfl
          simp only [Stores.history]
          split
          · rename_i history hhistory
            rintro history' ⟨⟩
            exact hhistory
          · rintro history ⟨⟩
      · rintro history w₂ hhistory
        refine Eff.wp_seq (P := fun _ _ => True) trivial ?_ (fun _ _ _ => by simp)
          (fun _ _ => by simp)
        rintro _ w₃ - history' ⟨⟩
        exact hhistory history rfl

/-! ## The prompt

The anchor moves only when a fold has been finished, and then to the end of a turn. -/

lemma toPromptMessage_entryOf (m : Message) : toPromptMessage (entryOf m) =
    ⟨match m.role with | .User => .User | .Assistant => .Assistant, m.content⟩ := by
  simp only [toPromptMessage, entryOf]
  cases m.role <;> rfl

lemma map_toPromptMessage (hfirst : FirstPrompt first) (hturns : ∀ t ∈ turns, t.WellFormed) :
    (chatEntries first turns).map toPromptMessage
      = (first.map fun m => ⟨.User, m.content⟩).toList ++ turns.flatMap Turn.messages := by
  have hflat : (turns.flatMap Turn.rows).map (toPromptMessage ∘ entryOf)
      = turns.flatMap Turn.messages := by
    rw [List.map_flatMap]
    refine List.flatMap_congr fun t ht => ?_
    simp [Turn.rows, Turn.messages, toPromptMessage_entryOf, (hturns t ht).promptRole,
      (hturns t ht).replyRole]
  simp only [chatEntries, chatRows]
  rw [List.map_map, List.map_append, hflat]
  cases first with
  | none => rfl
  | some m => simp [toPromptMessage_entryOf, (hfirst m rfl).1]

/-- The history of the chat is that of the turns before the run. -/
lemma Requesting.nodup_history (h : Requesting chatId firstPrompt first turns current w) :
    ((chatEntries first (turns.filter Turn.answered)).map ChatHistoryEntry.id).Nodup := by
  have hnodup := h.table.nodup_history
  rw [List.filter_append, chatEntries_append, List.map_append] at hnodup
  exact hnodup.of_append_left

lemma Requesting.answered_wellFormed (h : Requesting chatId firstPrompt first turns current w) :
    ∀ t ∈ turns.filter Turn.answered, t.WellFormed :=
  fun t ht => h.table.wellFormed t (List.mem_append_left _ (List.mem_filter.mp ht).1)

/-- What follows the anchor is whole answered turns. -/
lemma Requesting.initialTurns (h : Requesting chatId firstPrompt first turns current w)
    {params : BuildPromptParams} (hchat : params.chatId = chatId)
    (hhistory : params.history = chatEntries first (turns.filter Turn.answered)) :
    Remainder first (turns.filter Turn.answered) (initialTurns params w.stores) := by
  simp only [RagStack.initialTurns]
  rw [hchat, hhistory]
  cases hsummary : w.stores.summaryOf chatId with
  | none => exact .inl rfl
  | some summary => exact entriesAfter_anchorAt h.nodup_history (h.anchored summary hsummary)

/-- A prompt made of a remainder of the history has the shape. -/
lemma Requesting.promptShape {t : Turn}
    (h : Requesting chatId firstPrompt first turns (some t) w)
    (hstatus : t.reply.status = .Streaming) {entries : List ChatHistoryEntry}
    (hentries : Remainder first (turns.filter Turn.answered) entries) (summary : Option JsString) :
    PromptShape chatId firstPrompt w.stores.messages
      (toPromptMessages summary entries t.prompt.content) := by
  have hcurrent : t.Begun chatId w.stores.messages := h.table.begun (by simp)
  have hanswered : ∀ t' ∈ turns.filter Turn.answered,
      t'.Begun chatId w.stores.messages ∧ t'.reply.status = .Completed := by
    intro t' ht'
    obtain ⟨hmem, hcompleted⟩ := List.mem_filter.mp ht'
    exact ⟨h.table.begun (List.mem_append_left _ hmem), of_decide_eq_true hcompleted⟩
  simp only [toPromptMessages]
  rcases hentries with rfl | ⟨k, -, rfl⟩
  · refine ⟨JsString.truthy summary, first, turns.filter Turn.answered, t, ?_, h.firstContent,
      hanswered, hcurrent, hstatus⟩
    rw [map_toPromptMessage h.table.firstPrompt h.answered_wellFormed, List.append_assoc,
      List.append_assoc, List.append_assoc, List.append_assoc]
  · have hmem : ∀ t' ∈ (turns.filter Turn.answered).drop k, t' ∈ turns.filter Turn.answered :=
      fun t' => List.mem_of_mem_drop
    refine ⟨JsString.truthy summary, none, (turns.filter Turn.answered).drop k, t, ?_,
      by rintro m ⟨⟩, fun t' ht' => hanswered t' (hmem t' ht'), hcurrent, hstatus⟩
    rw [map_toPromptMessage (by rintro m ⟨⟩) fun t' ht' => h.answered_wellFormed t' (hmem t' ht')]
    simp

/-- **Building a prompt.**  The anchor moves to the end of a turn, and the prompt has the shape. -/
lemma buildPrompt_requesting (env : Env) (settings : ContextSettings) (call : PromptCall) {t : Turn}
    (h : Requesting chatId firstPrompt first turns (some t) w)
    (hstatus : t.reply.status = .Streaming)
    (hcontent : call.content = t.prompt.content) {history : List ChatHistoryEntry}
    (hhistory : history = chatEntries first (turns.filter Turn.answered)) :
    Eff.wp (buildPrompt env settings (call.params env chatId history)) (fun o w' =>
      Requesting chatId firstPrompt first turns (some t) w' ∧ ∀ prompt, o = .Returned prompt →
        PromptShape chatId firstPrompt w'.stores.messages prompt.messages) w := by
  set params := call.params env chatId history
  have hrest : Remainder first (turns.filter Turn.answered) (RagStack.initialTurns params w.stores) :=
    h.initialTurns rfl hhistory
  have hkept : RequestsKept chatId firstPrompt w (buildPrompt env settings params w).2 :=
    requestsKept_frame.buildPrompt params (requestsKept_frame.emit _) w
  have hanchored : ∀ summary,
      (buildPrompt env settings params w).2.stores.summaryOf chatId = some summary →
      AnchorAt first (turns.filter Turn.answered) summary.summarizedThroughMessageId := by
    intro summary hsummary
    rcases buildPrompt_keptOrFolded chatId history call w with hsame | ⟨count, hle, hbound, hfold⟩
    · exact h.anchored summary ((hsame.summaryOf chatId).symm.trans hsummary)
    · obtain ⟨steps, stored, lastFolded, -, hlast, hanchor, -, -, -, hstored⟩ := hfold
      cases hstored.symm.trans hsummary
      rw [hanchor]
      exact hrest.anchorAt h.answered_wellFormed hle hbound hlast
  refine ⟨⟨hkept.messages ▸ h.table, hkept.messages ▸ h.ordered, h.firstContent, hanchored,
    hkept.requests h.requests, hkept.assistantMessageId ▸ h.amid⟩, ?_⟩
  intro prompt hprompt
  obtain ⟨count, hle, hbound, -, hmessages⟩ := buildPrompt_returned
    (Prod.ext hprompt rfl : buildPrompt env settings params w = (.Returned prompt, _))
  have hfolded := hrest.drop h.answered_wellFormed hle hbound
  obtain ⟨stop, hstop, hdrop, hstart, -⟩ := dropOldestTurns_spec
    (prompt.summary.map (·.content)) ((RagStack.initialTurns params w.stores).drop count)
    params.content settings.charsPerToken (getContextBudget params.model.maxContext settings).trigger
  rw [hkept.messages, hmessages, hdrop, show params.content = t.prompt.content from hcontent]
  exact h.promptShape hstatus (hfolded.drop h.answered_wellFormed hstop hstart) _

/-! ## One run -/

/-- `beginGeneration` opens a turn, carried out or not. -/
lemma beginGeneration_requesting {model : String} {content : JsString}
    (h : Requesting chatId firstPrompt first turns none w) :
    Eff.wp (beginGeneration env chatId content model) (fun o w' =>
      (∃ current, Requesting chatId firstPrompt first turns current w')
        ∧ ∀ messages, o = .Returned messages → ∃ t,
          Requesting chatId firstPrompt first turns (some t) w'
            ∧ t.reply.id = messages.assistantMessage.id ∧ t.prompt.content = content
            ∧ t.reply.status = .Streaming) w := by
  have hlog : ∀ v, Requesting chatId firstPrompt first turns none (w.log (.BeginGeneration chatId) v) :=
    fun v => h.of_kept (.log rfl w v)
  have hopen : ∀ v messages s', w.stores.beginGeneration chatId content model = .ok (messages, s') →
      ∃ t, Requesting chatId firstPrompt first turns (some t)
          ((w.log (.BeginGeneration chatId) v).setStores s')
        ∧ t.reply.id = messages.assistantMessage.id ∧ t.prompt.content = content
        ∧ t.reply.status = .Streaming := by
    intro v messages s' hbegin
    simp only [Stores.beginGeneration] at hbegin
    split at hbegin
    · cases hbegin
      have htable := h.table
      rw [Option.toList_none, List.append_nil] at htable
      refine ⟨_, ⟨htable.begin_turn h.ordered content model, h.ordered, h.firstContent, h.anchored,
        (hlog v).requests, ?_⟩, rfl, rfl, rfl⟩
      intro id hid
      obtain ⟨t, ⟨⟩, -⟩ := h.amid id hid
    · cases hbegin
  refine wp_transact ?_ ?_ ?_ ?_
  · intro messages s' _ hbegin
    refine ⟨(hopen _ messages s' hbegin).imp' some fun _ ht => ht.1, ?_⟩
    rintro _ ⟨⟩
    exact hopen _ messages s' hbegin
  · exact fun e v _ _ => ⟨⟨none, hlog v⟩, by simp⟩
  · intro messages s' _ hbegin
    exact ⟨(hopen _ messages s' hbegin).imp' some fun _ ht => ht.1, by simp⟩
  · exact fun _ => ⟨⟨none, hlog _⟩, by simp⟩

/-- An update of the reply in progress. -/
lemma Requesting.update {t : Turn} (h : Requesting chatId firstPrompt first turns (some t) w)
    {c : Call} (hc : c.isNoRequest = true) (v : Verdict) {s' : Stores} {change : Message → Message}
    (hmessages : s'.messages = w.stores.messages.update t.reply.id change)
    (hsummaries : s'.summaries = w.stores.summaries) (hrole : ∀ m, (change m).role = m.role)
    (hchat : ∀ m, (change m).chatId = m.chatId) (hcreated : ∀ m, (change m).createdAt = m.createdAt) :
    ∃ current, Requesting chatId firstPrompt first turns current ((w.log c v).setStores s') := by
  have hsummaryOf : s'.summaryOf chatId = w.stores.summaryOf chatId := by
    simp only [Stores.summaryOf]
    rw [hsummaries]
  refine ⟨some ⟨t.prompt, { change t.reply with id := t.reply.id }⟩, ?_, ?_, h.firstContent, ?_,
    h.requests.log_other hc, ?_⟩
  · rw [World.stores_setStores, hmessages]
    exact h.table.update_reply hrole hchat hcreated
  · rw [World.stores_setStores, hmessages]
    exact h.ordered
  · rw [World.stores_setStores, hsummaryOf]
    exact h.anchored
  · intro id hid
    obtain ⟨_, ⟨⟩, rfl⟩ := h.amid id hid
    exact ⟨_, rfl, rfl⟩

/-- An atomic update of the reply in progress, however the call settles. -/
lemma Requesting.transact {α : Type} {t : Turn}
    (h : Requesting chatId firstPrompt first turns (some t) w) {c : Call}
    (hc : c.isNoRequest = true) {operation : ℕ → Stores → Except JsError (α × Stores)}
    (hoperation : ∀ n a s', operation n w.stores = .ok (a, s') → ∃ change : Message → Message,
      s'.messages = w.stores.messages.update t.reply.id change
        ∧ s'.summaries = w.stores.summaries ∧ (∀ m, (change m).role = m.role)
        ∧ (∀ m, (change m).chatId = m.chatId) ∧ ∀ m, (change m).createdAt = m.createdAt) :
    Eff.wp (RagStack.transact env c operation)
      (fun _ w' => ∃ current, Requesting chatId firstPrompt first turns current w') w := by
  have hlog : ∀ v, Requesting chatId firstPrompt first turns (some t) (w.log c v) :=
    fun v => h.of_kept (.log hc w v)
  have hdone : ∀ n v a s', operation n w.stores = .ok (a, s') →
      ∃ current, Requesting chatId firstPrompt first turns current ((w.log c v).setStores s') := by
    intro n v a s' ho
    obtain ⟨change, hmessages, hsummaries, hrole, hchat, hcreated⟩ := hoperation n a s' ho
    exact h.update hc v hmessages hsummaries hrole hchat hcreated
  exact wp_transact (fun a s' _ ho => hdone _ _ a s' ho) (fun _ v _ _ => ⟨_, hlog v⟩)
    (fun a s' _ ho => hdone _ _ a s' ho) (fun _ => ⟨_, hlog _⟩)

lemma completeGeneration_requesting {t : Turn}
    (h : Requesting chatId firstPrompt first turns (some t) w) (content : JsString)
    (promptTokens completionTokens : Option ℤ) (finishReason : Option String) :
    Eff.wp (completeGeneration env t.reply.id content promptTokens completionTokens finishReason)
      (fun _ w' => ∃ current, Requesting chatId firstPrompt first turns current w') w := by
  refine h.transact rfl ?_
  intro n message s' ho
  unfold Stores.completeGeneration at ho
  simp only at ho
  split at ho
  · cases ho
    exact ⟨_, rfl, rfl, fun _ => rfl, fun _ => rfl, fun _ => rfl⟩
  · cases ho

lemma endGeneration_requesting {t : Turn}
    (h : Requesting chatId firstPrompt first turns (some t) w) (content : JsString)
    (errorCode : Option String) :
    Eff.wp (endGeneration env t.reply.id content errorCode)
      (fun _ w' => ∃ current, Requesting chatId firstPrompt first turns current w') w := by
  refine h.transact rfl ?_
  intro n message s' ho
  unfold Stores.endGeneration at ho
  simp only at ho
  split at ho
  · cases ho
    exact ⟨_, rfl, rfl, fun _ => rfl, fun _ => rfl, fun _ => rfl⟩
  · cases ho

/-- A method of another service keeps what its statements keep. -/
lemma shapeKept_service {α : Type} {service : Service} {effect : Handler α}
    (heffect : Eff.Keeps (ShapeKept chatId firstPrompt) effect) :
    Eff.Keeps (ShapeKept chatId firstPrompt) (await env (.Service service) effect) :=
  keeps_await (fun w v => .log rfl w v) heffect

/-- The `try` block once the model has answered. -/
lemma finishGeneration_requesting {t : Turn} {params : StreamChatParams}
    (h : Requesting chatId firstPrompt first turns (some t) w) (model : Model)
    (summary : Option ConversationSummary) (finalChunk : OllamaChatChunk) :
    Eff.wp (finishGeneration env params model t.reply.id summary finalChunk)
      (EndsRequesting chatId firstPrompt first turns) w := by
  refine Eff.wp_bind_of_eq rfl ?_
  refine Eff.wp_seq (completeGeneration_requesting h _ _ _ _) ?_ (fun _ _ h => h) (fun _ h => h)
  rintro completed w₁ ⟨current, h₁⟩
  have hframe := shapeKept_frame chatId firstPrompt
  exact h₁.last (.bind (hframe.recordUsage _ _ _ _ _ _) fun _ =>
    .bind (shapeKept_service (hframe.refresh _)) fun _ =>
    .bind (hframe.emit _) fun _ => hframe.emit _)

/-- The request to the model: it has the shape, and whatever arrives changes no row. -/
lemma receiveReply_requesting {t : Turn} {model : Model} {messages : List OllamaHistoryMessage}
    (h : Requesting chatId firstPrompt first turns (some t) w)
    (hshape : PromptShape chatId firstPrompt w.stores.messages messages) :
    Eff.wp (receiveReply env config t.reply.id model messages)
      (fun _ w' => Requesting chatId firstPrompt first turns (some t) w') w := by
  have hlog : ∀ v, Requesting chatId firstPrompt first turns (some t)
      (w.log (.OllamaStreamChat model.name messages model.maxContext) v) := by
    intro v
    refine ⟨h.table, h.ordered, h.firstContent, h.anchored, h.requests.log ?_, h.amid⟩
    rintro _ _ _ ⟨⟩
    exact hshape
  have hframe := shapeKept_frame chatId firstPrompt
  refine Eff.wp_seq (P := fun _ w' => Requesting chatId firstPrompt first turns (some t) w')
    (wp_await (fun _ => hlog _) (fun _ => hlog _) (fun _ => hlog _) (fun _ => hlog _)) ?_
    (fun _ _ h => h) (fun _ h => h)
  intro n w₁ h₁
  have hchunks : Eff.Keeps (ShapeKept chatId firstPrompt) (do
      Eff.forEach (receiveChunk env config t.reply.id) (env.chunks n)
      streamEnd env n) :=
    .bind (.forEach (fun chunk => hframe.receiveChunk _ chunk) _) fun _ => hframe.streamEnd n
  exact h₁.of_kept (hchunks w₁)

lemma generateReply_requesting {params : StreamChatParams} (hparams : params.chatId = chatId)
    (model : Model) (userMessageId : Uuid) {t : Turn}
    (h : Requesting chatId firstPrompt first turns (some t) w)
    (hstatus : t.reply.status = .Streaming) (hcontent : params.content = t.prompt.content)
    {history : List ChatHistoryEntry}
    (hhistory : history = chatEntries first (turns.filter Turn.answered)) :
    Eff.wp (generateReply env config params model history userMessageId t.reply.id)
      (EndsRequesting chatId firstPrompt first turns) w := by
  subst hparams
  have hframe := shapeKept_frame params.chatId firstPrompt
  refine h.seq (P := fun _ _ => True) (hframe.emit _) trivial ?_
  rintro _ w₁ h₁ -
  refine Eff.wp_seq (P := fun o w' => Requesting params.chatId firstPrompt first turns (some t) w'
    ∧ ∀ prompt, o = .Returned prompt →
      PromptShape params.chatId firstPrompt w'.stores.messages prompt.messages) ?_ ?_
    (fun _ _ h => ⟨_, h.1⟩) (fun _ h => ⟨_, h.1⟩)
  · have hlog : ∀ v, Requesting params.chatId firstPrompt first turns (some t)
        (w₁.log (.Service .BuildPrompt) v) := fun v => h₁.of_kept (.log rfl w₁ v)
    have hbuild := fun v => buildPrompt_requesting env config.settings
      ⟨params.principal, model, params.content⟩ (hlog v) hstatus hcontent hhistory
    refine wp_await (fun _ => hbuild _) (fun _ => ⟨hlog _, by simp⟩) (fun _ => ?_)
      (fun _ => ⟨hlog _, by simp⟩)
    refine Eff.wp_mono (hbuild _) fun o w' hbuilt => ?_
    cases o <;> exact ⟨hbuilt.1, by simp⟩
  rintro prompt w₂ ⟨h₂, hshape⟩
  refine Eff.wp_seq (receiveReply_requesting h₂ (hshape prompt rfl)) ?_ (fun _ _ h => ⟨_, h⟩)
    (fun _ h => ⟨_, h⟩)
  rintro _ w₃ h₃
  refine Eff.wp_bind_of_eq rfl ?_
  split
  · exact ⟨_, h₃⟩
  · exact finishGeneration_requesting h₃ model _ _

/-- **The `try` block of a run.** -/
lemma generate_requesting (henv : HistoryFromPostgres env chatId) {params : StreamChatParams}
    (hparams : params.chatId = chatId) (model : Model)
    (h : Requesting chatId firstPrompt first turns none w) :
    Eff.wp (generate env config params model) (EndsRequesting chatId firstPrompt first turns) w := by
  subst hparams
  rw [generate_eq]
  have hframe := shapeKept_frame params.chatId firstPrompt
  refine h.seq (P := fun o _ => ∀ history, o = .Returned history →
      history = chatEntries first (turns.filter Turn.answered))
    (shapeKept_service (hframe.getHistory _)) ?_ ?_
  · have htable : TableShape params.chatId first turns w.stores.messages := by
      have htable := h.table
      rwa [Option.toList_none, List.append_nil] at htable
    refine wp_await ?_ (fun _ => by simp) (fun _ => ?_) (fun _ => by simp)
    · intro _
      refine Eff.wp_mono (getHistory_postgres henv _) fun o w' hloaded history ho => ?_
      exact htable.history (hloaded history ho)
    · refine Eff.wp_mono (getHistory_postgres henv _) fun o w' _ => ?_
      cases o <;> rintro history ⟨⟩
  rintro history w₁ h₁ hhistory
  have hturns := hhistory history rfl
  refine Eff.wp_bind_of_eq rfl ?_
  have h₂ : Requesting params.chatId firstPrompt first turns none
      { w₁ with locals := { w₁.locals with history := some history } } :=
    h₁.of_kept ⟨⟨id, rfl, rfl⟩, rfl⟩
  refine Eff.wp_seq (beginGeneration_requesting h₂) ?_ (fun _ _ h => h.1) (fun _ h => h.1)
  rintro messages w₃ ⟨-, hbegun⟩
  obtain ⟨t, h₃, hreply, hcontent, hstatus⟩ := hbegun messages rfl
  refine Eff.wp_bind_of_eq rfl ?_
  rw [← hreply]
  have h₄ : Requesting params.chatId firstPrompt first turns (some t)
      { w₃ with locals := { w₃.locals with assistantMessageId := some t.reply.id } } := by
    refine ⟨h₃.table, h₃.ordered, h₃.firstContent, h₃.anchored, h₃.requests, ?_⟩
    rintro id ⟨⟩
    exact ⟨t, rfl, rfl⟩
  refine h₄.seq (P := fun _ _ => True) (shapeKept_service (hframe.append _ _)) trivial ?_
  rintro _ w₅ h₅ -
  exact generateReply_requesting rfl model _ h₅ hstatus hcontent.symm hturns

/-- **The `catch` block of a run.** -/
lemma generationFailed_requesting {params : StreamChatParams} (error : JsError)
    (h : Requesting chatId firstPrompt first turns current w) :
    Eff.wp (generationFailed env params error) (EndsRequesting chatId firstPrompt first turns) w := by
  have hframe := shapeKept_frame chatId firstPrompt
  refine Eff.wp_bind_of_eq rfl ?_
  cases hid : w.locals.assistantMessageId with
  | none => exact ⟨current, h⟩
  | some id =>
      obtain ⟨t, hcurrent, rfl⟩ := h.amid id hid
      obtain rfl : current = some t := hcurrent
      have hafter : ∀ content errorCode event, Eff.wp (do
            let _ ← endGeneration env t.reply.id content errorCode
            refreshHistory env params.chatId
            emit env event) (EndsRequesting chatId firstPrompt first turns) w := by
        intro content errorCode event
        refine Eff.wp_seq (endGeneration_requesting h _ _) ?_ (fun _ _ h => h) (fun _ h => h)
        rintro ended w₁ ⟨current', h₁⟩
        exact h₁.last (.bind (hframe.refreshHistory _) fun _ => hframe.emit _)
      refine Eff.wp_bind_of_eq rfl ?_
      cases env.aborted w.tick
      · exact hafter _ _ _
      · exact hafter _ _ _

/-- **Step lemma.**  Whatever its outcome, a run takes the invariant between two runs to itself. -/
theorem stream_settled (henv : HistoryFromPostgres env chatId) {params : StreamChatParams}
    (hparams : params.chatId = chatId) (h : Settled chatId firstPrompt w) :
    Settled chatId firstPrompt (stream env config params w).2 := by
  obtain ⟨first, turns, h⟩ := h
  show Eff.wp (stream env config params) (fun _ w' => Settled chatId firstPrompt w') w
  refine stream_rule (shapeKept_frame chatId firstPrompt).toLockFrame
    (fun _ w' hkept _ => (h.of_kept hkept).settled) ?_
  intro model w₁ hkept
  refine Eff.wp_mono (Eff.wp_tryCatch (generate_requesting henv hparams model (h.of_kept hkept))
    (fun _ _ h => h) (fun error w₂ => ?_) (fun _ h => h)) ?_
  · rintro ⟨current, h₂⟩
    exact generationFailed_requesting error h₂
  · rintro o w₂ ⟨current, h₂⟩ o' w₃ hkept' -
    exact (h₂.of_kept hkept').settled

end Turn

/-! ## Every sequence of runs -/

section Runs

variable {env : Env} {chatId : Uuid} {firstPrompt : Option JsString}

/-- `createChat` stores the first prompt, if there is one, and no summary. -/
lemma stores_of_createChat {s₀ s : Stores} {principal : RequestPrincipal} {title : JsString}
    {selectedModelId : Uuid} {now : Timestamp} {chat : Chat}
    (h : s₀.createChat chatId principal title selectedModelId firstPrompt now = .ok (chat, s)) :
    s.summaries = s₀.summaries
      ∧ s.messages = match JsString.truthy firstPrompt with
        | some prompt => s₀.messages.create (Stores.promptDraft chatId prompt)
        | none => s₀.messages := by
  cases h
  exact ⟨rfl, rfl⟩

/-- A chat that was just created, with a first prompt or without. -/
lemma createChat_settled {w : World} (hordered : w.stores.messages.supply.Ordered)
    (hrows : ∀ m ∈ w.stores.messages.rows, m.chatId ≠ chatId)
    (hsummary : w.stores.summaryOf chatId = none)
    (hrequests : RequestsShaped chatId firstPrompt w) (principal : RequestPrincipal)
    (title : JsString) (selectedModelId : Uuid) :
    Settled chatId firstPrompt
      (createChat env chatId principal title selectedModelId firstPrompt w).2 := by
  have hempty : TableShape chatId none [] w.stores.messages := by
    refine ⟨?_, by rintro m ⟨⟩, by simp, by simp [chatRows], List.Pairwise.nil⟩
    exact List.filter_eq_nil_iff.mpr fun m hm => by simpa using hrows m hm
  have hanchored : ∀ s : Stores, s.summaries = w.stores.summaries → ∀ first summary,
      s.summaryOf chatId = some summary →
      AnchorAt first [] summary.summarizedThroughMessageId := by
    intro s hs first summary hsome
    simp only [Stores.summaryOf] at hsome hsummary
    rw [hs, hsummary] at hsome
    cases hsome
  have hbefore : ∀ v, Settled chatId firstPrompt (w.log (.CreateChat firstPrompt) v) := fun v =>
    ⟨none, [], hempty, hordered, by rintro m ⟨⟩, hanchored _ rfl _, hrequests.log_other rfl,
      by rintro id ⟨⟩⟩
  have hcreated : ∀ n v chat s, w.stores.createChat chatId principal title selectedModelId
        firstPrompt (env.now n) = .ok (chat, s) →
      Settled chatId firstPrompt ((w.log (.CreateChat firstPrompt) v).setStores s) := by
    intro n v chat s h
    obtain ⟨hsummaries, hmessages⟩ := stores_of_createChat h
    cases hprompt : JsString.truthy firstPrompt with
    | none =>
        rw [hprompt] at hmessages
        exact ⟨none, [], hmessages ▸ hempty, hmessages ▸ hordered, by rintro m ⟨⟩,
          hanchored s hsummaries _, hrequests.log_other rfl, by rintro id ⟨⟩⟩
    | some content =>
        rw [hprompt] at hmessages
        refine ⟨some (w.stores.messages.newRow (Stores.promptDraft chatId content)), [], ?_, ?_, ?_,
          hanchored s hsummaries _, hrequests.log_other rfl, by rintro id ⟨⟩⟩
        · exact hmessages ▸ hempty.create_first rfl rfl rfl
        · exact hmessages ▸ hordered
        · rintro m ⟨⟩
          exact hprompt
  show Eff.wp (createChat env chatId principal title selectedModelId firstPrompt)
    (fun _ w' => Settled chatId firstPrompt w') w
  exact wp_transact (fun chat s _ h => hcreated _ _ chat s h) (fun _ v _ _ => hbefore v)
    (fun chat s _ h => hcreated _ _ chat s h) (fun _ => hbefore _)

/-- **Run lemma.** -/
lemma streams_settled (config : StreamConfig) (henv : HistoryFromPostgres env chatId) {w : World}
    (h : Settled chatId firstPrompt w) (calls : List StreamChatParams)
    (hchat : ∀ params ∈ calls, params.chatId = chatId) :
    Settled chatId firstPrompt (streams env config w calls) := by
  induction calls using List.reverseRecOn with
  | nil => exact h
  | append_singleton calls params ih =>
      rw [streams_append]
      exact stream_settled henv (hchat params (by simp))
        (ih fun p hp => hchat p (List.mem_append_left _ hp))

end Runs

/-- **The model never sees an unanswered prompt of a turn.**  For a chat that `createChat` has just
created and every sequence of turns on it, one at a time, whatever their outcomes, with the history
read from PostgreSQL: every request is an optional summary, the first prompt of `createChat` if
there was one, answered turns, and the new message.  Rows are read in the order of their creation by
assumption, which is about the ids that PostgreSQL generates. -/
theorem prompt_shape_run (env : Env) (config : StreamConfig) (chatId : Uuid)
    (principal : RequestPrincipal) (title : JsString) (selectedModelId : Uuid)
    (firstPrompt : Option JsString) (s : Stores) (calls : List StreamChatParams)
    (hordered : s.messages.supply.Ordered)
    (hrows : ∀ m ∈ s.messages.rows, m.chatId ≠ chatId) (hsummary : s.summaryOf chatId = none)
    (henv : HistoryFromPostgres env chatId)
    (hchat : ∀ params ∈ calls, params.chatId = chatId) :
    RequestsShaped chatId firstPrompt (streams env config
      (createChat env chatId principal title selectedModelId firstPrompt (.start s)).2 calls) := by
  have hcreated : Settled chatId firstPrompt
      (createChat env chatId principal title selectedModelId firstPrompt (.start s)).2 :=
    createChat_settled (w := .start s) hordered hrows hsummary (by rintro entry ⟨⟩) _ _ _
  obtain ⟨first, turns, h⟩ := streams_settled config henv hcreated calls hchat
  exact h.requests

/-! ## A first prompt without a reply -/

def Stores.noChat : Stores := { Stores.oneChat with chats := [] }

/-- A chat that was created with the prompt "Hi" and then continued by some turns. -/
def afterHi (calls : List StreamChatParams) : World :=
  streams deafCache .defaults
    (createChat deafCache 1 (.Anonymous 1) (js "New chat") 1 (some (js "Hi")) (.start .noChat)).2
    calls

/-- Two turns after a first prompt. -/
theorem prompt_shape_run_afterHi : RequestsShaped 1 (some (js "Hi")) (afterHi [.hello, .hello]) := by
  refine prompt_shape_run deafCache .defaults 1 (.Anonymous 1) (js "New chat") 1 (some (js "Hi"))
    .noChat [.hello, .hello] (fun _ _ h => .inl h) (by rintro m ⟨⟩) rfl ?_
    (by simp [StreamChatParams.hello])
  rintro t ⟨⟩

/-- A list of two user messages has no summary and no answered turn in it. -/
lemma not_promptShape_two_users (chatId : Uuid) (table : MessageTable) (first second : JsString) :
    ¬ PromptShape chatId none table [⟨.User, first⟩, ⟨.User, second⟩] := by
  rintro ⟨summary, prompt, answered, current, hmessages, hprompt, -⟩
  cases prompt with
  | some m => cases hprompt m rfl
  | none =>
      cases summary <;> rcases answered with _ | ⟨t, answered⟩ <;> simp [Turn.messages] at hmessages

/-- **The model can be shown an unanswered prompt.**  The chat was created with the prompt "Hi",
and the first turn says "Hello": both are sent, next to each other. -/
theorem prompt_unansweredFirstPrompt : ¬ RequestsShaped 1 none (afterHi [.hello]) := by
  have hrequest : (afterHi [.hello]).trace.any (fun entry => entry.call
      = .OllamaStreamChat "llama3.2:1b" [⟨.User, js "Hi"⟩, ⟨.User, js "Hello"⟩] 8192) = true := by
    decide +kernel
  obtain ⟨entry, hentry, hcall⟩ := List.any_eq_true.mp hrequest
  intro hshaped
  exact not_promptShape_two_users _ _ _ _ (hshaped entry hentry _ _ _ (of_decide_eq_true hcall))

end RagStack
