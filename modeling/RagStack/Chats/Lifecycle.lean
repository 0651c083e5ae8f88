import RagStack.Chats.AfterCommit

/-!
# The life of a reply

The row of a reply is created STREAMING by `beginGeneration` and ended by `completeGeneration` or
`endGeneration`.  A row that has been ended is what the client was told about the generation, so it
should stay as it is.  Two things in the code work against this.  One `catch` block serves the whole
`try` block, also the four steps that follow the commit of `completeGeneration`; and `endGeneration`
updates by id, whatever the status of the row.  A reload of the history that fails after the commit
therefore turns a COMPLETED reply into a FAILED one, or into a CANCELLED one if the signal is
aborted.

The file determines exactly which runs are concerned.  `AfterCommit` reads off the script at which
call the `try` block is left after a commit; the next call is then `endGeneration`, and whether it
is carried out is again up to the script.

* `SettlesOnce` — over the states of a run, the row leaves STREAMING at most once and then keeps
  status, content and error code.
* `ReplyStreaming`, `ReplyCompleted`, `ReplyEnded`, `ReplyOverwritten` — where the row can be.  Each
  comes with what the script has carried out so far, which is the invariant of the proof; calls
  that leave the messages alone keep all four (`KeptThrough`).
* `generate_spec`, `generationFailed_spec` — where the row is when the `try` block and the `catch`
  block end.  The first one says more than that: how a block ends that has committed, by its points.
* `reply_settlesOnce_iff` — the row settles once exactly when the script lets the commit stand.
* `reply_failedAfterCompleted` — a run in which the reload after the commit fails.

The equivalence is about every script: calls may be refused, answered late or never heard of again
at any place, and the signal may be aborted at any call.
-/

namespace RagStack

/-! ## The states of a row -/

/-- What may happen to a row: it is created STREAMING, it changes while it is STREAMING, or it
keeps what the client was told. -/
def RowStep : Option Message → Option Message → Prop
  | none, none => True
  | none, some m => m.status = .Streaming
  | some _, none => False
  | some m, some m' => m.status = .Streaming
      ∨ m'.status = m.status ∧ m'.content = m.content ∧ m'.errorCode = m.errorCode

instance : DecidableRel RowStep := fun older newer => by
  cases older <;> cases newer <;> unfold RowStep <;> infer_instance

lemma rowStep_refl (m : Option Message) : RowStep m m := by
  cases m with
  | none => trivial
  | some m => exact .inr ⟨rfl, rfl, rfl⟩

/-- The row `id` in every state of the run, newest first: as it is in the end, and as it was when
each call was issued. -/
def World.rowStates (w : World) (id : Uuid) : List (Option Message) :=
  w.stores.messages.find? id :: w.trace.map (·.before.messages.find? id)

/-- **The property.**  Every two successive states of the row are a `RowStep`. -/
def SettlesOnce (w : World) (id : Uuid) : Prop :=
  List.IsChain (fun newer older => RowStep older newer) (w.rowStates id)

/-- The call writes into a reply row. -/
def Call.writesReply : Call → Bool
  | .CompleteGeneration _ | .EndGeneration _ => true
  | _ => false

/-! ## Steps that leave the messages alone -/

/-- From `w` to `w'` the calls `new` were made; none of them changed a message. -/
structure KeptThrough (new : List TraceEntry) (w w' : World) : Prop where
  trace : w'.trace = new ++ w.trace
  messages : w'.stores.messages = w.stores.messages
  before : ∀ entry ∈ new, entry.before.messages = w.stores.messages
  notReply : ∀ entry ∈ new, entry.call.writesReply = false
  assistantMessageId : w'.locals.assistantMessageId = w.locals.assistantMessageId

/-- The messages and the id of the reply are as before. -/
def MessagesKept (w w' : World) : Prop := ∃ new, KeptThrough new w w'

lemma KeptThrough.refl (w : World) : KeptThrough [] w w := by
  refine ⟨rfl, rfl, ?_, ?_, rfl⟩ <;> simp

lemma KeptThrough.trans {new new' : List TraceEntry} {w w' w'' : World} (h : KeptThrough new w w')
    (h' : KeptThrough new' w' w'') : KeptThrough (new' ++ new) w w'' := by
  refine ⟨by rw [h'.trace, h.trace, List.append_assoc], h'.messages.trans h.messages, ?_, ?_,
    h'.assistantMessageId.trans h.assistantMessageId⟩
  · intro entry hentry
    rcases List.mem_append.mp hentry with hentry | hentry
    · exact (h'.before entry hentry).trans h.messages
    · exact h.before entry hentry
  · intro entry hentry
    rcases List.mem_append.mp hentry with hentry | hentry
    · exact h'.notReply entry hentry
    · exact h.notReply entry hentry

lemma KeptThrough.log {c : Call} (hc : c.writesReply = false) (w : World) (v : Verdict) :
    KeptThrough [⟨c, v, w.stores, w.locals⟩] w (w.log c v) := by
  refine ⟨rfl, rfl, ?_, ?_, rfl⟩
  · simp
  · simpa using hc

lemma KeptThrough.same {w w' : World} (htrace : w'.trace = w.trace)
    (hmessages : w'.stores.messages = w.stores.messages)
    (hid : w'.locals.assistantMessageId = w.locals.assistantMessageId) : KeptThrough [] w w' := by
  refine ⟨htrace, hmessages, ?_, ?_, hid⟩ <;> simp

instance : IsPreorder World MessagesKept where
  refl w := ⟨[], .refl w⟩
  trans _ _ _ := fun ⟨_, h⟩ ⟨_, h'⟩ => ⟨_, h.trans h'⟩

lemma notReply_of_isQuiet {c : Call} (hc : c.isQuiet = true) : c.writesReply = false := by
  cases c <;> first | rfl | cases hc

lemma messagesKept_frame : CacheFrame MessagesKept where
  refl := Std.Refl.refl
  trans := IsTrans.trans
  logged w c v hc := ⟨_, KeptThrough.log (notReply_of_isQuiet (Call.isQuiet_of_isSilent hc)) w v⟩
  emitted w _ v := ⟨_, KeptThrough.log rfl w v⟩
  lockLogged w c v hc :=
    ⟨_, KeptThrough.log (notReply_of_isQuiet (Call.isQuiet_of_locksGeneration hc)) w v⟩
  stores _ _ h := ⟨[], .same rfl h.messages rfl⟩
  locals _ _ _ hid := ⟨[], .same rfl rfl hid⟩
  renewing _ _ := ⟨[], .same rfl rfl rfl⟩
  cacheLogged w c v hc :=
    ⟨_, KeptThrough.log (by cases c <;> simp_all [Call.usesCache, Call.writesReply]) w v⟩
  redis _ _ := ⟨[], .same rfl rfl rfl⟩

lemma messagesKept_promptFrame : PromptFrame MessagesKept where
  toQuietFrame := messagesKept_frame.toQuietFrame
  summaries _ _ := ⟨[], .same rfl rfl rfl⟩

/-- States in which the messages do not change do not change whether the row settles once. -/
lemma KeptThrough.settlesOnce_iff {new : List TraceEntry} {w w' : World} (h : KeptThrough new w w')
    (id : Uuid) : SettlesOnce w' id ↔ SettlesOnce w id := by
  simp only [SettlesOnce, World.rowStates]
  rw [h.trace, h.messages, List.map_append]
  have hbefore := h.before
  clear h
  induction new with
  | nil => rfl
  | cons entry new ih =>
      have hentry : entry.before.messages.find? id = w.stores.messages.find? id := by
        rw [hbefore entry List.mem_cons_self]
      have hrest := ih fun e he => hbefore e (List.mem_cons_of_mem _ he)
      rw [List.map_cons, hentry, List.cons_append, List.isChain_cons_cons]
      exact (and_iff_right (rowStep_refl _)).trans hrest

/-! ## Where the row is -/

section Phases

variable (env : Env) (s : Stores) (id : Uuid)

/-- The row `id` is the only reply that the run has created. -/
structure CreatedReply (w : World) : Prop where
  fresh : s.messages.find? id = none
  only : ∀ m ∈ w.stores.messages.rows, m.role = .Assistant →
    m.id ∈ s.messages.rows.map Message.id ∨ m.id = id

/-- No reply was created: the replies that are there are those from before the run. -/
def NoReply (w : World) : Prop :=
  ∀ m ∈ w.stores.messages.rows, m.role = .Assistant → m.id ∈ s.messages.rows.map Message.id

/-- The script carries out no call into a reply row that the run has made, except those that
satisfy `but`. -/
def UnwrittenBut (but : ℕ → Call → Prop) (w : World) : Prop :=
  ∀ k entry, w.callAt k = some entry → entry.call.writesReply = true →
    but k entry.call ∨ (env.verdict k entry.call).applied = false

/-- The reply is STREAMING and nothing has been written into it. -/
structure ReplyStreaming (w : World) : Prop extends CreatedReply s id w where
  row : ∃ m, w.stores.messages.find? id = some m ∧ m.status = .Streaming
  settles : SettlesOnce w id
  unwritten : UnwrittenBut env (fun _ _ => False) w

/-- `completeGeneration` was carried out as call `n`, and nothing else was written. -/
structure ReplyCompleted (n : ℕ) (w : World) : Prop extends CreatedReply s id w where
  row : ∃ m, w.stores.messages.find? id = some m ∧ m.status = .Completed
  settles : SettlesOnce w id
  applied : (env.verdict n (.CompleteGeneration id)).applied = true
  unwritten : UnwrittenBut env (fun k _ => k = n) w

/-- `endGeneration` was carried out and `completeGeneration` was not. -/
structure ReplyEnded (w : World) : Prop extends CreatedReply s id w where
  settles : SettlesOnce w id
  uncompleted : UnwrittenBut env (fun _ c => c ≠ .CompleteGeneration id) w

/-- `endGeneration` was carried out after `completeGeneration`. -/
structure ReplyOverwritten (w : World) : Prop extends CreatedReply s id w where
  unsettles : ¬ SettlesOnce w id

end Phases

section Stability

variable {env : Env} {s : Stores} {id : Uuid} {new : List TraceEntry} {w w' : World}

lemma KeptThrough.unwritten {but : ℕ → Call → Prop} (h : KeptThrough new w w')
    (hw : UnwrittenBut env but w) : UnwrittenBut env but w' := by
  intro k entry hentry hwrites
  rcases World.callAt_cases h.trace hentry with hentry | ⟨-, hentry⟩
  · exact hw k entry hentry hwrites
  · rw [h.notReply entry hentry] at hwrites
    cases hwrites

/-- One more call, which is an exception or is not carried out. -/
lemma UnwrittenBut.log {but : ℕ → Call → Prop} {c : Call} {v : Verdict} {s' : Stores}
    (hw : UnwrittenBut env but w) (hc : but w.tick c ∨ (env.verdict w.tick c).applied = false) :
    UnwrittenBut env but ((w.log c v).setStores s') := by
  intro k entry hentry hwrites
  have hlogged : ((w.log c v).setStores s').trace = [⟨c, v, w.stores, w.locals⟩] ++ w.trace := rfl
  rcases World.callAt_cases hlogged hentry with hold | ⟨hle, hmem⟩
  · exact hw k entry hold hwrites
  · have hlt : k < w.tick + 1 := World.callAt_lt hentry
    obtain rfl : k = w.tick := by omega
    obtain rfl := List.mem_singleton.mp hmem
    exact hc

lemma UnwrittenBut.mono {but but' : ℕ → Call → Prop} (hw : UnwrittenBut env but w)
    (h : ∀ k c, but k c → but' k c) : UnwrittenBut env but' w :=
  fun k entry hentry hwrites => (hw k entry hentry hwrites).imp_left (h k entry.call)

lemma CreatedReply.kept (h : KeptThrough new w w') (hw : CreatedReply s id w) :
    CreatedReply s id w' :=
  ⟨hw.fresh, h.messages ▸ hw.only⟩

lemma NoReply.kept (h : KeptThrough new w w') (hw : NoReply s w) : NoReply s w' := by
  simp only [NoReply] at hw ⊢
  rw [h.messages]
  exact hw

lemma ReplyStreaming.kept (h : KeptThrough new w w') (hw : ReplyStreaming env s id w) :
    ReplyStreaming env s id w' :=
  ⟨hw.toCreatedReply.kept h, h.messages ▸ hw.row, (h.settlesOnce_iff id).mpr hw.settles,
    h.unwritten hw.unwritten⟩

lemma ReplyCompleted.kept {n : ℕ} (h : KeptThrough new w w') (hw : ReplyCompleted env s id n w) :
    ReplyCompleted env s id n w' :=
  ⟨hw.toCreatedReply.kept h, h.messages ▸ hw.row, (h.settlesOnce_iff id).mpr hw.settles,
    hw.applied, h.unwritten hw.unwritten⟩

lemma ReplyEnded.kept (h : KeptThrough new w w') (hw : ReplyEnded env s id w) :
    ReplyEnded env s id w' :=
  ⟨hw.toCreatedReply.kept h, (h.settlesOnce_iff id).mpr hw.settles, h.unwritten hw.uncompleted⟩

lemma ReplyOverwritten.kept (h : KeptThrough new w w') (hw : ReplyOverwritten s id w) :
    ReplyOverwritten s id w' :=
  ⟨hw.toCreatedReply.kept h, fun hs => hw.unsettles ((h.settlesOnce_iff id).mp hs)⟩

end Stability

/-! ## The three writes -/

section Writes

variable {env : Env} {s : Stores} {id : Uuid} {w : World}

/-- The states of a row when one more call is logged and the messages change. -/
lemma settlesOnce_write {c : Call} {v : Verdict} {s' : Stores} :
    SettlesOnce ((w.log c v).setStores s') id
      ↔ RowStep (w.stores.messages.find? id) (s'.messages.find? id) ∧ SettlesOnce w id := by
  simp only [SettlesOnce, World.rowStates]
  exact List.isChain_cons_cons

/-- An update of the reply keeps every role and every id. -/
lemma CreatedReply.update {c : Call} {v : Verdict} {s' : Stores} {change : Message → Message}
    (hw : CreatedReply s id w) (hs' : s'.messages = w.stores.messages.update id change)
    (hrole : ∀ m, (change m).role = m.role) :
    CreatedReply s id ((w.log c v).setStores s') := by
  refine ⟨hw.fresh, ?_⟩
  intro m hm hassistant
  rw [World.stores_setStores, hs', MessageTable.rows_update] at hm
  obtain ⟨m₀, hm₀, rfl⟩ := List.mem_map.mp hm
  split at hassistant
  · rename_i hid
    rw [if_pos hid]
    exact hw.only m₀ hm₀ ((hrole m₀).symm.trans hassistant)
  · rename_i hid
    rw [if_neg hid]
    exact hw.only m₀ hm₀ hassistant

lemma beginGeneration_streaming {c : Call} {v : Verdict} {chatId : Uuid} {content : JsString}
    {model : String} {messages : Stores.GenerationMessages} {s' : Stores}
    (hw : MessagesKept (World.start s) w) (hc : c.writesReply = false)
    (h : w.stores.beginGeneration chatId content model = .ok (messages, s')) :
    ReplyStreaming env s messages.assistantMessage.id ((w.log c v).setStores s') := by
  obtain ⟨new, hnew⟩ := hw
  have hs : w.stores.messages = s.messages := hnew.messages
  simp only [Stores.beginGeneration] at h
  split at h
  · cases h
    set prompt := Stores.promptDraft chatId content
    set reply := Stores.replyDraft chatId model
    have hfresh : w.stores.messages.find? ((w.stores.messages.create prompt).newRow reply).id = none :=
      w.stores.messages.find?_eq_none_of_not_issued (Nat.le_succ _)
    have hfound : ((w.stores.messages.create prompt).create reply).find?
        ((w.stores.messages.create prompt).newRow reply).id
          = some ((w.stores.messages.create prompt).newRow reply) := by
      rw [MessageTable.find?_create]
      exact if_pos rfl
    refine ⟨⟨hs ▸ hfresh, ?_⟩, ⟨_, hfound, rfl⟩, ?_, ?_⟩
    · intro m hm hassistant
      simp only [World.stores_setStores, Stores.touchChat, MessageTable.rows_create,
        List.mem_append, List.mem_singleton] at hm
      rcases hm with (hm | rfl) | rfl
      · exact .inl (List.mem_map_of_mem (hs ▸ hm))
      · cases hassistant
      · exact .inr rfl
    · rw [settlesOnce_write]
      refine ⟨?_, (hnew.settlesOnce_iff _).mpr (.singleton _)⟩
      rw [hfresh]
      show RowStep none (((w.stores.messages.create prompt).create reply).find? _)
      rw [hfound]
      exact rfl
    · have hbegan : UnwrittenBut env (fun _ _ => False) (w.log c v) :=
        (KeptThrough.log hc w v).unwritten (hnew.unwritten fun _ _ hentry => by
          simp [World.callAt, World.start] at hentry)
      exact hbegan
  · cases h

lemma ReplyStreaming.completed {v : Verdict} {s' : Stores} {content : JsString}
    {promptTokens completionTokens : Option ℤ} {finishReason : Option String} {now : Timestamp}
    {message : Message} (hw : ReplyStreaming env s id w)
    (hv : env.verdict w.tick (.CompleteGeneration id) = v) (happlied : v.applied = true)
    (h : w.stores.completeGeneration id content promptTokens completionTokens finishReason now
      = .ok (message, s')) :
    ReplyCompleted env s id w.tick ((w.log (.CompleteGeneration id) v).setStores s') := by
  obtain ⟨m, hm, hstreaming⟩ := hw.row
  obtain ⟨message', s'', hok, hs', hfound, hcompleted⟩ :=
    completeGeneration_ok hm content promptTokens completionTokens finishReason now
  rw [h] at hok
  cases hok
  refine ⟨hw.toCreatedReply.update hs' fun _ => rfl, ⟨_, hfound, hcompleted⟩, ?_, hv ▸ happlied,
    (hw.unwritten.mono fun _ _ => False.elim).log (.inl rfl)⟩
  rw [settlesOnce_write, hm, hfound]
  exact ⟨.inl hstreaming, hw.settles⟩

lemma ReplyStreaming.ended {v : Verdict} {s' : Stores} {content : JsString}
    {errorCode : Option String} {now : Timestamp} {message : Message}
    (hw : ReplyStreaming env s id w)
    (h : w.stores.endGeneration id content errorCode now = .ok (message, s')) :
    ReplyEnded env s id ((w.log (.EndGeneration id) v).setStores s') := by
  obtain ⟨m, hm, hstreaming⟩ := hw.row
  obtain ⟨message', s'', hok, hs', hfound, -⟩ := endGeneration_ok hm content errorCode now
  rw [h] at hok
  cases hok
  refine ⟨hw.toCreatedReply.update hs' fun _ => rfl, ?_,
    (hw.unwritten.mono fun _ _ => False.elim).log (.inl nofun)⟩
  rw [settlesOnce_write, hm, hfound]
  exact ⟨.inl hstreaming, hw.settles⟩

/-- The defect: `endGeneration` does not look at the status. -/
lemma ReplyCompleted.overwritten {v : Verdict} {s' : Stores} {content : JsString}
    {errorCode : Option String} {now : Timestamp} {message : Message} {n : ℕ}
    (hw : ReplyCompleted env s id n w)
    (h : w.stores.endGeneration id content errorCode now = .ok (message, s')) :
    ReplyOverwritten s id ((w.log (.EndGeneration id) v).setStores s') := by
  obtain ⟨m, hm, hcompleted⟩ := hw.row
  obtain ⟨message', s'', hok, hs', hfound, hstatus⟩ := endGeneration_ok hm content errorCode now
  rw [h] at hok
  cases hok
  refine ⟨hw.toCreatedReply.update hs' fun _ => rfl, ?_⟩
  rw [settlesOnce_write, hm, hfound]
  rintro ⟨hstep, -⟩
  rcases hstep with hstreaming | ⟨hsame, -⟩
  · rw [hcompleted] at hstreaming
    cases hstreaming
  · rw [hcompleted] at hsame
    rcases hstatus with hstatus | hstatus <;> rw [hsame] at hstatus <;> cases hstatus

/-- A write that is not carried out leaves the reply where it is. -/
lemma ReplyStreaming.log {c : Call} {v : Verdict} (hw : ReplyStreaming env s id w)
    (hv : (env.verdict w.tick c).applied = false) : ReplyStreaming env s id (w.log c v) :=
  ⟨⟨hw.fresh, hw.only⟩, hw.row, settlesOnce_write.mpr ⟨rowStep_refl _, hw.settles⟩,
    hw.unwritten.log (.inr hv)⟩

lemma ReplyCompleted.log {c : Call} {v : Verdict} {n : ℕ} (hw : ReplyCompleted env s id n w)
    (hv : (env.verdict w.tick c).applied = false) : ReplyCompleted env s id n (w.log c v) :=
  ⟨⟨hw.fresh, hw.only⟩, hw.row, settlesOnce_write.mpr ⟨rowStep_refl _, hw.settles⟩, hw.applied,
    hw.unwritten.log (.inr hv)⟩

end Writes

/-! ## The `try` block -/

section Blocks

variable {env : Env} {config : StreamConfig} {s : Stores} {chatId : Uuid}

/-- The reply that was created is still STREAMING, or call `n` completed it; then the block ends as
the points after that call say. -/
def ReplyUnderWay (env : Env) (s : Stores) (chatId id : Uuid) (o : Outcome JsError Unit)
    (w : World) : Prop :=
  ReplyStreaming env s id w
    ∨ ∃ n points, ReplyCompleted env s id n w ∧ w.CommitAt env chatId id n points
      ∧ Settles points (n + 8) o w

/-- The entry of the commit determines what the steps after it are asked. -/
lemma commitAt_of_log {id : Uuid} {w w' : World} {v : Verdict} {s' : Stores} {completed : Message}
    {finalChunk : OllamaChatChunk} {new : List TraceEntry} (chatId : Uuid)
    (context : ChatStreamEvent) (hchunk : w.locals.finalChunk = some finalChunk)
    (hstored : w.stores.completeGeneration id w.locals.assistantContent finalChunk.promptTokens
      finalChunk.completionTokens finalChunk.finishReason (env.now (w.tick + 1))
      = .ok (completed, s'))
    (hlater : w'.trace = new ++ (w.log (.CompleteGeneration id) v).trace)
    (hsent : Settling.first (env.beforeContext w.tick chatId id completed (s'.history chatId))
      = .Passes → w'.eventAt (w.tick + 7) = some context) :
    w'.CommitAt env chatId id w.tick
      (env.afterCommit w.tick chatId id completed (s'.history chatId) (some context)) := by
  refine ⟨_, completed, s', context,
    World.callAt_append hlater (World.callAt_log w _ v), rfl, ?_, rfl, hsent⟩
  simp only [TraceEntry.commit, hchunk]
  exact hstored

/-- How `completeGeneration` ends, called in the world `w` where it would leave the row `completed`
and the stores `s'`: with that row; with an exception, which says nothing about whether the row has
been written; or never. -/
def CompletionOutcome (env : Env) (s s' : Stores) (id : Uuid) (completed : Message) (w : World) :
    Outcome JsError Message → World → Prop
  | .Returned message, w' => completed = message
      ∧ env.verdict w.tick (.CompleteGeneration id) = .Resolves
      ∧ w' = (w.log (.CompleteGeneration id) .Resolves).setStores s'
  | .Thrown _, w' =>
      (ReplyStreaming env s id w' ∧ w'.locals.assistantMessageId = w.locals.assistantMessageId)
        ∨ env.verdict w.tick (.CompleteGeneration id) = .RejectsLate
          ∧ w' = (w.log (.CompleteGeneration id) .RejectsLate).setStores s'
  | .Halted, w' =>
      ReplyStreaming env s id w' ∧ w'.locals.assistantMessageId = w.locals.assistantMessageId

/-- **After the model has answered.**  The reply is completed and the steps after the commit settle
as its points say; or it was never completed, and is still STREAMING. -/
lemma finishGeneration_spec {id : Uuid} {w : World} (hw : ReplyStreaming env s id w)
    (params : StreamChatParams) (model : Model) (summary : Option ConversationSummary)
    {finalChunk : OllamaChatChunk} (hchunk : w.locals.finalChunk = some finalChunk) :
    Eff.wp (finishGeneration env params model id summary finalChunk)
      (fun o w' => ReplyUnderWay env s params.chatId id o w'
        ∧ w'.locals.assistantMessageId = w.locals.assistantMessageId) w := by
  obtain ⟨m, hm, -⟩ := hw.row
  obtain ⟨completed, s', hstored, -⟩ := completeGeneration_ok hm w.locals.assistantContent
    finalChunk.promptTokens finalChunk.completionTokens finalChunk.finishReason
    (env.now (w.tick + 1))
  have hdone : ∀ v, env.verdict w.tick (.CompleteGeneration id) = v → v.applied = true →
      ReplyCompleted env s id w.tick ((w.log (.CompleteGeneration id) v).setStores s') :=
    fun v hv happlied => hw.completed hv happlied hstored
  set context := ChatStreamEvent.ContextUpdated
    (toChatContext model.maxContext summary (some completed))
  refine Eff.wp_bind_of_eq rfl ?_
  refine Eff.wp_seq (P := CompletionOutcome env s s' id completed w) ?_ ?_ ?_ ?_
  · refine wp_transact ?_ ?_ ?_ ?_
    · intro message s'' hv h
      cases hstored.symm.trans h
      exact ⟨rfl, hv, rfl⟩
    · rintro e v hv (rfl | herror)
      · exact .inl ⟨hw.log (by rw [hv]; rfl), rfl⟩
      · cases hstored.symm.trans herror
    · intro message s'' hv h
      cases hstored.symm.trans h
      exact .inr ⟨hv, rfl⟩
    · exact fun hv => ⟨hw.log (by rw [hv]; rfl), rfl⟩
  · rintro _ _ ⟨rfl, hv, rfl⟩
    have hanswered : env.answered w.tick (.CompleteGeneration id) (w.tick + 1) = .Passes := by
      simp [Env.answered, hv]
    have hframe := messagesKept_frame
    have hkeeps : Eff.Keeps MessagesKept (do
        recordUsage env params.principal params.chatId model.id .Chat finalChunk.promptTokens
          finalChunk.completionTokens
        RagStack.await env (.Service .RefreshHistory) (refresh env params.chatId)
        emit env (.MessageCompleted (toChatMessage completed))
        emit env context) :=
      .bind (hframe.recordUsage _ _ _ _ _ _) fun _ =>
        .bind (keeps_await (fun w v => hframe.logged w _ v rfl) (hframe.refresh _)) fun _ =>
          .bind (hframe.emit _) fun _ => hframe.emit _
    refine Eff.wp_mono (Eff.wp_and hkeeps.wp (afterCommit_settles (n := w.tick) rfl params model
      finalChunk completed context)) ?_
    rintro o w' ⟨⟨new, hnew⟩, hsettles⟩
    -- the acknowledgement is the first of the points, and it was passed
    have hpoints : SettlesThen
        (env.beforeContext w.tick params.chatId id completed (s'.history params.chatId))
        (fun o w' => Settles (env.eventPoints (w.tick + 7) context) (w.tick + 8) o w'
          ∧ w'.eventAt (w.tick + 7) = some context) o w' := by
      rw [Env.beforeContext, hanswered]
      exact hsettles
    refine ⟨.inr ⟨w.tick, _, (hdone _ hv rfl).kept hnew, commitAt_of_log params.chatId context hchunk
      hstored hnew.trace ?_, ?_⟩, hnew.assistantMessageId⟩
    · intro hpasses
      simp only [SettlesThen, hpasses] at hpoints
      exact hpoints.2
    · exact (settlesThen_append _ _).mpr (hpoints.mono And.left)
  · rintro e w' (⟨hstreaming, hid⟩ | ⟨hv, rfl⟩)
    · exact ⟨.inl hstreaming, hid⟩
    · have hanswered : env.answered w.tick (.CompleteGeneration id) (w.tick + 1)
          = .Throws (w.tick + 1) := by
        simp [Env.answered, hv]
      refine ⟨.inr ⟨w.tick, _, hdone _ hv rfl, commitAt_of_log params.chatId context hchunk hstored
        (List.nil_append _).symm ?_, ?_⟩, rfl⟩
      · rw [Env.beforeContext, hanswered]
        intro hpasses
        cases hpasses
      · rw [Env.afterCommit, Env.beforeContext, hanswered]
        exact ⟨⟨e, rfl⟩, rfl⟩
  · rintro w' ⟨hstreaming, hid⟩
    exact ⟨.inl hstreaming, hid⟩

/-- Where the `try` block can end: nothing was created; a reply was created but the block never
learned its id; or the reply is under way. -/
def BlockOutcome (env : Env) (s : Stores) (chatId : Uuid) (o : Outcome JsError Unit)
    (w : World) : Prop :=
  MessagesKept (World.start s) w
    ∨ (∃ id, ReplyStreaming env s id w ∧ w.locals.assistantMessageId = none)
    ∨ ∃ id, ReplyUnderWay env s chatId id o w ∧ w.locals.assistantMessageId = some id

/-- Once the reply exists and its id is known, a step that keeps the messages either ends the block
or leads to the next one. -/
lemma ReplyStreaming.next {α : Type} {m : Handler α} {f : α → Handler Unit} {id : Uuid} {w : World}
    (hm : Eff.Keeps MessagesKept m)
    (hw : ReplyStreaming env s id w ∧ w.locals.assistantMessageId = some id)
    (hf : ∀ a w', ReplyStreaming env s id w' ∧ w'.locals.assistantMessageId = some id →
      Eff.wp (f a) (BlockOutcome env s chatId) w') :
    Eff.wp (m >>= f) (BlockOutcome env s chatId) w := by
  have hstreaming : Eff.wp m
      (fun _ w' => ReplyStreaming env s id w' ∧ w'.locals.assistantMessageId = some id) w := by
    obtain ⟨new, hnew⟩ := hm w
    exact ⟨hw.1.kept hnew, hnew.assistantMessageId.trans hw.2⟩
  exact Eff.wp_seq hstreaming hf (fun _ _ h => .inr (.inr ⟨_, .inl h.1, h.2⟩))
    fun _ h => .inr (.inr ⟨_, .inl h.1, h.2⟩)

lemma generateReply_spec {w : World} {id : Uuid} (params : StreamChatParams) (model : Model)
    (history : List ChatHistoryEntry) (userMessageId : Uuid)
    (hw : ReplyStreaming env s id w ∧ w.locals.assistantMessageId = some id) :
    Eff.wp (generateReply env config params model history userMessageId id)
      (BlockOutcome env s params.chatId) w := by
  have hframe := messagesKept_frame
  refine ReplyStreaming.next (hframe.emit _) hw ?_
  rintro _ w₁ hw₁
  refine ReplyStreaming.next (keeps_await (fun w v => hframe.logged w _ v rfl)
    (messagesKept_promptFrame.buildPrompt _ (hframe.emit _))) hw₁ ?_
  rintro prompt w₂ hw₂
  have hreceive : Eff.Keeps MessagesKept (receiveReply env config id model prompt.messages) :=
    .bind (keeps_await (fun w v => ⟨_, .log rfl w v⟩) fun w => Std.Refl.refl w) fun t =>
      .bind (.forEach (fun chunk => hframe.receiveChunk _ chunk) _) fun _ => hframe.streamEnd t
  refine ReplyStreaming.next hreceive hw₂ ?_
  rintro _ w₃ hw₃
  refine Eff.wp_bind_of_eq rfl ?_
  split
  · exact .inr (.inr ⟨_, .inl hw₃.1, hw₃.2⟩)
  · rename_i finalChunk hchunk
    refine Eff.wp_mono (finishGeneration_spec hw₃.1 params model prompt.summary hchunk) ?_
    rintro o w' ⟨hunderWay, hid⟩
    exact .inr (.inr ⟨_, hunderWay, hid.trans hw₃.2⟩)

/-- What `beginGeneration` leaves: a reply that is being streamed, if it returns. -/
def BeginOutcome (env : Env) (s : Stores) : Outcome JsError Stores.GenerationMessages → World → Prop
  | .Returned messages, w => ReplyStreaming env s messages.assistantMessage.id w
  | .Thrown _, w => MessagesKept (World.start s) w
      ∨ ∃ id, ReplyStreaming env s id w ∧ w.locals.assistantMessageId = none
  | .Halted, w => MessagesKept (World.start s) w

lemma beginGeneration_spec {w : World} (hw : MessagesKept (World.start s) w) (chatId : Uuid)
    (content : JsString) (model : String) :
    Eff.wp (beginGeneration env chatId content model) (BeginOutcome env s) w := by
  have hlog : ∀ v, MessagesKept (World.start s) (World.log w (.BeginGeneration chatId) v) :=
    fun v => IsTrans.trans _ _ _ hw ⟨_, .log rfl _ v⟩
  refine wp_transact ?_ ?_ ?_ ?_
  · exact fun messages s' _ h => beginGeneration_streaming hw rfl h
  · exact fun e v _ _ => .inl (hlog v)
  · intro messages s' _ h
    obtain ⟨new, hnew⟩ := hw
    exact .inr ⟨_, beginGeneration_streaming ⟨new, hnew⟩ rfl h, hnew.assistantMessageId⟩
  · exact fun _ => hlog _

/-- **The `try` block.** -/
lemma generate_spec {w : World} (hw : MessagesKept (World.start s) w) (params : StreamChatParams)
    (model : Model) :
    Eff.wp (generate env config params model) (BlockOutcome env s params.chatId) w := by
  rw [generate_eq]
  have hframe := messagesKept_frame
  have hkept : ∀ {α : Type} {m : Handler α} {w₁ : World}, Eff.Keeps MessagesKept m →
      MessagesKept (World.start s) w₁ →
      Eff.wp m (fun _ w' => MessagesKept (World.start s) w') w₁ := fun hm hw₁ =>
    IsTrans.trans _ _ _ hw₁ (hm _)
  refine Eff.wp_seq (hkept (keeps_await (fun w v => hframe.logged w _ v rfl)
    (hframe.getHistory _)) hw) ?_ (fun _ _ h => .inl h) (fun _ h => .inl h)
  rintro history w₁ hw₁
  refine Eff.wp_bind_of_eq rfl ?_
  have hw₂ : MessagesKept (World.start s)
      { w₁ with locals := { w₁.locals with history := some history } } :=
    IsTrans.trans _ _ _ hw₁ ⟨[], .same rfl rfl rfl⟩
  refine Eff.wp_seq (beginGeneration_spec hw₂ params.chatId params.content model.name) ?_
    (fun _ _ h => h.imp_right .inl) (fun _ h => .inl h)
  rintro messages w₃ (hw₃ : ReplyStreaming env s messages.assistantMessage.id w₃)
  refine Eff.wp_bind_of_eq rfl ?_
  have hw₄ : ReplyStreaming env s messages.assistantMessage.id
        { w₃ with locals := { w₃.locals with
            assistantMessageId := some messages.assistantMessage.id } } :=
    ⟨⟨hw₃.fresh, hw₃.only⟩, hw₃.row, hw₃.settles, hw₃.unwritten⟩
  refine ReplyStreaming.next (keeps_await (fun w v => hframe.logged w _ v rfl)
    (hframe.append _ _)) ⟨hw₄, rfl⟩ ?_
  rintro _ w₅ hw₅
  exact generateReply_spec params model history _ hw₅

/-! ## The `catch` block -/

/-- Where a run can end.  If call `n` completed the reply, the row was overwritten exactly if the
script says so. -/
def RunOutcome (env : Env) (s : Stores) (chatId : Uuid) (w : World) : Prop :=
  NoReply s w
    ∨ ∃ id, ReplyStreaming env s id w
      ∨ ReplyEnded env s id w
      ∨ ∃ n points, w.CommitAt env chatId id n points
        ∧ (ReplyCompleted env s id n w ∧ ¬ env.Overwrites n id points
          ∨ ReplyOverwritten s id w ∧ env.Overwrites n id points)

lemma RunOutcome.kept {w w' : World} (hw : RunOutcome env s chatId w) (h : MessagesKept w w') :
    RunOutcome env s chatId w' := by
  obtain ⟨new, hnew⟩ := h
  rcases hw with hw | ⟨id, hw | hw | ⟨n, points, hcommit, hw⟩⟩
  · exact .inl (hw.kept hnew)
  · exact .inr ⟨id, .inl (hw.kept hnew)⟩
  · exact .inr ⟨id, .inr (.inl (hw.kept hnew))⟩
  · exact .inr ⟨id, .inr (.inr ⟨n, points, hcommit.append hnew.trace,
      hw.imp (And.imp_left (·.kept hnew)) (And.imp_left (·.kept hnew))⟩)⟩

lemma MessagesKept.runOutcome {w : World} (h : MessagesKept (World.start s) w) :
    RunOutcome env s chatId w := by
  obtain ⟨new, hnew⟩ := h
  exact .inl (NoReply.kept hnew fun m hm _ => List.mem_map_of_mem hm)

/-- A `try` block that does not throw leaves the committed row alone. -/
lemma ReplyUnderWay.runOutcome {id : Uuid} {o : Outcome JsError Unit} {w : World}
    (h : ReplyUnderWay env s chatId id o w) (ho : ∀ e, o ≠ .Thrown e) :
    RunOutcome env s chatId w := by
  rcases h with h | ⟨n, points, h, hcommit, hsettles⟩
  · exact .inr ⟨id, .inl h⟩
  · refine .inr ⟨id, .inr (.inr ⟨n, points, hcommit, .inl ⟨h, ?_⟩⟩)⟩
    rintro ⟨-, next, hfirst, -⟩
    obtain ⟨e, he⟩ := hsettles.exists_thrown hfirst
    exact ho e he

/-- `endGeneration` is the first call of the `catch` block, so the script decides on it under the
number at which the `try` block was left. -/
lemma endGeneration_spec {id : Uuid} {e : JsError} {w : World}
    (hw : ReplyUnderWay env s chatId id (.Thrown e) w) (content : JsString)
    (errorCode : Option String) :
    Eff.wp (endGeneration env id content errorCode) (fun _ w' => RunOutcome env s chatId w') w := by
  have hdone : ∀ v message s', env.verdict w.tick (.EndGeneration id) = v → v.applied = true →
      w.stores.endGeneration id content errorCode (env.now (w.tick + 1)) = .ok (message, s') →
      RunOutcome env s chatId ((w.log (.EndGeneration id) v).setStores s') := by
    intro v message s' hv happlied h
    rcases hw with hw | ⟨n, points, hw, hcommit, hsettles⟩
    · exact .inr ⟨id, .inr (.inl (hw.ended h))⟩
    · exact .inr ⟨id, .inr (.inr ⟨n, points, hcommit.append (List.singleton_append).symm,
        .inr ⟨hw.overwritten h, hw.applied, w.tick, hsettles.of_thrown, hv ▸ happlied⟩⟩)⟩
  have hnot : ∀ v, env.verdict w.tick (.EndGeneration id) = v → v.applied = false →
      RunOutcome env s chatId (w.log (.EndGeneration id) v) := by
    intro v hv happlied
    rw [← hv] at happlied
    rcases hw with hw | ⟨n, points, hw, hcommit, hsettles⟩
    · exact .inr ⟨id, .inl (hw.log happlied)⟩
    · refine .inr ⟨id, .inr (.inr ⟨n, points, hcommit.append (List.singleton_append).symm,
        .inl ⟨hw.log happlied, ?_⟩⟩)⟩
      rintro ⟨-, next, hfirst, hended⟩
      cases hsettles.of_thrown.symm.trans hfirst
      rw [happlied] at hended
      cases hended
  obtain ⟨m, hm⟩ : ∃ m, w.stores.messages.find? id = some m := by
    rcases hw with hw | ⟨n, points, hw, -, -⟩
    · exact ⟨_, hw.row.choose_spec.1⟩
    · exact ⟨_, hw.row.choose_spec.1⟩
  refine wp_transact (fun a s' hv h => hdone _ a s' hv rfl h) ?_
    (fun a s' hv h => hdone _ a s' hv rfl h) (fun hv => hnot _ hv rfl)
  rintro error v hv (rfl | herror)
  · exact hnot _ hv rfl
  · obtain ⟨message, s', hok, -⟩ := endGeneration_ok hm content errorCode (env.now (w.tick + 1))
    rw [hok] at herror
    cases herror

/-- **The `catch` block.** -/
lemma generationFailed_spec {e : JsError} {w : World} (params : StreamChatParams)
    (hw : BlockOutcome env s params.chatId (.Thrown e) w) :
    Eff.wp (generationFailed env params e) (fun _ w' => RunOutcome env s params.chatId w') w := by
  have hframe := messagesKept_frame
  refine Eff.wp_bind_of_eq rfl ?_
  -- what follows the update is the same in both branches
  have hafter : ∀ id, ReplyUnderWay env s params.chatId id (.Thrown e) w →
      ∀ content errorCode event,
      Eff.wp (do
        let _ ← endGeneration env id content errorCode
        refreshHistory env params.chatId
        emit env event) (fun _ w' => RunOutcome env s params.chatId w') w := by
    intro id hid content errorCode event
    refine Eff.wp_seq (endGeneration_spec hid content errorCode) ?_ (fun _ _ h => h) (fun _ h => h)
    rintro message w₁ hw₁
    have hrest : Eff.Keeps MessagesKept (do
        refreshHistory env params.chatId
        emit env event) := .bind (hframe.refreshHistory _) fun _ => hframe.emit _
    exact hw₁.kept (hrest w₁)
  have hnone : w.locals.assistantMessageId = none → RunOutcome env s params.chatId w := by
    intro hnone
    rcases hw with h | ⟨id, h, -⟩ | ⟨id, -, hid⟩
    · exact h.runOutcome
    · exact .inr ⟨id, .inl h⟩
    · rw [hnone] at hid
      cases hid
  have hsome : ∀ id, w.locals.assistantMessageId = some id →
      ReplyUnderWay env s params.chatId id (.Thrown e) w := by
    intro id hid
    rcases hw with ⟨new, h⟩ | ⟨id', -, h⟩ | ⟨id', h, hid'⟩
    · cases (h.assistantMessageId.symm.trans hid)
    · cases (h.symm.trans hid)
    · cases (hid'.symm.trans hid)
      exact h
  cases hid : w.locals.assistantMessageId with
  | none => exact hnone hid
  | some id =>
      refine Eff.wp_bind_of_eq rfl ?_
      cases env.aborted w.tick
      · exact hafter id (hsome id hid) _ _ _
      · exact hafter id (hsome id hid) _ _ _

/-- The `try` block with its `catch` block. -/
lemma tryGenerate_spec {w : World} (hw : MessagesKept (World.start s) w) (params : StreamChatParams)
    (model : Model) :
    Eff.wp (Eff.tryCatch (generate env config params model) (generationFailed env params))
      (fun _ w' => RunOutcome env s params.chatId w') w := by
  have hquiet : ∀ o w', (∀ e, o ≠ .Thrown e) → BlockOutcome env s params.chatId o w' →
      RunOutcome env s params.chatId w' := by
    rintro o w' ho (h | ⟨id, h, -⟩ | ⟨id, h, -⟩)
    · exact h.runOutcome
    · exact .inr ⟨id, .inl h⟩
    · exact h.runOutcome ho
  exact Eff.wp_tryCatch (generate_spec hw params model) (fun _ w' => hquiet _ w' nofun)
    (fun _ _ => generationFailed_spec params) (fun w' => hquiet _ w' nofun)

end Blocks

/-! ## Every run -/

/-- **The condition.**  If the run has called `completeGeneration` for the reply `id`, the script
does not overwrite it: the acknowledgement and the steps after it are not refused, or one of them
hangs before one is refused, or `endGeneration`, the call after the refused one, is not carried
out. -/
def CommitStands (env : Env) (chatId : Uuid) (w : World) (id : Uuid) : Prop :=
  ∀ n points, w.HasCommit env chatId id n points → ¬ env.Overwrites n id points

/-- A commit that the script does not carry out is not overwritten. -/
lemma UnwrittenBut.commitStands {env : Env} {chatId id : Uuid} {w : World}
    {but : ℕ → Call → Prop} (h : UnwrittenBut env but w)
    (hbut : ∀ n, but n (.CompleteGeneration id) →
      ∀ points, w.HasCommit env chatId id n points → ¬ env.Overwrites n id points) :
    CommitStands env chatId w id := by
  intro n points hcommit hoverwrites
  have ⟨entry, completed, s', hentry, hcall, _, _⟩ := hcommit
  rcases h n entry hentry (by rw [hcall]; rfl) with hexempt | hnot
  · rw [hcall] at hexempt
    exact hbut n hexempt points hcommit hoverwrites
  · rw [hcall, hoverwrites.1] at hnot
    cases hnot

/-- **The life of a reply.**  Whatever the collaborators do, the reply row created by a run leaves
STREAMING at most once and then keeps status, content and error code — if and only if the script
lets the commit of `completeGeneration` stand. -/
theorem reply_settlesOnce_iff (env : Env) (config : StreamConfig) (params : StreamChatParams)
    (s : Stores) (m : Message)
    (hm : m ∈ (stream env config params (World.start s)).2.stores.messages.rows)
    (hassistant : m.role = .Assistant) (hnew : m.id ∉ s.messages.rows.map Message.id) :
    SettlesOnce (stream env config params (World.start s)).2 m.id
      ↔ CommitStands env params.chatId (stream env config params (World.start s)).2 m.id := by
  have hrun : RunOutcome env s params.chatId (stream env config params (World.start s)).2 := by
    refine stream_rule messagesKept_frame.toLockFrame
      (Q := fun _ w' => RunOutcome env s params.chatId w') ?_ ?_
    · exact fun _ w' h _ => MessagesKept.runOutcome h
    · intro model w₁ hw₁
      exact Eff.wp_mono (tryGenerate_spec hw₁ params model) fun _ _ h _ _ hw₃ _ => h.kept hw₃
  generalize (stream env config params (World.start s)).2 = w at *
  have hid : ∀ id, CreatedReply s id w → m.id = id := fun id h =>
    (h.only m hm hassistant).resolve_left hnew
  rcases hrun with h | ⟨id, h | h | ⟨n, points, hcommit, ⟨h, hstands⟩ | ⟨h, hoverwrites⟩⟩⟩
  · exact absurd (h m hm hassistant) hnew
  · rw [hid id h.toCreatedReply]
    exact iff_of_true h.settles (h.unwritten.commitStands fun _ => False.elim)
  · rw [hid id h.toCreatedReply]
    exact iff_of_true h.settles (h.uncompleted.commitStands fun _ hnot => absurd rfl hnot)
  · rw [hid id h.toCreatedReply]
    refine iff_of_true h.settles (h.unwritten.commitStands ?_)
    rintro k rfl points' hcommit' hoverwrites
    refine hstands ⟨hoverwrites.1, ?_⟩
    rw [← hcommit.first_eq hcommit']
    exact hoverwrites.2
  · rw [hid id h.toCreatedReply]
    refine iff_of_false h.unsettles fun hstands => ?_
    obtain ⟨points', hcommit', hfirst⟩ := hcommit.exists_hasCommit
    refine hstands n points' hcommit' ⟨hoverwrites.1, ?_⟩
    rw [hfirst]
    exact hoverwrites.2

/-! ## A reload that fails -/

instance (w : World) (id : Uuid) : Decidable (SettlesOnce w id) := by
  simp only [SettlesOnce]
  infer_instance

/-- PostgreSQL cannot be read any more once the reply is there. -/
def lostReload : Env :=
  { Env.answering with
    verdict := fun t c => if c = .FindMessagesForHistory 1 ∧ 20 ≤ t then .Rejects else .Resolves }

/-- The reply of a run in which nothing fails. -/
def hiReply : Message where
  id := 1
  chatId := 1
  role := .Assistant
  status := .Completed
  content := js "Hi"
  model := some "llama3.2:1b"
  tokenCount := some 1
  tokenCountSource := .OllamaReported
  promptTokens := some 5
  completionTokens := some 1
  totalTokens := some 6
  finishReason := some "stop"
  errorCode := none
  createdAt := 1
  updatedAt := 21

/-- In a run without failures the reply settles once. -/
theorem reply_settlesOnce_iff_answering :
    SettlesOnce (stream .answering .defaults .hello (.start .oneChat)).2 1
      ↔ CommitStands .answering 1 (stream .answering .defaults .hello (.start .oneChat)).2 1 :=
  reply_settlesOnce_iff .answering .defaults .hello .oneChat hiReply (by decide +kernel)
    (by decide) (by decide)

/-- **A completed reply becomes FAILED.**  The reload of the history after the commit is rejected,
and the row goes from STREAMING to COMPLETED to FAILED. -/
theorem reply_failedAfterCompleted :
    ¬ SettlesOnce (stream lostReload .defaults .hello (.start .oneChat)).2 1
      ∧ (((stream lostReload .defaults .hello (.start .oneChat)).2.rowStates 1).map
          (·.map (·.status))).destutter (· ≠ ·)
        = [some .Failed, some .Completed, some .Streaming, none] := by
  decide +kernel

end RagStack
