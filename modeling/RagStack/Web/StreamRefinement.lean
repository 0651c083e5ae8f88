import RagStack.Chats.StreamEvents
import RagStack.Chats.Lifecycle
import RagStack.Web.PendingStream

/-!
# The client follows the server

The web client folds `applyStreamEvent` over the events of a request, the server buffers the reply
in `assistantContent` and writes the row.  Neither knows the other; the events are all they share.

The client simulates the server.  After any beginning of the events, its text is what the server had
buffered when it sent the last of them, its ids are those of the rows that `beginGeneration` has
created, and it shows a summarization from its announcement to the next delta.  These are the parts
of the relation, and each event keeps them: the server adds a delta to its buffer and sends it, the
client adds what it gets.

At the end the statuses have to agree as well.  What the client is told is the last event, what the
server has is the status of the row.  These are written at different times, and the write can fail,
so that a row stays unfinished while the client is told that its reply has failed.  Runs in which
the final status write is carried out are followed to the end.  They include those in which no reply
was created and there is no row.

One thing the client can never be told is that nothing happened because it has gone away.  If the
request is aborted before the rows exist, the handler of an aborted request sends no event,
deliberately.  A client that is still there has not aborted.

What is used of the outside are three named facts: writes to an open response succeed, a signal that
was aborted stays aborted, and error codes are not empty.

* `Follows` — after a prefix of the events the client has the server's text and the ids of its
  rows.
* `client_follows` — every run of the endpoint whose final status write is carried out, to the end.
* `client_leftStreaming` — a client that goes away before the rows exist is told nothing.
-/

namespace RagStack

/-! ## Folding the events

Each field of the client as a function of the events, by induction from the end. -/

/-- The ids after events in which `stream.started`, if it occurs, is that of `turn`. -/
lemma applyStreamEvents_ids (turn : StreamTurn) (pending : PendingStream)
    {events : List ChatStreamEvent}
    (h : ∀ event ∈ events, event.isStarted = true → event = turn.started) :
    ((∀ event ∈ events, event.isStarted = false)
        ∧ (applyStreamEvents pending events).userMessageId = pending.userMessageId
        ∧ (applyStreamEvents pending events).assistantMessageId = pending.assistantMessageId)
      ∨ (∃ event ∈ events, event.isStarted = true)
        ∧ (applyStreamEvents pending events).userMessageId = some turn.userMessageId
        ∧ (applyStreamEvents pending events).assistantMessageId = some turn.assistantMessageId := by
  induction events using List.reverseRecOn with
  | nil => exact .inl ⟨by simp, rfl, rfl⟩
  | append_singleton events event ih =>
      have hevents := ih fun e he => h e (List.mem_append_left _ he)
      rw [applyStreamEvents_append]
      cases hstarted : event.isStarted with
      | true =>
          cases h event (List.mem_append_right _ (List.mem_singleton_self _)) hstarted
          exact .inr ⟨⟨_, List.mem_append_right _ (List.mem_singleton_self _), rfl⟩, rfl, rfl⟩
      | false =>
          have hids : ∀ p, (applyStreamEvents p [event]).userMessageId = p.userMessageId
              ∧ (applyStreamEvents p [event]).assistantMessageId = p.assistantMessageId := by
            intro p
            cases event <;> first | exact ⟨rfl, rfl⟩ | cases hstarted
          rw [(hids _).1, (hids _).2]
          rcases hevents with ⟨hnone, hids⟩ | ⟨⟨e, he, hstart⟩, hids⟩
          · refine .inl ⟨fun e he => ?_, hids⟩
            rcases List.mem_append.mp he with he | he
            · exact hnone e he
            · rw [List.mem_singleton.mp he]
              exact hstarted
          · exact .inr ⟨⟨e, List.mem_append_left _ he, hstart⟩, hids⟩

/-- The client only shows a summarization that was announced after the last delta. -/
lemma applyStreamEvents_summarizing {pending : PendingStream} (hpending : pending.summarizing = false)
    {events : List ChatStreamEvent} (h : (applyStreamEvents pending events).summarizing = true) :
    ∃ before after, events = before ++ .ContextSummarizing :: after
      ∧ ∀ event ∈ after, event.isDelta = false := by
  induction events using List.reverseRecOn with
  | nil =>
      rw [applyStreamEvents_nil, hpending] at h
      cases h
  | append_singleton events event ih =>
      rw [applyStreamEvents_append] at h
      have hkeep : event.isDelta = false →
          (applyStreamEvents pending events).summarizing = true → ∃ before after,
            events ++ [event] = before ++ .ContextSummarizing :: after
              ∧ ∀ e ∈ after, e.isDelta = false := by
        intro hdelta hevents
        obtain ⟨before, after, rfl, hafter⟩ := ih hevents
        refine ⟨before, after ++ [event], by simp, fun e he => ?_⟩
        rcases List.mem_append.mp he with he | he
        · exact hafter e he
        · rw [List.mem_singleton.mp he]
          exact hdelta
      cases event with
      | ContextSummarizing => exact ⟨events, [], rfl, by simp⟩
      | MessageDelta id delta => cases h
      | _ => exact hkeep rfl h

/-- Only a terminal event changes the status. -/
lemma applyStreamEvents_status (pending : PendingStream) {events : List ChatStreamEvent}
    (h : ∀ event ∈ events, event.isTerminal = false) :
    (applyStreamEvents pending events).status = pending.status := by
  induction events generalizing pending with
  | nil => rfl
  | cons event events ih =>
      have hstep : (applyStreamEvent pending event).status = pending.status := by
        have hevent := h event List.mem_cons_self
        cases event <;> first | rfl | cases hevent
      exact (ih _ fun e he => h e (List.mem_cons_of_mem _ he)).trans hstep

/-! ## The simulation

The relation, and the runs of the endpoint in the form that the proofs about events have given them.
-/

/-- The text the server has buffered when it sends the last of these events. -/
def bufferedText (emissions : List (ChatStreamEvent × StreamLocals)) : JsString :=
  (emissions.getLast?.map (·.2.assistantContent)).getD []

/-- The client's state after some of the events of a run. -/
structure Follows (w : World) (emissions : List (ChatStreamEvent × StreamLocals))
    (pending : PendingStream) : Prop where
  /-- The text is what the server has buffered. -/
  text : pending.assistantText = bufferedText emissions
  /-- Before `stream.started` there are no ids. -/
  unstarted : (∀ emission ∈ emissions, emission.1.isStarted = false) →
    pending.userMessageId = none ∧ pending.assistantMessageId = none
  /-- From then on they are those of the rows that `beginGeneration` created. -/
  started : (∃ emission ∈ emissions, emission.1.isStarted = true) → ∃ turn, Begun turn w
    ∧ pending.userMessageId = some turn.userMessageId
    ∧ pending.assistantMessageId = some turn.assistantMessageId
  /-- A summarization is shown from its announcement to the next delta. -/
  summarizing : pending.summarizing = true →
    ∃ before after, emissions.map Prod.fst = before ++ .ContextSummarizing :: after
      ∧ ∀ event ∈ after, event.isDelta = false

/-- The row of the final status write. -/
def World.replyRow (w : World) : Option Message :=
  w.finalWrite.bind fun c => c.call.writtenReply.bind w.stores.messages.find?

/-- The final status write is carried out, or there is none because no reply was created. -/
def FinalWriteSucceeds (s : Stores) (w : World) : Prop :=
  match w.finalWrite with
  | some c => c.verdict.applied = true
  | none => NoReply s w

/-- The client's status is that of the reply. -/
structure StatusFollows (s : Stores) (w : World) (pending : PendingStream) : Prop where
  done : pending.status = .Done
    ↔ ∃ m, w.replyRow = some m ∧ (m.status = .Completed ∨ m.status = .Cancelled)
  error : pending.status = .Error ↔ (∃ m, w.replyRow = some m ∧ m.status = .Failed) ∨ NoReply s w

section Run

variable {env : Env} {s : Stores} {config : StreamConfig} {turn : StreamTurn}
  {opening : List ChatStreamEvent} {deltas : List JsString} {ending : List ChatStreamEvent}
  {status : MessageStatus → Prop} {w : World}

/-- The client's text after a prefix of the events. -/
lemma text_of_buffered (hbuffered : Buffered w.emissions)
    {pre : List (ChatStreamEvent × StreamLocals)} (hpre : pre <+: w.emissions) (chatId : Uuid)
    (content : JsString) :
    (applyStreamEvents (.initial chatId content) (pre.map Prod.fst)).assistantText
      = bufferedText pre := by
  rw [applyStreamEvents_assistantText]
  show [] ++ _ = _
  rw [List.nil_append]
  obtain ⟨rest, hrest⟩ := hpre
  induction pre using List.reverseRecOn with
  | nil => rfl
  | append_singleton before emission _ =>
      have h := hbuffered before emission rest (by rw [← hrest]; simp)
      rw [← h]
      simp [bufferedText]

/-- A prefix of the events, folded by a client that was told of no other turn. -/
lemma follows_of_started (turn : StreamTurn) (hbuffered : Buffered w.emissions)
    (hstarted : ∀ event ∈ w.events, event.isStarted = true → event = turn.started)
    (hbegun : (∃ event ∈ w.events, event.isStarted = true) → Begun turn w)
    {pre : List (ChatStreamEvent × StreamLocals)} (hpre : pre <+: w.emissions) (chatId : Uuid)
    (content : JsString) :
    Follows w pre (applyStreamEvents (.initial chatId content) (pre.map Prod.fst)) := by
  have hmem : ∀ event ∈ pre.map Prod.fst, event ∈ w.events := by
    intro event hevent
    rw [events_eq_emissions]
    exact List.map_subset Prod.fst hpre.subset hevent
  have hids := applyStreamEvents_ids turn (.initial chatId content)
    fun event hevent => hstarted event (hmem event hevent)
  refine ⟨text_of_buffered hbuffered hpre chatId content, ?_, ?_, ?_⟩
  · intro hnone
    rcases hids with ⟨-, hids⟩ | ⟨⟨event, hevent, hstart⟩, -⟩
    · exact hids
    · obtain ⟨emission, hemission, rfl⟩ := List.mem_map.mp hevent
      rw [hnone emission hemission] at hstart
      cases hstart
  · rintro ⟨emission, hemission, hstart⟩
    have hevent := List.mem_map_of_mem (f := Prod.fst) hemission
    rcases hids with ⟨hnone, -⟩ | ⟨-, hids⟩
    · rw [hnone _ hevent] at hstart
      cases hstart
    · exact ⟨turn, hbegun ⟨_, hmem _ hevent, hstart⟩, hids⟩
  · exact fun h => applyStreamEvents_summarizing rfl h

lemma Replying.started_eq {maxResponseChars : ℕ}
    (h : Replying s maxResponseChars turn opening deltas ending status w) {event : ChatStreamEvent}
    (hevent : event ∈ w.events) (hstart : event.isStarted = true) : event = turn.started := by
  rw [h.events] at hevent
  rcases List.mem_append.mp hevent with hevent | hevent
  · rcases List.mem_append.mp hevent with hevent | hevent
    · rcases h.isOpening with rfl | rfl | rfl
      · cases hevent
      · exact List.mem_singleton.mp hevent
      · rcases List.mem_pair.mp hevent with rfl | rfl
        · rfl
        · cases hstart
    · obtain ⟨delta, rfl⟩ := mem_deltas hevent
      cases hstart
  · rw [(h.isEnding.mem hevent).1] at hstart
    cases hstart

/-- The client's status is decided by the ending. -/
lemma Replying.status_eq {maxResponseChars : ℕ}
    (h : Replying s maxResponseChars turn opening deltas ending status w) (chatId : Uuid)
    (content : JsString) :
    (applyStreamEvents (.initial chatId content) w.events).status
      = match ending with
        | [] => .Streaming
        | .StreamError _ _ :: _ => .Error
        | _ => .Done := by
  rw [h.events]
  simp only [StreamTurn.events]
  rw [applyStreamEvents_append]
  have hfront : (applyStreamEvents (.initial chatId content)
      (opening ++ deltas.map (.MessageDelta turn.assistantMessageId))).status = .Streaming := by
    rw [applyStreamEvents_status]
    · rfl
    · intro event hevent
      rcases List.mem_append.mp hevent with hevent | hevent
      · rcases h.isOpening with rfl | rfl | rfl
        · cases hevent
        · rw [List.mem_singleton.mp hevent]
          rfl
        · rcases List.mem_pair.mp hevent with rfl | rfl <;> rfl
      · obtain ⟨delta, rfl⟩ := mem_deltas hevent
        rfl
  cases h.isEnding <;> first | exact hfront | rfl

/-- The reply of a turn is no reply from before the run. -/
lemma Replying.not_noReply {maxResponseChars : ℕ}
    (h : Replying s maxResponseChars turn opening deltas ending status w) : ¬ NoReply s w := by
  intro hno
  obtain ⟨m, hfound, hrole⟩ := h.row
  obtain ⟨m', hm', hid⟩ := List.mem_map.mp (hno m (List.mem_of_find?_eq_some hfound) hrole)
  have hfresh := h.fresh
  rw [← find?_id hfound, ← hid, s.messages.find?_of_mem hm'] at hfresh
  cases hfresh

/-- The row of the final status write has the text of the deltas. -/
lemma Replying.replyRow_eq {maxResponseChars : ℕ}
    (h : Replying s maxResponseChars turn opening deltas ending status w)
    (hfinal : FinalWriteSucceeds s w) :
    ∃ m, w.replyRow = some m ∧ m.content = deltas.flatten ∧ status m.status := by
  simp only [FinalWriteSucceeds] at hfinal
  cases hc : w.finalWrite with
  | none =>
      rw [hc] at hfinal
      exact absurd hfinal h.not_noReply
  | some c =>
      rw [hc] at hfinal
      obtain ⟨hid, hrow⟩ := h.wrote c hc
      obtain ⟨m, hfound, hcontent, hstatus⟩ := hrow hfinal
      refine ⟨m, ?_, hcontent, hstatus⟩
      simp only [World.replyRow]
      rw [hc, Option.bind_some, hid]
      exact hfound

end Run

/-- The client of a run of the endpoint: what it has after any beginning of the events, and what it
is left with in the end. -/
structure ClientFollows (env : Env) (s : Stores) (chatId : Uuid) (content : JsString)
    (run : Outcome JsError Unit × World) : Prop where
  /-- After every prefix of the events it has what the server has. -/
  prefixes : ∀ pre, pre <+: run.2.emissions →
    Follows run.2 pre (applyStreamEvents (.initial chatId content) (pre.map Prod.fst))
  /-- It is still streaming only if the signal was aborted or the run never settles. -/
  streaming : (applyStreamEvents (.initial chatId content) run.2.events).status = .Streaming →
    run.1 = .Halted ∨ ∃ t, env.aborted t = true
  /-- Otherwise its status is that of the reply. -/
  settled : (applyStreamEvents (.initial chatId content) run.2.events).status ≠ .Streaming →
    StatusFollows s run.2 (applyStreamEvents (.initial chatId content) run.2.events)
  /-- Its text is what the row has. -/
  text : ∀ m, run.2.replyRow = some m →
    (applyStreamEvents (.initial chatId content) run.2.events).assistantText = m.content

section Outcomes

variable {env : Env} {s : Stores} {ending : List ChatStreamEvent}
  {run : Outcome JsError Unit × World}

/-- No rows: the client was told nothing, or of an error. -/
lemma Unbegun.clientFollows (h : Unbegun ending run.2) (hending : IsEnding ending)
    (herrors : ∀ event ∈ ending, ∃ code message, event = .StreamError code message)
    (hended : ending = [] → run.1 = .Halted ∨ ∃ t, env.aborted t = true)
    (hfinal : FinalWriteSucceeds s run.2) (chatId : Uuid) (content : JsString) :
    ClientFollows env s chatId content run := by
  have hrow : run.2.replyRow = none := by
    simp only [World.replyRow]
    rw [h.unwritten]
    rfl
  have hno : NoReply s run.2 := by
    simp only [FinalWriteSucceeds] at hfinal
    rw [h.unwritten] at hfinal
    exact hfinal
  have hnone : ∀ event ∈ run.2.events, event.isStarted = false := by
    intro event hevent
    obtain ⟨code, message, rfl⟩ := herrors event (h.events ▸ hevent)
    rfl
  have hfollows : ∀ pre, pre <+: run.2.emissions → Follows run.2 pre
      (applyStreamEvents (.initial chatId content) (pre.map Prod.fst)) := by
    refine fun pre hpre => follows_of_started ⟨0, 0, 0, ""⟩ h.buffered ?_ ?_ hpre chatId content
    · intro event hevent hstart
      rw [hnone event hevent] at hstart
      cases hstart
    · rintro ⟨event, hevent, hstart⟩
      rw [hnone event hevent] at hstart
      cases hstart
  cases ending with
  | nil =>
      refine ⟨hfollows, fun _ => hended rfl, fun hne => absurd ?_ hne, by simp [hrow]⟩
      rw [h.events]
      rfl
  | cons event rest =>
      obtain ⟨code, message, rfl⟩ := herrors event List.mem_cons_self
      cases hending
      have hstatus : (applyStreamEvents (.initial chatId content) run.2.events).status = .Error := by
        rw [h.events]
        rfl
      refine ⟨hfollows, fun hstreaming => ?_, fun _ => ⟨?_, ?_⟩, by simp [hrow]⟩
      · rw [hstatus] at hstreaming
        cases hstreaming
      · simp [hstatus, hrow]
      · simp [hstatus, hno]

/-- A turn: the row that was written is the one the ending tells of. -/
lemma Replying.clientFollows {maxResponseChars : ℕ} {turn : StreamTurn}
    {opening : List ChatStreamEvent} {deltas : List JsString}
    (h : Replying s maxResponseChars turn opening deltas ending (StatusTold env ending) run.2)
    (haborts : env.AbortsOnce) (hcodes : env.CodesNonempty)
    (hended : ending = [] → run.1 = .Halted ∨ ∃ t, env.aborted t = true)
    (hfinal : FinalWriteSucceeds s run.2) (chatId : Uuid) (content : JsString) :
    ClientFollows env s chatId content run := by
  obtain ⟨m, hrow, hcontent, hstatus⟩ := h.replyRow_eq hfinal
  have htold := hstatus haborts hcodes
  have hpending := h.status_eq chatId content
  refine ⟨fun pre hpre => follows_of_started turn h.buffered (fun _ => h.started_eq)
    (fun _ => h.begun) hpre chatId content, ?_, ?_, ?_⟩
  · intro hstreaming
    rw [hpending] at hstreaming
    cases h.isEnding with
    | Open => exact hended rfl
    | _ => cases hstreaming
  · intro hne
    have hno := h.not_noReply
    cases h.isEnding with
    | Open => exact absurd hpending hne
    | Answered message =>
        have hnamed : m.status = .Completed := htold _ List.mem_cons_self _ rfl
        exact ⟨by simp [hpending, hrow, hnamed], by simp [hpending, hrow, hnamed, hno]⟩
    | Completed message context =>
        have hnamed : m.status = .Completed := htold _ List.mem_cons_self _ rfl
        exact ⟨by simp [hpending, hrow, hnamed], by simp [hpending, hrow, hnamed, hno]⟩
    | Cancelled id =>
        have hnamed : m.status = .Cancelled := htold _ List.mem_cons_self _ rfl
        exact ⟨by simp [hpending, hrow, hnamed], by simp [hpending, hrow, hnamed, hno]⟩
    | Failed code message =>
        have hnamed : m.status = .Failed := htold _ List.mem_cons_self _ rfl
        exact ⟨by simp [hpending, hrow, hnamed], by simp [hpending, hrow, hnamed]⟩
  · intro m' hm'
    cases hrow.symm.trans hm'
    rw [applyStreamEvents_assistantText, h.events, deltaText_events h.isOpening h.isEnding, hcontent]
    rfl

end Outcomes

/-- **The client follows the server** in every run whose final status write is carried out: after
any beginning of the events as the simulation says, and at the end with the status of the reply. -/
theorem client_follows (env : Env) (config : StreamConfig) (principal : Option RequestPrincipal)
    (chatId : Uuid) (content : JsString) (model : Option String) (s : Stores)
    (hwrites : env.WritesResolve) (haborts : env.AbortsOnce) (hcodes : env.CodesNonempty)
    (hfinal : FinalWriteSucceeds s (request env config principal chatId content model s).2) :
    ClientFollows env s chatId content (request env config principal chatId content model s) := by
  obtain ⟨ending, hshape, hended⟩ := streamEndpoint_outcome s config hwrites principal
    chatId content model
  rcases hshape with ⟨hending, herrors, h⟩ | ⟨turn, opening, deltas, h⟩
  · exact h.clientFollows hending herrors hended hfinal chatId content
  · exact h.clientFollows haborts hcodes hended hfinal chatId content

/-- A run without failures is followed to its end. -/
theorem client_follows_answering :
    ClientFollows .answering .oneChat 1 (js "Hello") (helloRequest .answering) := by
  refine client_follows .answering .defaults (some (.Anonymous 1)) 1 (js "Hello") none .oneChat
    (fun _ _ => rfl) (fun _ _ _ h => h) (by rintro t message ⟨⟩) ?_
  have hwritten : ((helloRequest .answering).2.finalWrite.map (·.verdict)) = some .Resolves := by
    decide +kernel
  obtain ⟨c, hc, hverdict⟩ := Option.map_eq_some_iff.mp hwritten
  simp only [FinalWriteSucceeds]
  show match (helloRequest .answering).2.finalWrite with
    | some c => c.verdict.applied = true
    | none => _
  rw [hc]
  show c.verdict.applied = true
  rw [hverdict]
  rfl

/-! ## A client that is gone

The first query fails because the request was aborted. -/

/-- The first query fails when the client has already gone. -/
def goneClient : Env :=
  { Env.answering with
    verdict := fun _ c => if c = .FindOwnedChat 1 then .Rejects else .Resolves
    aborted := fun _ => true }

/-- **Told nothing.**  No reply is created and no event is sent: the client, if it still were
there, would be streaming and not in error. -/
theorem client_leftStreaming :
    (helloRequest goneClient).1 ≠ .Halted
      ∧ FinalWriteSucceeds .oneChat (helloRequest goneClient).2
      ∧ ¬ StatusFollows .oneChat (helloRequest goneClient).2
        (applyStreamEvents (.initial 1 (js "Hello")) (helloRequest goneClient).2.events) := by
  have hunwritten : (helloRequest goneClient).2.finalWrite.isNone = true := by decide +kernel
  have hrows : (helloRequest goneClient).2.stores.messages.rows = [] := by decide +kernel
  have hstatus : (applyStreamEvents (.initial 1 (js "Hello"))
      (helloRequest goneClient).2.events).status = .Streaming := by decide +kernel
  have hno : NoReply .oneChat (helloRequest goneClient).2 := by
    intro m hm
    rw [hrows] at hm
    cases hm
  refine ⟨by decide +kernel, ?_, fun h => ?_⟩
  · simp only [FinalWriteSucceeds]
    rw [Option.isNone_iff_eq_none.mp hunwritten]
    exact hno
  · rw [h.error.mpr (.inr hno)] at hstatus
    cases hstatus

end RagStack
