import RagStack.Web.EventJson
import RagStack.Web.StreamRefinement
import RagStack.Web.UseChatStream

/-!
# A reply, from the endpoint to the page

The endpoint writes its events as frames, with heartbeats between them; the bytes arrive in chunks,
all of them or a beginning; `consumeSse` reads events from them, and `send` folds these into the
pending state and leaves an error or nothing.

The pieces have been treated one by one.  The endpoint sends events that fit what it stores, the
client that folds them follows the server, the bytes of the frames are read back however they are
cut, the data of an event survive JSON, and the hook works on its state step by step.  This file
puts them behind each other.  What comes out is a statement about a user who looks at the page and a
database at the other end of a connection that may break.

While the request runs the page shows what the server had when it sent the last event that has
arrived, and its text is a beginning of the text that is stored in the end.  A connection that fails
leaves an error on the page.  One that delivers everything leaves an error exactly if the reply has
failed or was never begun, unless the client has aborted.

Nothing is proved twice here.  The proofs translate: from bytes to events by the round trip, from
events to steps of the hook, and from the state of the hook to the simulation.  The hypotheses are
those of the parts.

* `IsWritten` — the frames of a run.
* `ClientReads`, `sendActions` — what `api.streamMessage` passes on, and the steps of `send`.
* `reply_over_wire` — what the page has at any time, what it is left with, and what this says of the
  reply the server stored.
-/

namespace RagStack

/-! ## The two ends

What the server writes, and what of it the client gets to see. -/

def frameOf (texts : WireTexts) (event : ChatStreamEvent) : SseFrame JsonMembers :=
  .Event (eventName event) (eventData texts event)

def SseFrame.isEvent {δ : Type} : SseFrame δ → Bool
  | Event .. => true
  | Heartbeat => false

/-- The frames are those of the events, with any heartbeats between them. -/
def IsWritten (texts : WireTexts) (events : List ChatStreamEvent)
    (frames : List (SseFrame JsonMembers)) : Prop :=
  frames.filter (·.isEvent) = events.map (frameOf texts)

def responseBytes (frames : List (SseFrame JsonMembers)) : List ℕ :=
  encodeText (sseText stringifyObject frames)

/-- What `api.streamMessage` passes to `onEvent`, and whether it throws. -/
structure ClientReads where
  events : List ChatStreamEvent
  threw : Bool
  deriving Repr, DecidableEq

/-- The client of a connection that delivers `chunks`, and then is closed or fails. -/
def clientReads (texts : WireTexts) (failed : Bool) (chunks : List (List ℕ)) : ClientReads :=
  let outcome := consumeSse parseObject failed chunks
  ⟨outcome.events.filterMap (readEvent texts), outcome.threw⟩

/-- The steps of `send` up to the last event. -/
def sendActions (chatId : Uuid) (content : JsString) (client : ClientReads) : List HookAction :=
  .Send chatId content :: client.events.map (.Event 0)

/-- The rest of `send`, with the text of the error if there is one. -/
def endActions (client : ClientReads) (message : String) : List HookAction :=
  [.End 0 (if client.threw then some message else none), .Refetched 0]

/-! ## Reading

The events that were read are a beginning of the events of the run. -/

section Reading

variable {texts : WireTexts} {events : List ChatStreamEvent} {frames : List (SseFrame JsonMembers)}

lemma IsWritten.sentEvents_eq (h : IsWritten texts events frames) :
    sentEvents frames = events.map (sentEvent texts) := by
  have hframes : sentEvents frames = sentEvents (frames.filter (·.isEvent)) := by
    clear h
    induction frames with
    | nil => rfl
    | cons frame frames ih =>
        cases frame with
        | Event event data => exact congrArg (_ :: ·) ih
        | Heartbeat => exact ih
  rw [hframes, h, sentEvents, List.filterMap_map]
  exact congrFun (List.filterMap_eq_map' (f := sentEvent texts)) events

/-- The events of a beginning of the bytes. -/
lemma clientReads_events (failed : Bool) (hwritten : IsWritten texts events frames)
    {chunks : List (List ℕ)} (hbegins : chunks.flatten <+: responseBytes frames) :
    (∃ n, (clientReads texts failed chunks).events = events.take n)
      ∧ (chunks.flatten = responseBytes frames → failed = false →
        clientReads texts failed chunks = ⟨events, false⟩) := by
  have hreads := consume_loop isJson_object failed chunks TextDecoder.at_initial
    (List.nil_append frames).symm rfl hbegins
  have hread : ∀ events : List ChatStreamEvent,
      (events.map (sentEvent texts)).filterMap (readEvent texts) = events := by
    intro events
    induction events with
    | nil => rfl
    | cons event events ih =>
        rw [List.map_cons, List.filterMap_cons_some (readEvent_sentEvent event), ih]
  constructor
  · have hpre := List.prefix_iff_eq_take.mp (hwritten.sentEvents_eq ▸ hreads.events)
    refine ⟨(consumeSse parseObject failed chunks).events.length, ?_⟩
    show (consumeSse parseObject failed chunks).events.filterMap (readEvent texts) = _
    rw [← List.map_take] at hpre
    exact (congrArg (List.filterMap (readEvent texts)) hpre).trans (hread _)
  · intro hwhole hfailed
    have hall : consumeSse parseObject failed chunks = ⟨sentEvents frames, false⟩ :=
      hreads.all ⟨hwhole, hfailed⟩
    rw [clientReads, hall, hwritten.sentEvents_eq, hread]

lemma consumeChunks_threw {δ : Type} (parse : JsString → Option δ) (decoder : TextDecoder)
    (buffer : JsString) (chunks : List (List ℕ)) :
    (consumeChunks parse true decoder buffer chunks).threw = true := by
  induction chunks generalizing decoder buffer with
  | nil => rfl
  | cons chunk chunks ih =>
      rw [consumeChunks, SseOutcome.andThen]
      split_ifs with hthrew
      · exact hthrew
      · exact ih _ _

end Reading

/-! ## The hook

With one send under way the hook has its state, and the steps of `send` are possible. -/

section Hook

variable (chatId : Uuid) (content : JsString)

/-- The hook while its only request runs. -/
def sendingHook (events : List ChatStreamEvent) : ChatStreamHook where
  pending := some (applyStreamEvents (.initial chatId content) events)
  controllerRef := some 0
  sends := [⟨chatId, content, .Streaming, false, events⟩]

lemma runHook_append (h : ChatStreamHook) (actions actions' : List HookAction) :
    runHook h (actions ++ actions') = (runHook h actions).bind fun h' => runHook h' actions' := by
  induction actions generalizing h with
  | nil => rfl
  | cons action actions ih =>
      rw [List.cons_append, runHook, runHook, Option.bind_assoc]
      exact congrArg _ (funext fun h' => ih h')

/-- The events of the request, one after another. -/
lemma runHook_events (events events' : List ChatStreamEvent) :
    runHook (sendingHook chatId content events) (events'.map (.Event 0))
      = some (sendingHook chatId content (events ++ events')) := by
  induction events' generalizing events with
  | nil => rw [List.append_nil, List.map_nil, runHook]
  | cons event events' ih =>
      have hstep : hookStep (sendingHook chatId content events) (.Event 0 event)
          = some (sendingHook chatId content (events ++ [event])) := by
        simp [hookStep, ChatStreamHook.callStep, ChatStreamHook.onEvent, sendingHook]
        rfl
      rw [List.map_cons, runHook, hstep, Option.bind_some, ih, List.append_assoc]
      rfl

lemma runHook_sendActions (client : ClientReads) :
    runHook .initial (sendActions chatId content client)
      = some (sendingHook chatId content client.events) := by
  have hstart : hookStep .initial (.Send chatId content) = some (sendingHook chatId content []) := rfl
  rw [sendActions, runHook, hstart, Option.bind_some, runHook_events, List.nil_append]

/-- `send` leaves an error behind, or nothing. -/
lemma runHook_endActions (client : ClientReads) (message : String) :
    ∃ h, runHook (sendingHook chatId content client.events) (endActions client message) = some h
      ∧ (h.pending.isSome ↔ client.threw = true
        ∨ (applyStreamEvents (.initial chatId content) client.events).status = .Error) := by
  obtain ⟨events, threw⟩ := client
  cases threw with
  | true => exact ⟨_, rfl, iff_of_true rfl (.inl rfl)⟩
  | false =>
      obtain ⟨h, hrun, hpending⟩ : ∃ h, runHook (sendingHook chatId content events)
          (endActions ⟨events, false⟩ message) = some h ∧ h.pending
            = (some (applyStreamEvents (.initial chatId content) events)).filter
              (·.status = .Error) := ⟨_, rfl, rfl⟩
      refine ⟨h, hrun, ?_⟩
      rw [hpending]
      by_cases herror : (applyStreamEvents (.initial chatId content) events).status = .Error
      · simp [herror]
      · simp [herror]

end Hook

/-! ## From the endpoint to the page

The parts, put together. -/

/-- What the page has of a reply, while the request runs, when a connection fails, and when
everything has arrived. -/
structure OverWire (env : Env) (s : Stores) (chatId : Uuid) (content : JsString)
    (run : Outcome JsError Unit × World) (client : ClientReads) (whole failed : Prop) : Prop where
  /-- While the request runs it shows what the server had when it sent the last event that
  arrived. -/
  shown : ∃ pre h, pre <+: run.2.emissions
    ∧ runHook .initial (sendActions chatId content client) = some h
    ∧ h.pending = some (applyStreamEvents (.initial chatId content) (pre.map Prod.fst))
    ∧ Follows run.2 pre (applyStreamEvents (.initial chatId content) (pre.map Prod.fst))
  /-- Its text is a beginning of the text that is stored. -/
  text : ∀ h p m, runHook .initial (sendActions chatId content client) = some h →
    h.pending = some p → run.2.replyRow = some m → p.assistantText <+: m.content
  /-- When a connection that failed is through, an error stays. -/
  broken : failed → ∀ message h,
    runHook .initial (sendActions chatId content client ++ endActions client message) = some h →
      h.pending.isSome
  /-- When everything arrived, an error stays exactly if the reply failed or was not begun. -/
  told : whole → run.1 ≠ .Halted → (∀ t, env.aborted t = false) → ∀ message h,
    runHook .initial (sendActions chatId content client ++ endActions client message) = some h →
      (h.pending.isSome ↔ (∃ m, run.2.replyRow = some m ∧ m.status = .Failed) ∨ NoReply s run.2)
  /-- The send comes to its end. -/
  ends : ∀ message, ∃ h,
    runHook .initial (sendActions chatId content client ++ endActions client message) = some h

/-- **A reply, from the endpoint to the page.**  The endpoint has run, its final status write was
carried out, and its events were written with heartbeats between them.  A beginning of the bytes
arrives in any chunks, and then the connection is closed or fails. -/
theorem reply_over_wire (texts : WireTexts) (env : Env) (config : StreamConfig)
    (principal : Option RequestPrincipal) (chatId : Uuid) (content : JsString)
    (model : Option String) (s : Stores) (hwrites : env.WritesResolve) (haborts : env.AbortsOnce)
    (hcodes : env.CodesNonempty)
    (hfinal : FinalWriteSucceeds s (request env config principal chatId content model s).2)
    (frames : List (SseFrame JsonMembers))
    (hwritten : IsWritten texts (request env config principal chatId content model s).2.events frames)
    (chunks : List (List ℕ)) (hbegins : chunks.flatten <+: responseBytes frames) (failed : Bool) :
    OverWire env s chatId content (request env config principal chatId content model s)
      (clientReads texts failed chunks)
      (chunks.flatten = responseBytes frames ∧ failed = false) (failed = true) := by
  have hfollows : ClientFollows env s chatId content
      (request env config principal chatId content model s) := by
    obtain ⟨ending, hshape, hended⟩ := streamEndpoint_outcome s config hwrites principal
      chatId content model
    rcases hshape with ⟨hending, herrors, h⟩ | ⟨turn, opening, deltas, h⟩
    · exact h.clientFollows hending herrors hended hfinal chatId content
    · exact h.clientFollows haborts hcodes hended hfinal chatId content
  obtain ⟨⟨n, hread⟩, hall⟩ := clientReads_events failed hwritten hbegins
  generalize request env config principal chatId content model s = run at *
  have hpre : (run.2.emissions.take n).map Prod.fst = (clientReads texts failed chunks).events := by
    rw [hread, events_eq_emissions, List.map_take]
  have hafter : ∀ message h,
      runHook .initial (sendActions chatId content (clientReads texts failed chunks)
        ++ endActions (clientReads texts failed chunks) message) = some h →
      runHook (sendingHook chatId content (clientReads texts failed chunks).events)
        (endActions (clientReads texts failed chunks) message) = some h := by
    intro message h hrun
    rwa [runHook_append, runHook_sendActions, Option.bind_some] at hrun
  refine ⟨?_, ?_, ?_, ?_, ?_⟩
  · refine ⟨run.2.emissions.take n, _, List.take_prefix n _, runHook_sendActions chatId content _, ?_,
      hfollows.prefixes _ (List.take_prefix n _)⟩
    rw [hpre]
    rfl
  · intro h p m hrun hpending hrow
    rw [runHook_sendActions] at hrun
    cases hrun
    cases hpending
    rw [← hfollows.text m hrow, applyStreamEvents_assistantText, applyStreamEvents_assistantText,
      hread]
    refine ⟨deltaText (run.2.events.drop n), ?_⟩
    rw [List.append_assoc, deltaText, deltaText, ← List.flatMap_append, List.take_append_drop]
    rfl
  · rintro hfailed message h hrun
    obtain ⟨h', hrun', hsome⟩ := runHook_endActions chatId content
      (clientReads texts failed chunks) message
    cases (hafter message h hrun).symm.trans hrun'
    refine hsome.mpr (.inl ?_)
    subst hfailed
    exact consumeChunks_threw parseObject .initial [] chunks
  · rintro ⟨hwhole, hfailed⟩ hover hnever message h hrun
    obtain ⟨h', hrun', hsome⟩ := runHook_endActions chatId content
      (clientReads texts failed chunks) message
    cases (hafter message h hrun).symm.trans hrun'
    rw [hsome, hall hwhole hfailed]
    have hsettled : (applyStreamEvents (.initial chatId content) run.2.events).status
        ≠ .Streaming := by
      intro hstreaming
      rcases hfollows.streaming hstreaming with hhalted | ⟨t, ht⟩
      · exact hover hhalted
      · rw [hnever t] at ht
        cases ht
    rw [← (hfollows.settled hsettled).error]
    simp
  · intro message
    obtain ⟨h, hrun, -⟩ := runHook_endActions chatId content
      (clientReads texts failed chunks) message
    exact ⟨h, by rw [runHook_append, runHook_sendActions, Option.bind_some, hrun]⟩

/-- Ids and times by their numbers. -/
def numberTexts : WireTexts where
  uuid id := toJs (natText id)
  readUuid text := ((readNat text).map Prod.fst).getD 0
  readUuid_uuid := readNat_natText
  isoString time := toJs (natText time)
  readIsoString text := ((readNat text).map Prod.fst).getD 0
  readIsoString_isoString := readNat_natText

/-- The frames of a run without failures, after a heartbeat. -/
def answeringFrames : List (SseFrame JsonMembers) :=
  .Heartbeat :: (helloRequest .answering).2.events.map (frameOf numberTexts)

/-- Their bytes in two chunks. -/
def answeringChunks : List (List ℕ) :=
  [(responseBytes answeringFrames).take 100, (responseBytes answeringFrames).drop 100]

/-- A run without failures reaches the page. -/
theorem reply_over_wire_answering :
    OverWire .answering .oneChat 1 (js "Hello") (helloRequest .answering)
      (clientReads numberTexts false answeringChunks)
      (answeringChunks.flatten = responseBytes answeringFrames ∧ false = false) (false = true) := by
  have hwritten : ((helloRequest .answering).2.finalWrite.map (·.verdict)) = some .Resolves := by
    decide +kernel
  obtain ⟨c, hc, hverdict⟩ := Option.map_eq_some_iff.mp hwritten
  have hfinal : FinalWriteSucceeds .oneChat (helloRequest .answering).2 := by
    rw [FinalWriteSucceeds, hc]
    show c.verdict.applied = true
    rw [hverdict]
    rfl
  refine reply_over_wire numberTexts .answering .defaults (some (.Anonymous 1)) 1 (js "Hello") none
    .oneChat (fun _ _ => rfl) (fun _ _ _ h => h) (by rintro t message ⟨⟩) hfinal answeringFrames ?_
    answeringChunks ?_ false
  · rw [IsWritten, answeringFrames, List.filter_cons_of_neg (by decide)]
    exact List.filter_eq_self.mpr fun frame hframe => by
      obtain ⟨event, -, rfl⟩ := List.mem_map.mp hframe
      rfl
  · simp [answeringChunks]

end RagStack
