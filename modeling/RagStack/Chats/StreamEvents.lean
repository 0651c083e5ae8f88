import RagStack.Chats.Lemmas.Frame
import RagStack.Chats.Lemmas.Throws
import RagStack.Core.Runs

/-!
# The events of a request

A request tells its client an opening, the deltas of the reply and an ending.  The opening is empty
until `stream.started`; the ending is written by the `try` block, by the `catch` block or by the
controller, and by one of them only.

All that is claimed about the order of events follows from this shape, so the shape is what is
carried through a run.  `Replying` is the state of a run once its rows exist, with the events so far
cut into the three parts.  Every call either adds nothing to them, or prolongs the deltas, or writes
a piece of the ending, and the same lemmas say what happened to the buffered reply meanwhile: it is
the text of the deltas, at every event and not only at the end.

The row is compared with the events through its last write.  Between the last delta and that write
nothing is buffered, so the row has the text that was told, whichever block writes it.  Its status
agrees with the ending if the signal stays aborted once it is; a signal that came back could let the
row be CANCELLED and the event be an error.

* `wellOrdered_of_parts` — events of this shape are in order.
* `Replying` — what holds of a run once its rows exist: the events so far, the buffered reply they
  spell, and the row that the final status write left behind.  `Unbegun` is the state before.
* `stream_events` — the events of every run of the endpoint, and the row behind them.
-/

namespace RagStack

/-! ## The shape of the events

A turn is named by its rows, because a delta names the reply it belongs to. -/

/-- The rows and names of one turn, which `stream.started` tells the client and all later events
refer to. -/
structure StreamTurn where
  chatId : Uuid
  userMessageId : Uuid
  assistantMessageId : Uuid
  model : String

/-- `stream.started` of the turn. -/
def StreamTurn.started (turn : StreamTurn) : ChatStreamEvent :=
  .StreamStarted turn.chatId turn.userMessageId turn.assistantMessageId turn.model

/-- What precedes the deltas: `stream.started` when the rows exist, and the announcement of a
summarization if one is made. -/
def IsOpening (turn : StreamTurn) (opening : List ChatStreamEvent) : Prop :=
  opening = [] ∨ opening = [turn.started] ∨ opening = [turn.started, .ContextSummarizing]

/-- What follows the deltas.  A run that is not answered in the end sends no more than one event
here, and a completed one may stop between its two. -/
inductive IsEnding : List ChatStreamEvent → Prop
  | Open : IsEnding []
  | Answered (message : ChatMessage) : IsEnding [.MessageCompleted message]
  | Completed (message : ChatMessage) (context : ChatContext) :
      IsEnding [.MessageCompleted message, .ContextUpdated context]
  | Cancelled (assistantMessageId : Uuid) : IsEnding [.StreamCancelled assistantMessageId]
  | Failed (code message : String) : IsEnding [.StreamError code message]

def StreamTurn.events (turn : StreamTurn) (opening : List ChatStreamEvent) (deltas : List JsString)
    (ending : List ChatStreamEvent) : List ChatStreamEvent :=
  opening ++ deltas.map (.MessageDelta turn.assistantMessageId) ++ ending

section Parts

variable {turn : StreamTurn} {opening : List ChatStreamEvent} {deltas : List JsString}
  {ending : List ChatStreamEvent}

lemma IsOpening.started_mem (h : IsOpening turn opening) (hne : opening ≠ []) :
    turn.started ∈ opening := by
  rcases h with rfl | rfl | rfl
  · exact absurd rfl hne
  · exact List.mem_singleton_self _
  · exact List.mem_cons_self

lemma mem_deltas {e : ChatStreamEvent} {id : Uuid}
    (he : e ∈ deltas.map (ChatStreamEvent.MessageDelta id)) : ∃ delta, e = .MessageDelta id delta := by
  obtain ⟨delta, -, rfl⟩ := List.mem_map.mp he
  exact ⟨delta, rfl⟩

lemma IsEnding.mem (h : IsEnding ending) {e : ChatStreamEvent} (he : e ∈ ending) :
    e.isStarted = false ∧ e.isDelta = false ∧ e ≠ .ContextSummarizing := by
  cases h with
  | Open => cases he
  | Answered message =>
      rw [List.mem_singleton.mp he]
      exact ⟨rfl, rfl, by simp⟩
  | Completed message context =>
      rcases List.mem_pair.mp he with rfl | rfl <;> exact ⟨rfl, rfl, by simp⟩
  | Cancelled id =>
      rw [List.mem_singleton.mp he]
      exact ⟨rfl, rfl, by simp⟩
  | Failed code message =>
      rw [List.mem_singleton.mp he]
      exact ⟨rfl, rfl, by simp⟩

/-- Where an event of a turn is: in the opening, among the deltas or in the ending. -/
lemma StreamTurn.events_split {before after : List ChatStreamEvent} {event : ChatStreamEvent}
    (h : turn.events opening deltas ending = before ++ event :: after) :
    (∃ rest, opening = before ++ event :: rest)
      ∨ (∃ rest delta, before = opening ++ rest ∧ (∀ e ∈ rest, e.isDelta = true)
        ∧ event = .MessageDelta turn.assistantMessageId delta ∧ deltas ≠ [])
      ∨ ∃ rest, before = opening ++ deltas.map (.MessageDelta turn.assistantMessageId) ++ rest
        ∧ ending = rest ++ event :: after := by
  rcases append_eq_append_cons h with ⟨rest, hfront, -⟩ | ⟨rest, hbefore, hend⟩
  · rcases append_eq_append_cons hfront with ⟨rest', hop, -⟩ | ⟨rest', hbefore, hmiddle⟩
    · exact .inl ⟨rest', hop⟩
    · have hmem : ∀ e ∈ rest' ++ event :: rest,
          ∃ delta, e = .MessageDelta turn.assistantMessageId delta :=
        fun e he => mem_deltas (hmiddle ▸ he)
      obtain ⟨delta, hdelta⟩ := hmem event (List.mem_append_right _ List.mem_cons_self)
      refine .inr (.inl ⟨rest', delta, hbefore, ?_, hdelta, ?_⟩)
      · intro e he
        obtain ⟨delta', rfl⟩ := hmem e (List.mem_append_left _ he)
        rfl
      · rintro rfl
        simp at hmiddle
  · exact .inr (.inr ⟨rest, hbefore, hend⟩)

/-- Where an event of the opening is. -/
lemma IsOpening.split {before rest : List ChatStreamEvent} {event : ChatStreamEvent}
    (h : IsOpening turn opening) (hsplit : opening = before ++ event :: rest) :
    before = [] ∧ event = turn.started ∨ before = [turn.started] ∧ event = .ContextSummarizing := by
  rcases h with rfl | rfl | rfl
  · simp at hsplit
  · cases before with
    | nil =>
        cases hsplit
        exact .inl ⟨rfl, rfl⟩
    | cons e before => simp at hsplit
  · cases before with
    | nil =>
        cases hsplit
        exact .inl ⟨rfl, rfl⟩
    | cons e before =>
        cases before with
        | nil =>
            cases hsplit
            exact .inr ⟨rfl, rfl⟩
        | cons e' before => simp at hsplit

/-- Where an event of the ending is. -/
lemma IsEnding.split {before after : List ChatStreamEvent} {event : ChatStreamEvent}
    (h : IsEnding ending) (hsplit : ending = before ++ event :: after) :
    (before = [] ∧ event.isTerminal = true
        ∧ (after = [] ∨ (∃ message, event = .MessageCompleted message)
          ∧ ∃ context, after = [.ContextUpdated context]))
      ∨ ∃ message context, before = [.MessageCompleted message] ∧ event = .ContextUpdated context := by
  cases h with
  | Open => simp at hsplit
  | Answered message =>
      cases before with
      | nil =>
          cases hsplit
          exact .inl ⟨rfl, rfl, .inl rfl⟩
      | cons e before => simp at hsplit
  | Completed message context =>
      cases before with
      | nil =>
          cases hsplit
          exact .inl ⟨rfl, rfl, .inr ⟨⟨_, rfl⟩, _, rfl⟩⟩
      | cons e before =>
          cases before with
          | nil =>
              cases hsplit
              exact .inr ⟨_, _, rfl, rfl⟩
          | cons e' before => simp at hsplit
  | Cancelled id =>
      cases before with
      | nil =>
          cases hsplit
          exact .inl ⟨rfl, rfl, .inl rfl⟩
      | cons e before => simp at hsplit
  | Failed code message =>
      cases before with
      | nil =>
          cases hsplit
          exact .inl ⟨rfl, rfl, .inl rfl⟩
      | cons e before => simp at hsplit

/-- An event that is counted in one part only. -/
lemma StreamTurn.count_events (p : ChatStreamEvent → Bool)
    (hdelta : ∀ id delta, p (.MessageDelta id delta) = false) :
    ((turn.events opening deltas ending).filter p).length
      = (opening.filter p).length + (ending.filter p).length := by
  have hmiddle : (deltas.map (ChatStreamEvent.MessageDelta turn.assistantMessageId)).filter p = [] := by
    rw [List.filter_eq_nil_iff]
    intro e he
    obtain ⟨delta, rfl⟩ := mem_deltas he
    simp [hdelta]
  simp [StreamTurn.events, hmiddle]

/-- **The order of the parts.**  An opening, deltas only after `stream.started`, and an ending are
in order. -/
lemma wellOrdered_of_parts (turn : StreamTurn) (deltas : List JsString)
    (hopening : IsOpening turn opening)
    (hstarted : deltas ≠ [] → opening ≠ []) (hending : IsEnding ending) :
    WellOrdered (turn.events opening deltas ending) where
  terminal_once := by
    rw [StreamTurn.count_events _ fun _ _ => rfl]
    have hop : (opening.filter (·.isTerminal)).length = 0 := by
      rcases hopening with rfl | rfl | rfl <;> rfl
    have hend : (ending.filter (·.isTerminal)).length ≤ 1 := by
      cases hending <;> simp [ChatStreamEvent.isTerminal]
    omega
  started_once := by
    rw [StreamTurn.count_events _ fun _ _ => rfl]
    have hop : (opening.filter (·.isStarted)).length ≤ 1 := by
      rcases hopening with rfl | rfl | rfl <;> simp [StreamTurn.started, ChatStreamEvent.isStarted]
    have hend : (ending.filter (·.isStarted)).length = 0 := by cases hending <;> rfl
    omega
  started_first := by
    intro before event after h hevent
    rcases StreamTurn.events_split h with ⟨rest, hop⟩ | ⟨rest, delta, rfl, -, -, hne⟩ | ⟨rest, -, hend⟩
    · rcases hopening.split hop with ⟨-, rfl⟩ | ⟨rfl, -⟩
      · simp [StreamTurn.started, ChatStreamEvent.isDelta] at hevent
      · exact ⟨_, List.mem_singleton_self _, rfl⟩
    · exact ⟨_, List.mem_append_left _ (hopening.started_mem (hstarted hne)), rfl⟩
    · have hmem := hending.mem (hend ▸ List.mem_append_right rest List.mem_cons_self)
      rcases hevent with rfl | hdelta
      · exact absurd rfl hmem.2.2
      · rw [hmem.2.1] at hdelta
        cases hdelta
  summarizing_once := by
    rw [List.count_eq_length_filter, StreamTurn.count_events _ fun _ _ => rfl]
    have hop : (opening.filter (· == ChatStreamEvent.ContextSummarizing)).length ≤ 1 := by
      rcases hopening with rfl | rfl | rfl <;> simp [StreamTurn.started]
    have hend : (ending.filter (· == ChatStreamEvent.ContextSummarizing)).length = 0 := by
      cases hending <;> rfl
    omega
  summarizing_first := by
    intro before after h e he
    rcases StreamTurn.events_split h with ⟨rest, hop⟩ | ⟨rest, delta, -, -, hdelta, -⟩ | ⟨rest, -, hend⟩
    · rcases hopening.split hop with ⟨rfl, -⟩ | ⟨rfl, -⟩
      · cases he
      · rw [List.mem_singleton.mp he]
        rfl
    · cases hdelta
    · exact absurd rfl (hending.mem (hend ▸ List.mem_append_right rest List.mem_cons_self)).2.2
  terminal_last := by
    intro before event after h hterminal
    rcases StreamTurn.events_split h with ⟨rest, hop⟩ | ⟨rest, delta, -, -, rfl, -⟩ | ⟨rest, -, hend⟩
    · rcases hopening.split hop with ⟨-, rfl⟩ | ⟨-, rfl⟩ <;> cases hterminal
    · cases hterminal
    · rcases hending.split hend with ⟨-, -, hlast⟩ | ⟨message, context, -, rfl⟩
      · exact hlast
      · cases hterminal
  updated_last := by
    intro before context after h
    rcases StreamTurn.events_split h with
      ⟨rest, hop⟩ | ⟨rest, delta, -, -, hdelta, -⟩ | ⟨rest, rfl, hend⟩
    · rcases hopening.split hop with ⟨-, hstart⟩ | ⟨-, hstart⟩ <;> cases hstart
    · cases hdelta
    · rcases hending.split hend with ⟨-, hterminal, -⟩ | ⟨message, context', rfl, -⟩
      · cases hterminal
      · exact ⟨_, message, rfl⟩

end Parts

/-! ## What one call adds

Most calls are aside: they send nothing, write no reply and assign nothing. -/

lemma emissions_log_of_not_isEvent {c : Call} (hc : c.isEvent = false) (w : World) (v : Verdict) :
    (w.log c v).emissions = w.emissions := by
  simp only [World.emissions]
  rw [World.trace_log, List.reverse_cons, List.filterMap_append]
  cases c <;> first | exact List.append_nil _ | cases hc

lemma emissions_emit (w : World) (event : ChatStreamEvent) :
    (w.log (.Emit event) .Resolves).emissions = w.emissions ++ [(event, w.locals)] := by
  simp only [World.emissions]
  rw [World.trace_log, List.reverse_cons, List.filterMap_append]
  rfl

lemma finalWrite_log_of_not_written {c : Call} (hc : c.writtenReply = none) (w : World)
    (v : Verdict) : (w.log c v).finalWrite = w.finalWrite := by
  simp only [World.finalWrite]
  rw [World.trace_log, List.find?_cons_of_neg]
  simp [hc]

lemma finalWrite_log_of_written {c : Call} {id : Uuid} (hc : c.writtenReply = some id) (w : World)
    (v : Verdict) : (w.log c v).finalWrite = some ⟨c, v, w.stores, w.locals⟩ := by
  simp only [World.finalWrite]
  rw [World.trace_log, List.find?_cons_of_pos]
  simp [hc]

/-- Only other things happened: no event, no write into a reply, no assignment. -/
structure Aside (w w' : World) : Prop where
  emissions : w'.emissions = w.emissions
  finalWrite : w'.finalWrite = w.finalWrite
  locals : w'.locals = w.locals
  messages : w'.stores.messages = w.stores.messages
  trace : w.trace <:+ w'.trace

instance : IsPreorder World Aside where
  refl _ := ⟨rfl, rfl, rfl, rfl, List.suffix_rfl⟩
  trans _ _ _ h h' := ⟨h'.emissions.trans h.emissions, h'.finalWrite.trans h.finalWrite,
    h'.locals.trans h.locals, h'.messages.trans h.messages, h.trace.trans h'.trace⟩

lemma Aside.log {c : Call} (hc : c.isEvent = false) (hw : c.writtenReply = none) (w : World)
    (v : Verdict) : Aside w (w.log c v) :=
  ⟨emissions_log_of_not_isEvent hc w v, finalWrite_log_of_not_written hw w v, rfl, rfl,
    List.suffix_cons _ _⟩

lemma Aside.same {w w' : World} (htrace : w'.trace = w.trace) (hlocals : w'.locals = w.locals)
    (hmessages : w'.stores.messages = w.stores.messages) : Aside w w' := by
  refine ⟨?_, ?_, hlocals, hmessages, by rw [htrace]⟩
  · rw [World.emissions, htrace, World.emissions]
  · rw [World.finalWrite, htrace, World.finalWrite]

/-- The end of a run is no earlier than its beginning. -/
lemma Aside.tick_le {w w' : World} (h : Aside w w') : w.tick ≤ w'.tick := h.trace.length_le

lemma Call.aside_of_isSilent {c : Call} (hc : c.isSilent = true) :
    c.isEvent = false ∧ c.writtenReply = none := by
  cases c <;> simp_all [isSilent, isQuiet, isEvent, writtenReply]

lemma aside_historyFrame : HistoryFrame Aside where
  refl := Std.Refl.refl
  trans := IsTrans.trans
  logged w c v hc := .log (Call.aside_of_isSilent hc).1 (Call.aside_of_isSilent hc).2 w v
  stores _ _ h := .same rfl rfl h.messages
  cacheLogged w c v hc := .log (by cases c <;> first | rfl | cases hc)
    (by cases c <;> first | rfl | cases hc) w v
  redis _ _ := .same rfl rfl rfl

lemma aside_summaryFrame : SummaryFrame Aside where
  toSilentFrame := aside_historyFrame.toSilentFrame
  summaries _ _ := .same rfl rfl rfl

lemma aside_lockFrame : LockFrame Aside where
  toSilentFrame := aside_historyFrame.toSilentFrame
  lockLogged w c v hc := .log (by cases c <;> first | rfl | cases hc)
    (by cases c <;> first | rfl | cases hc) w v
  renewing _ _ := .same rfl rfl rfl

/-! ## The state of a request

The invariant of the proof.  It is a structure with parameters for the three parts, so that a step
lemma says which of them it prolongs. -/

/-- At every event the buffered reply is the text of the deltas so far, that event's included. -/
def Buffered (emissions : List (ChatStreamEvent × StreamLocals)) : Prop :=
  ∀ before emission after, emissions = before ++ emission :: after →
    emission.2.assistantContent = deltaText ((before ++ [emission]).map Prod.fst)

lemma Buffered.snoc {emissions : List (ChatStreamEvent × StreamLocals)}
    {emission : ChatStreamEvent × StreamLocals} (h : Buffered emissions)
    (htext : emission.2.assistantContent = deltaText ((emissions ++ [emission]).map Prod.fst)) :
    Buffered (emissions ++ [emission]) := by
  intro before e after hsplit
  rcases append_eq_append_cons hsplit with ⟨rest, hemissions, -⟩ | ⟨rest, rfl, hlast⟩
  · exact h before e rest hemissions
  · cases rest with
    | nil =>
        cases hlast
        simpa using htext
    | cons e' rest => simp at hlast

@[simp] lemma deltaText_append (events events' : List ChatStreamEvent) :
    deltaText (events ++ events') = deltaText events ++ deltaText events' := List.flatMap_append

/-- The text of the parts is the text of the deltas. -/
lemma deltaText_events {turn : StreamTurn} {opening ending : List ChatStreamEvent}
    {deltas : List JsString} (hopening : IsOpening turn opening) (hending : IsEnding ending) :
    deltaText (turn.events opening deltas ending) = deltas.flatten := by
  have hop : deltaText opening = [] := by rcases hopening with rfl | rfl | rfl <;> rfl
  have hend : deltaText ending = [] := by cases hending <;> rfl
  have hmiddle : deltaText (deltas.map (.MessageDelta turn.assistantMessageId)) = deltas.flatten := by
    simp only [deltaText]
    rw [List.flatMap_map]
    exact List.flatMap_id
  simp [StreamTurn.events, hop, hend, hmiddle]

/-- The rows of the turn are those that `beginGeneration` created. -/
def Begun (turn : StreamTurn) (w : World) : Prop :=
  ∃ entry ∈ w.trace, entry.call = .BeginGeneration turn.chatId ∧ entry.verdict = .Resolves
    ∧ ∃ content messages s', entry.before.beginGeneration turn.chatId content turn.model
        = .ok (messages, s')
      ∧ messages.userMessage.id = turn.userMessageId
      ∧ messages.assistantMessage.id = turn.assistantMessageId

/-- The row behind the final status write: if that was carried out, the reply has the text that was
told, under the status `status`. -/
def Wrote (id : Uuid) (text : JsString) (status : MessageStatus → Prop) (w : World) : Prop :=
  ∀ c, w.finalWrite = some c → c.call.writtenReply = some id ∧ (c.verdict.applied = true →
    ∃ m, w.stores.messages.find? id = some m ∧ m.content = text ∧ status m.status)

/-- Nothing was told and nothing written, and `stream` knows of no reply; `ending` is what the
controller adds. -/
structure Unbegun (ending : List ChatStreamEvent) (w : World) : Prop where
  events : w.events = ending
  buffered : Buffered w.emissions
  named : w.locals.assistantMessageId = none
  text : w.locals.assistantContent = []
  unwritten : w.finalWrite = none

/-- A turn under way: what was told, the reply buffered so far, and its row. -/
structure Replying (s : Stores) (maxResponseChars : ℕ) (turn : StreamTurn)
    (opening : List ChatStreamEvent) (deltas : List JsString) (ending : List ChatStreamEvent)
    (status : MessageStatus → Prop) (w : World) : Prop where
  events : w.events = turn.events opening deltas ending
  isOpening : IsOpening turn opening
  isEnding : IsEnding ending
  started : deltas ≠ [] → opening ≠ []
  buffered : Buffered w.emissions
  named : w.locals.assistantMessageId = some turn.assistantMessageId
  text : w.locals.assistantContent = deltas.flatten
  fits : deltas.flatten.length ≤ maxResponseChars
  begun : Begun turn w
  fresh : s.messages.find? turn.assistantMessageId = none
  row : ∃ m, w.stores.messages.find? turn.assistantMessageId = some m ∧ m.role = .Assistant
  wrote : Wrote turn.assistantMessageId deltas.flatten status w

section Steps

variable {s : Stores} {maxResponseChars : ℕ} {turn : StreamTurn} {opening : List ChatStreamEvent}
  {deltas : List JsString} {ending : List ChatStreamEvent} {status : MessageStatus → Prop}
  {w w' : World}

lemma Aside.events_eq (h : Aside w w') : w'.events = w.events := by
  rw [events_eq_emissions, h.emissions, events_eq_emissions]

lemma Begun.mono (h : Begun turn w) (htrace : w.trace <:+ w'.trace) : Begun turn w' := by
  obtain ⟨entry, hentry, hbegun⟩ := h
  exact ⟨entry, htrace.subset hentry, hbegun⟩

lemma Unbegun.aside (h : Unbegun ending w) (ha : Aside w w') : Unbegun ending w' :=
  ⟨ha.events_eq.trans h.events, ha.emissions ▸ h.buffered, ha.locals ▸ h.named,
    ha.locals ▸ h.text, ha.finalWrite.trans h.unwritten⟩

lemma Replying.aside (h : Replying s maxResponseChars turn opening deltas ending status w)
    (ha : Aside w w') : Replying s maxResponseChars turn opening deltas ending status w' where
  events := ha.events_eq.trans h.events
  isOpening := h.isOpening
  isEnding := h.isEnding
  started := h.started
  buffered := ha.emissions ▸ h.buffered
  named := ha.locals ▸ h.named
  text := ha.locals ▸ h.text
  fits := h.fits
  begun := h.begun.mono ha.trace
  fresh := h.fresh
  row := ha.messages ▸ h.row
  wrote := by
    simp only [Wrote]
    rw [ha.finalWrite, ha.messages]
    exact h.wrote

/-- One more event after the same deltas: a longer opening, or the next part of the ending. -/
lemma Replying.told (h : Replying s maxResponseChars turn opening deltas ending status w)
    (opening' ending' : List ChatStreamEvent) (event : ChatStreamEvent)
    (hevents : turn.events opening deltas ending ++ [event] = turn.events opening' deltas ending')
    (hopening : IsOpening turn opening') (hending : IsEnding ending')
    (hstarted : deltas ≠ [] → opening' ≠ []) :
    Replying s maxResponseChars turn opening' deltas ending' status
      (w.log (.Emit event) .Resolves) := by
  have hemissions := emissions_emit w event
  have hall : (w.log (.Emit event) .Resolves).events = turn.events opening' deltas ending' := by
    rw [events_eq_emissions, hemissions, List.map_append, ← events_eq_emissions, h.events, ← hevents]
    rfl
  refine ⟨hall, hopening, hending, hstarted, ?_, h.named, h.text, h.fits, h.begun.mono
    (List.suffix_cons _ _), h.fresh, h.row, ?_⟩
  · rw [hemissions]
    refine h.buffered.snoc ?_
    rw [← hemissions, ← events_eq_emissions, hall, deltaText_events hopening hending]
    exact h.text
  · simp only [Wrote]
    rw [finalWrite_log_of_not_written rfl]
    exact h.wrote

lemma Replying.delta {delta : JsString} {l : StreamLocals}
    (h : Replying s maxResponseChars turn opening deltas [] status w) (hne : opening ≠ [])
    (hl : l.assistantContent = w.locals.assistantContent ++ delta)
    (hid : l.assistantMessageId = w.locals.assistantMessageId)
    (hfits : w.locals.assistantContent.length + delta.length ≤ maxResponseChars)
    (hunwritten : w.finalWrite = none) :
    Replying s maxResponseChars turn opening (deltas ++ [delta]) [] status
      (World.log { w with locals := l }
        (.Emit (.MessageDelta turn.assistantMessageId delta)) .Resolves) := by
  set w₁ : World := { w with locals := l }
  have hflatten : (deltas ++ [delta]).flatten = deltas.flatten ++ delta := by simp
  have htext : l.assistantContent = (deltas ++ [delta]).flatten := by
    rw [hl, h.text, hflatten]
  have hemissions := emissions_emit w₁ (.MessageDelta turn.assistantMessageId delta)
  have hall : (w₁.log (.Emit (.MessageDelta turn.assistantMessageId delta)) .Resolves).events
      = turn.events opening (deltas ++ [delta]) [] := by
    have hevents : w₁.events = turn.events opening deltas [] := h.events
    rw [events_eq_emissions, hemissions, List.map_append, ← events_eq_emissions, hevents]
    simp [StreamTurn.events]
  refine ⟨hall, h.isOpening, h.isEnding, fun _ => hne, ?_, hid.trans h.named, htext, ?_,
    h.begun.mono (List.suffix_cons _ _), h.fresh, h.row, ?_⟩
  · rw [hemissions]
    refine Buffered.snoc h.buffered ?_
    rw [← hemissions, ← events_eq_emissions, hall, deltaText_events h.isOpening h.isEnding]
    exact htext
  · rw [hflatten, List.length_append, ← h.text]
    exact hfits
  · intro c hc
    rw [finalWrite_log_of_not_written rfl] at hc
    exact absurd (hunwritten.symm.trans hc) (by simp)

/-- A write into the reply which was carried out. -/
lemma Replying.written {c : Call} {v : Verdict} {s' : Stores} {status' : MessageStatus → Prop}
    (h : Replying s maxResponseChars turn opening deltas ending status w)
    (hevent : c.isEvent = false) (hc : c.writtenReply = some turn.assistantMessageId)
    (hrow : ∃ m, s'.messages.find? turn.assistantMessageId = some m ∧ m.role = .Assistant
      ∧ m.content = w.locals.assistantContent ∧ status' m.status) :
    Replying s maxResponseChars turn opening deltas ending status' ((w.log c v).setStores s') := by
  obtain ⟨m, hfound, hrole, hcontent, hstatus⟩ := hrow
  have hemissions : ((w.log c v).setStores s').emissions = w.emissions :=
    emissions_log_of_not_isEvent hevent w v
  refine ⟨?_, h.isOpening, h.isEnding, h.started, ?_, h.named, h.text, h.fits,
    h.begun.mono (List.suffix_cons _ _), h.fresh, ⟨m, hfound, hrole⟩, ?_⟩
  · rw [events_eq_emissions, hemissions, ← events_eq_emissions]
    exact h.events
  · rw [hemissions]
    exact h.buffered
  · intro c' hc'
    have hfinal : ((w.log c v).setStores s').finalWrite = some ⟨c, v, w.stores, w.locals⟩ :=
      finalWrite_log_of_written hc w v
    cases hfinal.symm.trans hc'
    exact ⟨hc, fun _ => ⟨m, hfound, hcontent.trans h.text, hstatus⟩⟩

/-- A write into the reply which was not carried out. -/
lemma Replying.notWritten {c : Call} {v : Verdict} {status' : MessageStatus → Prop}
    (h : Replying s maxResponseChars turn opening deltas ending status w)
    (hevent : c.isEvent = false) (hc : c.writtenReply = some turn.assistantMessageId)
    (hv : v.applied = false) :
    Replying s maxResponseChars turn opening deltas ending status' (w.log c v) := by
  have hemissions : (w.log c v).emissions = w.emissions := emissions_log_of_not_isEvent hevent w v
  refine ⟨?_, h.isOpening, h.isEnding, h.started, ?_, h.named, h.text, h.fits,
    h.begun.mono (List.suffix_cons _ _), h.fresh, h.row, ?_⟩
  · rw [events_eq_emissions, hemissions, ← events_eq_emissions]
    exact h.events
  · rw [hemissions]
    exact h.buffered
  · intro c' hc'
    cases (finalWrite_log_of_written hc w v).symm.trans hc'
    refine ⟨hc, fun happlied => ?_⟩
    change v.applied = true at happlied
    rw [hv] at happlied
    cases happlied

lemma Replying.mono {status' : MessageStatus → Prop}
    (h : Replying s maxResponseChars turn opening deltas ending status w)
    (hstatus : ∀ st, status st → status' st) :
    Replying s maxResponseChars turn opening deltas ending status' w where
  __ := h
  wrote c hc := by
    obtain ⟨hid, hrow⟩ := h.wrote c hc
    refine ⟨hid, fun happlied => ?_⟩
    obtain ⟨m, hfound, hcontent, hst⟩ := hrow happlied
    exact ⟨m, hfound, hcontent, hstatus _ hst⟩

end Steps

/-! ## The calls that matter -/

section Calls

variable {env : Env} {config : StreamConfig} {s : Stores} {turn : StreamTurn}

lemma emit_eq (hwrites : env.WritesResolve) (event : ChatStreamEvent) (w : World) :
    emit env event w = (.Returned (), w.log (.Emit event) .Resolves) := by
  have hv := hwrites w.tick event
  simp only [emit, query, transact, await]
  simp only [hv]
  rfl

/-- What `completeGeneration` leaves in a row that exists. -/
lemma completeGeneration_row {t s' : Stores} {id : Uuid} {m message : Message}
    (hm : t.messages.find? id = some m) {content : JsString} {promptTokens completionTokens : Option ℤ}
    {finishReason : Option String} {now : Timestamp}
    (h : t.completeGeneration id content promptTokens completionTokens finishReason now
      = .ok (message, s')) :
    ∃ m', s'.messages.find? id = some m' ∧ m'.role = m.role ∧ m'.content = content
      ∧ m'.status = .Completed := by
  have hfound : (t.messages.update id
      (Stores.completed content promptTokens completionTokens finishReason now)).find? id
        = some { Stores.completed content promptTokens completionTokens finishReason now m with
            id := m.id } := by
    rw [MessageTable.find?_update, hm, Option.map_some, if_pos (find?_id hm)]
  simp only [Stores.completeGeneration] at h
  simp only [hfound] at h
  cases h
  exact ⟨_, hfound, rfl, rfl, rfl⟩

/-- What `endGeneration` leaves in a row that exists. -/
lemma endGeneration_row {t s' : Stores} {id : Uuid} {m message : Message}
    (hm : t.messages.find? id = some m) {content : JsString} {errorCode : Option String}
    {now : Timestamp} (h : t.endGeneration id content errorCode now = .ok (message, s')) :
    ∃ m', s'.messages.find? id = some m' ∧ m'.role = m.role ∧ m'.content = content
      ∧ m'.status = if errorCode.any (· ≠ "") then .Failed else .Cancelled := by
  have hfound : (t.messages.update id (Stores.ended content errorCode now)).find? id
      = some { Stores.ended content errorCode now m with id := m.id } := by
    rw [MessageTable.find?_update, hm, Option.map_some, if_pos (find?_id hm)]
  simp only [Stores.endGeneration] at h
  simp only [hfound] at h
  cases h
  exact ⟨_, hfound, rfl, rfl, rfl⟩

/-- The rows that `beginGeneration` creates start a turn without a word. -/
lemma replying_of_beginGeneration {chatId : Uuid} {content : JsString} {model : String}
    {messages : Stores.GenerationMessages} {s' : Stores} {w : World} (maxResponseChars : ℕ)
    (hw : Unbegun [] w) (hmessages : w.stores.messages = s.messages)
    (h : w.stores.beginGeneration chatId content model = .ok (messages, s')) :
    Replying s maxResponseChars ⟨chatId, messages.userMessage.id, messages.assistantMessage.id, model⟩
      [] [] [] (fun _ => True)
      { (w.log (.BeginGeneration chatId) .Resolves).setStores s' with
        locals := { w.locals with assistantMessageId := some messages.assistantMessage.id } } := by
  have hemissions : (w.log (.BeginGeneration chatId) .Resolves).emissions = w.emissions :=
    emissions_log_of_not_isEvent rfl w _
  refine ⟨?_, .inl rfl, .Open, fun hne => absurd rfl hne, ?_, rfl, hw.text, Nat.zero_le _, ?_, ?_,
    ?_, ?_⟩
  · exact (events_eq_emissions _).trans
      ((congrArg _ hemissions).trans ((events_eq_emissions w).symm.trans hw.events))
  · exact hemissions ▸ hw.buffered
  · exact ⟨_, List.mem_cons_self, rfl, rfl, content, messages, s', h, rfl, rfl⟩
  · simp only [Stores.beginGeneration] at h
    split at h
    · cases h
      rw [← hmessages]
      exact w.stores.messages.find?_eq_none_of_not_issued (Nat.le_succ _)
    · cases h
  · simp only [Stores.beginGeneration] at h
    split at h
    · cases h
      exact ⟨_, (MessageTable.find?_create _ _ _).trans (if_pos rfl), rfl⟩
    · cases h
  · intro c hc
    have hfinal : (w.log (.BeginGeneration chatId) .Resolves).finalWrite = w.finalWrite :=
      finalWrite_log_of_not_written rfl w _
    cases (hfinal.trans hw.unwritten).symm.trans hc

/-! ## The `try` block

The block can be left at any call, with a turn that has begun or not.  It never writes an ending
unless it has completed the reply. -/

/-- The reply is being generated: nothing has been written into its row since it was created. -/
def Generating (s : Stores) (config : StreamConfig) (turn : StreamTurn)
    (opening : List ChatStreamEvent) (w : World) : Prop :=
  w.finalWrite = none
    ∧ ∃ deltas, Replying s config.maxResponseChars turn opening deltas [] (fun _ => True) w

lemma Generating.aside {opening : List ChatStreamEvent} {w w' : World}
    (h : Generating s config turn opening w) (ha : Aside w w') :
    Generating s config turn opening w' := by
  obtain ⟨hunwritten, deltas, h⟩ := h
  exact ⟨ha.finalWrite.trans hunwritten, deltas, h.aside ha⟩

/-- A chunk adds its delta, or the limit is exceeded. -/
lemma receiveChunk_events (hwrites : env.WritesResolve) {opening : List ChatStreamEvent}
    (hne : opening ≠ []) (chunk : OllamaChatChunk) {w : World}
    (h : Generating s config turn opening w) :
    Eff.wp (receiveChunk env config turn.assistantMessageId chunk)
      (fun _ w' => Generating s config turn opening w') w := by
  have hdone : ∀ w', Generating s config turn opening w' →
      Eff.wp
        (if chunk.done = true then assign fun l => { l with finalChunk := some chunk } else pure ())
        (fun _ w'' => Generating s config turn opening w'') w' := by
    rintro w' ⟨hunwritten, deltas, h⟩
    split
    · exact ⟨hunwritten, deltas, { h with }⟩
    · exact ⟨hunwritten, deltas, h⟩
  obtain ⟨hunwritten, deltas, h⟩ := h
  unfold receiveChunk
  simp only
  split
  · refine Eff.wp_bind_of_eq rfl ?_
    split
    · exact ⟨hunwritten, deltas, h⟩
    · rename_i hfits
      refine Eff.wp_bind_of_eq rfl (Eff.wp_bind_of_eq (emit_eq hwrites _ _) (hdone _ ⟨?_, _,
        h.delta hne (l := { w.locals with
          assistantContent := w.locals.assistantContent ++ chunk.delta }) rfl rfl
          (Nat.le_of_not_lt hfits) hunwritten⟩))
      exact (finalWrite_log_of_not_written rfl _ _).trans hunwritten
  · exact hdone w ⟨hunwritten, deltas, h⟩

lemma receiveReply_events (hwrites : env.WritesResolve) {opening : List ChatStreamEvent}
    (hne : opening ≠ []) (model : Model) (messages : List OllamaHistoryMessage) {w : World}
    (h : Generating s config turn opening w) :
    Eff.wp (receiveReply env config turn.assistantMessageId model messages)
      (fun _ w' => Generating s config turn opening w') w := by
  have hask : Eff.Keeps Aside (await env (.OllamaStreamChat model.name messages model.maxContext)
      fun w => (.Returned w.tick, w)) :=
    keeps_await (fun w v => .log rfl rfl w v) fun w => Std.Refl.refl w
  refine Eff.wp_seq (P := fun _ w' => Generating s config turn opening w') (h.aside (hask w)) ?_
    (fun _ _ h => h) (fun _ h => h)
  intro t w₁ hw₁
  refine Eff.wp_seq (P := fun _ w' => Generating s config turn opening w') ?_ ?_ (fun _ _ h => h)
    (fun _ h => h)
  · refine Eff.wp_forEach (fun _ w' => Generating s config turn opening w') _ ?_ (fun _ h => h) hw₁
    intro done chunk rest w' _ hw'
    refine Eff.wp_mono (receiveChunk_events hwrites hne chunk hw') ?_
    intro o w'' h
    cases o <;> exact h
  · intro _ w₂ hw₂
    exact hw₂.aside (aside_historyFrame.streamEnd t w₂)

/-- Where the `try` block can end. -/
def GenerateOutcome (s : Stores) (config : StreamConfig) (o : Outcome JsError Unit) (w : World) :
    Prop :=
  match o with
  | .Returned _ => ∃ turn opening deltas message context, opening ≠ []
      ∧ Replying s config.maxResponseChars turn opening deltas
          [.MessageCompleted message, .ContextUpdated context] (· = .Completed) w
  | _ => Unbegun [] w ∨ ∃ turn opening deltas,
      Replying s config.maxResponseChars turn opening deltas [] (fun _ => True) w

/-- A turn without an ending, where the block is left. -/
lemma Replying.generateOutcome {opening : List ChatStreamEvent} {deltas : List JsString}
    {status : MessageStatus → Prop} {w : World} {o : Outcome JsError Unit}
    (h : Replying s config.maxResponseChars turn opening deltas [] status w)
    (ho : ∀ a, o ≠ .Returned a) : GenerateOutcome s config o w := by
  cases o with
  | Returned a => exact absurd rfl (ho a)
  | Thrown e => exact .inr ⟨turn, opening, deltas, h.mono fun _ _ => trivial⟩
  | Halted => exact .inr ⟨turn, opening, deltas, h.mono fun _ _ => trivial⟩

lemma Generating.outcome {opening : List ChatStreamEvent} {w : World} {o : Outcome JsError Unit}
    (h : Generating s config turn opening w) (ho : ∀ a, o ≠ .Returned a) :
    GenerateOutcome s config o w := by
  obtain ⟨-, deltas, h⟩ := h
  exact h.generateOutcome ho

/-- The reply is completed, or its row is as it was. -/
lemma completeGeneration_events {opening : List ChatStreamEvent} {deltas : List JsString}
    (promptTokens completionTokens : Option ℤ) (finishReason : Option String) {w : World}
    (h : Replying s config.maxResponseChars turn opening deltas [] (fun _ => True) w) :
    Eff.wp (completeGeneration env turn.assistantMessageId w.locals.assistantContent promptTokens
        completionTokens finishReason)
      (fun o w' => Replying s config.maxResponseChars turn opening deltas []
        (fun st => ∀ a, o = .Returned a → st = .Completed) w') w := by
  obtain ⟨m, hm, hrole⟩ := h.row
  have hdone : ∀ {v : Verdict} {message s'} {o : Outcome JsError Message},
      w.stores.completeGeneration turn.assistantMessageId w.locals.assistantContent promptTokens
        completionTokens finishReason (env.now (w.tick + 1)) = .ok (message, s') →
      Replying s config.maxResponseChars turn opening deltas []
        (fun st => ∀ a, o = .Returned a → st = .Completed)
        ((w.log (.CompleteGeneration turn.assistantMessageId) v).setStores s') := by
    intro v message s' o hok
    obtain ⟨m', hfound, hrole', hcontent, hstatus⟩ := completeGeneration_row hm hok
    exact h.written rfl rfl ⟨m', hfound, hrole'.trans hrole, hcontent, fun _ _ => hstatus⟩
  refine wp_transact (fun a s' _ hok => hdone hok) ?_ (fun a s' _ hok => hdone hok)
    (fun _ => h.notWritten rfl rfl rfl)
  rintro e v hv (rfl | herror)
  · exact h.notWritten rfl rfl rfl
  · obtain ⟨message, s', hok, -⟩ := completeGeneration_ok hm w.locals.assistantContent
      promptTokens completionTokens finishReason (env.now (w.tick + 1))
    rw [hok] at herror
    cases herror

lemma finishGeneration_events (hwrites : env.WritesResolve) {opening : List ChatStreamEvent}
    (hne : opening ≠ []) (params : StreamChatParams) (model : Model)
    (summary : Option ConversationSummary) (finalChunk : OllamaChatChunk) {w : World}
    (h : Generating s config turn opening w) :
    Eff.wp (finishGeneration env params model turn.assistantMessageId summary finalChunk)
      (GenerateOutcome s config) w := by
  obtain ⟨hunwritten, deltas, h⟩ := h
  have hhistory := aside_historyFrame
  refine Eff.wp_bind_of_eq rfl ?_
  refine Eff.wp_seq (completeGeneration_events _ _ _ h) ?_
    (fun _ _ h => h.generateOutcome (by simp)) (fun _ h => h.generateOutcome (by simp))
  intro completed w₁ hw₁
  have hcompleted : Replying s config.maxResponseChars turn opening deltas [] (· = .Completed) w₁ :=
    hw₁.mono fun st h => h completed rfl
  -- what is done besides changes neither the events nor the row
  have next : ∀ {α : Type} {m : Handler α} {f : α → Handler Unit} {w' : World},
      Eff.Keeps Aside m →
      Replying s config.maxResponseChars turn opening deltas [] (· = .Completed) w' →
      (∀ a w'', Replying s config.maxResponseChars turn opening deltas [] (· = .Completed) w'' →
        Eff.wp (f a) (GenerateOutcome s config) w'') →
      Eff.wp (m >>= f) (GenerateOutcome s config) w' := by
    intro α m f w' hm hw' hf
    exact Eff.wp_seq (P := fun _ w'' => Replying s config.maxResponseChars turn opening deltas []
      (· = .Completed) w'') (hw'.aside (hm w')) hf
      (fun _ _ h => h.generateOutcome (by simp)) (fun _ h => h.generateOutcome (by simp))
  refine next (hhistory.recordUsage _ _ _ _ _ _) hcompleted ?_
  intro _ w₂ hw₂
  refine next (keeps_await (fun w v => .log rfl rfl w v) (hhistory.refresh _)) hw₂ ?_
  intro _ w₃ hw₃
  refine Eff.wp_bind_of_eq (emit_eq hwrites _ _) ?_
  have hanswered := hw₃.told opening [.MessageCompleted (toChatMessage completed)]
    (.MessageCompleted (toChatMessage completed))
    (by simp [StreamTurn.events]) hw₃.isOpening (.Answered _) hw₃.started
  set context := toChatContext model.maxContext summary (some completed)
  have hended := hanswered.told opening
    [.MessageCompleted (toChatMessage completed), .ContextUpdated context]
    (.ContextUpdated context)
    (by simp [StreamTurn.events]) hanswered.isOpening (.Completed _ _) hanswered.started
  simp only [Eff.wp]
  rw [emit_eq hwrites]
  exact ⟨turn, opening, deltas, _, _, hne, hended⟩

/-- The prompt: at most one `context.summarizing` after `stream.started`. -/
lemma buildPrompt_events (hwrites : env.WritesResolve) (params : BuildPromptParams)
    (hparams : params.onSummarizing = emit env .ContextSummarizing) {w : World}
    (h : Replying s config.maxResponseChars turn [turn.started] [] [] (fun _ => True) w)
    (hunwritten : w.finalWrite = none) :
    Eff.wp (await env (.Service .BuildPrompt) (buildPrompt env config.settings params))
      (fun _ w' => ∃ opening, opening ≠ [] ∧ Generating s config turn opening w') w := by
  have hfirst : Generating s config turn [turn.started] w := ⟨hunwritten, [], h⟩
  have hprompt : ∀ w₁, Aside w w₁ → Eff.wp (buildPrompt env config.settings params)
      (fun _ w' => ∃ opening, opening ≠ [] ∧ Generating s config turn opening w') w₁ := by
    intro w₁ hw₁
    refine aside_summaryFrame.buildPrompt_rule params
      (fun w' hw' => ⟨_, by simp, (hfirst.aside hw₁).aside hw'⟩) ?_
    intro w₂ hw₂
    rw [hparams]
    simp only [Eff.wp]
    rw [emit_eq hwrites]
    intro w' hw'
    have hannounced : Replying s config.maxResponseChars turn [turn.started, .ContextSummarizing] []
        [] (fun _ => True) (w₂.log (.Emit .ContextSummarizing) .Resolves) :=
      ((h.aside hw₁).aside hw₂).told _ _ _ (by simp [StreamTurn.events]) (.inr (.inr rfl)) .Open
        (by simp)
    have hgenerating : Generating s config turn [turn.started, .ContextSummarizing]
        (w₂.log (.Emit .ContextSummarizing) .Resolves) :=
      ⟨(finalWrite_log_of_not_written rfl w₂ _).trans ((hfirst.aside hw₁).aside hw₂).1, [],
        hannounced⟩
    exact ⟨_, by simp, hgenerating.aside hw'⟩
  have hlog : ∀ v, Aside w (w.log (.Service .BuildPrompt) v) := fun v => .log rfl rfl _ v
  refine wp_await (fun _ => hprompt _ (hlog _)) (fun _ => ⟨_, by simp, hfirst.aside (hlog _)⟩) ?_
    (fun _ => ⟨_, by simp, hfirst.aside (hlog _)⟩)
  intro _
  refine Eff.wp_mono (hprompt _ (hlog _)) ?_
  intro o w' h
  cases o <;> exact h

lemma generateReply_events (hwrites : env.WritesResolve) (params : StreamChatParams) (model : Model)
    (history : List ChatHistoryEntry) {w : World} (hchat : turn.chatId = params.chatId)
    (hmodel : turn.model = model.name)
    (h : Replying s config.maxResponseChars turn [] [] [] (fun _ => True) w)
    (hunwritten : w.finalWrite = none) :
    Eff.wp (generateReply env config params model history turn.userMessageId
      turn.assistantMessageId) (GenerateOutcome s config) w := by
  simp only [generateReply]
  rw [← hchat, ← hmodel]
  refine Eff.wp_bind_of_eq (emit_eq hwrites turn.started _) ?_
  have hstarted : Replying s config.maxResponseChars turn [turn.started] [] [] (fun _ => True)
      (w.log (.Emit turn.started) .Resolves) :=
    h.told _ _ _ (by simp [StreamTurn.events]) (.inr (.inl rfl)) .Open (by simp)
  have hunwritten₁ : (w.log (.Emit turn.started) .Resolves).finalWrite = none :=
    (finalWrite_log_of_not_written rfl w _).trans hunwritten
  refine Eff.wp_seq (buildPrompt_events hwrites _ rfl hstarted hunwritten₁) ?_
    (fun _ _ ⟨_, _, h⟩ => h.outcome (by simp)) (fun _ ⟨_, _, h⟩ => h.outcome (by simp))
  rintro prompt w₁ ⟨opening, hne, hw₁⟩
  refine Eff.wp_seq (receiveReply_events hwrites hne model prompt.messages hw₁) ?_
    (fun _ _ h => h.outcome (by simp)) (fun _ h => h.outcome (by simp))
  intro _ w₂ hw₂
  refine Eff.wp_bind_of_eq rfl ?_
  split
  · exact hw₂.outcome (o := .Thrown _) (by simp)
  · exact finishGeneration_events hwrites hne params model prompt.summary _ hw₂

lemma beginGeneration_events (params : StreamChatParams) (model : Model) {w : World}
    (hw : Unbegun [] w) :
    Eff.wp (beginGeneration env params.chatId params.content model.name)
      (fun o w' => match o with
        | .Returned messages =>
            ∃ s', w' = (w.log (.BeginGeneration params.chatId) .Resolves).setStores s'
              ∧ w.stores.beginGeneration params.chatId params.content model.name
                = .ok (messages, s')
        | _ => Unbegun [] w') w := by
  have hlog : ∀ v s', Unbegun [] ((w.log (.BeginGeneration params.chatId) v).setStores s') := by
    intro v s'
    have h := hw.aside (Aside.log (c := .BeginGeneration params.chatId) rfl rfl w v)
    exact ⟨h.events, h.buffered, h.named, h.text, h.unwritten⟩
  exact wp_transact (fun messages s' _ hok => ⟨s', rfl, hok⟩) (fun e v _ _ => hlog v _)
    (fun messages s' _ _ => hlog _ s') (fun _ => hlog _ _)

/-- **The `try` block.** -/
lemma generate_events (hwrites : env.WritesResolve) (params : StreamChatParams) (model : Model)
    {w : World} (hw : Unbegun [] w) (hmessages : w.stores.messages = s.messages) :
    Eff.wp (generate env config params model) (GenerateOutcome s config) w := by
  rw [generate_eq]
  have hhistory := aside_historyFrame
  have hget : Eff.Keeps Aside (await env (.Service .GetHistory) (getHistory env params.chatId)) :=
    keeps_await (fun w v => .log rfl rfl w v) (hhistory.getHistory _)
  refine Eff.wp_seq (P := fun _ w' => Unbegun [] w' ∧ w'.stores.messages = s.messages)
    ⟨hw.aside (hget w), (hget w).messages.trans hmessages⟩ ?_ (fun _ _ h => .inl h.1)
    (fun _ h => .inl h.1)
  rintro history w₁ ⟨hw₁, hmessages₁⟩
  refine Eff.wp_bind_of_eq (Eq.refl
    (Outcome.Returned (), { w₁ with locals := { w₁.locals with history := some history } })) ?_
  generalize hw₂ : { w₁ with locals := { w₁.locals with history := some history } } = w₂
  have hunbegun : Unbegun [] w₂ :=
    hw₂ ▸ ⟨hw₁.events, hw₁.buffered, hw₁.named, hw₁.text, hw₁.unwritten⟩
  have hmessages₂ : w₂.stores.messages = s.messages := hw₂ ▸ hmessages₁
  refine Eff.wp_seq (beginGeneration_events params model hunbegun) ?_ (fun _ _ h => .inl h)
    (fun _ h => .inl h)
  rintro messages w₃ ⟨s', rfl, hok⟩
  refine Eff.wp_bind_of_eq rfl ?_
  have hreplying := replying_of_beginGeneration config.maxResponseChars hunbegun hmessages₂ hok
  have hunwritten : (w₂.log (.BeginGeneration params.chatId) .Resolves).finalWrite = none :=
    (finalWrite_log_of_not_written rfl w₂ _).trans hunbegun.unwritten
  have happend : Eff.Keeps Aside (await env (.Service .AppendHistory)
      (append env params.chatId (.User messages.userMessage.id params.content))) :=
    keeps_await (fun w v => .log rfl rfl w v) (hhistory.append _ _)
  refine Eff.wp_seq (P := fun _ w' => w'.finalWrite = none
      ∧ Replying s config.maxResponseChars
        ⟨params.chatId, messages.userMessage.id, messages.assistantMessage.id, model.name⟩
        [] [] [] (fun _ => True) w')
    ⟨Eq.trans (Aside.finalWrite (happend _)) hunwritten, hreplying.aside (happend _)⟩ ?_
    (fun _ _ h => .inr ⟨_, _, _, h.2⟩) (fun _ h => .inr ⟨_, _, _, h.2⟩)
  rintro _ w₄ ⟨hunwritten₄, hw₄⟩
  exact generateReply_events hwrites params model history rfl rfl hw₄ hunwritten₄

/-! ## The `catch` block and the controller

What they add depends on where the exception came from.  The `catch` block throws on what it does
not handle, and the controller tells exactly that. -/

/-- What the ending says about the status. -/
def StatusTold (env : Env) (ending : List ChatStreamEvent) (status : MessageStatus) : Prop :=
  env.AbortsOnce → env.CodesNonempty →
    ∀ event ∈ ending, ∀ named, event.namedStatus = some named → status = named

/-- Where the `catch` block can end.  An exception leaves it before its event: the row is FAILED, or
the signal is aborted. -/
def CatchOutcome (env : Env) (s : Stores) (config : StreamConfig) (o : Outcome JsError Unit)
    (w : World) : Prop :=
  match o with
  | .Returned _ => ∃ turn opening deltas ending, ending ≠ []
      ∧ Replying s config.maxResponseChars turn opening deltas ending (StatusTold env ending) w
  | .Thrown _ => Unbegun [] w ∨ ∃ turn opening deltas,
      Replying s config.maxResponseChars turn opening deltas []
        (fun st => (∃ t ≤ w.tick, env.aborted t = true) ∨ (env.CodesNonempty → st = .Failed)) w
  | .Halted => Unbegun [] w ∨ ∃ turn opening deltas ending,
      Replying s config.maxResponseChars turn opening deltas ending (StatusTold env ending) w

lemma statusTold_nil (st : MessageStatus) : StatusTold env [] st := by
  rintro - - event hevent
  cases hevent

/-- `endGeneration` after an exception, and the event for it. -/
lemma endGeneration_events (hwrites : env.WritesResolve) (params : StreamChatParams)
    (status : MessageStatus → Prop) {opening : List ChatStreamEvent} {deltas : List JsString}
    {errorCode : Option String} {event : ChatStreamEvent} {w : World}
    (h : Replying s config.maxResponseChars turn opening deltas [] (fun _ => True) w)
    (hevent : IsEnding [event])
    (hstatus : status (if errorCode.any (· ≠ "") then .Failed else .Cancelled))
    (htold : ∀ st, status st → StatusTold env [event] st)
    (hthrown : ∀ st (w' : World), w.tick ≤ w'.tick → status st →
      (∃ t ≤ w'.tick, env.aborted t = true) ∨ (env.CodesNonempty → st = .Failed)) :
    Eff.wp (do
      let _ ← endGeneration env turn.assistantMessageId w.locals.assistantContent errorCode
      refreshHistory env params.chatId
      emit env event) (CatchOutcome env s config) w := by
  obtain ⟨m, hm, hrole⟩ := h.row
  have hcall : ∀ v, w.tick ≤ (w.log (.EndGeneration turn.assistantMessageId) v).tick :=
    fun v => Nat.le_succ _
  have hdone : ∀ {v message s'}, w.stores.endGeneration turn.assistantMessageId
      w.locals.assistantContent errorCode (env.now (w.tick + 1)) = .ok (message, s') →
      Replying s config.maxResponseChars turn opening deltas [] status
        ((w.log (.EndGeneration turn.assistantMessageId) v).setStores s') := by
    intro v message s' hok
    obtain ⟨m', hfound, hrole', hcontent, hst⟩ := endGeneration_row hm hok
    exact h.written rfl rfl ⟨m', hfound, hrole'.trans hrole, hcontent, hst ▸ hstatus⟩
  have hfailed : ∀ {e w'}, w.tick ≤ w'.tick →
      Replying s config.maxResponseChars turn opening deltas [] status w' →
      CatchOutcome env s config (.Thrown e) w' := fun hle h =>
    .inr ⟨turn, opening, deltas, h.mono fun st hst => hthrown st _ hle hst⟩
  have hhalted : ∀ {w'}, Replying s config.maxResponseChars turn opening deltas [] status w' →
      CatchOutcome env s config .Halted w' := fun h =>
    .inr ⟨turn, opening, deltas, [], h.mono fun st _ => statusTold_nil st⟩
  refine Eff.wp_seq (P := fun _ w' => w.tick ≤ w'.tick
      ∧ Replying s config.maxResponseChars turn opening deltas [] status w') ?_ ?_
    (fun _ _ h => hfailed h.1 h.2) (fun _ h => hhalted h.2)
  · refine wp_transact (fun a s' _ hok => ⟨hcall _, hdone hok⟩) ?_
      (fun a s' _ hok => ⟨hcall _, hdone hok⟩) (fun _ => ⟨hcall _, h.notWritten rfl rfl rfl⟩)
    rintro e v hv (rfl | herror)
    · exact ⟨hcall _, h.notWritten rfl rfl rfl⟩
    · obtain ⟨message, s', hok, -⟩ := endGeneration_ok hm w.locals.assistantContent errorCode
        (env.now (w.tick + 1))
      rw [hok] at herror
      cases herror
  rintro _ w₁ ⟨hle, hw₁⟩
  have hrefresh : Eff.Keeps Aside (refreshHistory env params.chatId) :=
    aside_historyFrame.refreshHistory _
  refine Eff.wp_seq (P := fun _ w' => Aside w₁ w') (hrefresh w₁) ?_
    (fun _ _ ha => hfailed (hle.trans ha.tick_le) (hw₁.aside ha)) (fun _ ha => hhalted (hw₁.aside ha))
  intro _ w₂ ha
  simp only [Eff.wp]
  rw [emit_eq hwrites]
  have htold' := (hw₁.aside ha).told opening [event] event
    (by simp [StreamTurn.events]) hw₁.isOpening hevent hw₁.started
  exact ⟨turn, opening, deltas, [event], by simp, htold'.mono htold⟩

/-- **The `catch` block.** -/
lemma generationFailed_events (hwrites : env.WritesResolve) (params : StreamChatParams)
    {error : JsError} (herror : env.CodesNonempty → CodeNonempty error) {w : World}
    (h : GenerateOutcome s config (.Thrown error) w) :
    Eff.wp (generationFailed env params error) (CatchOutcome env s config) w := by
  refine Eff.wp_bind_of_eq rfl ?_
  rcases h with h | ⟨turn, opening, deltas, h⟩
  · rw [h.named]
    exact .inl h
  · rw [h.named]
    refine Eff.wp_bind_of_eq rfl ?_
    cases haborted : env.aborted w.tick with
    | true =>
        refine endGeneration_events hwrites params (· = .Cancelled) h (.Cancelled _) rfl
          ?_ ?_
        · rintro st rfl - - event hevent named hnamed
          cases List.mem_singleton.mp hevent
          cases hnamed
          rfl
        · exact fun st w' hle _ => .inl ⟨w.tick, hle, haborted⟩
    | false =>
        refine endGeneration_events hwrites params
          (fun st => env.CodesNonempty → st = .Failed) h (.Failed _ _) ?_ ?_ ?_
        · intro hcodes
          refine if_pos ?_
          exact decide_eq_true (p := (getPublicStreamError error).code ≠ "") (herror hcodes)
        · rintro st hst - hcodes event hevent named hnamed
          cases List.mem_singleton.mp hevent
          cases hnamed
          exact hst hcodes
        · exact fun st w' _ hst => .inr hst

structure RequestOutcome (env : Env) (s : Stores) (config : StreamConfig)
    (o : Outcome JsError Unit) (ending : List ChatStreamEvent) (w : World) : Prop where
  shape : (IsEnding ending ∧ (∀ e ∈ ending, ∃ code message, e = .StreamError code message)
      ∧ Unbegun ending w)
    ∨ ∃ turn opening deltas,
      Replying s config.maxResponseChars turn opening deltas ending (StatusTold env ending) w
  ended : ending = [] → o = .Halted ∨ ∃ t, env.aborted t = true

lemma CatchOutcome.aside {o : Outcome JsError Unit} {w w' : World}
    (h : CatchOutcome env s config o w) (ha : Aside w w') : CatchOutcome env s config o w' := by
  cases o with
  | Returned a =>
      obtain ⟨turn, opening, deltas, ending, hne, h⟩ := h
      exact ⟨turn, opening, deltas, ending, hne, h.aside ha⟩
  | Thrown e =>
      rcases h with h | ⟨turn, opening, deltas, h⟩
      · exact .inl (h.aside ha)
      · refine .inr ⟨turn, opening, deltas, (h.aside ha).mono fun st hst => ?_⟩
        exact hst.imp_left fun ⟨t, hle, haborted⟩ => ⟨t, hle.trans ha.tick_le, haborted⟩
  | Halted =>
      rcases h with h | ⟨turn, opening, deltas, ending, h⟩
      · exact .inl (h.aside ha)
      · exact .inr ⟨turn, opening, deltas, ending, h.aside ha⟩

/-- A call that hangs may hang anywhere. -/
lemma CatchOutcome.halted {o : Outcome JsError Unit} {w : World}
    (h : CatchOutcome env s config o w) : CatchOutcome env s config .Halted w := by
  cases o with
  | Returned a =>
      obtain ⟨turn, opening, deltas, ending, -, h⟩ := h
      exact .inr ⟨turn, opening, deltas, ending, h⟩
  | Thrown e =>
      exact h.imp_right fun ⟨turn, opening, deltas, h⟩ =>
        ⟨turn, opening, deltas, [], h.mono fun st _ => statusTold_nil st⟩
  | Halted => exact h

lemma unbegun_start (s : Stores) : Unbegun [] (World.start s) := by
  refine ⟨rfl, ?_, rfl, rfl, rfl⟩
  rintro before e after h
  simp [World.emissions, World.start] at h

/-- A turn, from the beginning of the call. -/
lemma stream_outcome (hwrites : env.WritesResolve) (params : StreamChatParams) :
    Eff.wp (stream env config params) (CatchOutcome env s config) (World.start s) := by
  have hstart : Unbegun [] { World.start s with locals := .initial } := unbegun_start s
  refine stream_rule aside_lockFrame ?_ ?_
  · intro o w' ha ho
    cases o with
    | Returned a => exact absurd rfl (ho a)
    | Thrown e => exact .inl (hstart.aside ha)
    | Halted => exact .inl (hstart.aside ha)
  · intro model w₁ ha
    have hcodes : Eff.wp (generate env config params model)
        (fun o _ => env.CodesNonempty → ∀ e, o = .Thrown e → CodeNonempty e) w₁ :=
      fun hcodes => throws_generate hcodes params model w₁
    have hblocks : Eff.wp (Eff.tryCatch (generate env config params model)
        (generationFailed env params)) (CatchOutcome env s config) w₁ := by
      refine Eff.wp_tryCatch (Eff.wp_and
        (generate_events hwrites params model (hstart.aside ha) ha.messages) hcodes) ?_ ?_ ?_
      · rintro _ w₂ ⟨⟨turn, opening, deltas, message, context, -, h⟩, -⟩
        refine ⟨turn, opening, deltas, _, by simp, h.mono ?_⟩
        rintro st rfl - - event hevent named hnamed
        rcases List.mem_pair.mp hevent with rfl | rfl
        · cases hnamed
          rfl
        · cases hnamed
      · rintro e w₂ ⟨h, hcode⟩
        exact generationFailed_events hwrites params (fun hcodes => hcode hcodes e rfl) h
      · rintro w₂ ⟨h | ⟨turn, opening, deltas, h⟩, -⟩
        · exact .inl h
        · exact .inr ⟨turn, opening, deltas, [], h.mono fun st _ => statusTold_nil st⟩
    refine Eff.wp_mono hblocks ?_
    rintro o w₂ h o' w₃ haside (rfl | rfl)
    · exact h.aside haside
    · exact (h.aside haside).halted

lemma Unbegun.told {w : World} (h : Unbegun [] w) (code message : String) :
    Unbegun [.StreamError code message] (w.log (.Emit (.StreamError code message)) .Resolves) := by
  have hemissions := emissions_emit w (.StreamError code message)
  have hnone : w.emissions = [] := by
    have hevents := h.events
    rw [events_eq_emissions] at hevents
    exact List.map_eq_nil_iff.mp hevents
  refine ⟨?_, ?_, h.named, h.text, (finalWrite_log_of_not_written rfl w _).trans h.unwritten⟩
  · rw [events_eq_emissions, hemissions, hnone]
    rfl
  · rw [hemissions]
    refine h.buffered.snoc ?_
    rw [hnone]
    exact h.text

lemma handle_outcome (s : Stores) (config : StreamConfig) (hwrites : env.WritesResolve)
    (principal : Option RequestPrincipal)
    (chatId : Uuid) (content : JsString) (model : Option String) :
    Eff.wp (match principal with
      | none => Eff.throw (.Http 401 "A valid request principal is required.")
      | some principal => stream env config { chatId, principal, content, model })
      (CatchOutcome env s config) (World.start s) := by
  cases principal with
  | none => exact .inl (unbegun_start s)
  | some principal => exact stream_outcome hwrites _

/-- **The endpoint.** -/
lemma streamEndpoint_outcome (s : Stores) (config : StreamConfig) (hwrites : env.WritesResolve)
    (principal : Option RequestPrincipal)
    (chatId : Uuid) (content : JsString) (model : Option String) :
    Eff.wp (streamEndpoint env config principal chatId content model)
      (fun o w => ∃ ending, RequestOutcome env s config o ending w) (World.start s) := by
  refine Eff.wp_tryCatch (handle_outcome s config hwrites principal chatId content model) ?_ ?_ ?_
  · rintro _ w ⟨turn, opening, deltas, ending, hne, h⟩
    exact ⟨ending, .inr ⟨turn, opening, deltas, h⟩, fun hnil => absurd hnil hne⟩
  · intro error w h
    refine Eff.wp_bind_of_eq rfl ?_
    cases haborted : env.aborted w.tick with
    | true =>
        refine ⟨[], ?_, fun _ => .inr ⟨_, haborted⟩⟩
        rcases h with h | ⟨turn, opening, deltas, h⟩
        · exact .inl ⟨.Open, by simp, h⟩
        · exact .inr ⟨turn, opening, deltas, h.mono fun st _ => statusTold_nil st⟩
    | false =>
        set publicError := getPublicStreamError error
        refine ⟨[.StreamError publicError.code publicError.message], ?_, by simp⟩
        simp only [Bool.false_eq_true, if_false, emit_eq hwrites]
        rcases h with h | ⟨turn, opening, deltas, h⟩
        · exact .inl ⟨.Failed _ _, by simp, h.told _ _⟩
        · refine .inr ⟨turn, opening, deltas, (h.told opening
            [.StreamError publicError.code publicError.message]
            (.StreamError publicError.code publicError.message) (by simp [StreamTurn.events])
            h.isOpening (.Failed _ _) h.started).mono ?_⟩
          rintro st hst haborts hcodes event hevent named hnamed
          cases List.mem_singleton.mp hevent
          cases hnamed
          -- the row is FAILED: were the signal aborted before, it would be now
          rcases hst with ⟨t, hle, ht⟩ | hst
          · rw [haborts t _ hle ht] at haborted
            cases haborted
          · exact hst hcodes
  · rintro w (h | ⟨turn, opening, deltas, ending, h⟩)
    · exact ⟨[], .inl ⟨.Open, by simp, h⟩, fun _ => .inl rfl⟩
    · exact ⟨ending, .inr ⟨turn, opening, deltas, h⟩, fun _ => .inl rfl⟩

end Calls

/-! ## Every request -/

/-- The row behind the final status write: it has the text of the deltas, within the limit, and
the status that the terminal event names. -/
def ReplyWritten (env : Env) (maxResponseChars : ℕ) (id : Uuid) (w : World) : Prop :=
  ∃ m, w.stores.messages.find? id = some m ∧ m.content = deltaText w.events
    ∧ m.content.length ≤ maxResponseChars
    ∧ (env.AbortsOnce → env.CodesNonempty →
      ∀ event ∈ w.events, ∀ named, event.namedStatus = some named → m.status = named)

/-- What the client is told in a run of the endpoint: events in their order, a last one that ends
the reply, and nothing about the reply that the row does not say. -/
structure EventsSound (env : Env) (config : StreamConfig) (run : Outcome JsError Unit × World) :
    Prop where
  /-- The events are in order. -/
  ordered : WellOrdered run.2.events
  /-- There is a terminal event unless the run never settles or the signal is aborted. -/
  terminal : run.1 ≠ .Halted → (∀ t, env.aborted t = false) →
    ∃ event ∈ run.2.events, event.isTerminal = true
  /-- A final status write that is carried out has written what was told. -/
  written : ∀ c, run.2.finalWrite = some c → c.verdict.applied = true →
    ∃ id, c.call.writtenReply = some id ∧ ReplyWritten env config.maxResponseChars id run.2

/-- **The events of a request.**  Whatever the collaborators do, if writes to the response do not
throw, the events are in order, there is a terminal one unless the signal is aborted, and the row of
the reply has the text and the status that were told.  A response whose writes throw has no client
any more that could be told anything. -/
theorem stream_events (env : Env) (config : StreamConfig) (principal : Option RequestPrincipal)
    (chatId : Uuid) (content : JsString) (model : Option String) (s : Stores)
    (hwrites : env.WritesResolve) :
    EventsSound env config (request env config principal chatId content model s) := by
  obtain ⟨ending, hshape, hended⟩ := streamEndpoint_outcome s config hwrites principal
    chatId content model
  simp only [request]
  generalize streamEndpoint env config principal chatId content model (.start s) = run at *
  have hterminal : ending ≠ [] → IsEnding ending → ∃ event ∈ ending, event.isTerminal = true := by
    rintro hne hending
    cases hending with
    | Open => exact absurd rfl hne
    | _ => exact ⟨_, List.mem_cons_self, rfl⟩
  have hsettled : run.1 ≠ .Halted → (∀ t, env.aborted t = false) → ending ≠ [] := by
    intro hover hnever hnil
    rcases hended hnil with hhalted | ⟨t, ht⟩
    · exact hover hhalted
    · rw [hnever t] at ht
      cases ht
  rcases hshape with ⟨hending, -, h⟩ | ⟨turn, opening, deltas, h⟩
  · refine ⟨?_, ?_, ?_⟩
    · rw [h.events]
      exact wellOrdered_of_parts ⟨0, 0, 0, ""⟩ [] (.inl rfl) (by simp) hending
    · intro hover hnever
      rw [h.events]
      exact hterminal (hsettled hover hnever) hending
    · intro c hc
      rw [h.unwritten] at hc
      cases hc
  · refine ⟨?_, ?_, ?_⟩
    · rw [h.events]
      exact wellOrdered_of_parts _ _ h.isOpening h.started h.isEnding
    · intro hover hnever
      obtain ⟨event, hevent, hterm⟩ := hterminal (hsettled hover hnever) h.isEnding
      exact ⟨event, h.events ▸ List.mem_append_right _ hevent, hterm⟩
    · intro c hc happlied
      obtain ⟨hid, hrow⟩ := h.wrote c hc
      obtain ⟨m, hfound, hcontent, hstatus⟩ := hrow happlied
      refine ⟨_, hid, m, hfound, ?_, hcontent ▸ h.fits, ?_⟩
      · rw [h.events, deltaText_events h.isOpening h.isEnding]
        exact hcontent
      · intro haborts hcodes event hevent named hnamed
        rw [h.events] at hevent
        rcases List.mem_append.mp hevent with hevent | hevent
        · rcases List.mem_append.mp hevent with hevent | hevent
          · rcases h.isOpening with rfl | rfl | rfl
            · cases hevent
            · cases List.mem_singleton.mp hevent
              cases hnamed
            · rcases List.mem_pair.mp hevent with rfl | rfl <;> cases hnamed
          · obtain ⟨delta, rfl⟩ := mem_deltas hevent
            cases hnamed
        · exact hstatus haborts hcodes event hevent named hnamed

/-- The events of a run without failures. -/
theorem stream_events_answering :
    EventsSound .answering .defaults (helloRequest .answering) :=
  stream_events .answering .defaults (some (.Anonymous 1)) 1 (js "Hello") none .oneChat
    fun _ _ => rfl

end RagStack
