import RagStack.Chats.StreamService

/-!
# `ChatsController.stream`

The handler behind the endpoint: what `stream` throws becomes a last event, unless the client has
gone.  Headers, the heartbeat and the end of the response carry no event and are left out.

The status of the response has been sent before the first event, so an error can no longer change
it.  The controller therefore writes the error as one more event of the stream.  That a run never
ends with two such events, one of `stream` and one of the controller, is not visible in the handler;
it follows from what `stream` throws and when.

The definitions below read a run of it: its events, each with the local variables of `stream` at
that moment, and the last write into a reply row.  They are functions of the trace, so they mean the
same for a run that was cut short by a call which never settled.  What the source can rely on about
its collaborators beyond their types is named here as well: an `AbortSignal` that is aborted stays
so, and errors with an empty code do not occur.
-/

namespace RagStack

section Controller

variable (env : Env) (config : StreamConfig)

/-- `ChatsController.stream`, from its `try` block on, for the principal of the request. -/
def streamEndpoint (principal : Option RequestPrincipal) (chatId : Uuid) (content : JsString)
    (model : Option String) : Handler Unit :=
  Eff.tryCatch
    (match principal with
      | none => Eff.throw (.Http 401 "A valid request principal is required.")
      | some principal => stream env config { chatId, principal, content, model })
    fun error => do
      if ← signalAborted env then pure ()
      else
        let publicError := getPublicStreamError error
        emit env (.StreamError publicError.code publicError.message)

/-- One request to the endpoint, from the stores `s`: how the handler ends, and the world it leaves
with the trace of the request. -/
def request (principal : Option RequestPrincipal) (chatId : Uuid) (content : JsString)
    (model : Option String) (s : Stores) : Outcome JsError Unit × World :=
  streamEndpoint env config principal chatId content model (.start s)

/-- The owner of the only chat says hello. -/
def helloRequest : Outcome JsError Unit × World :=
  request env .defaults (some (.Anonymous 1)) 1 (js "Hello") none .oneChat

end Controller

/-! ## Events

Which events end a stream, which begin it, and what an event adds to the text of the reply.
`WellOrdered` is the order that the client is written for. -/

namespace ChatStreamEvent

/-- `message.completed`, `stream.cancelled` or `stream.error`. -/
def isTerminal : ChatStreamEvent → Bool
  | MessageCompleted _ | StreamCancelled _ | StreamError .. => true
  | _ => false

/-- `stream.started`. -/
def isStarted : ChatStreamEvent → Bool
  | StreamStarted .. => true
  | _ => false

/-- `message.delta`. -/
def isDelta : ChatStreamEvent → Bool
  | MessageDelta .. => true
  | _ => false

/-- The text an event adds to the reply. -/
def delta : ChatStreamEvent → JsString
  | MessageDelta _ delta => delta
  | _ => []

/-- The status of the reply that a terminal event tells the client. -/
def namedStatus : ChatStreamEvent → Option MessageStatus
  | MessageCompleted _ => some .Completed
  | StreamCancelled _ => some .Cancelled
  | StreamError .. => some .Failed
  | _ => none

end ChatStreamEvent

def deltaText (events : List ChatStreamEvent) : JsString := events.flatMap (·.delta)

/-- The order of the events of one request. -/
structure WellOrdered (events : List ChatStreamEvent) : Prop where
  /-- At most one terminal event. -/
  terminal_once : (events.filter (·.isTerminal)).length ≤ 1
  /-- `stream.started` occurs at most once. -/
  started_once : (events.filter (·.isStarted)).length ≤ 1
  /-- `stream.started` precedes every `context.summarizing` and every `message.delta`. -/
  started_first : ∀ before event after, events = before ++ event :: after →
    event = .ContextSummarizing ∨ event.isDelta = true → ∃ e ∈ before, e.isStarted = true
  /-- `context.summarizing` occurs at most once. -/
  summarizing_once : events.count .ContextSummarizing ≤ 1
  /-- `context.summarizing` precedes every `message.delta`. -/
  summarizing_first : ∀ before after, events = before ++ .ContextSummarizing :: after →
    ∀ e ∈ before, e.isDelta = false
  /-- After the terminal event there is nothing, or one `context.updated` after
  `message.completed`. -/
  terminal_last : ∀ before event after, events = before ++ event :: after →
    event.isTerminal = true →
      after = [] ∨ (∃ message, event = .MessageCompleted message)
        ∧ ∃ context, after = [.ContextUpdated context]
  /-- `context.updated` only occurs right after `message.completed`. -/
  updated_last : ∀ before context after, events = before ++ .ContextUpdated context :: after →
    ∃ earlier message, before = earlier ++ [.MessageCompleted message]

/-! ## What a run told and wrote

The client knows the events, and later readers know the row.  Both are read off the trace. -/

/-- The events the client was sent, each with the local variables of `stream` when it was. -/
def World.emissions (w : World) : List (ChatStreamEvent × StreamLocals) :=
  w.trace.reverse.filterMap fun entry =>
    match entry.call with
    | .Emit event => if entry.verdict.applied then some (event, entry.locals) else none
    | _ => none

/-- The call writes a final status into a reply row. -/
def Call.writtenReply : Call → Option Uuid
  | .CompleteGeneration id | .EndGeneration id => some id
  | _ => none

/-- The final status write: the last call that writes into a reply row. -/
def World.finalWrite (w : World) : Option TraceEntry :=
  w.trace.find? fun entry => entry.call.writtenReply.isSome

/-- Writes to the response do not throw. -/
def Env.WritesResolve (env : Env) : Prop := ∀ t event, env.verdict t (.Emit event) = .Resolves

/-- An `AbortSignal` that is aborted stays aborted. -/
def Env.AbortsOnce (env : Env) : Prop :=
  ∀ t t', t ≤ t' → env.aborted t = true → env.aborted t' = true

/-- Nothing rejects with an empty `code`. -/
def Env.CodesNonempty (env : Env) : Prop := ∀ t message, env.rejection t ≠ .Coded "" message

/-- The events are the emissions without the variables. -/
lemma events_eq_emissions (w : World) : w.events = w.emissions.map Prod.fst := by
  simp only [World.events, World.emissions]
  rw [List.map_filterMap]
  congr 1
  funext entry
  cases entry.call with
  | Emit event => cases entry.verdict <;> rfl
  | _ => rfl

end RagStack
