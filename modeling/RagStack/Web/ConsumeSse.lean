import RagStack.Core.JsString
import RagStack.Core.Utf8

/-!
# `sse.helpers.ts` and `consumeSse`

The two ends of the event stream.  The server writes a frame for each event and a comment for each
heartbeat; the client decodes the bytes it reads, splits the text at blank lines and reads what is
between them.

A frame is two lines and a blank one: the name of the event, its data, and the end.  The client is
more tolerant than the server needs it to be.  Lines may end with or without a carriage return, data
may have several lines, a frame without data is no event, and a name without an event line is
`message`.  All of this is modelled, since the round trip goes through it, and because a frame that
was cut off could look like one of these.

The client reads chunks of bytes, which have nothing to do with frames or characters.  It decodes
them one after the other with a decoder that keeps unfinished characters, appends the text to a
buffer, reads the frames that are complete and keeps the rest.  When the connection is closed it
reads the rest as a frame too.  When the connection fails, `read` rejects and nothing is read of the
rest.

`JSON.stringify` and `JSON.parse` are parameters, on the JSON values `δ`.  An error of `JSON.parse`
ends the loop.

* `encodeSseEvent`, `encodeSseHeartbeat`, `sseText` — what is written.
* `parseSseFrame` — one frame.
* `consumeSse` — the loop over the chunks, and the rest after the last.
-/

namespace RagStack

inductive StreamEventName where
  | StreamStarted
  | MessageDelta
  | MessageCompleted
  | ContextSummarizing
  | ContextUpdated
  | StreamError
  | StreamCancelled
  | Heartbeat
  deriving Repr, DecidableEq

/-- The name as it is written. -/
def StreamEventName.text : StreamEventName → String
  | StreamStarted => "stream.started"
  | MessageDelta => "message.delta"
  | MessageCompleted => "message.completed"
  | ContextSummarizing => "context.summarizing"
  | ContextUpdated => "context.updated"
  | StreamError => "stream.error"
  | StreamCancelled => "stream.cancelled"
  | Heartbeat => "heartbeat"

/-- What the server writes: a `ChatStreamEvent`, or a heartbeat. -/
inductive SseFrame (δ : Type*) where
  | Event (event : StreamEventName) (data : δ)
  | Heartbeat

/-- What the client passes to `onEvent`. -/
structure SseEvent (δ : Type*) where
  event : JsString
  data : δ
  deriving Repr, DecidableEq

variable {δ : Type*}

/-! ## The server

The text of a frame, and what the client should get of it. -/

section Server

variable (stringify : δ → List Char)

def encodeSseEvent (event : StreamEventName) (data : δ) : List Char :=
  "event: ".toList ++ event.text.toList ++ "\ndata: ".toList ++ stringify data ++ "\n\n".toList

def encodeSseHeartbeat : List Char := ": heartbeat\n\n".toList

def SseFrame.encode : SseFrame δ → List Char
  | Event event data => encodeSseEvent stringify event data
  | Heartbeat => encodeSseHeartbeat

/-- The text that is written to the response, frame by frame. -/
def sseText (frames : List (SseFrame δ)) : List Char := frames.flatMap (·.encode stringify)

end Server

/-- The event of a frame, as the client should get it. -/
def SseFrame.sent : SseFrame δ → Option (SseEvent δ)
  | Event event data => some ⟨js event.text, data⟩
  | Heartbeat => none

/-- The events that were sent, in their order and without the heartbeats. -/
def sentEvents (frames : List (SseFrame δ)) : List (SseEvent δ) := frames.filterMap (·.sent)

/-! ## The client

From one frame to the loop over the chunks. -/

/-- The length of a match of `/\r?\n/` at the beginning. -/
def lineBreak : JsString → Option ℕ
  | [] => none
  | u :: text =>
      if u = 0x0A then some 1
      else if u = 0x0D ∧ text.head? = some 0x0A then some 2
      else none

/-- The length of a match of `/\r?\n\r?\n/` at the beginning. -/
def frameBreak (text : JsString) : Option ℕ :=
  (lineBreak text).bind fun n => (lineBreak (text.drop n)).map (n + ·)

section Client

variable (parse : JsString → Option δ)

/-- The loop over the lines of a frame: the name of the event and the lines of its data. -/
def readLine (read : JsString × List JsString) (line : JsString) : JsString × List JsString :=
  (if line.startsWith (js "event:") then JsString.trim (line.drop 6) else read.1,
    if line.startsWith (js "data:") then read.2 ++ [JsString.trimStart (line.drop 5)] else read.2)

/-- What follows the loop; an error is that of `JSON.parse`. -/
def parseRead (read : JsString × List JsString) : Except Unit (Option (SseEvent δ)) :=
  if read.1 = [] ∨ read.2 = [] then .ok none
  else
    match parse (JsString.join (js "\n") read.2) with
    | some data => .ok (some ⟨read.1, data⟩)
    | none => .error ()

def parseSseFrame (frame : JsString) : Except Unit (Option (SseEvent δ)) :=
  if frame = [] ∨ frame.startsWith (js ":") then .ok none
  else parseRead parse ((frame.split lineBreak).foldl readLine ([], []))

/-- What `consumeSse` has done: the events it has passed to `onEvent`, and whether it has thrown. -/
structure SseOutcome (δ : Type*) where
  events : List (SseEvent δ)
  threw : Bool
  deriving Repr, DecidableEq

/-- One thing after another.  Nothing is done behind an error. -/
def SseOutcome.andThen (o next : SseOutcome δ) : SseOutcome δ :=
  if o.threw then o else ⟨o.events ++ next.events, next.threw⟩

def readFrames : List JsString → SseOutcome δ
  | [] => ⟨[], false⟩
  | frame :: frames =>
      match parseSseFrame parse frame with
      | .ok event => SseOutcome.andThen ⟨event.toList, false⟩ (readFrames frames)
      | .error _ => ⟨[], true⟩

/-- The frames of the buffer are read, and what follows the last break stays. -/
def readBuffer (buffer : JsString) : SseOutcome δ × JsString :=
  (readFrames parse (buffer.split frameBreak).dropLast,
    (buffer.split frameBreak).getLast?.getD [])

/-- The loop of `consumeSse` over the chunks that are still to be read.  If the connection fails
after them, `read` rejects; otherwise it is done. -/
def consumeChunks (failed : Bool) (decoder : TextDecoder) (buffer : JsString) :
    List (List ℕ) → SseOutcome δ
  | [] =>
      if failed then ⟨[], true⟩
      else
        let read := readBuffer parse (buffer ++ toJs decoder.flush)
        read.1.andThen (if read.2.trim = [] then ⟨[], false⟩ else readFrames parse [read.2])
  | chunk :: chunks =>
      let read := readBuffer parse (buffer ++ toJs (decoder.decode chunk).1)
      read.1.andThen (consumeChunks failed (decoder.decode chunk).2 read.2 chunks)

/-- What the client makes of the chunks of a response; `failed` is whether the connection fails
behind them. -/
def consumeSse (failed : Bool) (chunks : List (List ℕ)) : SseOutcome δ :=
  consumeChunks parse failed .initial [] chunks

end Client

end RagStack
