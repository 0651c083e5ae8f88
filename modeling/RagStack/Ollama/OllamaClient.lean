import RagStack.Chats.Types
import RagStack.Core.Utf8

/-!
# `ollama-client.service.ts`

How an answer of Ollama becomes chunks, and what `complete` makes of them.  The body of a response
is a sequence of reads, which may cut it anywhere, and ends with the stream being closed or with a
failed read.

Ollama answers with one JSON object a line.  The client decodes the reads as UTF-8, cuts the text
into lines, parses each of them and yields a chunk.  A read may end inside a line or inside a
character, so a decoder and a buffer are carried from one read to the next, and what is left in the
buffer when the stream is closed is a line too.  Errors come from everywhere: no connection, a
status, a line that is no JSON, an error that Ollama reports in a line, a failed read, a timeout.
They are told apart by codes, and which code an error gets also depends on what was aborted when it
is caught.

`complete` joins the text of all chunks, and takes the counts from the last one that is `done`.  It
does not ask whether there is one.  A stream that is closed early is thus a shorter answer and not
an error, which is of importance for those who store what it returns.

`JSON.parse` is a parameter.  It is applied to one line at a time, and a chunk depends on a handful
of fields of what it returns.

* `parseChunk` — one line of the body.
* `streamRequest` — the chunks it yields, and the error it throws behind them.
* `complete` — the text of all chunks, with the counts of the last one that is `done`.
-/

namespace RagStack.OllamaClient

/-- `OllamaChatResponse`, as `typeof` sees it: a field of another type is `none`. -/
structure OllamaChatResponse where
  content : Option JsString
  done : Bool
  promptEvalCount : Option ℤ
  evalCount : Option ℤ
  doneReason : Option String
  error : Option String
  deriving Repr, DecidableEq

/-- What can be thrown inside `streamRequest`. -/
inductive StreamError where
  /-- An `OllamaError`. -/
  | Ollama (code message : String)
  | Foreign (error : JsError)
  deriving Repr, DecidableEq

/-- Which of the two signals is aborted when an error is caught. -/
inductive AbortState where
  | NotAborted
  /-- A timer has aborted the controller. -/
  | ByTimer
  /-- The signal of the caller is aborted, and with it the controller. -/
  | ByCaller
  deriving Repr, DecidableEq

/-- The body of a response: the reads that succeed, and the error of the read behind them, if the
stream is not closed there. -/
structure ResponseBody where
  reads : List (List ℕ)
  failure : Option StreamError
  deriving Repr, DecidableEq

/-- What `fetch` comes to. -/
inductive OllamaFetch where
  | Rejected (error : JsError)
  | Responded (status : ℕ) (body : Option ResponseBody)
  deriving Repr, DecidableEq

structure OllamaResponse where
  fetched : OllamaFetch
  aborted : AbortState
  deriving Repr, DecidableEq

/-- The rejection of `readWithTimeout` when its timer fires. -/
def readTimeout : StreamError := .Ollama "OLLAMA_TIMEOUT" "Ollama stream timed out."

/-- `'\n'`. -/
def newline : JsString → Option ℕ
  | 0x0A :: _ => some 1
  | _ => none

/-- `catch (error)`. -/
def caught (aborted : AbortState) : StreamError → JsError
  | .Ollama code message => .Coded code (some message)
  | .Foreign error =>
      match aborted with
      | .ByCaller => error
      | .ByTimer => .Coded "OLLAMA_TIMEOUT" (some "Ollama generation timed out.")
      | .NotAborted => .Coded "OLLAMA_UNAVAILABLE" (some "Ollama is unavailable.")

section Client

variable (parse : JsString → Option (Option OllamaChatResponse))

/-- `parseChunk`.  A line may be no JSON, or the value `null`, which has no properties. -/
def parseChunk (line : JsString) : Except StreamError OllamaChatChunk :=
  match parse line with
  | none => .error (.Ollama "OLLAMA_INVALID_RESPONSE" "Ollama returned invalid stream data.")
  | some none => .error (.Foreign (.Other "Cannot read properties of null (reading 'error')"))
  | some (some body) =>
      if body.error.isSome then
        .error (.Ollama "OLLAMA_UNAVAILABLE" "Ollama generation failed.")
      else
        .ok
          { delta := body.content.getD []
            done := body.done
            promptTokens := body.promptEvalCount
            completionTokens := body.evalCount
            finishReason := body.doneReason }

/-- `for (const line of lines)`: the chunks up to an error, and the error. -/
def readLines : List JsString → List OllamaChatChunk × Option StreamError
  | [] => ([], none)
  | line :: lines =>
      if line.trim = [] then readLines lines
      else
        match parseChunk parse line with
        | .error error => ([], some error)
        | .ok chunk => (chunk :: (readLines lines).1, (readLines lines).2)

/-- The loop over the reads, and the rest behind the last line break. -/
def readBody (failure : Option StreamError) (decoder : TextDecoder) (buffer : JsString) :
    List (List ℕ) → List OllamaChatChunk × Option StreamError
  | [] =>
      match failure with
      | some error => ([], some error)
      | none => readLines parse [buffer ++ toJs decoder.flush]
  | value :: reads =>
      let lines := (buffer ++ toJs (decoder.decode value).1).split newline
      match readLines parse lines.dropLast with
      | (chunks, some error) => (chunks, some error)
      | (chunks, none) =>
          let rest := readBody failure (decoder.decode value).2 (lines.getLast?.getD []) reads
          (chunks ++ rest.1, rest.2)

/-- The `try` block of `streamRequest`. -/
def tryRequest : OllamaFetch → List OllamaChatChunk × Option StreamError
  | .Rejected error => ([], some (.Foreign error))
  | .Responded status body =>
      if status = 404 then
        ([], some (.Ollama "MODEL_NOT_AVAILABLE" "The selected model is not installed."))
      else
        match if 200 ≤ status ∧ status ≤ 299 then body else none with
        | none => ([], some (.Ollama "OLLAMA_UNAVAILABLE" "Ollama generation failed."))
        | some body => readBody parse body.failure .initial [] body.reads

/-- `streamRequest`: the chunks it yields, and the error it throws behind them. -/
def streamRequest (response : OllamaResponse) : List OllamaChatChunk × Option JsError :=
  ((tryRequest parse response.fetched).1,
    (tryRequest parse response.fetched).2.map (caught response.aborted))

/-- The chunk that is left in `finalChunk`. -/
def finalChunk (chunks : List OllamaChatChunk) : Option OllamaChatChunk :=
  (chunks.filter (·.done)).getLast?

/-- `complete`.  Whether there is a final chunk is not asked. -/
def complete (response : OllamaResponse) : Except JsError OllamaCompletion :=
  match streamRequest parse response with
  | (_, some error) => .error error
  | (chunks, none) =>
      .ok
        { content := chunks.flatMap (·.delta)
          promptTokens := (finalChunk chunks).bind (·.promptTokens)
          completionTokens := (finalChunk chunks).bind (·.completionTokens) }

/-- The completion frame has arrived: one of the chunks that were yielded is `done`. -/
def Delivered (response : OllamaResponse) : Prop :=
  (finalChunk (streamRequest parse response).1).isSome

instance (response : OllamaResponse) : Decidable (Delivered parse response) :=
  inferInstanceAs (Decidable (_ = true))

end Client

end RagStack.OllamaClient
