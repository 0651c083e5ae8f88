import RagStack.Core.Runs
import RagStack.Ollama.OllamaClient

/-!
# `streamRequest` step by step

The generator runs from one `await` or `yield` to the next.  In between, the caller's signal is
aborted, a timer fires, Ollama answers, or the loop that consumes the chunks takes the next one or
is left.  How long a timer runs is not modelled: it fires whenever it is set.

As a function from a response to chunks, `streamRequest` is simple.  What it does to the connection
is not in that function.  There is a controller which can abort the request, three timers that use
it, a listener on the caller's signal, and two `finally` blocks that clear the timers and remove the
listener.  The consumer of a generator may leave it in the middle, and then the code behind the
`yield` does not run except for those blocks.  So the code is modelled a second time, as a state
machine with the request as a part of its state.

Events are what the outside does, and each runs the code up to the next place where it waits.  What
an event may do and when is collected in one inversion lemma, and the proofs about runs are by cases
on it.

That the two models are of the same code is a theorem.  A run in which the loop takes every chunk
yields the chunks of `streamRequest` on the response it has met, and ends with its error.  The
induction carries what is still to come.

* `Exchange` — the upstream request, as the client has left it.
* `requestStep` — one event and what the code does until the next `await` or `yield`.
* `requestStep_agrees` — a run whose loop takes every chunk is `OllamaClient.streamRequest` of the
  response it has met.
-/

namespace RagStack.OllamaClient

/-! ## The parties

The upstream request as the client leaves it, the signal of the caller, and the generator with all
it has to clean up. -/

/-- The upstream request, as the client has left it.  As long as it is open Ollama goes on
generating. -/
inductive Exchange where
  | Unsent
  /-- Ollama has it and may still be generating. -/
  | Open
  /-- The response has been received to its end. -/
  | Ended
  /-- The controller was aborted before that. -/
  | Aborted
  /-- `cancel` was called on the body before that. -/
  | Cancelled
  deriving Repr, DecidableEq

/-- `controller.abort()`, for the `fetch` that was given its signal. -/
def Exchange.abort : Exchange → Exchange
  | Open => Aborted
  | exchange => exchange

/-- The end of the body.  A request that was aborted before has no end. -/
def Exchange.close : Exchange → Exchange
  | Open => Ended
  | exchange => exchange

section Exchange

variable {exchange : Exchange}

@[simp] lemma Exchange.abort_ne_open : exchange.abort ≠ .Open := by
  cases exchange <;> simp [abort]

@[simp] lemma Exchange.abort_eq_cancelled_iff :
    exchange.abort = .Cancelled ↔ exchange = .Cancelled := by
  cases exchange <;> simp [abort]

@[simp] lemma Exchange.close_ne_open : exchange.close ≠ .Open := by
  cases exchange <;> simp [close]

@[simp] lemma Exchange.close_eq_aborted_iff :
    exchange.close = .Aborted ↔ exchange = .Aborted := by
  cases exchange <;> simp [close]

@[simp] lemma Exchange.close_eq_cancelled_iff :
    exchange.close = .Cancelled ↔ exchange = .Cancelled := by
  cases exchange <;> simp [close]

end Exchange

/-- The `signal` of the caller when the generator starts. -/
inductive CallerSignal where
  | Absent
  | Pending
  | Aborted
  deriving Repr, DecidableEq

/-- Where the generator is.  It waits for `fetch`, for a read, or for the loop that takes its
chunks. -/
inductive RequestPhase where
  /-- `await fetch(...)`. -/
  | Fetching
  /-- `await this.readWithTimeout(...)`. -/
  | Reading (decoder : TextDecoder) (buffer : JsString)
  /-- The `yield` in the loop over the lines, with the lines behind it. -/
  | Yielding (decoder : TextDecoder) (buffer : JsString) (lines : List JsString)
  /-- The `yield` of what the buffer was left with. -/
  | YieldingRest
  /-- The generator has returned or thrown. -/
  | Finished (error : Option JsError)

/-- The generator with its controller and its timers, the listener it has on the caller's signal,
and what it has yielded. -/
structure RequestState where
  phase : RequestPhase
  exchange : Exchange
  controllerAborted : Bool
  signalAborted : Bool
  listening : Bool
  connectTimer : Bool
  totalTimer : Bool
  yielded : List OllamaChatChunk

/-- What happens next.  Each event is one thing that the generator may be waiting for, or that
happens to one of its signals and timers. -/
inductive RequestEvent where
  /-- The request goes out. -/
  | Sent
  | Responded (status : ℕ) (body : Bool)
  | FetchRejected (error : JsError)
  | Read (value : List ℕ)
  | ReadDone
  | ReadFailed (error : JsError)
  /-- The timer of `readWithTimeout` fires.  It aborts the controller and rejects; `lost` is the
  rejection of the read, if that is first. -/
  | StreamTimer (lost : Option JsError)
  | ConnectTimer
  | TotalTimer
  /-- The caller's signal is aborted, and the listener is called. -/
  | CallerAborts
  /-- The loop takes the next chunk. -/
  | Next
  /-- The loop is left at a chunk, and calls `return` on the generator. -/
  | Return
  deriving Repr, DecidableEq

/-! ## The code

One definition for each stretch of code between two places where it waits. -/

namespace RequestState

/-- Up to `fetch`. -/
def begin (signal : CallerSignal) : RequestState where
  phase := .Fetching
  exchange := .Unsent
  controllerAborted := signal = .Aborted
  signalAborted := signal = .Aborted
  listening := signal = .Pending
  connectTimer := true
  totalTimer := true
  yielded := []

variable (s : RequestState)

/-- `controller.abort(...)`. -/
def abort : RequestState :=
  { s with controllerAborted := true, exchange := s.exchange.abort }

/-- What `catch` sees of the two signals. -/
def abortState : AbortState :=
  if s.signalAborted then .ByCaller else if s.controllerAborted then .ByTimer else .NotAborted

/-- `finally`. -/
def finish (error : Option JsError) : RequestState :=
  { s with phase := .Finished error, totalTimer := false, listening := false }

/-- `catch (error)`, and `finally`. -/
def throws (error : StreamError) : RequestState := s.finish (some (caught s.abortState error))

/-- `yield chunk`. -/
def yields (chunk : OllamaChatChunk) (phase : RequestPhase) : RequestState :=
  { s with phase, yielded := s.yielded ++ [chunk] }

/-- What follows `await fetch(...)`. -/
def afterFetch (status : ℕ) (body : Bool) : RequestState :=
  let exchange := if body then s.exchange else s.exchange.close
  let s := { s with connectTimer := false, exchange }
  if status = 404 then
    s.throws (.Ollama "MODEL_NOT_AVAILABLE" "The selected model is not installed.")
  else if ¬ (200 ≤ status ∧ status ≤ 299) ∨ body = false then
    s.throws (.Ollama "OLLAMA_UNAVAILABLE" "Ollama generation failed.")
  else { s with phase := .Reading .initial [] }

section Body

variable (parse : JsString → Option (Option OllamaChatResponse))

/-- The loop over the lines, up to its next `yield`, and the next read behind it. -/
def deliver (decoder : TextDecoder) (buffer : JsString) : List JsString → RequestState
  | [] => { s with phase := .Reading decoder buffer }
  | line :: lines =>
      if line.trim = [] then deliver decoder buffer lines
      else
        match parseChunk parse line with
        | .error error => s.throws error
        | .ok chunk => s.yields chunk (.Yielding decoder buffer lines)

/-- What follows a read that succeeds. -/
def afterRead (decoder : TextDecoder) (buffer : JsString) (value : List ℕ) : RequestState :=
  let lines := (buffer ++ toJs (decoder.decode value).1).split newline
  s.deliver parse (decoder.decode value).2 (lines.getLast?.getD []) lines.dropLast

/-- What follows the loop over the reads. -/
def afterDone (decoder : TextDecoder) (buffer : JsString) : RequestState :=
  let rest := buffer ++ toJs decoder.flush
  let s := { s with exchange := s.exchange.close }
  if rest.trim = [] then s.finish none
  else
    match parseChunk parse rest with
    | .error error => s.throws error
    | .ok chunk => s.yields chunk .YieldingRest

end Body

end RequestState

section Step

variable (parse : JsString → Option (Option OllamaChatResponse))

/-- One event, if it can happen.  Nothing is sent once the controller is aborted; a response needs a
request. -/
def requestStep (s : RequestState) : RequestEvent → Option RequestState
  | .Sent =>
      match s.phase with
      | .Fetching =>
          if s.exchange = .Unsent ∧ s.controllerAborted = false then
            some { s with exchange := .Open }
          else none
      | _ => none
  | .Responded status body =>
      match s.phase with
      | .Fetching => if s.exchange = .Unsent then none else some (s.afterFetch status body)
      | _ => none
  | .FetchRejected error =>
      match s.phase with
      | .Fetching => some ({ s with connectTimer := false }.throws (.Foreign error))
      | _ => none
  | .Read value =>
      match s.phase with
      | .Reading decoder buffer => some (s.afterRead parse decoder buffer value)
      | _ => none
  | .ReadDone =>
      match s.phase with
      | .Reading decoder buffer => some (s.afterDone parse decoder buffer)
      | _ => none
  | .ReadFailed error =>
      match s.phase with
      | .Reading _ _ => some (s.throws (.Foreign error))
      | _ => none
  | .StreamTimer lost =>
      match s.phase with
      | .Reading _ _ => some (s.abort.throws (lost.elim readTimeout .Foreign))
      | _ => none
  | .ConnectTimer => if s.connectTimer then some { s.abort with connectTimer := false } else none
  | .TotalTimer => if s.totalTimer then some { s.abort with totalTimer := false } else none
  | .CallerAborts =>
      if s.listening then some { s.abort with signalAborted := true, listening := false } else none
  | .Next =>
      match s.phase with
      | .Yielding decoder buffer lines => some (s.deliver parse decoder buffer lines)
      | .YieldingRest => some (s.finish none)
      | _ => none
  | .Return =>
      match s.phase with
      | .Yielding _ _ _ | .YieldingRest => some (s.finish none)
      | _ => none

end Step

/-! ## Steps

Every step with its guard and its effect. -/

/-- What a step does, and when. -/
inductive RequestMoves (parse : JsString → Option (Option OllamaChatResponse)) (s : RequestState) :
    RequestEvent → RequestState → Prop
  | sent (hphase : s.phase = .Fetching) (hunsent : s.exchange = .Unsent)
      (hrunning : s.controllerAborted = false) :
      RequestMoves parse s .Sent { s with exchange := .Open }
  | responded (status : ℕ) (body : Bool) (hphase : s.phase = .Fetching)
      (hsent : s.exchange ≠ .Unsent) :
      RequestMoves parse s (.Responded status body) (s.afterFetch status body)
  | fetchRejected (error : JsError) (hphase : s.phase = .Fetching) :
      RequestMoves parse s (.FetchRejected error)
        ({ s with connectTimer := false }.throws (.Foreign error))
  | read {decoder : TextDecoder} {buffer : JsString} (value : List ℕ)
      (hphase : s.phase = .Reading decoder buffer) :
      RequestMoves parse s (.Read value) (s.afterRead parse decoder buffer value)
  | readDone {decoder : TextDecoder} {buffer : JsString}
      (hphase : s.phase = .Reading decoder buffer) :
      RequestMoves parse s .ReadDone (s.afterDone parse decoder buffer)
  | readFailed {decoder : TextDecoder} {buffer : JsString} (error : JsError)
      (hphase : s.phase = .Reading decoder buffer) :
      RequestMoves parse s (.ReadFailed error) (s.throws (.Foreign error))
  | streamTimer {decoder : TextDecoder} {buffer : JsString} (lost : Option JsError)
      (hphase : s.phase = .Reading decoder buffer) :
      RequestMoves parse s (.StreamTimer lost) (s.abort.throws (lost.elim readTimeout .Foreign))
  | connectTimer (hset : s.connectTimer = true) :
      RequestMoves parse s .ConnectTimer { s.abort with connectTimer := false }
  | totalTimer (hset : s.totalTimer = true) :
      RequestMoves parse s .TotalTimer { s.abort with totalTimer := false }
  | callerAborts (hlistening : s.listening = true) :
      RequestMoves parse s .CallerAborts
        { s.abort with signalAborted := true, listening := false }
  | next {decoder : TextDecoder} {buffer : JsString} {lines : List JsString}
      (hphase : s.phase = .Yielding decoder buffer lines) :
      RequestMoves parse s .Next (s.deliver parse decoder buffer lines)
  | nextRest (hphase : s.phase = .YieldingRest) : RequestMoves parse s .Next (s.finish none)
  | returned {decoder : TextDecoder} {buffer : JsString} {lines : List JsString}
      (hphase : s.phase = .Yielding decoder buffer lines) :
      RequestMoves parse s .Return (s.finish none)
  | returnedRest (hphase : s.phase = .YieldingRest) : RequestMoves parse s .Return (s.finish none)

section Steps

variable {parse : JsString → Option (Option OllamaChatResponse)} {s s' : RequestState}
  {event : RequestEvent}

/-- **Every step** is one of these. -/
lemma requestStep_moves (hstep : requestStep parse s event = some s') :
    RequestMoves parse s event s' := by
  cases event with
  | Sent =>
      cases hphase : s.phase with
      | Fetching =>
          simp only [requestStep, hphase] at hstep
          obtain ⟨⟨hunsent, hrunning⟩, hstep⟩ := Option.ite_none_right_eq_some.mp hstep
          cases hstep
          have hmove : RequestMoves parse s .Sent { s with exchange := .Open } :=
            .sent hphase hunsent hrunning
          rwa [hphase] at hmove
      | _ => simp [requestStep, hphase] at hstep
  | Responded status body =>
      cases hphase : s.phase with
      | Fetching =>
          simp only [requestStep, hphase] at hstep
          obtain ⟨hsent, hstep⟩ := Option.ite_none_left_eq_some.mp hstep
          cases hstep
          exact .responded status body hphase hsent
      | _ => simp [requestStep, hphase] at hstep
  | FetchRejected error =>
      cases hphase : s.phase with
      | Fetching =>
          simp only [requestStep, hphase] at hstep
          cases hstep
          exact .fetchRejected error hphase
      | _ => simp [requestStep, hphase] at hstep
  | Read value =>
      cases hphase : s.phase with
      | Reading decoder buffer =>
          simp only [requestStep, hphase] at hstep
          cases hstep
          exact .read value hphase
      | _ => simp [requestStep, hphase] at hstep
  | ReadDone =>
      cases hphase : s.phase with
      | Reading decoder buffer =>
          simp only [requestStep, hphase] at hstep
          cases hstep
          exact .readDone hphase
      | _ => simp [requestStep, hphase] at hstep
  | ReadFailed error =>
      cases hphase : s.phase with
      | Reading decoder buffer =>
          simp only [requestStep, hphase] at hstep
          cases hstep
          exact .readFailed error hphase
      | _ => simp [requestStep, hphase] at hstep
  | StreamTimer lost =>
      cases hphase : s.phase with
      | Reading decoder buffer =>
          simp only [requestStep, hphase] at hstep
          cases hstep
          exact .streamTimer lost hphase
      | _ => simp [requestStep, hphase] at hstep
  | ConnectTimer =>
      obtain ⟨hset, hstep⟩ := Option.ite_none_right_eq_some.mp hstep
      cases hstep
      exact .connectTimer hset
  | TotalTimer =>
      obtain ⟨hset, hstep⟩ := Option.ite_none_right_eq_some.mp hstep
      cases hstep
      exact .totalTimer hset
  | CallerAborts =>
      obtain ⟨hset, hstep⟩ := Option.ite_none_right_eq_some.mp hstep
      cases hstep
      exact .callerAborts hset
  | Next =>
      cases hphase : s.phase with
      | Yielding decoder buffer lines =>
          simp only [requestStep, hphase] at hstep
          cases hstep
          exact .next hphase
      | YieldingRest =>
          simp only [requestStep, hphase] at hstep
          cases hstep
          exact .nextRest hphase
      | _ => simp [requestStep, hphase] at hstep
  | Return =>
      cases hphase : s.phase with
      | Yielding decoder buffer lines =>
          simp only [requestStep, hphase] at hstep
          cases hstep
          exact .returned hphase
      | YieldingRest =>
          simp only [requestStep, hphase] at hstep
          cases hstep
          exact .returnedRest hphase
      | _ => simp [requestStep, hphase] at hstep

/-! ### Where a step leads -/

def RequestPhase.IsLive : RequestPhase → Prop
  | Finished _ => False
  | _ => True

instance : DecidablePred RequestPhase.IsLive
  | .Finished _ => isFalse id
  | .Fetching | .Reading _ _ | .Yielding _ _ _ | .YieldingRest => isTrue trivial

/-- What the two `finally` blocks see to. -/
structure RequestState.Tidy (s : RequestState) : Prop where
  connected : s.connectTimer = true → s.phase = .Fetching
  closed : s.phase.IsLive ∨ s.totalTimer = false ∧ s.listening = false

namespace RequestState

lemma Tidy.begin (signal : CallerSignal) : (RequestState.begin signal).Tidy :=
  ⟨fun _ => rfl, .inl trivial⟩

lemma Tidy.disconnected (h : s.Tidy) (hphase : s.phase ≠ .Fetching) : s.connectTimer = false :=
  Bool.eq_false_of_not_eq_true fun hset => hphase (h.connected hset)

/-- A state with the connect timer cleared. -/
lemma Tidy.of_live (hconnected : s.connectTimer = false) (hlive : s.phase.IsLive) : s.Tidy :=
  ⟨fun hset => absurd hset (by simp [hconnected]), .inl hlive⟩

lemma Tidy.finish {error : Option JsError} (hconnected : s.connectTimer = false) :
    (s.finish error).Tidy :=
  ⟨fun hset => absurd hset (by simp [RequestState.finish, hconnected]), .inr ⟨rfl, rfl⟩⟩

/-- The loop over the lines gets to a read, to an error or to a `yield`. -/
lemma deliver_cases (s : RequestState) (decoder : TextDecoder) (buffer : JsString)
    (lines : List JsString) :
    readLines parse lines = ([], none)
        ∧ s.deliver parse decoder buffer lines = { s with phase := .Reading decoder buffer }
      ∨ (∃ error, readLines parse lines = ([], some error)
        ∧ s.deliver parse decoder buffer lines = s.throws error)
      ∨ ∃ chunk rest, readLines parse lines = (chunk :: (readLines parse rest).1,
          (readLines parse rest).2)
        ∧ s.deliver parse decoder buffer lines
          = s.yields chunk (.Yielding decoder buffer rest) := by
  induction lines with
  | nil => exact .inl ⟨rfl, rfl⟩
  | cons line lines ih =>
      simp only [readLines, deliver]
      by_cases hblank : line.trim = []
      · rw [if_pos hblank, if_pos hblank]
        exact ih
      · rw [if_neg hblank, if_neg hblank]
        cases hparsed : parseChunk parse line with
        | error error => exact .inr (.inl ⟨error, rfl, rfl⟩)
        | ok chunk => exact .inr (.inr ⟨chunk, lines, rfl, rfl⟩)

lemma Tidy.deliver (hconnected : s.connectTimer = false) (decoder : TextDecoder)
    (buffer : JsString) (lines : List JsString) : (s.deliver parse decoder buffer lines).Tidy := by
  rcases s.deliver_cases decoder buffer lines with ⟨-, h⟩ | ⟨error, -, h⟩ | ⟨chunk, rest, -, h⟩
  · rw [h]
    exact .of_live hconnected trivial
  · rw [h]
    exact .finish hconnected
  · rw [h]
    exact .of_live hconnected trivial

lemma Tidy.afterFetch (s : RequestState) (status : ℕ) (body : Bool) :
    (s.afterFetch status body).Tidy := by
  simp only [RequestState.afterFetch]
  split
  · exact .finish rfl
  · split
    · exact .finish rfl
    · exact .of_live rfl trivial

lemma Tidy.afterDone (hconnected : s.connectTimer = false) (decoder : TextDecoder)
    (buffer : JsString) : (s.afterDone parse decoder buffer).Tidy := by
  simp only [RequestState.afterDone]
  split
  · exact .finish hconnected
  · split
    · exact .finish hconnected
    · exact .of_live hconnected trivial

end RequestState

/-- **The timers and the listener** are gone when they should. -/
lemma RequestMoves.tidy (hmove : RequestMoves parse s event s') (h : s.Tidy) : s'.Tidy := by
  have hreading : ∀ {decoder buffer}, s.phase = .Reading decoder buffer →
      s.connectTimer = false := by
    intro decoder buffer hphase
    exact h.disconnected (by simp [hphase])
  have hyielding : ∀ {decoder buffer lines}, s.phase = .Yielding decoder buffer lines →
      s.connectTimer = false := by
    intro decoder buffer lines hphase
    exact h.disconnected (by simp [hphase])
  cases hmove with
  | sent => exact ⟨h.connected, h.closed⟩
  | responded => exact .afterFetch s _ _
  | fetchRejected => exact .finish rfl
  | read value hphase => exact .deliver (hreading hphase) _ _ _
  | readDone hphase => exact .afterDone (hreading hphase) _ _
  | readFailed error hphase => exact .finish (hreading hphase)
  | streamTimer lost hphase => exact .finish (hreading hphase)
  | connectTimer hset => exact ⟨fun h => absurd h Bool.false_ne_true, h.closed⟩
  | totalTimer hset =>
      refine ⟨h.connected, ?_⟩
      rcases h.closed with hlive | ⟨htimer, -⟩
      · exact .inl hlive
      · exact absurd (hset.symm.trans htimer) (by simp)
  | callerAborts hlistening =>
      refine ⟨h.connected, ?_⟩
      rcases h.closed with hlive | ⟨-, hgone⟩
      · exact .inl hlive
      · exact absurd (hlistening.symm.trans hgone) (by simp)
  | next hphase => exact .deliver (hyielding hphase) _ _ _
  | nextRest hphase => exact .finish (h.disconnected (by simp [hphase]))
  | returned hphase => exact .finish (hyielding hphase)
  | returnedRest hphase => exact .finish (h.disconnected (by simp [hphase]))

/-- **A generator that has finished** does nothing more. -/
lemma requestStep_finished (h : s.Tidy) {error : Option JsError}
    (hphase : s.phase = .Finished error) : requestStep parse s event = none := by
  rcases h.closed with hlive | ⟨htimer, hgone⟩
  · rw [hphase] at hlive
    exact hlive.elim
  · have hconnected := h.disconnected (by simp [hphase])
    cases event <;> simp [requestStep, hphase, htimer, hgone, hconnected]

end Steps

/-! ## What it yields

What is still to come is computed from the phase and from the events that follow. -/

def readsOf (events : List RequestEvent) : List (List ℕ) :=
  events.filterMap fun
    | .Read value => some value
    | _ => none

def failureOf (events : List RequestEvent) : Option StreamError :=
  events.findSome? fun
    | .ReadFailed error => some (.Foreign error)
    | .StreamTimer lost => some (lost.elim readTimeout .Foreign)
    | _ => none

/-- What `fetch` has come to, if it has. -/
def fetchedOf (events : List RequestEvent) : Option OllamaFetch :=
  events.findSome? fun
    | .FetchRejected error => some (.Rejected error)
    | .Responded status body =>
        some (.Responded status (if body then some ⟨readsOf events, failureOf events⟩ else none))
    | _ => none

section Agreement

variable (parse : JsString → Option (Option OllamaChatResponse))

/-- The lines that are left of a read, and the reads behind it. -/
def readOn (failure : Option StreamError) (decoder : TextDecoder) (buffer : JsString)
    (reads : List (List ℕ)) (lines : List JsString) : List OllamaChatChunk × Option StreamError :=
  match readLines parse lines with
  | (chunks, some error) => (chunks, some error)
  | (chunks, none) =>
      let rest := readBody parse failure decoder buffer reads
      (chunks ++ rest.1, rest.2)

lemma readOn_of_chunk {parse : JsString → Option (Option OllamaChatResponse)}
    {failure : Option StreamError} {decoder : TextDecoder} {buffer : JsString}
    {reads : List (List ℕ)} {lines rest : List JsString} {chunk : OllamaChatChunk}
    (h : readLines parse lines = (chunk :: (readLines parse rest).1, (readLines parse rest).2)) :
    readOn parse failure decoder buffer reads lines
      = (chunk :: (readOn parse failure decoder buffer reads rest).1,
        (readOn parse failure decoder buffer reads rest).2) := by
  simp only [readOn]
  rw [h]
  rcases readLines parse rest with ⟨chunks, _ | error⟩
  · rfl
  · rfl

/-- The chunks that are still to come, and the error behind them. -/
def remaining (events : List RequestEvent) :
    RequestPhase → List OllamaChatChunk × Option StreamError
  | .Fetching => ((fetchedOf events).map (tryRequest parse)).getD ([], none)
  | .Reading decoder buffer =>
      readBody parse (failureOf events) decoder buffer (readsOf events)
  | .Yielding decoder buffer lines =>
      readOn parse (failureOf events) decoder buffer (readsOf events) lines
  | .YieldingRest | .Finished _ => ([], none)

variable {parse} {s s' : RequestState} {event : RequestEvent} {events : List RequestEvent}

/-- The run from here on yields what is still to come and ends with the error behind it. -/
def RunAgrees (parse : JsString → Option (Option OllamaChatResponse)) (s : RequestState)
    (events : List RequestEvent) (s' : RequestState) (error : Option JsError) : Prop :=
  s'.yielded = s.yielded ++ (remaining parse events s.phase).1
    ∧ error = (remaining parse events s.phase).2.map (caught s'.abortState)

variable (parse) in
/-- The answer is refused, or the first read follows. -/
lemma RequestState.afterFetch_cases (s : RequestState) (status : ℕ) (body : Bool)
    (received : ResponseBody) :
    let fetched := OllamaFetch.Responded status (if body then some received else none)
    ∃ s₁ : RequestState, s₁.yielded = s.yielded ∧ s₁.connectTimer = false
      ∧ ((∃ error, tryRequest parse fetched = ([], some error)
          ∧ s.afterFetch status body = s₁.throws error)
        ∨ tryRequest parse fetched = readBody parse received.failure .initial [] received.reads
          ∧ s.afterFetch status body = { s₁ with phase := .Reading .initial [] }) := by
  refine ⟨{ s with
    connectTimer := false, exchange := if body then s.exchange else s.exchange.close },
    rfl, rfl, ?_⟩
  simp only [afterFetch, tryRequest]
  by_cases hmissing : status = 404
  · rw [if_pos hmissing, if_pos hmissing]
    exact .inl ⟨_, rfl, rfl⟩
  · rw [if_neg hmissing, if_neg hmissing]
    by_cases hok : (200 ≤ status ∧ status ≤ 299) ∧ body = true
    · refine .inr ⟨?_, if_neg ?_⟩
      · rw [if_pos hok.1, if_pos hok.2]
      · simp [hok]
    · refine .inl ⟨.Ollama "OLLAMA_UNAVAILABLE" "Ollama generation failed.", ?_, if_pos ?_⟩
      · by_cases hstatus : 200 ≤ status ∧ status ≤ 299
        · rw [if_pos hstatus, if_neg fun hbody => hok ⟨hstatus, hbody⟩]
        · rw [if_neg hstatus]
      · simpa [or_iff_not_imp_left] using hok

variable (parse) in
/-- What the buffer was left with is one line more. -/
lemma RequestState.afterDone_cases (s : RequestState) (decoder : TextDecoder)
    (buffer : JsString) :
    let rest := readLines parse [buffer ++ toJs decoder.flush]
    ∃ s₁ : RequestState, s₁.yielded = s.yielded ∧ s₁.connectTimer = s.connectTimer
      ∧ (rest.1 = [] ∧ s.afterDone parse decoder buffer
            = s₁.finish (rest.2.map (caught s₁.abortState))
        ∨ ∃ chunk, rest = ([chunk], none)
          ∧ s.afterDone parse decoder buffer = s₁.yields chunk .YieldingRest) := by
  refine ⟨{ s with exchange := s.exchange.close }, rfl, rfl, ?_⟩
  simp only [afterDone, readLines]
  by_cases hblank : (buffer ++ toJs decoder.flush).trim = []
  · rw [if_pos hblank, if_pos hblank]
    exact .inl ⟨rfl, rfl⟩
  · rw [if_neg hblank, if_neg hblank]
    cases hparsed : parseChunk parse (buffer ++ toJs decoder.flush) with
    | error error => exact .inl ⟨rfl, rfl⟩
    | ok chunk => exact .inr ⟨chunk, rfl, rfl⟩

/-- Nothing is still to come when the generator has finished. -/
lemma runSteps_finished (htidy : s.Tidy) {error : Option JsError}
    (hphase : s.phase = .Finished error)
    (hrun : runSteps (requestStep parse) s events = some s') : events = [] ∧ s' = s := by
  cases events with
  | nil =>
      cases hrun
      exact ⟨rfl, rfl⟩
  | cons event events =>
      obtain ⟨s₁, hstep, -⟩ := runSteps_cons_eq_some hrun
      rw [requestStep_finished htidy hphase] at hstep
      cases hstep

/-- The step that finishes it is the last one, and yields nothing. -/
lemma runSteps_finish {error error' : Option JsError} (hconnected : s.connectTimer = false)
    (hrun : runSteps (requestStep parse) (s.finish error) events = some s')
    (hphase : s'.phase = .Finished error') :
    events = [] ∧ s'.yielded = s.yielded ∧ s'.abortState = s.abortState ∧ error' = error := by
  obtain ⟨rfl, rfl⟩ := runSteps_finished (.finish hconnected) rfl hrun
  cases hphase
  exact ⟨rfl, rfl, rfl, rfl⟩

/-- The step that throws is the last one, and yields nothing. -/
lemma runSteps_throws {thrown : StreamError} {error : Option JsError}
    (hconnected : s.connectTimer = false)
    (hrun : runSteps (requestStep parse) (s.throws thrown) events = some s')
    (hphase : s'.phase = .Finished error) :
    events = [] ∧ s'.yielded = s.yielded ++ [] ∧ error = some (caught s'.abortState thrown) := by
  obtain ⟨rfl, hyielded, habort, rfl⟩ := runSteps_finish hconnected hrun hphase
  rw [hyielded, habort]
  exact ⟨rfl, (List.append_nil _).symm, rfl⟩

/-- What is neither an answer nor a read changes nothing of what is to come. -/
lemma remaining_aside (hevent : event = .Sent ∨ event = .ConnectTimer ∨ event = .TotalTimer
      ∨ event = .CallerAborts ∨ event = .Next) (phase : RequestPhase) :
    remaining parse (event :: events) phase = remaining parse events phase := by
  rcases hevent with rfl | rfl | rfl | rfl | rfl
  all_goals cases phase <;> rfl

/-- Behind the end of the body there is no read. -/
lemma readsOf_of_yieldingRest (htidy : s.Tidy) (hphase : s.phase = .YieldingRest)
    (hrun : runSteps (requestStep parse) s events = some s') :
    readsOf events = [] ∧ failureOf events = none := by
  induction events generalizing s with
  | nil => exact ⟨rfl, rfl⟩
  | cons event events ih =>
      obtain ⟨s₁, hstep, hrest⟩ := runSteps_cons_eq_some hrun
      have hmove := requestStep_moves hstep
      have htidy₁ := hmove.tidy htidy
      cases hmove with
      | connectTimer => exact ih htidy₁ hphase hrest
      | totalTimer => exact ih htidy₁ hphase hrest
      | callerAborts => exact ih htidy₁ hphase hrest
      | nextRest =>
          obtain ⟨rfl, -⟩ := runSteps_finished htidy₁ rfl hrest
          exact ⟨rfl, rfl⟩
      | returnedRest =>
          obtain ⟨rfl, -⟩ := runSteps_finished htidy₁ rfl hrest
          exact ⟨rfl, rfl⟩
      | sent hother => cases hphase.symm.trans hother
      | responded status body hother => cases hphase.symm.trans hother
      | fetchRejected error hother => cases hphase.symm.trans hother
      | read value hother => cases hphase.symm.trans hother
      | readDone hother => cases hphase.symm.trans hother
      | readFailed error hother => cases hphase.symm.trans hother
      | streamTimer lost hother => cases hphase.symm.trans hother
      | next hother => cases hphase.symm.trans hother
      | returned hother => cases hphase.symm.trans hother

/-- The loop over the lines, if the run behind it agrees. -/
lemma deliver_agrees {decoder : TextDecoder} {buffer : JsString} {lines : List JsString}
    {error : Option JsError} (hconnected : s.connectTimer = false)
    (hrest : runSteps (requestStep parse) (s.deliver parse decoder buffer lines) events = some s')
    (hphase : s'.phase = .Finished error)
    (hlater : (s.deliver parse decoder buffer lines).phase.IsLive →
      RunAgrees parse (s.deliver parse decoder buffer lines) events s' error) :
    let rest := readOn parse (failureOf events) decoder buffer (readsOf events) lines
    s'.yielded = s.yielded ++ rest.1 ∧ error = rest.2.map (caught s'.abortState) := by
  intro rest
  rcases s.deliver_cases decoder buffer lines with
    ⟨hlines, hdeliver⟩ | ⟨thrown, hlines, hdeliver⟩ | ⟨chunk, lines', hlines, hdeliver⟩
  · rw [hdeliver] at hlater
    rw [show rest = readBody parse (failureOf events) decoder buffer (readsOf events) by
      simp [rest, readOn, hlines]]
    exact hlater trivial
  · rw [hdeliver] at hrest
    rw [show rest = ([], some thrown) by simp [rest, readOn, hlines]]
    exact (runSteps_throws hconnected hrest hphase).2
  · rw [hdeliver] at hlater
    obtain ⟨hyielded, herror⟩ := hlater trivial
    rw [show rest = _ from readOn_of_chunk hlines, hyielded]
    exact ⟨List.append_assoc _ [chunk] _, herror⟩

/-- The answer, if the run behind it agrees. -/
lemma afterFetch_agrees {status : ℕ} {body : Bool} {error : Option JsError}
    (hrest : runSteps (requestStep parse) (s.afterFetch status body) events = some s')
    (hphase : s'.phase = .Finished error)
    (hlater : (s.afterFetch status body).phase.IsLive →
      RunAgrees parse (s.afterFetch status body) events s' error) :
    let rest := tryRequest parse (.Responded status
      (if body then some ⟨readsOf events, failureOf events⟩ else none))
    s'.yielded = s.yielded ++ rest.1 ∧ error = rest.2.map (caught s'.abortState) := by
  intro rest
  obtain ⟨s₁, hsame, hconnected, ⟨thrown, hrefused, hafter⟩ | ⟨hreading, hafter⟩⟩ :=
    s.afterFetch_cases parse status body ⟨readsOf events, failureOf events⟩
  · rw [hafter] at hrest
    rw [show rest = ([], some thrown) from hrefused, ← hsame]
    exact (runSteps_throws hconnected hrest hphase).2
  · rw [hafter] at hlater
    rw [show rest = _ from hreading, ← hsame]
    exact hlater trivial

/-- The end of the body, if the run behind it agrees. -/
lemma afterDone_agrees {decoder : TextDecoder} {buffer : JsString} {error : Option JsError}
    (hconnected : s.connectTimer = false)
    (hrest : runSteps (requestStep parse) (s.afterDone parse decoder buffer) events = some s')
    (hphase : s'.phase = .Finished error)
    (hlater : (s.afterDone parse decoder buffer).phase.IsLive →
      RunAgrees parse (s.afterDone parse decoder buffer) events s' error) :
    let rest := readBody parse (failureOf events) decoder buffer (readsOf events)
    s'.yielded = s.yielded ++ rest.1 ∧ error = rest.2.map (caught s'.abortState) := by
  intro rest
  obtain ⟨s₁, hsame, hsame', ⟨hchunks, hafter⟩ | ⟨chunk, hchunk, hafter⟩⟩ :=
    s.afterDone_cases parse decoder buffer
  · rw [hafter] at hrest
    obtain ⟨rfl, hyielded, habort, rfl⟩ :=
      runSteps_finish (hsame'.trans hconnected) hrest hphase
    have hlast : rest = readLines parse [buffer ++ toJs decoder.flush] := rfl
    rw [hlast, hchunks, List.append_nil, hyielded, habort]
    exact ⟨hsame, rfl⟩
  · rw [hafter] at hrest hlater
    have htidy : (s₁.yields chunk .YieldingRest).Tidy :=
      .of_live (hsame'.trans hconnected) trivial
    obtain ⟨hreads, hfailure⟩ := readsOf_of_yieldingRest htidy rfl hrest
    have hlast : rest = readLines parse [buffer ++ toJs decoder.flush] := by
      simp only [rest]
      rw [hreads, hfailure]
      rfl
    obtain ⟨hyielded, herror⟩ := hlater trivial
    rw [hlast, hchunk, ← hsame]
    exact ⟨hyielded.trans (List.append_nil _), herror⟩

/-- **The run from anywhere**, if the loop takes every chunk. -/
lemma runSteps_agrees (htidy : s.Tidy) (hlive : s.phase.IsLive) {error : Option JsError}
    (hrun : runSteps (requestStep parse) s events = some s') (hphase : s'.phase = .Finished error)
    (htaken : .Return ∉ events) : RunAgrees parse s events s' error := by
  induction events generalizing s with
  | nil =>
      cases hrun
      rw [hphase] at hlive
      exact hlive.elim
  | cons event events ih =>
      obtain ⟨s₁, hstep, hrest⟩ := runSteps_cons_eq_some hrun
      have hmove := requestStep_moves hstep
      have htidy₁ := hmove.tidy htidy
      have hlater : s₁.phase.IsLive → RunAgrees parse s₁ events s' error := fun hlive₁ =>
        ih htidy₁ hlive₁ hrest fun h => htaken (List.mem_cons_of_mem event h)
      simp only [RunAgrees]
      cases hmove with
      | sent hfetching =>
          rw [remaining_aside (by simp)]
          exact hlater hlive
      | connectTimer hset =>
          rw [remaining_aside (by simp)]
          exact hlater hlive
      | totalTimer hset =>
          rw [remaining_aside (by simp)]
          exact hlater hlive
      | callerAborts hlistening =>
          rw [remaining_aside (by simp)]
          exact hlater hlive
      | responded status body hfetching =>
          have hagrees := afterFetch_agrees hrest hphase hlater
          rw [hfetching]
          exact hagrees
      | fetchRejected thrown hfetching =>
          rw [hfetching]
          exact (runSteps_throws rfl hrest hphase).2
      | read value hreading =>
          rw [hreading]
          exact deliver_agrees (htidy.disconnected (by simp [hreading])) hrest hphase hlater
      | readDone hreading =>
          have hagrees :=
            afterDone_agrees (htidy.disconnected (by simp [hreading])) hrest hphase hlater
          rw [hreading]
          exact hagrees
      | readFailed thrown hreading =>
          obtain ⟨rfl, hagrees⟩ :=
            runSteps_throws (htidy.disconnected (by simp [hreading])) hrest hphase
          rw [hreading]
          exact hagrees
      | streamTimer lost hreading =>
          have hconnected : s.abort.connectTimer = false :=
            htidy.disconnected (by simp [hreading])
          obtain ⟨rfl, hagrees⟩ := runSteps_throws hconnected hrest hphase
          rw [hreading]
          exact hagrees
      | next hyielding =>
          rw [remaining_aside (by simp), hyielding]
          exact deliver_agrees (htidy.disconnected (by simp [hyielding])) hrest hphase hlater
      | nextRest hyielding =>
          obtain ⟨rfl, hyielded, -, rfl⟩ :=
            runSteps_finish (htidy.disconnected (by simp [hyielding])) hrest hphase
          rw [hyielding, hyielded]
          exact ⟨(List.append_nil _).symm, rfl⟩
      | returned => exact absurd List.mem_cons_self htaken
      | returnedRest => exact absurd List.mem_cons_self htaken

/-- **A run whose loop takes every chunk** is `streamRequest` of what it has met. -/
theorem requestStep_agrees {signal : CallerSignal}
    (hrun : runSteps (requestStep parse) (.begin signal) events = some s) {error : Option JsError}
    (hphase : s.phase = .Finished error) (htaken : .Return ∉ events) {fetched : OllamaFetch}
    (hfetched : fetchedOf events = some fetched) :
    (s.yielded, error) = streamRequest parse ⟨fetched, s.abortState⟩ := by
  obtain ⟨hyielded, herror⟩ := runSteps_agrees (.begin signal) trivial hrun hphase htaken
  rw [show remaining parse events (RequestState.begin signal).phase = tryRequest parse fetched by
    simp [remaining, RequestState.begin, hfetched]] at hyielded herror
  exact Prod.ext hyielded herror

end Agreement

end RagStack.OllamaClient
