import RagStack.Ollama.StreamRequest

/-!
# What becomes of the upstream request

Only the controller can end a request whose response is still coming.  The caller's signal and the
timers abort it; `catch` and `finally` do not, and the body is never cancelled.  So a generator that
ends by itself, or is left by its loop, leaves Ollama generating.

A model that nobody listens to any more costs as much as one that is listened to.  So whenever a run
ends before its response, the request should be aborted or its body cancelled.  There are several
ways to end early.  The caller may abort, a timer may fire, a line may be no JSON or report an
error, a status may be no success, and the loop that takes the chunks may be left because a reply
has become too long.  In the first two cases the controller is aborted, and the request with it.  In
the others the generator throws, or is returned from, and its cleanup is about timers and listeners
only.

The invariant relates the request and the controller: a request that is open has a controller that
was not aborted, and one that is aborted has one that was.  A controller is aborted by the events of
the caller and of the timers, and by nothing else, and once aborted it stays so.  Together this is
an equivalence for every run that is cut short, whatever the order of its events.

The runs at the end show each of the other ways, with Ollama going on.

* `RequestState.CutShort`, `Exchange.Stopped` — a run that ends before its response, and what should
  have become of the request then.
* `RequestState.Accounted` — the invariant: the request is open only if the controller is not
  aborted, and aborted only if it is.
* `streamRequest_stops_iff` — the request is stopped exactly if something aborted the controller.
-/

namespace RagStack.OllamaClient

/-- The generator has finished, after the request was sent and before its response was received to
the end. -/
structure RequestState.CutShort (s : RequestState) : Prop where
  finished : ¬ s.phase.IsLive
  sent : s.exchange ≠ .Unsent
  unread : s.exchange ≠ .Ended

/-- Ollama does not keep generating for it: the request was aborted, or its body cancelled. -/
def Exchange.Stopped (exchange : Exchange) : Prop :=
  exchange = .Aborted ∨ exchange = .Cancelled

/-- The events that abort the controller: the three timers, and the signal of the caller. -/
def RequestEvent.aborts : RequestEvent → Bool
  | StreamTimer _ | ConnectTimer | TotalTimer | CallerAborts => true
  | _ => false

section Steps

variable {parse : JsString → Option (Option OllamaChatResponse)} {s s' : RequestState}
  {event : RequestEvent}

namespace RequestState

variable (parse) in
/-- The loop over the lines touches neither the controller nor the request. -/
lemma deliver_frame (s : RequestState) (decoder : TextDecoder) (buffer : JsString)
    (lines : List JsString) :
    (s.deliver parse decoder buffer lines).controllerAborted = s.controllerAborted
      ∧ (s.deliver parse decoder buffer lines).exchange = s.exchange := by
  rcases s.deliver_cases decoder buffer lines with ⟨-, h⟩ | ⟨error, -, h⟩ | ⟨chunk, rest, -, h⟩
  all_goals
    rw [h]
    exact ⟨rfl, rfl⟩

/-- An answer without a body is the end of the response. -/
lemma afterFetch_frame (s : RequestState) (status : ℕ) (body : Bool) :
    (s.afterFetch status body).controllerAborted = s.controllerAborted
      ∧ (s.afterFetch status body).exchange = if body then s.exchange else s.exchange.close := by
  simp only [afterFetch]
  split
  · exact ⟨rfl, rfl⟩
  · split
    · exact ⟨rfl, rfl⟩
    · exact ⟨rfl, rfl⟩

variable (parse) in
/-- So is the end of the body. -/
lemma afterDone_frame (s : RequestState) (decoder : TextDecoder) (buffer : JsString) :
    (s.afterDone parse decoder buffer).controllerAborted = s.controllerAborted
      ∧ (s.afterDone parse decoder buffer).exchange = s.exchange.close := by
  simp only [afterDone]
  split
  · exact ⟨rfl, rfl⟩
  · split
    · exact ⟨rfl, rfl⟩
    · exact ⟨rfl, rfl⟩

end RequestState

/-- What a step does to the controller and to the request. -/
inductive UpstreamMoves (s : RequestState) (event : RequestEvent) (s' : RequestState) : Prop
  | aborted (hevent : event.aborts = true) (hcontroller : s'.controllerAborted = true)
      (hexchange : s'.exchange = s.exchange.abort)
  | sent (hevent : event.aborts = false) (hrunning : s.controllerAborted = false)
      (hcontroller : s'.controllerAborted = s.controllerAborted) (hexchange : s'.exchange = .Open)
  | received (hevent : event.aborts = false)
      (hcontroller : s'.controllerAborted = s.controllerAborted)
      (hexchange : s'.exchange = s.exchange.close)
  | kept (hevent : event.aborts = false)
      (hcontroller : s'.controllerAborted = s.controllerAborted)
      (hexchange : s'.exchange = s.exchange)

/-- **Every step**: a timer and the listener abort, `catch` and `finally` do not. -/
lemma RequestMoves.upstream (hmove : RequestMoves parse s event s') :
    UpstreamMoves s event s' := by
  cases hmove with
  | sent hphase hunsent hrunning => exact .sent rfl hrunning rfl rfl
  | responded status body =>
      obtain ⟨hcontroller, hexchange⟩ := s.afterFetch_frame status body
      cases body with
      | true => exact .kept rfl hcontroller hexchange
      | false => exact .received rfl hcontroller hexchange
  | fetchRejected error => exact .kept rfl rfl rfl
  | @read decoder buffer value =>
      have hframe := s.deliver_frame parse (decoder.decode value).2
      exact .kept rfl (hframe _ _).1 (hframe _ _).2
  | @readDone decoder buffer =>
      obtain ⟨hcontroller, hexchange⟩ := s.afterDone_frame parse decoder buffer
      exact .received rfl hcontroller hexchange
  | readFailed error => exact .kept rfl rfl rfl
  | streamTimer lost => exact .aborted rfl rfl rfl
  | connectTimer => exact .aborted rfl rfl rfl
  | totalTimer => exact .aborted rfl rfl rfl
  | callerAborts => exact .aborted rfl rfl rfl
  | @next decoder buffer lines =>
      obtain ⟨hcontroller, hexchange⟩ := s.deliver_frame parse decoder buffer lines
      exact .kept rfl hcontroller hexchange
  | nextRest => exact .kept rfl rfl rfl
  | returned => exact .kept rfl rfl rfl
  | returnedRest => exact .kept rfl rfl rfl

end Steps

/-! ## Runs

An open request at the end of a run that was cut short is what must not be. -/

/-- **The invariant**: an open request has a running controller, and an aborted one an aborted
controller. -/
structure RequestState.Accounted (s : RequestState) : Prop where
  running : s.exchange = .Open → s.controllerAborted = false
  aborted : s.exchange = .Aborted → s.controllerAborted = true
  uncancelled : s.exchange ≠ .Cancelled

section Runs

variable {parse : JsString → Option (Option OllamaChatResponse)} {s s' : RequestState}
  {event : RequestEvent} {events : List RequestEvent} {signal : CallerSignal}

lemma RequestState.Accounted.begin (signal : CallerSignal) :
    (RequestState.begin signal).Accounted where
  running h := by cases h
  aborted h := by cases h
  uncancelled h := by cases h

lemma UpstreamMoves.accounted (hmove : UpstreamMoves s event s') (h : s.Accounted) :
    s'.Accounted := by
  cases hmove with
  | aborted hevent hcontroller hexchange =>
      refine ⟨fun hopen => ?_, fun _ => hcontroller, ?_⟩
      · exact absurd (hexchange.symm.trans hopen) Exchange.abort_ne_open
      · rw [hexchange, ne_eq, Exchange.abort_eq_cancelled_iff]
        exact h.uncancelled
  | sent hevent hrunning hcontroller hexchange =>
      refine ⟨fun _ => hcontroller.trans hrunning, fun haborted => ?_, fun hcancelled => ?_⟩
      · cases hexchange.symm.trans haborted
      · cases hexchange.symm.trans hcancelled
  | received hevent hcontroller hexchange =>
      refine ⟨fun hopen => ?_, ?_, ?_⟩
      · exact absurd (hexchange.symm.trans hopen) Exchange.close_ne_open
      · rw [hexchange, Exchange.close_eq_aborted_iff, hcontroller]
        exact h.aborted
      · rw [hexchange, ne_eq, Exchange.close_eq_cancelled_iff]
        exact h.uncancelled
  | kept hevent hcontroller hexchange =>
      refine ⟨?_, ?_, ?_⟩
      · rw [hexchange, hcontroller]
        exact h.running
      · rw [hexchange, hcontroller]
        exact h.aborted
      · rw [hexchange]
        exact h.uncancelled

/-- **The request of every run** is accounted for. -/
lemma requestStep_accounted
    (hrun : runSteps (requestStep parse) (.begin signal) events = some s) : s.Accounted := by
  refine runSteps_invariant (fun s event s' h hstep => ?_) hrun (.begin signal)
  exact (requestStep_moves hstep).upstream.accounted h

lemma UpstreamMoves.controller (hmove : UpstreamMoves s event s') :
    s'.controllerAborted = (s.controllerAborted || event.aborts) := by
  cases hmove with
  | aborted hevent hcontroller => rw [hevent, hcontroller, Bool.or_true]
  | sent hevent hrunning hcontroller => rw [hevent, hcontroller, Bool.or_false]
  | received hevent hcontroller => rw [hevent, hcontroller, Bool.or_false]
  | kept hevent hcontroller => rw [hevent, hcontroller, Bool.or_false]

/-- The controller is aborted if it was before, or if an event has aborted it. -/
lemma runSteps_controller (hrun : runSteps (requestStep parse) s events = some s') :
    s'.controllerAborted = (s.controllerAborted || events.any RequestEvent.aborts) := by
  induction events generalizing s with
  | nil =>
      cases hrun
      exact (Bool.or_false _).symm
  | cons event events ih =>
      obtain ⟨s₁, hstep, hrest⟩ := runSteps_cons_eq_some hrun
      rw [ih hrest, (requestStep_moves hstep).upstream.controller, List.any_cons, Bool.or_assoc]

/-- Nothing is sent once the controller is aborted. -/
lemma runSteps_unsent (hrun : runSteps (requestStep parse) s events = some s')
    (hcontroller : s.controllerAborted = true) (hunsent : s.exchange = .Unsent) :
    s'.exchange = .Unsent := by
  refine (runSteps_invariant (P := fun s => s.controllerAborted = true ∧ s.exchange = .Unsent)
    (fun s event s' h hstep => ?_) hrun ⟨hcontroller, hunsent⟩).2
  cases (requestStep_moves hstep).upstream with
  | aborted hevent hcontroller hexchange => exact ⟨hcontroller, by rw [hexchange, h.2]; rfl⟩
  | sent hevent hrunning => cases hrunning.symm.trans h.1
  | received hevent hcontroller hexchange =>
      exact ⟨hcontroller.trans h.1, by rw [hexchange, h.2]; rfl⟩
  | kept hevent hcontroller hexchange => exact ⟨hcontroller.trans h.1, hexchange.trans h.2⟩

/-- **What becomes of the upstream request.**  However a run is cut short, the request is stopped
exactly if the caller's signal or a timer has aborted the controller.  An error in what Ollama sends
does not, and neither does leaving the loop. -/
theorem streamRequest_stops_iff
    (hrun : runSteps (requestStep parse) (.begin signal) events = some s) (hcut : s.CutShort) :
    s.exchange.Stopped ↔ ∃ event ∈ events, event.aborts = true := by
  have haccounted := requestStep_accounted hrun
  have hcontroller := runSteps_controller hrun
  have hrunning : (RequestState.begin signal).controllerAborted = false := by
    refine Bool.eq_false_of_not_eq_true fun haborted => ?_
    exact hcut.sent (runSteps_unsent hrun haborted rfl)
  rw [hrunning, Bool.false_or] at hcontroller
  rw [← List.any_eq_true, ← hcontroller]
  constructor
  · rintro (haborted | hcancelled)
    · exact haccounted.aborted haborted
    · exact absurd hcancelled haccounted.uncancelled
  · intro haborted
    cases hexchange : s.exchange with
    | Unsent => exact absurd hexchange hcut.sent
    | Open => cases (haccounted.running hexchange).symm.trans haborted
    | Ended => exact absurd hexchange hcut.unread
    | Aborted => exact .inl rfl
    | Cancelled => exact .inr rfl

end Runs

/-! ### Runs that are cut short -/

def hiLine : JsString := js "\x7b\"message\":\x7b\"content\":\"Hi\"\x7d\x7d"

/-- `JSON.parse` for this line and for `Hi`, which is no JSON. -/
def parseHi (line : JsString) : Option (Option OllamaChatResponse) :=
  if line = hiLine then some (some ⟨some (js "Hi"), false, none, none, none, none⟩) else none

/-- A line as it is received. -/
def received (line : JsString) : RequestEvent := .Read (line.map UInt16.toNat ++ [0x0A])

/-- The run ends early, and Ollama goes on generating. -/
def LeavesOpen (events : List RequestEvent) : Prop :=
  ∃ s, runSteps (requestStep parseHi) (.begin .Pending) events = some s
    ∧ s.CutShort ∧ ¬ s.exchange.Stopped

lemma leavesOpen_of_eval {events : List RequestEvent}
    (h : (runSteps (requestStep parseHi) (.begin .Pending) events).map
      (fun s => (decide s.phase.IsLive, s.exchange)) = some (false, .Open)) :
    LeavesOpen events := by
  obtain ⟨s, hs, hstate⟩ := Option.map_eq_some_iff.mp h
  rw [Prod.mk.injEq] at hstate
  refine ⟨s, hs, ⟨of_decide_eq_false hstate.1, ?_, ?_⟩, ?_⟩
  all_goals rw [hstate.2]
  · decide
  · decide
  · rintro (haborted | hcancelled)
    · cases haborted
    · cases hcancelled

/-- A line that is no JSON, an answer that is no success, and a loop that is left at the first
chunk, as `receiveChunk` leaves it where the reply may have one character. -/
theorem streamRequest_leavesOpen :
    LeavesOpen [.Sent, .Responded 200 true, received (js "Hi")]
      ∧ LeavesOpen [.Sent, .Responded 500 true]
      ∧ LeavesOpen [.Sent, .Responded 200 true, received hiLine, .Return] := by
  refine ⟨leavesOpen_of_eval ?_, leavesOpen_of_eval ?_, leavesOpen_of_eval ?_⟩
  all_goals decide +kernel

/-- The total timeout while a read is pending. -/
def timedOut : List RequestEvent :=
  [.Sent, .Responded 200 true, received hiLine, .Next, .TotalTimer,
    .ReadFailed (.Other "This operation was aborted")]

theorem streamRequest_stops_iff_timedOut :
    ∃ s, runSteps (requestStep parseHi) (.begin .Pending) timedOut = some s
      ∧ s.CutShort
      ∧ (s.exchange.Stopped ↔ ∃ event ∈ timedOut, event.aborts = true) := by
  have hrun : (runSteps (requestStep parseHi) (.begin .Pending) timedOut).map
      (fun s => (decide s.phase.IsLive, s.exchange)) = some (false, .Aborted) := by
    decide +kernel
  obtain ⟨s, hs, hstate⟩ := Option.map_eq_some_iff.mp hrun
  rw [Prod.mk.injEq] at hstate
  have hcut : s.CutShort := by
    refine ⟨of_decide_eq_false hstate.1, ?_, ?_⟩
    · rw [hstate.2]
      decide
    · rw [hstate.2]
      decide
  exact ⟨s, hs, hcut, streamRequest_stops_iff hs hcut⟩

end RagStack.OllamaClient
