import RagStack.Web.PendingStream

/-!
# `use-chat-stream.ts`

The hook keeps one pending state and one reference to an abort controller, and every `send` works on
these two: at its start, on each of its events, when its request ends, and once more after the
awaited refetch.  A new send may start as soon as the pending state is no longer streaming, which is
before the send before it is through.

The composer is enabled again when the status is done.  At that time the first send still has to set
the reference to `null`, to refetch, and to clear the pending state, and it does so without asking
whose state it is.  If a second send has started in between, its controller and its pending state
are the ones that go.  The second reply is still streaming then, but the page does not show it, and
it cannot be cancelled.

The hook is a state machine whose steps are those of any number of calls of `send`, in any order
that awaiting allows.  In such a run the steps of an earlier send do no harm if they find nothing of
a later one that they could touch: no pending state to change, no controller to drop, no pending
state to clear.  This is a condition on each step and the state before it.  What it is enough for is
that the latest send owns both, as long as its request runs, with the text of its own deltas.

The invariant says who the owner is.  It is kept by the steps of the latest send, by those of the
others under the condition, and by a new send, which takes both over.

* `hookStep` — one step of the hook; a run is any interleaving of them.
* `KeepsClear` — a step of an earlier send finds nothing of a later one that it could touch.
* `latest_send_intact` — in a run of such steps the latest send keeps its state and its
  controller until its request ends.
* `latest_send_cleared` — a send that starts between the last event and the refetch of another.
-/

namespace RagStack

/-- Where a call of `send` is. -/
inductive SendPhase where
  /-- In `api.streamMessage`. -/
  | Streaming
  /-- In `invalidateQueries`. -/
  | Refetching
  | Over
  deriving Repr, DecidableEq

/-- One call of `send`: its parameters, where it is, the signal of its controller, and the events
it has received. -/
structure SendCall where
  chatId : Uuid
  content : JsString
  phase : SendPhase
  aborted : Bool
  events : List ChatStreamEvent
  deriving Repr, DecidableEq

/-- The hook.  The controller of a call is its place in `sends`. -/
structure ChatStreamHook where
  pending : Option PendingStream
  controllerRef : Option ℕ
  sends : List SendCall
  deriving Repr, DecidableEq

/-- The hook when it is mounted, with nothing pending and no controller. -/
def ChatStreamHook.initial : ChatStreamHook := ⟨none, none, []⟩

/-- A step of the hook.  `End` is the end of the request, with the message of its error if it has
one, up to the `await` of the `finally` block; `Refetched` is the rest of that block. -/
inductive HookAction where
  | Send (chatId : Uuid) (content : JsString)
  | Event (send : ℕ) (event : ChatStreamEvent)
  | End (send : ℕ) (error : Option String)
  | Refetched (send : ℕ)
  | Cancel
  deriving Repr, DecidableEq

/-- The call a step belongs to, if that call has already started. -/
def HookAction.send? : HookAction → Option ℕ
  | Event send _ | End send _ | Refetched send => some send
  | _ => none

namespace ChatStreamHook

/-- What the composer and the chat page ask before they call `send`. -/
def isBusy (h : ChatStreamHook) : Bool := h.pending.any (·.status = .Streaming)

/-- The start of `send`. -/
def startSend (h : ChatStreamHook) (chatId : Uuid) (content : JsString) : ChatStreamHook where
  pending := some (.initial chatId content)
  controllerRef := some h.sends.length
  sends := h.sends ++ [⟨chatId, content, .Streaming, false, []⟩]

def onEvent (h : ChatStreamHook) (i : ℕ) (call : SendCall) (event : ChatStreamEvent) :
    ChatStreamHook where
  pending := h.pending.map (applyStreamEvent · event)
  controllerRef := h.controllerRef
  sends := h.sends.set i { call with events := call.events ++ [event] }

/-- What the `catch` block does to the pending state. -/
def failed (h : ChatStreamHook) (call : SendCall) : Option String → Option PendingStream
  | none => h.pending
  | some message =>
      if call.aborted then h.pending
      else h.pending.map fun p => { p with status := .Error, errorMessage := some message }

def onEnd (h : ChatStreamHook) (i : ℕ) (call : SendCall) (error : Option String) :
    ChatStreamHook where
  pending := h.failed call error
  controllerRef := none
  sends := h.sends.set i { call with phase := .Refetching }

/-- The end of the refetch: only an error stays. -/
def onRefetched (h : ChatStreamHook) (i : ℕ) (call : SendCall) : ChatStreamHook where
  pending := h.pending.filter (·.status = .Error)
  controllerRef := h.controllerRef
  sends := h.sends.set i { call with phase := .Over }

def cancel (h : ChatStreamHook) : ChatStreamHook :=
  match h.controllerRef with
  | none => h
  | some i => { h with sends := h.sends.modify i fun call => { call with aborted := true } }

/-- The step of a call that has started and is in `phase`. -/
def callStep (h : ChatStreamHook) (i : ℕ) (phase : SendPhase)
    (step : SendCall → ChatStreamHook) : Option ChatStreamHook :=
  match h.sends[i]? with
  | none => none
  | some call => if call.phase = phase then some (step call) else none

end ChatStreamHook

/-- One step of the hook, if it is possible. -/
def hookStep (h : ChatStreamHook) : HookAction → Option ChatStreamHook
  | .Send chatId content => if h.isBusy then none else some (h.startSend chatId content)
  | .Event i event => h.callStep i .Streaming fun call => h.onEvent i call event
  | .End i error => h.callStep i .Streaming fun call => h.onEnd i call error
  | .Refetched i => h.callStep i .Refetching fun call => h.onRefetched i call
  | .Cancel => some h.cancel

def runHook (h : ChatStreamHook) : List HookAction → Option ChatStreamHook
  | [] => some h
  | action :: actions => (hookStep h action).bind fun h' => runHook h' actions

/-! ## The calls that overlap

Which steps are those of an earlier call, and what they would have to find in order to do harm. -/

/-- A call after which another one has started. -/
def ChatStreamHook.IsEarlier (h : ChatStreamHook) (i : ℕ) : Prop := i + 1 < h.sends.length

instance (h : ChatStreamHook) (i : ℕ) : Decidable (h.IsEarlier i) :=
  inferInstanceAs (Decidable (i + 1 < h.sends.length))

/-- A step of an earlier call finds no pending state it would change, no controller it would drop
and no pending state it would clear. -/
def KeepsClear (h : ChatStreamHook) : HookAction → Prop
  | .Event i _ => h.IsEarlier i → h.pending = none
  | .End i error => h.IsEarlier i → h.controllerRef = none
      ∧ ∀ call, h.sends[i]? = some call → call.aborted = false → error ≠ none → h.pending = none
  | .Refetched i => h.IsEarlier i → ∀ p, h.pending = some p → p.status = .Error
  | _ => True

/-- Every step of a run keeps clear of later calls, each of them in the state in which it is taken.
-/
def AllKeepClear (h : ChatStreamHook) : List HookAction → Prop
  | [] => True
  | action :: actions =>
      KeepsClear h action ∧ ∀ h', hookStep h action = some h' → AllKeepClear h' actions

/-- The latest call, as long as its request runs: the pending state is what its own events make of
its beginning, with the text of its own deltas, and `cancel` aborts it. -/
def LatestIntact (h : ChatStreamHook) : Prop :=
  ∀ call, h.sends.getLast? = some call → call.phase = .Streaming →
    h.pending = some (applyStreamEvents (.initial call.chatId call.content) call.events)
      ∧ (applyStreamEvents (.initial call.chatId call.content) call.events).assistantText
          = deltaText call.events
      ∧ h.cancel.sends.getLast? = some { call with aborted := true }

section Steps

variable {h h' : ChatStreamHook}

lemma ChatStreamHook.callStep_eq_some {i : ℕ} {phase : SendPhase}
    {step : SendCall → ChatStreamHook} (hstep : h.callStep i phase step = some h') :
    ∃ call, h.sends[i]? = some call ∧ call.phase = phase ∧ h' = step call := by
  simp only [ChatStreamHook.callStep] at hstep
  split at hstep
  · cases hstep
  · rename_i call hcall
    split at hstep
    · rename_i hphase
      cases hstep
      exact ⟨call, hcall, hphase, rfl⟩
    · cases hstep

/-- A change of one call is a change of the latest, or leaves it alone. -/
lemma getLast?_set {sends : List SendCall} {i : ℕ} {call call' last : SendCall}
    (hcall : sends[i]? = some call) (hlast : (sends.set i call').getLast? = some last) :
    (i + 1 = sends.length ∧ last = call' ∧ sends.getLast? = some call)
      ∨ (i + 1 < sends.length ∧ sends.getLast? = some last) := by
  have hi : i < sends.length := (List.getElem?_eq_some_iff.mp hcall).1
  rw [List.getLast?_eq_getElem?, List.length_set, List.getElem?_set] at hlast
  split at hlast
  · rename_i heq
    have hlen : i + 1 = sends.length := by omega
    cases hlast
    exact .inl ⟨hlen, rfl, by rw [List.getLast?_eq_getElem?, ← heq, hcall]⟩
  · rename_i hne
    exact .inr ⟨by omega, by rw [List.getLast?_eq_getElem?, hlast]⟩

/-- The invariant: while the latest call streams, state and controller are its own. -/
def LatestOwns (h : ChatStreamHook) : Prop :=
  ∀ call, h.sends.getLast? = some call → call.phase = .Streaming →
    h.pending = some (applyStreamEvents (.initial call.chatId call.content) call.events)
      ∧ h.controllerRef = some (h.sends.length - 1)

/-- The invariant gives the latest call its state, its text and its `cancel`. -/
lemma LatestOwns.intact (hown : LatestOwns h) : LatestIntact h := by
  intro call hlast hphase
  obtain ⟨hpending, hcontroller⟩ := hown call hlast hphase
  refine ⟨hpending, ?_, ?_⟩
  · rw [applyStreamEvents_assistantText]
    rfl
  · simp only [ChatStreamHook.cancel]
    rw [hcontroller]
    rw [List.getLast?_eq_getElem?] at hlast ⊢
    show (h.sends.modify (h.sends.length - 1) _)[(h.sends.modify (h.sends.length - 1) _).length - 1]?
      = _
    rw [List.length_modify, List.getElem?_modify, hlast]
    simp

lemma latestOwns_onEvent {i : ℕ} {call : SendCall} {event : ChatStreamEvent} (hown : LatestOwns h)
    (hcall : h.sends[i]? = some call) (hphase : call.phase = .Streaming)
    (hclear : KeepsClear h (.Event i event)) : LatestOwns (h.onEvent i call event) := by
  intro last hlast hstreaming
  rcases getLast?_set hcall hlast with ⟨-, rfl, hcalled⟩ | ⟨hearlier, hlatest⟩
  · obtain ⟨hpending, hcontroller⟩ := hown call hcalled hphase
    refine ⟨?_, ?_⟩
    · show h.pending.map _ = _
      rw [hpending, applyStreamEvents_append]
      rfl
    · exact hcontroller.trans (by rw [ChatStreamHook.onEvent, List.length_set])
  · -- the latest call has a state of its own, so the event came too late
    have hnone : h.pending = none := hclear hearlier
    rw [(hown last hlatest hstreaming).1] at hnone
    cases hnone

lemma latestOwns_onEnd {i : ℕ} {call : SendCall} {error : Option String} (hown : LatestOwns h)
    (hcall : h.sends[i]? = some call) (hclear : KeepsClear h (.End i error)) :
    LatestOwns (h.onEnd i call error) := by
  intro last hlast hstreaming
  rcases getLast?_set hcall hlast with ⟨-, rfl, -⟩ | ⟨hearlier, hlatest⟩
  · cases hstreaming
  · have hcontroller := (hclear hearlier).1
    rw [(hown last hlatest hstreaming).2] at hcontroller
    cases hcontroller

lemma latestOwns_onRefetched {i : ℕ} {call : SendCall} (hown : LatestOwns h)
    (hcall : h.sends[i]? = some call) (hclear : KeepsClear h (.Refetched i)) :
    LatestOwns (h.onRefetched i call) := by
  intro last hlast hstreaming
  rcases getLast?_set hcall hlast with ⟨-, rfl, -⟩ | ⟨hearlier, hlatest⟩
  · cases hstreaming
  · obtain ⟨hpending, hcontroller⟩ := hown last hlatest hstreaming
    refine ⟨?_, ?_⟩
    · show h.pending.filter _ = _
      rw [hpending, Option.filter_some, if_pos]
      exact decide_eq_true (hclear hearlier _ hpending)
    · exact hcontroller.trans (by rw [ChatStreamHook.onRefetched, List.length_set])

lemma latestOwns_cancel (hown : LatestOwns h) : LatestOwns h.cancel := by
  simp only [ChatStreamHook.cancel]
  split
  · exact hown
  · rename_i i hcontroller
    intro last hlast hstreaming
    change (h.sends.modify i _).getLast? = some last at hlast
    rw [List.getLast?_eq_getElem?, List.length_modify, List.getElem?_modify] at hlast
    have hlatest : ∃ call, h.sends.getLast? = some call ∧ call.chatId = last.chatId
        ∧ call.content = last.content ∧ call.events = last.events ∧ call.phase = last.phase := by
      rw [List.getLast?_eq_getElem?]
      cases hcall : h.sends[h.sends.length - 1]? with
      | none =>
          rw [hcall] at hlast
          cases hlast
      | some call =>
          rw [hcall] at hlast
          split at hlast <;> cases hlast <;> exact ⟨call, rfl, rfl, rfl, rfl, rfl⟩
    obtain ⟨call, hcall, hchat, hcontent, hevents, hphase⟩ := hlatest
    obtain ⟨hpending, hown⟩ := hown call hcall (hphase.trans hstreaming)
    rw [hchat, hcontent, hevents] at hpending
    refine ⟨hpending, ?_⟩
    rw [List.length_modify]
    exact hown

/-- **One step** that keeps clear of later calls. -/
lemma latestOwns_step {action : HookAction} (hown : LatestOwns h) (hclear : KeepsClear h action)
    (hstep : hookStep h action = some h') : LatestOwns h' := by
  cases action with
  | Send chatId content =>
      change (if h.isBusy then none else some (h.startSend chatId content)) = some h' at hstep
      split at hstep
      · cases hstep
      · cases hstep
        intro last hlast _
        rw [ChatStreamHook.startSend, List.getLast?_concat] at hlast
        cases hlast
        exact ⟨rfl, by simp [ChatStreamHook.startSend]⟩
  | Event i event =>
      obtain ⟨call, hcall, hphase, rfl⟩ := ChatStreamHook.callStep_eq_some hstep
      exact latestOwns_onEvent hown hcall hphase hclear
  | End i error =>
      obtain ⟨call, hcall, -, rfl⟩ := ChatStreamHook.callStep_eq_some hstep
      exact latestOwns_onEnd hown hcall hclear
  | Refetched i =>
      obtain ⟨call, hcall, -, rfl⟩ := ChatStreamHook.callStep_eq_some hstep
      exact latestOwns_onRefetched hown hcall hclear
  | Cancel =>
      cases hstep
      exact latestOwns_cancel hown

/-- A step of an earlier call that keeps clear leaves the pending state as it is. -/
lemma pending_eq_of_keepsClear {action : HookAction} {i : ℕ} (hsend : action.send? = some i)
    (hearlier : h.IsEarlier i) (hclear : KeepsClear h action)
    (hstep : hookStep h action = some h') : h'.pending = h.pending := by
  cases action with
  | Send chatId content => cases hsend
  | Cancel => cases hsend
  | Event i event =>
      cases hsend
      obtain ⟨call, -, -, rfl⟩ := ChatStreamHook.callStep_eq_some hstep
      show h.pending.map _ = h.pending
      rw [hclear hearlier]
      rfl
  | End i error =>
      cases hsend
      obtain ⟨call, hcall, -, rfl⟩ := ChatStreamHook.callStep_eq_some hstep
      obtain ⟨-, hfailed⟩ := hclear hearlier
      show h.failed call error = h.pending
      simp only [ChatStreamHook.failed]
      split
      · rfl
      · split
        · rfl
        · rename_i haborted
          rw [hfailed call hcall (by simpa using haborted) (by simp)]
          rfl
  | Refetched i =>
      cases hsend
      obtain ⟨call, -, -, rfl⟩ := ChatStreamHook.callStep_eq_some hstep
      show h.pending.filter _ = h.pending
      cases hpending : h.pending with
      | none => rfl
      | some p => rw [Option.filter_some, if_pos (decide_eq_true (hclear hearlier p hpending))]

end Steps

/-! ## Every run

One step, and the induction over a run. -/

/-- No step of an earlier call changes the pending state, from `h` on. -/
def EarlierHarmless (h : ChatStreamHook) : List HookAction → Prop
  | [] => True
  | action :: actions => ∀ h', hookStep h action = some h' →
      (∀ i, action.send? = some i → h.IsEarlier i → h'.pending = h.pending)
        ∧ EarlierHarmless h' actions

lemma run_latestOwns {h h' : ChatStreamHook} {actions : List HookAction} (hown : LatestOwns h)
    (hclear : AllKeepClear h actions) (hrun : runHook h actions = some h') : LatestOwns h' := by
  induction actions generalizing h with
  | nil =>
      cases hrun
      exact hown
  | cons action actions ih =>
      obtain ⟨h₁, hstep, hrest⟩ := Option.bind_eq_some_iff.mp hrun
      exact ih (latestOwns_step hown hclear.1 hstep) (hclear.2 h₁ hstep) hrest

lemma run_earlierHarmless {h : ChatStreamHook} {actions : List HookAction}
    (hclear : AllKeepClear h actions) : EarlierHarmless h actions := by
  induction actions generalizing h with
  | nil => trivial
  | cons action actions ih =>
      exact fun h' hstep => ⟨fun i hsend hearlier =>
        pending_eq_of_keepsClear hsend hearlier hclear.1 hstep, ih (hclear.2 h' hstep)⟩

/-- **The latest send.**  In a run whose steps keep clear of later calls, no step of an earlier call
changes the pending state, and in the state reached the latest call has its own state and `cancel`
aborts it.  Any number of sends may be under way. -/
theorem latest_send_intact (actions : List HookAction) (h : ChatStreamHook)
    (hrun : runHook .initial actions = some h) (hclear : AllKeepClear .initial actions) :
    EarlierHarmless .initial actions ∧ LatestIntact h :=
  ⟨run_earlierHarmless hclear,
    (run_latestOwns (by rintro call ⟨⟩) hclear hrun).intact⟩

/-- One send, begun and answered in part. -/
def openSend : List HookAction :=
  [.Send 1 (js "a"), .Event 0 (.StreamStarted 1 2 3 "m"), .Event 0 (.MessageDelta 3 (js "b"))]

/-- The hook in the middle of `openSend`'s reply. -/
theorem latest_send_intact_open :
    ∃ h, runHook .initial openSend = some h
      ∧ EarlierHarmless .initial openSend ∧ LatestIntact h := by
  refine ⟨_, rfl, latest_send_intact openSend _ rfl ⟨trivial, ?_⟩⟩
  rintro h₁ ⟨⟩
  refine ⟨fun hearlier => absurd hearlier (by decide), ?_⟩
  rintro h₂ ⟨⟩
  refine ⟨fun hearlier => absurd hearlier (by decide), ?_⟩
  rintro h₃ ⟨⟩
  trivial

/-! ## A send that starts too early

The user sends a second message between the last event of the first and its refetch. -/

/-- The first reply, as `message.completed` carries it. -/
def completedReply : ChatMessage where
  id := 3
  role := "assistant"
  status := "completed"
  content := js "Hi"
  model := some "m"
  tokenCount := some 1
  tokenCountSource := "ollama_reported"
  promptTokens := some 5
  completionTokens := some 1
  totalTokens := some 6
  finishReason := some "stop"
  createdAt := 1
  updatedAt := 2

/-- The first reply is completed and a second send starts; then the first request ends and its
refetch returns. -/
def overlappingSends : List HookAction :=
  [.Send 1 (js "a"), .Event 0 (.StreamStarted 1 2 3 "m"), .Event 0 (.MessageDelta 3 (js "Hi")),
    .Event 0 (.MessageCompleted completedReply), .Send 1 (js "b"), .End 0 none, .Refetched 0]

/-- **Cleared.**  The second send still streams, but its pending state is gone and `cancel` finds
no controller. -/
theorem latest_send_cleared :
    ∃ h, runHook .initial overlappingSends = some h
      ∧ ¬ EarlierHarmless .initial overlappingSends ∧ ¬ LatestIntact h := by
  refine ⟨_, rfl, fun hharmless => ?_, fun hintact => ?_⟩
  · have hkept := ((((((hharmless _ rfl).2 _ rfl).2 _ rfl).2 _ rfl).2 _ rfl).2 _ rfl).2 _ rfl
    have hpending := hkept.1 0 rfl (by decide)
    cases hpending
  · have hpending := (hintact _ rfl rfl).1
    cases hpending

end RagStack
