import RagStack.Admin.ChatSummaryService
import RagStack.Core.Runs

/-!
# What a refresh is seen to do

The events of each call, in every state the system reaches.

What a refresh must do and must not do is mostly a matter of order.  It calls the model only after
it has found something pending, it stores a row only if no chunk has failed, and it releases the
lock once, after everything else and before it settles.  These are properties of the list of its
events.  They hold whatever the other calls do, because they only depend on the answers which the
call has received, so the invariant is one for a single call: for each of its `await`s, what its
events are by then.

The invariant is proved along the code.  Each piece between two `await`s appends its events and
leads to a phase, and for each of them it is checked that the events fit the phase.  The `try` block
is treated by itself, and then the call around it, with the lock and the `finally`.

That the row is the one which was stored last is a fact about the whole system, as other calls store
rows too.  For this all that a step can do to the chat is collected in one lemma.  It is used again
by the files that follow the texts of the rows.

* `SummaryMoves` — all that a step can do.
* `Orderly` — the events of a call before its `finally`: no model call after an empty backlog, no
  upsert after a chunk that failed.
* `RefreshPhase.Traced` — the invariant: what the events of a call are where the call is.
* `summaryStep_traced` — every step keeps it, and the row is the one that was stored last.
-/

namespace RagStack

/-! ## Steps

`SummaryMoves` is the inversion of a step, so that no later proof unfolds it. -/

section Moves

variable {settings : ContextSettings} {chatId : String} {lockTtlMs : ℤ}

/-- A read answers what the chat holds now. -/
def RefreshAnswer.Sees (chat : Option ChatRecord) : RefreshAnswer → Prop
  | Summary summary => summary.map (·.toAdminChatSummary) = chat.bind (·.summary)
  | Messages messages => messages = chat.elim [] (·.messages.rows)
  | _ => True

/-- What an operation does to the chat, and which event tells of it. -/
inductive Performed : Option ChatRecord → RefreshPhase → RefreshAnswer → Option ChatRecord →
    List RefreshEvent → Prop
  | read {chat : Option ChatRecord} {phase : RefreshPhase} {answer : RefreshAnswer}
      (hsees : answer.Sees chat) : Performed chat phase answer chat []
  | upsert {chat : ChatRecord} {lock : TokenLock} {model : Model} {lastEntry : ChatHistoryEntry}
      {content : JsString} {tokenCount : ℤ} {now : Timestamp} {answer : RefreshAnswer}
      (hsees : answer.Sees (some chat)) :
      Performed (some chat) (.Trying lock (.Upserting model lastEntry content tokenCount)) answer
        (some { chat with summary := some (summaryRow model lastEntry content tokenCount now) })
        [.Stored (summaryRow model lastEntry content tokenCount now)]

/-- What a step does to the system. -/
inductive SummaryMoves (settings : ContextSettings) : SummarySystem → SummarySystem → Prop
  | called (s : SummarySystem) : SummaryMoves settings s { s with calls := s.calls ++ [.Checking] }
  /-- An operation is executed, and its call goes on to the next `await`. -/
  | resumed {s : SummarySystem} {i : ℕ} {phase next : RefreshPhase} {answer : RefreshAnswer}
      {chat : Option ChatRecord} {store : LeaseStore String String}
      {performed resumed : List RefreshEvent} (hcall : s.calls[i]? = some phase)
      (hperformed : Performed s.chat phase answer chat performed)
      (hresumed : refreshStep settings phase answer = some (next, resumed)) :
      SummaryMoves settings s
        ⟨chat, store, s.heartbeats, s.calls.set i next,
          s.events ++ (performed ++ resumed).map (i, ·)⟩
  /-- The lock runs out or is extended. -/
  | leased (s : SummarySystem) (store : LeaseStore String String) (heartbeats : List TokenLock) :
      SummaryMoves settings s { s with store, heartbeats }
  | grown {s : SummarySystem} {chat : ChatRecord} {messages : ChatMessages}
      (hchat : s.chat = some chat)
      (hgrown : turnEntries chat.messages.rows <+: turnEntries messages.rows) :
      SummaryMoves settings s { s with chat := some { chat with messages } }
  | deleted (s : SummarySystem) : SummaryMoves settings s { s with chat := none }

variable {s s' : SummarySystem}

/-- A call that goes on after an operation. -/
lemma SummaryMoves.ofResume {i : ℕ} {phase : RefreshPhase} {answer : RefreshAnswer}
    {chat : Option ChatRecord} {store : LeaseStore String String} {performed : List RefreshEvent}
    (hcall : s.calls[i]? = some phase) (hperformed : Performed s.chat phase answer chat performed)
    (hresume : SummarySystem.resume settings
      ⟨chat, store, s.heartbeats, s.calls, s.events ++ performed.map (i, ·)⟩ i phase answer
        = some s') :
    SummaryMoves settings s s' := by
  simp only [SummarySystem.resume] at hresume
  obtain ⟨⟨next, resumed⟩, hstep, rfl⟩ := Option.map_eq_some_iff.mp hresume
  have hmove : SummaryMoves settings s ⟨chat, store, s.heartbeats, s.calls.set i next,
      s.events ++ (performed ++ resumed).map (i, ·)⟩ := .resumed hcall hperformed hstep
  rwa [List.map_append, ← List.append_assoc] at hmove

lemma Performed.sees {chat chat' : Option ChatRecord} {phase : RefreshPhase}
    {answer : RefreshAnswer} {performed : List RefreshEvent}
    (h : Performed chat phase answer chat' performed) : answer.Sees chat := by
  cases h with
  | read hsees => exact hsees
  | upsert hsees => exact hsees

/-- The answer to an operation may be lost. -/
lemma Performed.orLost {chat chat' : Option ChatRecord} {phase : RefreshPhase}
    {answer : RefreshAnswer} {performed : List RefreshEvent}
    (h : Performed chat phase answer chat' performed) (lost : Option JsError) :
    Performed chat phase (lost.elim answer .Error) chat' performed := by
  cases lost with
  | none => exact h
  | some error =>
      cases h with
      | read hsees => exact .read trivial
      | upsert hsees => exact .upsert trivial

/-- **What an awaited operation does.** -/
lemma perform_spec {i : ℕ} {phase : RefreshPhase} {operation : RefreshOperation}
    {answer : RefreshAnswer}
    (hperform : perform chatId lockTtlMs s i phase operation = some (answer, s')) :
    ∃ chat store performed,
      s' = ⟨chat, store, s.heartbeats, s.calls, s.events ++ performed.map (i, ·)⟩
        ∧ Performed s.chat phase answer chat performed := by
  have hread : ∀ store, answer.Sees s.chat → ∃ chat store' performed,
      { s with store }
          = (⟨chat, store', s.heartbeats, s.calls, s.events ++ performed.map (i, ·)⟩ :
            SummarySystem)
        ∧ Performed s.chat phase answer chat performed := by
    intro store hsees
    exact ⟨s.chat, store, [], by rw [List.map_nil, List.append_nil], .read hsees⟩
  cases operation with
  | Acquire token =>
      unfold perform at hperform
      dsimp only at hperform
      split at hperform
      · obtain ⟨⟨acquired, store⟩, -, heq⟩ := Option.map_eq_some_iff.mp hperform
        cases heq
        exact hread store trivial
      · cases hperform
  | Upsert now modelName =>
      unfold perform at hperform
      dsimp only at hperform
      split at hperform
      · rename_i lock model lastEntry content tokenCount chat hchat
        cases hperform
        rw [hchat]
        exact ⟨_, s.store, [.Stored (summaryRow model lastEntry content tokenCount now)], rfl,
          .upsert trivial⟩
      · cases hperform
  | Release =>
      unfold perform at hperform
      dsimp only at hperform
      split at hperform
      · cases hperform
        exact hread _ trivial
      · cases hperform
  | FindSummary modelName =>
      cases hperform
      refine hread s.store ?_
      show (Option.map _ _).map _ = _
      rw [Option.map_map]
      exact Option.map_id'
  | FindMessages =>
      cases hperform
      exact hread s.store rfl
  | ChatExists | GetDefault model | Complete result | Record =>
      cases hperform
      exact hread s.store trivial

/-- **Every step** does one of these things. -/
lemma summaryStep_moves {action : SummaryAction}
    (hstep : summaryStep settings chatId lockTtlMs s action = some s') :
    SummaryMoves settings s s' := by
  cases action with
  | Call =>
      cases hstep
      exact .called s
  | Await i operation lost =>
      obtain ⟨phase, hcall, hstep⟩ := Option.bind_eq_some_iff.mp hstep
      obtain ⟨⟨answer, performed⟩, hperform, hresume⟩ := Option.bind_eq_some_iff.mp hstep
      obtain ⟨chat, store, performed, rfl, hperformed⟩ := perform_spec hperform
      exact .ofResume hcall (hperformed.orLost lost) hresume
  | Reject i error =>
      obtain ⟨phase, hcall, hresume⟩ := Option.bind_eq_some_iff.mp hstep
      have hrejected : Performed s.chat phase (.Error error) s.chat [] := .read trivial
      have hsame : s = ⟨s.chat, s.store, s.heartbeats, s.calls, s.events ++ [].map (i, ·)⟩ := by
        rw [List.map_nil, List.append_nil]
      rw [hsame] at hresume
      exact .ofResume hcall hrejected hresume
  | Heartbeat i =>
      unfold summaryStep at hstep
      dsimp only at hstep
      split at hstep
      · cases hstep
        exact .leased s s.store _
      · cases hstep
  | Extend k =>
      obtain ⟨lock, -, rfl⟩ := Option.map_eq_some_iff.mp hstep
      exact .leased s _ _
  | Expire key =>
      cases hstep
      exact .leased s _ s.heartbeats
  | Grow messages =>
      obtain ⟨chat, hchat, hstep⟩ := Option.bind_eq_some_iff.mp hstep
      split at hstep
      · rename_i hgrown
        cases hstep
        exact .grown hchat hgrown
      · cases hstep
  | Delete =>
      obtain ⟨chat, -, rfl⟩ := Option.map_eq_some_iff.mp hstep
      exact .deleted s

end Moves

/-! ## The events of a call

What is asked of them before the `finally` and behind it. -/

/-- The events of call `i`, in their order.  Those of other calls that came in between are left out.
-/
def eventsOf (i : ℕ) (events : List (ℕ × RefreshEvent)) : List RefreshEvent :=
  events.filterMap fun event => if event.1 = i then some event.2 else none

@[simp] lemma eventsOf_append (i : ℕ) (events events' : List (ℕ × RefreshEvent)) :
    eventsOf i (events ++ events') = eventsOf i events ++ eventsOf i events' :=
  List.filterMap_append

/-- A step adds events to those of its own call, and to no others. -/
lemma eventsOf_map (i j : ℕ) (events : List RefreshEvent) :
    eventsOf i (events.map (j, ·)) = if j = i then events else [] := by
  simp only [eventsOf]
  rw [List.filterMap_map]
  split
  · rename_i h
    simp [h]
  · rename_i h
    simp [h]

/-- The events of a call whose `finally` has not begun. -/
structure Orderly (events : List RefreshEvent) : Prop where
  taken : .LockTaken ∈ events
  unreleased : .Released ∉ events
  unsettled : ∀ outcome, .Settled outcome ∉ events
  idle : .Found [] ∈ events → ∀ request, .Invoked request ∉ events
  failed : ∀ error, .ChunkFailed error ∈ events → ∀ summary, .Stored summary ∉ events

/-- The events of a call that has pending entries and has neither failed nor stored anything. -/
structure Working (events : List RefreshEvent) : Prop where
  pending : .Found [] ∉ events
  sound : ∀ error, .ChunkFailed error ∉ events
  unstored : ∀ summary, .Stored summary ∉ events

/-- What the events of a call do not hold yet, at an `await` of the `try` block. -/
def BodyPhase.Quiet (events : List RefreshEvent) : BodyPhase → Prop
  | Loading _ _ =>
      Working events ∧ ∀ request, .Invoked request ∉ events
  | Choosing _ _ | Completing _ _ _ _ _ | Recording _ _ _ _ _ | Upserting _ _ _ _ => Working events
  | Rechecking _ | Reloading _ => True

/-- The `try` block has got here with these events. -/
structure BodyNext.Traced (next : BodyNext) (events : List RefreshEvent) : Prop where
  orderly : Orderly events
  quiet : ∀ phase, next = .Await phase → phase.Quiet events

section Body

variable {settings : ContextSettings} {events : List RefreshEvent}

lemma Orderly.finish (h : Orderly events) (outcome : RefreshOutcome) :
    (BodyNext.Finish outcome).Traced events := by
  refine ⟨h, ?_⟩
  rintro phase ⟨⟩

lemma Orderly.await {phase : BodyPhase} (h : Orderly events) (hquiet : phase.Quiet events) :
    (BodyNext.Await phase).Traced events := by
  refine ⟨h, ?_⟩
  rintro phase ⟨⟩
  exact hquiet

lemma Orderly.chunkFailed (h : Orderly events) (hstored : ∀ summary, .Stored summary ∉ events)
    (error : JsError) : Orderly (events ++ [.ChunkFailed error]) where
  taken := List.mem_append_left _ h.taken
  unreleased := by simp [h.unreleased]
  unsettled := by simp [h.unsettled]
  idle := by simpa using h.idle
  failed := by simp [hstored]

lemma Orderly.invoked (h : Orderly events) (hpending : .Found [] ∉ events)
    (request : CompletionRequest) : Orderly (events ++ [.Invoked request]) where
  taken := List.mem_append_left _ h.taken
  unreleased := by simp [h.unreleased]
  unsettled := by simp [h.unsettled]
  idle := by simp [hpending]
  failed := by simpa using h.failed

lemma Orderly.answered (h : Orderly events) (request : CompletionRequest)
    (result : OllamaCompletion) : Orderly (events ++ [.Answered request result]) where
  taken := List.mem_append_left _ h.taken
  unreleased := by simp [h.unreleased]
  unsettled := by simp [h.unsettled]
  idle := by simpa using h.idle
  failed := by simpa using h.failed

lemma Orderly.found (h : Orderly events) (hinvoked : ∀ request, .Invoked request ∉ events)
    (pending : List ChatHistoryEntry) : Orderly (events ++ [.Found pending]) where
  taken := List.mem_append_left _ h.taken
  unreleased := by simp [h.unreleased]
  unsettled := by simp [h.unsettled]
  idle := by simp [hinvoked]
  failed := by simpa using h.failed

lemma Orderly.stored (h : Orderly events) (hsound : ∀ error, .ChunkFailed error ∉ events)
    (summary : AdminChatSummary) : Orderly (events ++ [.Stored summary]) where
  taken := List.mem_append_left _ h.taken
  unreleased := by simp [h.unreleased]
  unsettled := by simp [h.unsettled]
  idle := by simpa using h.idle
  failed := by simp [hsound]

lemma Working.invoked (h : Working events) (request : CompletionRequest) :
    Working (events ++ [.Invoked request]) where
  pending := by simp [h.pending]
  sound := by simp [h.sound]
  unstored := by simp [h.unstored]

lemma Working.answered (h : Working events) (request : CompletionRequest)
    (result : OllamaCompletion) : Working (events ++ [.Answered request result]) where
  pending := by simp [h.pending]
  sound := by simp [h.sound]
  unstored := by simp [h.unstored]

lemma Working.found (h : Working events) {pending : List ChatHistoryEntry} (hne : pending ≠ []) :
    Working (events ++ [.Found pending]) where
  pending := by simp [h.pending, hne.symm]
  sound := by simp [h.sound]
  unstored := by simp [h.unstored]

/-! ### The `try` block -/

lemma nextChunk_traced (horderly : Orderly events) (hworking : Working events) (model : Model)
    (lastEntry : ChatHistoryEntry) (content : Option JsString) (tokenCount : ℤ)
    (chunks : List (List ChatHistoryEntry)) :
    (nextChunk settings model lastEntry content tokenCount chunks).1.Traced
      (events ++ (nextChunk settings model lastEntry content tokenCount chunks).2) := by
  cases chunks with
  | cons chunk chunks =>
      refine (horderly.invoked hworking.pending _).await ?_
      exact hworking.invoked _
  | nil =>
      cases content with
      | none => simpa [nextChunk] using horderly.finish _
      | some content =>
          have hquiet :
              (BodyPhase.Upserting model lastEntry content tokenCount).Quiet events := hworking
          simpa [nextChunk] using horderly.await hquiet

lemma afterDefault_traced (horderly : Orderly events) (hworking : Working events)
    (previous : Option AdminChatSummaryWithModel) (pending : List ChatHistoryEntry)
    (model : Model) :
    (afterDefault settings previous pending model).1.Traced
      (events ++ (afterDefault settings previous pending model).2) := by
  simp only [afterDefault]
  split
  · simpa using horderly.finish _
  · exact nextChunk_traced horderly hworking ..

lemma afterRecord_traced (horderly : Orderly events) (hworking : Working events) (model : Model)
    (lastEntry : ChatHistoryEntry) (result : OllamaCompletion) (chunk : List ChatHistoryEntry)
    (chunks : List (List ChatHistoryEntry)) :
    (afterRecord settings model lastEntry result chunk chunks).1.Traced
      (events ++ (afterRecord settings model lastEntry result chunk chunks).2) := by
  unfold afterRecord
  dsimp only
  split
  · exact (horderly.chunkFailed hworking.unstored _).finish _
  · exact nextChunk_traced horderly hworking ..

/-- Entries that are found decide whether there will be a model call. -/
lemma afterLoad_traced (horderly : Orderly events) (hworking : Working events)
    (hinvoked : ∀ request, .Invoked request ∉ events) (summary : Option AdminChatSummaryWithModel)
    (messages : List Message) :
    (afterLoad summary messages).1.Traced (events ++ (afterLoad summary messages).2) := by
  simp only [afterLoad]
  split
  · simpa using horderly.finish _
  · rename_i entries hentries
    dsimp only
    have hfound := horderly.found hinvoked (toSummaryState summary entries false).1
    split
    · rename_i hstale
      refine hfound.await (hworking.found ?_)
      exact List.ne_nil_of_length_pos (of_decide_eq_true hstale)
    · exact hfound.finish _

lemma loaded_traced (horderly : Orderly events) (hworking : Working events)
    (hinvoked : ∀ request, .Invoked request ∉ events)
    (summary : Option (Option AdminChatSummaryWithModel)) (messages : Option (List Message)) :
    (loaded summary messages).1.Traced (events ++ (loaded summary messages).2) := by
  simp only [loaded]
  split
  · exact afterLoad_traced horderly hworking hinvoked _ _
  · have hquiet : (BodyPhase.Loading summary messages).Quiet events := ⟨hworking, hinvoked⟩
    simpa using horderly.await hquiet

/-- The second `loadState` is the last thing the block does. -/
lemma afterReload_finish (saved : AdminChatSummaryWithModel) (messages : List Message) :
    ∃ outcome, afterReload saved messages = .Finish outcome := by
  simp only [afterReload]
  split
  · exact ⟨_, rfl⟩
  · exact ⟨_, rfl⟩

/-- **The `try` block** keeps its events in order. -/
lemma bodyStep_traced {phase : BodyPhase} {answer : RefreshAnswer}
    {resumed : BodyNext × List RefreshEvent} (horderly : Orderly events)
    (hquiet : phase.Quiet events) (hstep : bodyStep settings phase answer = some resumed) :
    resumed.1.Traced (events ++ resumed.2) := by
  have hfinish : ∀ outcome, (BodyNext.Finish outcome).Traced (events ++ []) := by
    intro outcome
    rw [List.append_nil]
    exact horderly.finish outcome
  have hawait : ∀ phase : BodyPhase, phase.Quiet events →
      (BodyNext.Await phase).Traced (events ++ []) := by
    intro phase hquiet
    rw [List.append_nil]
    exact horderly.await hquiet
  simp only [bodyStep] at hstep
  split at hstep <;> cases hstep
  case h_1 => exact loaded_traced horderly hquiet.1 hquiet.2 _ _
  case h_2 => exact loaded_traced horderly hquiet.1 hquiet.2 _ _
  case h_3 => exact afterDefault_traced horderly hquiet _ _ _
  case h_4 => exact (horderly.answered _ _).await (Working.answered hquiet _ _)
  case h_5 => exact afterRecord_traced horderly hquiet _ _ _ _ _
  case h_6 => exact hawait _ trivial
  case h_7 => exact hfinish _
  case h_8 saved messages =>
    obtain ⟨outcome, houtcome⟩ := afterReload_finish saved messages
    rw [houtcome]
    exact hfinish outcome
  case h_9 => exact (horderly.chunkFailed hquiet.unstored _).finish _
  case h_10 => exact (horderly.chunkFailed hquiet.unstored _).finish _
  case h_11 => exact hawait _ trivial
  all_goals exact hfinish _

/-- After the upsert no chunk can fail any more. -/
lemma bodyStep_stored {model : Model} {lastEntry : ChatHistoryEntry} {content : JsString}
    {tokenCount : ℤ} {answer : RefreshAnswer} {resumed : BodyNext × List RefreshEvent}
    (hstep : bodyStep settings (.Upserting model lastEntry content tokenCount) answer
      = some resumed) :
    ∃ phase : BodyPhase, (∀ events, phase.Quiet events) ∧ resumed = (.Await phase, []) := by
  cases answer with
  | Saved saved =>
      cases hstep
      exact ⟨.Reloading saved, fun _ => trivial, rfl⟩
  | Error error =>
      cases hstep
      exact ⟨.Rechecking error, fun _ => trivial, rfl⟩
  | _ => cases hstep

end Body

/-! ### The whole call -/

/-- **The invariant**: the events of a call, by where it is. -/
def RefreshPhase.Traced (events : List RefreshEvent) : RefreshPhase → Prop
  | Checking | Acquiring => events = []
  | Trying _ phase => Orderly events ∧ phase.Quiet events
  | Releasing _ _ => ∃ body, Orderly body ∧ events = body ++ [.Released]
  | Settled outcome =>
      events = [.Settled outcome]
        ∨ ∃ body, Orderly body ∧ events = body ++ [.Released, .Settled outcome]

section Call

variable {settings : ContextSettings} {events : List RefreshEvent}

lemma enterFinally_traced {resumed : BodyNext × List RefreshEvent} (lock : TokenLock)
    (h : resumed.1.Traced (events ++ resumed.2)) :
    (enterFinally lock resumed).1.Traced (events ++ (enterFinally lock resumed).2) := by
  obtain ⟨next, resumed⟩ := resumed
  cases next with
  | Await phase => exact ⟨h.orderly, h.quiet phase rfl⟩
  | Finish outcome => exact ⟨events ++ resumed, h.orderly, (List.append_assoc ..).symm⟩

/-- A call that never had a lock ends. -/
lemma settledWith_traced (outcome : RefreshOutcome) :
    (settledWith outcome).1.Traced ([] ++ (settledWith outcome).2) := .inl rfl

/-- A call that has released its lock ends. -/
lemma settledWith_traced_of_released {body : List RefreshEvent} (hbody : Orderly body)
    (outcome : RefreshOutcome) :
    (settledWith outcome).1.Traced (body ++ [.Released] ++ (settledWith outcome).2) :=
  .inr ⟨body, hbody, List.append_assoc ..⟩

lemma orderly_lockTaken : Orderly [.LockTaken] where
  taken := by simp
  unreleased := by simp
  unsettled := by simp
  idle := by simp
  failed := by simp

lemma working_lockTaken : Working [.LockTaken] where
  pending := by simp
  sound := by simp
  unstored := by simp

/-- **A call** goes on with events that fit. -/
lemma refreshStep_traced {phase : RefreshPhase} {answer : RefreshAnswer}
    {resumed : RefreshPhase × List RefreshEvent} (htraced : phase.Traced events)
    (hstep : refreshStep settings phase answer = some resumed) :
    resumed.1.Traced (events ++ resumed.2) := by
  cases phase with
  | Checking =>
      obtain rfl : events = [] := htraced
      cases answer with
      | Present present =>
          cases hstep
          cases present with
          | false => exact settledWith_traced _
          | true => exact rfl
      | Error error =>
          cases hstep
          exact settledWith_traced _
      | _ => cases hstep
  | Acquiring =>
      obtain rfl : events = [] := htraced
      cases answer with
      | Lock lock =>
          cases lock with
          | none =>
              cases hstep
              exact settledWith_traced _
          | some lock =>
              cases hstep
              exact ⟨orderly_lockTaken, working_lockTaken, by simp⟩
      | Error error =>
          cases hstep
          exact settledWith_traced _
      | _ => cases hstep
  | Trying lock phase =>
      obtain ⟨resumed, hbody, rfl⟩ := Option.map_eq_some_iff.mp hstep
      exact enterFinally_traced lock (bodyStep_traced htraced.1 htraced.2 hbody)
  | Releasing lock outcome =>
      obtain ⟨body, horderly, rfl⟩ := htraced
      cases answer with
      | Unlocked =>
          cases hstep
          exact settledWith_traced_of_released horderly _
      | Error error =>
          cases hstep
          exact settledWith_traced_of_released horderly _
      | _ => cases hstep
  | Settled outcome => cases answer <;> cases hstep

/-- A call is in its `try` block because it has just got the lock, or has been there before. -/
lemma refreshStep_eq_trying {phase : RefreshPhase} {answer : RefreshAnswer}
    {resumed : RefreshPhase × List RefreshEvent}
    (hstep : refreshStep settings phase answer = some resumed) {lock : TokenLock}
    {next : BodyPhase} (hnext : resumed.1 = .Trying lock next) :
    phase = .Acquiring ∧ next = .Loading none none ∧ resumed.2 = [.LockTaken]
      ∨ ∃ body, phase = .Trying lock body
        ∧ bodyStep settings body answer = some (.Await next, resumed.2) := by
  simp only [refreshStep] at hstep
  split at hstep
  case h_1 present =>
    cases hstep
    cases present <;> cases hnext
  case h_2 =>
    cases hstep
    cases hnext
    exact .inl ⟨rfl, rfl, rfl⟩
  case h_4 =>
    obtain ⟨⟨bodyNext, events⟩, hbody, rfl⟩ := Option.map_eq_some_iff.mp hstep
    cases bodyNext with
    | Await phase =>
        cases hnext
        exact .inr ⟨_, rfl, hbody⟩
    | Finish outcome => cases hnext
  all_goals cases hstep
  all_goals cases hnext

/-- The same with the operation before it: only an upsert is an event. -/
lemma performed_traced {chat chat' : Option ChatRecord} {phase : RefreshPhase}
    {answer : RefreshAnswer} {performed : List RefreshEvent}
    {resumed : RefreshPhase × List RefreshEvent} (htraced : phase.Traced events)
    (hperformed : Performed chat phase answer chat' performed)
    (hstep : refreshStep settings phase answer = some resumed) :
    resumed.1.Traced (events ++ (performed ++ resumed.2)) := by
  cases hperformed with
  | read hsees => exact refreshStep_traced htraced hstep
  | upsert hsees =>
      obtain ⟨body, hbody, rfl⟩ := Option.map_eq_some_iff.mp hstep
      obtain ⟨phase, hquiet, rfl⟩ := bodyStep_stored hbody
      have hworking : Working events := htraced.2
      exact ⟨htraced.1.stored hworking.sound _, hquiet _⟩

lemma RefreshPhase.Traced.idle {phase : RefreshPhase} (h : phase.Traced events)
    (hfound : .Found [] ∈ events) (request : CompletionRequest) : .Invoked request ∉ events := by
  cases phase with
  | Checking | Acquiring =>
      rw [show events = [] from h]
      exact List.not_mem_nil
  | Trying lock phase => exact h.1.idle hfound request
  | Releasing lock outcome =>
      obtain ⟨body, horderly, rfl⟩ := h
      simpa using horderly.idle (by simpa using hfound) request
  | Settled outcome =>
      rcases h with rfl | ⟨body, horderly, rfl⟩
      · simp
      · simpa using horderly.idle (by simpa using hfound) request

lemma RefreshPhase.Traced.failed {phase : RefreshPhase} (h : phase.Traced events)
    {error : JsError} (hfailed : .ChunkFailed error ∈ events) (summary : AdminChatSummary) :
    .Stored summary ∉ events := by
  cases phase with
  | Checking | Acquiring =>
      rw [show events = [] from h]
      exact List.not_mem_nil
  | Trying lock phase => exact h.1.failed error hfailed summary
  | Releasing lock outcome =>
      obtain ⟨body, horderly, rfl⟩ := h
      simpa using horderly.failed error (by simpa using hfailed) summary
  | Settled outcome =>
      rcases h with rfl | ⟨body, horderly, rfl⟩
      · simp
      · simpa using horderly.failed error (by simpa using hfailed) summary

/-- A call that took the lock has released it once when it settles, and does nothing more. -/
lemma RefreshPhase.Traced.released {phase : RefreshPhase} (h : phase.Traced events)
    {before rest : List RefreshEvent} {outcome : RefreshOutcome}
    (hsettled : events = before ++ .Settled outcome :: rest) (htaken : .LockTaken ∈ events) :
    before.count .Released = 1 ∧ rest = [] := by
  have hmem : .Settled outcome ∈ events := by simp [hsettled]
  cases phase with
  | Checking | Acquiring =>
      rw [show events = [] from h] at hmem
      cases hmem
  | Trying lock phase => exact absurd hmem (h.1.unsettled outcome)
  | Releasing lock outcome' =>
      obtain ⟨body, horderly, rfl⟩ := h
      exact absurd (by simpa using hmem) (horderly.unsettled outcome)
  | Settled outcome' =>
      rcases h with rfl | ⟨body, horderly, rfl⟩
      · simp at htaken
      · have hnot : .Settled outcome ∉ body ++ [.Released] := by
          simp [horderly.unsettled]
        have hend : before ++ .Settled outcome :: rest
            = body ++ [.Released] ++ [.Settled outcome'] := by
          rw [← hsettled, List.append_assoc]
          rfl
        obtain ⟨rfl, hrest⟩ := append_cons_eq_concat hend hnot
        refine ⟨?_, hrest⟩
        rw [List.count_append, List.count_eq_zero.mpr horderly.unreleased]
        rfl

end Call

/-! ## The row

The rows that were stored, by all calls. -/

/-- The rows that were stored, the last one at the end. -/
def storedRows (events : List (ℕ × RefreshEvent)) : List AdminChatSummary :=
  events.filterMap fun event =>
    match event.2 with
    | .Stored summary => some summary
    | _ => none

@[simp] lemma storedRows_append (events events' : List (ℕ × RefreshEvent)) :
    storedRows (events ++ events') = storedRows events ++ storedRows events' :=
  List.filterMap_append

lemma storedRows_eq_nil {i : ℕ} {events : List RefreshEvent}
    (h : ∀ summary, .Stored summary ∉ events) : storedRows (events.map (i, ·)) = [] := by
  simp only [storedRows]
  rw [List.filterMap_eq_nil_iff]
  intro event hevent
  obtain ⟨event, hmem, rfl⟩ := List.mem_map.mp hevent
  split
  · rename_i summary heq
    obtain rfl : event = .Stored summary := heq
    exact absurd hmem (h summary)
  · rfl

section Row

variable {settings : ContextSettings}

lemma nextChunk_unstored (model : Model) (lastEntry : ChatHistoryEntry)
    (content : Option JsString) (tokenCount : ℤ) (chunks : List (List ChatHistoryEntry))
    (summary : AdminChatSummary) :
    .Stored summary ∉ (nextChunk settings model lastEntry content tokenCount chunks).2 := by
  cases chunks with
  | cons chunk chunks => simp [nextChunk]
  | nil => cases content <;> simp [nextChunk]

lemma loaded_unstored (found : Option (Option AdminChatSummaryWithModel))
    (messages : Option (List Message)) (summary : AdminChatSummary) :
    .Stored summary ∉ (loaded found messages).2 := by
  simp only [loaded]
  split
  · simp only [afterLoad]
    split <;> simp
  · simp

/-- The code between two `await`s stores nothing. -/
lemma bodyStep_unstored {phase : BodyPhase} {answer : RefreshAnswer}
    {resumed : BodyNext × List RefreshEvent}
    (hstep : bodyStep settings phase answer = some resumed) (summary : AdminChatSummary) :
    .Stored summary ∉ resumed.2 := by
  simp only [bodyStep] at hstep
  split at hstep <;> cases hstep
  case h_1 => exact loaded_unstored _ _ summary
  case h_2 => exact loaded_unstored _ _ summary
  case h_3 =>
    simp only [afterDefault]
    split
    · simp
    · exact nextChunk_unstored _ _ _ _ _ summary
  case h_5 =>
    unfold afterRecord
    dsimp only
    split
    · simp
    · exact nextChunk_unstored _ _ _ _ _ summary
  all_goals simp

lemma refreshStep_unstored {phase : RefreshPhase} {answer : RefreshAnswer}
    {resumed : RefreshPhase × List RefreshEvent}
    (hstep : refreshStep settings phase answer = some resumed) (summary : AdminChatSummary) :
    .Stored summary ∉ resumed.2 := by
  simp only [refreshStep] at hstep
  split at hstep
  case h_4 =>
    obtain ⟨⟨next, events⟩, hbody, rfl⟩ := Option.map_eq_some_iff.mp hstep
    have hevents := bodyStep_unstored hbody summary
    cases next <;> simpa [enterFinally] using hevents
  case h_1 present =>
    cases hstep
    cases present <;> simp [settledWith]
  all_goals cases hstep <;> simp [settledWith]

end Row

/-! ## The system

What holds for every call holds in every state, since a step adds events of one call only. -/

structure SummarySystem.Traced (s : SummarySystem) : Prop where
  call : ∀ i (phase : RefreshPhase), s.calls[i]? = some phase → phase.Traced (eventsOf i s.events)
  unbegun : ∀ i, s.calls.length ≤ i → eventsOf i s.events = []
  row : ∀ chat, s.chat = some chat → chat.summary = (storedRows s.events).getLast?

section System

variable {settings : ContextSettings} {chatId : String} {lockTtlMs : ℤ} {s s' : SummarySystem}

lemma SummarySystem.Traced.initial (messages : ChatMessages) (store : LeaseStore String String) :
    (SummarySystem.initial messages store).Traced where
  call i phase hcall := by cases hcall
  unbegun i hi := rfl
  row chat hchat := by
    cases hchat
    rfl

/-- What a call adds to the events, as seen by the calls. -/
lemma eventsOf_resumed {i j : ℕ} (events : List (ℕ × RefreshEvent)) (added : List RefreshEvent) :
    eventsOf j (events ++ added.map (i, ·))
      = if i = j then eventsOf j events ++ added else eventsOf j events := by
  rw [eventsOf_append, eventsOf_map]
  split
  · rfl
  · exact List.append_nil _

/-- An operation leaves the row as it is, or is the upsert that stores it. -/
lemma performed_row {chat chat' : Option ChatRecord} {phase : RefreshPhase}
    {answer : RefreshAnswer} {performed resumed : List RefreshEvent} {i : ℕ}
    {events : List (ℕ × RefreshEvent)} (hperformed : Performed chat phase answer chat' performed)
    (hresumed : ∀ summary, .Stored summary ∉ resumed)
    (hrow : ∀ record, chat = some record → record.summary = (storedRows events).getLast?) :
    ∀ record, chat' = some record →
      record.summary = (storedRows (events ++ (performed ++ resumed).map (i, ·))).getLast? := by
  rw [List.map_append, storedRows_append, storedRows_append, storedRows_eq_nil hresumed,
    List.append_nil]
  cases hperformed with
  | read hsees =>
      rw [List.map_nil, show storedRows [] = [] from rfl, List.append_nil]
      exact hrow
  | upsert hsees =>
      rintro record ⟨⟩
      exact (List.getLast?_concat ..).symm

/-- **What every call keeps**, with the events it has told: the step rule of the system. -/
lemma SummaryMoves.forall_calls {P : List RefreshEvent → RefreshPhase → Prop}
    (hmove : SummaryMoves settings s s')
    (h : ∀ i phase, s.calls[i]? = some phase → P (eventsOf i s.events) phase)
    (hunbegun : ∀ i, s.calls.length ≤ i → eventsOf i s.events = [])
    (hcalled : P [] .Checking)
    (hresumed : ∀ {events : List RefreshEvent} {chat chat' : Option ChatRecord}
      {phase next : RefreshPhase} {answer : RefreshAnswer} {performed resumed : List RefreshEvent},
      P events phase → Performed chat phase answer chat' performed →
      refreshStep settings phase answer = some (next, resumed) →
      P (events ++ (performed ++ resumed)) next) :
    ∀ i phase, s'.calls[i]? = some phase → P (eventsOf i s'.events) phase := by
  cases hmove with
  | called =>
      intro i phase hcall
      rw [List.getElem?_append] at hcall
      split at hcall
      · exact h i phase hcall
      · rename_i hi
        have hphase : phase = .Checking := List.mem_singleton.mp (List.mem_of_getElem? hcall)
        rw [hphase, hunbegun i (by omega)]
        exact hcalled
  | @resumed i phase next answer chat store performed resumed hcall hperformed hstep =>
      have hi : i < s.calls.length := (List.getElem?_eq_some_iff.mp hcall).1
      intro j phase' hcall'
      rw [eventsOf_resumed]
      rw [List.getElem?_set] at hcall'
      split
      · rename_i hij
        subst hij
        obtain rfl : next = phase' := by simpa [hi] using hcall'
        exact hresumed (h i phase hcall) hperformed hstep
      · rename_i hij
        rw [if_neg hij] at hcall'
        exact h j phase' hcall'
  | leased => exact h
  | grown => exact h
  | deleted => exact h

/-- **Every step** keeps the invariant. -/
lemma SummaryMoves.traced (hmove : SummaryMoves settings s s') (h : s.Traced) : s'.Traced := by
  have hcalls := hmove.forall_calls h.call h.unbegun rfl performed_traced
  cases hmove with
  | called =>
      refine ⟨hcalls, fun i hi => ?_, h.row⟩
      rw [List.length_append] at hi
      exact h.unbegun i (by omega)
  | @resumed i phase next answer chat store performed resumed hcall hperformed hresumed =>
      have hi : i < s.calls.length := (List.getElem?_eq_some_iff.mp hcall).1
      refine ⟨hcalls, fun j hj => ?_, performed_row hperformed (refreshStep_unstored hresumed) h.row⟩
      rw [List.length_set] at hj
      rw [eventsOf_resumed, if_neg (by omega)]
      exact h.unbegun j hj
  | leased => exact ⟨hcalls, h.unbegun, h.row⟩
  | @grown chat messages hchat hgrown =>
      refine ⟨hcalls, h.unbegun, ?_⟩
      rintro record ⟨⟩
      exact h.row chat hchat
  | deleted =>
      refine ⟨hcalls, h.unbegun, ?_⟩
      rintro chat ⟨⟩

/-- **Every run** keeps the invariant. -/
theorem summaryStep_traced {messages : ChatMessages} {store : LeaseStore String String}
    {actions : List SummaryAction}
    (hrun : runSteps (summaryStep settings chatId lockTtlMs)
      (SummarySystem.initial messages store) actions = some s) : s.Traced := by
  refine runSteps_invariant (fun s action s' h hstep => ?_) hrun (.initial messages store)
  exact (summaryStep_moves hstep).traced h

end System

end RagStack
