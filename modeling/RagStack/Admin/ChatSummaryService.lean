import RagStack.Admin.ChatSummaryHelpers
import RagStack.Chats.Helpers
import RagStack.Chats.LockService

/-!
# `admin-chat-summary.service.ts` under any interleaving

Any number of calls of `refreshSummary` for one chat.  A call is at one of its `await`s; in between,
other calls go on, the lock runs out, the chat grows or is deleted.

A refresh takes long.  It holds a lock in Redis so that there is one at a time, and renews it by a
heartbeat, but a lock can be lost, and then a second refresh runs beside the first.  Nothing in the
tables prevents this.  What must still be right is what is stored in the end, and for that one has
to look at all orders in which two calls can read and write.

So the model goes from one `await` to the next.  The code between two of them is a function from the
answer to the next `await`, in the words of the source, with the variables that are used later in
the phase.  What is awaited is executed in a step of its own on the tables and on Redis, so that
other calls can act before and after it.  An operation may be executed and its answer lost, or fail
without any effect, which are different things to the tables and the same to the caller.

The chat changes meanwhile: completed turns are added at the end, and whatever is not completed may
change in any way.  The answers of the language model are arbitrary texts.

Heartbeats are sent and executed by Redis some time later, so they may arrive after the lock was
released.

* `bodyStep` — what the `try` block does with an answer, up to its next `await` or its end.
* `refreshStep` — the whole call: the `try` block with what is before it and its `finally`.
* `perform` — the awaited operations: what they answer, and what they do to the tables and to Redis.
* `summaryStep` — one step of the system; a run is any interleaving of steps.
* `RefreshEvent` — what a call is seen to do.
-/

namespace RagStack

/-! ## The parts of a call

The `try` block of `refreshSummary` and what is around it are separate, so that what holds of the
block can be proved without the lock. -/

/-- `CompleteOllamaChatParams`, without the signal. -/
structure CompletionRequest where
  model : String
  messages : List OllamaHistoryMessage
  contextTokens : ℕ
  maxTokens : ℕ
  deriving Repr, DecidableEq

/-- What a call returns or throws. -/
abbrev RefreshOutcome : Type := Except JsError AdminChatSummaryState

/-- What a call is seen to do. -/
inductive RefreshEvent where
  /-- `acquire` has returned a lock. -/
  | LockTaken
  /-- The pending entries of `loadState`. -/
  | Found (pending : List ChatHistoryEntry)
  /-- `ollama.complete` is invoked. -/
  | Invoked (request : CompletionRequest)
  | Answered (request : CompletionRequest) (result : OllamaCompletion)
  /-- The loop over the chunks throws. -/
  | ChunkFailed (error : JsError)
  /-- The upsert is committed. -/
  | Stored (summary : AdminChatSummary)
  /-- `lock.release` is invoked. -/
  | Released
  | Settled (outcome : RefreshOutcome)
  deriving DecidableEq

/-- The `await`s of the `try` block, with the variables that are used after them. -/
inductive BodyPhase where
  /-- `Promise.all` in `loadState`: which of the two reads are back. -/
  | Loading (summary : Option (Option AdminChatSummaryWithModel)) (messages : Option (List Message))
  /-- `catalog.getDefault`. -/
  | Choosing (previous : Option AdminChatSummaryWithModel) (pending : List ChatHistoryEntry)
  /-- `ollama.complete`. -/
  | Completing (model : Model) (lastEntry : ChatHistoryEntry) (content : Option JsString)
      (chunk : List ChatHistoryEntry) (chunks : List (List ChatHistoryEntry))
  /-- `usage.record`. -/
  | Recording (model : Model) (lastEntry : ChatHistoryEntry) (result : OllamaCompletion)
      (chunk : List ChatHistoryEntry) (chunks : List (List ChatHistoryEntry))
  /-- `repository.upsertSummary`. -/
  | Upserting (model : Model) (lastEntry : ChatHistoryEntry) (content : JsString) (tokenCount : ℤ)
  /-- `repository.chatExists` after a failed upsert. -/
  | Rechecking (error : JsError)
  /-- `loadState` with the saved summary. -/
  | Reloading (saved : AdminChatSummaryWithModel)

/-- Where the `try` block gets. -/
inductive BodyNext where
  | Await (phase : BodyPhase)
  | Finish (outcome : RefreshOutcome)

/-- The `await`s of a call. -/
inductive RefreshPhase where
  /-- `repository.chatExists`. -/
  | Checking
  /-- `locks.acquire`. -/
  | Acquiring
  | Trying (lock : TokenLock) (phase : BodyPhase)
  /-- `lock.release`, in `finally`. -/
  | Releasing (lock : TokenLock) (outcome : RefreshOutcome)
  | Settled (outcome : RefreshOutcome)

inductive RefreshAnswer where
  | Present (present : Bool)
  | Lock (lock : Option TokenLock)
  | Summary (summary : Option AdminChatSummaryWithModel)
  | Messages (messages : List Message)
  | DefaultModel (model : Model)
  | Completion (result : OllamaCompletion)
  | Recorded
  | Saved (summary : AdminChatSummaryWithModel)
  | Unlocked
  | Error (error : JsError)

/-- `ADMIN_SUMMARY_MAX_TOKENS`. -/
def adminSummaryMaxTokens : ℕ := 400

/-- `new NotFoundException('Chat not found.')`. -/
def chatNotFound : JsError := .Http 404 "Chat not found."

section Code

variable (settings : ContextSettings)

/-- The arguments of `ollama.complete`. -/
def completionRequest (model : Model) (content : Option JsString) (chunk : List ChatHistoryEntry) :
    CompletionRequest :=
  let budget := getContextBudget model.maxContext settings
  { model := model.name
    messages :=
      buildAdminSummaryRequest content chunk (budget.chunkTokens * settings.charsPerToken)
    contextTokens := model.maxContext
    maxTokens := min budget.summaryMaxTokens adminSummaryMaxTokens }

/-- The head of the loop in `generate`, and what follows the loop. -/
def nextChunk (model : Model) (lastEntry : ChatHistoryEntry) (content : Option JsString)
    (tokenCount : ℤ) : List (List ChatHistoryEntry) → BodyNext × List RefreshEvent
  | chunk :: chunks =>
      (.Await (.Completing model lastEntry content chunk chunks),
        [.Invoked (completionRequest settings model content chunk)])
  | [] =>
      match content with
      | none => (.Finish (.error (.Other "No summary was produced.")), [])
      | some content => (.Await (.Upserting model lastEntry content tokenCount), [])

/-- What follows the first `loadState`. -/
def afterLoad (summary : Option AdminChatSummaryWithModel) (messages : List Message) :
    BodyNext × List RefreshEvent :=
  match toHistoryEntries messages with
  | .error error => (.Finish (.error error), [])
  | .ok entries =>
      let (pending, state) := toSummaryState summary entries false
      -- A summary whose anchor message vanished cannot be extended.
      let previous :=
        if entries.any fun entry => some entry.id = summary.map (·.summarizedThroughMessageId)
        then summary else none
      (if state.stale then .Await (.Choosing previous pending) else .Finish (.ok state),
        [.Found pending])

/-- `Promise.all`: the code goes on when both reads are back. -/
def loaded : Option (Option AdminChatSummaryWithModel) → Option (List Message) →
    BodyNext × List RefreshEvent
  | some summary, some messages => afterLoad summary messages
  | summary, messages => (.Await (.Loading summary messages), [])

/-- What follows `catalog.getDefault`. -/
def afterDefault (previous : Option AdminChatSummaryWithModel) (pending : List ChatHistoryEntry)
    (model : Model) : BodyNext × List RefreshEvent :=
  match pending.getLast? with
  | none => (.Finish (.error (.Other "No pending entries to summarize.")), [])
  | some lastEntry =>
      nextChunk settings model lastEntry (previous.map (·.content))
        ((previous.map (·.tokenCount)).getD 0)
        (chunkEntries pending (getContextBudget model.maxContext settings).chunkTokens
          settings.charsPerToken)

/-- What follows `usage.record`: the checks, then the next chunk. -/
def afterRecord (model : Model) (lastEntry : ChatHistoryEntry) (result : OllamaCompletion)
    (chunk : List ChatHistoryEntry) (chunks : List (List ChatHistoryEntry)) :
    BodyNext × List RefreshEvent :=
  let content := cleanAdminSummary result.content
  if isDegenerateSummary content || isEchoedSummary content chunk then
    (.Finish (.error AdminChatSummaryError.failed), [.ChunkFailed AdminChatSummaryError.failed])
  else
    nextChunk settings model lastEntry (some content)
      (result.completionTokens.getD (estimateMessageTokens content settings.charsPerToken)) chunks

/-- What follows the second `loadState`. -/
def afterReload (saved : AdminChatSummaryWithModel) (messages : List Message) : BodyNext :=
  match toHistoryEntries messages with
  | .error error => .Finish (.error error)
  | .ok entries => .Finish (.ok (toSummaryState (some saved) entries false).2)

/-- The `try` block from one `await` to the next. -/
def bodyStep : BodyPhase → RefreshAnswer → Option (BodyNext × List RefreshEvent)
  | .Loading none messages, .Summary summary => some (loaded (some summary) messages)
  | .Loading summary none, .Messages messages => some (loaded summary (some messages))
  | .Choosing previous pending, .DefaultModel model =>
      some (afterDefault settings previous pending model)
  | .Completing model lastEntry content chunk chunks, .Completion result =>
      some (.Await (.Recording model lastEntry result chunk chunks),
        [.Answered (completionRequest settings model content chunk) result])
  | .Recording model lastEntry result chunk chunks, .Recorded =>
      some (afterRecord settings model lastEntry result chunk chunks)
  | .Upserting _ _ _ _, .Saved saved => some (.Await (.Reloading saved), [])
  | .Rechecking error, .Present present =>
      some (.Finish (.error (if present then error else chatNotFound)), [])
  | .Reloading saved, .Messages messages => some (afterReload saved messages, [])
  | .Completing _ _ _ _ _, .Error error | .Recording _ _ _ _ _, .Error error =>
      some (.Finish (.error error), [.ChunkFailed error])
  | .Upserting _ _ _ _, .Error error => some (.Await (.Rechecking error), [])
  | .Loading _ _, .Error error | .Choosing _ _, .Error error | .Rechecking _, .Error error
  | .Reloading _, .Error error => some (.Finish (.error error), [])
  | _, _ => none

/-- `finally`: whatever the block ends with, the lock is released. -/
def enterFinally (lock : TokenLock) : BodyNext × List RefreshEvent →
    RefreshPhase × List RefreshEvent
  | (.Await phase, events) => (.Trying lock phase, events)
  | (.Finish outcome, events) => (.Releasing lock outcome, events ++ [.Released])

def settledWith (outcome : RefreshOutcome) : RefreshPhase × List RefreshEvent :=
  (.Settled outcome, [.Settled outcome])

/-- `refreshSummary` from one `await` to the next. -/
def refreshStep : RefreshPhase → RefreshAnswer → Option (RefreshPhase × List RefreshEvent)
  | .Checking, .Present present =>
      some (if present then (.Acquiring, []) else settledWith (.error chatNotFound))
  | .Acquiring, .Lock (some lock) => some (.Trying lock (.Loading none none), [.LockTaken])
  | .Acquiring, .Lock none => some (settledWith (.error AdminChatSummaryError.inProgress))
  | .Trying lock phase, answer => (bodyStep settings phase answer).map (enterFinally lock)
  | .Releasing _ outcome, .Unlocked => some (settledWith outcome)
  | .Checking, .Error error | .Acquiring, .Error error | .Releasing _ _, .Error error =>
      some (settledWith (.error error))
  | _, _ => none

end Code

/-! ## The system

The calls are numbered in the order of their beginning, and each event is recorded with the number
of its call. -/

/-- The rows `findMessages` finds, in its order.  Their ids are keys. -/
structure ChatMessages where
  rows : List Message
  nodup : (rows.map Message.id).Nodup

/-- A chat: its messages, and its row of `admin_chat_summary`. -/
structure ChatRecord where
  messages : ChatMessages
  summary : Option AdminChatSummary

/-- The entries of the completed turns, each with the error it throws if it has one. -/
def turnEntries (messages : List Message) : List (Except JsError ChatHistoryEntry) :=
  (completedTurns messages).map toHistoryEntry

/-- The chat, as long as it exists, Redis, the heartbeats on their way to Redis, the calls in the
order of their beginning, and what they were seen to do. -/
structure SummarySystem where
  chat : Option ChatRecord
  store : LeaseStore String String
  heartbeats : List TokenLock
  calls : List RefreshPhase
  events : List (ℕ × RefreshEvent)

/-- A chat without a summary, before any call. -/
def SummarySystem.initial (messages : ChatMessages) (store : LeaseStore String String) :
    SummarySystem :=
  ⟨some ⟨messages, none⟩, store, [], [], []⟩

/-- An awaited operation, with what it takes from elsewhere: a token, the name a model has in the
joined table, the model of the catalog, the answer of the language model, the time. -/
inductive RefreshOperation where
  | ChatExists
  | Acquire (token : String)
  | FindSummary (modelName : String)
  | FindMessages
  | GetDefault (model : Model)
  | Complete (result : OllamaCompletion)
  | Record
  | Upsert (now : Timestamp) (modelName : String)
  | Release

/-- A step of the system: a call begins or goes on, a heartbeat is sent or executed, a lock runs
out, or the chat changes. -/
inductive SummaryAction where
  | Call
  /-- An operation is executed and the call goes on; `lost` is the error it sees instead of the
  answer. -/
  | Await (call : ℕ) (operation : RefreshOperation) (lost : Option JsError)
  /-- An operation fails without effect. -/
  | Reject (call : ℕ) (error : JsError)
  /-- The interval fires. -/
  | Heartbeat (call : ℕ)
  /-- Redis executes a heartbeat. -/
  | Extend (heartbeat : ℕ)
  | Expire (key : String)
  /-- Completed turns are added at the end; whatever is not completed may change. -/
  | Grow (messages : ChatMessages)
  | Delete

section Step

variable (settings : ContextSettings) (chatId : String) (lockTtlMs : ℤ)

/-- The row of `repository.upsertSummary`. -/
def summaryRow (model : Model) (lastEntry : ChatHistoryEntry) (content : JsString)
    (tokenCount : ℤ) (now : Timestamp) : AdminChatSummary where
  content := content
  summarizedThroughMessageId := lastEntry.id
  modelId := model.id
  tokenCount := tokenCount
  updatedAt := now

/-- An operation of a call, if it is awaited: its answer and its effect.  Redis refuses a time to
live that is not positive, and the foreign key a summary without its chat. -/
def perform (s : SummarySystem) (i : ℕ) (phase : RefreshPhase) :
    RefreshOperation → Option (RefreshAnswer × SummarySystem)
  | .ChatExists => some (.Present s.chat.isSome, s)
  | .Acquire token =>
      match phase with
      | .Acquiring =>
          (s.store.setIfAbsent (adminSummaryLockKey chatId) token lockTtlMs).map
            fun (acquired, store) =>
              (.Lock (if acquired then some ⟨adminSummaryLockKey chatId, token⟩ else none),
                { s with store })
      | _ => none
  | .FindSummary modelName =>
      some (.Summary ((s.chat.bind (·.summary)).map (⟨·, modelName⟩)), s)
  | .FindMessages => some (.Messages (s.chat.elim [] (·.messages.rows)), s)
  | .GetDefault model => some (.DefaultModel model, s)
  | .Complete result => some (.Completion result, s)
  | .Record => some (.Recorded, s)
  | .Upsert now modelName =>
      match phase, s.chat with
      | .Trying _ (.Upserting model lastEntry content tokenCount), some chat =>
          let row := summaryRow model lastEntry content tokenCount now
          some (.Saved ⟨row, modelName⟩,
            { s with
              chat := some { chat with summary := some row }
              events := s.events ++ [(i, .Stored row)] })
      | _, _ => none
  | .Release =>
      match phase with
      | .Releasing lock _ => some (.Unlocked, { s with store := (lock.release s.store).2 })
      | _ => none

/-- The call goes on with an answer. -/
def SummarySystem.resume (s : SummarySystem) (i : ℕ) (phase : RefreshPhase)
    (answer : RefreshAnswer) : Option SummarySystem :=
  (refreshStep settings phase answer).map fun (next, events) =>
    { s with calls := s.calls.set i next, events := s.events ++ events.map (i, ·) }

/-- One step of the system, if it is possible.  An awaited operation is executed when it is that
operation which the call awaits. -/
def summaryStep (s : SummarySystem) : SummaryAction → Option SummarySystem
  | .Call => some { s with calls := s.calls ++ [.Checking] }
  | .Await i operation lost =>
      s.calls[i]?.bind fun phase =>
        (perform chatId lockTtlMs s i phase operation).bind fun (answer, performed) =>
          performed.resume settings i phase (lost.elim answer .Error)
  | .Reject i error => s.calls[i]?.bind fun phase => s.resume settings i phase (.Error error)
  | .Heartbeat i =>
      match s.calls[i]? with
      | some (.Trying lock _) => some { s with heartbeats := s.heartbeats ++ [lock] }
      | _ => none
  | .Extend k =>
      s.heartbeats[k]?.map fun lock =>
        { s with
          store := (lock.extend lockTtlMs s.store).2
          heartbeats := s.heartbeats.eraseIdx k }
  | .Expire key => some { s with store := s.store.expire key }
  | .Grow messages =>
      s.chat.bind fun chat =>
        if turnEntries chat.messages.rows <+: turnEntries messages.rows then
          some { s with chat := some { chat with messages } }
        else none
  | .Delete => s.chat.map fun _ => { s with chat := none }

end Step

end RagStack
