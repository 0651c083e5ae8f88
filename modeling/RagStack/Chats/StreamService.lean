import RagStack.Chats.ContextWindowService

/-!
# `chat-stream.service.ts`

`stream` in the order of the source: the checks and the two locks first, then one `try` block
(`generate`) with one `catch` (`generationFailed`) and one `finally` (`releaseLocks`).  The blocks
are definitions of their own, under names that say what the source leaves to position, and what is
between them is the same sequence of awaits.

The variables the `catch` reads, `assistantMessageId` and `assistantContent`, live in
`World.locals`: an exception does not undo an assignment.  The first statement of `stream` gives
them their initial values, so a second call in the same world does not see those of the first.

The model's reply arrives as a list of chunks and an ending, which the script supplies: the
iteration may end, reject or hang after any number of chunks, and whether the signal is aborted is
asked at every place where the source asks.  A chunk that would exceed the limit raises before
anything of it is buffered or sent.

The definitions at the end are the defaults of the configuration, and a chat and a script that later
files use where they need a concrete run.
-/

namespace RagStack

/-- What the constructor reads from the configuration. -/
structure StreamConfig where
  maxMessageChars : ℕ
  maxResponseChars : ℕ
  principalSlots : ℕ
  settings : ContextSettings

/-- `StreamChatParams`, without the signal and `emit`, which are part of the script. -/
structure StreamChatParams where
  chatId : Uuid
  principal : RequestPrincipal
  content : JsString
  model : Option String
  deriving Repr, DecidableEq

section Service

variable (env : Env) (config : StreamConfig)

/-- `setInterval` and `clearInterval` of the lock renewal. -/
def setRenewing (renewing : Bool) : Handler Unit := Eff.modify fun w => { w with renewing }

/-- The local variables of the call, read back. -/
def locals : Handler StreamLocals := fun w => (.Returned w.locals, w)

/-- The body of the `for await` loop. -/
def receiveChunk (assistantMessageId : Uuid) (chunk : OllamaChatChunk) : Handler Unit := do
  if chunk.delta ≠ [] then
    let before ← locals
    if before.assistantContent.length + chunk.delta.length > config.maxResponseChars then
      Eff.throw (.Http 413 "The model response exceeded the configured limit.")
    assign fun l => { l with assistantContent := l.assistantContent ++ chunk.delta }
    emit env (.MessageDelta assistantMessageId chunk.delta)
  if chunk.done then assign fun l => { l with finalChunk := some chunk }

/-- How the iteration over `streamChat` ends, after the chunks of the call with number `t`. -/
def streamEnd (t : ℕ) : Handler Unit := fun w =>
  match env.ending t with
  | .Closed => (.Returned (), w)
  | .Rejected => (.Thrown (env.rejection t), w)
  | .Hung => (.Halted, w)

/-- `for await (const chunk of this.ollama.streamChat(...))`. -/
def receiveReply (assistantMessageId : Uuid) (model : Model)
    (messages : List OllamaHistoryMessage) : Handler Unit := do
  let t ← await env (.OllamaStreamChat model.name messages model.maxContext) fun w =>
    (.Returned w.tick, w)
  Eff.forEach (receiveChunk env config assistantMessageId) (env.chunks t)
  streamEnd env t

/-- The end of the `try` block, once the model has answered. -/
def finishGeneration (params : StreamChatParams) (model : Model) (assistantMessageId : Uuid)
    (summary : Option ConversationSummary) (finalChunk : OllamaChatChunk) : Handler Unit := do
  let before ← locals
  let completed ← completeGeneration env assistantMessageId before.assistantContent
    finalChunk.promptTokens finalChunk.completionTokens finalChunk.finishReason
  recordUsage env params.principal params.chatId model.id .Chat finalChunk.promptTokens
    finalChunk.completionTokens
  await env (.Service .RefreshHistory) (refresh env params.chatId)
  emit env (.MessageCompleted (toChatMessage completed))
  emit env (.ContextUpdated (toChatContext model.maxContext summary (some completed)))

/-- The `try` block. -/
def generate (params : StreamChatParams) (model : Model) : Handler Unit := do
  let history ← await env (.Service .GetHistory) (getHistory env params.chatId)
  assign fun l => { l with history := some history }
  let messages ← beginGeneration env params.chatId params.content model.name
  let assistantMessageId := messages.assistantMessage.id
  assign fun l => { l with assistantMessageId := some assistantMessageId }
  await env (.Service .AppendHistory)
    (append env params.chatId (.User messages.userMessage.id params.content))
  emit env (.StreamStarted params.chatId messages.userMessage.id assistantMessageId model.name)
  let prompt ← await env (.Service .BuildPrompt) <| buildPrompt env config.settings
    { principal := params.principal, chatId := params.chatId, model, history,
      content := params.content, onSummarizing := emit env .ContextSummarizing }
  receiveReply env config assistantMessageId model prompt.messages
  match (← locals).finalChunk with
  | none => Eff.throw (.Other "Ollama stream ended without a completion frame.")
  | some finalChunk =>
      finishGeneration env params model assistantMessageId prompt.summary finalChunk

def refreshHistory (chatId : Uuid) : Handler Unit :=
  Eff.tryCatch (await env (.Service .RefreshHistory) (refresh env chatId)) fun _ =>
    await env (.Service .InvalidateHistory) (invalidate env chatId)

/-- The `catch` block. -/
def generationFailed (params : StreamChatParams) (error : JsError) : Handler Unit := do
  let l ← locals
  match l.assistantMessageId with
  | none => Eff.throw error
  | some assistantMessageId =>
      if ← signalAborted env then
        let _ ← endGeneration env assistantMessageId l.assistantContent none
        refreshHistory env params.chatId
        emit env (.StreamCancelled assistantMessageId)
      else
        let publicError := getPublicStreamError error
        let _ ← endGeneration env assistantMessageId l.assistantContent (some publicError.code)
        refreshHistory env params.chatId
        emit env (.StreamError publicError.code publicError.message)

/-- One element of `Promise.allSettled([...])`. -/
def settle (lock : RedisLock) : Handler Unit :=
  Eff.tryCatch
    (do
      let _ ← lock.release env
      pure ())
    fun _ => pure ()

/-- The `finally` block. -/
def releaseLocks (chatLock principalLock : RedisLock) : Handler Unit := do
  setRenewing false
  settle env chatLock
  settle env principalLock

/-- `stream` once both locks are held. -/
def streamLocked (params : StreamChatParams) (model : Model) (chatLock principalLock : RedisLock) :
    Handler Unit := do
  setRenewing true
  Eff.andFinally
    (Eff.tryCatch (generate env config params model) (generationFailed env params))
    (releaseLocks env chatLock principalLock)

/-- `ChatStreamService.stream`.  The first statement is the fresh activation record. -/
def stream (params : StreamChatParams) : Handler Unit := do
  assign fun _ => .initial
  if params.content.length > config.maxMessageChars then
    Eff.throw (.Http 413 "The message is too long.")
  let (_, chatModel) ← findOwnedChat env params.chatId params.principal
  let selectedModel ← resolveForGeneration env (params.model.getD chatModel.name)
  assertContentFits config.settings selectedModel params.content
  match ← acquirePrincipalGenerationLock env params.principal config.principalSlots with
  | none => Eff.throw (.Http 409 "Too many active generations.")
  | some principalLock =>
      match ← acquireGenerationLock env params.chatId with
      | none => do
          let _ ← principalLock.release env
          Eff.throw (.Http 409 "This chat is already generating a response.")
      | some chatLock => streamLocked env config params selectedModel chatLock principalLock

end Service

/-! ## Defaults -/

/-- The defaults of `environment.schema.ts`. -/
def StreamConfig.defaults : StreamConfig where
  maxMessageChars := 12000
  maxResponseChars := 100000
  principalSlots := 1
  settings := .defaults

/-- One chat of one anonymous session, with its model. -/
def Stores.oneChat : Stores :=
  { Stores.empty .counting with
    chats := [⟨1, none, some 1, js "New chat", 1, 0⟩]
    models := [⟨1, "llama3.2:1b", 8192, true⟩] }

/-- A message for that chat. -/
def StreamChatParams.hello : StreamChatParams := ⟨1, .Anonymous 1, js "Hello", none⟩

/-- A model which answers "Hi" to everything; nothing fails. -/
def Env.answering : Env :=
  { Env.reliable with chunks := fun _ => [⟨js "Hi", true, some 5, some 1, some "stop"⟩] }

end RagStack
