import RagStack.Core.Effect
import RagStack.Chats.Helpers

/-!
# The world a chat handler runs in

A handler of the API is an `Eff` program over `World`: what PostgreSQL and Redis hold, the local
variables of the running `stream` call, and the trace of every call made so far.  Nothing else is
observable, and everything observable is in the trace: an entry keeps the call with its
arguments, how it settled, and the stores and local variables as they were when it was issued.
"In every state reached" is a statement about the entries of the trace and the final stores.

What the collaborators do is not decided here.  `Env` is an arbitrary script for them: it says
how the `n`-th call settles, what Ollama answers, when the signal is aborted and which Redis keys
have run out.  A call may reject without having done anything, or after it was carried out (the
answer was lost), or never settle; theorems about every `Env` are theorems about every pattern of
failures.

* `await` — one awaited call, settled as the script says.
* `transact` — an awaited call that is one atomic change of the stores.
* `wp_await`, `wp_transact` — the only two rules that mention the script.
-/

namespace RagStack

/-- `getPrincipalLockId`. -/
inductive PrincipalLockId where
  | User (userId : Uuid)
  | Anonymous (anonymousSessionId : Uuid)
  deriving Repr, DecidableEq

def getPrincipalLockId : RequestPrincipal → PrincipalLockId
  | .Authenticated userId _ => .User userId
  | .Anonymous anonymousSessionId => .Anonymous anonymousSessionId

/-- The Redis keys: a chat's history is kept under the chat id itself. -/
inductive RedisKey where
  | Chat (chatId : Uuid)
  | HistoryLock (chatId : Uuid)
  | GenerationLock (chatId : Uuid)
  | PrincipalGenerationLock (principal : PrincipalLockId) (slot : ℕ)
  deriving Repr, DecidableEq

/-- A Redis string.  `Json` is `JSON.stringify` of a history, which `JSON.parse` reads back and
`history_schema` accepts; the two others are what those two steps reject. -/
inductive RedisValue where
  | Json (history : List ChatHistoryEntry)
  | WrongShape
  | NotJson
  | Token (token : ℕ)
  deriving Repr, DecidableEq

/-- The collaborators of `ChatStreamService.stream` that are more than one query. -/
inductive Service where
  | GetHistory
  | AppendHistory
  | RefreshHistory
  | InvalidateHistory
  | BuildPrompt
  | RecordUsage
  deriving Repr, DecidableEq

/-- The awaited calls, with the arguments a property looks at. -/
inductive Call where
  | FindOwnedChat (chatId : Uuid)
  | FindModelByName (name : String)
  | FindMessagesForHistory (chatId : Uuid)
  | FindSummary (chatId : Uuid)
  | FindLastCompletedAssistantMessage (chatId : Uuid)
  | CreateChat (firstPrompt : Option JsString)
  | BeginGeneration (chatId : Uuid)
  | CompleteGeneration (assistantMessageId : Uuid)
  | EndGeneration (assistantMessageId : Uuid)
  | UpsertSummary (chatId : Uuid)
  | CreateUsageLog
  | RedisGet (key : RedisKey)
  | RedisSet (key : RedisKey) (value : RedisValue)
  | RedisSetIfAbsent (key : RedisKey)
  | RedisDelete (key : RedisKey)
  | RedisDeleteIfValueMatches (key : RedisKey)
  | OllamaStreamChat (model : String) (messages : List OllamaHistoryMessage) (contextTokens : ℕ)
  | OllamaComplete (model : String) (messages : List OllamaHistoryMessage)
      (contextTokens maxTokens : ℕ)
  | Emit (event : ChatStreamEvent)
  | Service (service : Service)
  deriving Repr, DecidableEq

/-- A query or transaction on PostgreSQL. -/
def Call.isPostgres : Call → Bool
  | .FindOwnedChat _ | .FindModelByName _ | .FindMessagesForHistory _ | .FindSummary _
  | .FindLastCompletedAssistantMessage _ | .CreateChat _ | .BeginGeneration _
  | .CompleteGeneration _ | .EndGeneration _ | .UpsertSummary _ | .CreateUsageLog => true
  | _ => false

/-- How a call settles.  It may have taken effect or not, and the caller may be told so or not; a
call that hangs ends the run for whoever awaits it. -/
inductive Verdict where
  | Resolves
  | Rejects
  /-- The call was carried out, but the caller is told it failed. -/
  | RejectsLate
  /-- The call was not carried out and the caller never hears of it again. -/
  | Hangs
  deriving Repr, DecidableEq

def Verdict.applied : Verdict → Bool
  | .Resolves | .RejectsLate => true
  | _ => false

/-- How a stream of chunks ends after the chunks that arrived. -/
inductive StreamEnding where
  | Closed
  | Rejected
  | Hung
  deriving Repr, DecidableEq

/-- What PostgreSQL and Redis hold.  Tables are lists in the order of their creation, and Redis is a
partial function, from which keys can run out at any time. -/
structure Stores where
  chats : List Chat
  models : List Model
  messages : MessageTable
  summaries : List ConversationSummary
  usageLog : List UsageLog
  redis : RedisKey → Option RedisValue

/-- The script of the collaborators.  The number is that of the call, counted from the beginning
of the run. -/
structure Env where
  verdict : ℕ → Call → Verdict
  rejection : ℕ → JsError
  aborted : ℕ → Bool
  now : ℕ → Timestamp
  expired : ℕ → RedisKey → Bool
  chunks : ℕ → List OllamaChatChunk
  ending : ℕ → StreamEnding
  completion : ℕ → OllamaCompletion

/-- The script in which nothing fails and Ollama says nothing, on which examples put what they need.
-/
def Env.reliable : Env where
  verdict := fun _ _ => .Resolves
  rejection := fun _ => .Other "unused"
  aborted := fun _ => false
  now := id
  expired := fun _ _ => false
  chunks := fun _ => []
  ending := fun _ => .Closed
  completion := fun _ => ⟨[], none, none⟩

/-- The local variables of a `stream` call that outlive a `try` block. -/
structure StreamLocals where
  history : Option (List ChatHistoryEntry)
  assistantMessageId : Option Uuid
  assistantContent : JsString
  finalChunk : Option OllamaChatChunk
  deriving Repr, DecidableEq

/-- One call: what was asked, how it settled, and the stores and local variables when it was
issued. -/
structure TraceEntry where
  call : Call
  verdict : Verdict
  before : Stores
  locals : StreamLocals

/-- The variables before the first statement. -/
def StreamLocals.initial : StreamLocals := ⟨none, none, [], none⟩

def Stores.empty (supply : RowSupply) : Stores where
  chats := []
  models := []
  messages := .empty supply
  summaries := []
  usageLog := []
  redis := fun _ => none

/-- Stores, locals, whether the lock renewal timer is set, and the trace, newest entry first. -/
structure World where
  stores : Stores
  locals : StreamLocals
  renewing : Bool
  trace : List TraceEntry

/-- A handler of the API: a program that may throw, or never come back, and works on a `World`. -/
abbrev Handler (α : Type) : Type := Eff World JsError α

namespace World

def start (s : Stores) : World := ⟨s, .initial, false, []⟩

/-- The number of the next call. -/
def tick (w : World) : ℕ := w.trace.length

/-- `c` was issued and settles with `v`. -/
def log (w : World) (c : Call) (v : Verdict) : World :=
  { w with trace := ⟨c, v, w.stores, w.locals⟩ :: w.trace }

/-- The stores become `s`. -/
def setStores (w : World) (s : Stores) : World := { w with stores := s }

@[simp] theorem stores_log (w : World) (c : Call) (v : Verdict) : (w.log c v).stores = w.stores :=
  rfl

@[simp] theorem locals_log (w : World) (c : Call) (v : Verdict) : (w.log c v).locals = w.locals :=
  rfl

@[simp] theorem trace_log (w : World) (c : Call) (v : Verdict) :
    (w.log c v).trace = ⟨c, v, w.stores, w.locals⟩ :: w.trace := rfl

@[simp] theorem stores_setStores (w : World) (s : Stores) : (w.setStores s).stores = s := rfl

@[simp] theorem locals_setStores (w : World) (s : Stores) : (w.setStores s).locals = w.locals :=
  rfl

@[simp] theorem trace_setStores (w : World) (s : Stores) : (w.setStores s).trace = w.trace := rfl

end World

/-! ## Awaited calls -/

section Calls

variable {α : Type} (env : Env)

/-- `await call`: `effect` is what the callee does, the script says how the call settles. -/
def await (c : Call) (effect : Handler α) : Handler α := fun w =>
  let w' := w.log c (env.verdict w.tick c)
  match env.verdict w.tick c with
  | .Resolves => effect w'
  | .Rejects => (.Thrown (env.rejection w.tick), w')
  | .RejectsLate =>
      match effect w' with
      | (.Returned _, w'') => (.Thrown (env.rejection w.tick), w'')
      | r => r
  | .Hangs => (.Halted, w')

/-- A call which is one atomic operation on the stores.  It is given the number of the call; an
exception leaves the stores as they were. -/
def transact (c : Call) (operation : ℕ → Stores → Except JsError (α × Stores)) : Handler α :=
  await env c fun w =>
    match operation w.tick w.stores with
    | .ok (a, s) => (.Returned a, w.setStores s)
    | .error e => (.Thrown e, w)

def query (c : Call) (read : Stores → α) : Handler α := transact env c fun _ s => .ok (read s, s)

variable {env}

/-- **Rule of an awaited call.**  Either the callee does not run, or it runs and at most its value
is replaced by an exception. -/
theorem wp_await {c : Call} {effect : Handler α} {w : World} {Q : Outcome JsError α → World → Prop}
    (resolved : env.verdict w.tick c = .Resolves → Eff.wp effect Q (w.log c .Resolves))
    (rejected : env.verdict w.tick c = .Rejects →
      Q (.Thrown (env.rejection w.tick)) (w.log c .Rejects))
    (late : env.verdict w.tick c = .RejectsLate →
      Eff.wp effect (fun o w' => match o with
        | .Returned _ => Q (.Thrown (env.rejection w.tick)) w'
        | .Thrown e => Q (.Thrown e) w'
        | .Halted => Q .Halted w') (w.log c .RejectsLate))
    (hung : env.verdict w.tick c = .Hangs → Q .Halted (w.log c .Hangs)) :
    Eff.wp (await env c effect) Q w := by
  simp only [Eff.wp, await]
  cases hv : env.verdict w.tick c with
  | Resolves => exact resolved hv
  | Rejects => exact rejected hv
  | RejectsLate =>
      have h := late hv
      simp only [Eff.wp] at h
      simp only
      rcases he : effect (w.log c .RejectsLate) with ⟨o, w'⟩
      rw [he] at h
      cases o <;> exact h
  | Hangs => exact hung hv

/-- **Rule of an atomic call.**  It took effect and the caller knows, or nothing happened and the
caller sees an exception, or it took effect and the caller sees an exception, or it is never heard
of again. -/
theorem wp_transact {c : Call} {operation : ℕ → Stores → Except JsError (α × Stores)} {w : World}
    {Q : Outcome JsError α → World → Prop}
    (resolved : ∀ a s, env.verdict w.tick c = .Resolves →
      operation (w.tick + 1) w.stores = .ok (a, s) →
      Q (.Returned a) ((w.log c .Resolves).setStores s))
    (refused : ∀ e v, env.verdict w.tick c = v →
      (v = .Rejects ∨ operation (w.tick + 1) w.stores = .error e) → Q (.Thrown e) (w.log c v))
    (late : ∀ a s, env.verdict w.tick c = .RejectsLate →
      operation (w.tick + 1) w.stores = .ok (a, s) →
      Q (.Thrown (env.rejection w.tick)) ((w.log c .RejectsLate).setStores s))
    (hung : env.verdict w.tick c = .Hangs → Q .Halted (w.log c .Hangs)) :
    Eff.wp (transact env c operation) Q w := by
  refine wp_await ?_ (fun hv => refused _ _ hv (.inl rfl)) ?_ hung
  · intro hv
    show Q _ _
    have htick : (w.log c .Resolves).tick = w.tick + 1 := rfl
    simp only [htick, World.stores_log]
    cases ho : operation (w.tick + 1) w.stores with
    | ok r => exact resolved r.1 r.2 hv ho
    | error e => exact refused e _ hv (.inr ho)
  · intro hv
    simp only [Eff.wp]
    have htick : (w.log c .RejectsLate).tick = w.tick + 1 := rfl
    simp only [htick, World.stores_log]
    cases ho : operation (w.tick + 1) w.stores with
    | ok r => exact late r.1 r.2 hv ho
    | error e => exact refused e _ hv (.inr ho)

lemma query_resolved {c : Call} {read : Stores → α} {w : World}
    (h : env.verdict w.tick c = .Resolves) :
    query env c read w = (.Returned (read w.stores), w.log c .Resolves) := by
  simp only [query, transact, await]
  rw [h]
  rfl

/-- A query changes nothing but the trace. -/
theorem wp_query {c : Call} {read : Stores → α} {w : World} {Q : Outcome JsError α → World → Prop}
    (resolved : env.verdict w.tick c = .Resolves →
      Q (.Returned (read w.stores)) (w.log c .Resolves))
    (rejected : ∀ e v, env.verdict w.tick c = v → v = .Rejects ∨ v = .RejectsLate →
      Q (.Thrown e) (w.log c v))
    (hung : env.verdict w.tick c = .Hangs → Q .Halted (w.log c .Hangs)) :
    Eff.wp (query env c read) Q w := by
  refine wp_transact ?_ ?_ ?_ hung
  · rintro a s hv ho
    cases ho
    exact resolved hv
  · rintro e v hv (rfl | ho)
    · exact rejected e _ hv (.inl rfl)
    · cases ho
  · rintro a s hv ho
    cases ho
    exact rejected _ _ hv (.inr rfl)

section Keeps

variable {R : World → World → Prop}

/-- A relation that every logged call keeps, and that the callee keeps. -/
theorem keeps_await [IsPreorder World R] {c : Call} {effect : Handler α}
    (logged : ∀ w v, R w (w.log c v)) (heffect : Eff.Keeps R effect) :
    Eff.Keeps R (await env c effect) := by
  intro w
  show Eff.wp (await env c effect) (fun _ w' => R w w') w
  refine wp_await ?_ (fun _ => logged w _) ?_ (fun _ => logged w _)
  · intro _
    exact IsTrans.trans _ _ _ (logged w _) (heffect _)
  · intro _
    refine Eff.wp_mono heffect.wp ?_
    intro o w' h
    cases o <;> exact IsTrans.trans _ _ _ (logged w _) h

/-- A relation that an atomic call keeps, carried out or not. -/
theorem keeps_transact {c : Call} {operation : ℕ → Stores → Except JsError (α × Stores)}
    (logged : ∀ w v, R w (w.log c v))
    (carriedOut : ∀ w v t a s, operation t w.stores = .ok (a, s) →
      R w ((w.log c v).setStores s)) :
    Eff.Keeps R (transact env c operation) := by
  intro w
  show Eff.wp (transact env c operation) (fun _ w' => R w w') w
  exact wp_transact (fun a s _ h => carriedOut w _ _ a s h) (fun _ v _ _ => logged w v)
    (fun a s _ h => carriedOut w _ _ a s h) (fun _ => logged w _)

theorem keeps_query {c : Call} {read : Stores → α} (logged : ∀ w v, R w (w.log c v)) :
    Eff.Keeps R (query env c read) := by
  refine keeps_transact logged ?_
  rintro w v t a s h
  cases h
  exact logged w v

end Keeps

section Throws

variable {P : JsError → Prop} (hrejection : ∀ t, P (env.rejection t))
include hrejection

theorem throws_await {c : Call} {effect : Handler α} (heffect : Eff.ThrowsOnly P effect) :
    Eff.ThrowsOnly P (await env c effect) := by
  intro w
  refine wp_await (fun _ => heffect _) ?_ ?_ (by simp)
  · rintro - e ⟨⟩
    exact hrejection _
  · intro _
    refine Eff.wp_mono (heffect _) ?_
    intro o w' h
    cases o with
    | Returned _ =>
        rintro e ⟨⟩
        exact hrejection _
    | Thrown e => exact h
    | Halted => exact h

theorem throws_transact {c : Call} {operation : ℕ → Stores → Except JsError (α × Stores)}
    (hoperation : ∀ t s e, operation t s = .error e → P e) :
    Eff.ThrowsOnly P (transact env c operation) := by
  refine throws_await hrejection fun w => ?_
  unfold Eff.wp
  simp only
  cases ho : operation w.tick w.stores with
  | ok r => simp
  | error e =>
      rintro _ ⟨⟩
      exact hoperation _ _ _ ho

theorem throws_query {c : Call} {read : Stores → α} : Eff.ThrowsOnly P (query env c read) :=
  throws_transact hrejection (by rintro t s e ⟨⟩)

end Throws

/-- A query that returns has returned what it read. -/
theorem query_eq_returned {c : Call} {read : Stores → α} {w w' : World} {a : α}
    (h : query env c read w = (.Returned a, w')) : a = read w.stores ∧ w' = w.log c .Resolves := by
  have hq : Eff.wp (query env c read)
      (fun o w' => ∀ a, o = .Returned a → a = read w.stores ∧ w' = w.log c .Resolves) w := by
    refine wp_query ?_ ?_ ?_
    · rintro - a ha
      cases ha
      exact ⟨rfl, rfl⟩
    · rintro e v - - a ha
      cases ha
    · rintro - a ha
      cases ha
  simp only [Eff.wp] at hq
  rw [h] at hq
  exact hq a rfl

end Calls

/-- `signal.aborted`. -/
def signalAborted (env : Env) : Handler Bool := fun w => (.Returned (env.aborted w.tick), w)

/-- `emit(event)`: a write to the response, which may throw like any other call. -/
def emit (env : Env) (event : ChatStreamEvent) : Handler Unit := query env (.Emit event) fun _ => ()

/-- An assignment to a local variable. -/
def assign (f : StreamLocals → StreamLocals) : Handler Unit :=
  Eff.modify fun w => { w with locals := f w.locals }

/-- The events the client was sent, in order. -/
def World.events (w : World) : List ChatStreamEvent :=
  w.trace.reverse.filterMap fun entry =>
    match entry.call with
    | .Emit event => if entry.verdict.applied then some event else none
    | _ => none

end RagStack
