import RagStack.Core.JsString
import Mathlib.Data.Rat.Defs
import Mathlib.Algebra.Order.Ring.Rat
import Mathlib.Tactic.NormNum

/-!
# Rows, settings and events of the chat subsystem

The data of `schema.prisma`, `chats.types.ts` and the transport contracts, as far as a modelled
function reads or writes it.  Enumerations are inductive types, `Date`s are milliseconds, UUIDs are
their 128-bit value (PostgreSQL compares them that way).  Names are those of the source, in the case
convention of the language.

Two types carry an invariant so that no later proof has to ask for it.  `MessageTable` is the
`message` table together with the column defaults that generate its keys: a row can only be inserted
under the next generated id, so ids never repeat.  What the ids are is left open, and in particular
nothing says that later ids are greater; two rows of one millisecond can be in either order, and
theorems which need more have to ask for it.  `ContextSettings` holds what `environment.schema.ts`
admits and nothing else.

An exception of the language can be any value.  `JsError` distinguishes what the code distinguishes:
a Nest exception with its status, an object with a string `code`, and the rest.
-/

namespace RagStack

/-- A UUID, as the number its digits denote.  The order of numbers is the order of UUIDs in
PostgreSQL. -/
abbrev Uuid : Type := ℕ

/-- Milliseconds since the epoch, the precision of `timestamptz(3)`.  No row is from before the
epoch. -/
abbrev Timestamp : Type := ℕ

inductive RequestPrincipal where
  | Anonymous (anonymousSessionId : Uuid)
  | Authenticated (userId authSessionId : Uuid)
  deriving Repr, DecidableEq

inductive MessageRole where
  | User
  | Assistant
  deriving Repr, DecidableEq

inductive MessageStatus where
  | Streaming
  | Completed
  | Failed
  | Cancelled
  deriving Repr, DecidableEq

inductive TokenCountSource where
  | OllamaReported
  | Estimated
  | Unknown
  deriving Repr, DecidableEq

/-! ## Rows -/

/-- A row of `message`. -/
structure Message where
  id : Uuid
  chatId : Uuid
  role : MessageRole
  status : MessageStatus
  content : JsString
  model : Option String
  tokenCount : Option ℤ
  tokenCountSource : TokenCountSource
  promptTokens : Option ℤ
  completionTokens : Option ℤ
  totalTokens : Option ℤ
  finishReason : Option String
  errorCode : Option String
  createdAt : Timestamp
  updatedAt : Timestamp
  deriving Repr, DecidableEq

/-- The columns an insert supplies; the key and the creation time come from column defaults. -/
structure MessageDraft where
  chatId : Uuid
  role : MessageRole
  status : MessageStatus
  content : JsString
  model : Option String
  tokenCount : Option ℤ
  tokenCountSource : TokenCountSource

def MessageDraft.message (d : MessageDraft) (id : Uuid) (createdAt : Timestamp) : Message where
  id := id
  chatId := d.chatId
  role := d.role
  status := d.status
  content := d.content
  model := d.model
  tokenCount := d.tokenCount
  tokenCountSource := d.tokenCountSource
  promptTokens := none
  completionTokens := none
  totalTokens := none
  finishReason := none
  errorCode := none
  createdAt := createdAt
  updatedAt := createdAt

/-- A row of `model`. -/
structure Model where
  id : Uuid
  name : String
  maxContext : ℕ
  isAvailable : Bool
  deriving Repr, DecidableEq

/-- A row of `chat`.  `chat_exactly_one_owner_check` makes the two owner columns one principal. -/
structure Chat where
  id : Uuid
  userId : Option Uuid
  anonymousSessionId : Option Uuid
  title : JsString
  selectedModelId : Uuid
  lastMessageAt : Timestamp
  deriving Repr, DecidableEq

/-- A row of `conversation_summary`. -/
structure ConversationSummary where
  chatId : Uuid
  content : JsString
  summarizedThroughMessageId : Uuid
  tokenCount : ℤ
  deriving Repr, DecidableEq

/-- `UsageKind`, as far as chats use it. -/
inductive UsageKind where
  | Chat
  | Summary
  deriving Repr, DecidableEq

/-- A row of `usage_log`. -/
structure UsageLog where
  userId : Option Uuid
  anonymousSessionId : Option Uuid
  chatId : Option Uuid
  modelId : Uuid
  kind : UsageKind
  inputTokens : ℕ
  outputTokens : ℕ
  deriving Repr, DecidableEq

/-! ## The message table

Its four operations keep the invariant by construction.  The lemmas say what each of them does to a
row that is looked up by its id, and that no operation moves a row to another chat. -/

/-- The column defaults `uuidv7()` and `now()`: the key of the `n`-th row ever inserted.  Ids do
not repeat; nothing is said about their order. -/
structure RowSupply where
  id : ℕ → Uuid
  createdAt : ℕ → Timestamp
  id_injective : Function.Injective id

/-- Row `n` gets id `n`, a millisecond after the row before. -/
def RowSupply.counting : RowSupply := ⟨fun n => n, fun n => n, Function.injective_id⟩

/-- The `message` table: its rows in insertion order, and how many were ever inserted. -/
structure MessageTable where
  supply : RowSupply
  inserted : ℕ
  rows : List Message
  issued : ∀ m ∈ rows, ∃ n < inserted, m.id = supply.id n
  nodup : (rows.map Message.id).Nodup

namespace MessageTable

def empty (supply : RowSupply) : MessageTable where
  supply := supply
  inserted := 0
  rows := []
  issued := by simp
  nodup := by simp

/-- The row a draft becomes in this table. -/
def newRow (t : MessageTable) (d : MessageDraft) : Message :=
  d.message (t.supply.id t.inserted) (t.supply.createdAt t.inserted)

/-- The next generated id is not in use. -/
theorem next_id_fresh (t : MessageTable) : t.supply.id t.inserted ∉ t.rows.map Message.id := by
  intro h
  obtain ⟨m, hm, hid⟩ := List.mem_map.mp h
  obtain ⟨n, hn, hid'⟩ := t.issued m hm
  have : n = t.inserted := t.supply.id_injective (hid' ▸ hid)
  omega

def create (t : MessageTable) (d : MessageDraft) : MessageTable where
  supply := t.supply
  inserted := t.inserted + 1
  rows := t.rows ++ [t.newRow d]
  issued := by
    intro m hm
    rcases List.mem_append.mp hm with hm | hm
    · obtain ⟨n, hn, hid⟩ := t.issued m hm
      exact ⟨n, by omega, hid⟩
    · rw [List.mem_singleton.mp hm]
      exact ⟨t.inserted, by omega, rfl⟩
  nodup := by
    rw [List.map_append, List.nodup_append]
    refine ⟨t.nodup, by simp, ?_⟩
    intro a ha b hb hab
    have hfresh := t.next_id_fresh
    simp only [List.map_cons, List.map_nil, List.mem_singleton] at hb
    exact hfresh (by rw [← show a = t.supply.id t.inserted from hab.trans hb]; exact ha)

/-- `message.update` of the row `id`: `change` says what happens to its data, the key stays. -/
def update (t : MessageTable) (id : Uuid) (change : Message → Message) : MessageTable where
  supply := t.supply
  inserted := t.inserted
  rows := t.rows.map fun m => if m.id = id then { change m with id := m.id } else m
  issued := by
    intro m hm
    obtain ⟨m', hm', rfl⟩ := List.mem_map.mp hm
    obtain ⟨n, hn, hid⟩ := t.issued m' hm'
    refine ⟨n, hn, ?_⟩
    split <;> exact hid
  nodup := by
    have hids : (t.rows.map fun m => if m.id = id then { change m with id := m.id } else m).map
        Message.id = t.rows.map Message.id := by
      rw [List.map_map]
      refine List.map_congr_left fun m _ => ?_
      show (if m.id = id then { change m with id := m.id } else m).id = m.id
      split <;> rfl
    rw [hids]
    exact t.nodup

/-- `message.findUnique({ where: { id } })`. -/
def find? (t : MessageTable) (id : Uuid) : Option Message := t.rows.find? (·.id = id)

@[simp] theorem rows_create (t : MessageTable) (d : MessageDraft) :
    (t.create d).rows = t.rows ++ [t.newRow d] := rfl

@[simp] theorem rows_update (t : MessageTable) (id : Uuid) (change : Message → Message) :
    (t.update id change).rows
      = t.rows.map fun m => if m.id = id then { change m with id := m.id } else m := rfl

/-- An update changes the row it names and no other. -/
theorem find?_update (t : MessageTable) (id : Uuid) (change : Message → Message) (id' : Uuid) :
    (t.update id change).find? id'
      = (t.find? id').map fun m => if m.id = id then { change m with id := m.id } else m := by
  simp only [find?]
  rw [rows_update, List.find?_map]
  congr 2
  funext m
  show decide ((if m.id = id then { change m with id := m.id } else m).id = id') = _
  split <;> rfl

/-- An update leaves every row in its chat. -/
theorem filter_rows_update (t : MessageTable) (id chatId : Uuid) {change : Message → Message}
    (hchat : ∀ m, (change m).chatId = m.chatId) :
    (t.update id change).rows.filter (·.chatId = chatId)
      = (t.rows.filter (·.chatId = chatId)).map fun m =>
          if m.id = id then { change m with id := m.id } else m := by
  rw [rows_update, List.filter_map]
  congr 1
  refine List.filter_congr fun m _ => ?_
  show decide ((if m.id = id then { change m with id := m.id } else m).chatId = chatId) = _
  split
  · show decide ((change m).chatId = chatId) = _
    rw [hchat]
  · rfl

/-- A new row is found under its id, and no other id is affected. -/
theorem find?_create (t : MessageTable) (d : MessageDraft) (id : Uuid) :
    (t.create d).find? id
      = if t.supply.id t.inserted = id then some (t.newRow d) else t.find? id := by
  simp only [find?]
  rw [rows_create, List.find?_append]
  by_cases hid : t.supply.id t.inserted = id
  · rw [if_pos hid]
    have hnone : t.rows.find? (·.id = id) = none := by
      rw [List.find?_eq_none]
      intro m hm hmid
      exact t.next_id_fresh (List.mem_map.mpr ⟨m, hm, (of_decide_eq_true hmid).trans hid.symm⟩)
    have hnew : (t.newRow d).id = id := hid
    simp [hnone, hnew]
  · rw [if_neg hid]
    have hnew : (t.newRow d).id ≠ id := hid
    simp [hnew]

/-- A row is found under its id: ids do not repeat. -/
theorem find?_of_mem (t : MessageTable) {m : Message} (hm : m ∈ t.rows) :
    t.find? m.id = some m := by
  simp only [find?]
  cases h : t.rows.find? (·.id = m.id) with
  | none => exact absurd (decide_eq_true rfl) (List.find?_eq_none.mp h m hm)
  | some m' =>
      have hid : m'.id = m.id := by simpa using List.find?_some h
      rw [List.inj_on_of_nodup_map t.nodup (List.mem_of_find?_eq_some h) hm hid]

/-- Only issued ids are found. -/
theorem find?_eq_none_of_not_issued (t : MessageTable) {n : ℕ} (hn : t.inserted ≤ n) :
    t.find? (t.supply.id n) = none := by
  simp only [find?]
  rw [List.find?_eq_none]
  intro m hm hmid
  obtain ⟨n', hn', hid⟩ := t.issued m hm
  have : n' = n := t.supply.id_injective (hid.symm.trans (of_decide_eq_true hmid))
  omega

end MessageTable

/-! ## Settings and events -/

/-- `ContextSettings`, with what `environment.schema.ts` demands of each value and its refinement
`CHAT_CONTEXT_TARGET_RATIO < CHAT_CONTEXT_SUMMARIZE_AT_RATIO`. -/
structure ContextSettings where
  summarizeAtRatio : ℚ
  targetRatio : ℚ
  keepRecentMessages : ℕ
  charsPerToken : ℚ
  summaryMaxRatio : ℚ
  summarizeAt_mem : 0 < summarizeAtRatio ∧ summarizeAtRatio < 1
  target_mem : 0 < targetRatio ∧ targetRatio < 1
  target_lt_summarizeAt : targetRatio < summarizeAtRatio
  charsPerToken_pos : 0 < charsPerToken
  summaryMax_mem : 0 < summaryMaxRatio ∧ summaryMaxRatio < 1 / 2

/-- The defaults of `environment.schema.ts`. -/
def ContextSettings.defaults : ContextSettings where
  summarizeAtRatio := 3 / 4
  targetRatio := 2 / 5
  keepRecentMessages := 4
  charsPerToken := 3
  summaryMaxRatio := 1 / 10
  summarizeAt_mem := by norm_num
  target_mem := by norm_num
  target_lt_summarizeAt := by norm_num
  charsPerToken_pos := by norm_num
  summaryMax_mem := by norm_num

inductive ChatHistoryEntry where
  | User (id : Uuid) (content : JsString)
  | Assistant (id : Uuid) (content : JsString) (model : String)
  deriving Repr, DecidableEq

namespace ChatHistoryEntry

def id : ChatHistoryEntry → Uuid
  | User id _ => id
  | Assistant id _ _ => id

def role : ChatHistoryEntry → MessageRole
  | User .. => .User
  | Assistant .. => .Assistant

def content : ChatHistoryEntry → JsString
  | User _ content => content
  | Assistant _ content _ => content

end ChatHistoryEntry

/-- The role of a message sent to Ollama. -/
inductive OllamaRole where
  | System
  | User
  | Assistant
  deriving Repr, DecidableEq

structure OllamaHistoryMessage where
  role : OllamaRole
  content : JsString
  deriving Repr, DecidableEq

structure OllamaChatChunk where
  delta : JsString
  done : Bool
  promptTokens : Option ℤ
  completionTokens : Option ℤ
  finishReason : Option String
  deriving Repr, DecidableEq

structure OllamaCompletion where
  content : JsString
  promptTokens : Option ℤ
  completionTokens : Option ℤ
  deriving Repr, DecidableEq

structure ChatContext where
  usedTokens : Option ℤ
  maxTokens : ℕ
  summary : Option JsString
  summarizedThroughMessageId : Option Uuid
  deriving Repr, DecidableEq

/-- `ChatMessage`, the message of the transport contracts. -/
structure ChatMessage where
  id : Uuid
  role : String
  status : String
  content : JsString
  model : Option String
  tokenCount : Option ℤ
  tokenCountSource : String
  promptTokens : Option ℤ
  completionTokens : Option ℤ
  totalTokens : Option ℤ
  finishReason : Option String
  createdAt : Timestamp
  updatedAt : Timestamp
  deriving Repr, DecidableEq

/-- `ChatStreamEvent`, without the `heartbeat` no handler emits. -/
inductive ChatStreamEvent where
  | StreamStarted (chatId userMessageId assistantMessageId : Uuid) (model : String)
  | ContextSummarizing
  | MessageDelta (assistantMessageId : Uuid) (delta : JsString)
  | MessageCompleted (message : ChatMessage)
  | ContextUpdated (context : ChatContext)
  | StreamError (code message : String)
  | StreamCancelled (assistantMessageId : Uuid)
  deriving Repr, DecidableEq

/-- What a rejected call rejects with, as far as `getPublicStreamError` can tell. -/
inductive JsError where
  /-- A Nest `HttpException`. -/
  | Http (status : ℕ) (message : String)
  /-- An object with a string `code`: a `CodedError`, a Prisma or a network error. -/
  | Coded (code : String) (message : Option String)
  /-- Anything else. -/
  | Other (message : String)
  deriving Repr, DecidableEq

end RagStack
