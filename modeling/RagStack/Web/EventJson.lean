import RagStack.Core.JsonParse
import RagStack.Chats.StreamController
import RagStack.Web.SseRoundTrip

/-!
# Events as JSON

The data of a `ChatStreamEvent` as the object that `JSON.stringify` gets, and the event as
`applyStreamEvent` reads it from the object that `JSON.parse` returns.

The server has an event with typed data, the client has the value of `JSON.parse` with a type that
it takes on trust.  Between the two are names of fields, nulls, and numbers.  This file writes down
both sides as they are in the source, field by field: what the server puts into the object of an
event, and what the client gets when it looks the fields up.  That they fit together is then a
statement to be proved and not an assumption of the simulation between them.

Ids and times travel as texts.  The client keeps them as they are, so all that matters is that
different ids have different texts, which is a parameter with that property.  Strings of the program
are lists of UTF-16 code units, and JSON can write every one of them, lone surrogates as well, with
escapes.

The last part collects what the event stream needs to know of JSON, for the concrete functions of
the library: the text of an object has no line break, begins with a brace, is read back, and no part
of it before its end is JSON.

* `eventName`, `eventData` — an event as it is written.
* `readEvent` — an event as it is read.
* `readEvent_sentEvent` — what is written is read.
* `isJson_object` — what `consumeSse` needs to know of JSON.
-/

namespace RagStack

/-- The members of an object, in their order. -/
abbrev JsonMembers : Type := List (JsString × Json)

/-- The texts of ids and times, which the client keeps as they are. -/
structure WireTexts where
  uuid : Uuid → JsString
  readUuid : JsString → Uuid
  readUuid_uuid : Function.LeftInverse readUuid uuid
  isoString : Timestamp → JsString
  readIsoString : JsString → Timestamp
  readIsoString_isoString : Function.LeftInverse readIsoString isoString

/-! ## Writing

The members in the order of the source. -/

/-- A value or `null`. -/
def nullable {α : Type} (write : α → Json) : Option α → Json
  | none => .Null
  | some value => write value

def textJson (text : String) : Json := .String (js text)

section Writing

variable (texts : WireTexts)

def WireTexts.uuidJson (id : Uuid) : Json := .String (texts.uuid id)

/-- A `ChatMessage`. -/
def messageJson (message : ChatMessage) : JsonMembers :=
  [(js "id", texts.uuidJson message.id),
    (js "role", textJson message.role),
    (js "status", textJson message.status),
    (js "content", .String message.content),
    (js "model", nullable textJson message.model),
    (js "tokenCount", nullable .Number message.tokenCount),
    (js "tokenCountSource", textJson message.tokenCountSource),
    (js "promptTokens", nullable .Number message.promptTokens),
    (js "completionTokens", nullable .Number message.completionTokens),
    (js "totalTokens", nullable .Number message.totalTokens),
    (js "finishReason", nullable textJson message.finishReason),
    (js "createdAt", .String (texts.isoString message.createdAt)),
    (js "updatedAt", .String (texts.isoString message.updatedAt))]

/-- `event.event`. -/
def eventName : ChatStreamEvent → StreamEventName
  | .StreamStarted .. => .StreamStarted
  | .ContextSummarizing => .ContextSummarizing
  | .MessageDelta .. => .MessageDelta
  | .MessageCompleted _ => .MessageCompleted
  | .ContextUpdated _ => .ContextUpdated
  | .StreamError .. => .StreamError
  | .StreamCancelled _ => .StreamCancelled

/-- `event.data`. -/
def eventData : ChatStreamEvent → JsonMembers
  | .StreamStarted chatId userMessageId assistantMessageId model =>
      [(js "chatId", texts.uuidJson chatId), (js "userMessageId", texts.uuidJson userMessageId),
        (js "assistantMessageId", texts.uuidJson assistantMessageId), (js "model", textJson model)]
  | .ContextSummarizing => []
  | .MessageDelta assistantMessageId delta =>
      [(js "assistantMessageId", texts.uuidJson assistantMessageId), (js "delta", .String delta)]
  | .MessageCompleted message => [(js "message", .Object (messageJson texts message))]
  | .ContextUpdated context =>
      [(js "usedTokens", nullable .Number context.usedTokens),
        (js "maxTokens", .Number context.maxTokens),
        (js "summary", nullable .String context.summary),
        (js "summarizedThroughMessageId",
          nullable texts.uuidJson context.summarizedThroughMessageId)]
  | .StreamError code message => [(js "code", textJson code), (js "message", textJson message)]
  | .StreamCancelled assistantMessageId =>
      [(js "assistantMessageId", texts.uuidJson assistantMessageId),
        (js "status", textJson "cancelled")]

/-- The event as it is sent. -/
def sentEvent (event : ChatStreamEvent) : SseEvent JsonMembers :=
  ⟨js (eventName event).text, eventData texts event⟩

end Writing

/-! ## Reading

A field that is missing or of another type gives no event. -/

/-- `data[key]`. -/
def field (key : String) : JsonMembers → Option Json
  | [] => none
  | member :: members => if member.1 = js key then some member.2 else field key members

def stringOf : Json → Option JsString
  | .String text => some text
  | _ => none

def textOf (value : Json) : Option String := (stringOf value).map (·.toWellFormed)

def numberOf : Json → Option ℤ
  | .Number value => some value
  | _ => none

def objectOf : Json → Option JsonMembers
  | .Object members => some members
  | _ => none

/-- A value or `null`. -/
def orNullOf {α : Type} (read : Json → Option α) : Json → Option (Option α)
  | .Null => some none
  | value => (read value).map some

section Reading

variable (texts : WireTexts)

def uuidOf (value : Json) : Option Uuid := (stringOf value).map texts.readUuid

def timeOf (value : Json) : Option Timestamp := (stringOf value).map texts.readIsoString

/-- A `ChatMessage`. -/
def readMessage (data : JsonMembers) : Option ChatMessage := do
  let id ← uuidOf texts (← field "id" data)
  let role ← textOf (← field "role" data)
  let status ← textOf (← field "status" data)
  let content ← stringOf (← field "content" data)
  let model ← orNullOf textOf (← field "model" data)
  let tokenCount ← orNullOf numberOf (← field "tokenCount" data)
  let tokenCountSource ← textOf (← field "tokenCountSource" data)
  let promptTokens ← orNullOf numberOf (← field "promptTokens" data)
  let completionTokens ← orNullOf numberOf (← field "completionTokens" data)
  let totalTokens ← orNullOf numberOf (← field "totalTokens" data)
  let finishReason ← orNullOf textOf (← field "finishReason" data)
  let createdAt ← timeOf texts (← field "createdAt" data)
  let updatedAt ← timeOf texts (← field "updatedAt" data)
  return {
    id, role, status, content, model, tokenCount, tokenCountSource, promptTokens,
    completionTokens, totalTokens, finishReason, createdAt, updatedAt }

/-- The event that `applyStreamEvent` sees; there is none for other names. -/
def readEvent (event : SseEvent JsonMembers) : Option ChatStreamEvent :=
  if event.event = js "stream.started" then do
    let chatId ← uuidOf texts (← field "chatId" event.data)
    let userMessageId ← uuidOf texts (← field "userMessageId" event.data)
    let assistantMessageId ← uuidOf texts (← field "assistantMessageId" event.data)
    let model ← textOf (← field "model" event.data)
    return .StreamStarted chatId userMessageId assistantMessageId model
  else if event.event = js "message.delta" then do
    let assistantMessageId ← uuidOf texts (← field "assistantMessageId" event.data)
    let delta ← stringOf (← field "delta" event.data)
    return .MessageDelta assistantMessageId delta
  else if event.event = js "context.summarizing" then some .ContextSummarizing
  else if event.event = js "context.updated" then do
    let usedTokens ← orNullOf numberOf (← field "usedTokens" event.data)
    let maxTokens ← numberOf (← field "maxTokens" event.data)
    let summary ← orNullOf stringOf (← field "summary" event.data)
    let through ← orNullOf (uuidOf texts) (← field "summarizedThroughMessageId" event.data)
    return .ContextUpdated ⟨usedTokens, maxTokens.toNat, summary, through⟩
  else if event.event = js "message.completed" then do
    let message ← objectOf (← field "message" event.data)
    return .MessageCompleted (← readMessage texts message)
  else if event.event = js "stream.error" then do
    let code ← textOf (← field "code" event.data)
    let message ← textOf (← field "message" event.data)
    return .StreamError code message
  else if event.event = js "stream.cancelled" then do
    let assistantMessageId ← uuidOf texts (← field "assistantMessageId" event.data)
    return .StreamCancelled assistantMessageId
  else none

end Reading

/-! ## What is written is read

By cases on the event, with one lemma for each kind of value. -/

section RoundTrip

variable {texts : WireTexts}

@[simp] lemma js_inj {s t : String} : js s = js t ↔ s = t := by
  refine ⟨fun h => ?_, congrArg js⟩
  rw [← toWellFormed_js s, h, toWellFormed_js]

@[simp] lemma field_cons (key name : String) (value : Json) (members : JsonMembers) :
    field key ((js name, value) :: members)
      = if name = key then some value else field key members := by
  simp only [field, js_inj]

@[simp] lemma textOf_textJson (text : String) : textOf (textJson text) = some text := by
  simp [textJson, textOf, stringOf, toWellFormed_js]

@[simp] lemma uuidOf_uuidJson (id : Uuid) : uuidOf texts (texts.uuidJson id) = some id := by
  simp [WireTexts.uuidJson, uuidOf, stringOf, texts.readUuid_uuid id]

@[simp] lemma timeOf_isoString (time : Timestamp) :
    timeOf texts (Json.String (texts.isoString time)) = some time := by
  simp [timeOf, stringOf, texts.readIsoString_isoString time]

@[simp] lemma stringOf_string (text : JsString) : stringOf (Json.String text) = some text := rfl

@[simp] lemma numberOf_number (n : ℤ) : numberOf (Json.Number n) = some n := rfl

@[simp] lemma objectOf_object (members : JsonMembers) :
    objectOf (Json.Object members) = some members := rfl

/-- What may be `null` is read if the value is. -/
lemma orNull_nullable {α : Type} {write : α → Json} {read : Json → Option α}
    (hread : ∀ value, read (write value) = some value) (hnull : ∀ value, write value ≠ .Null)
    (value : Option α) : orNullOf read (nullable write value) = some value := by
  cases value with
  | none => rfl
  | some value =>
      have hvalue := hnull value
      have hsome := hread value
      simp only [nullable]
      cases hwrite : write value with
      | Null => exact absurd hwrite hvalue
      | _ =>
          rw [hwrite] at hsome
          simp [orNullOf, hsome]

@[simp] lemma orNull_text (text : Option String) :
    orNullOf textOf (nullable textJson text) = some text :=
  orNull_nullable textOf_textJson (fun _ => Json.noConfusion) text

@[simp] lemma orNull_number (n : Option ℤ) :
    orNullOf numberOf (nullable Json.Number n) = some n :=
  orNull_nullable numberOf_number (fun _ => Json.noConfusion) n

@[simp] lemma orNull_string (text : Option JsString) :
    orNullOf stringOf (nullable Json.String text) = some text :=
  orNull_nullable stringOf_string (fun _ => Json.noConfusion) text

@[simp] lemma orNull_uuid (id : Option Uuid) :
    orNullOf (uuidOf texts) (nullable texts.uuidJson id) = some id :=
  orNull_nullable uuidOf_uuidJson (fun _ => Json.noConfusion) id

@[simp] lemma readMessage_messageJson (message : ChatMessage) :
    readMessage texts (messageJson texts message) = some message := by
  simp [readMessage, messageJson]

/-- **What is written is read.** -/
lemma readEvent_sentEvent (event : ChatStreamEvent) :
    readEvent texts (sentEvent texts event) = some event := by
  cases event <;> simp [readEvent, sentEvent, eventName, eventData, StreamEventName.text]

end RoundTrip

/-! ## JSON, as `consumeSse` uses it

The properties of the library's JSON, on objects. -/

/-- `JSON.stringify(event.data)`. -/
def stringifyObject (data : JsonMembers) : List Char := (Json.Object data).stringify

/-- `JSON.parse`, of which the client expects an object. -/
def parseObject (text : JsString) : Option JsonMembers := (Json.parse text).bind objectOf

lemma isJson_object : IsJson stringifyObject parseObject where
  isLine data := by
    have hprinted := (Json.isPrinted_stringify (.Object data)).toJs
    refine ⟨fun hmem => ?_, fun hmem => ?_⟩
    · exact absurd (hprinted _ hmem) (by decide)
    · exact absurd (hprinted _ hmem) (by decide)
  isObject data := by
    rw [stringifyObject, toJs_object]
    rfl
  roundTrip data := by
    rw [parseObject, stringifyObject, Json.parse_stringify, Option.bind_some, objectOf_object]
  prefixFree data text hpre hne := by
    rw [parseObject, Json.parse_of_prefix hpre hne, Option.bind_none]
  replaced text := by rw [parseObject, Json.parse_replacement, Option.bind_none]

end RagStack
