import RagStack.Chats.ContextWindowHelpers

/-!
# What a summarizer is fed

Two services ask a model for a summary: the context window of a chat, and the overview of the
administrator.  Both send two messages, instructions and a text around a transcript.  That an entry
of the history was *fed* to the model means that its speaker and its content stand in this text, and
that the entries stand there in their order with nothing between them but a blank line.

This is said here without the functions that write the text.  `IsTranscript` is a relation between
entries and texts, with one constructor for the last entry and one for those before it; what a long
entry is cut to is the relation `IsCut`, and the frame around a transcript is given by its three
texts.  The functions of `context-window.helpers.ts` are then shown to satisfy the relation, and it
is the relation that the statements about summaries use.  A builder that dropped an entry, put two
in the wrong order, or cut more than the limit says would not satisfy it.

* `IsCut`, `Shows`, `IsTranscript` — an entry's content, an entry, and the entries of a transcript.
* `RequestFrame`, `RequestFrame.Feeds` — the texts around it, and a request that feeds entries.
* `notesFrame`, `overviewFrame` — the frames of the two services.
* `entryLimit` — how much of an entry is shown: what fills a chunk, so that an entry is cut only if
  it does not fit into a request of its own.
* `buildSummaryRequest_feeds` — the notes of a chat; the overview is in `SummaryChain`.
-/

namespace RagStack

/-! ## Transcripts -/

/-- `shown` is the text, or the part of it for which there is room, and an ellipsis. -/
inductive IsCut (maxChars : ℚ) : JsString → JsString → Prop
  | whole {text : JsString} (hfits : (text.length : ℚ) ≤ maxChars) : IsCut maxChars text text
  | cut {kept rest : JsString} (hlong : maxChars < (kept ++ rest).length)
      (hroom : (kept.length : ℚ) ≤ maxChars) (hmost : maxChars < kept.length + 1) :
      IsCut maxChars (kept ++ rest) (kept ++ js "…")

/-- What a transcript says of an entry: who speaks, and the content, cut if it is too long. -/
inductive Shows (maxChars : ℚ) : ChatHistoryEntry → JsString → Prop
  | user {id : Uuid} {content shown : JsString} (hcut : IsCut maxChars content shown) :
      Shows maxChars (.User id content) (js "User: " ++ shown)
  | assistant {id : Uuid} {content shown : JsString} {model : String}
      (hcut : IsCut maxChars content shown) :
      Shows maxChars (.Assistant id content model) (js "Assistant: " ++ shown)

/-- **The transcript of some entries**: each of them once, in order, with a blank line between two
of them. -/
inductive IsTranscript (maxChars : ℚ) : List ChatHistoryEntry → JsString → Prop
  | none : IsTranscript maxChars [] []
  | last {entry : ChatHistoryEntry} {part : JsString} (hpart : Shows maxChars entry part) :
      IsTranscript maxChars [entry] part
  | cons {entry next : ChatHistoryEntry} {rest : List ChatHistoryEntry} {part text : JsString}
      (hpart : Shows maxChars entry part) (hrest : IsTranscript maxChars (next :: rest) text) :
      IsTranscript maxChars (entry :: next :: rest) (part ++ js "\n\n" ++ text)

/-! ## Requests -/

/-- What a request says besides the transcript: the instructions, and what stands before and behind
the transcript, without and with a previous text. -/
structure RequestFrame where
  instructions : JsString
  before : Option JsString → JsString
  behind : Option JsString → JsString

/-- **The request feeds the entries** to the model, with the previous text: its two messages are
the instructions and the transcript of these entries in its frame. -/
def RequestFrame.Feeds (frame : RequestFrame) (maxChars : ℚ) (previous : Option JsString)
    (entries : List ChatHistoryEntry) (request : List OllamaHistoryMessage) : Prop :=
  ∃ transcript, IsTranscript maxChars entries transcript
    ∧ request = [⟨.System, frame.instructions⟩,
        ⟨.User, frame.before previous ++ transcript ++ frame.behind previous⟩]

/-- The frame of the notes on a chat. -/
def notesFrame : RequestFrame where
  instructions := summaryInstructions
  before
    | none => js "Messages to take notes on:\n\n"
    | some previous => js "Existing notes:\n" ++ previous ++ js "\n\nNew messages:\n"
  behind _ := []

/-- How many characters of an entry are shown to a model: as many as fill a chunk. -/
def entryLimit (settings : ContextSettings) (maxContext : ℕ) : ℚ :=
  (getContextBudget maxContext settings).chunkTokens * settings.charsPerToken

lemma entryLimit_nonneg (settings : ContextSettings) (maxContext : ℕ) :
    0 ≤ entryLimit settings maxContext :=
  mul_nonneg (Nat.cast_nonneg _) settings.charsPerToken_pos.le

/-! ## The functions that write them -/

section Builders

variable {maxChars : ℚ} (hmax : 0 ≤ maxChars)
include hmax

lemma truncate_isCut (text : JsString) : IsCut maxChars text (truncate text maxChars) := by
  simp only [truncate, JsString.sliceTo]
  split
  · rename_i hlong
    have hlt : ⌊maxChars⌋₊ < text.length := (Nat.floor_lt hmax).mpr hlong
    have hkept : (text.take ⌊maxChars⌋₊).length = ⌊maxChars⌋₊ := by
      rw [List.length_take]
      omega
    have hcut : IsCut maxChars (text.take ⌊maxChars⌋₊ ++ text.drop ⌊maxChars⌋₊)
        (text.take ⌊maxChars⌋₊ ++ js "…") := by
      refine .cut ?_ ?_ ?_
      · rwa [List.take_append_drop]
      · rw [hkept]
        exact Nat.floor_le hmax
      · rw [hkept]
        exact Nat.lt_floor_add_one maxChars
    rwa [List.take_append_drop] at hcut
  · rename_i hshort
    exact .whole (not_lt.mp hshort)

lemma formatTranscript_singleton_shows (entry : ChatHistoryEntry) :
    Shows maxChars entry (formatTranscript [entry] maxChars) := by
  cases entry with
  | User id content =>
      simp only [formatTranscript, List.map_cons, List.map_nil, JsString.join_singleton]
      exact .user (truncate_isCut hmax content)
  | Assistant id content model =>
      simp only [formatTranscript, List.map_cons, List.map_nil, JsString.join_singleton]
      exact .assistant (truncate_isCut hmax content)

/-- `formatTranscript` writes a transcript: entry by entry, with an empty line in between. -/
lemma formatTranscript_isTranscript (entries : List ChatHistoryEntry) :
    IsTranscript maxChars entries (formatTranscript entries maxChars) := by
  induction entries with
  | nil => exact .none
  | cons entry entries ih =>
      have hentry := formatTranscript_singleton_shows hmax entry
      cases entries with
      | nil => exact .last hentry
      | cons next rest =>
          have hsplit : formatTranscript (entry :: next :: rest) maxChars
              = formatTranscript [entry] maxChars ++ js "\n\n"
                ++ formatTranscript (next :: rest) maxChars := by
            simp only [formatTranscript, List.map_cons, List.map_nil, JsString.join_singleton,
              JsString.join_cons_cons]
          rw [hsplit]
          exact .cons hentry ih

/-- **The notes on a chat** are asked for with a request that feeds the entries. -/
lemma buildSummaryRequest_feeds (previous : Option JsString) (entries : List ChatHistoryEntry) :
    notesFrame.Feeds maxChars previous entries (buildSummaryRequest previous entries maxChars) := by
  refine ⟨_, formatTranscript_isTranscript hmax entries, ?_⟩
  cases previous with
  | none => simp [buildSummaryRequest, notesFrame]
  | some text => simp [buildSummaryRequest, notesFrame]

end Builders

end RagStack
