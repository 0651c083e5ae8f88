import RagStack.Admin.ChatSummaryService
import RagStack.Chats.PromptFits
import Mathlib.Algebra.Order.Floor.Semifield
import Mathlib.Tactic.Linarith

/-!
# How large a request for a summary can be

Both services cut the entries into chunks of `chunkTokens`, leaving `SUMMARY_PROMPT_OVERHEAD_TOKENS`
for everything else in the request.  What this has to cover is counted in characters: the
instructions, the labels of the entries and the blank lines between them.

The overhead is a constant, and the instructions are texts, so whether it suffices depends on how
many characters a token is taken to have, which is a setting.  It depends on the chunk too.  An
entry costs its label and a blank line, and a chunk of many short entries has more of them than a
chunk of one long entry.  So what a budget has to be compared with is the largest request that can
come up, over all lists of entries and all previous summaries.

This maximum is found in two steps.  The longest transcript of a chunk is either one entry that was
cut off, or as many entries as the budget has room for, all but one of them empty; and there are
entries for which it is attained.  The rest of a request has a fixed length, with or without a
previous summary, whose length is bounded by its tokens.

As the worst request exists, the condition on it is necessary as well as sufficient.  The theorem is
an equivalence, for both services, every context window and every setting.

* `longestTranscript` — the longest transcript of a chunk, for a budget and a `charsPerToken`;
  `length_formatTranscript_le` and `exists_longestTranscript` say that it is the maximum.
* `RequestShape` — the fixed texts of a request; `worstRequest` is the estimate of the largest.
* `RequestShape.fits_iff` — all requests of a shape fit exactly when the largest does.
* `summaryRequests_fit_iff` — both services, for every setting and every model.
-/

namespace RagStack

/-! ## Texts and tokens

An estimate is a quotient rounded up, plus an overhead, so bounds on tokens are bounds on
characters. -/

section Estimates

variable {charsPerToken : ℚ} (hpos : 0 < charsPerToken)
include hpos

/-- A text of at most so many tokens. -/
lemma ceil_length_le_iff {length tokens : ℕ} :
    ⌈(length : ℚ) / charsPerToken⌉₊ ≤ tokens ↔ (length : ℚ) ≤ tokens * charsPerToken := by
  rw [Nat.ceil_le, div_le_iff₀ hpos]

/-- The estimate of a text is bounded by its length. -/
lemma estimateMessageTokens_le_iff {text : JsString} {tokens : ℕ} :
    estimateMessageTokens text charsPerToken ≤ tokens
      ↔ messageOverheadTokens ≤ tokens
        ∧ text.length ≤ ⌊((tokens - messageOverheadTokens : ℕ) : ℚ) * charsPerToken⌋₊ := by
  rw [Nat.le_floor_iff (by positivity), ← ceil_length_le_iff hpos]
  simp only [estimateMessageTokens]
  omega

end Estimates

/-! ## The transcript of a chunk

The upper bound is by induction on the entries.  That it is attained takes a list of replies with
the right lengths. -/

/-- `User: ` or `Assistant: `. -/
def entryLabel (entry : ChatHistoryEntry) : JsString :=
  (match entry.role with
    | .User => js "User"
    | .Assistant => js "Assistant") ++ js ": "

lemma length_entryLabel_le (entry : ChatHistoryEntry) : (entryLabel entry).length ≤ 11 := by
  cases entry with
  | User => exact Nat.le_of_ble_eq_true rfl
  | Assistant => exact le_rfl

lemma length_entryLabel_assistant (id : Uuid) (content : JsString) (model : String) :
    (entryLabel (.Assistant id content model)).length = 11 := rfl

/-- A transcript is as long as its entries, each with its label and with two line breaks, except
behind the last. -/
lemma length_formatTranscript {entries : List ChatHistoryEntry} (hne : entries ≠ [])
    (maxEntryChars : ℚ) :
    (formatTranscript entries maxEntryChars).length + 2
      = (entries.map fun entry =>
          (entryLabel entry).length + (truncate entry.content maxEntryChars).length + 2).sum := by
  have hparts : (entries.map fun entry =>
      entryLabel entry ++ truncate entry.content maxEntryChars) ≠ [] := by simpa using hne
  refine (JsString.length_join (js "\n\n") hparts).trans ?_
  rw [List.map_map]
  exact congrArg List.sum (List.map_congr_left fun entry _ =>
    congrArg (· + 2) (List.length_append))

/-- A truncated text is not longer than the text, and by at most a character longer than the
limit. -/
lemma length_truncate_le (text : JsString) {maxChars : ℚ} (hmax : 0 ≤ maxChars) :
    (truncate text maxChars).length ≤ min text.length (⌊maxChars⌋₊ + 1) := by
  simp only [truncate]
  split
  · rename_i hlong
    have hlt : ⌊maxChars⌋₊ < text.length := (Nat.floor_lt hmax).mpr hlong
    have hellipsis : (js "…").length = 1 := by decide
    rw [List.length_append, JsString.sliceTo, List.length_take, hellipsis]
    omega
  · rename_i hshort
    have hle : text.length ≤ ⌊maxChars⌋₊ := Nat.le_floor (not_lt.mp hshort)
    omega

/-- A text that is too long leaves the limit and an ellipsis. -/
lemma length_truncate_of_lt {text : JsString} {maxChars : ℚ} (hmax : 0 ≤ maxChars)
    (h : maxChars < text.length) : (truncate text maxChars).length = ⌊maxChars⌋₊ + 1 := by
  have hlt : ⌊maxChars⌋₊ < text.length := (Nat.floor_lt hmax).mpr h
  have hellipsis : (js "…").length = 1 := by decide
  rw [truncate, if_pos h, List.length_append, JsString.sliceTo, List.length_take, hellipsis]
  omega

lemma truncate_of_le {text : JsString} {maxChars : ℚ} (h : (text.length : ℚ) ≤ maxChars) :
    truncate text maxChars = text := by
  rw [truncate, if_neg (not_lt.mpr h)]

/-- The longest transcript of a chunk: one entry that is cut off, or as many entries as the budget
has room for, all but one of them empty. -/
def longestTranscript (budget : ℕ) (charsPerToken : ℚ) : ℕ :=
  max (⌊(budget : ℚ) * charsPerToken⌋₊ + 12)
    (⌊((budget % 4 : ℕ) : ℚ) * charsPerToken⌋₊ + 13 * (budget / 4) - 2)

def replies (texts : List JsString) : List ChatHistoryEntry :=
  texts.map (.Assistant 1 · "llama3.2:1b")

section Transcript

variable {charsPerToken : ℚ} (hpos : 0 < charsPerToken) {budget : ℕ}
include hpos

/-- The texts of a chunk fill what its size leaves to them. -/
lemma sum_length_le (entries : List ChatHistoryEntry) :
    (((entries.map fun entry => entry.content.length + 13).sum : ℕ) : ℚ)
        + 4 * entries.length * charsPerToken
      ≤ chunkSize charsPerToken entries * charsPerToken + 13 * entries.length := by
  induction entries with
  | nil => simp [chunkSize]
  | cons entry entries ih =>
      have hentry : (entry.content.length : ℚ)
          ≤ ⌈(entry.content.length : ℚ) / charsPerToken⌉₊ * charsPerToken :=
        (ceil_length_le_iff hpos).mp le_rfl
      have hsize : chunkSize charsPerToken (entry :: entries)
          = ⌈(entry.content.length : ℚ) / charsPerToken⌉₊ + 4 + chunkSize charsPerToken entries := by
        simp [chunkSize, estimateMessageTokens, messageOverheadTokens]
      rw [hsize]
      simp only [List.map_cons, List.sum_cons, List.length_cons, Nat.cast_add, Nat.cast_one,
        Nat.cast_ofNat]
      linarith

omit hpos in
lemma length_mul_le_chunkSize (entries : List ChatHistoryEntry) :
    4 * entries.length ≤ chunkSize charsPerToken entries := by
  induction entries with
  | nil => simp
  | cons entry entries ih =>
      simp only [chunkSize, List.map_cons, List.sum_cons, List.length_cons, estimateMessageTokens,
        messageOverheadTokens] at ih ⊢
      omega

/-- A label with its line breaks takes 13 characters, and four tokens are counted for it.  If these
are less than 13 characters, many entries are worst, otherwise few. -/
lemma le_longestTranscript {length count : ℕ} (hcount : 4 * count ≤ budget)
    (h : (length : ℚ) + 2 + 4 * count * charsPerToken ≤ budget * charsPerToken + 13 * count) :
    length ≤ longestTranscript budget charsPerToken := by
  rcases le_total (13 / 4) charsPerToken with hlarge | hsmall
  · have hlabels := mul_le_mul_of_nonneg_left hlarge (Nat.cast_nonneg (α := ℚ) count)
    have hfloor : length + 2 ≤ ⌊(budget : ℚ) * charsPerToken⌋₊ := by
      refine Nat.le_floor ?_
      push_cast
      linarith
    refine le_trans ?_ (le_max_left _ _)
    omega
  · have hdiv : (budget : ℚ) * charsPerToken
        = (4 * (budget / 4 : ℕ) + (budget % 4 : ℕ)) * charsPerToken := by
      congr 1
      exact_mod_cast (Nat.div_add_mod budget 4).symm
    have hroom : (0 : ℚ) ≤ (budget / 4 : ℕ) - count := by
      have hle : count ≤ budget / 4 := by omega
      exact sub_nonneg.mpr (by exact_mod_cast hle)
    have hlabels := mul_le_mul_of_nonneg_left hsmall hroom
    have hfloor : length + 2
        ≤ ⌊((budget % 4 : ℕ) : ℚ) * charsPerToken⌋₊ + 13 * (budget / 4) := by
      rw [← Nat.floor_add_natCast (by positivity)]
      refine Nat.le_floor ?_
      push_cast
      linarith
    refine le_trans ?_ (le_max_right _ _)
    omega

/-- **No transcript of a chunk is longer.** -/
lemma length_formatTranscript_le {chunk : List ChatHistoryEntry}
    (hchunk : IsChunk budget charsPerToken chunk) :
    (formatTranscript chunk (budget * charsPerToken)).length
      ≤ longestTranscript budget charsPerToken := by
  have hmax : 0 ≤ (budget : ℚ) * charsPerToken := by positivity
  have hlength := length_formatTranscript hchunk.1 (budget * charsPerToken)
  rcases hchunk.2 with hone | hsize
  · obtain ⟨entry, rfl⟩ := List.length_eq_one_iff.mp hone
    have hlabel := length_entryLabel_le entry
    have htruncate := length_truncate_le entry.content hmax
    simp only [List.map_cons, List.map_nil, List.sum_cons, List.sum_nil] at hlength
    refine le_trans ?_ (le_max_left _ _)
    omega
  · have htexts : (formatTranscript chunk (budget * charsPerToken)).length + 2
        ≤ (chunk.map fun entry => entry.content.length + 13).sum := by
      rw [hlength]
      refine List.sum_le_sum fun entry _ => ?_
      have hlabel := length_entryLabel_le entry
      have htruncate := length_truncate_le entry.content hmax
      omega
    have hcast : ((formatTranscript chunk (budget * charsPerToken)).length : ℚ) + 2
        ≤ ((chunk.map fun entry => entry.content.length + 13).sum : ℕ) := by exact_mod_cast htexts
    have hfill := sum_length_le hpos chunk
    have hbudget : (chunkSize charsPerToken chunk : ℚ) * charsPerToken ≤ budget * charsPerToken :=
      mul_le_mul_of_nonneg_right hsize hpos.le
    exact le_longestTranscript hpos
      ((length_mul_le_chunkSize chunk).trans (by exact_mod_cast hsize)) (by linarith)

omit hpos in
lemma length_formatTranscript_replies {texts : List JsString} (hne : texts ≠ [])
    (maxEntryChars : ℚ) :
    (formatTranscript (replies texts) maxEntryChars).length + 2
      = (texts.map fun text => (truncate text maxEntryChars).length + 13).sum := by
  rw [replies, length_formatTranscript (by simpa using hne), List.map_map]
  refine congrArg List.sum (List.map_congr_left fun text _ => ?_)
  show (entryLabel (.Assistant 1 text "llama3.2:1b")).length + (truncate text _).length + 2 = _
  rw [length_entryLabel_assistant]
  omega

lemma length_formatTranscript_cutOff (budget : ℕ) :
    (formatTranscript (replies [List.replicate (⌊(budget : ℚ) * charsPerToken⌋₊ + 1) 0x61])
        (budget * charsPerToken)).length
      = ⌊(budget : ℚ) * charsPerToken⌋₊ + 12 := by
  have hlonger : (budget : ℚ) * charsPerToken
      < (List.replicate (⌊(budget : ℚ) * charsPerToken⌋₊ + 1) (0x61 : UInt16)).length := by
    rw [List.length_replicate]
    push_cast
    exact Nat.lt_floor_add_one _
  have hlength := length_formatTranscript_replies (List.cons_ne_nil
    (List.replicate (⌊(budget : ℚ) * charsPerToken⌋₊ + 1) (0x61 : UInt16)) [])
    (budget * charsPerToken)
  rw [List.map_cons, List.map_nil, List.sum_singleton,
    length_truncate_of_lt (by positivity) hlonger] at hlength
  omega

/-- A reply that fills what is left over, and empty ones. -/
lemma isChunk_mostlyEmpty {more : ℕ} (hcount : budget / 4 = more + 1) :
    IsChunk budget charsPerToken (replies
        (List.replicate ⌊((budget % 4 : ℕ) : ℚ) * charsPerToken⌋₊ 0x61 :: List.replicate more []))
      ∧ (formatTranscript (replies
          (List.replicate ⌊((budget % 4 : ℕ) : ℚ) * charsPerToken⌋₊ 0x61
            :: List.replicate more [])) (budget * charsPerToken)).length
        = ⌊((budget % 4 : ℕ) : ℚ) * charsPerToken⌋₊ + 13 * (budget / 4) - 2 := by
  have hfloor : (⌊((budget % 4 : ℕ) : ℚ) * charsPerToken⌋₊ : ℚ)
      ≤ (budget % 4 : ℕ) * charsPerToken := Nat.floor_le (by positivity)
  refine ⟨⟨by simp [replies], .inr ?_⟩, ?_⟩
  · have hfirst : ⌈(⌊((budget % 4 : ℕ) : ℚ) * charsPerToken⌋₊ : ℚ) / charsPerToken⌉₊
        ≤ budget % 4 := (ceil_length_le_iff hpos).mpr hfloor
    have hsize : chunkSize charsPerToken (replies
          (List.replicate ⌊((budget % 4 : ℕ) : ℚ) * charsPerToken⌋₊ 0x61 :: List.replicate more []))
        = ⌈(⌊((budget % 4 : ℕ) : ℚ) * charsPerToken⌋₊ : ℚ) / charsPerToken⌉₊ + 4 + more * 4 := by
      simp [chunkSize, replies, estimateMessageTokens, messageOverheadTokens,
        ChatHistoryEntry.content]
    refine Nat.cast_le.mpr ?_
    omega
  · have hshort : ((List.replicate ⌊((budget % 4 : ℕ) : ℚ) * charsPerToken⌋₊
        (0x61 : UInt16)).length : ℚ) ≤ budget * charsPerToken := by
      rw [List.length_replicate]
      refine hfloor.trans (mul_le_mul_of_nonneg_right ?_ hpos.le)
      exact_mod_cast Nat.mod_le budget 4
    have hempty : (([] : JsString).length : ℚ) ≤ budget * charsPerToken := by
      rw [List.length_nil, Nat.cast_zero]
      positivity
    have hlength := length_formatTranscript_replies (List.cons_ne_nil
      (List.replicate ⌊((budget % 4 : ℕ) : ℚ) * charsPerToken⌋₊ (0x61 : UInt16))
      (List.replicate more [])) (budget * charsPerToken)
    rw [List.map_cons, List.sum_cons, truncate_of_le hshort, List.length_replicate,
      List.map_replicate, truncate_of_le hempty, List.sum_replicate_nat, List.length_nil] at hlength
    omega

/-- **Some transcript of a chunk is as long.** -/
lemma exists_longestTranscript (budget : ℕ) :
    ∃ chunk, IsChunk budget charsPerToken chunk
      ∧ (formatTranscript chunk (budget * charsPerToken)).length
        = longestTranscript budget charsPerToken := by
  rcases le_total (⌊((budget % 4 : ℕ) : ℚ) * charsPerToken⌋₊ + 13 * (budget / 4) - 2)
    (⌊(budget : ℚ) * charsPerToken⌋₊ + 12) with hfew | hmany
  · refine ⟨replies [List.replicate (⌊(budget : ℚ) * charsPerToken⌋₊ + 1) 0x61],
      ⟨by simp [replies], .inl (by simp [replies])⟩, ?_⟩
    rw [longestTranscript, max_eq_left hfew]
    exact length_formatTranscript_cutOff hpos budget
  · rcases hcount : budget / 4 with _ | more
    · -- without room for an entry both are zero
      have hmod : budget % 4 = budget := by omega
      rw [hmod, hcount] at hmany
      omega
    · obtain ⟨hchunk, hlength⟩ := isChunk_mostlyEmpty hpos hcount
      exact ⟨_, hchunk, by rw [hlength, longestTranscript, max_eq_right hmany]⟩

end Transcript

/-! ## Requests

The two services differ in their texts, and a shape is what the lengths of these are. -/

/-- A request for a summary: instructions, and a text around the transcript, of fixed lengths
without and with a previous summary. -/
structure RequestShape where
  build : Option JsString → List ChatHistoryEntry → ℚ → List OllamaHistoryMessage
  instructions : JsString
  first : ℕ
  later : ℕ
  build_eq : ∀ previous entries maxEntryChars, ∃ body,
    build previous entries maxEntryChars = [⟨.System, instructions⟩, ⟨.User, body⟩]
      ∧ body.length = (previous.elim first fun text => later + text.length)
        + (formatTranscript entries maxEntryChars).length

/-- The request of `summarize`. -/
def notesRequest : RequestShape where
  build := buildSummaryRequest
  instructions := summaryInstructions
  first := (js "Messages to take notes on:\n\n").length
  later := (js "Existing notes:\n").length + (js "\n\nNew messages:\n").length
  build_eq := by
    intro previous entries maxEntryChars
    refine ⟨_, rfl, ?_⟩
    cases previous with
    | none => simp
    | some text =>
        simp only [List.length_append, Option.elim_some]
        omega

/-- The request of `generate`. -/
def overviewRequest : RequestShape where
  build := buildAdminSummaryRequest
  instructions := adminSummaryInstructions
  first := (js "Conversation transcript:\n<transcript>\n").length
    + (js "\n</transcript>\n\n").length + transcriptNotice.length
    + (js " Write the administrator overview now. ").length
    + (js "Cover every topic from start to end, not only the last message.").length
  later := (js "Existing overview:\n<overview>\n").length
    + (js "\n</overview>\n\nNew messages:\n<transcript>\n").length
    + (js "\n</transcript>\n\n").length + transcriptNotice.length
    + (js " Write the updated administrator overview now, as one overview covering both.").length
  build_eq := by
    intro previous entries maxEntryChars
    refine ⟨_, rfl, ?_⟩
    cases previous with
    | none =>
        simp only [List.length_append, Option.elim_none]
        omega
    | some text =>
        simp only [List.length_append, Option.elim_some]
        omega

namespace RequestShape

variable (shape : RequestShape)

/-- The longest text around a transcript: with a previous summary of `summaryTokens`, where one
can be as small as that. -/
def longestFrame (summaryTokens : ℕ) (charsPerToken : ℚ) : ℕ :=
  if messageOverheadTokens ≤ summaryTokens then
    max shape.first
      (shape.later + ⌊((summaryTokens - messageOverheadTokens : ℕ) : ℚ) * charsPerToken⌋₊)
  else shape.first

/-- The estimate of the largest request. -/
def worstRequest (summaryTokens budget : ℕ) (charsPerToken : ℚ) : ℕ :=
  estimateMessageTokens shape.instructions charsPerToken
    + (⌈((shape.longestFrame summaryTokens charsPerToken
        + longestTranscript budget charsPerToken : ℕ) : ℚ) / charsPerToken⌉₊
      + messageOverheadTokens)

lemma estimateMessages_build (previous : Option JsString) (entries : List ChatHistoryEntry)
    (maxEntryChars charsPerToken : ℚ) :
    estimateMessages (shape.build previous entries maxEntryChars) charsPerToken
      = estimateMessageTokens shape.instructions charsPerToken
        + (⌈((previous.elim shape.first (fun text => shape.later + text.length)
            + (formatTranscript entries maxEntryChars).length : ℕ) : ℚ) / charsPerToken⌉₊
          + messageOverheadTokens) := by
  obtain ⟨body, hbuild, hlength⟩ := shape.build_eq previous entries maxEntryChars
  rw [hbuild, ← hlength]
  simp [estimateMessages, estimateMessageTokens]

/-- The instructions are part of every request. -/
lemma estimate_instructions_le (previous : Option JsString) (entries : List ChatHistoryEntry)
    (maxEntryChars charsPerToken : ℚ) :
    estimateMessageTokens shape.instructions charsPerToken
      ≤ estimateMessages (shape.build previous entries maxEntryChars) charsPerToken := by
  rw [estimateMessages_build]
  exact Nat.le_add_right _ _

section Frame

variable {charsPerToken : ℚ} (hpos : 0 < charsPerToken)
include hpos

lemma frame_le {previous : Option JsString} {summaryTokens : ℕ}
    (hprevious : ∀ text ∈ previous, estimateMessageTokens text charsPerToken ≤ summaryTokens) :
    previous.elim shape.first (fun text => shape.later + text.length)
      ≤ shape.longestFrame summaryTokens charsPerToken := by
  simp only [longestFrame]
  cases previous with
  | none => simp only [Option.elim_none]; split <;> omega
  | some text =>
      obtain ⟨hoverhead, hlength⟩ := (estimateMessageTokens_le_iff hpos).mp (hprevious text rfl)
      rw [if_pos hoverhead]
      simp only [Option.elim_some]
      omega

lemma exists_frame (summaryTokens : ℕ) :
    ∃ previous : Option JsString,
      (∀ text ∈ previous, estimateMessageTokens text charsPerToken ≤ summaryTokens)
        ∧ previous.elim shape.first (fun text => shape.later + text.length)
          = shape.longestFrame summaryTokens charsPerToken := by
  simp only [longestFrame]
  split
  · rename_i hoverhead
    rcases le_total (shape.later
      + ⌊((summaryTokens - messageOverheadTokens : ℕ) : ℚ) * charsPerToken⌋₊) shape.first
      with hfirst | hlater
    · exact ⟨none, by simp, by simp [max_eq_left hfirst]⟩
    · refine ⟨some (List.replicate ⌊((summaryTokens - messageOverheadTokens : ℕ) : ℚ)
        * charsPerToken⌋₊ 0x61), ?_, by simp [max_eq_right hlater]⟩
      rintro text ⟨⟩
      exact (estimateMessageTokens_le_iff hpos).mpr ⟨hoverhead, by simp⟩
  · exact ⟨none, by simp, rfl⟩

/-- **All requests of a shape fit exactly when the largest does.** -/
theorem fits_iff (summaryTokens budget output limit : ℕ) :
    (∀ (entries : List ChatHistoryEntry) (previous : Option JsString),
        (∀ text ∈ previous, estimateMessageTokens text charsPerToken ≤ summaryTokens) →
        ∀ chunk ∈ chunkEntries entries budget charsPerToken,
          estimateMessages (shape.build previous chunk (budget * charsPerToken)) charsPerToken
            + output ≤ limit)
      ↔ shape.worstRequest summaryTokens budget charsPerToken + output ≤ limit := by
  constructor
  · intro hall
    obtain ⟨previous, hprevious, hframe⟩ := shape.exists_frame hpos summaryTokens
    obtain ⟨chunk, hchunk, hlength⟩ := exists_longestTranscript hpos budget
    have h := hall chunk previous hprevious chunk
      (by simp [chunkEntries_of_isChunk budget charsPerToken hchunk])
    rwa [estimateMessages_build, hframe, hlength] at h
  · intro hworst entries previous hprevious chunk hchunk
    refine le_trans ?_ hworst
    rw [estimateMessages_build]
    have hframe := shape.frame_le hpos hprevious
    have hlength := length_formatTranscript_le hpos
      (isChunk_of_mem_chunkEntries budget charsPerToken hchunk)
    have hceil : ⌈((previous.elim shape.first (fun text => shape.later + text.length)
          + (formatTranscript chunk (budget * charsPerToken)).length : ℕ) : ℚ) / charsPerToken⌉₊
        ≤ ⌈((shape.longestFrame summaryTokens charsPerToken
          + longestTranscript budget charsPerToken : ℕ) : ℚ) / charsPerToken⌉₊ := by
      refine Nat.ceil_mono (div_le_div_of_nonneg_right ?_ hpos.le)
      exact_mod_cast Nat.add_le_add hframe hlength
    simp only [worstRequest]
    omega

end Frame

end RequestShape

/-! ## Both services -/

/-- The largest requests fit a model, each with the output reserved for it. -/
def WorstRequestsFit (maxContext : ℕ) (settings : ContextSettings) : Prop :=
  let summaryTokens := ⌊(maxContext : ℚ) * settings.summaryMaxRatio⌋₊
  let budget := max 1 (maxContext - 2 * summaryTokens - summaryPromptOverheadTokens)
  notesRequest.worstRequest summaryTokens budget settings.charsPerToken + summaryTokens
      ≤ maxContext
    ∧ overviewRequest.worstRequest summaryTokens budget settings.charsPerToken
        + min summaryTokens adminSummaryMaxTokens ≤ maxContext

instance (maxContext : ℕ) (settings : ContextSettings) :
    Decidable (WorstRequestsFit maxContext settings) :=
  inferInstanceAs (Decidable (_ ∧ _))

/-- **When every request for a summary fits the model.**  For every model and every setting: all
requests, for all entries and all previous summaries, fit with their output exactly when the
largest ones do. -/
theorem summaryRequests_fit_iff (maxContext : ℕ) (settings : ContextSettings) :
    let budget := getContextBudget maxContext settings
    (∀ (entries : List ChatHistoryEntry) (previous : Option JsString),
        (∀ text ∈ previous,
          estimateMessageTokens text settings.charsPerToken ≤ budget.summaryMaxTokens) →
        ∀ chunk ∈ chunkEntries entries budget.chunkTokens settings.charsPerToken,
          estimateMessages (buildSummaryRequest previous chunk
              (budget.chunkTokens * settings.charsPerToken)) settings.charsPerToken
            + budget.summaryMaxTokens ≤ maxContext
          ∧ estimateMessages (buildAdminSummaryRequest previous chunk
              (budget.chunkTokens * settings.charsPerToken)) settings.charsPerToken
            + min budget.summaryMaxTokens adminSummaryMaxTokens ≤ maxContext)
      ↔ WorstRequestsFit maxContext settings := by
  intro budget
  have hnotes := notesRequest.fits_iff settings.charsPerToken_pos budget.summaryMaxTokens
    budget.chunkTokens budget.summaryMaxTokens maxContext
  have hoverview := overviewRequest.fits_iff settings.charsPerToken_pos budget.summaryMaxTokens
    budget.chunkTokens (min budget.summaryMaxTokens adminSummaryMaxTokens) maxContext
  constructor
  · intro hall
    refine ⟨hnotes.mp ?_, hoverview.mp ?_⟩
    · exact fun entries previous hprevious chunk hchunk =>
        (hall entries previous hprevious chunk hchunk).1
    · exact fun entries previous hprevious chunk hchunk =>
        (hall entries previous hprevious chunk hchunk).2
  · rintro ⟨hworstNotes, hworstOverview⟩ entries previous hprevious chunk hchunk
    exact ⟨hnotes.mpr hworstNotes entries previous hprevious chunk hchunk,
      hoverview.mpr hworstOverview entries previous hprevious chunk hchunk⟩

/-- `CHAT_CONTEXT_CHARS_PER_TOKEN`, with the other defaults. -/
def settingsWithChars (charsPerToken : ℚ) (hpos : 0 < charsPerToken) : ContextSettings :=
  { ContextSettings.defaults with charsPerToken, charsPerToken_pos := hpos }

lemma length_summaryInstructions : summaryInstructions.length = 599 := by
  simp only [summaryInstructions]
  repeat rw [js_ofList]
  decide +kernel

/-- With one character per token, the instructions alone are too long for a model of 512 tokens. -/
theorem summaryRequests_tooLong :
    let settings := settingsWithChars 1 (by decide)
    let budget := getContextBudget 512 settings
    [.User 1 (js "Hi")] ∈ chunkEntries [.User 1 (js "Hi")] budget.chunkTokens
        settings.charsPerToken
      ∧ ¬ estimateMessages (buildSummaryRequest none [.User 1 (js "Hi")]
            (budget.chunkTokens * settings.charsPerToken)) settings.charsPerToken
          + budget.summaryMaxTokens ≤ 512 := by
  intro settings budget
  refine ⟨List.mem_singleton.mpr rfl, ?_⟩
  have hinstructions : estimateMessageTokens summaryInstructions settings.charsPerToken = 603 := by
    simp [settings, settingsWithChars, estimateMessageTokens, length_summaryInstructions,
      messageOverheadTokens]
  have hrequest : 603 ≤ estimateMessages (buildSummaryRequest none [.User 1 (js "Hi")]
      (budget.chunkTokens * settings.charsPerToken)) settings.charsPerToken :=
    hinstructions ▸ notesRequest.estimate_instructions_le none _ _ _
  intro hfits
  exact absurd (hrequest.trans ((Nat.le_add_right _ _).trans hfits)) (by decide)

end RagStack
