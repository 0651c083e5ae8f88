import RagStack.Chats.Types
import Mathlib.Data.Rat.Floor
import Mathlib.Algebra.Order.BigOperators.Group.List

/-!
# `context-window.helpers.ts`

Token estimates, the budget of a model, and the three traversals of a history: how much of it to
fold into the summary, how to cut the folded part into chunks, and how much to drop when the prompt
still does not fit.  The ratios, `charsPerToken` and the numbers that estimates are compared with
are exact rationals.  The source computes with doubles; the model is exact.

An estimate counts code units, rounds up for each message, and adds a constant for the message
itself.  So it is a sum over the texts of a prompt, and every traversal is about such sums: it moves
a cursor over the turns until a sum is small enough, and only stops where a turn begins.

The `while` loops keep the source's cursor and run on a fuel of `turns.length`, which they cannot
exhaust: every round moves the cursor forward and the end of the list is a turn boundary.  The
functions that write a request for the summarizer are here as well, with their texts.
-/

namespace RagStack

/-- `MESSAGE_OVERHEAD_TOKENS`. -/
def messageOverheadTokens : ℕ := 4

/-- `SUMMARY_PROMPT_OVERHEAD_TOKENS`. -/
def summaryPromptOverheadTokens : ℕ := 256

/-- `SUMMARY_INSTRUCTIONS`. -/
def summaryInstructions : JsString :=
  JsString.join (js "\n")
    [js "You keep notes about a conversation between a user and an assistant.",
      js "Write the notes as a bulleted list, one fact per line, each line starting with \"- \".",
      js "Keep every bullet from the existing notes unless a newer message contradicts it.",
      js "Add new facts from the new messages. Always keep facts the user states about",
      js "themselves or their situation (names, pets, preferences, numbers, decisions, goals),",
      js "plus key conclusions and open questions. Drop pleasantries and repetition.",
      js "Write in the same language as the conversation.",
      js "Do not answer or continue the conversation. Reply with the bulleted notes only."]

/-- `isDegenerateSummary`: the expression `^[\s\-*•]*\(?\s*(none|n\/a|empty)?\s*\)?[\s.]*$` with
flag `i`. -/
def isDegenerateSummary (text : JsString) : Bool :=
  let s := RegularExpression.star (JsString.anyOf JsString.whitespace)
  let word := JsString.ignoringCase "none" + JsString.ignoringCase "n/a"
    + JsString.ignoringCase "empty"
  RegularExpression.rmatch
    (RegularExpression.star (JsString.anyOf (JsString.whitespace ++ js "-*•"))
      * JsString.optional (JsString.anyOf (js "(")) * s * JsString.optional word * s
      * JsString.optional (JsString.anyOf (js ")"))
      * RegularExpression.star (JsString.anyOf (JsString.whitespace ++ js ".")))
    text

structure ContextBudget where
  trigger : ℕ
  target : ℕ
  summaryMaxTokens : ℕ
  chunkTokens : ℕ
  deriving Repr, DecidableEq

/-- `getContextBudget`.  Where the subtraction of the source goes below zero, the one on `ℕ` is
zero, and the maximum with `1` is the same. -/
def getContextBudget (maxContext : ℕ) (settings : ContextSettings) : ContextBudget :=
  let summaryMaxTokens := ⌊(maxContext : ℚ) * settings.summaryMaxRatio⌋₊
  { trigger := ⌊(maxContext : ℚ) * settings.summarizeAtRatio⌋₊
    target := ⌊(maxContext : ℚ) * settings.targetRatio⌋₊
    summaryMaxTokens := summaryMaxTokens
    chunkTokens := max 1 (maxContext - 2 * summaryMaxTokens - summaryPromptOverheadTokens) }

def estimateMessageTokens (text : JsString) (charsPerToken : ℚ) : ℕ :=
  ⌈(text.length : ℚ) / charsPerToken⌉₊ + messageOverheadTokens

def formatSummaryMessage (summary : JsString) : JsString :=
  js "Summary of the earlier conversation:\n" ++ summary

def estimatePromptTokens (summary : Option JsString) (turns : List ChatHistoryEntry)
    (content : JsString) (charsPerToken : ℚ) : ℕ :=
  (((JsString.truthy summary).map formatSummaryMessage).toList ++ turns.map (·.content) ++ [content]).foldl
    (fun total text => total + estimateMessageTokens text charsPerToken) 0

def needsSummarization (estimate : ℕ) (lastReportedTokens : Option ℤ) (contentTokens trigger : ℕ) :
    Bool :=
  let reported := match lastReportedTokens with
    | none => 0
    | some tokens => tokens + contentTokens
  max (estimate : ℤ) reported > trigger

def entriesAfter (history : List ChatHistoryEntry) (messageId : Option Uuid) :
    List ChatHistoryEntry :=
  match messageId with
  | none => history
  | some messageId =>
      match history.findIdx? (·.id = messageId) with
      | none => history
      | some index => history.drop (index + 1)

def isTurnBoundary (turns : List ChatHistoryEntry) (index : ℕ) : Bool :=
  index = turns.length || turns[index]?.map (·.role) == some .User

/-- The loop of `selectTurnsToFold` over the remaining indices, `fold` being the best so far. -/
def foldLoop (turns : List ChatHistoryEntry) (content : JsString)
    (target summaryTokens charsPerToken : ℚ) : List ℕ → ℕ → ℕ
  | [], fold => fold
  | index :: indices, fold =>
      if isTurnBoundary turns index then
        if summaryTokens + estimatePromptTokens none (turns.drop index) content charsPerToken
            ≤ target then index
        else foldLoop turns content target summaryTokens charsPerToken indices index
      else foldLoop turns content target summaryTokens charsPerToken indices fold

def selectTurnsToFold (turns : List ChatHistoryEntry) (content : JsString)
    (keepRecent : ℕ) (target summaryTokens charsPerToken : ℚ) : ℕ :=
  let maxFoldable := turns.length - keepRecent
  foldLoop turns content target summaryTokens charsPerToken (List.range' 1 maxFoldable) 0

/-- `while (!isTurnBoundary(turns, start)) start += 1`. -/
def skipToBoundary (turns : List ChatHistoryEntry) : ℕ → ℕ → ℕ
  | 0, start => start
  | fuel + 1, start =>
      if isTurnBoundary turns start then start else skipToBoundary turns fuel (start + 1)

/-- The outer loop of `dropOldestTurns`: the cursor it ends with. -/
def dropLoop (summary : Option JsString) (turns : List ChatHistoryEntry) (content : JsString)
    (charsPerToken limit : ℚ) : ℕ → ℕ → ℕ
  | 0, start => start
  | fuel + 1, start =>
      if start < turns.length
          ∧ limit < estimatePromptTokens summary (turns.drop start) content charsPerToken then
        dropLoop summary turns content charsPerToken limit fuel
          (skipToBoundary turns turns.length (start + 1))
      else start

def dropOldestTurns (summary : Option JsString) (turns : List ChatHistoryEntry)
    (content : JsString) (charsPerToken limit : ℚ) : List ChatHistoryEntry :=
  turns.drop (dropLoop summary turns content charsPerToken limit turns.length 0)

/-- The loop of `chunkEntries`: finished chunks, the chunk being filled and its size. -/
def chunkLoop (budget charsPerToken : ℚ) :
    List ChatHistoryEntry → List (List ChatHistoryEntry) → List ChatHistoryEntry → ℕ →
      List (List ChatHistoryEntry)
  | [], chunks, current, _ => if 0 < current.length then chunks ++ [current] else chunks
  | entry :: entries, chunks, current, size =>
      let cost := estimateMessageTokens entry.content charsPerToken
      if 0 < current.length ∧ budget < (size + cost : ℕ) then
        chunkLoop budget charsPerToken entries (chunks ++ [current]) [entry] cost
      else chunkLoop budget charsPerToken entries chunks (current ++ [entry]) (size + cost)

def chunkEntries (entries : List ChatHistoryEntry) (budget charsPerToken : ℚ) :
    List (List ChatHistoryEntry) :=
  chunkLoop budget charsPerToken entries [] [] 0

/-- `truncate`.  `slice` drops the fraction of its argument. -/
def truncate (text : JsString) (maxChars : ℚ) : JsString :=
  if maxChars < text.length then text.sliceTo ⌊maxChars⌋₊ ++ js "…" else text

def formatTranscript (entries : List ChatHistoryEntry) (maxEntryChars : ℚ) : JsString :=
  JsString.join (js "\n\n") (entries.map fun entry =>
    (match entry.role with
      | .User => js "User"
      | .Assistant => js "Assistant") ++ js ": " ++ truncate entry.content maxEntryChars)

def buildSummaryRequest (previousSummary : Option JsString) (entries : List ChatHistoryEntry)
    (maxEntryChars : ℚ) : List OllamaHistoryMessage :=
  let transcript := formatTranscript entries maxEntryChars
  [⟨.System, summaryInstructions⟩,
    ⟨.User, match previousSummary with
      | none => js "Messages to take notes on:\n\n" ++ transcript
      | some previous =>
          js "Existing notes:\n" ++ previous ++ js "\n\nNew messages:\n" ++ transcript⟩]

/-- `{ role: entry.role, content: entry.content }`. -/
def toPromptMessage (entry : ChatHistoryEntry) : OllamaHistoryMessage where
  role := match entry.role with
    | .User => .User
    | .Assistant => .Assistant
  content := entry.content

def toPromptMessages (summary : Option JsString) (turns : List ChatHistoryEntry)
    (content : JsString) : List OllamaHistoryMessage :=
  ((JsString.truthy summary).map fun text => ⟨.System, formatSummaryMessage text⟩).toList
    ++ turns.map toPromptMessage ++ [⟨.User, content⟩]

end RagStack
