import RagStack.Ollama.OllamaClient
import RagStack.Core.Except

/-!
# A body in pieces

The network cuts the body of a response anywhere, also inside a character.  `streamRequest` decodes
it read by read and keeps the rest of a line in a buffer, with an end of its own for what is left
when the stream is closed.

What one wants to know is that the cuts do not matter.  The chunks and the error should be those of
the whole body, decoded at once and cut into lines, each line parsed by itself, up to the first
error.  Two things have to fit together for this.  Decoding in pieces gives the text of the whole,
as the decoder keeps the bytes of an unfinished character.  And cutting a text into lines can be
done while it grows, since only the last line can still become longer; it is what the buffer holds.

The invariant of the loop is therefore that the buffer has no line break in it, and the statement
proved by induction on the reads is about any buffer and any state of the decoder.  The end of the
stream is the base case: the decoder is flushed, which may add replacement characters for bytes that
never were completed, and the rest is a line.

Lines that are blank are skipped wherever they are.  So a body that ends with a line break and one
that does not are treated alike.

A body that is interrupted by a failed read is not covered by the second statement, since what was
in the buffer is lost with it.

* `readBody_eq` — this is the same as cutting the whole text into lines, for every buffer.
* `streamRequest_pieces` — the chunks and the error depend on the bytes alone.
-/

namespace RagStack.OllamaClient

/-! ## Lines -/

section Lines

variable {text rest : JsString} {u : UInt16}

lemma split_newline (rest : JsString) :
    JsString.split newline (0x0A :: rest) = [] :: rest.split newline := rfl

lemma split_of_ne_newline (h : u ≠ 0x0A) (text : JsString) :
    JsString.split newline (u :: text) = JsString.consHead u (text.split newline) := by
  refine JsString.split_cons_of_none ?_
  simp only [newline]
  split
  · rename_i heq
    exact absurd (List.cons.inj heq).1 h
  · rfl

lemma split_newline_ne_nil (text : JsString) : text.split newline ≠ [] := by
  induction text with
  | nil => simp [JsString.split, JsString.splitFrom]
  | cons u text ih =>
      by_cases hu : u = 0x0A
      · subst hu
        simp [split_newline]
      · rw [split_of_ne_newline hu]
        cases h : JsString.split newline text with
        | nil => exact absurd h ih
        | cons line lines => simp [JsString.consHead]

/-- The text behind the last line break. -/
def lastLine (text : JsString) : JsString := (text.split newline).getLast?.getD []

/-- **A text that goes on.**  Only its last line can still become longer. -/
lemma split_newline_append (text rest : JsString) :
    JsString.split newline (text ++ rest)
      = (text.split newline).dropLast ++ JsString.split newline (lastLine text ++ rest) := by
  induction text with
  | nil => rfl
  | cons u text ih =>
      rw [List.cons_append, lastLine]
      by_cases hu : u = 0x0A
      · subst hu
        rw [split_newline, split_newline, List.dropLast_cons_of_ne_nil (split_newline_ne_nil text),
          List.getLast?_cons_of_ne_nil (split_newline_ne_nil text), ih]
        rfl
      · rw [split_of_ne_newline hu, split_of_ne_newline hu, ih, lastLine]
        rcases h : JsString.split newline text with _ | ⟨line, _ | ⟨next, lines⟩⟩
        · exact absurd h (split_newline_ne_nil text)
        · simp [JsString.consHead, split_of_ne_newline hu]
        · simp [JsString.consHead]

/-- A text without a line break is one line. -/
lemma split_newline_of_not_mem (h : 0x0A ∉ text) : text.split newline = [text] := by
  induction text with
  | nil => rfl
  | cons u text ih =>
      rw [List.mem_cons, not_or] at h
      rw [split_of_ne_newline (Ne.symm h.1), ih h.2]
      rfl

lemma not_mem_lastLine (text : JsString) : 0x0A ∉ lastLine text := by
  induction text with
  | nil => simp [lastLine, JsString.split, JsString.splitFrom]
  | cons u text ih =>
      rw [lastLine] at ih ⊢
      by_cases hu : u = 0x0A
      · subst hu
        rwa [split_newline, List.getLast?_cons_of_ne_nil (split_newline_ne_nil text)]
      · rw [split_of_ne_newline hu]
        rcases h : JsString.split newline text with _ | ⟨line, _ | ⟨next, lines⟩⟩
        · exact absurd h (split_newline_ne_nil text)
        · rw [h] at ih
          simpa [JsString.consHead, Ne.symm hu] using ih
        · rw [h] at ih
          simpa [JsString.consHead] using ih

end Lines

/-! ## The whole body -/

section Body

variable (parse : JsString → Option (Option OllamaChatResponse))

/-- `parseChunk` on every line that is not blank. -/
def parseLines (lines : List JsString) : List (Except StreamError OllamaChatChunk) :=
  (lines.filter (·.trim ≠ [])).map (parseChunk parse)

/-- The text of a body that is decoded at once. -/
def bodyText (bytes : List ℕ) : JsString :=
  toJs ((TextDecoder.initial.decode bytes).1 ++ (TextDecoder.initial.decode bytes).2.flush)

/-- What `parseChunk` makes of the lines of a body, the last one included. -/
def bodyChunks (bytes : List ℕ) : List (Except StreamError OllamaChatChunk) :=
  parseLines parse ((bodyText bytes).split newline)

lemma parseLines_append (lines lines' : List JsString) :
    parseLines parse (lines ++ lines') = parseLines parse lines ++ parseLines parse lines' := by
  simp only [parseLines, List.filter_append, List.map_append]

lemma readLines_eq (lines : List JsString) :
    readLines parse lines = upToError (parseLines parse lines) := by
  induction lines with
  | nil => rfl
  | cons line lines ih =>
      simp only [readLines, parseLines]
      split
      · rename_i hblank
        rw [List.filter_cons_of_neg (by exact fun h => of_decide_eq_true h hblank), ih, parseLines]
      · rename_i hline
        rw [List.filter_cons_of_pos (by exact decide_eq_true hline), List.map_cons, ih]
        cases parseChunk parse line <;> rfl

/-- What is left over when the stream is closed holds no line break. -/
lemma not_mem_flush (d : TextDecoder) : 0x0A ∉ toJs d.flush := by
  simp only [TextDecoder.flush]
  split
  · simp [toJs]
  · decide

lemma toJs_append (text text' : List Char) : toJs (text ++ text') = toJs text ++ toJs text' :=
  List.flatMap_append

/-- **The reads together are one text**, which begins with the buffer.  The induction is on the
reads, for every buffer without a line break and every state of the decoder. -/
theorem readBody_eq (reads : List (List ℕ)) (d : TextDecoder) {buffer : JsString}
    (hbuffer : 0x0A ∉ buffer) :
    readBody parse none d buffer reads
      = upToError (parseLines parse ((buffer ++ toJs ((d.decode reads.flatten).1
          ++ (d.decode reads.flatten).2.flush)).split newline)) := by
  induction reads generalizing d buffer with
  | nil =>
      have hline : 0x0A ∉ buffer ++ toJs d.flush := by
        simp [hbuffer, not_mem_flush]
      have hnothing : d.decode [] = ([], d) := by simp [TextDecoder.decode, decodeBytes,
        TextDecoder.dropBom]
      rw [List.flatten_nil, hnothing, List.nil_append, split_newline_of_not_mem hline, readBody,
        readLines_eq]
  | cons value reads ih =>
      rw [List.flatten_cons, TextDecoder.decode_append, List.append_assoc, toJs_append,
        ← List.append_assoc, split_newline_append, parseLines_append]
      simp only [readBody]
      rw [readLines_eq]
      rcases h : upToError (parseLines parse
        (JsString.split newline (buffer ++ toJs (d.decode value).1)).dropLast) with ⟨chunks, _ | error⟩
      · rw [upToError_append_of_none _ (congrArg Prod.snd h), h]
        exact congrArg (fun rest => (chunks ++ Prod.fst rest, Prod.snd rest))
          (ih (d.decode value).2 (not_mem_lastLine _))
      · rw [upToError_append_of_some _ (congrArg Prod.snd h), h]

/-- **Only the bytes matter.**  However the body of a response is cut into reads: what is yielded
and what is thrown behind it is `parseChunk`, up to the first error, on the lines of the body that
are not blank, decoded at once.  And `complete` returns the text of all of them. -/
theorem streamRequest_pieces (reads : List (List ℕ)) (status : ℕ) (aborted : AbortState)
    (hok : 200 ≤ status ∧ status ≤ 299) :
    let response : OllamaResponse := ⟨.Responded status (some ⟨reads, none⟩), aborted⟩
    let parsed := bodyChunks parse reads.flatten
    streamRequest parse response
        = ((upToError parsed).1, (upToError parsed).2.map (caught aborted))
      ∧ (∀ chunks : List OllamaChatChunk, parsed = chunks.map .ok →
          ∃ completion, complete parse response = .ok completion
            ∧ completion.content = chunks.flatMap (·.delta))
      ∧ (∀ error, (upToError parsed).2 = some error →
          complete parse response = .error (caught aborted error)) := by
  intro response parsed
  have htry : tryRequest parse response.fetched = upToError parsed := by
    simp only [response, tryRequest]
    rw [if_neg (by omega), if_pos hok]
    exact readBody_eq parse reads .initial List.not_mem_nil
  have hstream : streamRequest parse response
      = ((upToError parsed).1, (upToError parsed).2.map (caught aborted)) := by
    rw [streamRequest, htry]
  refine ⟨hstream, fun chunks hchunks => ?_, fun error herror => ?_⟩
  · rw [hchunks, upToError_map_ok] at hstream
    simp only [complete, hstream, Option.map_none]
    exact ⟨_, rfl, rfl⟩
  · rw [herror] at hstream
    simp only [complete, hstream, Option.map_some]

/-- An object without any of the fields, for the two lines below. -/
def emptyObject (line : JsString) : Option (Option OllamaChatResponse) :=
  if line = [0x7B, 0x7D] ∨ line = [0x7B, 0x22, 0xE9, 0x22, 0x3A, 0x31, 0x7D] then
    some (some ⟨none, false, none, none, none, none⟩)
  else none

/-- The lines `{}` and `{"é":1}`, cut inside the `é` and without a line break at the end. -/
theorem streamRequest_pieces_twoReads :
    streamRequest emptyObject ⟨.Responded 200 (some
        ⟨[[0x7B, 0x7D, 0x0A, 0x7B, 0x22, 0xC3], [0xA9, 0x22, 0x3A, 0x31, 0x7D]], none⟩),
      .NotAborted⟩ = ([⟨[], false, none, none, none⟩, ⟨[], false, none, none, none⟩], none) := by
  refine (streamRequest_pieces emptyObject _ 200 .NotAborted (by decide)).1.trans ?_
  decide +kernel

end Body

end RagStack.OllamaClient
