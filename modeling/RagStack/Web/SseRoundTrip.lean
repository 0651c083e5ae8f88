import Mathlib.Data.List.Chain
import RagStack.Web.ConsumeSse

/-!
# The event stream, end to end

However the bytes are cut, the client reads the events that were sent.

A response is a text of frames as UTF-8 bytes, and what arrives of it is a beginning, in chunks that
are cut anywhere: inside a frame, inside a line, inside a character.  If everything arrives, the
client should read all events.  If less arrives, it should read a beginning of them, and nothing
that was not sent.  The second part is the harder one, as the client treats what is left in its
buffer as a frame.  A frame that was cut off in the middle of its data must not be taken for an
event with other data.

This is where JSON comes in.  The text of an object is not JSON before its end, so a frame that is
cut inside its data makes `JSON.parse` fail, and one that is cut before its data is no event.  If
the cut is inside a character, the decoder puts a replacement character at the end, and that is not
JSON either.  So what is left of a frame is that frame's event, nothing, or an error (`Truncated`).

The loop has the usual invariant of such parsers.  The buffer is the rest of a frame, it has no
blank line in it, and together with what is still to come it is the text of the frames that have not
been read.  As the text of a frame has no blank line except at its end, the first blank line of the
buffer is the end of its first frame.

* `IsJson` — what is assumed of `JSON.stringify` and `JSON.parse`.
* `Unbroken` — a text without a blank line, which `consumeSse` leaves in its buffer.
* `Truncated` — what is left of a frame is that frame's event, nothing, or an error.
* `sse_round_trip` — after any beginning of the bytes, in any chunks, the events read are a
  beginning of those sent; after all of them, they are those sent.
-/

namespace RagStack

/-! ## Lines

A JSON text has no line breaks, so a frame has three of them, at known places. -/

section Lines

variable {u : UInt16} {line text rest body : JsString}

/-- A text without line breaks of either kind, such as a JSON text or the name of an event. -/
structure IsLine (line : JsString) : Prop where
  noFeed : 0x0A ∉ line
  noReturn : 0x0D ∉ line

instance (line : JsString) : Decidable (IsLine line) :=
  decidable_of_iff (0x0A ∉ line ∧ 0x0D ∉ line) ⟨fun h => ⟨h.1, h.2⟩, fun h => ⟨h.1, h.2⟩⟩

lemma IsLine.of_subset (h : IsLine line) (hsubset : text ⊆ line) : IsLine text :=
  ⟨fun hmem => h.noFeed (hsubset hmem), fun hmem => h.noReturn (hsubset hmem)⟩

lemma IsLine.append (h : IsLine line) (h' : IsLine text) : IsLine (line ++ text) :=
  ⟨fun hmem => (List.mem_append.mp hmem).elim h.noFeed h'.noFeed,
    fun hmem => (List.mem_append.mp hmem).elim h.noReturn h'.noReturn⟩

lemma lineBreak_cons_of_ne (hfeed : u ≠ 0x0A) (hreturn : u ≠ 0x0D) :
    lineBreak (u :: text) = none := by
  rw [lineBreak, if_neg hfeed, if_neg fun h => hreturn h.1]

lemma IsLine.lineBreak_eq_none (h : IsLine line) (hsuffix : (u :: text) <:+ line) :
    lineBreak (u :: rest) = none := by
  have hmem : u ∈ line := hsuffix.subset List.mem_cons_self
  exact lineBreak_cons_of_ne (by rintro rfl; exact h.noFeed hmem)
    (by rintro rfl; exact h.noReturn hmem)

lemma IsLine.split (h : IsLine line) : line.split lineBreak = [line] :=
  JsString.split_eq_singleton fun _ _ hsuffix => h.lineBreak_eq_none hsuffix

lemma IsLine.split_append (h : IsLine line) :
    (line ++ 0x0A :: rest).split lineBreak = line :: rest.split lineBreak := by
  show (line ++ ([0x0A] ++ rest)).split lineBreak = line :: rest.split lineBreak
  exact JsString.split_append (by simp) rfl fun _ _ hsuffix => h.lineBreak_eq_none hsuffix

/-- A text without carriage returns in which no line feed follows another. -/
structure Unbroken (text : JsString) : Prop where
  noReturn : 0x0D ∉ text
  chain : text.IsChain fun u v => u = 0x0A → v ≠ 0x0A

lemma Unbroken.of_isPrefix (h : Unbroken text) (hbegins : rest <+: text) : Unbroken rest :=
  ⟨fun hmem => h.noReturn (hbegins.subset hmem), List.IsChain.prefix h.chain hbegins⟩

lemma Unbroken.of_suffix (h : Unbroken text) (hsuffix : rest <:+ text) : Unbroken rest :=
  ⟨fun hmem => h.noReturn (hsuffix.subset hmem), h.chain.suffix hsuffix⟩

/-- Something that is no line break may be appended. -/
lemma Unbroken.concat (h : Unbroken text) (hfeed : u ≠ 0x0A) (hreturn : u ≠ 0x0D) :
    Unbroken (text ++ [u]) := by
  refine ⟨fun hmem => ?_, List.isChain_append.mpr ⟨h.chain, List.isChain_singleton u, ?_⟩⟩
  · rcases List.mem_append.mp hmem with hmem | hmem
    · exact h.noReturn hmem
    · exact hreturn (List.mem_singleton.mp hmem).symm
  · rintro v - w hw -
    cases hw
    exact hfeed

lemma unbroken_nil : Unbroken [] := ⟨by simp, List.IsChain.nil⟩

lemma IsLine.unbroken (h : IsLine line) : Unbroken line := by
  refine ⟨h.noReturn, ?_⟩
  induction line with
  | nil => exact List.IsChain.nil
  | cons u line ih =>
      refine List.isChain_cons.mpr ⟨?_, ih (h.of_subset (List.subset_cons_self u line))⟩
      rintro v - rfl
      exact absurd List.mem_cons_self h.noFeed

/-- A line before something that does not begin with a line break. -/
lemma IsLine.unbroken_append (h : IsLine line) (htext : Unbroken text)
    (hhead : text.head? ≠ some 0x0A) : Unbroken (line ++ 0x0A :: text) := by
  refine ⟨fun hmem => ?_, List.isChain_append.mpr ⟨h.unbroken.chain, ?_, ?_⟩⟩
  · rcases List.mem_append.mp hmem with hmem | hmem
    · exact h.noReturn hmem
    · rcases List.mem_cons.mp hmem with hmem | hmem
      · cases hmem
      · exact htext.noReturn hmem
  · refine List.isChain_cons.mpr ⟨?_, htext.chain⟩
    rintro v hv - rfl
    exact hhead hv
  · rintro v hv w - rfl
    exact absurd (List.mem_of_getLast? hv) h.noFeed

lemma frameBreak_cons_eq_none (hreturn : u ≠ 0x0D) (htext : u = 0x0A → lineBreak text = none) :
    frameBreak (u :: text) = none := by
  simp only [frameBreak]
  by_cases hfeed : u = 0x0A
  · subst hfeed
    show (lineBreak text).map _ = none
    rw [htext rfl]
    rfl
  · rw [lineBreak_cons_of_ne hfeed hreturn]
    rfl

lemma Unbroken.lineBreak_eq_none (h : Unbroken (0x0A :: text)) : lineBreak text = none := by
  cases text with
  | nil => rfl
  | cons v text =>
      refine lineBreak_cons_of_ne ((List.isChain_cons_cons.mp h.chain).1 rfl) ?_
      rintro rfl
      exact h.noReturn (List.mem_cons_of_mem _ List.mem_cons_self)

lemma Unbroken.split (h : Unbroken text) : text.split frameBreak = [text] := by
  refine JsString.split_eq_singleton fun u text' hsuffix => ?_
  have h' := h.of_suffix hsuffix
  refine frameBreak_cons_eq_none ?_ ?_
  · rintro rfl
    exact h'.noReturn List.mem_cons_self
  · rintro rfl
    exact h'.lineBreak_eq_none

lemma Unbroken.split_append (h : Unbroken (body ++ [0x0A])) :
    (body ++ ([0x0A, 0x0A] ++ rest)).split frameBreak = body :: rest.split frameBreak := by
  refine JsString.split_append (by simp) rfl fun u part hsuffix => ?_
  obtain ⟨before, rfl⟩ := hsuffix
  have h' : Unbroken (u :: (part ++ [0x0A])) := h.of_suffix ⟨before, by simp⟩
  refine frameBreak_cons_eq_none ?_ ?_
  · rintro rfl
    exact h'.noReturn List.mem_cons_self
  · rintro rfl
    cases part with
    | nil =>
        have hne := (List.isChain_cons_cons.mp h'.chain).1 rfl
        exact absurd rfl hne
    | cons v part =>
        have hnone := h'.lineBreak_eq_none
        exact lineBreak_cons_of_ne ((List.isChain_cons_cons.mp h'.chain).1 rfl) (by
          rintro rfl
          exact h'.noReturn (List.mem_cons_of_mem _ List.mem_cons_self))

end Lines

/-! ## Frames

What is assumed of JSON, and how a frame is composed. -/

/-- What is assumed of JSON: the text of an object begins with a brace and has no line breaks, it
is read back, no part of it before its end is JSON, and a replacement character never ends JSON. -/
structure IsJson {δ : Type*} (stringify : δ → List Char) (parse : JsString → Option δ) : Prop where
  isLine : ∀ data, IsLine (toJs (stringify data))
  isObject : ∀ data, (toJs (stringify data)).head? = some 0x7B
  roundTrip : ∀ data, parse (toJs (stringify data)) = some data
  prefixFree : ∀ data text, text <+: toJs (stringify data) → text ≠ toJs (stringify data) →
    parse text = none
  replaced : ∀ text, parse (text ++ [0xFFFD]) = none

section Frames

variable {δ : Type*} {stringify : δ → List Char} {parse : JsString → Option δ}

/-- The first line of an event. -/
def eventLine (event : StreamEventName) : JsString := js "event: " ++ js event.text

/-- A frame without the two line feeds at its end. -/
def SseFrame.body (stringify : δ → List Char) : SseFrame δ → JsString
  | Event event data => eventLine event ++ 0x0A :: (js "data: " ++ toJs (stringify data))
  | Heartbeat => js ": heartbeat"

def framesText (stringify : δ → List Char) (frames : List (SseFrame δ)) : JsString :=
  frames.flatMap fun frame => frame.body stringify ++ [0x0A, 0x0A]

lemma toJs_append (text text' : List Char) : toJs (text ++ text') = toJs text ++ toJs text' :=
  List.flatMap_append

lemma toJs_encode (frame : SseFrame δ) :
    toJs (frame.encode stringify) = frame.body stringify ++ [0x0A, 0x0A] := by
  cases frame with
  | Event event data =>
      show toJs ("event: ".toList ++ event.text.toList ++ "\ndata: ".toList ++ stringify data
        ++ "\n\n".toList) = _
      simp only [toJs_append]
      show js "event: " ++ js event.text ++ (0x0A :: js "data: ") ++ toJs (stringify data)
        ++ [0x0A, 0x0A] = _
      simp [SseFrame.body, eventLine]
  | Heartbeat => rfl

lemma toJs_sseText (frames : List (SseFrame δ)) :
    toJs (sseText stringify frames) = framesText stringify frames := by
  induction frames with
  | nil => rfl
  | cons frame frames ih =>
      show toJs (frame.encode stringify ++ sseText stringify frames) = _
      rw [toJs_append, toJs_encode, ih]
      rfl

lemma eventLine_isLine (event : StreamEventName) : IsLine (eventLine event) := by
  cases event <;> constructor <;> simp [eventLine, StreamEventName.text, js, utf16]

lemma readLine_eventLine (event : StreamEventName) :
    readLine ([], []) (eventLine event) = (js event.text, []) := by
  cases event <;> rfl

lemma IsLine.dataLine {text : JsString} (h : IsLine text) : IsLine (js "data: " ++ text) := by
  have hword : IsLine (js "data: ") := by constructor <;> simp [js, utf16]
  exact hword.append h

/-- What is written has no blank line before its end. -/
lemma body_unbroken (json : IsJson stringify parse) (frame : SseFrame δ) :
    Unbroken (frame.body stringify ++ [0x0A]) := by
  cases frame with
  | Event event data =>
      have htext := (json.isLine data).dataLine.unbroken_append unbroken_nil (by simp)
      have hbody := (eventLine_isLine event).unbroken_append htext (by simp [js, utf16])
      simpa [SseFrame.body] using hbody
  | Heartbeat =>
      have hline : IsLine (js ": heartbeat") := by constructor <;> simp [js, utf16]
      exact hline.unbroken_append unbroken_nil (by simp)

/-! ## One frame

A whole frame, a frame that was cut between two characters, and one that was cut inside a character.
-/

lemma parse_eventLine (event : StreamEventName) (text : JsString) :
    parseSseFrame parse (eventLine event ++ 0x0A :: text)
      = parseRead parse ((text.split lineBreak).foldl readLine (js event.text, [])) := by
  have hcomment : ¬ (eventLine event ++ 0x0A :: text = []
      ∨ JsString.startsWith (eventLine event ++ 0x0A :: text) (js ":") = true) := by
    rintro (h | h)
    · simp at h
    · cases event <;> simp [eventLine, js, utf16, JsString.startsWith] at h
  rw [parseSseFrame, if_neg hcomment, (eventLine_isLine event).split_append, List.foldl_cons,
    readLine_eventLine]

/-- Data that is empty or begins with a brace is read as it is. -/
lemma readLine_data (name : JsString) {text : JsString} (h : ∀ u ∈ text.head?, u = 0x7B) :
    readLine (name, []) (js "data: " ++ text) = (name, [text]) := by
  have htrim : JsString.trimStart (0x20 :: text) = text := by
    cases text with
    | nil => rfl
    | cons u text =>
        obtain rfl := h u rfl
        rfl
  exact congrArg (fun line => (name, [line])) htrim

lemma text_ne_nil (event : StreamEventName) : js event.text ≠ [] := by
  cases event <;> simp [StreamEventName.text, js, utf16]

/-- **A frame with one line of data.** -/
lemma parse_data (parse : JsString → Option δ) (event : StreamEventName) {text : JsString}
    (hline : IsLine text)
    (hhead : ∀ u ∈ text.head?, u = 0x7B) :
    parseSseFrame parse (eventLine event ++ 0x0A :: (js "data: " ++ text))
      = match parse text with
        | some data => .ok (some ⟨js event.text, data⟩)
        | none => .error () := by
  rw [parse_eventLine, hline.dataLine.split, List.foldl_cons, List.foldl_nil, readLine_data _ hhead,
    parseRead, if_neg (by simp [text_ne_nil])]
  have hjoin : JsString.join (js "\n") [text] = text := by simp [JsString.join]
  rewrite [hjoin]
  rfl

/-- A text that is what it is in front of a line feed. -/
lemma foldl_readLine_feed (name : JsString × List JsString) {line : JsString} (h : IsLine line) :
    ((line ++ [0x0A]).split lineBreak).foldl readLine name
      = (line.split lineBreak).foldl readLine name := by
  rw [h.split_append, h.split]
  rfl

lemma head?_brace (json : IsJson stringify parse) (data : δ) {text : JsString}
    (h : text <+: toJs (stringify data)) : ∀ u ∈ text.head?, u = 0x7B := by
  intro u hu
  cases text with
  | nil => cases hu
  | cons v text =>
      cases hu
      obtain ⟨rest, hrest⟩ := h
      have hobject := json.isObject data
      rw [← hrest] at hobject
      exact Option.some.inj hobject

/-- **A whole frame** is its event. -/
lemma parse_body (json : IsJson stringify parse) (frame : SseFrame δ) :
    parseSseFrame parse (frame.body stringify) = .ok frame.sent := by
  cases frame with
  | Event event data =>
      rw [SseFrame.body,
        parse_data parse event (json.isLine data) (head?_brace json data List.prefix_rfl),
        json.roundTrip]
      rfl
  | Heartbeat => rfl

/-- What is left of a frame is its event, nothing, or an error. -/
def Truncated (parse : JsString → Option δ) (frame : SseFrame δ) (text : JsString) : Prop :=
  parseSseFrame parse text = .error () ∨ parseSseFrame parse text = .ok none
    ∨ parseSseFrame parse text = .ok frame.sent

lemma startsWith_of_isPrefix {text line word : JsString} (h : text <+: line)
    (hline : line.startsWith word = false) : text.startsWith word = false := by
  refine Bool.eq_false_iff.mpr fun htext => ?_
  have hword : word <+: text := List.isPrefixOf_iff_prefix.mp htext
  rw [JsString.startsWith, List.isPrefixOf_iff_prefix.mpr (hword.trans h)] at hline
  cases hline

/-- A frame cut in its first line. -/
lemma truncated_eventLine (frame : SseFrame δ) (event : StreamEventName) {text : JsString}
    (h : text <+: eventLine event) : Truncated parse frame text := by
  refine .inr (.inl ?_)
  have hdata : text.startsWith (js "data:") = false := by
    refine startsWith_of_isPrefix h ?_
    cases event <;> rfl
  have hread : (readLine ([], []) text).2 = [] := if_neg (by simp [hdata])
  rw [parseSseFrame]
  split
  · rfl
  · rw [((eventLine_isLine event).of_subset h.subset).split, List.foldl_cons, List.foldl_nil,
      parseRead, if_pos (.inr hread)]

lemma truncated_dataWord (frame : SseFrame δ) (event : StreamEventName) {text : JsString}
    (h : text <+: js "data") : Truncated parse frame (eventLine event ++ 0x0A :: text) := by
  refine .inr (.inl ?_)
  have hword : IsLine (js "data") := by constructor <;> simp [js, utf16]
  have hline : IsLine text := hword.of_subset h.subset
  have hevent := startsWith_of_isPrefix h
    (rfl : (js "data").startsWith (js "event:") = false)
  have hdata := startsWith_of_isPrefix h
    (rfl : (js "data").startsWith (js "data:") = false)
  rw [parse_eventLine, hline.split, List.foldl_cons, List.foldl_nil, readLine, hevent, hdata,
    parseRead, if_pos (.inr rfl)]

/-- **A frame cut anywhere** before its last line feed. -/
lemma truncated_of_cut (json : IsJson stringify parse) (frame : SseFrame δ) {text : JsString}
    (h : text <+: frame.body stringify ++ [0x0A]) : Truncated parse frame text := by
  rcases List.prefix_concat_iff.mp h with rfl | h
  · -- all but the last line feed
    cases frame with
    | Event event data =>
        have hbody := parse_body json (.Event event data)
        rw [SseFrame.body, parse_eventLine] at hbody
        refine .inr (.inr ?_)
        rw [SseFrame.body, List.append_assoc, List.cons_append, parse_eventLine,
          foldl_readLine_feed _ (json.isLine data).dataLine]
        exact hbody
    | Heartbeat => exact .inr (.inl rfl)
  · cases frame with
    | Event event data =>
        rcases prefix_append_cases h with h₁ | ⟨rest₁, rfl, h₁⟩
        · exact truncated_eventLine _ event h₁
        rcases List.prefix_cons_iff.mp h₁ with rfl | ⟨line, rfl, h₂⟩
        · rw [List.append_nil]
          exact truncated_eventLine _ event List.prefix_rfl
        have hword : js "data: " ++ toJs (stringify data)
            = js "data" ++ 0x3A :: 0x20 :: toJs (stringify data) := rfl
        rw [hword] at h₂
        rcases prefix_append_cases h₂ with h₃ | ⟨rest₃, rfl, h₃⟩
        · exact truncated_dataWord _ event h₃
        rcases List.prefix_cons_iff.mp h₃ with rfl | ⟨rest₄, rfl, h₄⟩
        · rw [List.append_nil]
          exact truncated_dataWord _ event List.prefix_rfl
        have hempty : parse [] = none := by
          refine json.prefixFree data [] List.nil_prefix fun heq => ?_
          have hobject := json.isObject data
          rw [← heq] at hobject
          cases hobject
        rcases List.prefix_cons_iff.mp h₄ with rfl | ⟨rest, rfl, h₅⟩
        · -- the colon, without the space
          refine .inl ?_
          have hline : IsLine (js "data" ++ [0x3A]) := by constructor <;> simp [js, utf16]
          rw [parse_eventLine, hline.split, List.foldl_cons, List.foldl_nil]
          have hread : readLine (js event.text, []) (js "data" ++ [0x3A]) = (js event.text, [[]]) :=
            rfl
          rw [hread, parseRead, if_neg (by simp [text_ne_nil])]
          show (match parse [] with
            | some data => Except.ok (some (⟨js event.text, data⟩ : SseEvent δ))
            | none => Except.error ()) = _
          rw [hempty]
        · have hline := (json.isLine data).of_subset h₅.subset
          have hparsed := parse_data parse event hline (head?_brace json data h₅)
          by_cases hwhole : rest = toJs (stringify data)
          · refine .inr (.inr (hparsed.trans ?_))
            rw [hwhole, json.roundTrip]
            rfl
          · refine .inl (hparsed.trans ?_)
            rw [json.prefixFree data rest h₅ hwhole]
    | Heartbeat =>
        refine .inr (.inl ?_)
        rcases List.prefix_cons_iff.mp h with rfl | ⟨rest, rfl, -⟩
        · rfl
        · rfl

/-- The first code unit of a character that is not ASCII. -/
lemma utf16_nonAscii {c : Char} (hc : 0x80 ≤ c.toNat) :
    ∃ v rest, utf16 c = v :: rest ∧ 0x80 ≤ v.toNat := by
  have hscalar := toNat_scalar c
  unfold utf16
  split
  · refine ⟨_, _, rfl, ?_⟩
    simp only [Nat.toUInt16, UInt16.toNat_ofNat']
    omega
  · refine ⟨_, _, rfl, ?_⟩
    simp only [Nat.toUInt16, UInt16.toNat_ofNat']
    omega

/-- A text followed by something that is not ASCII goes on past what is ASCII. -/
lemma prefix_of_ascii {l₁ l₂ text : JsString} {v : UInt16} (hv : 0x80 ≤ v.toNat)
    (hascii : l₁.all (·.toNat < 0x80) = true) (h : text ++ [v] <+: l₁ ++ l₂) :
    ∃ rest, text = l₁ ++ rest ∧ rest ++ [v] <+: l₂ := by
  have hnot : v ∉ l₁ := by
    intro hmem
    have hlow := of_decide_eq_true (List.all_eq_true.mp hascii v hmem)
    omega
  rcases prefix_append_cases h with h₁ | ⟨rest, heq, h₁⟩
  · exact absurd (h₁.subset (by simp)) hnot
  · rcases List.eq_nil_or_concat rest with rfl | ⟨before, w, rfl⟩
    · have hmem : v ∈ l₁ := by
        rw [List.append_nil] at heq
        exact heq ▸ by simp
      exact absurd hmem hnot
    · rw [List.concat_eq_append] at heq h₁
      rw [← List.append_assoc] at heq
      obtain ⟨rfl, hlast⟩ := List.append_inj' heq rfl
      rw [← hlast] at h₁
      exact ⟨before, rfl, h₁⟩

/-- **A frame cut inside a character**, which the decoder replaces. -/
lemma truncated_replaced (json : IsJson stringify parse) (frame : SseFrame δ) {text : JsString}
    {v : UInt16} (hv : 0x80 ≤ v.toNat) (h : text ++ [v] <+: frame.body stringify ++ [0x0A]) :
    Truncated parse frame (text ++ [0xFFFD]) := by
  cases frame with
  | Event event data =>
      have hsplit : SseFrame.body stringify (.Event event data) ++ [0x0A]
          = (eventLine event ++ 0x0A :: js "data: ") ++ (toJs (stringify data) ++ [0x0A]) := by
        simp [SseFrame.body]
      rw [hsplit] at h
      have hascii : (eventLine event ++ 0x0A :: js "data: ").all (·.toNat < 0x80) = true := by
        cases event <;> rfl
      obtain ⟨rest, rfl, h₁⟩ := prefix_of_ascii hv hascii h
      have hrest : rest ++ [v] <+: toJs (stringify data) := by
        rcases List.prefix_concat_iff.mp h₁ with heq | h₂
        · obtain ⟨-, hlast⟩ := List.append_inj' heq rfl
          obtain rfl : v = 0x0A := by simpa using hlast
          exact absurd hv (by decide)
        · exact h₂
      have hbegins : rest <+: toJs (stringify data) := (List.prefix_append rest [v]).trans hrest
      have hhead : ∀ u ∈ (rest ++ [0xFFFD]).head?, u = 0x7B := by
        cases rest with
        | nil =>
            -- the first character of JSON is ASCII
            have hbrace := head?_brace json data hrest v rfl
            rw [hbrace] at hv
            exact absurd hv (by decide)
        | cons w rest =>
            rintro u ⟨⟩
            exact head?_brace json data hbegins w rfl
      have hline : IsLine (rest ++ [0xFFFD]) :=
        IsLine.append ((json.isLine data).of_subset hbegins.subset) (by constructor <;> simp)
      have hparsed := parse_data parse event hline hhead
      have htext : (eventLine event ++ 0x0A :: js "data: ") ++ rest ++ [0xFFFD]
          = eventLine event ++ 0x0A :: (js "data: " ++ (rest ++ [0xFFFD])) := by simp
      refine .inl ?_
      rw [htext, hparsed, json.replaced]
  | Heartbeat =>
      have hascii : (js ": heartbeat" ++ [0x0A]).all (·.toNat < 0x80) = true := rfl
      have hlow := of_decide_eq_true (List.all_eq_true.mp hascii v (h.subset (by simp)))
      omega

/-! ## The buffer

A beginning of a text of frames is some whole frames and a beginning of the next. -/

/-- The beginning of a text of frames ends after a frame or inside one. -/
inductive EndsIn (stringify : δ → List Char) : JsString → List (SseFrame δ) → Prop
  | done : EndsIn stringify [] []
  | inside {text : JsString} {frame : SseFrame δ} {frames : List (SseFrame δ)}
      (h : text <+: frame.body stringify ++ [0x0A]) : EndsIn stringify text (frame :: frames)

lemma framesText_cons (frame : SseFrame δ) (frames : List (SseFrame δ)) :
    framesText stringify (frame :: frames)
      = frame.body stringify ++ [0x0A, 0x0A] ++ framesText stringify frames := List.flatMap_cons

lemma framesText_append (frames frames' : List (SseFrame δ)) :
    framesText stringify (frames ++ frames')
      = framesText stringify frames ++ framesText stringify frames' := List.flatMap_append

lemma sentEvents_append (frames frames' : List (SseFrame δ)) :
    sentEvents (frames ++ frames') = sentEvents frames ++ sentEvents frames' :=
  List.filterMap_append

/-- **The beginning of a text of frames**: whole frames, and what is left. -/
lemma prefix_framesText {frames : List (SseFrame δ)} {text : JsString}
    (h : text <+: framesText stringify frames) :
    ∃ done more rest, frames = done ++ more ∧ text = framesText stringify done ++ rest
      ∧ EndsIn stringify rest more := by
  induction frames generalizing text with
  | nil =>
      obtain rfl := List.prefix_nil.mp h
      exact ⟨[], [], [], rfl, rfl, .done⟩
  | cons frame frames ih =>
      rw [framesText_cons] at h
      rcases prefix_append_cases h with h₁ | ⟨rest, rfl, h₁⟩
      · have hbody : frame.body stringify ++ [0x0A, 0x0A]
            = (frame.body stringify ++ [0x0A]) ++ [0x0A] := by simp
        rw [hbody] at h₁
        rcases List.prefix_concat_iff.mp h₁ with rfl | h₂
        · obtain ⟨done, more, rest, rfl, hrest, hends⟩ := ih List.nil_prefix
          refine ⟨frame :: done, more, rest, rfl, ?_, hends⟩
          rw [framesText_cons, List.append_assoc _ (framesText stringify done), ← hrest,
            List.append_nil, hbody]
        · exact ⟨[], frame :: frames, text, rfl, rfl, .inside h₂⟩
      · obtain ⟨done, more, rest', rfl, rfl, hends⟩ := ih h₁
        refine ⟨frame :: done, more, rest', rfl, ?_, hends⟩
        rw [framesText_cons, List.append_assoc (frame.body stringify ++ [0x0A, 0x0A])]

lemma EndsIn.unbroken (json : IsJson stringify parse) {text : JsString}
    {frames : List (SseFrame δ)} (h : EndsIn stringify text frames) : Unbroken text := by
  cases h with
  | done => exact unbroken_nil
  | inside h => exact (body_unbroken json _).of_isPrefix h

lemma split_framesText (json : IsJson stringify parse) (frames : List (SseFrame δ))
    {rest : JsString} (hrest : Unbroken rest) :
    (framesText stringify frames ++ rest).split frameBreak
      = frames.map (·.body stringify) ++ [rest] := by
  induction frames with
  | nil => exact hrest.split
  | cons frame frames ih =>
      have htext : framesText stringify (frame :: frames) ++ rest
          = frame.body stringify ++ ([0x0A, 0x0A] ++ (framesText stringify frames ++ rest)) := by
        simp [framesText_cons]
      rw [htext, (body_unbroken json frame).split_append, ih]
      rfl

lemma readFrames_bodies (json : IsJson stringify parse) (frames : List (SseFrame δ)) :
    readFrames parse (frames.map (·.body stringify)) = ⟨sentEvents frames, false⟩ := by
  induction frames with
  | nil => rfl
  | cons frame frames ih =>
      rw [List.map_cons, readFrames, parse_body json frame, ih]
      show (⟨frame.sent.toList ++ sentEvents frames, false⟩ : SseOutcome δ) = _
      cases hsent : frame.sent with
      | none => rw [sentEvents, sentEvents, List.filterMap_cons_none hsent]; rfl
      | some event => rw [sentEvents, sentEvents, List.filterMap_cons_some hsent]; rfl

/-- **One turn of the loop**: the whole frames in the buffer are read, the rest stays. -/
lemma readBuffer_framesText (json : IsJson stringify parse) (frames : List (SseFrame δ))
    {rest : JsString} (hrest : Unbroken rest) :
    readBuffer parse (framesText stringify frames ++ rest)
      = (⟨sentEvents frames, false⟩, rest) := by
  rw [readBuffer, split_framesText json frames hrest, List.dropLast_concat, List.getLast?_concat,
    readFrames_bodies json]
  rfl

/-- The events of what is left of a frame. -/
lemma events_of_truncated {frame : SseFrame δ} {frames : List (SseFrame δ)} {text : JsString}
    (h : Truncated parse frame text) :
    (readFrames parse [text]).events <+: sentEvents (frame :: frames) := by
  rw [readFrames]
  rcases h with h | h | h <;> rw [h]
  · exact List.nil_prefix
  · exact List.nil_prefix
  · show frame.sent.toList ++ [] <+: sentEvents (frame :: frames)
    cases hsent : frame.sent with
    | none => exact List.nil_prefix
    | some event =>
        rw [sentEvents, List.filterMap_cons_some hsent]
        exact List.cons_prefix_cons.mpr ⟨rfl, List.nil_prefix⟩

/-! ## The loop

Induction on the chunks, with the frames that are still to be read. -/

/-- What is promised of a client that has yet to read `frames`. -/
structure Reads (frames : List (SseFrame δ)) (whole : Prop) (o : SseOutcome δ) : Prop where
  events : o.events <+: sentEvents frames
  all : whole → o = ⟨sentEvents frames, false⟩

lemma Reads.andThen {frames frames' : List (SseFrame δ)} {whole : Prop} {o : SseOutcome δ}
    (h : Reads frames' whole o) :
    Reads (frames ++ frames') whole (SseOutcome.andThen ⟨sentEvents frames, false⟩ o) := by
  refine ⟨?_, fun hwhole => ?_⟩
  · rw [sentEvents_append]
    exact (List.prefix_append_right_inj _).mpr h.events
  · rw [h.all hwhole, sentEvents_append]
    rfl

/-- The text does not begin with a byte order mark. -/
lemma sseText_head (frames : List (SseFrame δ)) :
    (sseText stringify frames).head? ≠ some (Char.ofNat 0xFEFF) := by
  cases frames with
  | nil => simp [sseText]
  | cons frame frames =>
      cases frame with
      | Event event data =>
          show some (Char.ofNat 0x65) ≠ _
          decide
      | Heartbeat =>
          show some (Char.ofNat 0x3A) ≠ _
          decide

/-- The end of the stream: the whole frames are read, then what is left of another. -/
lemma consume_last (json : IsJson stringify parse) {done more : List (SseFrame δ)}
    {decoder : TextDecoder} {buffer : JsString} {whole : Prop} (last : JsString)
    (hbuffer : buffer ++ toJs decoder.flush = framesText stringify done ++ last)
    (hlast : Unbroken last)
    (hevents : last.trim ≠ [] → (readFrames parse [last]).events <+: sentEvents more)
    (hwhole : whole → last = [] ∧ more = []) :
    Reads (done ++ more) whole (consumeChunks parse false decoder buffer []) := by
  have hread := readBuffer_framesText json done hlast
  rw [← hbuffer] at hread
  have hend : consumeChunks parse false decoder buffer []
      = SseOutcome.andThen ⟨sentEvents done, false⟩
        (if last.trim = [] then ⟨[], false⟩ else readFrames parse [last]) := by
    rewrite [consumeChunks, hread]
    rfl
  rw [hend]
  refine Reads.andThen ⟨?_, fun h => ?_⟩
  · split
    · exact List.nil_prefix
    · rename_i htrim
      exact hevents htrim
  · obtain ⟨rfl, rfl⟩ := hwhole h
    rfl

/-- The characters in the buffer are the beginning of what has yet to be read. -/
lemma prefix_of_buffer {frames done more : List (SseFrame δ)} {chars : List Char} {buffer : JsString}
    (hframes : frames = done ++ more) (hbuffer : toJs chars = framesText stringify done ++ buffer)
    (chars' : List Char) (h : chars ++ chars' <+: sseText stringify frames) :
    buffer ++ toJs chars' <+: framesText stringify more := by
  obtain ⟨rest, hrest⟩ := h
  refine ⟨toJs rest, ?_⟩
  have htext := congrArg toJs hrest
  rw [toJs_append, toJs_append, toJs_sseText, hframes, framesText_append, hbuffer] at htext
  simp only [List.append_assoc] at htext ⊢
  exact List.append_cancel_left htext

/-- Inside a frame, before something that is not ASCII, its last line feed is yet to come. -/
lemma endsIn_nonAscii {frame : SseFrame δ} {frames : List (SseFrame δ)} {rest : JsString}
    {v : UInt16} (hv : 0x80 ≤ v.toNat) (hrest : rest <+: frame.body stringify ++ [0x0A])
    (h : rest ++ [v] <+: framesText stringify (frame :: frames)) :
    rest ++ [v] <+: frame.body stringify ++ [0x0A] := by
  have htext : framesText stringify (frame :: frames)
      = (frame.body stringify ++ [0x0A]) ++ (0x0A :: framesText stringify frames) := by
    simp [framesText_cons]
  rw [htext] at h
  rcases prefix_append_cases h with h₁ | ⟨more, heq, h₁⟩
  · exact h₁
  · rcases List.prefix_cons_iff.mp h₁ with rfl | ⟨more', rfl, -⟩
    · rw [List.append_nil] at heq
      exact heq ▸ List.prefix_rfl
    · -- the line feed would be the character itself
      have hlength := congrArg List.length heq
      have hle := hrest.length_le
      simp only [List.length_append, List.length_cons, List.length_nil] at hlength hle
      obtain rfl : more' = [] := List.length_eq_zero_iff.mp (by omega)
      obtain ⟨-, hlast⟩ := List.append_inj' heq rfl
      obtain rfl : v = 0x0A := by simpa using hlast
      exact absurd hv (by decide)

/-- The end of the stream, with the last characters in the buffer. -/
lemma consume_end (json : IsJson stringify parse) {frames done more : List (SseFrame δ)}
    {decoder : TextDecoder} {bytes : List ℕ} {chars : List Char} {buffer : JsString}
    (hdecoder : decoder.At bytes chars) (hframes : frames = done ++ more)
    (hbuffer : toJs chars = framesText stringify done ++ buffer)
    (hbytes : bytes <+: encodeText (sseText stringify frames)) :
    Reads more (bytes = encodeText (sseText stringify frames))
      (consumeChunks parse false decoder buffer []) := by
  obtain ⟨hbegins, hcut⟩ := decodeBytes_of_isPrefix hbytes
  have hwhole : bytes = encodeText (sseText stringify frames) →
      chars = sseText stringify frames := by
    rintro rfl
    have hdecoded := congrArg Prod.fst hdecoder.decoded
    exact hdecoded.symm.trans (decodeBytes_encodeText _)
  rw [hdecoder.decoded] at hbegins hcut
  have hremains : buffer <+: framesText stringify more := by
    have h := prefix_of_buffer hframes hbuffer [] (by rwa [List.append_nil])
    rwa [toJs, List.flatMap_nil, List.append_nil] at h
  obtain ⟨done', more', rest, rfl, rfl, hends⟩ := prefix_framesText hremains
  rcases hcut with ⟨hneeded, -⟩ | ⟨hneeded, hcutShort, c, hc, hnext⟩
  · refine consume_last json rest ?_ (hends.unbroken json) (fun htrim => ?_) fun h => ?_
    · rw [TextDecoder.flush, if_pos hneeded, toJs, List.flatMap_nil, List.append_nil]
    · cases hends with
      | done => exact absurd rfl htrim
      | inside h => exact events_of_truncated (truncated_of_cut json _ h)
    · have htext := congrArg toJs (hwhole h)
      rw [toJs_sseText, hframes, framesText_append, framesText_append, hbuffer,
        List.append_cancel_left_eq, List.append_cancel_left_eq] at htext
      cases hends with
      | done => exact ⟨rfl, rfl⟩
      | inside hinside =>
          have hle := hinside.length_le
          rw [htext, framesText_cons] at hle
          simp only [List.length_append, List.length_cons, List.length_nil] at hle
          omega
  · obtain ⟨v, vs, hutf16, hv⟩ := utf16_nonAscii hc
    have hnonAscii : rest ++ [v] <+: framesText stringify more' := by
      obtain ⟨after, hafter⟩ := prefix_of_buffer hframes hbuffer [c] hnext
      rw [framesText_append] at hafter
      refine ⟨vs ++ after, ?_⟩
      have htoJs : toJs [c] = v :: vs := by simp [toJs, hutf16]
      rw [htoJs] at hafter
      simp only [List.append_assoc, List.append_cancel_left_eq] at hafter
      simpa using hafter
    cases hends with
    | done => simp [framesText] at hnonAscii
    | inside hinside =>
        refine consume_last json (rest ++ [0xFFFD]) ?_ ?_ (fun _ => ?_)
          fun h => absurd h hcutShort
        · rw [TextDecoder.flush, if_neg hneeded, List.append_assoc]
          rfl
        · exact ((body_unbroken json _).of_isPrefix hinside).concat (by decide) (by decide)
        · exact events_of_truncated
            (truncated_replaced json _ hv (endsIn_nonAscii hv hinside hnonAscii))

/-- **The loop** reads what is left. -/
lemma consume_loop (json : IsJson stringify parse) (failed : Bool) {frames : List (SseFrame δ)}
    (chunks : List (List ℕ)) {done more : List (SseFrame δ)} {decoder : TextDecoder}
    {bytes : List ℕ} {chars : List Char} {buffer : JsString}
    (hdecoder : decoder.At bytes chars) (hframes : frames = done ++ more)
    (hbuffer : toJs chars = framesText stringify done ++ buffer)
    (hbytes : bytes ++ chunks.flatten <+: encodeText (sseText stringify frames)) :
    Reads more (bytes ++ chunks.flatten = encodeText (sseText stringify frames) ∧ failed = false)
      (consumeChunks parse failed decoder buffer chunks) := by
  induction chunks generalizing done more decoder bytes chars buffer with
  | nil =>
      rw [List.flatten_nil, List.append_nil] at hbytes ⊢
      cases failed with
      | true => exact ⟨List.nil_prefix, by rintro ⟨-, ⟨⟩⟩⟩
      | false =>
          have h := consume_end json hdecoder hframes hbuffer hbytes
          exact ⟨h.events, fun hwhole => h.all hwhole.1⟩
  | cons chunk chunks ih =>
      rw [List.flatten_cons, ← List.append_assoc] at hbytes ⊢
      have hread : bytes ++ chunk <+: encodeText (sseText stringify frames) :=
        (List.prefix_append _ _).trans hbytes
      have hdecoder' := hdecoder.decode (sseText_head frames) hread
      have hdecoded := (decodeBytes_of_isPrefix hread).isPrefix
      rw [hdecoder'.decoded] at hdecoded
      obtain ⟨done', more', rest, rfl, hrest, hends⟩ :=
        prefix_framesText (prefix_of_buffer hframes hbuffer _ hdecoded)
      have hturn : consumeChunks parse failed decoder buffer (chunk :: chunks)
          = SseOutcome.andThen ⟨sentEvents done', false⟩
            (consumeChunks parse failed (decoder.decode chunk).2 rest chunks) := by
        rewrite [consumeChunks, hrest, readBuffer_framesText json done' (hends.unbroken json)]
        rfl
      rw [hturn]
      have hframes' : frames = (done ++ done') ++ more' := by rw [hframes, List.append_assoc]
      refine Reads.andThen (ih hdecoder' hframes' ?_ hbytes)
      rw [toJs_append, hbuffer, framesText_append, List.append_assoc, hrest, List.append_assoc]

end Frames

/-- **The event stream, end to end.**  Whatever frames are written, however a beginning of their
bytes is cut into chunks and whether or not the connection fails then, the client reads a beginning
of the events sent; it reads all of them, and does not throw, when it gets all bytes. -/
theorem sse_round_trip {δ : Type*} (stringify : δ → List Char) (parse : JsString → Option δ)
    (json : IsJson stringify parse) (frames : List (SseFrame δ)) (chunks : List (List ℕ))
    (hbegins : chunks.flatten <+: encodeText (sseText stringify frames)) (failed : Bool) :
    (consumeSse parse failed chunks).events <+: sentEvents frames
      ∧ (chunks.flatten = encodeText (sseText stringify frames) → failed = false →
        consumeSse parse failed chunks = ⟨sentEvents frames, false⟩) := by
  have h := consume_loop json failed chunks TextDecoder.at_initial (List.nil_append frames).symm rfl
    hbegins
  exact ⟨h.events, fun hwhole hfailed => h.all ⟨hwhole, hfailed⟩⟩

def deltaJson (_ : Unit) : List Char :=
  "\x7b\"assistantMessageId\":\"a\",\"delta\":\"é\"\x7d".toList

/-- `JSON.parse`, as far as that delta goes. -/
def parseDelta (text : JsString) : Option Unit := if text = toJs (deltaJson ()) then some () else none

lemma deltaJson_isJson : IsJson deltaJson parseDelta where
  isLine := fun () => by decide +kernel
  isObject := fun () => by decide +kernel
  roundTrip _ := if_pos rfl
  prefixFree _ _ _ hne := if_neg hne
  replaced text := by
    refine if_neg fun heq => ?_
    have hlast := congrArg List.getLast? heq
    rw [List.getLast?_concat] at hlast
    have hbrace : (toJs (deltaJson ())).getLast? = some 0x7D := by decide +kernel
    rw [hbrace] at hlast
    cases hlast

/-- A delta and a heartbeat. -/
def deltaFrames : List (SseFrame Unit) := [.Event .MessageDelta (), .Heartbeat]

/-- Their bytes, cut inside the letter that takes two of them. -/
def deltaChunks : List (List ℕ) :=
  [(encodeText (sseText deltaJson deltaFrames)).take 63,
    (encodeText (sseText deltaJson deltaFrames)).drop 63]

/-- The delta arrives. -/
theorem sse_round_trip_delta :
    (consumeSse parseDelta false deltaChunks).events <+: sentEvents deltaFrames
      ∧ (deltaChunks.flatten = encodeText (sseText deltaJson deltaFrames) → false = false →
        consumeSse parseDelta false deltaChunks = ⟨sentEvents deltaFrames, false⟩) :=
  sse_round_trip deltaJson parseDelta deltaJson_isJson deltaFrames deltaChunks
    (by simp [deltaChunks]) false

end RagStack
