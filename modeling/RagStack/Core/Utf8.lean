import Mathlib.Data.List.Infix

/-!
# UTF-8

The encoding of a text, and the decoder of the Encoding Standard as `TextDecoder` runs it: byte
after byte, over any number of calls, with a replacement character for what is malformed and without
a byte order mark at the beginning.  A byte is a number below 256.

Both directions of the wire are decoded in pieces that the network cuts where it likes, also inside
a character.  Two facts make this harmless.  `decode_append` says that the decoder does not see
where the pieces end, because all it keeps between two calls is its state.  And
`decodeBytes_of_isPrefix` says that on a beginning of a well-formed text it has yielded a beginning
of that text: the characters are complete, in order, and at most one of them, which is not an ASCII
character, is still waiting for bytes.  The second one is an induction on the text whose step is the
case analysis of one character, by its length in bytes.

Malformed bytes are not excluded.  The decoder is total on all of them, and the theorems on cuts
hold for them as well.

* `utf8` — the bytes of a character.
* `nextByte`, `decodeBytes` — the decoder.
* `decodeBytes_of_isPrefix` — on the beginning of an encoded text it yields a beginning of the text;
  if the bytes end inside a character, it waits for the rest.
* `TextDecoder`, `decode_append` — the decoder with its byte order mark, fed in pieces.
-/

namespace RagStack

def utf8 (c : Char) : List ℕ :=
  if c.toNat < 0x80 then [c.toNat]
  else if c.toNat < 0x800 then [0xC0 + c.toNat / 64, 0x80 + c.toNat % 64]
  else if c.toNat < 0x10000 then
    [0xE0 + c.toNat / 4096, 0x80 + c.toNat / 64 % 64, 0x80 + c.toNat % 64]
  else
    [0xF0 + c.toNat / 262144, 0x80 + c.toNat / 4096 % 64, 0x80 + c.toNat / 64 % 64,
      0x80 + c.toNat % 64]

def encodeText (text : List Char) : List ℕ := text.flatMap utf8

/-- What stands for a malformed sequence. -/
def replacement : Char := Char.ofNat 0xFFFD

/-- The state of the decoder: the bits so far, how many bytes are missing, and the range of the
next one. -/
structure Utf8State where
  codePoint : ℕ
  needed : ℕ
  lower : ℕ
  upper : ℕ
  deriving Repr, DecidableEq

/-- Between two characters. -/
def Utf8State.ready : Utf8State := ⟨0, 0, 0x80, 0xBF⟩

/-- The first byte of a character. -/
def firstByte (b : ℕ) : List Char × Utf8State :=
  if b ≤ 0x7F then ([Char.ofNat b], .ready)
  else if 0xC2 ≤ b ∧ b ≤ 0xDF then ([], ⟨b % 32, 1, 0x80, 0xBF⟩)
  else if 0xE0 ≤ b ∧ b ≤ 0xEF then
    ([], ⟨b % 16, 2, if b = 0xE0 then 0xA0 else 0x80, if b = 0xED then 0x9F else 0xBF⟩)
  else if 0xF0 ≤ b ∧ b ≤ 0xF4 then
    ([], ⟨b % 8, 3, if b = 0xF0 then 0x90 else 0x80, if b = 0xF4 then 0x8F else 0xBF⟩)
  else ([replacement], .ready)

/-- Any byte.  One that does not continue the character is the first of another. -/
def nextByte (s : Utf8State) (b : ℕ) : List Char × Utf8State :=
  if s.needed = 0 then firstByte b
  else if s.lower ≤ b ∧ b ≤ s.upper then
    if s.needed = 1 then ([Char.ofNat (s.codePoint * 64 + b % 64)], .ready)
    else ([], ⟨s.codePoint * 64 + b % 64, s.needed - 1, 0x80, 0xBF⟩)
  else (replacement :: (firstByte b).1, (firstByte b).2)

/-- A sequence of bytes: the characters, and the state after them. -/
def decodeBytes (s : Utf8State) : List ℕ → List Char × Utf8State
  | [] => ([], s)
  | b :: bytes =>
      ((nextByte s b).1 ++ (decodeBytes (nextByte s b).2 bytes).1,
        (decodeBytes (nextByte s b).2 bytes).2)

lemma decodeBytes_append (s : Utf8State) (bytes bytes' : List ℕ) :
    decodeBytes s (bytes ++ bytes')
      = ((decodeBytes s bytes).1 ++ (decodeBytes (decodeBytes s bytes).2 bytes').1,
        (decodeBytes (decodeBytes s bytes).2 bytes').2) := by
  induction bytes generalizing s with
  | nil => rfl
  | cons b bytes ih => simp only [List.cons_append, decodeBytes, ih, List.append_assoc]

/-! ## One character

The arithmetic of the encoding is confined to this section.  A beginning of the bytes of a character
is empty, or leaves the decoder waiting for the rest, or is the whole character and has been decoded
(`Beginning`). -/

section Character

variable {s : Utf8State} {b : ℕ} {c : Char} {bytes : List ℕ}

lemma nextByte_ready : nextByte .ready b = firstByte b := rfl

/-- A byte in range, of which more follow. -/
lemma nextByte_middle {k : ℕ} (hneeded : s.needed = k + 2) (hlower : s.lower ≤ b)
    (hupper : b ≤ s.upper) :
    nextByte s b = ([], ⟨s.codePoint * 64 + b % 64, k + 1, 0x80, 0xBF⟩) := by
  rw [nextByte, if_neg (by omega), if_pos ⟨hlower, hupper⟩, if_neg (by omega), hneeded]
  rfl

lemma nextByte_last (c : Char) :
    nextByte ⟨c.toNat / 64, 1, 0x80, 0xBF⟩ (0x80 + c.toNat % 64) = ([c], .ready) := by
  have hvalue : c.toNat / 64 * 64 + (0x80 + c.toNat % 64) % 64 = c.toNat := by omega
  rw [nextByte, if_neg Nat.one_ne_zero, if_pos (by constructor <;> dsimp only <;> omega), if_pos rfl,
    hvalue, Char.ofNat_toNat]

lemma nextByte_lastButOne (c : Char) {lower upper : ℕ} (hlower : lower ≤ 0x80 + c.toNat / 64 % 64)
    (hupper : 0x80 + c.toNat / 64 % 64 ≤ upper) :
    nextByte ⟨c.toNat / 4096, 2, lower, upper⟩ (0x80 + c.toNat / 64 % 64)
      = ([], ⟨c.toNat / 64, 1, 0x80, 0xBF⟩) := by
  have hvalue : c.toNat / 4096 * 64 + (0x80 + c.toNat / 64 % 64) % 64 = c.toNat / 64 := by omega
  rw [nextByte_middle rfl hlower hupper, hvalue]

/-- The scalar values: those below `0x110000` that are no surrogates. -/
lemma toNat_scalar (c : Char) : c.toNat < 0xD800 ∨ 0xDFFF < c.toNat ∧ c.toNat < 0x110000 := c.valid

lemma utf8_ne_nil (c : Char) : utf8 c ≠ [] := by
  unfold utf8
  split_ifs <;> exact List.cons_ne_nil _ _

/-- Inside a character: nothing is decoded yet and bytes are missing. -/
structure Waiting (c : Char) (bytes : List ℕ) : Prop where
  chars : (decodeBytes .ready bytes).1 = []
  needed : (decodeBytes .ready bytes).2.needed ≠ 0
  nonAscii : 0x80 ≤ c.toNat
  short : bytes.length < (utf8 c).length

/-- What a beginning of the bytes of a character can be. -/
def Beginning (c : Char) (bytes : List ℕ) : Prop :=
  bytes = [] ∨ Waiting c bytes ∨ bytes = utf8 c ∧ decodeBytes .ready bytes = ([c], .ready)

lemma beginning_one (hc : c.toNat < 0x80) (h : bytes <+: utf8 c) : Beginning c bytes := by
  have hutf8 : utf8 c = [c.toNat] := by rw [utf8, if_pos hc]
  have hfirst : nextByte .ready c.toNat = ([c], .ready) := by
    rw [nextByte_ready, firstByte, if_pos (by omega), Char.ofNat_toNat]
  rw [hutf8] at h
  rcases List.prefix_cons_iff.mp h with rfl | ⟨bytes₁, rfl, h₁⟩
  · exact .inl rfl
  · rw [List.prefix_nil.mp h₁]
    exact .inr (.inr ⟨hutf8.symm, by simp [decodeBytes, hfirst]⟩)

lemma beginning_two (hlow : 0x80 ≤ c.toNat) (hc : c.toNat < 0x800) (h : bytes <+: utf8 c) :
    Beginning c bytes := by
  have hutf8 : utf8 c = [0xC0 + c.toNat / 64, 0x80 + c.toNat % 64] := by
    rw [utf8, if_neg (by omega), if_pos hc]
  have hfirst : nextByte .ready (0xC0 + c.toNat / 64) = ([], ⟨c.toNat / 64, 1, 0x80, 0xBF⟩) := by
    rw [nextByte_ready, firstByte, if_neg (by omega), if_pos (by omega),
      show (0xC0 + c.toNat / 64) % 32 = c.toNat / 64 by omega]
  rw [hutf8] at h
  rcases List.prefix_cons_iff.mp h with rfl | ⟨bytes₁, rfl, h₁⟩
  · exact .inl rfl
  rcases List.prefix_cons_iff.mp h₁ with rfl | ⟨bytes₂, rfl, h₂⟩
  · exact .inr (.inl ⟨by simp [decodeBytes, hfirst], by simp [decodeBytes, hfirst], hlow,
      by simp [hutf8]⟩)
  · rw [List.prefix_nil.mp h₂]
    exact .inr (.inr ⟨hutf8.symm, by simp [decodeBytes, hfirst, nextByte_last]⟩)

lemma beginning_three (hlow : 0x800 ≤ c.toNat) (hc : c.toNat < 0x10000) (h : bytes <+: utf8 c) :
    Beginning c bytes := by
  have hscalar := toNat_scalar c
  have hutf8 : utf8 c
      = [0xE0 + c.toNat / 4096, 0x80 + c.toNat / 64 % 64, 0x80 + c.toNat % 64] := by
    rw [utf8, if_neg (by omega), if_neg (by omega), if_pos hc]
  -- `E0` and `ED` narrow the range of the second byte: no overlong forms, no surrogates
  obtain ⟨lower, upper, hfirst, hlower, hupper⟩ : ∃ lower upper,
      nextByte .ready (0xE0 + c.toNat / 4096) = ([], ⟨c.toNat / 4096, 2, lower, upper⟩)
        ∧ lower ≤ 0x80 + c.toNat / 64 % 64 ∧ 0x80 + c.toNat / 64 % 64 ≤ upper := by
    refine ⟨if 0xE0 + c.toNat / 4096 = 0xE0 then 0xA0 else 0x80,
      if 0xE0 + c.toNat / 4096 = 0xED then 0x9F else 0xBF, ?_, ?_, ?_⟩
    · rw [nextByte_ready, firstByte, if_neg (by omega), if_neg (by omega), if_pos (by omega),
        show (0xE0 + c.toNat / 4096) % 16 = c.toNat / 4096 by omega]
    · split_ifs <;> omega
    · split_ifs <;> omega
  have hsecond := nextByte_lastButOne c hlower hupper
  rw [hutf8] at h
  rcases List.prefix_cons_iff.mp h with rfl | ⟨bytes₁, rfl, h₁⟩
  · exact .inl rfl
  rcases List.prefix_cons_iff.mp h₁ with rfl | ⟨bytes₂, rfl, h₂⟩
  · exact .inr (.inl ⟨by simp [decodeBytes, hfirst], by simp [decodeBytes, hfirst], by omega,
      by simp [hutf8]⟩)
  rcases List.prefix_cons_iff.mp h₂ with rfl | ⟨bytes₃, rfl, h₃⟩
  · exact .inr (.inl ⟨by simp [decodeBytes, hfirst, hsecond],
      by simp [decodeBytes, hfirst, hsecond], by omega, by simp [hutf8]⟩)
  · rw [List.prefix_nil.mp h₃]
    exact .inr (.inr ⟨hutf8.symm, by simp [decodeBytes, hfirst, hsecond, nextByte_last]⟩)

lemma beginning_four (hlow : 0x10000 ≤ c.toNat) (h : bytes <+: utf8 c) : Beginning c bytes := by
  have hscalar := toNat_scalar c
  have hutf8 : utf8 c = [0xF0 + c.toNat / 262144, 0x80 + c.toNat / 4096 % 64,
      0x80 + c.toNat / 64 % 64, 0x80 + c.toNat % 64] := by
    rw [utf8, if_neg (by omega), if_neg (by omega), if_neg (by omega)]
  -- `F0` and `F4` narrow the range of the second byte: no overlong forms, nothing too large
  obtain ⟨lower, upper, hfirst, hlower, hupper⟩ : ∃ lower upper,
      nextByte .ready (0xF0 + c.toNat / 262144) = ([], ⟨c.toNat / 262144, 3, lower, upper⟩)
        ∧ lower ≤ 0x80 + c.toNat / 4096 % 64 ∧ 0x80 + c.toNat / 4096 % 64 ≤ upper := by
    refine ⟨if 0xF0 + c.toNat / 262144 = 0xF0 then 0x90 else 0x80,
      if 0xF0 + c.toNat / 262144 = 0xF4 then 0x8F else 0xBF, ?_, ?_, ?_⟩
    · rw [nextByte_ready, firstByte, if_neg (by omega), if_neg (by omega), if_neg (by omega),
        if_pos (by omega), show (0xF0 + c.toNat / 262144) % 8 = c.toNat / 262144 by omega]
    · split_ifs <;> omega
    · split_ifs <;> omega
  have hsecond : nextByte ⟨c.toNat / 262144, 3, lower, upper⟩ (0x80 + c.toNat / 4096 % 64)
      = ([], ⟨c.toNat / 4096, 2, 0x80, 0xBF⟩) := by
    rw [nextByte_middle rfl hlower hupper, show c.toNat / 262144 * 64
      + (0x80 + c.toNat / 4096 % 64) % 64 = c.toNat / 4096 by omega]
  have hthird : nextByte ⟨c.toNat / 4096, 2, 0x80, 0xBF⟩ (0x80 + c.toNat / 64 % 64)
      = ([], ⟨c.toNat / 64, 1, 0x80, 0xBF⟩) := nextByte_lastButOne c (by omega) (by omega)
  rw [hutf8] at h
  rcases List.prefix_cons_iff.mp h with rfl | ⟨bytes₁, rfl, h₁⟩
  · exact .inl rfl
  rcases List.prefix_cons_iff.mp h₁ with rfl | ⟨bytes₂, rfl, h₂⟩
  · exact .inr (.inl ⟨by simp [decodeBytes, hfirst], by simp [decodeBytes, hfirst], by omega,
      by simp [hutf8]⟩)
  rcases List.prefix_cons_iff.mp h₂ with rfl | ⟨bytes₃, rfl, h₃⟩
  · exact .inr (.inl ⟨by simp [decodeBytes, hfirst, hsecond],
      by simp [decodeBytes, hfirst, hsecond], by omega, by simp [hutf8]⟩)
  rcases List.prefix_cons_iff.mp h₃ with rfl | ⟨bytes₄, rfl, h₄⟩
  · exact .inr (.inl ⟨by simp [decodeBytes, hfirst, hsecond, hthird],
      by simp [decodeBytes, hfirst, hsecond, hthird], by omega, by simp [hutf8]⟩)
  · rw [List.prefix_nil.mp h₄]
    exact .inr (.inr ⟨hutf8.symm, by simp [decodeBytes, hfirst, hsecond, hthird, nextByte_last]⟩)

/-- **The beginning of one character.** -/
lemma beginning_of_isPrefix (h : bytes <+: utf8 c) : Beginning c bytes := by
  by_cases hone : c.toNat < 0x80
  · exact beginning_one hone h
  by_cases htwo : c.toNat < 0x800
  · exact beginning_two (by omega) htwo h
  by_cases hthree : c.toNat < 0x10000
  · exact beginning_three (by omega) hthree h
  · exact beginning_four (by omega) h

/-- **A whole character.** -/
lemma decodeBytes_utf8 (c : Char) : decodeBytes .ready (utf8 c) = ([c], .ready) := by
  rcases beginning_of_isPrefix (List.prefix_rfl (l := utf8 c)) with h | h | ⟨-, h⟩
  · exact absurd h (utf8_ne_nil c)
  · exact absurd h.short (lt_irrefl _)
  · exact h

end Character

/-! ## A text

What is known about a text is what is known about its last character, since the decoder is between
two characters after every complete one. -/

/-- What is known after the beginning `bytes` of a text: a beginning `chars` of it, and either the
bytes end there, or they end inside the character after it, which is not ASCII. -/
structure DecodedPrefix (text : List Char) (bytes : List ℕ) : Prop where
  isPrefix : (decodeBytes .ready bytes).1 <+: text
  cut : (decodeBytes .ready bytes).2.needed = 0 ∧ bytes = encodeText (decodeBytes .ready bytes).1
    ∨ (decodeBytes .ready bytes).2.needed ≠ 0 ∧ bytes ≠ encodeText text
      ∧ ∃ c, 0x80 ≤ c.toNat ∧ (decodeBytes .ready bytes).1 ++ [c] <+: text

lemma encodeText_cons (c : Char) (text : List Char) :
    encodeText (c :: text) = utf8 c ++ encodeText text := List.flatMap_cons

lemma prefix_append_cases {α : Type*} {l l₁ l₂ : List α} (h : l <+: l₁ ++ l₂) :
    l <+: l₁ ∨ ∃ l', l = l₁ ++ l' ∧ l' <+: l₂ := by
  rcases le_total l.length l₁.length with hle | hle
  · exact .inl (List.prefix_of_prefix_length_le h (List.prefix_append l₁ l₂) hle)
  · obtain ⟨l', rfl⟩ := List.prefix_of_prefix_length_le (List.prefix_append l₁ l₂) h hle
    exact .inr ⟨l', rfl, (List.prefix_append_right_inj l₁).mp h⟩

/-- **The beginning of a text.**  However the bytes of a text are cut off, what has been decoded is
a beginning of the text, and the decoder knows whether it is inside a character. -/
theorem decodeBytes_of_isPrefix {text : List Char} {bytes : List ℕ} (h : bytes <+: encodeText text) :
    DecodedPrefix text bytes := by
  induction text generalizing bytes with
  | nil =>
      obtain rfl := List.prefix_nil.mp h
      exact ⟨List.prefix_rfl, .inl ⟨rfl, rfl⟩⟩
  | cons c text ih =>
      rw [encodeText_cons] at h
      rcases prefix_append_cases h with h | ⟨bytes', rfl, h'⟩
      · rcases beginning_of_isPrefix h with rfl | h | ⟨rfl, hdecoded⟩
        · exact ⟨List.nil_prefix, .inl ⟨rfl, rfl⟩⟩
        · refine ⟨h.chars ▸ List.nil_prefix, .inr ⟨h.needed, ?_, c, h.nonAscii, ?_⟩⟩
          · intro heq
            have hshort := h.short
            rw [heq, encodeText_cons, List.length_append] at hshort
            omega
          · rw [h.chars]
            exact List.cons_prefix_cons.mpr ⟨rfl, List.nil_prefix⟩
        · refine ⟨?_, .inl ?_⟩
          · rw [hdecoded]
            exact List.cons_prefix_cons.mpr ⟨rfl, List.nil_prefix⟩
          · rw [hdecoded, encodeText_cons]
            exact ⟨rfl, (List.append_nil _).symm⟩
      · obtain ⟨hbegins, hcut⟩ := ih h'
        have happend : decodeBytes .ready (utf8 c ++ bytes')
            = (c :: (decodeBytes .ready bytes').1, (decodeBytes .ready bytes').2) := by
          rw [decodeBytes_append, decodeBytes_utf8]
          rfl
        refine ⟨?_, ?_⟩
        · rw [happend]
          exact List.cons_prefix_cons.mpr ⟨rfl, hbegins⟩
        · rw [happend, encodeText_cons, encodeText_cons]
          refine hcut.imp ?_ ?_
          · rintro ⟨hneeded, hbytes⟩
            exact ⟨hneeded, congrArg (utf8 c ++ ·) hbytes⟩
          · rintro ⟨hneeded, hne, c', hc', hbegins'⟩
            exact ⟨hneeded, fun heq => hne (List.append_cancel_left heq), c', hc',
              List.cons_prefix_cons.mpr ⟨rfl, hbegins'⟩⟩

lemma decodeBytes_encodeText (text : List Char) : (decodeBytes .ready (encodeText text)).1 = text := by
  induction text with
  | nil => rfl
  | cons c text ih => rw [encodeText_cons, decodeBytes_append, decodeBytes_utf8, ih]; rfl

/-! ## In pieces

`TextDecoder` adds the byte order mark to the decoder: it is dropped if it is the first character,
whichever piece it arrives in. -/

/-- `TextDecoder`, by default: the state, and whether a first character has been seen. -/
structure TextDecoder where
  state : Utf8State
  bomSeen : Bool
  deriving Repr, DecidableEq

namespace TextDecoder

/-- `new TextDecoder()`. -/
def initial : TextDecoder := ⟨.ready, false⟩

/-- What is left of the next characters: a byte order mark at the very beginning is dropped. -/
def dropBom (bomSeen : Bool) : List Char → List Char
  | [] => []
  | c :: chars => if !bomSeen && c = Char.ofNat 0xFEFF then chars else c :: chars

/-- `decode(bytes, { stream: true })`. -/
def decode (d : TextDecoder) (bytes : List ℕ) : List Char × TextDecoder :=
  (dropBom d.bomSeen (decodeBytes d.state bytes).1,
    ⟨(decodeBytes d.state bytes).2, d.bomSeen || !(decodeBytes d.state bytes).1.isEmpty⟩)

lemma dropBom_append (bomSeen : Bool) (chars chars' : List Char) :
    dropBom bomSeen (chars ++ chars')
      = dropBom bomSeen chars ++ dropBom (bomSeen || !chars.isEmpty) chars' := by
  cases chars with
  | nil => simp [dropBom]
  | cons c chars =>
      have hseen : dropBom true chars' = chars' := by cases chars' <;> rfl
      simp only [List.isEmpty_cons, Bool.not_false, Bool.or_true, hseen, List.cons_append]
      simp only [dropBom]
      split <;> rfl

/-- **Where the bytes are cut makes no difference.**  Feeding two pieces one after the other yields
the same characters, and leaves the same decoder, as feeding both at once. -/
theorem decode_append (d : TextDecoder) (bytes bytes' : List ℕ) :
    d.decode (bytes ++ bytes')
      = ((d.decode bytes).1 ++ ((d.decode bytes).2.decode bytes').1,
        ((d.decode bytes).2.decode bytes').2) := by
  have hempty : ∀ chars chars' : List Char,
      (!(chars ++ chars').isEmpty) = (!chars.isEmpty || !chars'.isEmpty) := by
    intro chars chars'
    cases chars <;> rfl
  simp only [decode, decodeBytes_append, dropBom_append, hempty, Bool.or_assoc]

/-- `decode()`, after the last piece. -/
def flush (d : TextDecoder) : List Char := if d.state.needed = 0 then [] else [replacement]

/-- The decoder after `bytes` of a text, of which it has yielded `chars`. -/
structure At (d : TextDecoder) (bytes : List ℕ) (chars : List Char) : Prop where
  decoded : decodeBytes .ready bytes = (chars, d.state)
  bomSeen : d.bomSeen = false → chars = []

lemma at_initial : initial.At [] [] := ⟨rfl, fun _ => rfl⟩

/-- **The next piece** of a text that does not begin with a byte order mark. -/
lemma At.decode {d : TextDecoder} {bytes bytes' : List ℕ} {chars text : List Char}
    (h : d.At bytes chars) (hbom : text.head? ≠ some (Char.ofNat 0xFEFF))
    (hbegins : bytes ++ bytes' <+: encodeText text) :
    (d.decode bytes').2.At (bytes ++ bytes') (chars ++ (d.decode bytes').1) := by
  have happend : decodeBytes .ready (bytes ++ bytes')
      = (chars ++ (decodeBytes d.state bytes').1, (decodeBytes d.state bytes').2) := by
    rw [decodeBytes_append, h.decoded]
  have hkept : (d.decode bytes').1 = (decodeBytes d.state bytes').1 := by
    show dropBom d.bomSeen (decodeBytes d.state bytes').1 = (decodeBytes d.state bytes').1
    cases hchars : (decodeBytes d.state bytes').1 with
    | nil => rfl
    | cons c rest =>
        cases hseen : d.bomSeen with
        | true => rfl
        | false =>
            -- the first character of all
            have hfirst := (decodeBytes_of_isPrefix hbegins).isPrefix
            rw [happend, h.bomSeen hseen, hchars] at hfirst
            obtain ⟨more, rfl⟩ := hfirst
            refine if_neg fun hc => hbom ?_
            rw [Bool.and_eq_true] at hc
            exact congrArg some (of_decide_eq_true hc.2)
  refine ⟨?_, fun hseen => ?_⟩
  · rw [hkept]
    exact happend
  · rw [hkept]
    obtain ⟨hbefore, hempty⟩ := Bool.or_eq_false_iff.mp hseen
    rw [h.bomSeen hbefore]
    simpa using hempty

end TextDecoder

end RagStack
