import Mathlib.Computability.RegularExpressions
import Mathlib.Data.List.DropRight
import Mathlib.Algebra.GroupWithZero.Nat

/-!
# ECMAScript strings

A string of the language is a sequence of UTF-16 code units: `length`, `slice` and the regular
expressions without the `u` flag all count and compare code units, so a lone surrogate is a legal
string and an emoji has length two.  A limit on the length of a text is a limit on this length, and
a cut at such a limit can fall between the two units of one character.  A model over characters
would not see this, which is why texts are lists of `UInt16` wherever a program measures or cuts
them.  Texts that are only passed on and compared, such as identifiers and names, can be Lean's
strings.

The functions are those of the language, under its names as far as they are free.  Of the white
space characters `trim` removes, all are single code units, so that removing them is dropping list
elements at both ends.  `split` takes its separator as the length of a match at the beginning of a
text, and this one function serves literal separators and regular expressions alike.

Regular expressions are Mathlib's, whose matcher `rmatch` takes Brzozowski derivatives and is
executable.  The functions below spell out the character classes and the `i` flag.
-/

namespace RagStack

/-- A string of the language: its UTF-16 code units, in no particular encoding state.  It need not
be well formed. -/
abbrev JsString : Type := List UInt16

/-- The UTF-16 encoding of one scalar value: one unit, or a surrogate pair from `0x10000` on. -/
def utf16 (c : Char) : List UInt16 :=
  if c.toNat < 0x10000 then [c.toNat.toUInt16]
  else
    [(0xD800 + (c.toNat - 0x10000) / 0x400).toUInt16,
      (0xDC00 + (c.toNat - 0x10000) % 0x400).toUInt16]

/-- A text of the decoder as a string of the language. -/
def toJs (text : List Char) : JsString := text.flatMap utf16

/-- A string literal. -/
def js (s : String) : JsString := s.toList.flatMap utf16

/-- A literal by its characters, without decoding it. -/
lemma js_ofList (chars : List Char) : js (String.ofList chars) = chars.flatMap utf16 := by
  rw [js, String.toList_ofList]

namespace JsString

/-- `\s`, which is also what `trim` removes: the white space and line terminator code units. -/
def whitespace : List UInt16 :=
  [0x09, 0x0A, 0x0B, 0x0C, 0x0D, 0x20, 0xA0, 0x1680, 0x2000, 0x2001, 0x2002, 0x2003, 0x2004,
    0x2005, 0x2006, 0x2007, 0x2008, 0x2009, 0x200A, 0x2028, 0x2029, 0x202F, 0x205F, 0x3000, 0xFEFF]

/-- `text.trim()`. -/
def trim (text : JsString) : JsString :=
  (text.dropWhile (· ∈ whitespace)).rdropWhile (· ∈ whitespace)

/-- `text.trimStart()`. -/
def trimStart (text : JsString) : JsString := text.dropWhile (· ∈ whitespace)

/-- `text.startsWith(word)`. -/
def startsWith (text word : JsString) : Bool := word.isPrefixOf text

/-- `text.slice(0, end)`. -/
def sliceTo (text : JsString) (stop : ℕ) : JsString := text.take stop

/-- A string or `null` used as a condition: only a non-empty string holds. -/
def truthy (text : Option JsString) : Option JsString := text.filter (· ≠ [])

/-- `parts.join(separator)`. -/
def join (separator : JsString) (parts : List JsString) : JsString := separator.intercalate parts

lemma join_singleton (separator part : JsString) : join separator [part] = part := by
  simp [join, List.intercalate]

lemma join_cons_cons (separator part next : JsString) (parts : List JsString) :
    join separator (part :: next :: parts)
      = part ++ separator ++ join separator (next :: parts) := by
  simp [join, List.intercalate]

/-- The separator stands behind every part but the last. -/
lemma length_join (separator : JsString) {parts : List JsString} (hne : parts ≠ []) :
    (join separator parts).length + separator.length
      = (parts.map fun part => part.length + separator.length).sum := by
  induction parts with
  | nil => exact absurd rfl hne
  | cons part parts ih =>
      cases parts with
      | nil => simp [join_singleton]
      | cons next parts =>
          have htail := ih (by simp)
          rw [join_cons_cons, List.map_cons, List.sum_cons, ← htail]
          simp only [List.length_append]
          omega

/-! ## `trim`

A text is its trimmed part with white space on both sides, and the trimmed part does not begin with
any.  Trimming twice is therefore trimming once. -/

section Trim

variable (text : JsString)

/-- What `trim` removes is white space, on both sides. -/
lemma exists_eq_append_trim :
    ∃ front back : JsString, text = front ++ (text.trim ++ back)
      ∧ (∀ u ∈ front, u ∈ whitespace) ∧ ∀ u ∈ back, u ∈ whitespace := by
  let space : UInt16 → Bool := (· ∈ whitespace)
  refine ⟨text.takeWhile space, (text.dropWhile space).rtakeWhile space, ?_, ?_, ?_⟩
  · rw [trim, List.rdropWhile_append_rtakeWhile, List.takeWhile_append_dropWhile]
  · intro u hu
    exact of_decide_eq_true (List.mem_takeWhile_imp (p := space) hu)
  · intro u hu
    exact of_decide_eq_true (List.mem_rtakeWhile_imp (p := space) hu)

/-- A trimmed text begins where `trimStart` stopped. -/
lemma head_trim_notMem {u : UInt16} {rest : JsString} (h : text.trim = u :: rest) :
    u ∉ whitespace := by
  obtain ⟨back, hback⟩ : text.trim <+: text.dropWhile (· ∈ whitespace) :=
    List.rdropWhile_prefix _ _
  rw [h, List.cons_append] at hback
  have hstop := List.head?_dropWhile_not (· ∈ whitespace) text
  rw [← hback] at hstop
  exact of_decide_eq_false hstop

@[simp] lemma trim_trim : text.trim.trim = text.trim := by
  have hstart : text.trim.dropWhile (· ∈ whitespace) = text.trim := by
    cases h : text.trim with
    | nil => rfl
    | cons u rest =>
        rw [List.dropWhile_cons_of_neg]
        simpa using head_trim_notMem text h
  calc text.trim.trim
      = text.trim.rdropWhile (· ∈ whitespace) := by rw [trim, hstart]
    _ = text.trim := List.rdropWhile_idempotent _ _

end Trim

/-! ## `split`

The function goes through the text once and counts down the code units of a match that has begun, as
the specification of the language does with its index. -/

/-- `u` before the first of `parts`. -/
def consHead (u : UInt16) : List JsString → List JsString
  | [] => [[u]]
  | part :: parts => (u :: part) :: parts

/-- The parts of what follows the next `skip` code units, which belong to a match. -/
def splitFrom (matchLength : JsString → Option ℕ) : ℕ → JsString → List JsString
  | _, [] => [[]]
  | skip + 1, _ :: text => splitFrom matchLength skip text
  | 0, u :: text =>
      match matchLength (u :: text) with
      | some n => [] :: splitFrom matchLength (n - 1) text
      | none => consHead u (splitFrom matchLength 0 text)

/-- `text.split(separator)`, for a regular expression that matches no empty string: `matchLength`
is the length of its match at the beginning of a text. -/
def split (matchLength : JsString → Option ℕ) (text : JsString) : List JsString :=
  splitFrom matchLength 0 text

section Split

variable {matchLength : JsString → Option ℕ} {u : UInt16} {text rest part separator : JsString}

lemma splitFrom_length (part rest : JsString) :
    splitFrom matchLength part.length (part ++ rest) = split matchLength rest := by
  induction part with
  | nil => rfl
  | cons u part ih => exact ih

lemma split_cons_of_none (h : matchLength (u :: text) = none) :
    split matchLength (u :: text) = consHead u (split matchLength text) := by
  rw [split, splitFrom, h]
  rfl

/-- A text without a match is one part. -/
lemma split_eq_singleton (h : ∀ u text', (u :: text') <:+ text → matchLength (u :: text') = none) :
    split matchLength text = [text] := by
  induction text with
  | nil => rfl
  | cons u text ih =>
      rw [split_cons_of_none (h u text List.suffix_rfl),
        ih fun v text' hsuffix => h v text' (hsuffix.trans (List.suffix_cons u text))]
      rfl

lemma split_append (hne : separator ≠ [])
    (hseparator : matchLength (separator ++ rest) = some separator.length)
    (hpart : ∀ u part', (u :: part') <:+ part →
      matchLength (u :: (part' ++ (separator ++ rest))) = none) :
    split matchLength (part ++ (separator ++ rest)) = part :: split matchLength rest := by
  induction part with
  | nil =>
      obtain ⟨u, separator', rfl⟩ := List.exists_cons_of_ne_nil hne
      rw [List.nil_append, split, List.cons_append, splitFrom]
      rw [List.cons_append] at hseparator
      rw [hseparator]
      exact congrArg _ (splitFrom_length separator' rest)
  | cons u part ih =>
      rw [List.cons_append, split_cons_of_none (hpart u part List.suffix_rfl),
        ih fun v part' hsuffix => hpart v part' (hsuffix.trans (List.suffix_cons u part))]
      rfl

end Split

/-! ## Regular expressions -/

/-- A character class `[...]`. -/
def anyOf (units : List UInt16) : RegularExpression UInt16 :=
  units.foldr (fun u r => .char u + r) 0

/-- `r?`. -/
def optional (r : RegularExpression UInt16) : RegularExpression UInt16 := 1 + r

/-- An ASCII word under the `i` flag. -/
def ignoringCase (word : String) : RegularExpression UInt16 :=
  word.toList.foldr (fun c r => anyOf [c.toLower.toNat.toUInt16, c.toUpper.toNat.toUInt16] * r) 1

lemma anyOf_rmatch_iff {units : List UInt16} {text : JsString} :
    (anyOf units).rmatch text = true ↔ ∃ u ∈ units, text = [u] := by
  induction units with
  | nil => simp [anyOf, RegularExpression.zero_rmatch]
  | cons u units ih =>
      rw [show anyOf (u :: units) = .char u + anyOf units from rfl,
        RegularExpression.add_rmatch_iff, RegularExpression.char_rmatch_iff, ih]
      simp

lemma star_anyOf_rmatch_iff {units : List UInt16} {text : JsString} :
    (RegularExpression.star (anyOf units)).rmatch text = true ↔ ∀ u ∈ text, u ∈ units := by
  rw [RegularExpression.star_rmatch_iff]
  constructor
  · rintro ⟨parts, rfl, hparts⟩ u hu
    obtain ⟨part, hpart, hu⟩ := List.mem_flatten.mp hu
    obtain ⟨v, hv, rfl⟩ := anyOf_rmatch_iff.mp (hparts part hpart).2
    rwa [List.mem_singleton.mp hu]
  · intro h
    refine ⟨text.map fun u => [u], ?_, ?_⟩
    · rw [← List.flatMap_def, List.flatMap_singleton']
    · intro part hpart
      obtain ⟨u, hu, rfl⟩ := List.mem_map.mp hpart
      exact ⟨List.cons_ne_nil u [], anyOf_rmatch_iff.mpr ⟨u, h u hu, rfl⟩⟩

end JsString

end RagStack
