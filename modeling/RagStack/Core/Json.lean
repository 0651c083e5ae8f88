import RagStack.Core.Utf16
import Mathlib.Data.Nat.Digits.Defs

/-!
# JSON

What `JSON.stringify` writes and `JSON.parse` reads.  A text is written as characters and read as
the units of a string.  Numbers are integers; the members of an object are in their order.

The writer and the reader are two programs that know nothing of each other.  The writer escapes what
has to be escaped and nothing more, with the short escapes where there are any, and it writes no
white space.  The reader accepts more than is ever written: white space between tokens, every escape
of the language, upper and lower case digits in a unicode escape.  This matters where the text is
cut off or damaged on the way, since what the reader then makes of it is not bounded by what a
writer could have produced.  Fractions and exponents are read as errors here, as no integer is
written with them.

The reader is a set of functions that each take what they read off the front of a text.  Values
nest, so the recursion is on a fuel, which the length of the text always covers: a value is at least
one unit shorter than the brackets around it.

* `Json.stringify` — the writer.
* `readValue`, `Json.parse` — the reader.  The fuel is the length of the text.
-/

namespace RagStack

inductive Json where
  | Null
  | Bool (value : Bool)
  | Number (value : ℤ)
  | String (text : JsString)
  | Array (items : List Json)
  | Object (members : List (JsString × Json))

/-! ## Strings

A string literal is written code point by code point, because a surrogate that is alone is escaped
and a pair is not.  It is read unit by unit. -/

/-- The characters with an escape of one letter, and the letter. -/
def shortEscapes : List (ℕ × ℕ) :=
  [(0x08, 0x62), (0x09, 0x74), (0x0A, 0x6E), (0x0C, 0x66), (0x0D, 0x72), (0x22, 0x22), (0x5C, 0x5C)]

def unicodeEscape (n : ℕ) : List Char :=
  [Char.ofNat 0x5C, 'u', Nat.digitChar (n / 4096), Nat.digitChar (n / 256 % 16),
    Nat.digitChar (n / 16 % 16), Nat.digitChar (n % 16)]

/-- A code point in a string literal. -/
def CodePoint.escape : CodePoint → List Char
  | Lone u => unicodeEscape u.toNat
  | Scalar c =>
      match shortEscapes.find? (·.1 = c.toNat) with
      | some entry => [Char.ofNat 0x5C, Char.ofNat entry.2]
      | none => if c.toNat < 0x20 then unicodeEscape c.toNat else [c]

/-- `QuoteJSONString`. -/
def quoteJson (text : JsString) : List Char :=
  Char.ofNat 0x22 :: ((codePoints text).flatMap (·.escape) ++ [Char.ofNat 0x22])

def hexOf (u : UInt16) : Option ℕ :=
  if 0x30 ≤ u.toNat ∧ u.toNat ≤ 0x39 then some (u.toNat - 0x30)
  else if 0x61 ≤ u.toNat ∧ u.toNat ≤ 0x66 then some (u.toNat - 0x57)
  else if 0x41 ≤ u.toNat ∧ u.toNat ≤ 0x46 then some (u.toNat - 0x37)
  else none

/-- The unit of four hexadecimal digits. -/
def readHex (a b c d : UInt16) : Option UInt16 := do
  let a ← hexOf a
  let b ← hexOf b
  let c ← hexOf c
  let d ← hexOf d
  return (a * 4096 + b * 256 + c * 16 + d).toUInt16

/-- The unit of an escape of one letter. -/
def readEscape (letter : UInt16) : Option UInt16 :=
  if letter = 0x2F then some 0x2F
  else (shortEscapes.find? (·.2 = letter.toNat)).map (·.1.toUInt16)

/-- What a reader reads, and the text behind it. -/
abbrev Reader (α : Type) : Type := JsString → Option (α × JsString)

/-- The rest of a string literal. -/
def readChars : Reader JsString
  | [] => none
  | u :: rest =>
      if u = 0x22 then some ([], rest)
      else if u = 0x5C then
        match rest with
        | [] => none
        | v :: rest =>
            if v = 0x75 then
              match rest with
              | a :: b :: c :: d :: rest =>
                  (readHex a b c d).bind fun w => (readChars rest).map fun r => (w :: r.1, r.2)
              | _ => none
            else (readEscape v).bind fun w => (readChars rest).map fun r => (w :: r.1, r.2)
      else if u.toNat < 0x20 then none
      else (readChars rest).map fun r => (u :: r.1, r.2)

/-! ## Numbers -/

/-- The digits of a natural number. -/
def natText (n : ℕ) : List Char :=
  if n = 0 then ['0'] else (Nat.digits 10 n).reverse.map Nat.digitChar

def intText (n : ℤ) : List Char := if n < 0 then '-' :: natText n.natAbs else natText n.natAbs

def IsDigit (u : UInt16) : Prop := 0x30 ≤ u.toNat ∧ u.toNat ≤ 0x39

instance : DecidablePred IsDigit := fun _ => inferInstanceAs (Decidable (_ ∧ _))

/-- The digits at the beginning, without a leading zero; a fraction or an exponent is not read. -/
def readNat : Reader ℕ := fun text =>
  let digits := text.takeWhile (IsDigit ·)
  let rest := text.dropWhile (IsDigit ·)
  if digits = [] ∨ (digits.head? = some 0x30 ∧ digits.length ≠ 1)
      ∨ rest.head? ∈ [some 0x2E, some 0x65, some 0x45] then none
  else some (Nat.ofDigits 10 (digits.reverse.map fun u => u.toNat - 0x30), rest)

def readInt : Reader ℤ := fun text =>
  if text.head? = some 0x2D then (readNat text.tail).map fun r => (-r.1, r.2)
  else (readNat text).map fun r => (r.1, r.2)

/-! ## Values

Arrays and objects share one reader of bracketed items, which is given the reader of an item. -/

mutual

def Json.stringify : Json → List Char
  | .Null => "null".toList
  | .Bool true => "true".toList
  | .Bool false => "false".toList
  | .Number value => intText value
  | .String text => quoteJson text
  | .Array items => '[' :: ([','].intercalate (stringifyItems items) ++ [']'])
  | .Object members =>
      Char.ofNat 0x7B :: ([','].intercalate (stringifyMembers members) ++ [Char.ofNat 0x7D])

def stringifyItems : List Json → List (List Char)
  | [] => []
  | item :: items => item.stringify :: stringifyItems items

def stringifyMembers : List (JsString × Json) → List (List Char)
  | [] => []
  | (key, value) :: members =>
      (quoteJson key ++ ':' :: value.stringify) :: stringifyMembers members

end

def jsonSpaces : List UInt16 := [0x20, 0x09, 0x0A, 0x0D]

def skipSpace (text : JsString) : JsString := text.dropWhile (· ∈ jsonSpaces)

/-- The text behind the token `u`. -/
def expect (u : UInt16) (text : JsString) : Option JsString :=
  match skipSpace text with
  | [] => none
  | v :: rest => if v = u then some rest else none

/-- Items with commas between them, up to the bracket `close`. -/
def readItems {α : Type} (item : Reader α) (close : UInt16) : ℕ → Reader (List α)
  | 0, _ => none
  | fuel + 1, text =>
      (item text).bind fun first =>
        match expect close first.2 with
        | some rest => some ([first.1], rest)
        | none =>
            (expect 0x2C first.2).bind fun rest =>
              (readItems item close fuel rest).map fun r => (first.1 :: r.1, r.2)

def readBracketed {α : Type} (item : Reader α) (close : UInt16) (fuel : ℕ) : Reader (List α) :=
  fun text =>
    match expect close text with
    | some rest => some ([], rest)
    | none => readItems item close fuel text

def readMember (value : Reader Json) : Reader (JsString × Json) := fun text =>
  (expect 0x22 text).bind fun rest =>
    (readChars rest).bind fun key =>
      (expect 0x3A key.2).bind fun rest =>
        (value rest).map fun r => ((key.1, r.1), r.2)

def readWord (word : String) (value : Json) : Reader Json := fun text =>
  if (js word).isPrefixOf text then some (value, text.drop (js word).length) else none

def readValue : ℕ → Reader Json
  | 0, _ => none
  | fuel + 1, text =>
      match skipSpace text with
      | [] => none
      | u :: rest =>
          if u = 0x7B then
            (readBracketed (readMember (readValue fuel)) 0x7D fuel rest).map fun r =>
              (.Object r.1, r.2)
          else if u = 0x5B then
            (readBracketed (readValue fuel) 0x5D fuel rest).map fun r => (.Array r.1, r.2)
          else if u = 0x22 then (readChars rest).map fun r => (.String r.1, r.2)
          else if u = 0x6E then readWord "null" .Null (u :: rest)
          else if u = 0x74 then readWord "true" (.Bool true) (u :: rest)
          else if u = 0x66 then readWord "false" (.Bool false) (u :: rest)
          else (readInt (u :: rest)).map fun r => (.Number r.1, r.2)

def Json.parse (text : JsString) : Option Json :=
  (readValue (text.length + 1) text).bind fun r => if skipSpace r.2 = [] then some r.1 else none

end RagStack
