import RagStack.Core.JsString
import RagStack.Core.Utf8

/-!
# UTF-16

The code points of a string.  Two surrogates that belong together are one character; a surrogate
alone is a code point that is no character.  A string of the language is any sequence of units, so
both have to be there, and whatever goes through a string code point by code point, as an encoder
does, meets both.

Reading the code points loses nothing: their units are the string again.  In the other direction a
text has been turned into units, and its code points are its characters, none of them alone.  The
induction of this one needs to look ahead, since the units of the next character must not be taken
for the second half of a pair with the last one; they cannot, because no character begins with the
second unit of a pair.

* `codePoints` — the code points, as `for (const c of text)` takes them.
* `units_codePoints` — their units are the string again.
* `codePoints_toJs` — the code points of a text are its characters.
* `JsString.toWellFormed` — the text of a string.
-/

namespace RagStack

/-- The first unit of a pair. -/
def IsHigh (u : UInt16) : Prop := 0xD800 ≤ u.toNat ∧ u.toNat < 0xDC00

/-- The second unit of a pair. -/
def IsLow (u : UInt16) : Prop := 0xDC00 ≤ u.toNat ∧ u.toNat < 0xE000

instance : DecidablePred IsHigh := fun _ => inferInstanceAs (Decidable (_ ∧ _))

instance : DecidablePred IsLow := fun _ => inferInstanceAs (Decidable (_ ∧ _))

/-- A code point: a character, or a surrogate alone. -/
inductive CodePoint where
  | Scalar (c : Char)
  | Lone (u : UInt16)
  deriving Repr, DecidableEq

/-- The units of a code point. -/
def CodePoint.units : CodePoint → JsString
  | Scalar c => utf16 c
  | Lone u => [u]

def pairOf (u v : UInt16) : Char :=
  Char.ofNat (0x10000 + (u.toNat - 0xD800) * 0x400 + (v.toNat - 0xDC00))

/-- The code point of one unit. -/
def codePoint (u : UInt16) : CodePoint :=
  if IsHigh u ∨ IsLow u then .Lone u else .Scalar (Char.ofNat u.toNat)

/-- The code points of a string. -/
def codePoints : JsString → List CodePoint
  | [] => []
  | [u] => [codePoint u]
  | u :: v :: rest =>
      if IsHigh u ∧ IsLow v then .Scalar (pairOf u v) :: codePoints rest
      else codePoint u :: codePoints (v :: rest)

/-- `text.toWellFormed()`, as a text. -/
def JsString.toWellFormed (text : JsString) : String :=
  String.ofList ((codePoints text).map fun
    | .Scalar c => c
    | .Lone _ => replacement)

/-! ## Units and characters

The bounds of the three ranges are used here only: what is below the surrogates or above them, a
high one, a low one. -/

section Units

variable {u v : UInt16} {n : ℕ}

lemma toNat_ofNat (h : n < 0xD800 ∨ 0xDFFF < n ∧ n < 0x110000) : (Char.ofNat n).toNat = n := by
  have hvalid : n.isValidChar := h
  rw [Char.ofNat, dif_pos hvalid]
  rfl

/-- A unit that is no surrogate is the encoding of its character. -/
lemma utf16_ofNat (h : ¬ (IsHigh u ∨ IsLow u)) : utf16 (Char.ofNat u.toNat) = [u] := by
  have hu := u.toNat_lt
  simp only [IsHigh, IsLow] at h
  have htoNat : (Char.ofNat u.toNat).toNat = u.toNat := toNat_ofNat (by omega)
  rw [utf16, htoNat, if_pos hu]
  simp

/-- A pair is the encoding of its character. -/
lemma utf16_pairOf (hu : IsHigh u) (hv : IsLow v) : utf16 (pairOf u v) = [u, v] := by
  simp only [IsHigh, IsLow] at hu hv
  have htoNat : (pairOf u v).toNat
      = 0x10000 + (u.toNat - 0xD800) * 0x400 + (v.toNat - 0xDC00) := toNat_ofNat (by omega)
  rw [utf16, htoNat, if_neg (by omega)]
  have hfirst : 0xD800 + (0x10000 + (u.toNat - 0xD800) * 0x400 + (v.toNat - 0xDC00) - 0x10000)
      / 0x400 = u.toNat := by omega
  have hsecond : 0xDC00 + (0x10000 + (u.toNat - 0xD800) * 0x400 + (v.toNat - 0xDC00) - 0x10000)
      % 0x400 = v.toNat := by omega
  rw [hfirst, hsecond]
  simp

lemma units_codePoint (u : UInt16) : (codePoint u).units = [u] := by
  rw [codePoint]
  split_ifs with h
  · rfl
  · exact utf16_ofNat h

/-- **The units of the code points** are the string again. -/
lemma units_codePoints (text : JsString) : (codePoints text).flatMap (·.units) = text := by
  fun_induction codePoints text with
  | case1 => rfl
  | case2 u => simp [units_codePoint]
  | case3 u v rest h ih =>
      show utf16 (pairOf u v) ++ (codePoints rest).flatMap (·.units) = u :: v :: rest
      rw [utf16_pairOf h.1 h.2, ih]
      rfl
  | case4 u v rest h ih => simp [units_codePoint, ih]

/-- The code points of a text begin with its first character. -/
lemma codePoints_utf16_append (c : Char) {text : JsString}
    (hlow : ∀ u ∈ text.head?, ¬ IsLow u) :
    codePoints (utf16 c ++ text) = .Scalar c :: codePoints text := by
  have hscalar := toNat_scalar c
  rw [utf16]
  split_ifs with hsmall
  · have htoNat : c.toNat.toUInt16.toNat = c.toNat := by
      simp only [Nat.toUInt16, UInt16.toNat_ofNat']
      omega
    have hsingle : codePoint c.toNat.toUInt16 = .Scalar c := by
      rw [codePoint, htoNat, Char.ofNat_toNat, if_neg]
      simp only [IsHigh, IsLow, htoNat]
      omega
    cases text with
    | nil => simp [codePoints, hsingle]
    | cons v rest =>
        rw [List.singleton_append, codePoints, if_neg, hsingle]
        exact fun h => hlow v rfl h.2
  · have hfirst : (0xD800 + (c.toNat - 0x10000) / 0x400).toUInt16.toNat
        = 0xD800 + (c.toNat - 0x10000) / 0x400 := by
      simp only [Nat.toUInt16, UInt16.toNat_ofNat']
      omega
    have hsecond : (0xDC00 + (c.toNat - 0x10000) % 0x400).toUInt16.toNat
        = 0xDC00 + (c.toNat - 0x10000) % 0x400 := by
      simp only [Nat.toUInt16, UInt16.toNat_ofNat']
      omega
    have hpair : pairOf (0xD800 + (c.toNat - 0x10000) / 0x400).toUInt16
        (0xDC00 + (c.toNat - 0x10000) % 0x400).toUInt16 = c := by
      rw [pairOf, hfirst, hsecond]
      refine Eq.trans (congrArg Char.ofNat ?_) (Char.ofNat_toNat c)
      omega
    rw [List.cons_append, List.singleton_append, codePoints, if_pos, hpair]
    simp only [IsHigh, IsLow, hfirst, hsecond]
    omega

/-- A character does not begin with the second unit of a pair. -/
lemma head_utf16 (c : Char) (text : JsString) : ∀ u ∈ (utf16 c ++ text).head?, ¬ IsLow u := by
  have hscalar := toNat_scalar c
  rw [utf16]
  split_ifs with hsmall
  · rintro u ⟨⟩ hlow
    simp only [IsLow, Nat.toUInt16, UInt16.toNat_ofNat'] at hlow
    omega
  · rintro u ⟨⟩ hlow
    simp only [IsLow, Nat.toUInt16, UInt16.toNat_ofNat'] at hlow
    omega

/-- **The code points of a text** are its characters. -/
lemma codePoints_toJs (text : List Char) : codePoints (toJs text) = text.map .Scalar := by
  induction text with
  | nil => rfl
  | cons c text ih =>
      show codePoints (utf16 c ++ toJs text) = _
      rw [codePoints_utf16_append, ih, List.map_cons]
      cases text with
      | nil => rintro u ⟨⟩
      | cons d text => exact head_utf16 d (toJs text)

lemma toWellFormed_js (s : String) : (js s).toWellFormed = s := by
  show String.ofList ((codePoints (toJs s.toList)).map _) = s
  rw [codePoints_toJs, List.map_map]
  simp [Function.comp_def]

end Units

end RagStack
