import RagStack.Core.Json
import Mathlib.Data.Nat.Digits.Lemmas

/-!
# JSON, written and read

Every part of a value that is written is read back, whatever follows it.  The last words are what
makes this an induction.  A value is read in the middle of a text, so the statement is about the
text of the value with anything behind it that could be there, and says that the reader stops
exactly where the value does.  What could be there is not everything: a digit behind a number would
be read as a part of it.  After a value in an array or an object comes a comma or a bracket, which
ends every number.

Strings are the part with cases.  A code point has a short escape, a unicode escape or none, and a
text has pairs of surrogates in it; each case is one lemma, and the reader, which works unit by
unit, goes through the units of one code point without noticing where it ends.  Numbers are digits
without a leading zero, in both directions.

Items with commas between them are read for any reader of an item that reads back its own items, so
arrays and objects are two instances.

* `readChars_quoteJson`, `readInt_intText` — strings and numbers.
* `readBracketed_join` — items with commas between them, for any reader of an item.
* `Json.induct` — induction on a value.
* `readValue_stringify` — values.
-/

namespace RagStack

lemma toJs_concat (text text' : List Char) : toJs (text ++ text') = toJs text ++ toJs text' :=
  List.flatMap_append

/-! ## Strings -/

section Strings

variable {u : UInt16} {text rest : JsString} {n : ℕ}

/-- A hexadecimal digit as a unit. -/
def hexUnit (d : ℕ) : UInt16 := (Nat.digitChar d).toNat.toUInt16

lemma hexUnit_spec {d : ℕ} (h : d < 16) :
    utf16 (Nat.digitChar d) = [hexUnit d] ∧ hexOf (hexUnit d) = some d := by
  have hall : ∀ d < 16, utf16 (Nat.digitChar d) = [hexUnit d] ∧ hexOf (hexUnit d) = some d := by
    decide +kernel
  exact hall d h

/-- A unit that needs no escape stands for itself. -/
lemma readChars_cons (hquote : u ≠ 0x22) (hbackslash : u ≠ 0x5C) (hcontrol : 0x20 ≤ u.toNat) :
    readChars (u :: rest) = (readChars rest).map fun r => (u :: r.1, r.2) := by
  rw [readChars.eq_def]
  simp only [if_neg hquote, if_neg hbackslash, if_neg (Nat.not_lt.mpr hcontrol)]

lemma readChars_unicode (h : n < 0x10000) :
    readChars (toJs (unicodeEscape n) ++ rest)
      = (readChars rest).map fun r => (n.toUInt16 :: r.1, r.2) := by
  have h₁ := hexUnit_spec (d := n / 4096) (by omega)
  have h₂ := hexUnit_spec (d := n / 256 % 16) (by omega)
  have h₃ := hexUnit_spec (d := n / 16 % 16) (by omega)
  have h₄ := hexUnit_spec (d := n % 16) (by omega)
  have htext : toJs (unicodeEscape n) ++ rest = 0x5C :: 0x75 :: hexUnit (n / 4096)
      :: hexUnit (n / 256 % 16) :: hexUnit (n / 16 % 16) :: hexUnit (n % 16) :: rest := by
    simp only [toJs, unicodeEscape, List.flatMap_cons, List.flatMap_nil, h₁.1, h₂.1, h₃.1, h₄.1]
    rfl
  have hread : readHex (hexUnit (n / 4096)) (hexUnit (n / 256 % 16)) (hexUnit (n / 16 % 16))
      (hexUnit (n % 16)) = some n.toUInt16 := by
    simp only [readHex, h₁.2, h₂.2, h₃.2, h₄.2, Option.bind_eq_bind, Option.bind_some]
    show some _ = _
    congr 2
    omega
  rw [htext, readChars.eq_def]
  simp [hread]

lemma readChars_short {entry : ℕ × ℕ} (h : entry ∈ shortEscapes) :
    readChars (toJs [Char.ofNat 0x5C, Char.ofNat entry.2] ++ rest)
        = (readChars rest).map (fun r => (entry.1.toUInt16 :: r.1, r.2)) := by
  have hall : ∀ entry ∈ shortEscapes,
      toJs [Char.ofNat 0x5C, Char.ofNat entry.2] = [0x5C, entry.2.toUInt16]
        ∧ entry.2.toUInt16 ≠ 0x75 ∧ readEscape entry.2.toUInt16 = some entry.1.toUInt16 := by
    decide +kernel
  obtain ⟨htext, hne, hread⟩ := hall entry h
  rw [htext, readChars.eq_def]
  simp [hne, hread]

/-- The units of a character are read one after another. -/
lemma readChars_scalar {c : Char} (h : ¬ c.toNat < 0x20) (hquote : c.toNat ≠ 0x22)
    (hbackslash : c.toNat ≠ 0x5C) :
    readChars (utf16 c ++ rest) = (readChars rest).map fun r => (utf16 c ++ r.1, r.2) := by
  have hscalar := toNat_scalar c
  have hne : ∀ {n m : ℕ}, n < 0x10000 → m < 0x10000 → n ≠ m → n.toUInt16 ≠ m.toUInt16 := by
    intro n m hn hm hnm heq
    have htoNat := congrArg UInt16.toNat heq
    simp only [Nat.toUInt16, UInt16.toNat_ofNat'] at htoNat
    omega
  rw [utf16]
  split_ifs with hsmall
  · refine readChars_cons (hne hsmall (m := 0x22) (by omega) hquote)
      (hne hsmall (m := 0x5C) (by omega) hbackslash) ?_
    simp only [Nat.toUInt16, UInt16.toNat_ofNat']
    omega
  · have hplain : ∀ n, 0xD800 ≤ n → n < 0x10000 → ∀ text,
        readChars (n.toUInt16 :: text) = (readChars text).map fun r => (n.toUInt16 :: r.1, r.2) := by
      intro n hlow hn text
      refine readChars_cons (hne hn (m := 0x22) (by omega) (by omega))
        (hne hn (m := 0x5C) (by omega) (by omega)) ?_
      simp only [Nat.toUInt16, UInt16.toNat_ofNat']
      omega
    rw [List.cons_append, List.singleton_append, hplain _ (by omega) (by omega),
      hplain _ (by omega) (by omega), Option.map_map]
    rfl

lemma readChars_escape (p : CodePoint) :
    readChars (toJs p.escape ++ rest) = (readChars rest).map fun r => (p.units ++ r.1, r.2) := by
  cases p with
  | Lone u =>
      show readChars (toJs (unicodeEscape u.toNat) ++ rest) = _
      rw [readChars_unicode u.toNat_lt]
      simp [CodePoint.units]
  | Scalar c =>
      have hunits : ∀ {n : ℕ}, c.toNat = n → n < 0x10000 → utf16 c = [n.toUInt16] := by
        rintro n rfl hn
        rw [utf16, if_pos hn]
      simp only [CodePoint.escape, CodePoint.units]
      cases hfind : shortEscapes.find? (·.1 = c.toNat) with
      | some entry =>
          have hmem := List.mem_of_find?_eq_some hfind
          have hentry : entry.1 = c.toNat := by simpa using List.find?_some hfind
          have hsmall : ∀ entry ∈ shortEscapes, entry.1 < 0x10000 := by decide
          show readChars (toJs [Char.ofNat 0x5C, Char.ofNat entry.2] ++ rest) = _
          rw [readChars_short hmem, hunits hentry.symm (hsmall _ hmem)]
          rfl
      | none =>
          have hnone := List.find?_eq_none.mp hfind
          show readChars (toJs (if c.toNat < 0x20 then _ else _) ++ rest) = _
          split_ifs with hcontrol
          · rw [readChars_unicode (by omega), hunits rfl (by omega)]
            rfl
          · have htoJs : toJs [c] = utf16 c := by simp [toJs]
            rw [htoJs]
            refine readChars_scalar hcontrol (fun h => ?_) (fun h => ?_)
            · exact hnone (0x22, 0x22) (by decide) (by simp [h])
            · exact hnone (0x5C, 0x5C) (by decide) (by simp [h])

/-- **A string literal is read back.** -/
lemma readChars_quoteJson (text : JsString) :
    ∃ body, toJs (quoteJson text) = 0x22 :: body
      ∧ ∀ rest, readChars (body ++ rest) = some (text, rest) := by
  have hread : ∀ (points : List CodePoint) (rest : JsString),
      readChars (toJs (points.flatMap (·.escape)) ++ 0x22 :: rest)
        = some (points.flatMap (·.units), rest) := by
    intro points rest
    induction points with
    | nil =>
        rw [List.flatMap_nil, toJs, List.flatMap_nil, List.nil_append, readChars.eq_def]
        rfl
    | cons p points ih =>
        rw [List.flatMap_cons, toJs_concat, List.append_assoc, readChars_escape, ih]
        rfl
  refine ⟨toJs ((codePoints text).flatMap (·.escape)) ++ [0x22], ?_, fun rest => ?_⟩
  · show utf16 (Char.ofNat 0x22) ++ toJs _ = _
    rw [toJs_concat]
    rfl
  · rw [List.append_assoc, List.singleton_append, hread, units_codePoints]

end Strings

/-! ## Numbers -/

section Numbers

variable {digits rest : JsString} {n : ℕ}

/-- Nothing that would go on with a number. -/
def NumberEnds (rest : JsString) : Prop :=
  ∀ u ∈ rest.head?, ¬ IsDigit u ∧ u ∉ [(0x2E : UInt16), 0x65, 0x45]

/-- The digits of `n`. -/
structure IsNumeral (digits : JsString) (n : ℕ) : Prop where
  isDigit : ∀ u ∈ digits, IsDigit u
  nonempty : digits ≠ []
  noZero : digits.head? ≠ some 0x30 ∨ digits.length = 1
  value : Nat.ofDigits 10 (digits.reverse.map fun u => u.toNat - 0x30) = n

lemma IsNumeral.readNat (h : IsNumeral digits n) (hends : NumberEnds rest) :
    readNat (digits ++ rest) = some (n, rest) := by
  have hstop : rest.takeWhile (IsDigit ·) = [] ∧ rest.dropWhile (IsDigit ·) = rest := by
    cases rest with
    | nil => exact ⟨rfl, rfl⟩
    | cons u rest =>
        have hu := (hends u rfl).1
        exact ⟨List.takeWhile_cons_of_neg (by simpa using hu),
          List.dropWhile_cons_of_neg (by simpa using hu)⟩
  have hdigits : ∀ u ∈ digits, decide (IsDigit u) = true := by simpa using h.isDigit
  have htake : (digits ++ rest).takeWhile (IsDigit ·) = digits := by
    rw [List.takeWhile_append_of_pos hdigits, hstop.1, List.append_nil]
  have hdrop : (digits ++ rest).dropWhile (IsDigit ·) = rest := by
    rw [List.dropWhile_append_of_pos hdigits, hstop.2]
  have hfraction : rest.head? ∉ [some (0x2E : UInt16), some 0x65, some 0x45] := by
    cases rest with
    | nil => simp
    | cons u rest => simpa using (hends u rfl).2
  simp only [RagStack.readNat, htake, hdrop, h.value]
  rw [if_neg]
  rintro (hnil | hzero | hmem)
  · exact h.nonempty hnil
  · exact h.noZero.elim (fun hne => hne hzero.1) hzero.2
  · exact hfraction hmem

lemma toJs_digits {ds : List ℕ} (h : ∀ d ∈ ds, d < 10) :
    toJs (ds.map Nat.digitChar) = ds.map fun d => (0x30 + d).toUInt16 := by
  have hall : ∀ d < 10, utf16 (Nat.digitChar d) = [(0x30 + d).toUInt16] := by decide +kernel
  induction ds with
  | nil => rfl
  | cons d ds ih =>
      show utf16 _ ++ toJs _ = _
      rw [ih fun d hd => h d (List.mem_cons_of_mem _ hd), hall d (h d List.mem_cons_self)]
      rfl

lemma isNumeral_natText (n : ℕ) : IsNumeral (toJs (natText n)) n := by
  rw [natText]
  split_ifs with hzero
  · subst hzero
    have hdigit : ∀ u ∈ toJs ['0'], IsDigit u := List.forall_mem_singleton.mpr (by decide)
    exact ⟨hdigit, by decide, .inr rfl, by decide⟩
  · have hlt : ∀ d ∈ (Nat.digits 10 n).reverse, d < 10 := fun d hd =>
      Nat.digits_lt_base (by omega) (List.mem_reverse.mp hd)
    have hunit : ∀ d < 10, (0x30 + d).toUInt16.toNat = 0x30 + d := by
      intro d hd
      simp only [Nat.toUInt16, UInt16.toNat_ofNat']
      omega
    have hne : Nat.digits 10 n ≠ [] := Nat.digits_ne_nil_iff_ne_zero.mpr hzero
    rw [toJs_digits hlt]
    refine ⟨fun u hu => ?_, by simpa using hne, .inl fun hhead => ?_, ?_⟩
    · obtain ⟨d, hd, rfl⟩ := List.mem_map.mp hu
      simp only [IsDigit, hunit d (hlt d hd)]
      have hd' := hlt d hd
      omega
    · have hlast := Nat.getLast_digit_ne_zero 10 hzero
      have hmem := List.mem_reverse.mpr (List.getLast_mem hne)
      rw [List.head?_map, List.head?_reverse, List.getLast?_eq_some_getLast hne] at hhead
      have hvalue := congrArg UInt16.toNat (Option.some.inj hhead)
      rw [hunit _ (hlt _ hmem)] at hvalue
      exact hlast (Nat.add_left_cancel hvalue)
    · calc Nat.ofDigits 10 (((Nat.digits 10 n).reverse.map fun d => (0x30 + d).toUInt16).reverse.map
            fun u => u.toNat - 0x30)
          = Nat.ofDigits 10 (Nat.digits 10 n) := by
            congr 1
            rw [← List.map_reverse, List.reverse_reverse, List.map_map]
            refine (List.map_congr_left fun d hd => ?_).trans (List.map_id _)
            show (0x30 + d).toUInt16.toNat - 0x30 = d
            rw [hunit d (hlt d (List.mem_reverse.mpr hd))]
            omega
        _ = n := Nat.ofDigits_digits 10 n

lemma readNat_natText (n : ℕ) : ((readNat (toJs (natText n))).map Prod.fst).getD 0 = n := by
  have hends : NumberEnds [] := by rintro u ⟨⟩
  have hread := (isNumeral_natText n).readNat hends
  rw [List.append_nil] at hread
  rw [hread]
  rfl

lemma head_intText (n : ℤ) :
    ∃ u rest, toJs (intText n) = u :: rest ∧ (u = 0x2D ∨ IsDigit u) := by
  rw [intText]
  split_ifs with h
  · exact ⟨0x2D, toJs (natText n.natAbs), rfl, .inl rfl⟩
  · have hnumeral := isNumeral_natText n.natAbs
    obtain ⟨u, digits, hdigits⟩ := List.exists_cons_of_ne_nil hnumeral.nonempty
    exact ⟨u, digits, hdigits, .inr (hnumeral.isDigit u (hdigits ▸ List.mem_cons_self))⟩

/-- **An integer is read back.** -/
lemma readInt_intText (n : ℤ) (hends : NumberEnds rest) :
    readInt (toJs (intText n) ++ rest) = some (n, rest) := by
  have hnumeral := isNumeral_natText n.natAbs
  rw [intText]
  split_ifs with h
  · show readInt (0x2D :: (toJs (natText n.natAbs) ++ rest)) = _
    rw [readInt, List.head?_cons, if_pos rfl, List.tail_cons, hnumeral.readNat hends, Option.map_some]
    congr 2
    omega
  · have hhead : (toJs (natText n.natAbs) ++ rest).head? ≠ some 0x2D := by
      rw [List.head?_append_of_ne_nil _ hnumeral.nonempty]
      intro hhead
      have hdigit := hnumeral.isDigit _ (List.mem_of_mem_head? hhead)
      simp only [IsDigit] at hdigit
      exact absurd hdigit (by decide)
    rw [readInt, if_neg hhead, hnumeral.readNat hends, Option.map_some]
    congr 2
    omega

end Numbers

/-! ## Tokens

Nothing that is written begins with white space, so skipping it changes nothing. -/

section Tokens

variable {u v : UInt16} {text rest more : JsString}

lemma skipSpace_cons (h : u ∉ jsonSpaces) : skipSpace (u :: rest) = u :: rest :=
  List.dropWhile_cons_of_neg (by simpa using h)

lemma expect_cons (h : u ∉ jsonSpaces) : expect u (u :: rest) = some rest := by
  rw [expect, skipSpace_cons h]
  exact if_pos rfl

lemma expect_cons_of_ne (h : u ∉ jsonSpaces) (hne : u ≠ v) : expect v (u :: rest) = none := by
  rw [expect, skipSpace_cons h]
  exact if_neg hne

lemma expect_eq_some_iff : expect u text = some rest ↔ skipSpace text = u :: rest := by
  rw [expect]
  cases skipSpace text with
  | nil => simp
  | cons v rest' =>
      by_cases h : v = u
      · simp [h]
      · simp [h]

lemma skipSpace_append (h : skipSpace text ≠ []) :
    skipSpace (text ++ more) = skipSpace text ++ more := by
  rw [skipSpace, List.dropWhile_append, if_neg (by simpa [skipSpace] using h)]
  rfl

lemma expect_append (h : expect u text = some rest) :
    expect u (text ++ more) = some (rest ++ more) := by
  rw [expect_eq_some_iff] at h ⊢
  rw [skipSpace_append (by simp [h]), h, List.cons_append]

lemma expect_append_eq_none (h : expect u text = none) (hne : skipSpace text ≠ []) :
    expect u (text ++ more) = none := by
  rw [expect, skipSpace_append hne]
  rw [expect] at h
  cases htext : skipSpace text with
  | nil => exact absurd htext hne
  | cons v rest =>
      rw [htext] at h
      simpa using h

lemma expect_eq_none_of_ne (h : expect v text = some rest) (hne : v ≠ u) : expect u text = none := by
  rw [expect_eq_some_iff] at h
  rw [expect, h]
  exact if_neg hne

/-- A token is behind nothing but white space. -/
lemma suffix_of_expect (h : expect u text = some rest) : u :: rest <:+ text := by
  rw [expect_eq_some_iff] at h
  rw [← h]
  exact List.dropWhile_suffix _

end Tokens

/-! ## What is written -/

section Writing

lemma toJs_join (parts : List (List Char)) :
    toJs ([','].intercalate parts) = JsString.join [0x2C] (parts.map toJs) := by
  induction parts with
  | nil => rfl
  | cons part parts ih =>
      cases parts with
      | nil => simp [JsString.join, List.intercalate]
      | cons next parts =>
          have hleft : [','].intercalate (part :: next :: parts)
              = part ++ (',' :: [','].intercalate (next :: parts)) := by simp [List.intercalate]
          have hright : JsString.join [0x2C] ((part :: next :: parts).map toJs)
              = toJs part ++ (0x2C :: JsString.join [0x2C] ((next :: parts).map toJs)) := by
            simp [JsString.join, List.intercalate]
          rw [hleft, hright, toJs_concat, ← ih]
          rfl

lemma stringifyItems_eq (items : List Json) : stringifyItems items = items.map (·.stringify) := by
  induction items with
  | nil => rfl
  | cons item items ih => rw [stringifyItems, ih, List.map_cons]

def writeMember (member : JsString × Json) : List Char :=
  quoteJson member.1 ++ ':' :: member.2.stringify

lemma stringifyMembers_eq (members : List (JsString × Json)) :
    stringifyMembers members = members.map writeMember := by
  induction members with
  | nil => rfl
  | cons member members ih => rw [stringifyMembers, ih, List.map_cons, writeMember]

lemma toJs_array (items : List Json) :
    toJs (Json.Array items).stringify
      = 0x5B :: (JsString.join [0x2C] (items.map fun item => toJs item.stringify) ++ [0x5D]) := by
  rw [Json.stringify, stringifyItems_eq]
  show 0x5B :: toJs (_ ++ [']']) = _
  rw [toJs_concat, toJs_join, List.map_map]
  rfl

lemma toJs_object (members : List (JsString × Json)) :
    toJs (Json.Object members).stringify
      = 0x7B :: (JsString.join [0x2C] (members.map fun member => toJs (writeMember member))
        ++ [0x7D]) := by
  rw [Json.stringify, stringifyMembers_eq]
  show 0x7B :: toJs (_ ++ [Char.ofNat 0x7D]) = _
  rw [toJs_concat, toJs_join, List.map_map]
  rfl

end Writing

/-! ## Items

The fuel is counted down once for each item, and there are no more items than units. -/

section Items

variable {α : Type} {item : Reader α} {write : α → JsString} {close : UInt16} {xs : List α}
  {rest : JsString} {fuel : ℕ}

/-- What may follow an item: the bracket that closes the list, or a comma before the next item. -/
def ItemEnds (close : UInt16) (rest : JsString) : Prop :=
  rest.head? = some close ∨ rest.head? = some 0x2C

/-- One or more items are read back. -/
lemma readItems_join (hspace : close ∉ jsonSpaces) (hcomma : (0x2C : UInt16) ≠ close)
    (hitem : ∀ x ∈ xs, ∀ rest, ItemEnds close rest → item (write x ++ rest) = some (x, rest))
    (hne : xs ≠ []) (hfuel : xs.length ≤ fuel) :
    readItems item close fuel (JsString.join [0x2C] (xs.map write) ++ close :: rest)
      = some (xs, rest) := by
  induction xs generalizing fuel with
  | nil => exact absurd rfl hne
  | cons x xs ih =>
      obtain ⟨fuel, rfl⟩ := Nat.exists_eq_succ_of_ne_zero (Nat.ne_zero_of_lt hfuel)
      have hx := hitem x List.mem_cons_self
      cases xs with
      | nil =>
          have hjoin : JsString.join [0x2C] ([x].map write) = write x := by
            simp [JsString.join, List.intercalate]
          rw [hjoin, readItems, hx _ (.inl rfl), Option.bind_some, expect_cons hspace]
      | cons y ys =>
          have hjoin : JsString.join [0x2C] ((x :: y :: ys).map write)
              = write x ++ 0x2C :: JsString.join [0x2C] ((y :: ys).map write) := by
            simp [JsString.join, List.intercalate]
          have htail := ih (fun z hz => hitem z (List.mem_cons_of_mem _ hz)) (List.cons_ne_nil y ys)
            (Nat.le_of_succ_le_succ hfuel)
          rw [hjoin, List.append_assoc, List.cons_append, readItems, hx _ (.inr rfl),
            Option.bind_some, expect_cons_of_ne (by decide) hcomma, expect_cons (by decide)]
          simp only [Option.bind_some, htail, Option.map_some]

/-- **Items in brackets are read back.** -/
lemma readBracketed_join (hspace : close ∉ jsonSpaces) (hcomma : (0x2C : UInt16) ≠ close)
    (hitem : ∀ x ∈ xs, ∀ rest, ItemEnds close rest → item (write x ++ rest) = some (x, rest))
    (hhead : ∀ x ∈ xs, ∃ u rest, write x = u :: rest ∧ u ∉ jsonSpaces ∧ u ≠ close)
    (hfuel : xs.length ≤ fuel) :
    readBracketed item close fuel (JsString.join [0x2C] (xs.map write) ++ close :: rest)
      = some (xs, rest) := by
  cases xs with
  | nil =>
      show readBracketed item close fuel (close :: rest) = _
      rw [readBracketed, expect_cons hspace]
  | cons x xs =>
      obtain ⟨u, text, hwrite, hu, hne⟩ := hhead x List.mem_cons_self
      have hbegin :
          ∃ text, JsString.join [0x2C] ((x :: xs).map write) ++ close :: rest = u :: text := by
        cases xs with
        | nil => exact ⟨text ++ close :: rest, by simp [JsString.join, List.intercalate, hwrite]⟩
        | cons y ys => exact ⟨_, by simp [JsString.join, List.intercalate, hwrite]; rfl⟩
      obtain ⟨text', htext'⟩ := hbegin
      have hread : readItems item close fuel (JsString.join [0x2C] ((x :: xs).map write)
          ++ close :: rest) = some (x :: xs, rest) :=
        readItems_join hspace hcomma hitem (List.cons_ne_nil x xs) hfuel
      rw [readBracketed, hread, htext', expect_cons_of_ne hu hne]

end Items

/-! ## Values

The induction is on the value, with the fuel and the rest of the text quantified inside. -/

/-- Induction on a value. -/
theorem Json.induct {motive : Json → Prop} (null : motive .Null) (bool : ∀ b, motive (.Bool b))
    (number : ∀ n, motive (.Number n)) (string : ∀ text, motive (.String text))
    (array : ∀ items, (∀ item ∈ items, motive item) → motive (.Array items))
    (object : ∀ members, (∀ member ∈ members, motive member.2) → motive (.Object members)) :
    ∀ value, motive value
  | .Null => null
  | .Bool b => bool b
  | .Number n => number n
  | .String text => string text
  | .Array items =>
      array items fun item _ => Json.induct null bool number string array object item
  | .Object members =>
      object members fun member _ => Json.induct null bool number string array object member.2
termination_by value => sizeOf value
decreasing_by
  · have h := List.sizeOf_lt_of_mem ‹item ∈ items›
    simp only [Json.Array.sizeOf_spec]
    omega
  · have h := List.sizeOf_lt_of_mem ‹member ∈ members›
    have hmember : sizeOf member.2 < sizeOf member := by
      cases member
      simp
    simp only [Json.Object.sizeOf_spec]
    omega

section Values

lemma head_stringify (value : Json) :
    ∃ u rest, toJs value.stringify = u :: rest ∧ u ∉ jsonSpaces ∧ u ≠ 0x5D := by
  cases value with
  | Null => exact ⟨0x6E, js "ull", by decide, by decide, by decide⟩
  | Bool b =>
      cases b with
      | false => exact ⟨0x66, js "alse", by decide, by decide, by decide⟩
      | true => exact ⟨0x74, js "rue", by decide, by decide, by decide⟩
  | Number n =>
      obtain ⟨u, rest, htext, hu⟩ := head_intText n
      refine ⟨u, rest, htext, ?_⟩
      rcases hu with rfl | hu
      · decide
      · constructor
        · intro hmem
          have hall : ∀ u ∈ jsonSpaces, ¬ IsDigit u := by simp [jsonSpaces, IsDigit]
          exact hall u hmem hu
        · rintro rfl
          exact absurd hu (by decide)
  | String text =>
      obtain ⟨body, htext, -⟩ := readChars_quoteJson text
      exact ⟨0x22, body, htext, by decide, by decide⟩
  | Array items => exact ⟨0x5B, _, toJs_array items, by decide, by decide⟩
  | Object members => exact ⟨0x7B, _, toJs_object members, by decide, by decide⟩

/-- A member is a string literal, a colon and a value. -/
lemma toJs_writeMember (member : JsString × Json) :
    ∃ body, toJs (writeMember member) = 0x22 :: (body ++ 0x3A :: toJs member.2.stringify)
      ∧ ∀ rest, readChars (body ++ rest) = some (member.1, rest) := by
  obtain ⟨body, htext, hread⟩ := readChars_quoteJson member.1
  refine ⟨body, ?_, hread⟩
  rw [writeMember, toJs_concat, htext]
  rfl

lemma head_writeMember (member : JsString × Json) :
    ∃ u rest, toJs (writeMember member) = u :: rest ∧ u ∉ jsonSpaces ∧ u ≠ 0x7D := by
  obtain ⟨body, htext, -⟩ := toJs_writeMember member
  exact ⟨0x22, _, htext, by decide, by decide⟩

lemma ItemEnds.numberEnds {close : UInt16} {rest : JsString} (h : ItemEnds close rest)
    (hclose : ¬ IsDigit close ∧ close ∉ [(0x2E : UInt16), 0x65, 0x45]) : NumberEnds rest := by
  intro u hu
  rcases h with h | h
  · rw [h] at hu
    cases hu
    exact hclose
  · rw [h] at hu
    cases hu
    decide

/-- Each part is no longer than all of them together, and there are no more of them than units. -/
lemma join_bounds {parts : List JsString} (hne : ∀ part ∈ parts, part ≠ []) :
    (∀ part ∈ parts, part.length ≤ (JsString.join [0x2C] parts).length)
      ∧ parts.length ≤ (JsString.join [0x2C] parts).length := by
  induction parts with
  | nil => exact ⟨by simp, by simp⟩
  | cons part parts ih =>
      have hpart : 1 ≤ part.length := List.length_pos_of_ne_nil (hne part List.mem_cons_self)
      cases parts with
      | nil =>
          have hjoin : JsString.join [0x2C] [part] = part := by simp [JsString.join, List.intercalate]
          rw [hjoin]
          exact ⟨by simp, by simpa using hpart⟩
      | cons next parts =>
          obtain ⟨hparts, hcount⟩ := ih fun p hp => hne p (List.mem_cons_of_mem _ hp)
          have hjoin : JsString.join [0x2C] (part :: next :: parts)
              = part ++ 0x2C :: JsString.join [0x2C] (next :: parts) := by
            simp [JsString.join, List.intercalate]
          rw [hjoin, List.length_append, List.length_cons]
          refine ⟨fun p hp => ?_, ?_⟩
          · rcases List.mem_cons.mp hp with rfl | hp
            · omega
            · have hle := hparts p hp
              omega
          · simp only [List.length_cons] at hcount ⊢
            omega

variable {fuel : ℕ} {u : UInt16} {rest : JsString}

lemma readValue_cons (h : u ∉ jsonSpaces) :
    readValue (fuel + 1) (u :: rest)
      = if u = 0x7B then
          (readBracketed (readMember (readValue fuel)) 0x7D fuel rest).map fun r =>
            (.Object r.1, r.2)
        else if u = 0x5B then
          (readBracketed (readValue fuel) 0x5D fuel rest).map fun r => (.Array r.1, r.2)
        else if u = 0x22 then (readChars rest).map fun r => (.String r.1, r.2)
        else if u = 0x6E then readWord "null" .Null (u :: rest)
        else if u = 0x74 then readWord "true" (.Bool true) (u :: rest)
        else if u = 0x66 then readWord "false" (.Bool false) (u :: rest)
        else (readInt (u :: rest)).map fun r => (.Number r.1, r.2) := by
  rw [readValue, skipSpace_cons h]

lemma readWord_append (word : String) (value : Json) :
    readWord word value (js word ++ rest) = some (value, rest) := by
  rw [readWord, if_pos (by simp), List.drop_left]

/-- **A value is read back**, whatever follows it, and what follows it is left over.  Only the fuel
has to cover the text of the value. -/
theorem readValue_stringify (value : Json) :
    ∀ fuel rest, (toJs value.stringify).length < fuel → NumberEnds rest →
      readValue fuel (toJs value.stringify ++ rest) = some (value, rest) := by
  induction value using Json.induct with
  | null =>
      rintro (- | fuel) rest hfuel -
      · omega
      · show readValue (fuel + 1) (0x6E :: (js "ull" ++ rest)) = _
        rw [readValue_cons (by decide)]
        exact readWord_append "null" .Null
  | bool b =>
      rintro (- | fuel) rest hfuel -
      · omega
      · cases b with
        | false =>
            show readValue (fuel + 1) (0x66 :: (js "alse" ++ rest)) = _
            rw [readValue_cons (by decide)]
            exact readWord_append "false" (.Bool false)
        | true =>
            show readValue (fuel + 1) (0x74 :: (js "rue" ++ rest)) = _
            rw [readValue_cons (by decide)]
            exact readWord_append "true" (.Bool true)
  | number n =>
      rintro (- | fuel) rest hfuel hends
      · omega
      · obtain ⟨u, digits, htext, hu⟩ := head_intText n
        have hread := readInt_intText n hends
        have hother : u ∉ jsonSpaces ++ [0x7B, 0x5B, 0x22, 0x6E, 0x74, 0x66] := by
          have hall : ∀ u ∈ jsonSpaces ++ [0x7B, 0x5B, 0x22, 0x6E, 0x74, 0x66],
              ¬ (u = 0x2D ∨ IsDigit u) := by simp [jsonSpaces, IsDigit]
          exact fun hmem => hall u hmem hu
        simp only [List.mem_append, List.mem_cons, List.not_mem_nil, or_false, not_or] at hother
        obtain ⟨hspace, hbrace, hbracket, hquote, hnull, htrue, hfalse⟩ := hother
        show readValue (fuel + 1) (toJs (intText n) ++ rest) = _
        rw [htext, List.cons_append] at hread ⊢
        rw [readValue_cons hspace, if_neg hbrace, if_neg hbracket, if_neg hquote, if_neg hnull,
          if_neg htrue, if_neg hfalse, hread]
        rfl
  | string text =>
      rintro (- | fuel) rest hfuel -
      · omega
      · obtain ⟨body, htext, hread⟩ := readChars_quoteJson text
        show readValue (fuel + 1) (toJs (quoteJson text) ++ rest) = _
        rw [htext, List.cons_append, readValue_cons (by decide)]
        simp only [hread, Option.map_some]
        rfl
  | array items ih =>
      rintro (- | fuel) rest hfuel -
      · omega
      · rw [toJs_array] at hfuel ⊢
        have hwritten : ∀ part ∈ items.map fun item => toJs item.stringify, part ≠ [] := by
          intro part hpart
          obtain ⟨item, -, rfl⟩ := List.mem_map.mp hpart
          obtain ⟨u, text, htext, -⟩ := head_stringify item
          rw [htext]
          exact List.cons_ne_nil u text
        obtain ⟨hparts, hcount⟩ := join_bounds hwritten
        simp only [List.length_cons, List.length_append, List.length_map] at hfuel hcount
        rw [List.cons_append, readValue_cons (by decide), List.append_assoc, List.singleton_append,
          readBracketed_join (by decide) (by decide) _ (fun item _ => head_stringify item) (by omega)]
        · rfl
        · intro item hitem rest hends
          have hle := hparts _ (List.mem_map_of_mem hitem)
          exact ih item hitem fuel rest (by omega) (hends.numberEnds (by decide))
  | object members ih =>
      rintro (- | fuel) rest hfuel -
      · omega
      · rw [toJs_object] at hfuel ⊢
        have hwritten : ∀ part ∈ members.map fun member => toJs (writeMember member), part ≠ [] := by
          intro part hpart
          obtain ⟨member, -, rfl⟩ := List.mem_map.mp hpart
          obtain ⟨u, text, htext, -⟩ := head_writeMember member
          rw [htext]
          exact List.cons_ne_nil u text
        obtain ⟨hparts, hcount⟩ := join_bounds hwritten
        simp only [List.length_cons, List.length_append, List.length_map] at hfuel hcount
        rw [List.cons_append, readValue_cons (by decide), List.append_assoc, List.singleton_append,
          readBracketed_join (by decide) (by decide) _ (fun member _ => head_writeMember member)
            (by omega)]
        · rfl
        · intro member hmember rest hends
          have hle := hparts _ (List.mem_map_of_mem hmember)
          obtain ⟨body, htext, hread⟩ := toJs_writeMember member
          rw [htext] at hle ⊢
          simp only [List.length_cons, List.length_append] at hle
          have hvalue := ih member hmember fuel rest (by omega) (hends.numberEnds (by decide))
          rw [List.cons_append, List.append_assoc, List.cons_append, readMember,
            expect_cons (by decide), Option.bind_some, hread, Option.bind_some,
            expect_cons (by decide), Option.bind_some, hvalue]
          rfl

end Values

end RagStack
