import RagStack.Core.JsonRoundTrip

/-!
# What `JSON.parse` makes of a part of a text

A text that is sent can arrive cut off, and the reader is then asked about a beginning of it.  It
must not find a value there: an object that is not closed yet is not some other value that is
shorter. The argument goes the other way round.  A reader that has come to an end before the text is
over does not see what follows, so it reads the same of every longer text.  If a beginning of an
object were a value, the whole text would be that value with something left over, while it is known
to be the object with nothing left over.

A decoder writes a replacement character where a character is cut off in the middle.  For texts that
end in one it is enough to look at the last unit: every token of the reader ends in an ASCII unit.

The file closes with what line-based protocols need to know.  What is written contains no control
characters, hence no line breaks, wherever the values come from.

* `Extends` — a reader that has come to an end before the text is over reads the same of a longer
  text, also with more fuel.
* `EndsInAscii` — the last unit a reader takes is ASCII.
* `Json.parse_stringify` — what is written is read back.
* `Json.parse_of_prefix` — no part of an object is JSON before its end.
* `Json.parse_replacement` — no text that ends in a replacement character is JSON.
* `Json.isPrinted_stringify` — what is written has no control characters.
-/

namespace RagStack

/-! ## Longer texts

A number is the only value whose end is not visible in itself, so for it the text has to go on.  The
lemmas follow the readers from the bottom up. -/

section Extends

variable {α β : Type} {text rest more : JsString}

/-- What the reader reads from a text that goes on behind it, `r'` reads from a longer one. -/
def Extends (r r' : Reader α) : Prop :=
  ∀ text a rest more, r text = some (a, rest) → rest ≠ [] →
    r' (text ++ more) = some (a, rest ++ more)

/-- The same, also at the end of the text. -/
def ExtendsAll (r r' : Reader α) : Prop :=
  ∀ text a rest more, r text = some (a, rest) → r' (text ++ more) = some (a, rest ++ more)

lemma readChars_extends : ExtendsAll readChars readChars := by
  intro text
  fun_induction readChars text with
  | case1 => rintro chars rest more ⟨⟩
  | case2 =>
      rintro chars rest more ⟨⟩
      rw [List.cons_append, readChars.eq_def]
      rfl
  | case3 => rintro chars rest more ⟨⟩
  | case4 a b c d text _ ih =>
      intro chars rest more hread
      obtain ⟨w, hw, hread⟩ := Option.bind_eq_some_iff.mp hread
      obtain ⟨⟨chars, rest⟩, hinner, heq⟩ := Option.map_eq_some_iff.mp hread
      cases heq
      simp only [List.cons_append]
      rw [readChars.eq_def]
      simp [hw, ih _ _ more hinner]
  | case5 => rintro chars rest more ⟨⟩
  | case6 v text hv _ ih =>
      intro chars rest more hread
      obtain ⟨w, hw, hread⟩ := Option.bind_eq_some_iff.mp hread
      obtain ⟨⟨chars, rest⟩, hinner, heq⟩ := Option.map_eq_some_iff.mp hread
      cases heq
      simp only [List.cons_append]
      rw [readChars.eq_def]
      simp [hv, hw, ih _ _ more hinner]
  | case7 => rintro chars rest more ⟨⟩
  | case8 u text hquote hbackslash hcontrol ih =>
      intro chars rest more hread
      obtain ⟨⟨chars, rest⟩, hinner, heq⟩ := Option.map_eq_some_iff.mp hread
      cases heq
      rw [List.cons_append, readChars_cons hquote hbackslash (Nat.not_lt.mp hcontrol),
        ih _ _ more hinner, Option.map_some]

lemma readNat_extends : Extends readNat readNat := by
  intro text n rest more hread hne
  simp only [readNat] at hread ⊢
  split_ifs at hread with hbad
  cases hread
  have hdrop : (text ++ more).dropWhile (IsDigit ·) = text.dropWhile (IsDigit ·) ++ more := by
    rw [List.dropWhile_append, if_neg (by simpa using hne)]
  have htake : (text ++ more).takeWhile (IsDigit ·) = text.takeWhile (IsDigit ·) := by
    rw [List.takeWhile_append, if_neg]
    intro hlength
    have hlengths :=
      congrArg List.length (List.takeWhile_append_dropWhile (p := (IsDigit ·)) (l := text))
    rw [List.length_append] at hlengths
    exact hne (List.length_eq_zero_iff.mp (by omega))
  rw [htake, hdrop, List.head?_append_of_ne_nil _ hne, if_neg hbad]

lemma readInt_extends : Extends readInt readInt := by
  intro text n rest more hread hne
  rw [readInt] at hread ⊢
  cases text with
  | nil => cases hread
  | cons u text =>
      rw [List.cons_append, List.head?_cons, List.tail_cons] at *
      split_ifs at hread ⊢ with hminus
      · obtain ⟨⟨m, rest⟩, hinner, heq⟩ := Option.map_eq_some_iff.mp hread
        cases heq
        rw [readNat_extends _ _ _ more hinner hne, Option.map_some]
      · obtain ⟨⟨m, rest⟩, hinner, heq⟩ := Option.map_eq_some_iff.mp hread
        cases heq
        rw [← List.cons_append, readNat_extends _ _ _ more hinner hne, Option.map_some]

lemma readWord_extends (word : String) (value : Json) :
    ExtendsAll (readWord word value) (readWord word value) := by
  intro text v rest more hread
  rw [readWord] at hread ⊢
  split_ifs at hread with hpre
  cases hread
  have hlong := (List.isPrefixOf_iff_prefix.mp hpre).trans (List.prefix_append text more)
  rw [if_pos (List.isPrefixOf_iff_prefix.mpr hlong), List.drop_append_of_le_length]
  exact (List.isPrefixOf_iff_prefix.mp hpre).length_le

variable {item item' : Reader α} {close : UInt16} {fuel fuel' : ℕ}

lemma readItems_extends (hitem : Extends item item') (hcomma : (0x2C : UInt16) ≠ close)
    (hfuel : fuel ≤ fuel') : ExtendsAll (readItems item close fuel) (readItems item' close fuel') := by
  induction fuel generalizing fuel' with
  | zero => rintro text xs rest more ⟨⟩
  | succ fuel ih =>
      intro text xs rest more hread
      obtain ⟨fuel', rfl⟩ := Nat.exists_eq_succ_of_ne_zero (Nat.ne_zero_of_lt hfuel)
      rw [readItems] at hread ⊢
      obtain ⟨⟨x, behind⟩, hx, hread⟩ := Option.bind_eq_some_iff.mp hread
      cases hclose : expect close behind with
      | some rest' =>
          simp only [hclose] at hread
          cases hread
          have hne : behind ≠ [] := by
            rintro rfl
            cases hclose
          simp only [hitem _ _ _ more hx hne, Option.bind_some, expect_append hclose]
      | none =>
          simp only [hclose] at hread
          obtain ⟨rest', hcommaRead, hread⟩ := Option.bind_eq_some_iff.mp hread
          obtain ⟨⟨ys, rest''⟩, hinner, heq⟩ := Option.map_eq_some_iff.mp hread
          cases heq
          have hne : behind ≠ [] := by
            rintro rfl
            cases hcommaRead
          have hcommaLong : expect 0x2C (behind ++ more) = some (rest' ++ more) :=
            expect_append hcommaRead
          simp only [hitem _ _ _ more hx hne, Option.bind_some, expect_eq_none_of_ne hcommaLong hcomma,
            hcommaLong, ih (Nat.le_of_succ_le_succ hfuel) _ _ _ more hinner, Option.map_some]

/-- A reader that reads nothing from white space. -/
def ReadsToken (r : Reader α) : Prop := ∀ text, skipSpace text = [] → r text = none

lemma readBracketed_extends (hitem : Extends item item') (htoken : ReadsToken item)
    (hcomma : (0x2C : UInt16) ≠ close) (hfuel : fuel ≤ fuel') :
    ExtendsAll (readBracketed item close fuel) (readBracketed item' close fuel') := by
  intro text xs rest more hread
  rw [readBracketed] at hread ⊢
  cases hclose : expect close text with
  | some rest' =>
      simp only [hclose] at hread
      cases hread
      rw [expect_append hclose]
  | none =>
      simp only [hclose] at hread
      have hne : skipSpace text ≠ [] := by
        intro hspace
        cases fuel with
        | zero => cases hread
        | succ fuel =>
            rw [readItems, htoken text hspace] at hread
            cases hread
      rw [expect_append_eq_none hclose hne]
      exact readItems_extends hitem hcomma hfuel _ _ _ more hread

lemma readMember_extends {value value' : Reader Json} (hvalue : Extends value value') :
    Extends (readMember value) (readMember value') := by
  intro text member rest more hread hne
  rw [readMember] at hread ⊢
  obtain ⟨rest₁, hquote, hread⟩ := Option.bind_eq_some_iff.mp hread
  obtain ⟨⟨key, rest₂⟩, hkey, hread⟩ := Option.bind_eq_some_iff.mp hread
  obtain ⟨rest₃, hcolon, hread⟩ := Option.bind_eq_some_iff.mp hread
  obtain ⟨⟨v, rest₄⟩, hv, heq⟩ := Option.map_eq_some_iff.mp hread
  cases heq
  rw [expect_append hquote, Option.bind_some, readChars_extends _ _ _ more hkey, Option.bind_some,
    expect_append hcolon, Option.bind_some, hvalue _ _ _ more hv hne, Option.map_some]

lemma readValue_readsToken (fuel : ℕ) : ReadsToken (readValue fuel) := by
  intro text hspace
  cases fuel with
  | zero => rfl
  | succ fuel => rw [readValue, hspace]

lemma readMember_readsToken (value : Reader Json) : ReadsToken (readMember value) := by
  intro text hspace
  have hquote : expect 0x22 text = none := by rw [expect, hspace]
  rw [readMember, hquote, Option.bind_none]

lemma readObject_extends (hvalue : Extends (readValue fuel) (readValue fuel')) (hfuel : fuel ≤ fuel') :
    ExtendsAll (readBracketed (readMember (readValue fuel)) 0x7D fuel)
      (readBracketed (readMember (readValue fuel')) 0x7D fuel') :=
  readBracketed_extends (readMember_extends hvalue) (readMember_readsToken _) (by decide) hfuel

/-- **A value that has come to an end** is the same in a longer text. -/
lemma readValue_extends (hfuel : fuel ≤ fuel') : Extends (readValue fuel) (readValue fuel') := by
  induction fuel generalizing fuel' with
  | zero => rintro text v rest more ⟨⟩
  | succ fuel ih =>
      intro text v rest more hread hne
      obtain ⟨fuel', rfl⟩ := Nat.exists_eq_succ_of_ne_zero (Nat.ne_zero_of_lt hfuel)
      have hle := Nat.le_of_succ_le_succ hfuel
      have hvalue := ih hle
      rw [readValue] at hread ⊢
      cases hspace : skipSpace text with
      | nil =>
          rw [hspace] at hread
          cases hread
      | cons u rest₁ =>
          rw [skipSpace_append (by simp [hspace]), hspace, List.cons_append]
          simp only [hspace] at hread ⊢
          split_ifs at hread ⊢
          · obtain ⟨⟨members, rest₂⟩, hmembers, heq⟩ := Option.map_eq_some_iff.mp hread
            cases heq
            rw [readObject_extends hvalue hle _ _ _ more hmembers, Option.map_some]
          · obtain ⟨⟨items, rest₂⟩, hitems, heq⟩ := Option.map_eq_some_iff.mp hread
            cases heq
            rw [readBracketed_extends hvalue (readValue_readsToken _) (by decide) hle _ _ _ more hitems,
              Option.map_some]
          · obtain ⟨⟨chars, rest₂⟩, hchars, heq⟩ := Option.map_eq_some_iff.mp hread
            cases heq
            rw [readChars_extends _ _ _ more hchars, Option.map_some]
          · exact readWord_extends _ _ _ _ _ more hread
          · exact readWord_extends _ _ _ _ _ more hread
          · exact readWord_extends _ _ _ _ _ more hread
          · obtain ⟨⟨n, rest₂⟩, hn, heq⟩ := Option.map_eq_some_iff.mp hread
            cases heq
            rw [← List.cons_append, readInt_extends _ _ _ more hn hne, Option.map_some]

end Extends

/-! ## The last unit

A closing bracket, a quotation mark, a digit or a letter. -/

section EndsInAscii

variable {α : Type} {item : Reader α} {close : UInt16} {fuel : ℕ}

/-- The last unit the reader takes is ASCII. -/
def EndsInAscii (r : Reader α) : Prop :=
  ∀ text a rest, r text = some (a, rest) → ∃ u : UInt16, u.toNat < 0x80 ∧ u :: rest <:+ text

lemma readChars_endsInAscii : EndsInAscii readChars := by
  intro text
  fun_induction readChars text with
  | case1 => rintro chars rest ⟨⟩
  | case2 =>
      rintro chars rest ⟨⟩
      exact ⟨0x22, by decide, List.suffix_rfl⟩
  | case3 => rintro chars rest ⟨⟩
  | case4 a b c d text _ ih =>
      intro chars rest hread
      obtain ⟨w, -, hread⟩ := Option.bind_eq_some_iff.mp hread
      obtain ⟨⟨chars, rest⟩, hinner, heq⟩ := Option.map_eq_some_iff.mp hread
      cases heq
      obtain ⟨u, hu, hsuffix⟩ := ih _ _ hinner
      exact ⟨u, hu, hsuffix.trans (List.suffix_append [_, _, a, b, c, d] text)⟩
  | case5 => rintro chars rest ⟨⟩
  | case6 v text _ _ ih =>
      intro chars rest hread
      obtain ⟨w, -, hread⟩ := Option.bind_eq_some_iff.mp hread
      obtain ⟨⟨chars, rest⟩, hinner, heq⟩ := Option.map_eq_some_iff.mp hread
      cases heq
      obtain ⟨u, hu, hsuffix⟩ := ih _ _ hinner
      exact ⟨u, hu, hsuffix.trans (List.suffix_append [_, v] text)⟩
  | case7 => rintro chars rest ⟨⟩
  | case8 v text _ _ _ ih =>
      intro chars rest hread
      obtain ⟨⟨chars, rest⟩, hinner, heq⟩ := Option.map_eq_some_iff.mp hread
      cases heq
      obtain ⟨u, hu, hsuffix⟩ := ih _ _ hinner
      exact ⟨u, hu, hsuffix.trans (List.suffix_cons v text)⟩

lemma readNat_endsInAscii : EndsInAscii readNat := by
  intro text n rest hread
  simp only [readNat] at hread
  split_ifs at hread with hbad
  cases hread
  have hne : text.takeWhile (IsDigit ·) ≠ [] := fun hnil => hbad (.inl hnil)
  have hdigit : IsDigit ((text.takeWhile (IsDigit ·)).getLast hne) := by
    have hmem := List.getLast_mem hne
    exact of_decide_eq_true (List.mem_takeWhile_imp (p := (IsDigit ·)) hmem)
  refine ⟨_, Nat.lt_of_le_of_lt hdigit.2 (by decide), (text.takeWhile (IsDigit ·)).dropLast, ?_⟩
  calc (text.takeWhile (IsDigit ·)).dropLast
        ++ (text.takeWhile (IsDigit ·)).getLast hne :: text.dropWhile (IsDigit ·)
      = text.takeWhile (IsDigit ·) ++ text.dropWhile (IsDigit ·) := by
        rw [List.append_cons, List.dropLast_append_getLast]
    _ = text := List.takeWhile_append_dropWhile

lemma readInt_endsInAscii : EndsInAscii readInt := by
  intro text n rest hread
  rw [readInt] at hread
  split_ifs at hread
  · obtain ⟨⟨m, rest⟩, hinner, heq⟩ := Option.map_eq_some_iff.mp hread
    cases heq
    obtain ⟨u, hu, hsuffix⟩ := readNat_endsInAscii _ _ _ hinner
    exact ⟨u, hu, hsuffix.trans (List.tail_suffix text)⟩
  · obtain ⟨⟨m, rest⟩, hinner, heq⟩ := Option.map_eq_some_iff.mp hread
    cases heq
    exact readNat_endsInAscii _ _ _ hinner

lemma readWord_endsInAscii {word : String} {value : Json} (front : JsString) (u : UInt16)
    (hword : js word = front ++ [u]) (hu : u.toNat < 0x80) : EndsInAscii (readWord word value) := by
  intro text v rest hread
  rw [readWord] at hread
  split_ifs at hread with hpre
  cases hread
  obtain ⟨rest, rfl⟩ := List.isPrefixOf_iff_prefix.mp hpre
  rw [List.drop_left, hword]
  exact ⟨u, hu, front, by simp⟩

lemma readItems_endsInAscii (hitem : EndsInAscii item) (hclose : close.toNat < 0x80) :
    EndsInAscii (readItems item close fuel) := by
  induction fuel with
  | zero => rintro text xs rest ⟨⟩
  | succ fuel ih =>
      intro text xs rest hread
      rw [readItems] at hread
      obtain ⟨⟨x, behind⟩, hx, hread⟩ := Option.bind_eq_some_iff.mp hread
      obtain ⟨u, -, hbehind⟩ := hitem _ _ _ hx
      have htext := (List.suffix_cons u behind).trans hbehind
      cases hexpect : expect close behind with
      | some rest' =>
          simp only [hexpect] at hread
          cases hread
          exact ⟨close, hclose, (suffix_of_expect hexpect).trans htext⟩
      | none =>
          simp only [hexpect] at hread
          obtain ⟨rest', hcomma, hread⟩ := Option.bind_eq_some_iff.mp hread
          obtain ⟨⟨ys, rest''⟩, hinner, heq⟩ := Option.map_eq_some_iff.mp hread
          cases heq
          obtain ⟨v, hv, hsuffix⟩ := ih _ _ _ hinner
          have hrest := (List.suffix_cons _ rest').trans (suffix_of_expect hcomma)
          exact ⟨v, hv, hsuffix.trans (hrest.trans htext)⟩

lemma readBracketed_endsInAscii (hitem : EndsInAscii item) (hclose : close.toNat < 0x80) :
    EndsInAscii (readBracketed item close fuel) := by
  intro text xs rest hread
  rw [readBracketed] at hread
  cases hexpect : expect close text with
  | some rest' =>
      simp only [hexpect] at hread
      cases hread
      exact ⟨close, hclose, suffix_of_expect hexpect⟩
  | none =>
      simp only [hexpect] at hread
      exact readItems_endsInAscii hitem hclose _ _ _ hread

lemma readMember_endsInAscii {value : Reader Json} (hvalue : EndsInAscii value) :
    EndsInAscii (readMember value) := by
  intro text member rest hread
  rw [readMember] at hread
  obtain ⟨rest₁, hquote, hread⟩ := Option.bind_eq_some_iff.mp hread
  obtain ⟨⟨key, rest₂⟩, hkey, hread⟩ := Option.bind_eq_some_iff.mp hread
  obtain ⟨rest₃, hcolon, hread⟩ := Option.bind_eq_some_iff.mp hread
  obtain ⟨⟨v, rest₄⟩, hv, heq⟩ := Option.map_eq_some_iff.mp hread
  cases heq
  obtain ⟨u, hu, hsuffix⟩ := hvalue _ _ _ hv
  obtain ⟨w, -, hchars⟩ := readChars_endsInAscii _ _ _ hkey
  have h₁ := (List.suffix_cons _ rest₁).trans (suffix_of_expect hquote)
  have h₂ := (List.suffix_cons w rest₂).trans hchars
  have h₃ := (List.suffix_cons _ rest₃).trans (suffix_of_expect hcolon)
  exact ⟨u, hu, hsuffix.trans (h₃.trans (h₂.trans h₁))⟩

lemma readValue_endsInAscii (fuel : ℕ) : EndsInAscii (readValue fuel) := by
  induction fuel with
  | zero => rintro text v rest ⟨⟩
  | succ fuel ih =>
      intro text v rest hread
      rw [readValue] at hread
      cases hspace : skipSpace text with
      | nil =>
          rw [hspace] at hread
          cases hread
      | cons u rest₁ =>
          have htext : u :: rest₁ <:+ text := hspace ▸ List.dropWhile_suffix _
          have htail := (List.suffix_cons u rest₁).trans htext
          have hends : ∃ w : UInt16, w.toNat < 0x80
              ∧ (w :: rest <:+ rest₁ ∨ w :: rest <:+ u :: rest₁) := by
            simp only [hspace] at hread
            split_ifs at hread
            · obtain ⟨⟨members, rest₂⟩, hinner, heq⟩ := Option.map_eq_some_iff.mp hread
              cases heq
              obtain ⟨w, hw, hsuffix⟩ :=
                readBracketed_endsInAscii (readMember_endsInAscii ih) (by decide) _ _ _ hinner
              exact ⟨w, hw, .inl hsuffix⟩
            · obtain ⟨⟨items, rest₂⟩, hinner, heq⟩ := Option.map_eq_some_iff.mp hread
              cases heq
              obtain ⟨w, hw, hsuffix⟩ := readBracketed_endsInAscii ih (by decide) _ _ _ hinner
              exact ⟨w, hw, .inl hsuffix⟩
            · obtain ⟨⟨chars, rest₂⟩, hinner, heq⟩ := Option.map_eq_some_iff.mp hread
              cases heq
              obtain ⟨w, hw, hsuffix⟩ := readChars_endsInAscii _ _ _ hinner
              exact ⟨w, hw, .inl hsuffix⟩
            · obtain ⟨w, hw, hsuffix⟩ :=
                readWord_endsInAscii (js "nul") 0x6C rfl (by decide) _ _ _ hread
              exact ⟨w, hw, .inr hsuffix⟩
            · obtain ⟨w, hw, hsuffix⟩ :=
                readWord_endsInAscii (js "tru") 0x65 rfl (by decide) _ _ _ hread
              exact ⟨w, hw, .inr hsuffix⟩
            · obtain ⟨w, hw, hsuffix⟩ :=
                readWord_endsInAscii (js "fals") 0x65 rfl (by decide) _ _ _ hread
              exact ⟨w, hw, .inr hsuffix⟩
            · obtain ⟨⟨n, rest₂⟩, hinner, heq⟩ := Option.map_eq_some_iff.mp hread
              cases heq
              obtain ⟨w, hw, hsuffix⟩ := readInt_endsInAscii _ _ _ hinner
              exact ⟨w, hw, .inr hsuffix⟩
          obtain ⟨w, hw, hsuffix | hsuffix⟩ := hends
          · exact ⟨w, hw, hsuffix.trans htail⟩
          · exact ⟨w, hw, hsuffix.trans htext⟩

end EndsInAscii

/-! ## `JSON.parse` -/

section Parse

variable {text : JsString}

/-- **What is written is read back.** -/
theorem Json.parse_stringify (value : Json) : Json.parse (toJs value.stringify) = some value := by
  have hread := readValue_stringify value ((toJs value.stringify).length + 1) []
    (Nat.lt_succ_self _) (by rintro u ⟨⟩)
  rw [List.append_nil] at hread
  rw [Json.parse, hread]
  rfl

/-- **No part of an object is JSON** before its end, however it is cut, also inside a string or an
escape. -/
theorem Json.parse_of_prefix {members : List (JsString × Json)}
    (hpre : text <+: toJs (Json.Object members).stringify)
    (hne : text ≠ toJs (Json.Object members).stringify) : Json.parse text = none := by
  obtain ⟨more, hmore⟩ := hpre
  rw [Option.eq_none_iff_forall_not_mem]
  intro value hparse
  obtain ⟨⟨v, rest⟩, hread, -⟩ := Option.bind_eq_some_iff.mp hparse
  have hwhole := readValue_stringify (.Object members)
    ((toJs (Json.Object members).stringify).length + 1) [] (Nat.lt_succ_self _) (by rintro u ⟨⟩)
  rw [List.append_nil] at hwhole
  have hmoreNe : more ≠ [] := by
    rintro rfl
    exact hne (by simpa using hmore)
  cases text with
  | nil => cases hread
  | cons u body =>
      rw [toJs_object, List.cons_append, List.cons_eq_cons] at hmore
      obtain ⟨rfl, hbody⟩ := hmore
      rw [toJs_object, ← hbody, readValue_cons (by decide), if_pos rfl] at hwhole
      rw [readValue_cons (by decide), if_pos rfl] at hread
      obtain ⟨⟨members', rest'⟩, hinner, heq⟩ := Option.map_eq_some_iff.mp hread
      cases heq
      have hle : (0x7B :: body : JsString).length ≤ (0x7B :: (body ++ more) : JsString).length := by
        simp
      have hlong := readObject_extends (readValue_extends hle) hle _ _ _ more hinner
      rw [hlong] at hwhole
      simp only [Option.map_some, Option.some.injEq, Prod.mk.injEq] at hwhole
      exact hmoreNe (List.append_eq_nil_iff.mp hwhole.2).2

/-- **A replacement character never ends JSON.** -/
theorem Json.parse_replacement (text : JsString) : Json.parse (text ++ [0xFFFD]) = none := by
  rw [Option.eq_none_iff_forall_not_mem]
  intro value hparse
  obtain ⟨⟨v, rest⟩, hread, hspace⟩ := Option.bind_eq_some_iff.mp hparse
  obtain ⟨u, hu, front, hfront⟩ := readValue_endsInAscii _ _ _ _ hread
  have hrest : ∀ w ∈ rest, w ∈ jsonSpaces := by
    by_contra hnot
    rw [if_neg] at hspace
    · cases hspace
    · intro hnil
      simp only [skipSpace, List.dropWhile_eq_nil_iff] at hnil
      exact hnot fun w hw => of_decide_eq_true (hnil w hw)
  have hlast : (u :: rest).getLast? = some 0xFFFD := by
    have h := congrArg List.getLast? hfront
    rwa [List.getLast?_append_of_ne_nil _ (List.cons_ne_nil u rest), List.getLast?_concat] at h
  rcases List.eq_nil_or_concat rest with rfl | ⟨before, w, rfl⟩
  · cases hlast
    exact absurd hu (by decide)
  · rw [List.concat_eq_append, ← List.cons_append, List.getLast?_concat] at hlast
    cases hlast
    exact absurd (hrest 0xFFFD (by simp)) (by decide)

end Parse

/-! ## Lines -/

section Lines

def IsPrinted (text : List Char) : Prop := ∀ c ∈ text, 0x20 ≤ c.toNat

instance (text : List Char) : Decidable (IsPrinted text) := List.decidableBAll _ text

lemma IsPrinted.append {text text' : List Char} (h : IsPrinted text) (h' : IsPrinted text') :
    IsPrinted (text ++ text') :=
  fun c hc => (List.mem_append.mp hc).elim (h c) (h' c)

lemma isPrinted_unicodeEscape {n : ℕ} (h : n < 0x10000) : IsPrinted (unicodeEscape n) := by
  have hall : ∀ d < 16, 0x20 ≤ (Nat.digitChar d).toNat := by decide +kernel
  intro c hc
  simp only [unicodeEscape, List.mem_cons, List.not_mem_nil, or_false] at hc
  rcases hc with rfl | rfl | rfl | rfl | rfl | rfl
  · decide
  · decide
  all_goals exact hall _ (by omega)

lemma isPrinted_escape (p : CodePoint) : IsPrinted p.escape := by
  cases p with
  | Lone u => exact isPrinted_unicodeEscape u.toNat_lt
  | Scalar c =>
      simp only [CodePoint.escape]
      split
      · rename_i entry hfind
        have hall : ∀ entry ∈ shortEscapes, IsPrinted [Char.ofNat 0x5C, Char.ofNat entry.2] := by
          decide +kernel
        exact hall entry (List.mem_of_find?_eq_some hfind)
      · split_ifs with hcontrol
        · exact isPrinted_unicodeEscape (by omega)
        · intro d hd
          rw [List.mem_singleton.mp hd]
          omega

lemma isPrinted_quoteJson (text : JsString) : IsPrinted (quoteJson text) := by
  intro c hc
  rcases List.mem_cons.mp hc with rfl | hc
  · decide
  · rcases List.mem_append.mp hc with hc | hc
    · obtain ⟨p, -, hp⟩ := List.mem_flatMap.mp hc
      exact isPrinted_escape p c hp
    · rw [List.mem_singleton.mp hc]
      decide

lemma isPrinted_natText (n : ℕ) : IsPrinted (natText n) := by
  rw [natText]
  split_ifs with hzero
  · decide
  · intro c hc
    obtain ⟨d, hd, rfl⟩ := List.mem_map.mp hc
    have hall : ∀ d < 10, 0x20 ≤ (Nat.digitChar d).toNat := by decide +kernel
    exact hall d (Nat.digits_lt_base (by omega) (List.mem_reverse.mp hd))

lemma isPrinted_intercalate {parts : List (List Char)} (h : ∀ part ∈ parts, IsPrinted part) :
    IsPrinted ([','].intercalate parts) := by
  induction parts with
  | nil => rintro c ⟨⟩
  | cons part parts ih =>
      cases parts with
      | nil => simpa [List.intercalate] using h part List.mem_cons_self
      | cons next parts =>
          have hjoin : [','].intercalate (part :: next :: parts)
              = part ++ ([','] ++ [','].intercalate (next :: parts)) := by simp [List.intercalate]
          rw [hjoin]
          refine (h part List.mem_cons_self).append (IsPrinted.append ?_ ?_)
          · decide
          · exact ih fun p hp => h p (List.mem_cons_of_mem _ hp)

/-- **JSON has no control characters.** -/
theorem Json.isPrinted_stringify (value : Json) : IsPrinted value.stringify := by
  induction value using Json.induct with
  | null => simp only [Json.stringify]; decide
  | bool b => cases b <;> simp only [Json.stringify] <;> decide
  | number n =>
      rw [Json.stringify, intText]
      split_ifs
      · intro c hc
        rcases List.mem_cons.mp hc with rfl | hc
        · decide
        · exact isPrinted_natText _ c hc
      · exact isPrinted_natText _
  | string text => exact isPrinted_quoteJson text
  | array items ih =>
      rw [Json.stringify, stringifyItems_eq]
      intro c hc
      rcases List.mem_cons.mp hc with rfl | hc
      · decide
      · rcases List.mem_append.mp hc with hc | hc
        · refine isPrinted_intercalate (fun part hpart => ?_) c hc
          obtain ⟨item, hitem, rfl⟩ := List.mem_map.mp hpart
          exact ih item hitem
        · rw [List.mem_singleton.mp hc]
          decide
  | object members ih =>
      rw [Json.stringify, stringifyMembers_eq]
      intro c hc
      rcases List.mem_cons.mp hc with rfl | hc
      · decide
      · rcases List.mem_append.mp hc with hc | hc
        · refine isPrinted_intercalate (fun part hpart => ?_) c hc
          obtain ⟨member, hmember, rfl⟩ := List.mem_map.mp hpart
          refine (isPrinted_quoteJson _).append fun c hc => ?_
          rcases List.mem_cons.mp hc with rfl | hc
          · decide
          · exact ih member hmember c hc
        · rw [List.mem_singleton.mp hc]
          decide

/-- A text without control characters has none as a string. -/
lemma IsPrinted.toJs {text : List Char} (h : IsPrinted text) : ∀ u ∈ toJs text, 0x20 ≤ u.toNat := by
  intro u hu
  obtain ⟨c, hc, hu⟩ := List.mem_flatMap.mp hu
  have hprinted := h c hc
  have hscalar := toNat_scalar c
  rw [utf16] at hu
  split_ifs at hu with hsmall
  · rw [List.mem_singleton.mp hu]
    simp only [Nat.toUInt16, UInt16.toNat_ofNat']
    omega
  · rcases List.mem_pair.mp hu with rfl | rfl
    · simp only [Nat.toUInt16, UInt16.toNat_ofNat']
      omega
    · simp only [Nat.toUInt16, UInt16.toNat_ofNat']
      omega

end Lines

end RagStack
