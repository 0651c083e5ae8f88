import RagStack.Core.LikePattern
import RagStack.Core.JsString
import RagStack.Usage.Reporting

/-!
# `admin-users.repository.ts`: the search

The search text of an administrator becomes a pattern of `ILIKE`, with a wildcard on both sides.
What it holds of wildcards itself is escaped.  PostgreSQL's taking away of case is a parameter.

The administrator types a text and expects the users whose email or name contains it.  A percent
sign or an underscore in it must stand for itself, and so must a backslash, which is the escape
character of the pattern.  If one of them were not escaped, the search would find too much, or too
little: a backslash at the end of the text would take away the wildcard behind it.

The pattern language is that of the library, with the characters of PostgreSQL. An escaped text
matches exactly itself, so with a wildcard on both sides it matches what contains it, and both sides
of the comparison have their case taken away in the same way.  The name may be NULL, and then that
half of the condition does not hold.

One thing escaping cannot help with.  A text that contains U+0000 is no text for PostgreSQL, which
refuses it as a parameter before it looks at any pattern.  A query parameter can contain it, and
nothing in the service takes it out.  The search then ends in an error, and for every other text it
does not.

* `escapeLike`, `searchSql` — the code.
* `search_finds` — the users that are found are those whose email or name contains the text.
-/

namespace RagStack

/-- The white space that `trim` removes, as a character. -/
def isSpace (c : Char) : Bool := c.toNat < 0x10000 && c.toNat.toUInt16 ∈ JsString.whitespace

/-- `search.trim()` of a text without lone surrogates, which is what a query parameter is. -/
def trimText (text : List Char) : List Char := (text.dropWhile isSpace).rdropWhile isSpace

lemma percent_ne_underscore : '%' ≠ '_' := by decide

lemma percent_ne_backslash : '%' ≠ '\\' := by decide

lemma underscore_ne_backslash : '_' ≠ '\\' := by decide

def sqlLike : LikeSyntax Char where
  many := '%'
  one := '_'
  escape := '\\'
  many_ne_one := percent_ne_underscore
  many_ne_escape := percent_ne_backslash
  one_ne_escape := underscore_ne_backslash

/-- `escapeLike`: `value.replace(/[\\%_]/g, (char) => '\\' + char)`. -/
def escapeLike (value : List Char) : List Char :=
  value.flatMap fun c => if c ∈ ['\\', '%', '_'] then ['\\', c] else [c]

/-- U+0000. -/
def nul : Char := Char.ofNat 0

/-- A text as a parameter of a query.  PostgreSQL has no texts with U+0000 in them and answers with
an error. -/
def textParameter (text : List Char) : Option (List Char) := if nul ∈ text then none else some text

section Search

variable (fold : Char → Char)

/-- `column ILIKE pattern` in a condition, where NULL does not hold. -/
def columnIlike (pattern : List Char) : Option String → Option Bool
  | none => some false
  | some text => ilike sqlLike fold pattern text.toList

/-- `searchSql` for one user; `none` is PostgreSQL's error for a text it does not take, or for a
malformed pattern. -/
def searchSql (search : Option String) (user : AdminUser) : Option Bool :=
  let term := trimText (search.getD "").toList
  if term = [] then some true
  else do
    let pattern ← textParameter ('%' :: (escapeLike term ++ ['%']))
    let email ← columnIlike fold pattern (some user.email)
    let displayName ← columnIlike fold pattern user.displayName
    return email || displayName

/-- The text contains the term, whatever the case. -/
def ContainsTerm (term : List Char) (text : String) : Prop :=
  term.map fold <:+: text.toList.map fold

/-- The email or the display name contains the search text, whatever the case.  A search that is
empty or blank finds everybody. -/
def FoundBy (search : Option String) (user : AdminUser) : Prop :=
  let term := trimText (search.getD "").toList
  ContainsTerm fold term user.email ∨ ∃ name ∈ user.displayName, ContainsTerm fold term name

variable {fold}

lemma isSpecial_sqlLike {c : Char} :
    sqlLike.isSpecial c = true ↔ c = '%' ∨ c = '_' ∨ c = '\\' := by
  simp only [LikeSyntax.isSpecial, Bool.or_eq_true, decide_eq_true_eq]
  exact or_assoc

/-- The two spellings of escaping are one. -/
lemma escapeLike_eq (value : List Char) : escapeLike value = escapeSpecial sqlLike value := by
  refine List.flatMap_congr fun c _ => if_congr ?_ rfl rfl
  rw [isSpecial_sqlLike]
  simp only [List.mem_cons, List.not_mem_nil, or_false]
  tauto

lemma columnIlike_contains (h : FoldsCase sqlLike fold) (term : List Char) (column : Option String) :
    ∃ found, columnIlike fold ('%' :: (escapeLike term ++ ['%'])) column = some found
      ∧ (found = true ↔ ∃ text ∈ column, ContainsTerm fold term text) := by
  cases column with
  | none => exact ⟨false, rfl, by simp⟩
  | some text =>
      refine ⟨decide (term.map fold <:+: text.toList.map fold), ?_, by simp [ContainsTerm]⟩
      rw [columnIlike, escapeLike_eq]
      exact ilike_contains h term text.toList

/-- Trimming takes nothing away but white space. -/
lemma nul_mem_trimText {text : List Char} : nul ∈ trimText text ↔ nul ∈ text := by
  have hspace : isSpace nul ≠ true := by decide
  have hfront : nul ∉ text.takeWhile isSpace := fun h => hspace (List.mem_takeWhile_imp h)
  have hback : nul ∉ (text.dropWhile isSpace).rtakeWhile isSpace := fun h =>
    hspace (List.mem_rtakeWhile_imp h)
  constructor
  · intro h
    exact (List.dropWhile_sublist isSpace).subset ((List.rdropWhile_prefix isSpace _).subset h)
  · intro h
    have hsplit : text = text.takeWhile isSpace
        ++ (trimText text ++ (text.dropWhile isSpace).rtakeWhile isSpace) := by
      rw [trimText, List.rdropWhile_append_rtakeWhile, List.takeWhile_append_dropWhile]
    rw [hsplit, List.mem_append, List.mem_append] at h
    exact (h.resolve_left hfront).resolve_right hback

lemma nul_mem_escapeLike {value : List Char} : nul ∈ escapeLike value ↔ nul ∈ value := by
  have hescaped : ∀ c, nul ∈ (if c ∈ ['\\', '%', '_'] then ['\\', c] else [c]) ↔ nul = c := by
    intro c
    have hbackslash : nul ≠ '\\' := by decide
    split <;> simp [hbackslash]
  simp only [escapeLike, List.mem_flatMap, hescaped, exists_eq_right']

/-- **The search finds what contains the search text.**  PostgreSQL refuses the search exactly if
the text has U+0000 in it; for every other text, whatever else its characters are, the users that
are found are those whose email or display name contains it.  No character of it is a wildcard, and
no text becomes a malformed pattern: every special character of the pattern has its escape in front,
and the wildcards are only the two that the code adds. -/
theorem search_finds (fold : Char → Char) (h : FoldsCase sqlLike fold) (search : Option String)
    (user : AdminUser) :
    (searchSql fold search user = none ↔ nul ∈ (search.getD "").toList)
      ∧ ∀ found, searchSql fold search user = some found →
        (found = true ↔ FoundBy fold search user) := by
  have hnul : nul ∈ ('%' :: (escapeLike (trimText (search.getD "").toList) ++ ['%']))
      ↔ nul ∈ (search.getD "").toList := by
    have hpercent : nul ≠ '%' := by decide
    rw [List.mem_cons, List.mem_append, List.mem_singleton, nul_mem_escapeLike, nul_mem_trimText]
    simp only [hpercent, false_or, or_false]
  simp only [searchSql, FoundBy, textParameter, hnul]
  split
  · rename_i hterm
    have hfree : nul ∉ (search.getD "").toList := by
      rw [← nul_mem_trimText, hterm]
      exact List.not_mem_nil
    refine ⟨iff_of_false nofun hfree, ?_⟩
    rintro _ ⟨⟩
    refine iff_of_true rfl (.inl ?_)
    rw [hterm, ContainsTerm, List.map_nil]
    exact List.nil_infix
  · by_cases hrefused : nul ∈ (search.getD "").toList
    · rw [if_pos hrefused]
      exact ⟨iff_of_true rfl hrefused, nofun⟩
    · obtain ⟨email, hemail, hfound⟩ :=
        columnIlike_contains h (trimText (search.getD "").toList) (some user.email)
      obtain ⟨name, hname, hfound'⟩ :=
        columnIlike_contains h (trimText (search.getD "").toList) user.displayName
      rw [if_neg hrefused, Option.bind_eq_bind, Option.bind_some, hemail, hname]
      refine ⟨iff_of_false nofun hrefused, ?_⟩
      rintro _ ⟨⟩
      rw [Bool.or_eq_true, hfound, hfound']
      simp

/-- Taking the case of ASCII letters away. -/
lemma foldsCase_toLower : FoldsCase sqlLike Char.toLower where
  special c hc := by
    rcases isSpecial_sqlLike.mp hc with rfl | rfl | rfl <;> rfl
  plain c hc := by
    by_cases hupper : c.val ≥ 'A'.val ∧ c.val ≤ 'Z'.val
    · have hval : c.toLower.val = c.val + 32 := congrArg Char.val (dif_pos hupper)
      obtain ⟨hlow, hhigh⟩ := hupper
      rw [ge_iff_le, UInt32.le_iff_toNat_le] at hlow
      rw [UInt32.le_iff_toNat_le] at hhigh
      have hA : 'A'.val.toNat = 65 := rfl
      have hZ : 'Z'.val.toNat = 90 := rfl
      have hnat : c.toLower.val.toNat = c.val.toNat + 32 := by
        have h32 : (32 : UInt32).toNat = 32 := rfl
        rw [hval, UInt32.toNat_add, h32]
        omega
      have hpercent : '%'.val.toNat = 37 := rfl
      have hunderscore : '_'.val.toNat = 95 := rfl
      have hbackslash : '\\'.val.toNat = 92 := rfl
      rw [← Bool.not_eq_true, isSpecial_sqlLike]
      rintro (h | h | h) <;> rw [h] at hnat <;> omega
    · have hsame : c.toLower = c := dif_neg hupper
      rwa [hsame]

/-- A search for a text that would be a pattern, in a name with a case of its own: it is not
refused, and what it finds contains the text. -/
theorem search_finds_percent :
    let user : AdminUser := ⟨1, "ann@example.com", some "Top 10% Team", 0⟩
    (searchSql Char.toLower (some " 10% t ") user = none ↔ nul ∈ " 10% t ".toList)
      ∧ ∀ found, searchSql Char.toLower (some " 10% t ") user = some found →
        (found = true ↔ FoundBy Char.toLower (some " 10% t ") user) :=
  search_finds Char.toLower foldsCase_toLower (some " 10% t ") _

end Search

end RagStack
