import Mathlib.Data.List.Infix
import Mathlib.Tactic.Basic

/-!
# Patterns of SQL

A pattern is a text in which one character stands for any text, one for any character, and one
takes the meaning of the next character away.  A text that comes from outside is put into a pattern
between two wildcards, and for this its special characters have to be escaped: the escape character
itself too, and each of them once.  That this is enough is what the file proves, for every text, and
for every choice of the three characters.

Reading a pattern and matching it are two functions.  The first one can fail, because a pattern that
ends in its escape character asks for nothing that could be escaped.  An escaped text cannot do
this, so a search with it is never an error.  The second one is the usual recursion; that a pattern
of two parts matches a text of two parts is the lemma that takes the wildcards off at both ends.

Case is ignored by folding both sides before they are compared.  All that is asked of the fold is
that it leaves the special characters alone and makes no others.

* `LikeSyntax` — the three characters.
* `likeTokens`, `likeMatch`, `like` — reading a pattern, matching it, and both.
* `escapeSpecial` — a text as a pattern for itself.
* `likeMatch_append` — a pattern of two parts matches a text of two parts.
* `like_contains` — an escaped text between two wildcards matches the texts that contain it.
* `ilike_contains` — and so it does where case is ignored.
-/

namespace RagStack

variable {α : Type*}

/-- The three characters with a meaning in a pattern, which must be different for a pattern to be
read in one way only. -/
structure LikeSyntax (α : Type*) where
  many : α
  one : α
  escape : α
  many_ne_one : many ≠ one
  many_ne_escape : many ≠ escape
  one_ne_escape : one ≠ escape

/-- What a position of a pattern asks for. -/
inductive LikeToken (α : Type*) where
  | Many
  | One
  | Literal (c : α)
  deriving Repr, DecidableEq

section Like

variable [DecidableEq α] (grammar : LikeSyntax α)

def LikeSyntax.isSpecial (c : α) : Bool :=
  c = grammar.many || c = grammar.one || c = grammar.escape

/-- What the rest of a pattern asks for, behind an escape character or not. -/
def likeTokensFrom : Bool → List α → Option (List (LikeToken α))
  | true, [] => none
  | false, [] => some []
  | true, c :: rest => (likeTokensFrom false rest).map (.Literal c :: ·)
  | false, c :: rest =>
      if c = grammar.escape then likeTokensFrom true rest
      else if c = grammar.many then (likeTokensFrom false rest).map (.Many :: ·)
      else if c = grammar.one then (likeTokensFrom false rest).map (.One :: ·)
      else (likeTokensFrom false rest).map (.Literal c :: ·)

/-- What a pattern asks for.  One that ends in its escape character is an error. -/
def likeTokens (pattern : List α) : Option (List (LikeToken α)) :=
  likeTokensFrom grammar false pattern

/-- The text is what the tokens ask for. -/
def likeMatch : List (LikeToken α) → List α → Bool
  | [], text => text.isEmpty
  | .Many :: tokens, [] => likeMatch tokens []
  | .Many :: tokens, c :: text => likeMatch tokens (c :: text) || likeMatch (.Many :: tokens) text
  | .One :: tokens, _ :: text => likeMatch tokens text
  | .Literal c :: tokens, d :: text => c = d && likeMatch tokens text
  | _ :: _, [] => false

/-- `text LIKE pattern`. -/
def like (pattern text : List α) : Option Bool :=
  (likeTokens grammar pattern).map fun tokens => likeMatch tokens text

/-- `text ILIKE pattern`, where `fold` takes the case of a character away. -/
def ilike (fold : α → α) (pattern text : List α) : Option Bool :=
  like grammar (pattern.map fold) (text.map fold)

/-- A text as a pattern: an escape character before every special one. -/
def escapeSpecial (text : List α) : List α :=
  text.flatMap fun c => if grammar.isSpecial c then [grammar.escape, c] else [c]

end Like

/-! ## Matching -/

section Match

variable [DecidableEq α] {tokens tokens' : List (LikeToken α)} {c d : α} {text : List α}

@[simp] lemma likeMatch_nil : likeMatch ([] : List (LikeToken α)) text = true ↔ text = [] := by
  rw [likeMatch, List.isEmpty_iff]

@[simp] lemma likeMatch_one_cons :
    likeMatch (.One :: tokens) (c :: text) = likeMatch tokens text := by
  rw [likeMatch]

@[simp] lemma likeMatch_one_nil : likeMatch (.One :: tokens : List (LikeToken α)) [] = false := by
  rw [likeMatch]
  simp

@[simp] lemma likeMatch_literal_cons :
    likeMatch (.Literal c :: tokens) (d :: text) = true ↔ c = d ∧ likeMatch tokens text = true := by
  rw [likeMatch, Bool.and_eq_true, decide_eq_true_eq]

@[simp] lemma likeMatch_literal_nil : likeMatch (.Literal c :: tokens) [] = false := by
  rw [likeMatch]
  simp

/-- A wildcard takes some of the text. -/
lemma likeMatch_many :
    likeMatch (.Many :: tokens) text = true
      ↔ ∃ front back, text = front ++ back ∧ likeMatch tokens back = true := by
  induction text with
  | nil =>
      rw [likeMatch]
      refine ⟨fun h => ⟨[], [], rfl, h⟩, ?_⟩
      rintro ⟨front, back, htext, h⟩
      obtain ⟨-, rfl⟩ := List.append_eq_nil_iff.mp htext.symm
      exact h
  | cons c text ih =>
      rw [likeMatch, Bool.or_eq_true, ih]
      constructor
      · rintro (h | ⟨front, back, rfl, h⟩)
        · exact ⟨[], c :: text, rfl, h⟩
        · exact ⟨c :: front, back, rfl, h⟩
      · rintro ⟨front, back, htext, h⟩
        rcases front with _ | ⟨d, front⟩
        · rw [List.nil_append] at htext
          exact .inl (htext ▸ h)
        · rw [List.cons_append, List.cons.injEq] at htext
          exact .inr ⟨front, back, htext.2, h⟩

/-- **Two patterns, one after the other**, match two texts, one after the other. -/
theorem likeMatch_append :
    likeMatch (tokens ++ tokens') text = true
      ↔ ∃ front back, text = front ++ back ∧ likeMatch tokens front = true
        ∧ likeMatch tokens' back = true := by
  induction tokens generalizing text with
  | nil =>
      refine ⟨fun h => ⟨[], text, rfl, likeMatch_nil.mpr rfl, h⟩, ?_⟩
      rintro ⟨front, back, rfl, hfront, h⟩
      rw [likeMatch_nil] at hfront
      rw [hfront]
      exact h
  | cons token tokens ih =>
      rw [List.cons_append]
      cases token with
      | Many =>
          simp only [likeMatch_many, ih]
          constructor
          · rintro ⟨skipped, _, rfl, front, back, rfl, hfront, hback⟩
            exact ⟨skipped ++ front, back, (List.append_assoc _ _ _).symm, ⟨skipped, front, rfl, hfront⟩,
              hback⟩
          · rintro ⟨_, back, rfl, ⟨skipped, front, rfl, hfront⟩, hback⟩
            exact ⟨skipped, front ++ back, List.append_assoc _ _ _, front, back, rfl, hfront, hback⟩
      | One =>
          cases text with
          | nil =>
              refine iff_of_false (by simp) ?_
              rintro ⟨front, back, htext, hfront, -⟩
              rw [(List.append_eq_nil_iff.mp htext.symm).1] at hfront
              simp at hfront
          | cons c text =>
              rw [likeMatch_one_cons, ih]
              constructor
              · rintro ⟨front, back, rfl, hfront, hback⟩
                exact ⟨c :: front, back, rfl, by rwa [likeMatch_one_cons], hback⟩
              · rintro ⟨_ | ⟨d, front⟩, back, htext, hfront, hback⟩
                · simp at hfront
                · rw [likeMatch_one_cons] at hfront
                  exact ⟨front, back, (List.cons.inj htext).2, hfront, hback⟩
      | Literal b =>
          cases text with
          | nil =>
              refine iff_of_false (by simp) ?_
              rintro ⟨front, back, htext, hfront, -⟩
              rw [(List.append_eq_nil_iff.mp htext.symm).1] at hfront
              simp at hfront
          | cons c text =>
              rw [likeMatch_literal_cons, ih]
              constructor
              · rintro ⟨rfl, front, back, rfl, hfront, hback⟩
                exact ⟨b :: front, back, rfl, by simpa using hfront, hback⟩
              · rintro ⟨_ | ⟨d, front⟩, back, htext, hfront, hback⟩
                · simp at hfront
                · rw [likeMatch_literal_cons] at hfront
                  obtain ⟨rfl, htext'⟩ := List.cons.inj htext
                  exact ⟨hfront.1, front, back, htext', hfront.2, hback⟩

lemma likeMatch_literals {word : List α} :
    likeMatch (word.map .Literal) text = true ↔ text = word := by
  induction word generalizing text with
  | nil => exact likeMatch_nil
  | cons c word ih =>
      cases text with
      | nil => simp
      | cons d text =>
          rw [List.map_cons, likeMatch_literal_cons, ih, List.cons.injEq, eq_comm (a := c)]

/-- **Literals between wildcards** are found wherever they stand. -/
lemma likeMatch_contains {word : List α} :
    likeMatch (.Many :: (word.map .Literal ++ [.Many])) text = true ↔ word <:+: text := by
  simp only [likeMatch_many, likeMatch_append, likeMatch_literals, likeMatch_nil]
  constructor
  · rintro ⟨front, _, rfl, _, back, rfl, rfl, -⟩
    exact ⟨front, back, List.append_assoc _ _ _⟩
  · rintro ⟨front, back, rfl⟩
    exact ⟨front, word ++ back, List.append_assoc _ _ _, word, back, rfl, rfl, back, [],
      (List.append_nil _).symm, rfl⟩

end Match

/-! ## Escaping -/

section Escape

variable [DecidableEq α] {grammar : LikeSyntax α}

/-- An escape character takes the meaning of the next character away. -/
lemma likeTokens_escape (c : α) (rest : List α) :
    likeTokens grammar (grammar.escape :: c :: rest)
      = (likeTokens grammar rest).map (.Literal c :: ·) := by
  rw [likeTokens, likeTokensFrom, if_pos rfl, likeTokensFrom, ← likeTokens]

/-- A character without a meaning asks for itself. -/
lemma likeTokens_literal {c : α} (h : grammar.isSpecial c = false) (rest : List α) :
    likeTokens grammar (c :: rest) = (likeTokens grammar rest).map (.Literal c :: ·) := by
  simp only [LikeSyntax.isSpecial, Bool.or_eq_false_iff, decide_eq_false_iff_not] at h
  rw [likeTokens, likeTokensFrom, if_neg h.2, if_neg h.1.1, if_neg h.1.2, ← likeTokens]

lemma likeTokens_many (rest : List α) :
    likeTokens grammar (grammar.many :: rest) = (likeTokens grammar rest).map (.Many :: ·) := by
  rw [likeTokens, likeTokensFrom, if_neg grammar.many_ne_escape, if_pos rfl, ← likeTokens]

/-- **An escaped text asks for itself.** -/
lemma likeTokens_escapeSpecial (word rest : List α) :
    likeTokens grammar (escapeSpecial grammar word ++ rest)
      = (likeTokens grammar rest).map (word.map .Literal ++ ·) := by
  induction word with
  | nil => simp [escapeSpecial]
  | cons c word ih =>
      rw [escapeSpecial, List.flatMap_cons, List.append_assoc, ← escapeSpecial]
      cases hc : grammar.isSpecial c with
      | true =>
          rw [if_pos rfl, List.cons_append, List.cons_append, List.nil_append, likeTokens_escape, ih,
            Option.map_map]
          rfl
      | false =>
          rw [if_neg Bool.false_ne_true, List.cons_append, List.nil_append, likeTokens_literal hc, ih,
            Option.map_map]
          rfl

/-- **`LIKE '%…%'`** finds the texts that contain an escaped one, as they stand: no character of the
text is taken for a wildcard, and the pattern is never an error. -/
theorem like_contains (word text : List α) :
    like grammar (grammar.many :: (escapeSpecial grammar word ++ [grammar.many])) text
      = some (decide (word <:+: text)) := by
  have hnil : likeTokens grammar [] = some [] := rfl
  rw [like, likeTokens_many, likeTokens_escapeSpecial, likeTokens_many, hnil]
  simp only [Option.map_some, Option.some.injEq]
  exact Bool.eq_iff_iff.mpr (likeMatch_contains.trans decide_eq_true_iff.symm)

/-- Taking the case away leaves the special characters, and makes no others. -/
structure FoldsCase (grammar : LikeSyntax α) (fold : α → α) : Prop where
  special : ∀ c, grammar.isSpecial c = true → fold c = c
  plain : ∀ c, grammar.isSpecial c = false → grammar.isSpecial (fold c) = false

lemma FoldsCase.map_escapeSpecial {fold : α → α} (h : FoldsCase grammar fold) (word : List α) :
    (escapeSpecial grammar word).map fold = escapeSpecial grammar (word.map fold) := by
  have hescape : fold grammar.escape = grammar.escape := h.special _ (by simp [LikeSyntax.isSpecial])
  rw [escapeSpecial, escapeSpecial, List.map_flatMap, List.flatMap_map]
  refine List.flatMap_congr fun c _ => ?_
  cases hc : grammar.isSpecial c with
  | true => simp [h.special c hc, hc, hescape]
  | false => simp [h.plain c hc]

/-- **`ILIKE '%…%'`** finds the texts that contain an escaped one, whatever the case. -/
theorem ilike_contains {fold : α → α} (h : FoldsCase grammar fold) (word text : List α) :
    ilike grammar fold (grammar.many :: (escapeSpecial grammar word ++ [grammar.many])) text
      = some (decide (word.map fold <:+: text.map fold)) := by
  have hmany : fold grammar.many = grammar.many := h.special _ (by simp [LikeSyntax.isSpecial])
  rw [ilike, List.map_cons, List.map_append, List.map_singleton, h.map_escapeSpecial, hmany,
    like_contains]

end Escape

end RagStack
