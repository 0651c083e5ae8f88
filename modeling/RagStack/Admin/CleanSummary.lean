import RagStack.Admin.ChatSummaryHelpers

/-!
# What `cleanAdminSummary` leaves

The expression for the wrapper tags takes as many of them as there are, at either end, with the
white space between them.  So no tag is left at an end, also after `trim`, and cleaning a clean text
changes nothing.

What could go wrong is that removing something brings something else to the end.  If a match left a
tag behind white space, `trim` would uncover it, and a second cleaning would remove it.  The
expression allows for white space before a tag at the front and behind it at the end, which is just
enough.  The front match is the longest, so what follows it does not begin with white space and a
tag.  The match at the end begins at the leftmost place from which nothing but tags follows, so what
is before it does not end with a tag and white space.

Both are properties of greedy matching, proved for the two halves of the expression: the longest
prefix in a language that is closed under appending a block cannot be followed by another block.
Neither half can undo what the other has done.  A text without a tag at its front still has none
when it is cut off at the end.

Idempotence follows: a text that is untagged is left as it is by the `replace`, and one that is
trimmed by `trim`.

* `Untagged` — no tag at the beginning or at the end, behind or before white space.
* `stripWrapperTags_untagged`, `stripWrapperTags_eq_self` — what the `replace` leaves, and what it
  leaves as it is.
* `cleanAdminSummary_idem` — the text is clean after the first time.
-/

namespace RagStack

/-! ## Tags with white space

White space of JavaScript and tags in any case of their letters. -/

def IsWrapperTag (tag : JsString) : Prop := wrapperTag.rmatch tag = true

/-- White space only. -/
def IsGap (gap : JsString) : Prop := ∀ u ∈ gap, u ∈ JsString.whitespace

lemma IsGap.append {gap gap' : JsString} (h : IsGap gap) (h' : IsGap gap') :
    IsGap (gap ++ gap') := by
  intro u hu
  rcases List.mem_append.mp hu with hu | hu
  · exact h u hu
  · exact h' u hu

lemma IsWrapperTag.ne_nil {tag : JsString} (h : IsWrapperTag tag) : tag ≠ [] := by
  rintro rfl
  cases h

lemma gap_tag_rmatch_iff {text : JsString} :
    (RegularExpression.star (JsString.anyOf JsString.whitespace) * wrapperTag).rmatch text = true
      ↔ ∃ gap tag, text = gap ++ tag ∧ IsGap gap ∧ IsWrapperTag tag := by
  rw [RegularExpression.mul_rmatch_iff]
  simp only [JsString.star_anyOf_rmatch_iff]
  rfl

lemma tag_gap_rmatch_iff {text : JsString} :
    (wrapperTag * RegularExpression.star (JsString.anyOf JsString.whitespace)).rmatch text = true
      ↔ ∃ tag gap, text = tag ++ gap ∧ IsWrapperTag tag ∧ IsGap gap := by
  rw [RegularExpression.mul_rmatch_iff]
  simp only [JsString.star_anyOf_rmatch_iff]
  rfl

/-- No tag at either end, white space or not. -/
structure Untagged (text : JsString) : Prop where
  front : ∀ gap tag rest, IsGap gap → IsWrapperTag tag → text ≠ gap ++ (tag ++ rest)
  back : ∀ rest tag gap, IsWrapperTag tag → IsGap gap → text ≠ rest ++ (tag ++ gap)

lemma Untagged.trim {text : JsString} (h : Untagged text) : Untagged text.trim := by
  obtain ⟨front, back, htext, hfront, hback⟩ := JsString.exists_eq_append_trim text
  constructor
  · intro gap tag rest hgap htag htrim
    refine h.front (front ++ gap) tag (rest ++ back) (IsGap.append hfront hgap) htag ?_
    rw [htrim] at htext
    simpa using htext
  · intro rest tag gap htag hgap htrim
    refine h.back (front ++ rest) tag (gap ++ back) htag (hgap.append hback) ?_
    rw [htrim] at htext
    simpa using htext

/-! ## The longest match and the leftmost one

What the two searches find, for any expression. -/

section Search

variable {p : ℕ → Bool}

/-- The last of the numbers below a bound with a property is the largest. -/
lemma le_getLast_filter_range {m n : ℕ} (hm : p m = true) (hlt : m < n) :
    m ≤ (((List.range n).filter p).getLast?).getD 0 := by
  induction n with
  | zero => cases hlt
  | succ n ih =>
      rw [List.range_succ, List.filter_append]
      by_cases hn : p n = true
      · rw [List.filter_cons_of_pos hn]
        simpa using Nat.le_of_lt_succ hlt
      · rw [List.filter_cons_of_neg hn, List.filter_nil, List.append_nil]
        refine ih (Nat.lt_of_le_of_ne (Nat.le_of_lt_succ hlt) ?_)
        rintro rfl
        exact hn hm

/-- It has the property, if zero has it. -/
lemma getLast_filter_range {n : ℕ} (hzero : p 0 = true) :
    p ((((List.range n).filter p).getLast?).getD 0) = true := by
  cases hlast : ((List.range n).filter p).getLast? with
  | none => exact hzero
  | some m => exact (List.mem_filter.mp (List.mem_of_getLast? hlast)).2

/-- The first of the numbers below a bound with a property is the smallest. -/
lemma find_range_le {m n : ℕ} (hm : p m = true) (hlt : m < n) :
    ((List.range n).find? p).getD n ≤ m := by
  cases hfind : (List.range n).find? p with
  | none =>
      have hnot := List.find?_range_eq_none.mp hfind m hlt
      simp [hm] at hnot
  | some k =>
      refine Nat.le_of_not_lt fun hbefore => ?_
      have hnot := (List.find?_range_eq_some.mp hfind).2.2 m hbefore
      simp [hm] at hnot

/-- It has the property, unless there is none. -/
lemma find_range (n : ℕ) :
    ((List.range n).find? p).getD n = n ∨ p (((List.range n).find? p).getD n) = true := by
  cases hfind : (List.range n).find? p with
  | none => exact .inl rfl
  | some k => exact .inr (List.find?_range_eq_some.mp hfind).1

end Search

/-! ## The tags at the beginning -/

/-- White space and a tag, any number of times. -/
def tagsBehindGaps : RegularExpression UInt16 :=
  .star (.star (JsString.anyOf JsString.whitespace) * wrapperTag)

/-- What is taken away at the beginning is nothing but tags with white space before them. -/
lemma leadingTags_rmatch (text : JsString) :
    tagsBehindGaps.rmatch (text.take (leadingTags text)) = true :=
  getLast_filter_range (p := fun stop => tagsBehindGaps.rmatch (text.take stop)) rfl

/-- It is all there is of them. -/
lemma le_leadingTags {text : JsString} {stop : ℕ} (hle : stop ≤ text.length)
    (hmatch : tagsBehindGaps.rmatch (text.take stop) = true) : stop ≤ leadingTags text :=
  le_getLast_filter_range (p := fun stop => tagsBehindGaps.rmatch (text.take stop)) hmatch
    (Nat.lt_succ_of_le hle)

lemma tagsBehindGaps_concat {tags gap tag : JsString} (htags : tagsBehindGaps.rmatch tags = true)
    (hgap : IsGap gap) (htag : IsWrapperTag tag) :
    tagsBehindGaps.rmatch (tags ++ (gap ++ tag)) = true := by
  obtain ⟨parts, rfl, hparts⟩ := (RegularExpression.star_rmatch_iff _ tags).mp htags
  refine (RegularExpression.star_rmatch_iff _ _).mpr ⟨parts ++ [gap ++ tag], by simp, ?_⟩
  intro part hpart
  rcases List.mem_append.mp hpart with hpart | hpart
  · exact hparts part hpart
  · rw [List.mem_singleton.mp hpart]
    exact ⟨fun hnil => htag.ne_nil (List.append_eq_nil_iff.mp hnil).2,
      gap_tag_rmatch_iff.mpr ⟨gap, tag, rfl, hgap, htag⟩⟩

/-- Behind the tags that are taken away no tag follows. -/
lemma drop_leadingTags_ne (text : JsString) {gap tag rest : JsString} (hgap : IsGap gap)
    (htag : IsWrapperTag tag) : text.drop (leadingTags text) ≠ gap ++ (tag ++ rest) := by
  intro hrest
  have hpos : 0 < tag.length := List.length_pos_of_ne_nil htag.ne_nil
  have hlength := congrArg List.length hrest
  simp only [List.length_drop, List.length_append] at hlength
  -- with the next tag the match would be longer
  have hlonger := tagsBehindGaps_concat (leadingTags_rmatch text) hgap htag
  have htags : text.take (leadingTags text + gap.length + tag.length)
      = text.take (leadingTags text) ++ (gap ++ tag) := by
    rw [Nat.add_assoc, List.take_add, hrest, ← List.append_assoc,
      List.take_left' List.length_append]
  have hmax := le_leadingTags (by omega) (htags ▸ hlonger)
  omega

/-- A text without a tag at its beginning is left as it is. -/
lemma leadingTags_eq_zero {text : JsString} (h : Untagged text) : leadingTags text = 0 := by
  have hmatch := leadingTags_rmatch text
  obtain ⟨parts, htake, hparts⟩ := (RegularExpression.star_rmatch_iff _ _).mp hmatch
  cases parts with
  | nil =>
      rcases List.take_eq_nil_iff.mp htake with hzero | rfl
      · exact hzero
      · rfl
  | cons part parts =>
      obtain ⟨gap, tag, rfl, hgap, htag⟩ :=
        gap_tag_rmatch_iff.mp (hparts part List.mem_cons_self).2
      refine absurd ?_ (h.front gap tag (parts.flatten ++ text.drop (leadingTags text)) hgap htag)
      rw [← List.append_assoc tag, ← List.append_assoc gap, ← List.append_assoc gap,
        ← List.flatten_cons, ← htake, List.take_append_drop]

/-! ## The tags at the end -/

/-- A tag and white space, at least once. -/
def tagsBeforeGaps : RegularExpression UInt16 :=
  let tag := wrapperTag * .star (JsString.anyOf JsString.whitespace)
  tag * .star tag

/-- They end with a tag and white space. -/
lemma exists_tag_of_tagsBeforeGaps {tags : JsString} (h : tagsBeforeGaps.rmatch tags = true) :
    ∃ front tag gap, tags = front ++ (tag ++ gap) ∧ IsWrapperTag tag ∧ IsGap gap := by
  obtain ⟨first, others, rfl, hfirst, hothers⟩ := (RegularExpression.mul_rmatch_iff _ _ _).mp h
  obtain ⟨parts, rfl, hparts⟩ := (RegularExpression.star_rmatch_iff _ _).mp hothers
  rcases List.eq_nil_or_concat' parts with rfl | ⟨parts, last, rfl⟩
  · obtain ⟨tag, gap, rfl, htag, hgap⟩ := tag_gap_rmatch_iff.mp hfirst
    exact ⟨[], tag, gap, by simp, htag, hgap⟩
  · obtain ⟨tag, gap, rfl, htag, hgap⟩ := tag_gap_rmatch_iff.mp (hparts last (by simp)).2
    exact ⟨first ++ parts.flatten, tag, gap, by simp, htag, hgap⟩

lemma tagsBeforeGaps_cons {tags tag gap : JsString} (htag : IsWrapperTag tag) (hgap : IsGap gap)
    (htags : tags = [] ∨ tagsBeforeGaps.rmatch tags = true) :
    tagsBeforeGaps.rmatch (tag ++ gap ++ tags) = true := by
  have hitem := tag_gap_rmatch_iff.mpr ⟨tag, gap, rfl, htag, hgap⟩
  refine (RegularExpression.mul_rmatch_iff _ _ _).mpr ⟨tag ++ gap, tags, rfl, hitem, ?_⟩
  rcases htags with rfl | htags
  · rfl
  · obtain ⟨first, others, rfl, hfirst, hothers⟩ :=
      (RegularExpression.mul_rmatch_iff _ _ _).mp htags
    obtain ⟨parts, rfl, hparts⟩ := (RegularExpression.star_rmatch_iff _ _).mp hothers
    refine (RegularExpression.star_rmatch_iff _ _).mpr ⟨first :: parts, rfl, ?_⟩
    intro part hpart
    rcases List.mem_cons.mp hpart with rfl | hpart
    · obtain ⟨tag, gap, rfl, htag, -⟩ := tag_gap_rmatch_iff.mp hfirst
      exact ⟨fun hnil => htag.ne_nil (List.append_eq_nil_iff.mp hnil).1, hfirst⟩
    · exact hparts part hpart

/-- What is taken away at the end is nothing, or nothing but tags with white space behind them. -/
lemma trailingTags_rmatch (text : JsString) :
    text.drop (trailingTags text) = []
      ∨ tagsBeforeGaps.rmatch (text.drop (trailingTags text)) = true := by
  rcases find_range (p := fun start => tagsBeforeGaps.rmatch (text.drop start)) text.length with
    hnone | hsome
  · refine .inl ?_
    rw [show trailingTags text = text.length from hnone, List.drop_length]
  · exact .inr hsome

/-- It is all there is of them. -/
lemma trailingTags_le {text : JsString} {start : ℕ} (hlt : start < text.length)
    (hmatch : tagsBeforeGaps.rmatch (text.drop start) = true) : trailingTags text ≤ start :=
  find_range_le (p := fun start => tagsBeforeGaps.rmatch (text.drop start)) hmatch hlt

/-- Before the tags that are taken away there is no tag. -/
lemma take_trailingTags_ne (text : JsString) {rest tag gap : JsString} (htag : IsWrapperTag tag)
    (hgap : IsGap gap) : text.take (trailingTags text) ≠ rest ++ (tag ++ gap) := by
  intro hrest
  have hpos : 0 < tag.length := List.length_pos_of_ne_nil htag.ne_nil
  have hlength := congrArg List.length hrest
  simp only [List.length_take, List.length_append] at hlength
  -- with the tag before them the match would begin earlier
  have hlonger := tagsBeforeGaps_cons htag hgap (trailingTags_rmatch text)
  have htext : text = rest ++ (tag ++ gap ++ text.drop (trailingTags text)) := by
    rw [← List.append_assoc, ← hrest, List.take_append_drop]
  have hdrop : text.drop rest.length = tag ++ gap ++ text.drop (trailingTags text) := by
    conv_lhs => rw [htext]
    exact List.drop_left
  have hmin := trailingTags_le (by omega) (hdrop ▸ hlonger)
  omega

/-- A text without a tag at its end is left as it is. -/
lemma trailingTags_eq_length {text : JsString} (h : Untagged text) :
    trailingTags text = text.length := by
  rcases find_range (p := fun start => tagsBeforeGaps.rmatch (text.drop start)) text.length with
    hnone | hsome
  · exact hnone
  · obtain ⟨front, tag, gap, hdrop, htag, hgap⟩ := exists_tag_of_tagsBeforeGaps hsome
    refine absurd ?_ (h.back (text.take (trailingTags text) ++ front) tag gap htag hgap)
    rw [List.append_assoc, ← hdrop]
    exact (List.take_append_drop _ _).symm

/-! ## The answer

Both ends, and then `trim`, which uncovers nothing. -/

/-- **The `replace`** leaves no tag at either end. -/
lemma stripWrapperTags_untagged (text : JsString) : Untagged (stripWrapperTags text) := by
  constructor
  · intro gap tag rest hgap htag hstrip
    let behind := text.drop (leadingTags text)
    let rest' := rest ++ behind.drop (trailingTags behind)
    refine @drop_leadingTags_ne text gap tag rest' hgap htag ?_
    rw [← List.append_assoc tag, ← List.append_assoc gap, ← hstrip]
    exact (List.take_append_drop _ _).symm
  · intro rest tag gap htag hgap
    exact take_trailingTags_ne _ htag hgap

/-- What has no tag at either end, it leaves as it is. -/
lemma stripWrapperTags_eq_self {text : JsString} (h : Untagged text) :
    stripWrapperTags text = text := by
  simp only [stripWrapperTags, leadingTags_eq_zero h, List.drop_zero, trailingTags_eq_length h,
    List.take_length]

lemma cleanAdminSummary_untagged (text : JsString) : Untagged (cleanAdminSummary text) :=
  (stripWrapperTags_untagged text).trim

@[simp] lemma trim_cleanAdminSummary (text : JsString) :
    (cleanAdminSummary text).trim = cleanAdminSummary text :=
  JsString.trim_trim _

/-- **Cleaning** a clean text changes nothing. -/
theorem cleanAdminSummary_idem (text : JsString) :
    cleanAdminSummary (cleanAdminSummary text) = cleanAdminSummary text := by
  rw [cleanAdminSummary, stripWrapperTags_eq_self (cleanAdminSummary_untagged text),
    trim_cleanAdminSummary]

end RagStack
