import RagStack.Chats.ContextWindowHelpers

/-!
# The traversals of a history

What the loops of `context-window.helpers.ts` end with, each stated for an arbitrary cursor or
accumulator and then for the call.  The loops were written to be read one round at a time, and their
specifications are not about rounds: which suffix is kept, which prefix is folded, where the chunks
are cut.

The estimate is the measure of everything.  It is a fold with an accumulator in the source and a sum
here, and from the sum it can be seen that leaving turns away lowers it, that the summary and the
new message are a part of every estimate, and that adding an entry to a chunk adds its own size.
For the dropping of turns this gives both directions of what can be said about it: what is kept fits
the limit exactly when the summary and the message fit without any turn.

A turn begins with a prompt.  All cuts of the history are made at such places, or at its end, which
is what keeps a prompt and its reply together.  The inner loops that look for the next boundary are
the reason for the fuel, and it is shown once that it suffices.

* `estimatePromptTokens_eq_sum` — the estimate is a sum over texts, so dropping turns lowers it.
* `dropOldestTurns_spec` — the result is a suffix that starts at a turn boundary, or everything;
  it fits the limit, or nothing is left to drop.
* `foldLoop_eq` — the fold ends at the first boundary that reaches the target, or the last one.
* `selectTurnsToFold_spec` — the fold is empty, or ends at a turn boundary.
* `chunkEntries_flatten` — the chunks are the entries, each once and in order.
* `isChunk_of_mem_chunkEntries`, `chunkEntries_of_isChunk` — which lists of entries are chunks.
* `entriesAfter_eq_of_anchor` — what follows an anchor that is there exactly once.
-/

namespace RagStack

/-! ## Estimates -/

def promptTexts (summary : Option JsString) (turns : List ChatHistoryEntry) (content : JsString) :
    List JsString :=
  ((JsString.truthy summary).map formatSummaryMessage).toList ++ turns.map (·.content) ++ [content]

lemma foldl_estimate (charsPerToken : ℚ) (texts : List JsString) (total : ℕ) :
    texts.foldl (fun total text => total + estimateMessageTokens text charsPerToken) total
      = total + (texts.map (estimateMessageTokens · charsPerToken)).sum := by
  induction texts generalizing total with
  | nil => simp
  | cons text texts ih =>
      rw [List.foldl_cons, ih, List.map_cons, List.sum_cons]
      omega

theorem estimatePromptTokens_eq_sum (summary : Option JsString) (turns : List ChatHistoryEntry)
    (content : JsString) (charsPerToken : ℚ) :
    estimatePromptTokens summary turns content charsPerToken
      = ((promptTexts summary turns content).map (estimateMessageTokens · charsPerToken)).sum := by
  show List.foldl _ 0 (promptTexts summary turns content) = _
  rw [foldl_estimate, Nat.zero_add]

/-- Turns only add to the estimate. -/
theorem estimatePromptTokens_nil_le (summary : Option JsString) (turns : List ChatHistoryEntry)
    (content : JsString) (charsPerToken : ℚ) :
    estimatePromptTokens summary [] content charsPerToken
      ≤ estimatePromptTokens summary turns content charsPerToken := by
  simp only [estimatePromptTokens_eq_sum, promptTexts, List.map_append, List.sum_append,
    List.map_nil, List.append_nil]
  omega

/-- The prompt sent to the model carries exactly the texts that were estimated. -/
theorem map_content_toPromptMessages (summary : Option JsString) (turns : List ChatHistoryEntry)
    (content : JsString) :
    (toPromptMessages summary turns content).map (·.content)
      = promptTexts summary turns content := by
  cases h : JsString.truthy summary with
  | none => simp [toPromptMessages, promptTexts, toPromptMessage, h]
  | some text => simp [toPromptMessages, promptTexts, toPromptMessage, h]

/-! ## Turn boundaries

The cursor of the inner loop stops at the first boundary at or after it.  The end of the list is
one, so the search never fails. -/

lemma isTurnBoundary_iff (turns : List ChatHistoryEntry) (index : ℕ) :
    isTurnBoundary turns index = true
      ↔ index = turns.length ∨ turns[index]?.map (·.role) = some .User := by
  simp [isTurnBoundary]

lemma isTurnBoundary_length (turns : List ChatHistoryEntry) :
    isTurnBoundary turns turns.length = true :=
  (isTurnBoundary_iff turns turns.length).mpr (.inl rfl)

/-- The inner loop ends on a boundary when its fuel reaches the end of the list. -/
lemma skipToBoundary_spec (turns : List ChatHistoryEntry) (fuel start : ℕ)
    (hstart : start ≤ turns.length) (hfuel : turns.length ≤ start + fuel) :
    start ≤ skipToBoundary turns fuel start ∧ skipToBoundary turns fuel start ≤ turns.length
      ∧ isTurnBoundary turns (skipToBoundary turns fuel start) = true := by
  induction fuel generalizing start with
  | zero =>
      have hend : start = turns.length := by omega
      exact ⟨le_rfl, hstart, hend ▸ isTurnBoundary_length turns⟩
  | succ fuel ih =>
      simp only [skipToBoundary]
      split
      · exact ⟨le_rfl, hstart, ‹_›⟩
      · rename_i hb
        have hlt : start < turns.length := by
          rcases Nat.lt_or_eq_of_le hstart with h | h
          · exact h
          · exact absurd (h ▸ isTurnBoundary_length turns) hb
        obtain ⟨hle, hlen, hbound⟩ := ih (start + 1) (by omega) (by omega)
        exact ⟨by omega, hlen, hbound⟩

section Drop

variable (summary : Option JsString) (turns : List ChatHistoryEntry) (content : JsString)
  (charsPerToken limit : ℚ)

/-- The outer loop, from a cursor inside the list. -/
lemma dropLoop_spec (fuel start : ℕ) (hstart : start ≤ turns.length)
    (hfuel : turns.length ≤ start + fuel) :
    let stop := dropLoop summary turns content charsPerToken limit fuel start
    stop ≤ turns.length ∧ (stop = start ∨ isTurnBoundary turns stop = true)
      ∧ (stop = turns.length
        ∨ estimatePromptTokens summary (turns.drop stop) content charsPerToken ≤ limit) := by
  induction fuel generalizing start with
  | zero =>
      have hend : start = turns.length := by omega
      exact ⟨hstart, .inl rfl, .inl hend⟩
  | succ fuel ih =>
      simp only [dropLoop]
      split
      · rename_i hover
        obtain ⟨hle, hlen, hbound⟩ :=
          skipToBoundary_spec turns turns.length (start + 1) (by omega) (by omega)
        obtain ⟨hstop, hstopBound, hfits⟩ :=
          ih (skipToBoundary turns turns.length (start + 1)) hlen (by omega)
        refine ⟨hstop, .inr ?_, hfits⟩
        rcases hstopBound with h | h
        · rw [h]; exact hbound
        · exact h
      · rename_i hover
        refine ⟨hstart, .inl rfl, ?_⟩
        rcases Nat.lt_or_eq_of_le hstart with h | h
        · exact .inr (le_of_not_gt fun hlimit => hover ⟨h, hlimit⟩)
        · exact .inl h

/-- **What `dropOldestTurns` keeps.**  A suffix which starts where a turn starts, unless nothing
had to go; and which fits, unless nothing is left. -/
theorem dropOldestTurns_spec :
    ∃ stop ≤ turns.length,
      dropOldestTurns summary turns content charsPerToken limit = turns.drop stop
        ∧ (stop = 0 ∨ isTurnBoundary turns stop = true)
        ∧ (stop = turns.length
          ∨ estimatePromptTokens summary (turns.drop stop) content charsPerToken ≤ limit) := by
  obtain ⟨hstop, hbound, hfits⟩ :=
    dropLoop_spec summary turns content charsPerToken limit turns.length 0 (by omega) (by omega)
  exact ⟨_, hstop, rfl, hbound, hfits⟩

/-- The kept turns fit the limit exactly when the summary and the new message do. -/
theorem estimate_dropOldestTurns_le_iff :
    estimatePromptTokens summary (dropOldestTurns summary turns content charsPerToken limit)
        content charsPerToken ≤ limit
      ↔ estimatePromptTokens summary [] content charsPerToken ≤ limit := by
  constructor
  · intro h
    refine le_trans ?_ h
    exact_mod_cast estimatePromptTokens_nil_le summary _ content charsPerToken
  · intro h
    obtain ⟨stop, -, hdrop, -, hfits⟩ :=
      dropOldestTurns_spec summary turns content charsPerToken limit
    rw [hdrop]
    rcases hfits with hend | hfits
    · rw [hend, List.drop_length]; exact h
    · exact hfits

end Drop

/-! ## The fold

The loop looks at the boundaries from the left and keeps the last one it has seen, until one reaches
the target. -/

section Fold

variable (turns : List ChatHistoryEntry) (content : JsString)
  (target summaryTokens charsPerToken : ℚ)

/-- A fold of the turns before `index` brings the prompt down to the target. -/
def ReachesTarget (index : ℕ) : Prop :=
  summaryTokens + estimatePromptTokens none (turns.drop index) content charsPerToken ≤ target

instance (index : ℕ) :
    Decidable (ReachesTarget turns content target summaryTokens charsPerToken index) :=
  inferInstanceAs (Decidable (_ ≤ _))

/-- The loop breaks at the first boundary that reaches the target, or runs past the last one. -/
lemma foldLoop_eq (indices : List ℕ) (fold : ℕ) :
    foldLoop turns content target summaryTokens charsPerToken indices fold
      = ((indices.filter (isTurnBoundary turns)).find?
          (ReachesTarget turns content target summaryTokens charsPerToken ·)).getD
        ((indices.filter (isTurnBoundary turns)).getLastD fold) := by
  induction indices generalizing fold with
  | nil => rfl
  | cons index indices ih =>
      simp only [foldLoop]
      split
      · rename_i hbound
        rw [List.filter_cons_of_pos hbound, List.getLastD_cons]
        split
        · rename_i hreaches
          rw [List.find?_cons_of_pos (by exact decide_eq_true hreaches), Option.getD_some]
        · rename_i hreaches
          rw [List.find?_cons_of_neg (by exact fun h => hreaches (of_decide_eq_true h)), ih]
      · rename_i hbound
        rw [List.filter_cons_of_neg hbound, ih]

/-- It ends at a boundary if there is one. -/
lemma foldLoop_mem {indices : List ℕ} (hne : indices.filter (isTurnBoundary turns) ≠ [])
    (fold : ℕ) : foldLoop turns content target summaryTokens charsPerToken indices fold
      ∈ indices.filter (isTurnBoundary turns) := by
  rw [foldLoop_eq]
  cases hfind : (indices.filter (isTurnBoundary turns)).find?
      (ReachesTarget turns content target summaryTokens charsPerToken ·) with
  | some index => exact List.mem_of_find?_eq_some hfind
  | none =>
      obtain ⟨front, last, hlast⟩ := (List.eq_nil_or_concat _).resolve_left hne
      rw [hlast, List.concat_eq_append, Option.getD_none, List.getLastD_concat]
      simp

/-- Nothing is cut off exactly if no turn ends before the messages that are kept. -/
lemma selectTurnsToFold_eq_zero_iff (keepRecent : ℕ) :
    selectTurnsToFold turns content keepRecent target summaryTokens charsPerToken = 0
      ↔ ∀ index ∈ List.range' 1 (turns.length - keepRecent), isTurnBoundary turns index = false := by
  have hnil : (List.range' 1 (turns.length - keepRecent)).filter (isTurnBoundary turns) = []
      ↔ ∀ index ∈ List.range' 1 (turns.length - keepRecent), isTurnBoundary turns index = false := by
    simp [List.filter_eq_nil_iff]
  rw [← hnil, selectTurnsToFold]
  constructor
  · intro hzero
    by_contra hne
    have hmem := foldLoop_mem turns content target summaryTokens charsPerToken hne 0
    rw [hzero, List.mem_filter, List.mem_range'_1] at hmem
    omega
  · intro h
    rw [foldLoop_eq, h]
    rfl

/-- **What `selectTurnsToFold` cuts off.**  Nothing, or a prefix that ends where a turn ends. -/
theorem selectTurnsToFold_spec (keepRecent : ℕ) :
    let count := selectTurnsToFold turns content keepRecent target summaryTokens charsPerToken
    count ≤ turns.length ∧ (count = 0 ∨ isTurnBoundary turns count = true) := by
  simp only [selectTurnsToFold]
  rcases eq_or_ne ((List.range' 1 (turns.length - keepRecent)).filter (isTurnBoundary turns)) []
    with h | hne
  · rw [foldLoop_eq, h]
    exact ⟨Nat.zero_le _, .inl rfl⟩
  · have hmem := foldLoop_mem turns content target summaryTokens charsPerToken hne 0
    rw [List.mem_filter, List.mem_range'_1] at hmem
    exact ⟨by omega, .inr hmem.2⟩

end Fold

/-! ## Chunks

The chunking is greedy, and its two properties are of different kinds.  The concatenation is an
invariant of the loop.  The bound on the size is one of the chunk that is being filled, and has an
exception: an entry that exceeds the budget by itself is a chunk of its own. -/

section Chunks

variable (budget charsPerToken : ℚ)

lemma chunkLoop_flatten (entries : List ChatHistoryEntry)
    (chunks : List (List ChatHistoryEntry)) (current : List ChatHistoryEntry) (size : ℕ) :
    (chunkLoop budget charsPerToken entries chunks current size).flatten
      = chunks.flatten ++ current ++ entries := by
  induction entries generalizing chunks current size with
  | nil =>
      simp only [chunkLoop]
      split
      · simp
      · rename_i hempty
        have hcurrent : current = [] := List.length_eq_zero_iff.mp (by omega)
        simp [hcurrent]
  | cons entry entries ih =>
      unfold chunkLoop
      simp only
      split
      · rw [ih]; simp
      · rw [ih]; simp

/-- **The chunks lose and repeat nothing.** -/
theorem chunkEntries_flatten (entries : List ChatHistoryEntry) :
    (chunkEntries entries budget charsPerToken).flatten = entries := by
  simp only [chunkEntries]
  rw [chunkLoop_flatten]
  simp

lemma chunkEntries_ne_nil {entries : List ChatHistoryEntry} (h : entries ≠ []) :
    chunkEntries entries budget charsPerToken ≠ [] := by
  intro hnil
  have hflatten := chunkEntries_flatten budget charsPerToken entries
  rw [hnil] at hflatten
  exact h hflatten.symm

/-- The estimated size of a chunk. -/
def chunkSize (chunk : List ChatHistoryEntry) : ℕ :=
  (chunk.map fun entry => estimateMessageTokens entry.content charsPerToken).sum

/-- A chunk is one entry, or stays within the budget. -/
def IsChunk (chunk : List ChatHistoryEntry) : Prop :=
  chunk ≠ [] ∧ (chunk.length = 1 ∨ chunkSize charsPerToken chunk ≤ budget)

lemma chunkSize_concat (chunk : List ChatHistoryEntry) (entry : ChatHistoryEntry) :
    chunkSize charsPerToken (chunk ++ [entry])
      = chunkSize charsPerToken chunk + estimateMessageTokens entry.content charsPerToken := by
  simp [chunkSize]

/-- What the loop adds to the finished chunks, while the size of the current one is counted. -/
lemma mem_chunkLoop {chunk : List ChatHistoryEntry} {entries : List ChatHistoryEntry}
    {chunks : List (List ChatHistoryEntry)} {current : List ChatHistoryEntry}
    (hcurrent : current = [] ∨ IsChunk budget charsPerToken current)
    (h : chunk ∈ chunkLoop budget charsPerToken entries chunks current
      (chunkSize charsPerToken current)) :
    chunk ∈ chunks ∨ IsChunk budget charsPerToken chunk := by
  induction entries generalizing chunks current with
  | nil =>
      simp only [chunkLoop] at h
      split at h
      · rename_i hpos
        rcases List.mem_append.mp h with h | h
        · exact .inl h
        · obtain rfl := List.mem_singleton.mp h
          exact .inr (hcurrent.resolve_left (List.length_pos_iff.mp hpos))
      · exact .inl h
  | cons entry entries ih =>
      have hone : IsChunk budget charsPerToken [entry] := ⟨by simp, .inl rfl⟩
      unfold chunkLoop at h
      simp only at h
      split at h
      · rename_i hfull
        rw [show estimateMessageTokens entry.content charsPerToken
          = chunkSize charsPerToken [entry] by simp [chunkSize]] at h
        rcases ih (.inr hone) h with h | h
        · rcases List.mem_append.mp h with h | h
          · exact .inl h
          · obtain rfl := List.mem_singleton.mp h
            exact .inr (hcurrent.resolve_left (List.length_pos_iff.mp hfull.1))
        · exact .inr h
      · rename_i hroom
        rw [← chunkSize_concat] at h hroom
        refine ih (.inr ⟨by simp, ?_⟩) h
        rcases List.eq_nil_or_concat current with rfl | ⟨front, last, rfl⟩
        · exact .inl rfl
        · exact .inr (by simpa using hroom)

/-- **Each chunk is one entry, or stays within the budget.** -/
theorem isChunk_of_mem_chunkEntries {chunk entries : List ChatHistoryEntry}
    (h : chunk ∈ chunkEntries entries budget charsPerToken) :
    IsChunk budget charsPerToken chunk :=
  (mem_chunkLoop budget charsPerToken (.inl rfl) h).resolve_left (by simp)

/-- While there is room, the loop only adds to the current chunk. -/
lemma chunkLoop_of_le {entries : List ChatHistoryEntry} {chunks : List (List ChatHistoryEntry)}
    {current : List ChatHistoryEntry} (hne : current ++ entries ≠ []) {size : ℕ}
    (h : (size + chunkSize charsPerToken entries : ℕ) ≤ budget) :
    chunkLoop budget charsPerToken entries chunks current size
      = chunks ++ [current ++ entries] := by
  induction entries generalizing current size with
  | nil =>
      rw [List.append_nil] at hne ⊢
      simp only [chunkLoop]
      rw [if_pos (List.length_pos_iff.mpr hne)]
  | cons entry entries ih =>
      have hsize : chunkSize charsPerToken (entry :: entries)
          = estimateMessageTokens entry.content charsPerToken
            + chunkSize charsPerToken entries := by
        simp [chunkSize]
      rw [hsize, ← Nat.add_assoc] at h
      have hroom : ((size + estimateMessageTokens entry.content charsPerToken : ℕ) : ℚ)
          ≤ budget := by
        refine le_trans ?_ h
        exact_mod_cast Nat.le_add_right _ _
      unfold chunkLoop
      simp only
      rw [if_neg fun hfull => absurd hroom (not_le.mpr hfull.2), ih (by simp) h]
      simp

/-- Entries that are a chunk are cut into that chunk alone. -/
theorem chunkEntries_of_isChunk {entries : List ChatHistoryEntry}
    (h : IsChunk budget charsPerToken entries) :
    chunkEntries entries budget charsPerToken = [entries] := by
  obtain ⟨hne, hone | hsize⟩ := h
  · obtain ⟨entry, rfl⟩ := List.length_eq_one_iff.mp hone
    rfl
  · exact @chunkLoop_of_le budget charsPerToken entries [] [] hne 0 (by rwa [Nat.zero_add])

end Chunks

/-! ## The anchor

The entries behind an anchor are looked up by its id.  In a history whose ids are distinct that is
the one place it can be. -/

/-- The entries after an anchor always are a suffix of the history. -/
theorem entriesAfter_isSuffix (history : List ChatHistoryEntry) (messageId : Option Uuid) :
    entriesAfter history messageId <:+ history := by
  simp only [entriesAfter]
  split
  · exact List.suffix_rfl
  · split
    · exact List.suffix_rfl
    · exact List.drop_suffix _ _

/-- An anchor that occurs once splits the history behind it. -/
theorem entriesAfter_eq_of_anchor {before rest : List ChatHistoryEntry} {anchor : ChatHistoryEntry}
    (hnodup : ((before ++ anchor :: rest).map ChatHistoryEntry.id).Nodup) :
    entriesAfter (before ++ anchor :: rest) (some anchor.id) = rest := by
  have hbefore : ∀ entry ∈ before, entry.id ≠ anchor.id := by
    intro entry hentry
    rw [List.map_append, List.nodup_append] at hnodup
    exact hnodup.2.2 _ (List.mem_map_of_mem hentry) _ (by simp)
  have hindex : (before ++ anchor :: rest).findIdx? (·.id = anchor.id) = some before.length := by
    rw [List.findIdx?_append, List.findIdx?_eq_none_iff.mpr (by simpa using hbefore)]
    simp [List.findIdx?_cons]
  simp only [entriesAfter]
  simp only [hindex]
  simp

/-- An anchor that is not there is ignored. -/
lemma entriesAfter_of_not_mem {entries : List ChatHistoryEntry} {anchor : Uuid}
    (h : anchor ∉ entries.map ChatHistoryEntry.id) :
    entriesAfter entries (some anchor) = entries := by
  have hindex : entries.findIdx? (·.id = anchor) = none := by
    rw [List.findIdx?_eq_none_iff]
    intro entry hentry
    exact decide_eq_false fun hid => h (List.mem_map.mpr ⟨entry, hentry, hid⟩)
  simp only [entriesAfter]
  simp only [hindex]

end RagStack
