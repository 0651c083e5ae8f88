import RagStack.Chats.Lemmas.ContextWindow
import RagStack.Core.WhileLoop
import Mathlib.Order.Bounds.Basic
import Mathlib.Data.List.Chain

/-!
# Where a history is cut

The three traversals of `context-window.helpers.ts` look for a best cut, and they find it for every
list of turns, also one that starts with a reply or holds two messages of one side in a row.

Best means something else in each of them.  Dropping wants to keep as much as fits, folding wants to
fold no more than it must, and a chunk wants to be as full as the budget allows.  Each is stated
against all other cuts of the same kind and not by what the loop does, and each has its fallback:
nothing is kept if nothing fits, the last boundary is taken if none reaches the target, and an entry
that is too long for the budget is a chunk of its own.

The loops of `dropOldestTurns` are nested `while` loops, and that they stop is a part of the claim.
They are therefore given a second time as relations, directly from the source and without fuel.  The
relations have exactly one end for every start, and it is the cursor that the function computes.

* `dropOldestTurns_longest` — the `while` loops of `dropOldestTurns` always stop, and what they keep
  is the longest suffix that fits and splits no turn.
* `selectTurnsToFold_best` — the fold is the shortest that reaches the target, else the longest.
* `chunkEntries_greedy` — the chunks are cut as late as the budget allows.
-/

namespace RagStack

/-! ## Dropping turns

A suffix may be kept if it is everything, or nothing, or begins with a message of the user. -/

/-- `while (!isTurnBoundary(params.turns, start)) start += 1`, from one cursor to another. -/
def SkipsToBoundary (turns : List ChatHistoryEntry) : ℕ → ℕ → Prop :=
  WhileRuns (fun start => isTurnBoundary turns start = false) fun start next => next = start + 1

/-- The first turn boundary from `start` on. -/
lemma skipsToBoundary_iff {turns : List ChatHistoryEntry} {start stop : ℕ} :
    SkipsToBoundary turns start stop
      ↔ IsLeast {index | start ≤ index ∧ isTurnBoundary turns index = true} stop := by
  constructor
  · intro h
    induction h with
    | Stops hguard => exact ⟨⟨le_rfl, by simpa using hguard⟩, fun _ h => h.1⟩
    | @Loops start _ stop hguard hbody _ ih =>
        obtain rfl := hbody
        refine ⟨⟨Nat.le_of_succ_le ih.1.1, ih.1.2⟩, fun index ⟨hle, hindex⟩ => ih.2 ⟨?_, hindex⟩⟩
        rcases Nat.eq_or_lt_of_le hle with rfl | hlt
        · exact absurd hindex (by simp [hguard])
        · exact hlt
  · rintro ⟨⟨hle, hstop⟩, hleast⟩
    induction hn : stop - start generalizing start with
    | zero =>
        obtain rfl : start = stop := by omega
        exact .Stops (by simp [hstop])
    | succ n ih =>
        have hguard : isTurnBoundary turns start = false := by
          refine Bool.eq_false_iff.mpr fun hstart => ?_
          have := hleast ⟨le_rfl, hstart⟩
          omega
        exact .Loops hguard rfl
          (ih (fun index ⟨hle, hindex⟩ => hleast ⟨Nat.le_of_succ_le hle, hindex⟩) (by omega)
            (by omega))

lemma skipsToBoundary_skipToBoundary {turns : List ChatHistoryEntry} {fuel start : ℕ}
    (hstart : start ≤ turns.length) (hfuel : turns.length ≤ start + fuel) :
    SkipsToBoundary turns start (skipToBoundary turns fuel start) := by
  induction fuel generalizing start with
  | zero =>
      have hend : start = turns.length := by omega
      exact .Stops (by simp [hend, isTurnBoundary_length])
  | succ fuel ih =>
      simp only [skipToBoundary]
      split
      · rename_i hbound
        exact .Stops (by simp [hbound])
      · rename_i hbound
        have hne : start ≠ turns.length := fun h => hbound (h ▸ isTurnBoundary_length turns)
        exact .Loops (Bool.eq_false_iff.mpr hbound) rfl (ih (by omega) (by omega))

/-- What `dropOldestTurns` may keep: everything, nothing, or what starts with a message of the
user. -/
def Keepable (turns kept : List ChatHistoryEntry) : Prop :=
  kept <:+ turns ∧ (kept = turns ∨ kept = [] ∨ kept.head?.map (·.role) = some .User)

lemma keepable_drop_iff {turns : List ChatHistoryEntry} {index : ℕ} (hle : index ≤ turns.length) :
    Keepable turns (turns.drop index) ↔ index = 0 ∨ isTurnBoundary turns index = true := by
  have hall : turns.drop index = turns ↔ index = 0 ∨ turns = [] := by
    constructor
    · intro h
      have hlength := congrArg List.length h
      rw [List.length_drop] at hlength
      rcases Nat.eq_zero_or_pos index with hzero | hpos
      · exact .inl hzero
      · exact .inr (List.length_eq_zero_iff.mp (by omega))
    · rintro (rfl | rfl)
      · exact List.drop_zero
      · exact List.drop_nil
  have hnone : turns.drop index = [] ↔ index = turns.length := by
    rw [List.drop_eq_nil_iff]
    omega
  rw [Keepable, isTurnBoundary_iff, List.head?_drop, hall, hnone]
  constructor
  · rintro ⟨-, (h | rfl) | h⟩
    · exact .inl h
    · exact .inl (by simpa using hle)
    · exact .inr h
  · rintro (h | h)
    · exact ⟨List.drop_suffix _ _, .inl (.inl h)⟩
    · exact ⟨List.drop_suffix _ _, .inr h⟩

section Drop

variable (summary : Option JsString) (turns : List ChatHistoryEntry) (content : JsString)
  (charsPerToken limit : ℚ)

/-- The prompt with these turns is within the limit. -/
def KeptFits (kept : List ChatHistoryEntry) : Prop :=
  estimatePromptTokens summary kept content charsPerToken ≤ limit

/-- The loop of `dropOldestTurns`, from one cursor to another. -/
def DropsTurns : ℕ → ℕ → Prop :=
  WhileRuns
    (fun start => start < turns.length
      ∧ limit < estimatePromptTokens summary (turns.drop start) content charsPerToken)
    fun start next => SkipsToBoundary turns (start + 1) next

variable {summary turns content charsPerToken limit}

lemma dropsTurns_dropLoop {fuel start : ℕ} (hstart : start ≤ turns.length)
    (hfuel : turns.length ≤ start + fuel) :
    DropsTurns summary turns content charsPerToken limit start
      (dropLoop summary turns content charsPerToken limit fuel start) := by
  induction fuel generalizing start with
  | zero => exact .Stops (by omega)
  | succ fuel ih =>
      simp only [dropLoop]
      split
      · rename_i hguard
        obtain ⟨hle, hlen, -⟩ :=
          skipToBoundary_spec turns turns.length (start + 1) (by omega) (by omega)
        exact .Loops hguard (skipsToBoundary_skipToBoundary (by omega) (by omega))
          (ih hlen (by omega))
      · rename_i hguard
        exact .Stops hguard

/-- **The loops always stop**, at one cursor. -/
lemma dropsTurns_iff {stop : ℕ} :
    DropsTurns summary turns content charsPerToken limit 0 stop
      ↔ stop = dropLoop summary turns content charsPerToken limit turns.length 0 := by
  have hruns := @dropsTurns_dropLoop summary turns content charsPerToken limit turns.length 0
    (Nat.zero_le _) (by omega)
  constructor
  · intro h
    refine WhileRuns.unique (fun start s₁ s₂ h₁ h₂ => ?_) h hruns
    exact (skipsToBoundary_iff.mp h₁).unique (skipsToBoundary_iff.mp h₂)
  · rintro rfl
    exact hruns

/-- Wherever the loop could have stopped before, the limit was exceeded. -/
lemma DropsTurns.lt_estimate {start stop index : ℕ}
    (h : DropsTurns summary turns content charsPerToken limit start stop) (hle : start ≤ index)
    (hlt : index < stop) (hcut : index = start ∨ isTurnBoundary turns index = true) :
    limit < estimatePromptTokens summary (turns.drop index) content charsPerToken := by
  induction h with
  | Stops _ => omega
  | Loops hguard hbody _ ih =>
      rcases Nat.eq_or_lt_of_le hle with rfl | hafter
      · exact hguard.2
      · have hbound : isTurnBoundary turns index = true := hcut.resolve_left (by omega)
        exact ih ((skipsToBoundary_iff.mp hbody).2 ⟨hafter, hbound⟩) hlt (.inr hbound)

/-- **No more is dropped than needed.**  The `while` loops stop for every list of turns and every
limit.  What is kept is the longest suffix that fits, of those that start at the first turn or at a
message of the user or are empty; and nothing is kept if none of them fits. -/
theorem dropOldestTurns_longest (summary : Option JsString) (turns : List ChatHistoryEntry)
    (content : JsString) (charsPerToken limit : ℚ) :
    let kept := dropOldestTurns summary turns content charsPerToken limit
    (∃ stop, (∀ other, DropsTurns summary turns content charsPerToken limit 0 other ↔ other = stop)
        ∧ kept = turns.drop stop)
      ∧ Keepable turns kept
      ∧ (∀ other, Keepable turns other → KeptFits summary content charsPerToken limit other →
          KeptFits summary content charsPerToken limit kept ∧ other <:+ kept)
      ∧ ((∀ other, Keepable turns other →
          ¬ KeptFits summary content charsPerToken limit other) → kept = []) := by
  have hruns := fun other =>
    @dropsTurns_iff summary turns content charsPerToken limit other
  obtain ⟨hlen, hbound, hfits⟩ :=
    dropLoop_spec summary turns content charsPerToken limit turns.length 0 (by omega) (by omega)
  simp only [dropOldestTurns]
  generalize dropLoop summary turns content charsPerToken limit turns.length 0 = stop at *
  have hkeepable : Keepable turns (turns.drop stop) := (keepable_drop_iff hlen).mpr hbound
  refine ⟨⟨stop, hruns, rfl⟩, hkeepable, fun other hother hotherFits => ?_, fun hnone => ?_⟩
  · obtain ⟨index, hindex, rfl⟩ : ∃ index ≤ turns.length, other = turns.drop index :=
      ⟨_, Nat.sub_le _ _, List.suffix_iff_eq_drop.mp hother.1⟩
    have hstop : stop ≤ index := by
      refine le_of_not_gt fun hlt => absurd hotherFits (not_le.mpr ?_)
      exact ((hruns stop).mpr rfl).lt_estimate (Nat.zero_le _) hlt
        ((keepable_drop_iff hindex).mp hother)
    refine ⟨?_, List.drop_suffix_drop_left turns hstop⟩
    rcases hfits with hend | hfits
    · obtain rfl : index = stop := by omega
      exact hotherFits
    · exact hfits
  · rcases hfits with rfl | hfits
    · exact List.drop_length
    · exact absurd hfits (hnone _ hkeepable)

end Drop

/-! ## Folding turns

The boundaries form a finite set, and the fold is its smallest element that reaches the target, or
its greatest. -/

section Fold

variable (turns : List ChatHistoryEntry) (content : JsString)
  (target summaryTokens charsPerToken : ℚ)

/-- The turn boundaries among the indices of the loop. -/
def Foldable (keepRecent : ℕ) : Set ℕ :=
  {index | index ∈ Set.Icc 1 (turns.length - keepRecent) ∧ isTurnBoundary turns index = true}

lemma isLeast_of_find? {indices : List ℕ} (hsorted : indices.Pairwise (· < ·)) {p : ℕ → Bool}
    {least : ℕ} (h : indices.find? p = some least) :
    IsLeast {index | index ∈ indices ∧ p index = true} least := by
  obtain ⟨hp, before, after, rfl, hbefore⟩ := List.find?_eq_some_iff_append.mp h
  refine ⟨⟨by simp, hp⟩, fun index ⟨hmem, hindex⟩ => ?_⟩
  rcases List.mem_append.mp hmem with hmem | hmem
  · exact absurd hindex (by simpa using hbefore index hmem)
  · rcases List.mem_cons.mp hmem with rfl | hmem
    · exact le_rfl
    · exact (List.rel_of_pairwise_cons (List.pairwise_append.mp hsorted).2.1 hmem).le

lemma isGreatest_getLastD {indices : List ℕ} (hsorted : indices.Pairwise (· < ·))
    (hne : indices ≠ []) (fold : ℕ) :
    IsGreatest {index | index ∈ indices} (indices.getLastD fold) := by
  obtain ⟨front, last, rfl⟩ := (List.eq_nil_or_concat indices).resolve_left hne
  rw [List.concat_eq_append] at *
  rw [List.getLastD_concat]
  refine ⟨by simp, fun index hmem => ?_⟩
  rcases List.mem_append.mp hmem with hmem | hmem
  · exact ((List.pairwise_append.mp hsorted).2.2 index hmem last (by simp)).le
  · exact (List.mem_singleton.mp hmem).le

/-- A fold up to a boundary of the loop keeps the recent messages. -/
lemma add_le_of_mem_foldable {keepRecent index : ℕ} (h : index ∈ Foldable turns keepRecent) :
    index ≠ 0 ∧ isTurnBoundary turns index = true ∧ index + keepRecent ≤ turns.length := by
  obtain ⟨⟨hpos, hle⟩, hbound⟩ := h
  exact ⟨by omega, hbound, by omega⟩

/-- **The best fold.**  Nothing is folded exactly when no turn ends before the messages that are
kept.  Otherwise the fold ends at the first turn boundary that reaches the target, or at the last
one if none does; so messages that are kept are never folded, and no turn is split. -/
theorem selectTurnsToFold_best (turns : List ChatHistoryEntry) (content : JsString)
    (keepRecent : ℕ) (target summaryTokens charsPerToken : ℚ) :
    let count := selectTurnsToFold turns content keepRecent target summaryTokens charsPerToken
    let boundaries := Foldable turns keepRecent
    let reaching := {index ∈ boundaries |
      ReachesTarget turns content target summaryTokens charsPerToken index}
    (count = 0 ↔ boundaries = ∅)
      ∧ (reaching.Nonempty → IsLeast reaching count)
      ∧ (boundaries.Nonempty → reaching = ∅ → IsGreatest boundaries count)
      ∧ (count ≠ 0 → isTurnBoundary turns count = true ∧ count + keepRecent ≤ turns.length) := by
  have hmem : ∀ index, index ∈ (List.range' 1 (turns.length - keepRecent)).filter
      (isTurnBoundary turns) ↔ index ∈ Foldable turns keepRecent := by
    intro index
    simp only [List.mem_filter, List.mem_range'_1, Foldable, Set.mem_Icc, Set.mem_ofPred_eq]
    exact and_congr_left fun _ => by omega
  have hsorted : ((List.range' 1 (turns.length - keepRecent)).filter
      (isTurnBoundary turns)).Pairwise (· < ·) := (List.pairwise_lt_range' 1).filter _
  simp only [selectTurnsToFold, foldLoop_eq]
  generalize (List.range' 1 (turns.length - keepRecent)).filter (isTurnBoundary turns)
    = indices at hmem hsorted ⊢
  have hboundaries : {index | index ∈ indices} = Foldable turns keepRecent := Set.ext hmem
  rcases eq_or_ne indices [] with rfl | hne
  · have hempty : Foldable turns keepRecent = ∅ := by simp [← hboundaries]
    simp [hempty]
  · have hgreatest := isGreatest_getLastD hsorted hne 0
    rw [hboundaries] at hgreatest
    have hnonempty : Foldable turns keepRecent ≠ ∅ := Set.nonempty_iff_ne_empty.mp ⟨_, hgreatest.1⟩
    cases hfind : indices.find?
        (ReachesTarget turns content target summaryTokens charsPerToken ·) with
    | some least =>
        have hleast : IsLeast {index ∈ Foldable turns keepRecent |
            ReachesTarget turns content target summaryTokens charsPerToken index} least := by
          simpa only [hmem, decide_eq_true_eq] using isLeast_of_find? hsorted hfind
        obtain ⟨hpos, hcut⟩ := add_le_of_mem_foldable _ hleast.1.1
        exact ⟨iff_of_false hpos hnonempty, fun _ => hleast,
          fun _ hnone => absurd hnone (Set.nonempty_iff_ne_empty.mp ⟨_, hleast.1⟩), fun _ => hcut⟩
    | none =>
        obtain ⟨hpos, hcut⟩ := add_le_of_mem_foldable _ hgreatest.1
        refine ⟨iff_of_false hpos hnonempty, ?_, fun _ _ => hgreatest, fun _ => hcut⟩
        rintro ⟨index, hindex, hreaches⟩
        have hnot := List.find?_eq_none.mp hfind index ((hmem index).mpr hindex)
        exact absurd (decide_eq_true hreaches) hnot

end Fold

/-! ## Cutting into chunks

Greediness is a property of neighbours: the first entry of the later chunk was too much for the
earlier one. -/

section Chunks

variable {budget charsPerToken : ℚ}

/-- The first entry of the later chunk did not fit into the earlier one any more. -/
def CutLate (budget charsPerToken : ℚ) (earlier later : List ChatHistoryEntry) : Prop :=
  ∀ entry ∈ later.head?, budget < chunkSize charsPerToken (earlier ++ [entry])

/-- The chunks so far, the current one included, are cut late. -/
lemma chunkLoop_isChain {entries : List ChatHistoryEntry} {chunks : List (List ChatHistoryEntry)}
    {current : List ChatHistoryEntry}
    (h : (chunks ++ [current]).IsChain (CutLate budget charsPerToken))
    (hcurrent : current = [] → chunks = []) :
    (chunkLoop budget charsPerToken entries chunks current
      (chunkSize charsPerToken current)).IsChain (CutLate budget charsPerToken) := by
  induction entries generalizing chunks current with
  | nil =>
      simp only [chunkLoop]
      split
      · exact h
      · exact (List.isChain_append.mp h).1
  | cons entry entries ih =>
      simp only [chunkLoop]
      rw [← chunkSize_concat]
      obtain ⟨hchunks, -, hlast⟩ := List.isChain_append.mp h
      split
      · rename_i hfull
        rw [show estimateMessageTokens entry.content charsPerToken
          = chunkSize charsPerToken [entry] by simp [chunkSize]]
        refine ih (List.isChain_append.mpr ⟨h, List.isChain_singleton _, ?_⟩) (by simp)
        simpa [CutLate] using hfull.2
      · -- the chunk grows at its end, so its first entry is new only if it was empty
        refine ih (List.isChain_append.mpr ⟨hchunks, List.isChain_singleton _, ?_⟩) (by simp)
        intro chunk hchunk later hlater
        obtain rfl : current ++ [entry] = later := by simpa using hlater
        cases current with
        | nil => simp [hcurrent rfl] at hchunk
        | cons first rest => exact hlast chunk hchunk (first :: rest) rfl

/-- **The chunks are cut as late as the budget allows.**  None is empty, together they are the
entries in their order, each is within the budget or a single entry, and the first entry of a chunk
would not have fitted into the one before. -/
theorem chunkEntries_greedy (entries : List ChatHistoryEntry) (budget charsPerToken : ℚ) :
    let chunks := chunkEntries entries budget charsPerToken
    (∀ chunk ∈ chunks, chunk ≠ [])
      ∧ chunks.flatten = entries
      ∧ (∀ chunk ∈ chunks, chunkSize charsPerToken chunk ≤ budget ∨ ∃ entry, chunk = [entry])
      ∧ chunks.IsChain (CutLate budget charsPerToken) := by
  refine ⟨fun chunk hchunk => (isChunk_of_mem_chunkEntries budget charsPerToken hchunk).1,
    chunkEntries_flatten budget charsPerToken entries, fun chunk hchunk => ?_, ?_⟩
  · rcases (isChunk_of_mem_chunkEntries budget charsPerToken hchunk).2 with hone | hsize
    · exact .inr (List.length_eq_one_iff.mp hone)
    · exact .inl hsize
  · exact @chunkLoop_isChain budget charsPerToken entries [] [] (List.isChain_singleton _)
      fun _ => rfl

end Chunks

end RagStack
