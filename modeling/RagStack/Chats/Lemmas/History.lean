import RagStack.Chats.Helpers
import RagStack.Chats.Lemmas.ContextWindow
import RagStack.Core.Except

/-!
# Histories made of turns

The repository writes the messages of a chat in turns: `createChat` may insert a first prompt, and
every generation inserts a prompt and the placeholder of its reply.  On such a table the filter
`isPartOfCompletedTurn`, which looks at one neighbour only, keeps or drops whole turns, and every
cut at a turn boundary leaves whole turns.

The filter itself knows nothing of turns.  It sees a row and the row after it, and that this is
enough depends on what the neighbours can be: the row after a prompt is its own reply, never that of
another prompt, and the row after a reply is a prompt or nothing.  On other tables the filter would
do other things.  So the shape of the table is a hypothesis here, and it is for the runs that write
the table to keep it.

The history of a table of turns then is the list of its answered turns, after the first prompt if
there is one.  A first prompt has no reply row.  It is followed by the prompt of a turn, or by
nothing, and is kept in both cases.

* `completedTurns_append_turn`, `completedTurns_turns` — the filter, turn by turn.
* `toHistoryEntries_turns` — the history of a table of turns.
* `boundary_chatEntries` — the two sides of a cut at a turn boundary.
-/

namespace RagStack

/-- A prompt and the reply that was created with it. -/
structure Turn where
  prompt : Message
  reply : Message

namespace Turn

/-- The two rows, in the order they were created. -/
def rows (t : Turn) : List Message := [t.prompt, t.reply]

/-- The prompt was answered. -/
def answered (t : Turn) : Bool := t.reply.status = .Completed

/-- The rows have the roles of a turn, and the prompt is complete. -/
structure WellFormed (t : Turn) : Prop where
  promptRole : t.prompt.role = .User
  promptStatus : t.prompt.status = .Completed
  replyRole : t.reply.role = .Assistant

end Turn

/-- The rows of a chat: an optional first prompt, then turns. -/
def chatRows (first : Option Message) (turns : List Turn) : List Message :=
  first.toList ++ turns.flatMap Turn.rows

/-- A first prompt is a complete user message. -/
def FirstPrompt (first : Option Message) : Prop :=
  ∀ m ∈ first, m.role = .User ∧ m.status = .Completed

/-! ## The filter

One turn at a time, and then all of them. -/

/-- A turn is kept or dropped as a whole. -/
theorem completedTurns_append_turn {t : Turn} (ht : t.WellFormed) (rest : List Message) :
    completedTurns (t.rows ++ rest)
      = (if t.answered then t.rows else []) ++ completedTurns rest := by
  have hprompt : isPartOfCompletedTurn t.prompt (some t.reply) = t.answered := by
    simp only [isPartOfCompletedTurn, Turn.answered]
    rw [ht.promptRole]
    cases h : t.reply.status <;> simp [ht.promptStatus, ht.replyRole, h]
  have hreply : ∀ next, isPartOfCompletedTurn t.reply next = t.answered := by
    intro next
    simp only [isPartOfCompletedTurn, Turn.answered]
    rw [ht.replyRole]
  show completedTurns (t.prompt :: t.reply :: rest) = _
  rw [completedTurns, List.head?_cons, hprompt, completedTurns, hreply]
  cases t.answered <;> rfl

/-- On turns the filter keeps the answered ones. -/
theorem completedTurns_turns (turns : List Turn) (hturns : ∀ t ∈ turns, t.WellFormed) :
    completedTurns (turns.flatMap Turn.rows) = (turns.filter Turn.answered).flatMap Turn.rows := by
  induction turns with
  | nil => rfl
  | cons t turns ih =>
      rw [List.flatMap_cons, completedTurns_append_turn (hturns t List.mem_cons_self),
        ih fun t' ht' => hturns t' (List.mem_cons_of_mem _ ht'), List.filter_cons]
      cases t.answered <;> rfl

/-- A first prompt is always kept: the row after it, if there is one, is a prompt. -/
theorem completedTurns_chatRows {first : Option Message} (hfirst : FirstPrompt first)
    (turns : List Turn) (hturns : ∀ t ∈ turns, t.WellFormed) :
    completedTurns (chatRows first turns) = chatRows first (turns.filter Turn.answered) := by
  simp only [chatRows]
  rw [← completedTurns_turns turns hturns]
  cases first with
  | none => rfl
  | some m =>
      obtain ⟨hrole, hstatus⟩ := hfirst m rfl
      have hnext : ((turns.flatMap Turn.rows).head?.map (·.role) != some .Assistant) = true := by
        cases turns with
        | nil => rfl
        | cons t turns => simp [Turn.rows, (hturns t List.mem_cons_self).promptRole]
      have hkept : isPartOfCompletedTurn m (turns.flatMap Turn.rows).head? = true := by
        simp only [isPartOfCompletedTurn]
        rw [hrole]
        simp [hstatus, hnext]
      show completedTurns (m :: turns.flatMap Turn.rows) = m :: _
      rw [completedTurns, hkept]
      rfl

/-! ## The entries -/

/-- The history entry of a row that has one. -/
def entryOf (m : Message) : ChatHistoryEntry :=
  match m.role with
  | .User => .User m.id m.content
  | .Assistant => .Assistant m.id m.content (m.model.getD "")

@[simp] lemma entryOf_id (m : Message) : (entryOf m).id = m.id := by
  simp only [entryOf]
  cases m.role <;> rfl

@[simp] lemma entryOf_role (m : Message) : (entryOf m).role = m.role := by
  simp only [entryOf]
  cases h : m.role <;> rfl

@[simp] lemma entryOf_content (m : Message) : (entryOf m).content = m.content := by
  simp only [entryOf]
  cases m.role <;> rfl

lemma toHistoryEntry_eq_ok {m : Message} {entry : ChatHistoryEntry}
    (h : toHistoryEntry m = .ok entry) : entry = entryOf m := by
  simp only [toHistoryEntry] at h
  simp only [entryOf]
  cases hrole : m.role with
  | User =>
      rw [hrole] at h
      cases h
      rfl
  | Assistant =>
      rw [hrole] at h
      cases hmodel : m.model with
      | none =>
          rw [hmodel] at h
          cases h
      | some model =>
          simp only [hmodel] at h
          split at h
          · cases h
          · cases h
            rfl

lemma mapM_toHistoryEntry_eq_ok {messages : List Message} {history : List ChatHistoryEntry}
    (h : messages.mapM toHistoryEntry = .ok history) : history = messages.map entryOf := by
  have hentries := mapM_eq_ok_iff.mp h
  clear h
  induction messages generalizing history with
  | nil => simpa using hentries.symm
  | cons m messages ih =>
      cases history with
      | nil => cases hentries
      | cons entry rest =>
          obtain ⟨hm, hrest⟩ := List.cons.inj hentries
          rw [List.map_cons, toHistoryEntry_eq_ok hm, ih hrest]

/-- **The history of a table of turns.** -/
theorem toHistoryEntries_turns {first : Option Message} {turns : List Turn}
    (hfirst : FirstPrompt first) (hturns : ∀ t ∈ turns, t.WellFormed)
    {history : List ChatHistoryEntry}
    (h : toHistoryEntries (chatRows first turns) = .ok history) :
    history = (chatRows first (turns.filter Turn.answered)).map entryOf := by
  rw [← completedTurns_chatRows hfirst turns hturns]
  exact mapM_toHistoryEntry_eq_ok h

/-! ## Cuts at a boundary

A boundary of the entries is in front of a prompt.  In a history of turns that is the beginning of a
turn, or of the first prompt. -/

/-- The entries of a first prompt and turns. -/
abbrev chatEntries (first : Option Message) (turns : List Turn) : List ChatHistoryEntry :=
  (chatRows first turns).map entryOf

lemma chatEntries_append (first : Option Message) (turns more : List Turn) :
    chatEntries first (turns ++ more) = chatEntries first turns ++ chatEntries none more := by
  simp [chatEntries, chatRows]

/-- A boundary of turns lies between two of them. -/
lemma boundary_turns (turns : List Turn) (hturns : ∀ t ∈ turns, t.WellFormed) (index : ℕ)
    (hle : index ≤ (chatEntries none turns).length)
    (h : isTurnBoundary (chatEntries none turns) index = true) :
    ∃ k ≤ turns.length, index = (chatEntries none (turns.take k)).length := by
  induction turns generalizing index with
  | nil => exact ⟨0, le_rfl, by simpa [chatEntries, chatRows] using hle⟩
  | cons t turns ih =>
      have hcons : chatEntries none (t :: turns)
          = entryOf t.prompt :: entryOf t.reply :: chatEntries none turns := rfl
      rw [isTurnBoundary_iff, hcons] at h
      rw [hcons] at hle
      rcases index with _ | _ | index
      · exact ⟨0, Nat.zero_le _, rfl⟩
      · -- the reply of a turn is no boundary
        simp [(hturns t List.mem_cons_self).replyRole] at h
      · obtain ⟨k, hk, hindex⟩ := ih (fun t' ht' => hturns t' (List.mem_cons_of_mem _ ht')) index
          (by simpa using hle) ((isTurnBoundary_iff _ _).mpr (by simpa using h))
        refine ⟨k + 1, Nat.succ_le_succ hk, ?_⟩
        rw [List.take_succ_cons]
        show index + 2 = (chatEntries none (turns.take k)).length + 2
        rw [hindex]

/-- **A cut at a boundary.**  Either nothing is cut off, or the first prompt and whole turns are. -/
theorem boundary_chatEntries {first : Option Message} {turns : List Turn}
    (hturns : ∀ t ∈ turns, t.WellFormed) {index : ℕ}
    (hle : index ≤ (chatEntries first turns).length)
    (h : isTurnBoundary (chatEntries first turns) index = true) :
    index = 0 ∨ ∃ k ≤ turns.length,
      (chatEntries first turns).take index = chatEntries first (turns.take k)
        ∧ (chatEntries first turns).drop index = chatEntries none (turns.drop k) := by
  have hsplit : ∀ k, chatEntries first turns
      = chatEntries first (turns.take k) ++ chatEntries none (turns.drop k) := fun k => by
    rw [← chatEntries_append, List.take_append_drop]
  have hcut : ∀ k, index = (chatEntries first (turns.take k)).length →
      (chatEntries first turns).take index = chatEntries first (turns.take k)
        ∧ (chatEntries first turns).drop index = chatEntries none (turns.drop k) := by
    intro k hk
    rw [hsplit k, hk]
    exact ⟨List.take_left, List.drop_left⟩
  cases first with
  | none =>
      obtain ⟨k, hk, hindex⟩ := boundary_turns turns hturns index hle h
      exact .inr ⟨k, hk, hcut k hindex⟩
  | some m =>
      rcases index with _ | index
      · exact .inl rfl
      · have hcons : chatEntries (some m) turns = entryOf m :: chatEntries none turns := rfl
        rw [isTurnBoundary_iff, hcons] at h
        obtain ⟨k, hk, hindex⟩ := boundary_turns turns hturns index
          (by rw [hcons] at hle; simpa using hle) ((isTurnBoundary_iff _ _).mpr (by simpa using h))
        refine .inr ⟨k, hk, hcut k ?_⟩
        show index + 1 = (chatEntries none (turns.take k)).length + 1
        rw [hindex]

/-! ## Anchors

An anchor is the last entry of what was folded, so it ends a turn as the fold did. -/

/-- The anchor is the last entry of a turn, or the first prompt. -/
def AnchorAt (first : Option Message) (turns : List Turn) (anchor : Uuid) : Prop :=
  ∃ k ≤ turns.length, ∃ entry, (chatEntries first (turns.take k)).getLast? = some entry
    ∧ entry.id = anchor

/-- A history that may have lost its beginning: all of it, or the last turns of it. -/
def Remainder (first : Option Message) (turns : List Turn) (entries : List ChatHistoryEntry) :
    Prop :=
  entries = chatEntries first turns
    ∨ ∃ k ≤ turns.length, entries = chatEntries none (turns.drop k)

/-- More turns leave an anchor where it is. -/
lemma AnchorAt.append {first : Option Message} {turns : List Turn} {anchor : Uuid}
    (h : AnchorAt first turns anchor) (more : List Turn) : AnchorAt first (turns ++ more) anchor := by
  obtain ⟨k, hk, entry, hlast, hid⟩ := h
  refine ⟨k, by rw [List.length_append]; omega, entry, ?_, hid⟩
  rw [List.take_append_of_le_length hk]
  exact hlast

/-- What follows an anchor is whole turns. -/
lemma entriesAfter_anchorAt {first : Option Message} {turns : List Turn} {anchor : Uuid}
    (hnodup : ((chatEntries first turns).map ChatHistoryEntry.id).Nodup)
    (h : AnchorAt first turns anchor) :
    Remainder first turns (entriesAfter (chatEntries first turns) (some anchor)) := by
  obtain ⟨k, hk, entry, hlast, rfl⟩ := h
  obtain ⟨before, hbefore⟩ := List.getLast?_eq_some_iff.mp hlast
  have hsplit : chatEntries first turns = before ++ entry :: chatEntries none (turns.drop k) := by
    rw [← List.singleton_append, ← List.append_assoc, ← hbefore, ← chatEntries_append,
      List.take_append_drop]
  rw [hsplit] at hnodup
  refine .inr ⟨k, hk, ?_⟩
  rw [hsplit, entriesAfter_eq_of_anchor hnodup]

section Cuts

variable {first : Option Message} {turns : List Turn} {entries : List ChatHistoryEntry}
  (hturns : ∀ t ∈ turns, t.WellFormed) (h : Remainder first turns entries) {index : ℕ}
  (hle : index ≤ entries.length)
include hturns h hle

/-- A cut at a boundary of a remainder leaves a remainder. -/
lemma Remainder.drop (hbound : index = 0 ∨ isTurnBoundary entries index = true) :
    Remainder first turns (entries.drop index) := by
  rcases hbound with rfl | hbound
  · exact h
  · rcases h with rfl | ⟨j, hj, rfl⟩
    · rcases boundary_chatEntries hturns hle hbound with rfl | ⟨k, hk, -, hdrop⟩
      · exact .inl rfl
      · exact .inr ⟨k, hk, hdrop⟩
    · have hrest : ∀ t ∈ turns.drop j, t.WellFormed := fun t ht => hturns t (List.mem_of_mem_drop ht)
      rcases boundary_chatEntries hrest hle hbound with rfl | ⟨k, hk, -, hdrop⟩
      · exact .inr ⟨j, hj, rfl⟩
      · rw [List.length_drop] at hk
        exact .inr ⟨j + k, by omega, by rw [hdrop, List.drop_drop]⟩

/-- The last entry in front of a boundary is an anchor. -/
lemma Remainder.anchorAt {entry : ChatHistoryEntry} (hbound : isTurnBoundary entries index = true)
    (hlast : (entries.take index).getLast? = some entry) : AnchorAt first turns entry.id := by
  rcases h with rfl | ⟨j, hj, rfl⟩
  · rcases boundary_chatEntries hturns hle hbound with rfl | ⟨k, hk, htake, -⟩
    · cases hlast
    · exact ⟨k, hk, entry, htake ▸ hlast, rfl⟩
  · have hrest : ∀ t ∈ turns.drop j, t.WellFormed := fun t ht => hturns t (List.mem_of_mem_drop ht)
    rcases boundary_chatEntries hrest hle hbound with rfl | ⟨k, hk, htake, -⟩
    · cases hlast
    · rw [List.length_drop] at hk
      refine ⟨j + k, by omega, entry, ?_, rfl⟩
      rw [List.take_add, chatEntries_append, List.getLast?_append, ← htake, hlast]
      rfl

end Cuts

end RagStack
