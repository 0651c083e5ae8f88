import Mathlib.Data.List.Nodup
import Mathlib.Order.Basic

/-!
# Digests of a growing sequence

A digest stands for the items of a sequence up to an anchor.  It is made by calls: the first is fed
some items, each later one the digest so far and the items that follow.  The calls of all digests
are in one log, and both the log and the sequence only grow.

What has to be known of a digest is where it comes from.  Its text says nothing about this, since
the calls may return anything, so the statement is about the calls: a chain of them, found in the
log in their order, was fed the items one after the other without a gap, and the last call returned
the digest.  The chain is not stored anywhere.  It is a witness of the proof, and because the log
only grows it stays a witness whatever else is called meanwhile.

A writer reads the digest and its anchor, feeds what follows the anchor, and stores what comes out
with a new anchor.  Two writers may do so at the same time.  Each of them is on its own chain, and
whichever stores last has stored the end of a chain; nothing is lost but the work of the other.

* `DigestChain` — the calls that made a digest, and the items they were fed.
* `Digested`, `DigestProgress` — the same for calls of a log; nothing that is added to the log
  afterwards changes it.
* `DigestedThrough` — a digest of all items up to an anchor.
* `DigestedThrough.resume` — where someone who has read a part of the sequence goes on: behind the
  anchor if it is there, with no digest otherwise.
-/

namespace RagStack

variable {α γ δ : Type*} {link : Option δ → List α → γ → δ → Prop}

/-- The digest made by some calls that were fed some items, each of them once and in order.
`link previous items call digest` says what `call` was given and what it made. -/
inductive DigestChain (link : Option δ → List α → γ → δ → Prop) :
    List γ → List α → δ → Prop
  | first {items : List α} {call : γ} {digest : δ} (hlink : link none items call digest) :
      DigestChain link [call] items digest
  | next {calls : List γ} {before items : List α} {call : γ} {previous digest : δ}
      (hchain : DigestChain link calls before previous)
      (hlink : link (some previous) items call digest) :
      DigestChain link (calls ++ [call]) (before ++ items) digest

/-- A digest of some items, made by calls of the log in the order of the log. -/
def Digested (link : Option δ → List α → γ → δ → Prop) (log : List γ) (items : List α)
    (digest : δ) : Prop :=
  ∃ calls, calls.Sublist log ∧ DigestChain link calls items digest

/-- What a writer has so far: a digest of some items, or nothing and no items. -/
def DigestProgress (link : Option δ → List α → γ → δ → Prop) (log : List γ) (items : List α) :
    Option δ → Prop
  | none => items = []
  | some digest => Digested link log items digest

variable {log log' : List γ} {items before : List α} {digest : δ} {previous : Option δ}

lemma Digested.mono (hlog : log.Sublist log') (h : Digested link log items digest) :
    Digested link log' items digest := by
  obtain ⟨calls, hcalls, hchain⟩ := h
  exact ⟨calls, hcalls.trans hlog, hchain⟩

lemma DigestProgress.mono (hlog : log.Sublist log') (h : DigestProgress link log items previous) :
    DigestProgress link log' items previous := by
  cases previous with
  | none => exact h
  | some digest => exact Digested.mono hlog h

lemma DigestProgress.answered {call : γ} (h : DigestProgress link log before previous)
    (hlink : link previous items call digest) :
    Digested link (log ++ [call]) (before ++ items) digest := by
  cases previous with
  | none =>
      obtain rfl : before = [] := h
      exact ⟨[call], List.sublist_append_right log [call], .first hlink⟩
  | some previous =>
      obtain ⟨calls, hcalls, hchain⟩ := h
      exact ⟨calls ++ [call], hcalls.append_right [call], .next hchain hlink⟩

/-! ## Anchors -/

section Anchor

variable {ι β : Type*} {ident : α → ι} {embed : α → β} {source source' : List β} {anchor : ι}

/-- A digest of all items of the sequence up to the anchor.  The sequence holds the items under
`embed`, and its elements know more than the items of a call do. -/
def DigestedThrough (link : Option δ → List α → γ → δ → Prop) (ident : α → ι) (embed : α → β)
    (log : List γ) (source : List β) (anchor : ι) (digest : δ) : Prop :=
  ∃ items : List α, items.map embed <+: source ∧ items.getLast?.map ident = some anchor
    ∧ Digested link log items digest

lemma DigestedThrough.mono (hlog : log.Sublist log') (hsource : source <+: source')
    (h : DigestedThrough link ident embed log source anchor digest) :
    DigestedThrough link ident embed log' source' anchor digest := by
  obtain ⟨items, hitems, hlast, hdigest⟩ := h
  exact ⟨items, hitems.trans hsource, hlast, hdigest.mono hlog⟩

/-- Two parts of one sequence: the one that holds the anchor of the other goes on from there. -/
lemma exists_rest_of_anchor {items entries : List α}
    (hcomparable : items <+: entries ∨ entries <+: items) (hnodup : (items.map ident).Nodup)
    (hlast : items.getLast?.map ident = some anchor) (hmem : anchor ∈ entries.map ident) :
    ∃ rest, entries = items ++ rest := by
  rcases hcomparable with ⟨rest, hrest⟩ | ⟨more, hmore⟩
  · exact ⟨rest, hrest.symm⟩
  · rcases List.eq_nil_or_concat' more with rfl | ⟨middle, last, rfl⟩
    · exact ⟨[], by simpa using hmore⟩
    · have hanchor : ident last = anchor := by
        rw [← hmore, ← List.append_assoc, List.getLast?_concat] at hlast
        exact Option.some.inj hlast
      rw [← hmore, List.map_append, List.nodup_append] at hnodup
      exact absurd hanchor.symm (hnodup.2.2 anchor hmem (ident last) (by simp))

/-- **Where to go on.**  Someone has read the entries of a part of the sequence. -/
lemma DigestedThrough.resume {entries : List α} (hembed : Function.Injective embed)
    (hentries : entries.map embed <+: source)
    (hnodup : ∀ items : List α, items.map embed <+: source → (items.map ident).Nodup)
    (h : DigestedThrough link ident embed log source anchor digest)
    (hmem : anchor ∈ entries.map ident) :
    ∃ front last rest, entries = front ++ last :: rest ∧ ident last = anchor
      ∧ Digested link log (front ++ [last]) digest := by
  obtain ⟨items, hitems, hlast, hdigest⟩ := h
  have hcomparable : items <+: entries ∨ entries <+: items :=
    (List.prefix_or_prefix_of_prefix hitems hentries).imp
      (List.prefix_map_iff_of_injective hembed).mp (List.prefix_map_iff_of_injective hembed).mp
  obtain ⟨rest, hrest⟩ := exists_rest_of_anchor hcomparable (hnodup items hitems) hlast hmem
  rcases List.eq_nil_or_concat' items with rfl | ⟨front, last, rfl⟩
  · cases hlast
  · rw [List.getLast?_concat] at hlast
    exact ⟨front, last, rest, by simpa using hrest, Option.some.inj hlast, hdigest⟩

end Anchor

end RagStack
