import Mathlib.Data.List.Chain
import Mathlib.Data.List.Nodup
import Mathlib.Logic.Relation

/-!
# Chains of pointers

A partial function `next` whose values do not repeat and which always increases a bounded rank:
every element lies on one finite chain, which has a beginning and an end, and which is all that can
be reached by following pointers in either direction.  The pointers of a table that refers to itself
are of this kind if a row is pointed to at most once and always by an older row.

Nothing here is about lists that are given.  The chain of an element is constructed, forwards by
induction on what is left of the rank and backwards by induction on the rank itself.  That it is a
whole connected component is then a matter of the two ends, where there is nothing left to follow.

The second half counts.  A walk that follows pointers for at most so many steps passes exactly the
elements that are less pointers away, which is the form in which a bounded loop over a chain is
compared with the chain.

* `Linked` — the hypotheses: pointers are injective and increase a rank that is bounded.
* `Linked.not_transGen_self` — there is no cycle.
* `Linked.exists_family` — the chain of an element.
* `follow` — the element so many pointers away, `following` — those on the way.
-/

namespace RagStack

variable {α : Type*}

/-- `a` points to `b`. -/
def Points (next : α → Option α) (a b : α) : Prop := next a = some b

/-- Pointers are injective and increase a rank that is bounded. -/
structure Linked (next : α → Option α) (rank : α → ℕ) (bound : ℕ) : Prop where
  injective : ∀ a a' b, next a = some b → next a' = some b → a = a'
  increases : ∀ a b, next a = some b → rank a < rank b
  bounded : ∀ a b, next a = some b → rank b < bound

/-- A whole chain: it begins where nothing points to and ends where nothing is pointed to. -/
structure WholeChain (next : α → Option α) (l : List α) : Prop where
  chain : l.IsChain (Points next)
  first : ∀ a ∈ l.head?, ∀ b, next b ≠ some a
  last : ∀ a ∈ l.getLast?, next a = none

namespace Linked

variable {next : α → Option α} {rank : α → ℕ} {bound : ℕ}

lemma transGen_lt (h : Linked next rank bound) {a b : α}
    (hab : Relation.TransGen (Points next) a b) : rank a < rank b := by
  induction hab with
  | single hab => exact h.increases _ _ hab
  | tail _ hbc ih => exact ih.trans (h.increases _ _ hbc)

/-- No element is twice on a chain. -/
lemma nodup_of_isChain (h : Linked next rank bound) {l : List α} (hl : l.IsChain (Points next)) :
    l.Nodup := by
  have hranks : l.IsChain fun a b => rank a < rank b := hl.imp fun a b hab => h.increases a b hab
  have : Trans (fun a b : α => rank a < rank b) (fun a b => rank a < rank b)
      fun a b => rank a < rank b := ⟨fun hab hbc => lt_trans hab hbc⟩
  refine (List.isChain_iff_pairwise.mp hranks).imp ?_
  rintro a b hab rfl
  exact lt_irrefl _ hab

/-- **There is no cycle.** -/
theorem not_transGen_self (h : Linked next rank bound) (a : α) :
    ¬ Relation.TransGen (Points next) a a :=
  fun ha => lt_irrefl _ (h.transGen_lt ha)

/-- Following the pointers from `a` comes to an end. -/
lemma exists_forward (h : Linked next rank bound) (a : α) :
    ∃ l, (a :: l).IsChain (Points next) ∧ ∀ b ∈ (a :: l).getLast?, next b = none := by
  -- the induction is on how far the rank is from its bound
  generalize hroom : bound - rank a = room
  induction room using Nat.strong_induction_on generalizing a with
  | _ room ih =>
      cases hnext : next a with
      | none =>
          refine ⟨[], List.isChain_singleton a, ?_⟩
          rintro b hb
          obtain rfl : a = b := by simpa using hb
          exact hnext
      | some b =>
          have hlt := h.increases a b hnext
          have hbound := h.bounded a b hnext
          obtain ⟨l, hchain, hlast⟩ := ih (bound - rank b) (by omega) b rfl
          refine ⟨b :: l, List.isChain_cons_cons.mpr ⟨hnext, hchain⟩, ?_⟩
          rwa [List.getLast?_cons_cons]

/-- Following the pointers backwards from `a` comes to an end. -/
lemma exists_backward (h : Linked next rank bound) (a : α) :
    ∃ l, (l ++ [a]).IsChain (Points next) ∧ ∀ b ∈ (l ++ [a]).head?, ∀ c, next c ≠ some b := by
  generalize hrank : rank a = n
  induction n using Nat.strong_induction_on generalizing a with
  | _ n ih =>
      by_cases hprevious : ∃ b, next b = some a
      · obtain ⟨b, hb⟩ := hprevious
        have hlt := h.increases b a hb
        obtain ⟨l, hchain, hfirst⟩ := ih (rank b) (by omega) b rfl
        refine ⟨l ++ [b], ?_, ?_⟩
        · exact List.IsChain.append_overlap hchain (List.isChain_pair.mpr hb) (by simp)
        · intro c hc
          refine hfirst c ?_
          rw [List.head?_append] at hc
          simpa using hc
      · refine ⟨[], List.isChain_singleton a, ?_⟩
        intro b hb c hc
        obtain rfl : a = b := by simpa using hb
        exact hprevious ⟨c, hc⟩

/-- **The chain of an element.**  Every element lies on a whole chain, one that can be prolonged at
neither end. -/
theorem exists_family (h : Linked next rank bound) (a : α) :
    ∃ l, a ∈ l ∧ WholeChain next l := by
  obtain ⟨after, hafter, hlast⟩ := h.exists_forward a
  obtain ⟨before, hbefore, hfirst⟩ := h.exists_backward a
  refine ⟨before ++ a :: after, by simp, ?_, ?_, ?_⟩
  · have hsplit : before ++ a :: after = before ++ [a] ++ after := by simp
    rw [hsplit]
    exact List.IsChain.append_overlap hbefore hafter (by simp)
  · intro b hb
    refine hfirst b ?_
    rw [List.head?_append] at hb ⊢
    simpa using hb
  · intro b hb
    refine hlast b ?_
    rw [List.getLast?_append] at hb
    simpa using hb

end Linked

namespace WholeChain

variable {next : α → Option α} {l : List α}

/-- The element after one that is not the last. -/
lemma next_mem (h : WholeChain next l) {a b : α} (ha : a ∈ l) (hab : next a = some b) : b ∈ l := by
  obtain ⟨before, after, rfl⟩ := List.append_of_mem ha
  cases after with
  | nil =>
      have hnone := h.last a (by simp)
      rw [hab] at hnone
      cases hnone
  | cons c after =>
      have hac : Points next a c := (List.isChain_append_cons_cons.mp h.chain).2.1
      cases hab.symm.trans hac
      simp

/-- The element before one that is not the first. -/
lemma previous_mem (h : WholeChain next l) (hinjective : ∀ a a' b, next a = some b →
    next a' = some b → a = a') {a b : α} (hb : b ∈ l) (hab : next a = some b) : a ∈ l := by
  obtain ⟨before, after, rfl⟩ := List.append_of_mem hb
  rcases List.eq_nil_or_concat before with rfl | ⟨before, c, rfl⟩
  · exact absurd hab (h.first b (by simp) a)
  · have hchain : (before ++ c :: b :: after).IsChain (Points next) := by
      simpa using h.chain
    have hcb : Points next c b := (List.isChain_append_cons_cons.mp hchain).2.1
    rw [hinjective a c b hab hcb]
    simp

/-- **A whole chain is a connected component.** -/
theorem mem_iff_eqvGen (h : WholeChain next l) (hinjective : ∀ a a' b, next a = some b →
    next a' = some b → a = a') {a b : α} (ha : a ∈ l) :
    b ∈ l ↔ Relation.EqvGen (Points next) a b := by
  constructor
  · intro hb
    -- every element is connected with the first
    have hfirst : ∀ (first : α) (rest : List α), (first :: rest).IsChain (Points next) →
        ∀ c ∈ first :: rest, Relation.EqvGen (Points next) first c := by
      intro first rest
      induction rest generalizing first with
      | nil =>
          intro _ c hc
          rw [List.mem_singleton.mp hc]
          exact .refl _
      | cons second rest ih =>
          intro hchain c hc
          rw [List.isChain_cons_cons] at hchain
          rcases List.mem_cons.mp hc with rfl | hc
          · exact .refl _
          · exact .trans _ _ _ (.rel _ _ hchain.1) (ih second hchain.2 c hc)
    cases l with
    | nil => cases ha
    | cons first rest =>
        exact .trans _ _ _ (.symm _ _ (hfirst first rest h.chain a ha))
          (hfirst first rest h.chain b hb)
  · intro hab
    have hstep : ∀ c d, next c = some d → (c ∈ l ↔ d ∈ l) := fun c d hcd =>
      ⟨fun hc => h.next_mem hc hcd, fun hd => h.previous_mem hinjective hd hcd⟩
    have hall : ∀ c d, Relation.EqvGen (Points next) c d → (c ∈ l ↔ d ∈ l) := by
      intro c d hcd
      induction hcd with
      | rel c d hcd => exact hstep c d hcd
      | refl c => exact Iff.rfl
      | symm c d _ ih => exact ih.symm
      | trans c d e _ _ ih ih' => exact ih.trans ih'
    exact (hall a b hab).mp ha

lemma eq_last (h : WholeChain next l) {a : α} (ha : a ∈ l) (hnone : next a = none) :
    l.getLast? = some a := by
  obtain ⟨before, after, rfl⟩ := List.append_of_mem ha
  cases after with
  | nil => simp
  | cons c after =>
      have hac : Points next a c := (List.isChain_append_cons_cons.mp h.chain).2.1
      cases hnone.symm.trans hac

/-- Every element comes to the last one. -/
lemma reaches_last (h : WholeChain next l) {a b : α} (ha : a ∈ l) (hb : b ∈ l)
    (hnone : next b = none) : Relation.ReflTransGen (Points next) a b := by
  have hlast := h.eq_last hb hnone
  obtain ⟨before, after, rfl⟩ := List.append_of_mem ha
  have hchain : (a :: after).IsChain (Points next) := (List.isChain_append.mp h.chain).2.1
  refine List.relationReflTransGen_of_exists_isChain_cons after hchain ?_
  rw [List.getLast?_append_of_ne_nil _ (List.cons_ne_nil _ _),
    List.getLast?_eq_some_getLast (List.cons_ne_nil _ _)] at hlast
  exact Option.some.inj hlast

end WholeChain

/-! ## Following pointers

`follow` is iteration of a partial function.  What a loop with a bound visits is `following`, with
the elements it passes in order. -/

/-- The element that is so many pointers away from `a`. -/
def follow (next : α → Option α) : ℕ → α → Option α
  | 0, a => some a
  | n + 1, a => (next a).bind (follow next n)

/-- What can be reached is some number of pointers away. -/
theorem reflTransGen_iff_follow {next : α → Option α} {a b : α} :
    Relation.ReflTransGen (Points next) a b ↔ ∃ n, follow next n a = some b := by
  constructor
  · intro h
    induction h using Relation.ReflTransGen.head_induction_on with
    | refl => exact ⟨0, rfl⟩
    | head hac _ ih =>
        obtain ⟨n, hn⟩ := ih
        refine ⟨n + 1, ?_⟩
        rw [follow, show next _ = some _ from hac]
        exact hn
  · rintro ⟨n, hn⟩
    induction n generalizing a with
    | zero =>
        cases hn
        exact .refl
    | succ n ih =>
        rw [follow] at hn
        obtain ⟨c, hac, hcb⟩ := Option.bind_eq_some_iff.mp hn
        exact .head hac (ih hcb)

/-- The elements that a walk from `x` passes, at most so many. -/
def following (next : α → Option α) : ℕ → Option α → List α
  | 0, _ | _ + 1, none => []
  | n + 1, some a => a :: following next n (next a)

/-- **A bounded walk** passes what is less pointers away than its bound, and nothing else: an
element further along the chain is left out, however the chain goes on. -/
theorem mem_following {next : α → Option α} {room : ℕ} {x : Option α} {b : α} :
    b ∈ following next room x ↔ ∃ a, x = some a ∧ ∃ m < room, follow next m a = some b := by
  induction room generalizing x with
  | zero => simp [following]
  | succ room ih =>
      cases x with
      | none => simp [following]
      | some a =>
          rw [following, List.mem_cons, ih]
          constructor
          · rintro (rfl | ⟨c, hac, m, hm, hcb⟩)
            · exact ⟨b, rfl, 0, Nat.succ_pos _, rfl⟩
            · refine ⟨a, rfl, m + 1, Nat.succ_lt_succ hm, ?_⟩
              rw [follow, hac]
              exact hcb
          · rintro ⟨_, ⟨⟩, m, hm, hab⟩
            cases m with
            | zero => exact .inl (Option.some.inj hab).symm
            | succ m =>
                obtain ⟨c, hac, hcb⟩ := Option.bind_eq_some_iff.mp hab
                exact .inr ⟨c, hac, m, Nat.lt_of_succ_lt_succ hm, hcb⟩

end RagStack
