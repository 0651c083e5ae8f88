import RagStack.Core.RelyGuarantee

/-!
# Programs that commit once

A call that succeeds commits its transaction and answers at once; a call that fails commits nothing.
For a client of this kind the moment of its success is a single step, and everything that it has
done becomes visible in this step.  A sum over the committed rows can therefore be followed commit
by commit.

The condition is a recursion over the program, as for all properties that can be read off its text.
It has to be kept apart from what the program reads: whatever the database returns, the next commit
is followed by a good answer.  The step lemma then has two cases.  Either the client goes on towards
its commit and the committed rows are as before, or this step was the commit, and the answer is
there.

* `Prog.CommitsTo` — such a program, for the answers of a call that succeeds.
* `Sys.Answered` — the client has answered so.
* `Prog.CommitsTo.moved` — the steps of such a client.
-/

namespace RagStack

/-- The program answers `p` right after its commit, and nowhere else. -/
def Prog.CommitsTo {Row L α : Type} (p : α → Bool) : Prog Row L α → Prop
  | .done a => p a = false
  | .failed => True
  | .read _ next => ∀ db, (next db).CommitsTo p
  | .insert _ _ next => ∀ k, (next k).CommitsTo p
  | .update _ _ _ next => ∀ count, (next count).CommitsTo p
  | .delete _ _ _ next => ∀ count, (next count).CommitsTo p
  | .commit _ next => ∃ a, next = .done a ∧ p a = true
  | .rollback next => next.CommitsTo p

/-- Client `i` has answered `p`. -/
def Sys.Answered {n : ℕ} {Row L α : Type} (p : α → Bool) (sys : Sys n Row L α) (i : Fin n) : Prop :=
  (sys.procs i).prog.answer.any p = true

instance {n : ℕ} {Row L α : Type} (p : α → Bool) (sys : Sys n Row L α) (i : Fin n) :
    Decidable (sys.Answered p i) := inferInstanceAs (Decidable (_ = true))

/-- What holds of one client and of the others holds of all. -/
lemma forall_of_one {n : ℕ} {i : Fin n} {P : Fin n → Prop} (hi : P i) (hothers : ∀ j ≠ i, P j)
    (j : Fin n) : P j := by
  by_cases hj : j = i
  · exact hj ▸ hi
  · exact hothers j hj

section Steps

variable {n : ℕ} {Row L α : Type} {S : Schema Row} {p : α → Bool} {sys sys' : Sys n Row L α}
  {i : Fin n} {a : Action}

lemma Sys.answered_iff : sys.Answered p i ↔ ∃ r, (sys.procs i).prog = .done r ∧ p r = true := by
  rw [Answered, Option.any_eq_true]
  exact exists_congr fun r => and_congr_left' Prog.answer_eq_some

lemma Prog.CommitsTo.not_answered (h : (sys.procs i).prog.CommitsTo p) : ¬ sys.Answered p i := by
  intro hanswered
  obtain ⟨r, hr, hp⟩ := Sys.answered_iff.mp hanswered
  rw [hr] at h
  cases h.symm.trans hp

/-- A client that has not moved has answered what it had answered. -/
lemma Sys.answered_of_moved (hmoved : Moved S sys i a sys') {j : Fin n} (hj : j ≠ i) :
    sys'.Answered p j ↔ sys.Answered p j := by
  rw [Answered, Answered, Sys.procs_of_moved hmoved hj]

lemma Sys.ends_of_moved (hmoved : Moved S sys i a sys') {j : Fin n} (hj : j ≠ i) :
    ((sys'.procs j).prog.CommitsTo p ∨ sys'.Answered p j)
      ↔ ((sys.procs j).prog.CommitsTo p ∨ sys.Answered p j) := by
  rw [Sys.answered_of_moved hmoved hj, Sys.procs_of_moved hmoved hj]

lemma Sys.Answered.not_moved (h : sys.Answered p i) : ¬ Moved S sys i a sys' := by
  obtain ⟨r, hdone, -⟩ := Sys.answered_iff.mp h
  intro hmoved
  cases hmoved with
  | abort hnot => exact hnot r hdone
  | read _ hprog | insert _ hprog | insertRejected _ hprog | updateStart _ hprog
  | updateEnd _ hprog | delete _ hprog | deleteNothing _ hprog | commit _ hprog
  | rollback _ hprog | hit _ hprog | hitRejected _ hprog | miss _ hprog =>
      cases hdone.symm.trans hprog

/-- What a step does to the database. -/
lemma Moved.db_cases (h : Moved S sys i a sys') :
    sys'.db = sys.db ∨ sys'.db = sys.db.tick
      ∨ sys'.db = sys.view i ∧ (sys.procs i).scan = none
        ∧ ∃ label next, (sys.procs i).prog = .commit label next := by
  cases h with
  | commit hscan hprog => exact .inr (.inr ⟨rfl, hscan, _, _, hprog⟩)
  | insert => exact .inr (.inl rfl)
  | _ => exact .inl rfl

/-- **Step lemma**: the client goes on towards its commit, or this was it. -/
lemma Prog.CommitsTo.moved (h : (sys.procs i).prog.CommitsTo p) (hmoved : Moved S sys i a sys') :
    (sys'.procs i).prog.CommitsTo p ∧ (sys'.db = sys.db ∨ sys'.db = sys.db.tick)
      ∨ sys'.Answered p i ∧ sys'.db = sys.view i ∧ (sys.procs i).scan = none
        ∧ ∃ label next, (sys.procs i).prog = .commit label next := by
  cases hmoved with
  | commit hscan hprog =>
      rw [hprog] at h
      obtain ⟨r, rfl, hp⟩ := h
      refine .inr ⟨?_, rfl, hscan, _, _, hprog⟩
      rw [Sys.Answered, Sys.procs_become_self]
      exact hp
  | insert hscan hprog =>
      rw [hprog] at h
      refine .inl ⟨?_, .inr rfl⟩
      rw [Sys.procs_become_self]
      exact h _
  | insertRejected | hitRejected | abort =>
      refine .inl ⟨?_, .inl rfl⟩
      rw [Sys.procs_become_self]
      exact trivial
  | updateStart hscan hprog | hit hscan hprog | miss hscan hprog | rollback hscan hprog =>
      rw [hprog] at h
      refine .inl ⟨?_, .inl rfl⟩
      rw [Sys.procs_become_self]
      exact h
  | read hscan hprog | updateEnd hscan hprog | delete hscan hprog | deleteNothing hscan hprog =>
      rw [hprog] at h
      refine .inl ⟨?_, .inl rfl⟩
      rw [Sys.procs_become_self]
      exact h _

end Steps

end RagStack
