import RagStack.Core.ReadCommitted

/-!
# Calls whose only commit is their success

Many calls are one transaction: they commit at the very end, and otherwise answer without having
changed anything.  This can be read off the program, and it holds for every interleaving.  A client
that is aborted, that meets a constraint, or that decides against its call, has left no trace in the
committed rows.

The condition is a recursion over the program.  It asks that a commit be the last statement and that
a good answer follow it at once, and that there be no other way to a good answer.  Nothing is asked
of what is read or written before.  The step lemma lists what such a client can do next, and the run
lemma says that as long as its answer is not good, none of its own steps has changed a row.

What other clients commit in the meantime is not mentioned, since the statement is about the steps
of this one.

* `Prog.Atomic` — the program commits exactly when it answers well.
* `AllOrNothing` — what a client is that runs such a program, at any time.
* `atomic_of_moved` — the inversion of a step of such a client.
* `AllOrNothing.unchanged` — as long as it has not answered well, none of its steps changes a row.
-/

namespace RagStack

variable {n : ℕ} {Row L α : Type}

/-- Every commit is followed by a `good` answer, and no other answer is good.  `mark` is what is
known of the labels of commits. -/
def Prog.Atomic (good : α → Prop) (mark : L → Prop) : Prog Row L α → Prop
  | .done a => ¬ good a
  | .failed => True
  | .read _ next => ∀ db, (next db).Atomic good mark
  | .insert _ _ next => ∀ k, (next k).Atomic good mark
  | .update _ _ _ next => ∀ count, (next count).Atomic good mark
  | .delete _ _ _ next => ∀ count, (next count).Atomic good mark
  | .commit label next => mark label ∧ ∃ a, next = .done a ∧ good a
  | .rollback next => next.Atomic good mark

/-- The client has returned, and with one of the answers that are called good. -/
def Proc.Answered (good : α → Prop) (p : Proc Row L α) : Prop := ∃ a, p.prog = .done a ∧ good a

/-- The client has answered well, or its program commits exactly when it does. -/
def AllOrNothing (good : α → Prop) (mark : L → Prop) (p : Proc Row L α) : Prop :=
  p.prog.Atomic good mark ∨ p.Answered good

variable {S : Schema Row} {sys sys' : Sys n Row L α} {i : Fin n} {a : Action}
  {good : α → Prop} {mark : L → Prop}

/-- **A step of such a client** leaves the committed rows alone, or is its commit. -/
lemma atomic_of_moved (h : (sys.procs i).prog.Atomic good mark) (hmoved : Moved S sys i a sys') :
    (sys'.db.rows = sys.db.rows ∧ (sys'.procs i).prog.Atomic good mark)
      ∨ ∃ label next, mark label ∧ (sys.procs i).scan = none
        ∧ (sys.procs i).prog = .commit label next ∧ sys'.db.rows = (sys.view i).rows
        ∧ (sys'.procs i).Answered good := by
  cases hmoved with
  | commit hscan hprog =>
      rw [hprog] at h
      obtain ⟨hmark, reply, rfl, hgood⟩ := h
      refine .inr ⟨_, _, hmark, hscan, hprog, rfl, reply, ?_, hgood⟩
      rw [Sys.procs_become_self]
  | read hscan hprog =>
      rw [hprog] at h
      exact .inl ⟨rfl, by rw [Sys.procs_become_self]; exact h _⟩
  | insert hscan hprog hadmits hunhindered =>
      rw [hprog] at h
      exact .inl ⟨rfl, by rw [Sys.procs_become_self]; exact h _⟩
  | updateEnd hscan hprog =>
      rw [hprog] at h
      exact .inl ⟨rfl, by rw [Sys.procs_become_self]; exact h _⟩
  | delete hscan hprog hfound herasable =>
      rw [hprog] at h
      exact .inl ⟨rfl, by rw [Sys.procs_become_self]; exact h _⟩
  | deleteNothing hscan hprog hmissing =>
      rw [hprog] at h
      exact .inl ⟨rfl, by rw [Sys.procs_become_self]; exact h _⟩
  | rollback hscan hprog =>
      rw [hprog] at h
      exact .inl ⟨rfl, by rw [Sys.procs_become_self]; exact h⟩
  | updateStart hscan hprog | hit hscan hprog | miss hscan hprog =>
      rw [hprog] at h
      exact .inl ⟨rfl, by rw [Sys.procs_become_self]; exact h⟩
  | insertRejected | hitRejected | abort =>
      exact .inl ⟨rfl, by rw [Sys.procs_become_self]; trivial⟩

/-- Such a client has not answered well yet. -/
lemma Prog.Atomic.not_answered {p : Proc Row L α} (h : p.prog.Atomic good mark) :
    ¬ p.Answered good := by
  rintro ⟨reply, hreply, hgood⟩
  rw [hreply] at h
  exact h hgood

/-- A client that has answered makes no step. -/
lemma Proc.Answered.not_moved (h : (sys.procs i).Answered good) : ¬ Moved S sys i a sys' := by
  obtain ⟨reply, hreply, -⟩ := h
  intro hmoved
  cases hmoved with
  | abort hdone => exact hdone reply hreply
  | read hscan hprog | insert hscan hprog | insertRejected hscan hprog | updateStart hscan hprog
  | updateEnd hscan hprog | delete hscan hprog | deleteNothing hscan hprog | commit hscan hprog
  | rollback hscan hprog | hit hscan hprog | hitRejected hscan hprog | miss hscan hprog =>
      cases hreply.symm.trans hprog

lemma Proc.Answered.step {j : Fin n} (h : (sys.procs i).Answered good)
    (hmoved : Moved S sys j a sys') : (sys'.procs i).Answered good := by
  by_cases hj : j = i
  · subst hj
    exact absurd hmoved h.not_moved
  · rwa [Sys.procs_of_moved hmoved (Ne.symm hj)]

lemma Proc.Answered.run {acts : List (Fin n × Action)} (h : (sys.procs i).Answered good)
    (hrun : sys.run S acts = some sys') : (sys'.procs i).Answered good := by
  induction acts generalizing sys with
  | nil =>
      cases hrun
      exact h
  | cons act acts ih =>
      obtain ⟨mid, hmid, hrest⟩ := Option.bind_eq_some_iff.mp hrun
      exact ih (h.step (Sys.step_moved hmid)) hrest

/-- A client that is about to read reads, or fails. -/
lemma moved_of_read {label : L} {next : Db Row → Prog Row L α}
    (hread : (sys.procs i).prog = .read label next) (hmoved : Moved S sys i a sys') :
    (sys'.procs i).prog = next (sys.view i) ∨ (sys'.procs i).prog = .failed := by
  cases hmoved with
  | read hscan hprog =>
      cases hread.symm.trans hprog
      exact .inl (by rw [Sys.procs_become_self])
  | abort hdone => exact .inr (by rw [Sys.procs_become_self]; rfl)
  | insert hscan hprog | insertRejected hscan hprog | updateStart hscan hprog
  | updateEnd hscan hprog | delete hscan hprog | deleteNothing hscan hprog | commit hscan hprog
  | rollback hscan hprog | hit hscan hprog | hitRejected hscan hprog | miss hscan hprog =>
      cases hread.symm.trans hprog

/-- A client that has failed stays so. -/
lemma failed_of_moved {j : Fin n} (hfailed : (sys.procs i).prog = .failed)
    (hmoved : Moved S sys j a sys') : (sys'.procs i).prog = .failed := by
  by_cases hj : j = i
  · subst hj
    cases hmoved with
    | abort hdone => rw [Sys.procs_become_self]; rfl
    | read hscan hprog | insert hscan hprog | insertRejected hscan hprog | updateStart hscan hprog
    | updateEnd hscan hprog | delete hscan hprog | deleteNothing hscan hprog | commit hscan hprog
    | rollback hscan hprog | hit hscan hprog | hitRejected hscan hprog | miss hscan hprog =>
        cases hfailed.symm.trans hprog
  · rwa [Sys.procs_of_moved hmoved (Ne.symm hj)]

namespace AllOrNothing

lemma step {j : Fin n} (h : AllOrNothing good mark (sys.procs i))
    (hmoved : Moved S sys j a sys') : AllOrNothing good mark (sys'.procs i) := by
  rcases h with hatomic | hanswered
  · by_cases hj : j = i
    · subst hj
      rcases atomic_of_moved hatomic hmoved with ⟨-, hatomic'⟩ | ⟨_, _, -, -, -, -, hanswered⟩
      · exact .inl hatomic'
      · exact .inr hanswered
    · rw [Sys.procs_of_moved hmoved (Ne.symm hj)]
      exact .inl hatomic
  · exact .inr (hanswered.step hmoved)

/-- **A call that has not answered well has changed nothing**: each of its own steps along the run
has left the committed rows as they were. -/
theorem unchanged {acts : List (Fin n × Action)} (h : AllOrNothing good mark (sys.procs i))
    (hrun : sys.run S acts = some sys') (hnot : ¬ (sys'.procs i).Answered good) :
    sys.AlongRun S (fun mid j a => j = i → ∀ mid' ∈ mid.step S j a, mid'.db.rows = mid.db.rows)
      acts := by
  induction acts generalizing sys with
  | nil => trivial
  | cons act acts ih =>
      obtain ⟨j, a⟩ := act
      obtain ⟨mid, hmid, hrest⟩ := Option.bind_eq_some_iff.mp hrun
      have hmoved := Sys.step_moved hmid
      refine ⟨?_, fun mid' hmid' => ?_⟩
      · rintro rfl mid' hmid'
        cases hmid.symm.trans hmid'
        rcases h with hatomic | hanswered
        · rcases atomic_of_moved hatomic hmoved with ⟨hrows, -⟩ | ⟨_, _, -, -, -, -, hanswered⟩
          · exact hrows
          · exact absurd (hanswered.run hrest) hnot
        · exact absurd hmoved hanswered.not_moved
      · cases hmid.symm.trans hmid'
        exact ih (h.step hmoved) hrest

end AllOrNothing

end RagStack
