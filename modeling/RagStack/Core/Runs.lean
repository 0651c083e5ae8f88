import Mathlib.Data.List.Basic
import Mathlib.Tactic.Basic

/-!
# Runs of a partial step function

A system is a step function that is undefined where a step is not possible.  A run is a list of
actions, and what every step keeps, every run keeps.  This file is that induction, proved once for
each of the forms in which it is needed, so that a theorem about a system is left with its step
lemma.

Three forms are needed.  The plain one is for invariants.  The second is for properties that only
hold of runs whose steps all meet a condition; the condition may look at the action and at the state
in which it is taken, which is how a promise of the environment is stated.  The third keeps the list
of actions so far, for properties that compare the state with what has happened.

Lists of actions grow at the end, while proofs often look at the place where an event has occurred.
The last section is the bookkeeping for this.

* `runSteps` — the state after a list of actions.
* `runSteps_invariant` — the induction, once.
* `RunMeets`, `runSteps_invariant_of_meets` — runs with a condition on every step.
* `runSteps_history` — the same for what depends on the actions so far.
* `append_eq_append_cons`, `append_cons_eq_concat` — where an event of a longer history is.
-/

namespace RagStack

variable {σ α : Type*} {step : σ → α → Option σ}

/-- The state after some steps, if each of them is possible. -/
def runSteps (step : σ → α → Option σ) (s : σ) : List α → Option σ
  | [] => some s
  | action :: actions => (step s action).bind fun s' => runSteps step s' actions

lemma runSteps_cons_eq_some {s s' : σ} {action : α} {actions : List α}
    (h : runSteps step s (action :: actions) = some s') :
    ∃ s₁, step s action = some s₁ ∧ runSteps step s₁ actions = some s' :=
  Option.bind_eq_some_iff.mp h

lemma runSteps_concat {s s₁ s' : σ} {action : α} {actions : List α}
    (hrun : runSteps step s actions = some s₁) (hstep : step s₁ action = some s') :
    runSteps step s (actions ++ [action]) = some s' := by
  induction actions generalizing s with
  | nil =>
      cases hrun
      exact Option.bind_eq_some_iff.mpr ⟨s', hstep, rfl⟩
  | cons first actions ih =>
      obtain ⟨s₂, hfirst, hrest⟩ := runSteps_cons_eq_some hrun
      exact Option.bind_eq_some_iff.mpr ⟨s₂, hfirst, ih hrest⟩

/-- Every step of the run meets the condition `C` on the action and the state before it. -/
def RunMeets (step : σ → α → Option σ) (C : σ → α → Prop) (s : σ) : List α → Prop
  | [] => True
  | action :: actions => C s action ∧ ∀ s' ∈ step s action, RunMeets step C s' actions

instance decidableRunMeets (C : σ → α → Prop) [∀ s action, Decidable (C s action)] (s : σ) :
    ∀ actions, Decidable (RunMeets step C s actions)
  | [] => inferInstanceAs (Decidable True)
  | action :: actions =>
      have : ∀ s', Decidable (RunMeets step C s' actions) :=
        fun s' => decidableRunMeets C s' actions
      inferInstanceAs (Decidable (C s action ∧ ∀ s' ∈ step s action, RunMeets step C s' actions))

/-- **What each step that meets the condition keeps** holds after every run that meets it.  The
condition is known of a step when the property is known of the state before it, and not earlier. -/
theorem runSteps_invariant_of_meets {P : σ → Prop} {C : σ → α → Prop}
    (hstep : ∀ s action s', P s → C s action → step s action = some s' → P s') {s s' : σ}
    {actions : List α} (hmeets : RunMeets step C s actions)
    (hrun : runSteps step s actions = some s') (hs : P s) : P s' := by
  induction actions generalizing s with
  | nil =>
      cases hrun
      exact hs
  | cons action actions ih =>
      obtain ⟨s₁, hfirst, hrest⟩ := runSteps_cons_eq_some hrun
      exact ih (hmeets.2 s₁ hfirst) hrest (hstep s action s₁ hs hmeets.1 hfirst)

lemma RunMeets.and {C D : σ → α → Prop} {s : σ} {actions : List α} (hC : RunMeets step C s actions)
    (hD : RunMeets step D s actions) :
    RunMeets step (fun s action => C s action ∧ D s action) s actions := by
  induction actions generalizing s with
  | nil => trivial
  | cons action actions ih =>
      exact ⟨⟨hC.1, hD.1⟩, fun s' hs' => ih (hC.2 s' hs') (hD.2 s' hs')⟩

lemma runMeets_true (s : σ) (actions : List α) : RunMeets step (fun _ _ => True) s actions := by
  induction actions generalizing s with
  | nil => trivial
  | cons action actions ih => exact ⟨trivial, fun s' _ => ih s'⟩

lemma runMeets_of_forall {C : α → Prop} (s : σ) {actions : List α} (h : ∀ action ∈ actions, C action) :
    RunMeets step (fun _ action => C action) s actions := by
  induction actions generalizing s with
  | nil => trivial
  | cons action actions ih =>
      exact ⟨h action List.mem_cons_self,
        fun s' _ => ih s' fun action' hmem => h action' (List.mem_cons_of_mem _ hmem)⟩

/-- **What each step keeps holds after every run.** -/
theorem runSteps_invariant {P : σ → Prop}
    (hstep : ∀ s action s', P s → step s action = some s' → P s') {s s' : σ} {actions : List α}
    (hrun : runSteps step s actions = some s') (hs : P s) : P s' :=
  runSteps_invariant_of_meets (fun s action s' hs _ => hstep s action s' hs)
    (runMeets_true s actions) hrun hs

/-- **What each step keeps of the state and its history** holds after every run. -/
theorem runSteps_history {P : List α → σ → Prop}
    (hstep : ∀ history s action s', P history s → step s action = some s' → P (history ++ [action]) s')
    {s s' : σ} {history actions : List α} (hrun : runSteps step s actions = some s')
    (hs : P history s) : P (history ++ actions) s' := by
  induction actions generalizing s history with
  | nil =>
      cases hrun
      rwa [List.append_nil]
  | cons action actions ih =>
      obtain ⟨s₁, hfirst, hrest⟩ := runSteps_cons_eq_some hrun
      have hlast := ih hrest (hstep history s action s₁ hs hfirst)
      rwa [List.append_assoc] at hlast

/-! ## Histories

An event of a history that has grown was there before or is the new one. -/

/-- An element of a concatenation is in the first part or in the second. -/
lemma append_eq_append_cons {xs ys before after : List α} {x : α}
    (h : xs ++ ys = before ++ x :: after) :
    (∃ rest, xs = before ++ x :: rest ∧ after = rest ++ ys)
      ∨ ∃ rest, before = xs ++ rest ∧ ys = rest ++ x :: after := by
  rcases List.append_eq_append_iff.mp h with ⟨rest, hbefore, hys⟩ | ⟨rest, hxs, hafter⟩
  · exact .inr ⟨rest, hbefore, hys⟩
  · cases rest with
    | nil => exact .inr ⟨[], by simpa using hxs.symm, by simpa using hafter.symm⟩
    | cons y rest =>
        rw [List.cons_append, List.cons.injEq] at hafter
        obtain ⟨rfl, hafter⟩ := hafter
        exact .inl ⟨rest, hxs, hafter⟩

/-- An event that occurs at the end only. -/
lemma append_cons_eq_concat {before rest front : List α} {event last : α}
    (h : before ++ event :: rest = front ++ [last]) (hnot : event ∉ front) :
    before = front ∧ rest = [] := by
  rcases List.eq_nil_or_concat' rest with rfl | ⟨rest, last', rfl⟩
  · exact ⟨(List.append_inj' h rfl).1, rfl⟩
  · rw [← List.cons_append, ← List.append_assoc] at h
    have hfront : before ++ event :: rest = front := (List.append_inj' h rfl).1
    exact absurd (hfront ▸ List.mem_append_right before List.mem_cons_self) hnot

end RagStack
