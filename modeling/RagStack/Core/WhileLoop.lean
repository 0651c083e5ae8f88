import Mathlib.Tactic.Basic

/-!
# `while` loops

A loop as the relation between the states it starts and stops in, so that a loop that runs forever
stops in no state.  The body is a relation too, and may be a loop itself.

A loop of a program can be modelled by a recursive function if there is a measure that each round
decreases.  The model is then a little more than the code, since the measure is part of it.  The
relation is the code and nothing else: its two constructors are the two ways in which a loop can go
on, and a derivation is a terminating run.  That the function computes the end of the loop, for
every start, is a theorem and not a choice of the model, and because the relation has at most one
end, the function is all there is.

* `WhileRuns.unique` — a loop over a body that is a function stops in one state at most.
-/

namespace RagStack

variable {σ : Type*} {guard : σ → Prop} {body : σ → σ → Prop}

/-- `while (guard) body` started in the first state can stop in the second one.  There is no
derivation for a loop that does not stop. -/
inductive WhileRuns (guard : σ → Prop) (body : σ → σ → Prop) : σ → σ → Prop
  | Stops {s : σ} (hguard : ¬ guard s) : WhileRuns guard body s s
  | Loops {s s₁ s' : σ} (hguard : guard s) (hbody : body s s₁)
      (hrest : WhileRuns guard body s₁ s') : WhileRuns guard body s s'

namespace WhileRuns

/-- **One end at most**, if each round has one. -/
lemma unique (hbody : ∀ s s₁ s₂, body s s₁ → body s s₂ → s₁ = s₂) {s s₁ s₂ : σ}
    (h₁ : WhileRuns guard body s s₁) (h₂ : WhileRuns guard body s s₂) : s₁ = s₂ := by
  induction h₁ with
  | Stops hguard =>
      cases h₂ with
      | Stops _ => rfl
      | Loops hguard' _ _ => exact absurd hguard' hguard
  | Loops hguard hround _ ih =>
      cases h₂ with
      | Stops hguard' => exact absurd hguard hguard'
      | Loops _ hround' hrest' =>
          obtain rfl := hbody _ _ _ hround hround'
          exact ih hrest'

end WhileRuns

end RagStack
