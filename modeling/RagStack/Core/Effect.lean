import Mathlib.Order.Defs.Unbundled
import Mathlib.Tactic.Basic

/-!
# Programs whose calls may fail

An asynchronous handler is a sequence of awaited calls.  Each of them may resolve, reject, or never
settle, and what the handler changed before a rejection stays changed: there is no rollback of the
surrounding state.  `Eff σ ε α` is that shape — a function of the state which always returns the
state it reached, together with how it ended.  This is what sets it apart from a state monad over an
exception monad, where an exception would throw the state away, and with it the very writes whose
fate the theorems are about.

The specifications are weakest preconditions over the outcome and the state together, so that one
statement says what holds after a value, after an exception, and when nothing is heard any more.
Handlers are verified by following their text: each construct has one rule, each call one
specification, and a proof names at every `await` what is known there.  Frame conditions do not need
this care.  What a call leaves alone is a relation between the states before and after, it is the
same for all outcomes, and it composes along every construct by itself.

A second family of rules, `wpIf`, is for properties of runs that only hold under a condition which
can fail on the way, and which then has to be known at the end and is used further up.

* `Outcome` — a value, an exception, or no answer at all.  `Halted` is not an exception: neither
  `tryCatch` nor `andFinally` sees it, as nothing runs in a process that is gone.
* `wp` and its rules — the weakest precondition of a program for a postcondition on outcome and
  state.  `wp_seq` is the rule the proofs use: a specification of the first call, and what
  follows from each of its three outcomes.
* `ThrowsOnly` — every exception of a program satisfies a predicate.
* `Keeps` — a reflexive and transitive relation between the state before and after, whatever the
  outcome.  It composes along every construct, which is what makes a frame condition cheap.
-/

namespace RagStack

/-- How a program ends.  `Halted` stands for a call that never settles and for a process that is
gone: no code of the program runs after it. -/
inductive Outcome (ε α : Type) where
  | Returned (a : α)
  | Thrown (e : ε)
  | Halted
  deriving Repr, DecidableEq

/-- A program over the state `σ` with exceptions in `ε`.  The state survives every outcome, so a
specification can speak of what was written before an exception. -/
def Eff (σ ε α : Type) : Type := σ → Outcome ε α × σ

namespace Eff

variable {σ ε α β : Type}

/-! ## The constructs

They are written as functions of the state and not through a monad transformer stack, because the
three outcomes are treated differently by each of them: an exception passes `tryCatch` on to the
handler and makes `andFinally` run its cleanup, while a program that has halted does neither.  The
monad instance is there for `do` notation and for `bind_assoc`. -/

protected def pure (a : α) : Eff σ ε α := fun s => (.Returned a, s)

protected def bind (m : Eff σ ε α) (f : α → Eff σ ε β) : Eff σ ε β := fun s =>
  match m s with
  | (.Returned a, s') => f a s'
  | (.Thrown e, s') => (.Thrown e, s')
  | (.Halted, s') => (.Halted, s')

instance : Monad (Eff σ ε) where
  pure := Eff.pure
  bind := Eff.bind

/-- `throw e`. -/
def throw (e : ε) : Eff σ ε α := fun s => (.Thrown e, s)

def get : Eff σ ε σ := fun s => (.Returned s, s)

/-- A state change that cannot fail. -/
def modify (f : σ → σ) : Eff σ ε Unit := fun s => (.Returned (), f s)

/-- `try { body } catch (e) { handler e }`. -/
def tryCatch (body : Eff σ ε α) (handler : ε → Eff σ ε α) : Eff σ ε α := fun s =>
  match body s with
  | (.Thrown e, s') => handler e s'
  | r => r

/-- `try { body } finally { cleanup }`.  An exception of `cleanup` replaces the one of `body`. -/
def andFinally (body : Eff σ ε α) (cleanup : Eff σ ε Unit) : Eff σ ε α := fun s =>
  match body s with
  | (.Halted, s') => (.Halted, s')
  | (o, s') =>
      match cleanup s' with
      | (.Returned _, s'') => (o, s'')
      | (.Thrown e, s'') => (.Thrown e, s'')
      | (.Halted, s'') => (.Halted, s'')

/-- `for (const x of xs) body(x)`; an exception leaves the loop. -/
def forEach (body : α → Eff σ ε Unit) : List α → Eff σ ε Unit
  | [] => Eff.pure ()
  | x :: xs => Eff.bind (body x) fun _ => forEach body xs

/-! ## Weakest preconditions

Each rule has one premise for each outcome of the first program.  `wp_seq` is used with a named
predicate for the outcome of a call; where the result of the call is known, `wp_bind_of_eq` goes on
from the state it left without one. -/

/-- `wp m Q s`: run from `s`, the program `m` ends in an outcome and a state related by `Q`.
Programs are total functions, so there is no difference between partial and total correctness here.
-/
def wp (m : Eff σ ε α) (Q : Outcome ε α → σ → Prop) (s : σ) : Prop := Q (m s).1 (m s).2

variable {m : Eff σ ε α} {f : α → Eff σ ε β} {s : σ}

theorem wp_mono {Q Q' : Outcome ε α → σ → Prop} (h : wp m Q s)
    (hQ : ∀ o s', Q o s' → Q' o s') : wp m Q' s :=
  hQ _ _ h

theorem wp_and {Q Q' : Outcome ε α → σ → Prop} (h : wp m Q s) (h' : wp m Q' s) :
    wp m (fun o s' => Q o s' ∧ Q' o s') s :=
  ⟨h, h'⟩

/-- **Sequencing.**  A specification `P` of the first program, and for each of its outcomes what
the whole does from there. -/
theorem wp_seq {P : Outcome ε α → σ → Prop} {Q : Outcome ε β → σ → Prop} (h : wp m P s)
    (returned : ∀ a s', P (.Returned a) s' → wp (f a) Q s')
    (thrown : ∀ e s', P (.Thrown e) s' → Q (.Thrown e) s')
    (halted : ∀ s', P .Halted s' → Q .Halted s') : wp (m >>= f) Q s := by
  show Q (Eff.bind m f s).1 (Eff.bind m f s).2
  simp only [wp] at h
  simp only [Eff.bind]
  rcases hm : m s with ⟨o, s'⟩
  rw [hm] at h
  cases o with
  | Returned a => exact returned a s' h
  | Thrown e => exact thrown e s' h
  | Halted => exact halted s' h

/-- Sequencing after a program whose result is known. -/
theorem wp_bind_of_eq {Q : Outcome ε β → σ → Prop} {a : α} {s' : σ} (hm : m s = (.Returned a, s'))
    (h : wp (f a) Q s') : wp (m >>= f) Q s := by
  show Q (Eff.bind m f s).1 (Eff.bind m f s).2
  simp only [Eff.bind]
  rw [hm]
  exact h

/-- Sequencing after a program that throws. -/
theorem wp_bind_of_thrown {Q : Outcome ε β → σ → Prop} {e : ε} {s' : σ}
    (hm : m s = (.Thrown e, s')) (h : Q (.Thrown e) s') : wp (m >>= f) Q s := by
  show Q (Eff.bind m f s).1 (Eff.bind m f s).2
  simp only [Eff.bind]
  rw [hm]
  exact h

/-- A sequence returns exactly when both programs do. -/
theorem bind_eq_returned {b : β} {s' : σ} :
    (m >>= f) s = (.Returned b, s')
      ↔ ∃ a s₁, m s = (.Returned a, s₁) ∧ f a s₁ = (.Returned b, s') := by
  show Eff.bind m f s = _ ↔ _
  simp only [Eff.bind]
  rcases hm : m s with ⟨o, s₁⟩
  cases o with
  | Returned a =>
      refine ⟨fun h => ⟨a, s₁, rfl, h⟩, ?_⟩
      rintro ⟨a', s', ha, h⟩
      cases ha
      exact h
  | Thrown e => simp
  | Halted => simp

/-- A handler sees the exceptions of the body and nothing else. -/
theorem wp_tryCatch {handler : ε → Eff σ ε α} {P Q : Outcome ε α → σ → Prop} (h : wp m P s)
    (returned : ∀ a s', P (.Returned a) s' → Q (.Returned a) s')
    (thrown : ∀ e s', P (.Thrown e) s' → wp (handler e) Q s')
    (halted : ∀ s', P .Halted s' → Q .Halted s') : wp (tryCatch m handler) Q s := by
  simp only [wp] at h ⊢
  simp only [tryCatch]
  rcases hm : m s with ⟨o, s'⟩
  rw [hm] at h
  cases o with
  | Returned a => exact returned a s' h
  | Thrown e => exact thrown e s' h
  | Halted => exact halted s' h

/-- The cleanup runs after a value and after an exception, and can only add an exception or a
halt of its own. -/
theorem wp_andFinally {cleanup : Eff σ ε Unit} {P Q : Outcome ε α → σ → Prop} (h : wp m P s)
    (settled : ∀ o s', o ≠ .Halted → P o s' →
      wp cleanup (fun o' s'' => match o' with
        | .Returned _ => Q o s''
        | .Thrown e => Q (.Thrown e) s''
        | .Halted => Q .Halted s'') s')
    (halted : ∀ s', P .Halted s' → Q .Halted s') : wp (andFinally m cleanup) Q s := by
  simp only [wp] at h ⊢
  simp only [andFinally]
  rcases hm : m s with ⟨o, s'⟩
  rw [hm] at h
  have hs := settled o s'
  simp only [wp] at hs
  cases o with
  | Halted => exact halted s' h
  | Returned a =>
      have hc := hs (by simp) h
      rcases hk : cleanup s' with ⟨o', s''⟩
      rw [hk] at hc
      cases o' <;> simpa [hk] using hc
  | Thrown e =>
      have hc := hs (by simp) h
      rcases hk : cleanup s' with ⟨o', s''⟩
      rw [hk] at hc
      cases o' <;> simpa [hk] using hc

/-- **Loop rule.**  `I done` is what holds after the elements in `done`; an iteration either
extends it by the next element or leaves the loop in a state of `Q`. -/
theorem wp_forEach {body : α → Eff σ ε Unit} {Q : Outcome ε Unit → σ → Prop}
    (I : List α → σ → Prop) (xs : List α)
    (step : ∀ done x rest s', xs = done ++ x :: rest → I done s' →
      wp (body x) (fun o s'' => match o with
        | .Returned _ => I (done ++ [x]) s''
        | .Thrown e => Q (.Thrown e) s''
        | .Halted => Q .Halted s'') s')
    (finish : ∀ s', I xs s' → Q (.Returned ()) s') (init : I [] s) :
    wp (forEach body xs) Q s := by
  -- the induction is on what is left of the list, for every way of having reached it
  suffices h : ∀ rest done s', xs = done ++ rest → I done s' → wp (forEach body rest) Q s' from
    h xs [] s rfl init
  intro rest
  induction rest with
  | nil =>
      intro done s' hxs hI
      have hdone : done = xs := by simpa using hxs.symm
      exact finish s' (hdone ▸ hI)
  | cons x rest ih =>
      intro done s' hxs hI
      refine wp_seq (step done x rest s' hxs hI) ?_ (fun e s'' h => h) (fun s'' h => h)
      intro _ s'' hI'
      exact ih (done ++ [x]) s'' (by simp [hxs]) hI'

/-! ## Runs under a condition

A condition on whole runs is a condition `C` on the state reached which cannot come back once it
has failed.  `wpIf C` asks for the postcondition only where `C` holds at the end, and hands `C`
back to the beginning, so that what was known there may be known under `C` only. -/

/-- `wpIf C m Q s`: if `C` holds when `m` ends, then it held at the beginning, and `Q` holds. -/
def wpIf (C : σ → Prop) (m : Eff σ ε α) (Q : Outcome ε α → σ → Prop) (s : σ) : Prop :=
  wp m (fun o s' => C s' → C s ∧ Q o s') s

section Condition

variable {C : σ → Prop}

theorem wpIf_mono {Q Q' : Outcome ε α → σ → Prop} (h : wpIf C m Q s)
    (hQ : ∀ o s', C s → C s' → Q o s' → Q' o s') : wpIf C m Q' s :=
  fun hC => ⟨(h hC).1, hQ _ _ (h hC).1 hC (h hC).2⟩

theorem wpIf_seq {P : Outcome ε α → σ → Prop} {Q : Outcome ε β → σ → Prop} (h : wpIf C m P s)
    (returned : ∀ a s', (C s' → C s ∧ P (.Returned a) s') → wpIf C (f a) Q s')
    (thrown : ∀ e s', C s' → C s → P (.Thrown e) s' → Q (.Thrown e) s')
    (halted : ∀ s', C s' → C s → P .Halted s' → Q .Halted s') : wpIf C (m >>= f) Q s := by
  refine wp_seq h ?_ (fun e s' h hC => ⟨(h hC).1, thrown e s' hC (h hC).1 (h hC).2⟩)
    (fun s' h hC => ⟨(h hC).1, halted s' hC (h hC).1 (h hC).2⟩)
  intro a s' h
  refine wp_mono (returned a s' h) ?_
  intro o s'' h' hC
  exact ⟨(h (h' hC).1).1, (h' hC).2⟩

theorem wpIf_bind_of_eq {Q : Outcome ε β → σ → Prop} {a : α} {s' : σ}
    (hm : m s = (.Returned a, s')) (hC : C s' → C s) (h : wpIf C (f a) Q s') :
    wpIf C (m >>= f) Q s :=
  wp_bind_of_eq hm (wp_mono h fun _ _ h hC'' => ⟨hC (h hC'').1, (h hC'').2⟩)

theorem wpIf_tryCatch {handler : ε → Eff σ ε α} {P Q : Outcome ε α → σ → Prop} (h : wpIf C m P s)
    (returned : ∀ a s', C s' → C s → P (.Returned a) s' → Q (.Returned a) s')
    (thrown : ∀ e s', (C s' → C s ∧ P (.Thrown e) s') → wpIf C (handler e) Q s')
    (halted : ∀ s', C s' → C s → P .Halted s' → Q .Halted s') : wpIf C (tryCatch m handler) Q s := by
  refine wp_tryCatch h (fun a s' h hC => ⟨(h hC).1, returned a s' hC (h hC).1 (h hC).2⟩) ?_
    (fun s' h hC => ⟨(h hC).1, halted s' hC (h hC).1 (h hC).2⟩)
  intro e s' h
  refine wp_mono (thrown e s' h) ?_
  intro o s'' h' hC
  exact ⟨(h (h' hC).1).1, (h' hC).2⟩

end Condition

/-! ## The exceptions of a program

Which exceptions can leave a handler is often all that matters of them, since the code distinguishes
few.  `ThrowsOnly` is closed under the constructs; a `tryCatch` forgets what its body throws. -/

/-- `ThrowsOnly P m`: from every state, an exception of `m` satisfies `P`. -/
def ThrowsOnly (P : ε → Prop) (m : Eff σ ε α) : Prop :=
  ∀ s, wp m (fun o _ => ∀ e, o = .Thrown e → P e) s

namespace ThrowsOnly

variable {P : ε → Prop}

theorem pure (a : α) : ThrowsOnly P (Pure.pure a : Eff σ ε α) := by rintro s e ⟨⟩

theorem throw {e : ε} (h : P e) : ThrowsOnly P (Eff.throw e : Eff σ ε α) := by
  rintro s _ ⟨⟩
  exact h

theorem get : ThrowsOnly P (Eff.get : Eff σ ε σ) := by rintro s e ⟨⟩

theorem modify (g : σ → σ) : ThrowsOnly P (Eff.modify g : Eff σ ε Unit) := by rintro s e ⟨⟩

theorem bind (hm : ThrowsOnly P m) (hf : ∀ a, ThrowsOnly P (f a)) : ThrowsOnly P (m >>= f) := by
  intro s
  refine wp_seq (hm s) (fun a s' _ => hf a s') ?_ (by simp)
  rintro e s' h _ ⟨⟩
  exact h e rfl

/-- Only the exceptions of the handler get out. -/
theorem tryCatch {handler : ε → Eff σ ε α} (hh : ∀ e, ThrowsOnly P (handler e)) :
    ThrowsOnly P (Eff.tryCatch m handler) := by
  intro s
  exact wp_tryCatch (P := fun _ _ => True) trivial (by simp) (fun e s' _ => hh e s') (by simp)

theorem andFinally {cleanup : Eff σ ε Unit} (hm : ThrowsOnly P m) (hc : ThrowsOnly P cleanup) :
    ThrowsOnly P (Eff.andFinally m cleanup) := by
  intro s
  refine wp_andFinally (hm s) ?_ (by simp)
  intro o s' _ h
  refine wp_mono (hc s') ?_
  intro o' s'' h'
  cases o' with
  | Returned _ => exact h
  | Thrown e => exact fun e' he => h' e' (by cases he; rfl)
  | Halted => simp

theorem forEach {body : α → Eff σ ε Unit} (hb : ∀ a, ThrowsOnly P (body a)) :
    ∀ xs, ThrowsOnly P (Eff.forEach body xs)
  | [] => pure ()
  | x :: xs => bind (hb x) fun _ => forEach hb xs

end ThrowsOnly

/-! ## Relations kept by a program

A frame condition is a reflexive and transitive relation.  The class assumptions are on the
relation, so that a module which needs a new frame only has to give the instance and the relation
for each of its primitive calls. -/

/-- `Keeps R m`: from every state, whatever the outcome, `R` relates the state before to the
state after. -/
def Keeps (R : σ → σ → Prop) (m : Eff σ ε α) : Prop := ∀ s, R s (m s).2

namespace Keeps

variable {R : σ → σ → Prop}

theorem wp (h : Keeps R m) : Eff.wp m (fun _ s' => R s s') s := h s

theorem modify {g : σ → σ} (h : ∀ s, R s (g s)) : Keeps R (Eff.modify g : Eff σ ε Unit) := h

section Constructs

variable [IsPreorder σ R]

theorem pure (a : α) : Keeps R (Pure.pure a : Eff σ ε α) := fun s => Std.Refl.refl s

theorem throw (e : ε) : Keeps R (Eff.throw e : Eff σ ε α) := fun s => Std.Refl.refl s

theorem get : Keeps R (Eff.get : Eff σ ε σ) := fun s => Std.Refl.refl s

theorem bind (hm : Keeps R m) (hf : ∀ a, Keeps R (f a)) : Keeps R (m >>= f) := by
  intro s
  show Eff.wp (m >>= f) (fun _ s' => R s s') s
  refine wp_seq hm.wp ?_ (fun _ _ h => h) (fun _ h => h)
  intro a s' h
  exact IsTrans.trans _ _ _ h (hf a s')

theorem tryCatch {handler : ε → Eff σ ε α} (hm : Keeps R m) (hh : ∀ e, Keeps R (handler e)) :
    Keeps R (Eff.tryCatch m handler) := by
  intro s
  show Eff.wp (Eff.tryCatch m handler) (fun _ s' => R s s') s
  refine wp_tryCatch hm.wp (fun _ _ h => h) ?_ (fun _ h => h)
  intro e s' h
  exact IsTrans.trans _ _ _ h (hh e s')

theorem andFinally {cleanup : Eff σ ε Unit} (hm : Keeps R m) (hc : Keeps R cleanup) :
    Keeps R (Eff.andFinally m cleanup) := by
  intro s
  show Eff.wp (Eff.andFinally m cleanup) (fun _ s' => R s s') s
  refine wp_andFinally hm.wp ?_ (fun _ h => h)
  intro o s' _ h
  refine wp_mono hc.wp ?_
  intro o' s'' h'
  cases o' <;> exact IsTrans.trans _ _ _ h h'

theorem forEach {body : α → Eff σ ε Unit} (hb : ∀ a, Keeps R (body a)) :
    ∀ xs, Keeps R (Eff.forEach body xs)
  | [] => pure ()
  | x :: xs => bind (hb x) fun _ => forEach hb xs

end Constructs

end Keeps

end Eff

end RagStack
