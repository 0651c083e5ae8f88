import Mathlib.Tactic.Basic
import Mathlib.Data.List.Forall2

/-!
# Lists of computations that may fail

A list of computations that may fail is run from the left, and the first error is the result of the
whole.  What is needed of this are its two cases.  If the whole has returned, then every computation
has, and each result stands for one of them in its place; this is how a property of single items
becomes one of the list.  If it has failed, the error is the error of one of them, so that a
property of all single errors holds of it.

Some code does not throw away what it had before the error.  `upToError` keeps both, the results up
to there and the error that ended them.

* `bind_eq_ok` — two computations, one after the other.
* `mapM_eq_ok_iff` — a list of computations returns if each of them does.
* `mem_of_mapM_eq_error` — its error is the error of one of them.
* `upToError` — what a sequence of computations comes to that stops at the first error.
-/

namespace RagStack

variable {ε α β : Type}

lemma bind_eq_ok {x : Except ε α} {f : α → Except ε β} {b : β} :
    (x >>= f) = .ok b ↔ ∃ a, x = .ok a ∧ f a = .ok b := by
  cases x with
  | error e => simp [bind, Except.bind]
  | ok a => simp [bind, Except.bind]

lemma mapM_eq_ok_iff {f : α → Except ε β} {as : List α} {bs : List β} :
    as.mapM f = .ok bs ↔ as.map f = bs.map .ok := by
  induction as generalizing bs with
  | nil => cases bs <;> simp [pure, Except.pure]
  | cons a as ih =>
      rw [List.mapM_cons, bind_eq_ok]
      simp only [bind_eq_ok, ih]
      cases bs with
      | nil => simp [pure, Except.pure]
      | cons b bs => simp [pure, Except.pure]

/-- A list of computations returns if each of them does. -/
lemma exists_mapM_eq_ok_iff {f : α → Except ε β} {as : List α} :
    (∃ bs, as.mapM f = .ok bs) ↔ ∀ a ∈ as, ∃ b, f a = .ok b := by
  simp only [mapM_eq_ok_iff]
  induction as with
  | nil => exact iff_of_true ⟨[], rfl⟩ (by simp)
  | cons a as ih =>
      rw [List.forall_mem_cons, ← ih]
      constructor
      · rintro ⟨_ | ⟨b, bs⟩, h⟩
        · cases h
        · obtain ⟨hb, hbs⟩ := List.cons.inj h
          exact ⟨⟨b, hb⟩, bs, hbs⟩
      · rintro ⟨⟨b, hb⟩, bs, hbs⟩
        exact ⟨b :: bs, by rw [List.map_cons, List.map_cons, hb, hbs]⟩

/-- The error of a list of computations is one of theirs. -/
lemma mem_of_mapM_eq_error {f : α → Except ε β} {as : List α} {e : ε}
    (h : as.mapM f = .error e) : ∃ a ∈ as, f a = .error e := by
  induction as with
  | nil => cases h
  | cons a as ih =>
      rw [List.mapM_cons] at h
      cases ha : f a with
      | error e' =>
          rw [ha] at h
          cases h
          exact ⟨a, List.mem_cons_self, ha⟩
      | ok b =>
          rw [ha] at h
          cases has : as.mapM f with
          | error e' =>
              rw [has] at h
              cases h
              obtain ⟨a', ha', he⟩ := ih has
              exact ⟨a', List.mem_cons_of_mem _ ha', he⟩
          | ok bs =>
              rw [has] at h
              cases h

/-- The values before the first error, and that error.  What would have come after it was never
computed. -/
def upToError : List (Except ε α) → List α × Option ε
  | [] => ([], none)
  | .error e :: _ => ([], some e)
  | .ok a :: rest => (a :: (upToError rest).1, (upToError rest).2)

@[simp] lemma upToError_map_ok (as : List α) :
    upToError (as.map (.ok : α → Except ε α)) = (as, none) := by
  induction as with
  | nil => rfl
  | cons a as ih => simp only [List.map_cons, upToError, ih]

lemma upToError_append_of_none {xs : List (Except ε α)} (ys : List (Except ε α))
    (h : (upToError xs).2 = none) :
    upToError (xs ++ ys) = ((upToError xs).1 ++ (upToError ys).1, (upToError ys).2) := by
  induction xs with
  | nil => rfl
  | cons x xs ih =>
      cases x with
      | error e => cases h
      | ok a => simp only [List.cons_append, upToError, ih h]

lemma upToError_append_of_some {xs : List (Except ε α)} (ys : List (Except ε α)) {e : ε}
    (h : (upToError xs).2 = some e) : upToError (xs ++ ys) = upToError xs := by
  induction xs with
  | nil => cases h
  | cons x xs ih =>
      cases x with
      | error e => rfl
      | ok a => simp only [List.cons_append, upToError, ih h]

end RagStack
