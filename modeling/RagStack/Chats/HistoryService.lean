import RagStack.Chats.Repository

/-!
# `chat-history.service.ts` and `redis-lock.service.ts`

The cache of a chat's history, and the locks.  Every Redis failure is swallowed somewhere: reading
falls back to PostgreSQL, writing and deleting log a warning.  Where exactly decides whether a lost
write leaves the key empty or stale.  After a delete that is lost the old value is still there, and
after a write that is lost so is the old value, which is harmless if there was none.

A Redis command first drops the keys that have run out; the script says which.  This is how a time
to live enters a model without a clock: a key may be gone at any command, and it stays gone until it
is written again.  Locks are keys of the same store.  Their tokens are random in the source and call
numbers here, which is all that is needed of them, that no two are equal.

`append` is the only method that holds a lock of its own, around a read and a write of the cached
history.  If the lock cannot be had it does nothing at all.
-/

namespace RagStack

/-- The keys that are still there when the `t`-th call reaches Redis. -/
def liveKeys (env : Env) (t : ℕ) (s : Stores) (key : RedisKey) : Option RedisValue :=
  if env.expired t key then none else s.redis key

section Redis

variable (env : Env)

/-- `RedisService.get`. -/
def redisGet (key : RedisKey) : Handler (Option RedisValue) :=
  transact env (.RedisGet key) fun t s =>
    .ok (liveKeys env t s key, { s with redis := liveKeys env t s })

/-- `RedisService.setWithTtl`. -/
def redisSetWithTtl (key : RedisKey) (value : RedisValue) : Handler Unit :=
  transact env (.RedisSet key value) fun t s =>
    .ok ((), { s with redis := Function.update (liveKeys env t s) key (some value) })

/-- `RedisService.delete`. -/
def redisDelete (key : RedisKey) : Handler Unit :=
  transact env (.RedisDelete key) fun t s =>
    .ok ((), { s with redis := Function.update (liveKeys env t s) key none })

/-- `RedisService.setIfAbsent`. -/
def redisSetIfAbsent (key : RedisKey) (value : RedisValue) : Handler Bool :=
  transact env (.RedisSetIfAbsent key) fun t s =>
    if (liveKeys env t s key).isNone then
      .ok (true, { s with redis := Function.update (liveKeys env t s) key (some value) })
    else .ok (false, { s with redis := liveKeys env t s })

/-- `RedisService.deleteIfValueMatches`. -/
def redisDeleteIfValueMatches (key : RedisKey) (value : RedisValue) : Handler Bool :=
  transact env (.RedisDeleteIfValueMatches key) fun t s =>
    if liveKeys env t s key = some value then
      .ok (true, { s with redis := Function.update (liveKeys env t s) key none })
    else .ok (false, { s with redis := liveKeys env t s })

/-! ## Locks

A lock is a key and the token that was written under it.  It is released by naming both, so that a
lock which has run out and belongs to somebody else is left alone. -/

structure RedisLock where
  key : RedisKey
  token : ℕ
  deriving Repr, DecidableEq

def RedisLock.release (lock : RedisLock) : Handler Bool :=
  redisDeleteIfValueMatches env lock.key (.Token lock.token)

/-- `RedisLockService.acquire`.  The random token is the number of the call. -/
def acquire (key : RedisKey) : Handler (Option RedisLock) := do
  let w ← Eff.get
  let token := w.tick
  if ← redisSetIfAbsent env key (.Token token) then pure (some ⟨key, token⟩) else pure none

def acquireGenerationLock (chatId : Uuid) : Handler (Option RedisLock) :=
  acquire env (.GenerationLock chatId)

/-- The loop of `acquirePrincipalGenerationLock` over the remaining slots. -/
def acquireSlot (principal : PrincipalLockId) : List ℕ → Handler (Option RedisLock)
  | [] => pure none
  | slot :: slots => do
      match ← acquire env (.PrincipalGenerationLock principal slot) with
      | some lock => pure (some lock)
      | none => acquireSlot principal slots

def acquirePrincipalGenerationLock (principal : RequestPrincipal) (slots : ℕ) :
    Handler (Option RedisLock) :=
  acquireSlot env (getPrincipalLockId principal) (List.range slots)

/-! ## The history cache

The handlers are in the order of the source.  The `try` blocks are where the source has them:
`getHistory` is protected around its read of Redis but not around the query, `append` around the
acquisition of its lock, and `refresh` not at all, apart from its write to the cache, which swallows
its own failure. -/

def invalidate (chatId : Uuid) : Handler Unit :=
  Eff.tryCatch (redisDelete env (.Chat chatId)) fun _ => pure ()

def writeCache (chatId : Uuid) (history : List ChatHistoryEntry) : Handler Unit :=
  Eff.tryCatch (redisSetWithTtl env (.Chat chatId) (.Json history)) fun _ => pure ()

def loadFromDatabase (chatId : Uuid) : Handler (List ChatHistoryEntry) := do
  let messages ← findMessagesForHistory env chatId
  match toHistoryEntries messages with
  | .ok history => pure history
  | .error e => Eff.throw e

/-- The `try` block of `getHistory`: the cached history, if there is one that can be used. -/
def cachedHistory (chatId : Uuid) : Handler (Option (List ChatHistoryEntry)) :=
  Eff.tryCatch
    (do
      match ← redisGet env (.Chat chatId) with
      | none => pure none
      | some (.Json history) => pure (some history)
      | some .WrongShape => do
          invalidate env chatId
          pure none
      -- `JSON.parse` throws before the value could be discarded
      | some .NotJson | some (.Token _) => Eff.throw (.Other "Unexpected token in JSON"))
    fun _ => pure none

def getHistory (chatId : Uuid) : Handler (List ChatHistoryEntry) := do
  match ← cachedHistory env chatId with
  | some history => pure history
  | none =>
      let history ← loadFromDatabase env chatId
      writeCache env chatId history
      pure history

/-- The locked part of `append`. -/
def appendLocked (chatId : Uuid) (entry : ChatHistoryEntry) : Handler Unit := do
  let history ← getHistory env chatId
  writeCache env chatId (history ++ [entry])

def append (chatId : Uuid) (entry : ChatHistoryEntry) : Handler Unit := do
  let lock ← Eff.tryCatch (acquire env (.HistoryLock chatId)) fun _ => pure none
  match lock with
  -- the lock could not be asked for, or somebody else holds it
  | none => pure ()
  | some lock =>
      Eff.andFinally (appendLocked env chatId entry)
        (Eff.tryCatch
          (do
            let _ ← lock.release env
            pure ())
          fun _ => pure ())

def refresh (chatId : Uuid) : Handler Unit := do
  let history ← loadFromDatabase env chatId
  writeCache env chatId history

end Redis

end RagStack
