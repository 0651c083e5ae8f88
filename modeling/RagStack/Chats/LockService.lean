import RagStack.Chats.World
import RagStack.Core.LeaseStore
import RagStack.Core.Runs

/-!
# `redis-lock.service.ts` under any interleaving

Any number of calls take, extend and release locks in one Redis store.  A call draws a token, its
command reaches Redis some time later, the call goes on some time after that, and a key may run out
in between.

The single run of `World` is not enough for this, since its locks have no rivals.  Here the state is
the store itself with all calls that were ever made, and a step belongs to one of them.  The
commands are atomic, as they are in Redis: `SET NX PX` is one command, and extending and releasing
are scripts that compare the token and act in one go.  What is not atomic is everything around them.
A call that has been given a lock may be told so when the lock has already run out, and its
`release` may arrive when somebody else holds the key.

Time is not counted.  A key can run out at any moment, and a theorem about all interleavings
therefore covers every time to live and every delay.

The keys are texts, as the service builds them, so that two calls which ask for different things
could in principle collide; that they do not is part of what has to be shown.

* `LockRequest` — the three ways to ask for a lock, each a list of keys that are tried in turn.
* `lockStep` — one step of the system; a run is any interleaving of steps.
-/

namespace RagStack

section Keys

variable (uuidText : Uuid → String)

/-- The text of `getPrincipalLockId`. -/
def PrincipalLockId.text : PrincipalLockId → String
  | User userId => "user:" ++ uuidText userId
  | Anonymous anonymousSessionId => "anonymous:" ++ uuidText anonymousSessionId

/-- The key of `acquireGenerationLock`. -/
def generationLockKey (chatId : Uuid) : String := "generation-lock:" ++ uuidText chatId

/-- The key of a slot of `acquirePrincipalGenerationLock`. -/
def principalGenerationLockKey (principal : RequestPrincipal) (slot : ℕ) : String :=
  "principal-generation-lock:" ++ (getPrincipalLockId principal).text uuidText ++ ":"
    ++ toString slot

end Keys

/-- A call of `acquire`, `acquireGenerationLock` or `acquirePrincipalGenerationLock`. -/
inductive LockRequest where
  | Acquire (key : String) (ttlMs : Option ℤ)
  | Generation (chatId : Uuid)
  | PrincipalGeneration (principal : RequestPrincipal) (slots : ℕ)
  deriving Repr, DecidableEq

/-- The keys a call tries, until one is free. -/
def LockRequest.keys (uuidText : Uuid → String) : LockRequest → List String
  | Acquire key _ => [key]
  | Generation chatId => [generationLockKey uuidText chatId]
  | PrincipalGeneration principal slots =>
      (List.range slots).map (principalGenerationLockKey uuidText principal)

/-- The time to live of the lock. -/
def LockRequest.ttlMs (defaultTtlMs : ℤ) : LockRequest → ℤ
  | Acquire _ ttlMs => ttlMs.getD defaultTtlMs
  | Generation _ | PrincipalGeneration _ _ => defaultTtlMs

/-- `RedisLock`: the texts of its key and of its token. -/
structure TokenLock where
  key : String
  token : String
  deriving Repr, DecidableEq

/-- The lock owns its key: the token that is stored there is its own, and has not run out. -/
def TokenLock.Owns (lock : TokenLock) (store : LeaseStore String String) : Prop :=
  store.Holds lock.key lock.token

instance (lock : TokenLock) (store : LeaseStore String String) : Decidable (lock.Owns store) :=
  inferInstanceAs (Decidable (store.Holds lock.key lock.token))

def TokenLock.release (lock : TokenLock) (store : LeaseStore String String) :
    Bool × LeaseStore String String :=
  store.deleteIfMatches lock.key lock.token

def TokenLock.extend (lock : TokenLock) (ttlMs : ℤ) (store : LeaseStore String String) :
    Bool × LeaseStore String String :=
  store.extendIfMatches lock.key lock.token ttlMs

/-- Where a call is.  Between sending `setIfAbsent` and hearing of it the key may be taken, run out,
and be taken by somebody else. -/
inductive LockPhase where
  /-- Before the attempt at the first of these keys. -/
  | Trying (keys : List String)
  /-- `setIfAbsent` is on its way to Redis. -/
  | Asking (key token : String) (rest : List String)
  /-- Redis has answered. -/
  | Answered (key token : String) (acquired : Bool) (rest : List String)
  | Returned (lock : Option TokenLock)
  | Rejected
  deriving Repr, DecidableEq

/-- The token a call has drawn for the key it is at, or for the lock it has returned. -/
def LockPhase.token? : LockPhase → Option String
  | Asking _ token _ | Answered _ token _ _ => some token
  | Returned lock => lock.map (·.token)
  | Trying _ | Rejected => none

/-- The keys a call can still get or has got. -/
def LockPhase.keys : LockPhase → List String
  | Trying keys => keys
  | Asking key _ rest | Answered key _ _ rest => key :: rest
  | Returned lock => (lock.map (·.key)).toList
  | Rejected => []

structure LockCall where
  request : LockRequest
  phase : LockPhase
  deriving Repr, DecidableEq

/-- The `RedisLock` object a call has returned. -/
def LockCall.lock? (call : LockCall) : Option TokenLock :=
  match call.phase with
  | .Returned lock => lock
  | _ => none

/-- Redis, the tokens drawn so far, and all calls in the order of their beginning. -/
structure LockSystem where
  store : LeaseStore String String
  drawn : List String
  calls : List LockCall

/-- An empty Redis before any call. -/
def LockSystem.initial : LockSystem := ⟨fun _ => none, [], []⟩

/-- A step of the system.  The numbers are those of the calls, in the order of their beginning. -/
inductive LockAction where
  | Call (request : LockRequest)
  /-- `randomBytes`, and the command is sent. -/
  | Draw (call : ℕ) (token : String)
  /-- Redis executes the command. -/
  | SetIfAbsent (call : ℕ)
  /-- The call goes on with the answer. -/
  | Resume (call : ℕ)
  /-- The command or its answer is lost. -/
  | Reject (call : ℕ)
  /-- `extend` by the lock the call has returned. -/
  | Extend (call : ℕ) (ttlMs : ℤ)
  /-- `release` by the lock the call has returned. -/
  | Release (call : ℕ)
  | Expire (key : String)
  deriving Repr, DecidableEq

section Step

variable (uuidText : Uuid → String) (defaultTtlMs : ℤ)

/-- The system with another phase of a call. -/
def LockSystem.setPhase (s : LockSystem) (i : ℕ) (call : LockCall) (phase : LockPhase) :
    LockSystem :=
  { s with calls := s.calls.set i { call with phase } }

/-- The draw of a token: one that was never drawn before. -/
def drawToken (s : LockSystem) (i : ℕ) (call : LockCall) (token : String) : Option LockSystem :=
  match call.phase with
  | .Trying (key :: rest) =>
      if token ∈ s.drawn then none
      else some { s.setPhase i call (.Asking key token rest) with drawn := token :: s.drawn }
  | _ => none

/-- `RedisService.setIfAbsent`. -/
def setIfAbsentStep (s : LockSystem) (i : ℕ) (call : LockCall) : Option LockSystem :=
  match call.phase with
  | .Asking key token rest =>
      match s.store.setIfAbsent key token (call.request.ttlMs defaultTtlMs) with
      | none => some (s.setPhase i call .Rejected)
      | some (acquired, store) =>
          some { s.setPhase i call (.Answered key token acquired rest) with store }
  | _ => none

/-- What follows the answer: the lock, the next slot, or the end of the loop. -/
def resumeStep (s : LockSystem) (i : ℕ) (call : LockCall) : Option LockSystem :=
  match call.phase with
  | .Answered key token true _ => some (s.setPhase i call (.Returned (some ⟨key, token⟩)))
  | .Answered _ _ false rest => some (s.setPhase i call (.Trying rest))
  | .Trying [] => some (s.setPhase i call (.Returned none))
  | _ => none

/-- An error of Redis: the call rejects. -/
def rejectStep (s : LockSystem) (i : ℕ) (call : LockCall) : Option LockSystem :=
  match call.phase with
  | .Asking .. | .Answered .. => some (s.setPhase i call .Rejected)
  | _ => none

/-- A script by the lock of a call. -/
def scriptStep (s : LockSystem) (call : LockCall)
    (script : TokenLock → LeaseStore String String → Bool × LeaseStore String String) :
    Option LockSystem :=
  call.lock?.map fun lock => { s with store := (script lock s.store).2 }

/-- One step of the system, if it is possible.  All but one are steps of a call; a key can run out
by itself. -/
def lockStep (s : LockSystem) : LockAction → Option LockSystem
  | .Call request =>
      some { s with calls := s.calls ++ [⟨request, .Trying (request.keys uuidText)⟩] }
  | .Draw i token => s.calls[i]?.bind fun call => drawToken s i call token
  | .SetIfAbsent i => s.calls[i]?.bind fun call => setIfAbsentStep defaultTtlMs s i call
  | .Resume i => s.calls[i]?.bind fun call => resumeStep s i call
  | .Reject i => s.calls[i]?.bind fun call => rejectStep s i call
  | .Extend i ttlMs => s.calls[i]?.bind fun call => scriptStep s call (·.extend ttlMs)
  | .Release i => s.calls[i]?.bind fun call => scriptStep s call (·.release)
  | .Expire key => some { s with store := s.store.expire key }

end Step

end RagStack
