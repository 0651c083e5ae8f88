import Mathlib.Data.List.Nodup
import RagStack.Chats.LockService

/-!
# At most one owner

Which locks own what is stored, in every state that the lock service reaches.

A lock owns its key if its token is stored there.  Two locks cannot own one key, since there is one
value under it, unless they had the same token.  So the first invariant is that tokens are distinct,
which is true because a token is drawn and never drawn again.  The limits follow by counting: a chat
has one generation lock, and a principal has no more than its slots, since each owner sits on a key
of its own and there are only so many keys.

The second half is about locks that were lost.  A lock whose key has run out, or has been taken by
somebody else, can do nothing any more: its scripts name a token that is not stored.  That this
stays so for ever is the point of comparing tokens, and it is an invariant as well.  The token could
only be stored again by the call that has drawn it, and that call has already returned its lock.

* `LockMoves` — all that a step can do.
* `TokensDistinct` — the invariant: no two calls have drawn the same token.
* `KeysRequested` — the invariant: a call gets no other key than those it asked for.
* `locks_exclusive` — a key has one owner at most, so a chat has one generation lock at most and a
  principal no more than its slots; and a lock that was lost can neither be extended nor released
  ever after.
-/

namespace RagStack

section Invariant

variable {uuidText : Uuid → String} {defaultTtlMs : ℤ}

/-- What a step does to the system. -/
inductive LockMoves (uuidText : Uuid → String) : LockSystem → LockSystem → Prop
  /-- A call begins. -/
  | begun (s : LockSystem) (request : LockRequest) :
      LockMoves uuidText s
        { s with calls := s.calls ++ [⟨request, .Trying (request.keys uuidText)⟩] }
  /-- A call that has returned no lock goes on: it may draw a token that is new, and only its own
  token may be stored. -/
  | moved {s : LockSystem} {i : ℕ} {call : LockCall} {phase : LockPhase} {drawn : List String}
      {store : LeaseStore String String} (hcall : s.calls[i]? = some call)
      (hopen : call.lock? = none) (hkeys : phase.keys ⊆ call.phase.keys)
      (hdrawn : s.drawn ⊆ drawn)
      (htoken : ∀ token, phase.token? = some token →
        call.phase.token? = some token ∨ token ∉ s.drawn ∧ token ∈ drawn)
      (hstore : ∀ key token, store.Holds key token →
        s.store.Holds key token ∨ call.phase.token? = some token) :
      LockMoves uuidText s ⟨store, drawn, s.calls.set i { call with phase }⟩
  /-- Redis changes: nothing is stored that was not stored before. -/
  | lost {s : LockSystem} {store : LeaseStore String String}
      (hstore : ∀ key token, store.Holds key token → s.store.Holds key token) :
      LockMoves uuidText s { s with store }

variable {s s' : LockSystem}

/-- A step that leaves Redis alone and draws no token. -/
lemma LockMoves.ofPhase {i : ℕ} {call : LockCall} {phase : LockPhase}
    (hcall : s.calls[i]? = some call) (hopen : call.lock? = none)
    (hkeys : phase.keys ⊆ call.phase.keys)
    (htoken : ∀ token, phase.token? = some token → call.phase.token? = some token) :
    LockMoves uuidText s (s.setPhase i call phase) :=
  .moved hcall hopen hkeys (List.Subset.refl _) (fun token h => .inl (htoken token h))
    fun _ _ h => .inl h

lemma drawToken_moves {i : ℕ} {call : LockCall} {token : String} (hcall : s.calls[i]? = some call)
    (hstep : drawToken s i call token = some s') : LockMoves uuidText s s' := by
  simp only [drawToken] at hstep
  split at hstep
  · rename_i key rest hphase
    split at hstep
    · cases hstep
    · rename_i hfresh
      cases hstep
      refine .moved hcall (by simp [LockCall.lock?, hphase]) ?_ (List.subset_cons_self _ _) ?_
        fun _ _ h => .inl h
      · rw [hphase]
        exact List.Subset.refl _
      · rintro drawn ⟨⟩
        exact .inr ⟨hfresh, List.mem_cons_self⟩
  · cases hstep

lemma setIfAbsentStep_moves {i : ℕ} {call : LockCall} (hcall : s.calls[i]? = some call)
    (hstep : setIfAbsentStep defaultTtlMs s i call = some s') : LockMoves uuidText s s' := by
  simp only [setIfAbsentStep] at hstep
  split at hstep
  · rename_i key token rest hphase
    have hopen : call.lock? = none := by simp [LockCall.lock?, hphase]
    split at hstep
    · cases hstep
      exact .ofPhase hcall hopen (List.nil_subset _) (by rintro token ⟨⟩)
    · rename_i acquired store hset
      cases hstep
      refine .moved hcall hopen ?_ (List.Subset.refl _) ?_ ?_
      · rw [hphase]
        exact List.Subset.refl _
      · rintro token ⟨⟩
        exact .inl (by rw [hphase]; rfl)
      · intro key' token' h
        refine (LeaseStore.holds_of_setIfAbsent hset h).imp_right ?_
        rintro rfl
        rw [hphase]
        rfl
  · cases hstep

lemma resumeStep_moves {i : ℕ} {call : LockCall} (hcall : s.calls[i]? = some call)
    (hstep : resumeStep s i call = some s') : LockMoves uuidText s s' := by
  simp only [resumeStep] at hstep
  split at hstep
  · rename_i key token rest hphase
    cases hstep
    refine .ofPhase hcall (by simp [LockCall.lock?, hphase]) ?_ ?_
    · rw [hphase]
      exact List.cons_subset.mpr ⟨List.mem_cons_self, List.nil_subset _⟩
    · rintro token ⟨⟩
      rw [hphase]
      rfl
  · rename_i key token rest hphase
    cases hstep
    refine .ofPhase hcall (by simp [LockCall.lock?, hphase]) ?_ (by rintro token ⟨⟩)
    rw [hphase]
    exact List.subset_cons_self _ _
  · rename_i hphase
    cases hstep
    exact .ofPhase hcall (by simp [LockCall.lock?, hphase]) (List.nil_subset _)
      (by rintro token ⟨⟩)
  · cases hstep

lemma rejectStep_moves {i : ℕ} {call : LockCall} (hcall : s.calls[i]? = some call)
    (hstep : rejectStep s i call = some s') : LockMoves uuidText s s' := by
  have hrejected : call.lock? = none → LockMoves uuidText s (s.setPhase i call .Rejected) :=
    fun hopen => .ofPhase hcall hopen (List.nil_subset _) (by rintro token ⟨⟩)
  simp only [rejectStep] at hstep
  split at hstep
  · rename_i hphase
    cases hstep
    exact hrejected (by simp [LockCall.lock?, hphase])
  · rename_i hphase
    cases hstep
    exact hrejected (by simp [LockCall.lock?, hphase])
  · cases hstep

/-- **Every step** does one of these things. -/
lemma lockStep_moves {action : LockAction}
    (hstep : lockStep uuidText defaultTtlMs s action = some s') : LockMoves uuidText s s' := by
  cases action with
  | Call request =>
      cases hstep
      exact .begun s request
  | Draw i token =>
      obtain ⟨call, hcall, hstep⟩ := Option.bind_eq_some_iff.mp hstep
      exact drawToken_moves hcall hstep
  | SetIfAbsent i =>
      obtain ⟨call, hcall, hstep⟩ := Option.bind_eq_some_iff.mp hstep
      exact setIfAbsentStep_moves hcall hstep
  | Resume i =>
      obtain ⟨call, hcall, hstep⟩ := Option.bind_eq_some_iff.mp hstep
      exact resumeStep_moves hcall hstep
  | Reject i =>
      obtain ⟨call, hcall, hstep⟩ := Option.bind_eq_some_iff.mp hstep
      exact rejectStep_moves hcall hstep
  | Extend i ttlMs =>
      obtain ⟨call, hcall, hstep⟩ := Option.bind_eq_some_iff.mp hstep
      obtain ⟨lock, hlock, rfl⟩ := Option.map_eq_some_iff.mp hstep
      exact .lost fun key token => LeaseStore.holds_of_extendIfMatches
  | Release i =>
      obtain ⟨call, hcall, hstep⟩ := Option.bind_eq_some_iff.mp hstep
      obtain ⟨lock, hlock, rfl⟩ := Option.map_eq_some_iff.mp hstep
      exact .lost fun key token => LeaseStore.holds_of_deleteIfMatches
  | Expire key =>
      cases hstep
      exact .lost fun key token => LeaseStore.holds_of_expire

/-- No two calls have the same token, and every token has been drawn. -/
structure TokensDistinct (s : LockSystem) : Prop where
  drawn : ∀ (i : ℕ) (call : LockCall) (token : String), s.calls[i]? = some call →
    call.phase.token? = some token → token ∈ s.drawn
  distinct : ∀ (i j : ℕ) (call call' : LockCall) (token : String), s.calls[i]? = some call →
    s.calls[j]? = some call' → call.phase.token? = some token → call'.phase.token? = some token →
    i = j

/-- The keys of a call are keys of its request. -/
def KeysRequested (uuidText : Uuid → String) (s : LockSystem) : Prop :=
  ∀ call ∈ s.calls, call.phase.keys ⊆ call.request.keys uuidText

lemma LockCall.phase_of_lock {call : LockCall} {lock : TokenLock} (h : call.lock? = some lock) :
    call.phase = .Returned (some lock) := by
  simp only [LockCall.lock?] at h
  split at h
  · rename_i hphase
    rw [hphase, h]
  · cases h

lemma getElem?_concat_cases {calls : List LockCall} {new call : LockCall} {i : ℕ}
    (h : (calls ++ [new])[i]? = some call) : calls[i]? = some call ∨ call = new := by
  rw [List.getElem?_append] at h
  split at h
  · exact .inl h
  · exact .inr (List.mem_singleton.mp (List.mem_of_getElem? h))

lemma getElem?_set_cases {calls : List LockCall} {moved call : LockCall} {i j : ℕ}
    (h : (calls.set i moved)[j]? = some call) :
    j = i ∧ call = moved ∨ j ≠ i ∧ calls[j]? = some call := by
  rw [List.getElem?_set] at h
  split at h
  · rename_i heq
    split at h
    · exact .inl ⟨heq.symm, (Option.some.inj h).symm⟩
    · cases h
  · rename_i hne
    exact .inr ⟨fun heq => hne heq.symm, h⟩

/-- **Tokens stay distinct.** -/
lemma TokensDistinct.moves (h : TokensDistinct s) (hmoves : LockMoves uuidText s s') :
    TokensDistinct s' := by
  cases hmoves with
  | begun request =>
      have hold : ∀ (i : ℕ) (call : LockCall) (token : String),
          (s.calls ++ [⟨request, .Trying (request.keys uuidText)⟩])[i]? = some call →
          call.phase.token? = some token → s.calls[i]? = some call := by
        intro i call token hi htoken
        rcases getElem?_concat_cases hi with hi | rfl
        · exact hi
        · cases htoken
      refine ⟨fun i call token hi htoken => h.drawn i call token (hold i call token hi htoken) htoken,
        fun i j call call' token hi hj htoken htoken' => ?_⟩
      exact h.distinct i j call call' token (hold i call token hi htoken)
        (hold j call' token hj htoken') htoken htoken'
  | @moved i call phase drawn store hcall hopen hkeys hdrawn hfresh hstore =>
      -- the token of the call that moves is its own or a new one, so no other call has it
      have hother : ∀ (j : ℕ) (call' : LockCall) (token : String), s.calls[j]? = some call' →
          call'.phase.token? = some token → phase.token? = some token → j = i := by
        intro j call' token hj htoken' htoken
        rcases hfresh token htoken with hown | ⟨hnew, -⟩
        · exact h.distinct j i call' call token hj hcall htoken' hown
        · exact absurd (h.drawn j call' token hj htoken') hnew
      refine ⟨fun j call' token hj htoken => ?_, fun j k call' call'' token hj hk htoken htoken' => ?_⟩
      · rcases getElem?_set_cases hj with ⟨rfl, rfl⟩ | ⟨-, hj⟩
        · rcases hfresh token htoken with hown | ⟨-, hnew⟩
          · exact hdrawn (h.drawn j call token hcall hown)
          · exact hnew
        · exact hdrawn (h.drawn j call' token hj htoken)
      · rcases getElem?_set_cases hj with ⟨rfl, rfl⟩ | ⟨hji, hj'⟩
        · rcases getElem?_set_cases hk with ⟨rfl, -⟩ | ⟨hki, hk'⟩
          · rfl
          · exact absurd (hother k call'' token hk' htoken' htoken) hki
        · rcases getElem?_set_cases hk with ⟨rfl, rfl⟩ | ⟨hki, hk'⟩
          · exact absurd (hother j call' token hj' htoken htoken') hji
          · exact h.distinct j k call' call'' token hj' hk' htoken htoken'
  | lost hstore => exact ⟨h.drawn, h.distinct⟩

lemma KeysRequested.moves (h : KeysRequested uuidText s) (hmoves : LockMoves uuidText s s') :
    KeysRequested uuidText s' := by
  cases hmoves with
  | begun request =>
      intro call hmem
      rcases List.mem_append.mp hmem with hmem | hmem
      · exact h call hmem
      · obtain rfl := List.mem_singleton.mp hmem
        exact List.Subset.refl _
  | @moved i call phase drawn store hcall hopen hkeys hdrawn hfresh hstore =>
      intro call' hmem
      rcases List.mem_or_eq_of_mem_set hmem with hmem | rfl
      · exact h call' hmem
      · exact List.Subset.trans hkeys (h call (List.mem_of_getElem? hcall))
  | lost hstore => exact h

/-- **A lock that is lost stays lost**: only its own call could store its token again. -/
lemma lost_moves {i : ℕ} {call : LockCall} {lock : TokenLock} (h : TokensDistinct s)
    (hmoves : LockMoves uuidText s s') (hcall : s.calls[i]? = some call)
    (hlock : call.lock? = some lock) (hlost : ¬ lock.Owns s.store) :
    s'.calls[i]? = some call ∧ ¬ lock.Owns s'.store := by
  cases hmoves with
  | begun request =>
      refine ⟨?_, hlost⟩
      rw [List.getElem?_append_left (List.getElem?_eq_some_iff.mp hcall).1]
      exact hcall
  | @moved j mover phase drawn store hmover hopen hkeys hdrawn hfresh hstore =>
      have hne : j ≠ i := by
        rintro rfl
        cases hcall.symm.trans hmover
        rw [hlock] at hopen
        cases hopen
      refine ⟨?_, fun howns => ?_⟩
      · rw [List.getElem?_set_ne hne]
        exact hcall
      · rcases hstore _ _ howns with howns | htoken
        · exact hlost howns
        · refine hne (h.distinct j i mover call _ hmover hcall htoken ?_)
          rw [LockCall.phase_of_lock hlock]
          rfl
  | lost hstore => exact ⟨hcall, fun howns => hlost (hstore _ _ howns)⟩

end Invariant

/-! ## What the owners are

Owners are counted over the calls of the service, because the limits are limits on what calls were
given. -/

/-- All `RedisLock` objects. -/
def LockSystem.locks (s : LockSystem) : List TokenLock := s.calls.filterMap (·.lock?)

/-- The call has returned a lock that owns what is stored under its key. -/
def LockCall.ownsLock (store : LeaseStore String String) (call : LockCall) : Bool :=
  call.lock?.any fun lock => lock.Owns store

/-- The call asks for one of the first `slots` generation locks of `principal`. -/
def LockRequest.isOfPrincipal (principal : RequestPrincipal) (slots : ℕ) : LockRequest → Bool
  | PrincipalGeneration principal' slots' =>
      getPrincipalLockId principal' = getPrincipalLockId principal ∧ slots' ≤ slots
  | _ => false

/-- The key of the lock has run out or has been retaken. -/
def TokenLock.Lost (lock : TokenLock) (store : LeaseStore String String) : Prop :=
  store lock.key = none ∨ ∃ lease, store lock.key = some lease ∧ lease.value ≠ lock.token

/-- The owners in one state: of a key at most one lock, of a chat at most one generation, and of a
principal no more generations than slots.  A call owns its lock while its token is what is stored.
-/
structure LocksExclusive (s : LockSystem) : Prop where
  perKey : ∀ key, s.locks.countP (fun lock => lock.key = key ∧ lock.Owns s.store) ≤ 1
  perChat : ∀ chatId, s.calls.countP
    (fun call => call.request = .Generation chatId ∧ call.ownsLock s.store) ≤ 1
  perPrincipal : ∀ principal slots, s.calls.countP
    (fun call => call.request.isOfPrincipal principal slots ∧ call.ownsLock s.store) ≤ slots

/-- The lock was lost, and its scripts do nothing: extending and releasing both find another token
or none, and leave the store alone. -/
structure Powerless (lock : TokenLock) (store : LeaseStore String String) : Prop where
  lost : lock.Lost store
  extend : ∀ ttlMs, lock.extend ttlMs store = (false, store)
  release : lock.release store = (false, store)

section Owners

variable {uuidText : Uuid → String} {s : LockSystem}

lemma TokenLock.lost_iff {lock : TokenLock} {store : LeaseStore String String} :
    lock.Lost store ↔ ¬ lock.Owns store := LeaseStore.not_holds_iff.symm

lemma powerless_of_not_owns {lock : TokenLock} {store : LeaseStore String String}
    (h : ¬ lock.Owns store) : Powerless lock store :=
  ⟨TokenLock.lost_iff.mpr h, fun _ => LeaseStore.extendIfMatches_of_not_holds h,
    LeaseStore.deleteIfMatches_of_not_holds h⟩

/-- Two calls whose locks own the same key are one. -/
lemma TokensDistinct.pairwise (h : TokensDistinct s) :
    s.calls.Pairwise fun call call' => ∀ lock lock', call.lock? = some lock →
      call'.lock? = some lock' → lock.Owns s.store → lock'.Owns s.store → lock.key ≠ lock'.key := by
  refine List.pairwise_iff_getElem.mpr fun i j hi hj hij lock lock' hlock hlock' howns howns' hkey => ?_
  have htoken : lock.token = lock'.token := by
    simp only [TokenLock.Owns] at howns howns'
    rw [hkey] at howns
    exact howns.unique howns'
  have heq := h.distinct i j s.calls[i] s.calls[j] lock.token (List.getElem?_eq_getElem hi)
    (List.getElem?_eq_getElem hj) (by rw [LockCall.phase_of_lock hlock]; rfl)
    (by rw [LockCall.phase_of_lock hlock', htoken]; rfl)
  omega

/-- **Counting owners**: there are no more of them than keys. -/
lemma TokensDistinct.countP_le (h : TokensDistinct s) (keys : List String) {p : LockCall → Bool}
    (hp : ∀ call ∈ s.calls, p call = true →
      ∃ lock, call.lock? = some lock ∧ lock.Owns s.store ∧ lock.key ∈ keys) :
    s.calls.countP p ≤ keys.length := by
  have howner : ∀ call ∈ s.calls.filter p,
      ∃ lock, call.lock? = some lock ∧ lock.Owns s.store ∧ lock.key ∈ keys :=
    fun call hmem => hp call (List.mem_of_mem_filter hmem) (List.of_mem_filter hmem)
  -- the keys of the owners do not repeat
  have hnodup : ((s.calls.filter p).map fun call => call.lock?.map (·.key)).Nodup := by
    refine List.pairwise_map.mpr ((h.pairwise.filter p).imp_of_mem ?_)
    intro call call' hmem hmem' hne heq
    obtain ⟨lock, hlock, howns, -⟩ := howner call hmem
    obtain ⟨lock', hlock', howns', -⟩ := howner call' hmem'
    rw [hlock, hlock'] at heq
    exact hne lock lock' hlock hlock' howns howns' (Option.some.inj heq)
  have hsubset : ((s.calls.filter p).map fun call => call.lock?.map (·.key)) ⊆ keys.map some := by
    intro key hkey
    obtain ⟨call, hmem, rfl⟩ := List.mem_map.mp hkey
    obtain ⟨lock, hlock, -, hin⟩ := howner call hmem
    rw [hlock]
    exact List.mem_map_of_mem hin
  have hlength := (hnodup.subperm hsubset).length_le
  rwa [List.length_map, List.length_map, ← List.countP_eq_length_filter] at hlength

lemma exists_of_ownsLock {call : LockCall} (h : call.ownsLock s.store = true) :
    ∃ lock, call.lock? = some lock ∧ lock.Owns s.store := by
  simp only [LockCall.ownsLock] at h
  cases hlock : call.lock? with
  | none =>
      rw [hlock] at h
      cases h
  | some lock =>
      rw [hlock] at h
      exact ⟨lock, rfl, of_decide_eq_true h⟩

/-- The key of a lock is a key of its request. -/
lemma KeysRequested.key_mem {call : LockCall} {lock : TokenLock} (h : KeysRequested uuidText s)
    (hmem : call ∈ s.calls) (hlock : call.lock? = some lock) :
    lock.key ∈ call.request.keys uuidText := by
  refine h call hmem ?_
  rw [LockCall.phase_of_lock hlock]
  exact List.mem_cons_self

lemma locksExclusive_of_invariant (h : TokensDistinct s) (hkeys : KeysRequested uuidText s) :
    LocksExclusive s := by
  refine ⟨fun key => ?_, fun chatId => ?_, fun principal slots => ?_⟩
  · rw [LockSystem.locks, List.countP_filterMap]
    refine h.countP_le [key] fun call _ hp => ?_
    cases hlock : call.lock? with
    | none =>
        rw [hlock] at hp
        cases hp
    | some lock =>
        rw [hlock] at hp
        obtain ⟨hkey, howns⟩ := of_decide_eq_true hp
        exact ⟨lock, rfl, howns, List.mem_singleton.mpr hkey⟩
  · refine h.countP_le [generationLockKey uuidText chatId] fun call hmem hp => ?_
    obtain ⟨hrequest, hp⟩ := of_decide_eq_true hp
    obtain ⟨lock, hlock, howns⟩ := exists_of_ownsLock hp
    have hkey := hkeys.key_mem hmem hlock
    rw [hrequest] at hkey
    exact ⟨lock, hlock, howns, hkey⟩
  · have hlength : ((List.range slots).map
        (principalGenerationLockKey uuidText principal)).length = slots := by simp
    refine (h.countP_le ((List.range slots).map (principalGenerationLockKey uuidText principal))
      fun call hmem hp => ?_).trans_eq hlength
    obtain ⟨hrequest, hp⟩ := of_decide_eq_true hp
    obtain ⟨lock, hlock, howns⟩ := exists_of_ownsLock hp
    have hkey := hkeys.key_mem hmem hlock
    refine ⟨lock, hlock, howns, ?_⟩
    unfold LockRequest.isOfPrincipal at hrequest
    split at hrequest
    · rename_i principal' slots' heq
      obtain ⟨hprincipal, hslots⟩ := of_decide_eq_true hrequest
      rw [heq] at hkey
      obtain ⟨slot, hslot, hkey⟩ := List.mem_map.mp hkey
      rw [List.mem_range] at hslot
      refine List.mem_map.mpr ⟨slot, List.mem_range.mpr (by omega), ?_⟩
      rw [← hkey]
      unfold principalGenerationLockKey
      rw [hprincipal]
    · cases hrequest

end Owners

/-- **Locks exclude each other.**  In every state that any interleaving reaches, a key has one owner
at most, a chat one generation lock, a principal as many as its slots; and a lock whose key has run
out or has been retaken can neither be extended nor released, then or ever after. -/
theorem locks_exclusive (uuidText : Uuid → String) (defaultTtlMs : ℤ) (actions : List LockAction)
    (s : LockSystem) (hrun : runSteps (lockStep uuidText defaultTtlMs) .initial actions = some s) :
    LocksExclusive s ∧ ∀ lock ∈ s.locks, lock.Lost s.store → ∀ actions' s',
      runSteps (lockStep uuidText defaultTtlMs) s actions' = some s' → Powerless lock s'.store := by
  have hdistinct : TokensDistinct s :=
    runSteps_invariant (fun _ _ _ h hstep => h.moves (lockStep_moves hstep)) hrun
      ⟨by rintro i call token ⟨⟩, by rintro i j call call' token ⟨⟩⟩
  have hkeys : KeysRequested uuidText s :=
    runSteps_invariant (fun _ _ _ h hstep => h.moves (lockStep_moves hstep)) hrun
      (by rintro call ⟨⟩)
  refine ⟨locksExclusive_of_invariant hdistinct hkeys, fun lock hmem hlost actions' s' hrun' => ?_⟩
  obtain ⟨call, hcall, hlock⟩ := List.mem_filterMap.mp hmem
  obtain ⟨i, hi⟩ := List.mem_iff_getElem?.mp hcall
  have hrest : TokensDistinct s' ∧ s'.calls[i]? = some call ∧ ¬ lock.Owns s'.store := by
    refine runSteps_invariant (P := fun s => TokensDistinct s ∧ s.calls[i]? = some call
      ∧ ¬ lock.Owns s.store) ?_ hrun' ⟨hdistinct, hi, TokenLock.lost_iff.mp hlost⟩
    rintro s action s' ⟨hs, hi, hlost⟩ hstep
    have hmoves := lockStep_moves hstep
    exact ⟨hs.moves hmoves, lost_moves hs hmoves hi hlock hlost⟩
  exact powerless_of_not_owns hrest.2.2

/-- A generation lock that runs out and is taken again. -/
def retakenLock : List LockAction :=
  [.Call (.Generation 1), .Draw 0 "a", .SetIfAbsent 0, .Resume 0, .Expire "generation-lock:1",
    .Call (.Generation 1), .Draw 1 "b", .SetIfAbsent 1, .Resume 1]

/-- After `retakenLock` the second lock is the only one. -/
theorem locks_exclusive_retaken :
    ∃ s, runSteps (lockStep toString 30000) .initial retakenLock = some s
      ∧ LocksExclusive s ∧ ∀ lock ∈ s.locks, lock.Lost s.store → ∀ actions' s',
        runSteps (lockStep toString 30000) s actions' = some s' → Powerless lock s'.store :=
  ⟨_, rfl, locks_exclusive toString 30000 retakenLock _ rfl⟩

end RagStack
