import RagStack.Chats.Lemmas.Frame

/-!
# The generation locks of a run

`stream` takes a slot of the principal and then the lock of the chat, both before the `try` block
whose `finally` releases them.  The chat lock that is refused is answered by a release of the slot;
a chat lock that cannot be asked for is not.  Nothing in between is protected, so an exception at
this place leaves the slot taken until it runs out, and the principal without a generation for that
long.

The statement is about runs that are over.  Which locks a run holds is computed from its trace: a
`setIfAbsent` that was answered with the key adds one, and a release takes it away, whether Redis
has carried it out or not.  A release that fails is not the fault of the run; the lock then runs out
by itself.  An acquisition can be lost in a second way, when Redis has written the token and the
answer does not arrive.  The run then knows nothing of the lock that it has.

So the condition is on the acquisitions alone.  It is exact: after a lost acquisition there is a
lock that nobody releases, whatever happens later, and without one there is none.

* `heldLocks` — the locks that the calls of a trace have taken and not released.
* `LocksSettled` — every lock was released, the renewal timer is cleared, and a release that was
  carried out has freed its key.
* `locks_settled_iff` — a run that is over has settled its locks exactly when no acquisition was
  lost: Redis answered for the chat lock, and for a slot that it gave away.
* `locks_leftByRejection` — a run in which Redis rejects the chat lock.
-/

namespace RagStack

/-! ## Locks in a trace

The functions look at a trace from its newest entry, and the number of an entry is the number of
those before it, since tokens are call numbers. -/

section Trace

variable (env : Env)

/-- The call, the one after `t` others, took the key of a generation lock. -/
def TraceEntry.takesLock (t : ℕ) (entry : TraceEntry) : Bool :=
  match entry.call with
  | .RedisSetIfAbsent key =>
      key.isGeneration && entry.verdict.applied && (liveKeys env (t + 1) entry.before key).isNone
  | _ => false

/-- The locks taken in a trace. -/
def takenLocks : List TraceEntry → List RedisLock
  | [] => []
  | entry :: earlier =>
      match entry.call with
      | .RedisSetIfAbsent key =>
          if entry.takesLock env earlier.length then ⟨key, earlier.length⟩ :: takenLocks earlier
          else takenLocks earlier
      | _ => takenLocks earlier

/-- The locks taken in a trace and not released since, whatever became of the release. -/
def heldLocks : List TraceEntry → List RedisLock
  | [] => []
  | entry :: earlier =>
      match entry.call with
      | .RedisSetIfAbsent key =>
          if entry.takesLock env earlier.length then ⟨key, earlier.length⟩ :: heldLocks earlier
          else heldLocks earlier
      | .RedisDeleteIfValueMatches key => (heldLocks earlier).filter (·.key ≠ key)
      | _ => heldLocks earlier

/-- Every lock was released and its renewal is over; a release that was carried out has freed the
key. -/
structure LocksSettled (w : World) : Prop where
  released : heldLocks env w.trace = []
  stopped : w.renewing = false
  freed : ∀ lock ∈ takenLocks env w.trace,
    (∀ entry ∈ w.trace, entry.call = .RedisDeleteIfValueMatches lock.key →
      entry.verdict.applied = true) → w.stores.redis lock.key ≠ some (.Token lock.token)

/-- The chat lock was asked for and Redis failed, or Redis gave a slot away and failed to say so. -/
def TraceEntry.losesAcquisition (t : ℕ) (entry : TraceEntry) : Bool :=
  match entry.call with
  | .RedisSetIfAbsent (.GenerationLock _) => entry.verdict ≠ .Resolves
  | .RedisSetIfAbsent (.PrincipalGenerationLock ..) =>
      entry.takesLock env t && decide (entry.verdict ≠ .Resolves)
  | _ => false

/-- Some acquisition of the trace was lost: Redis has carried it out, and the caller was told of a
failure. -/
def acquisitionLost : List TraceEntry → Bool
  | [] => false
  | entry :: earlier => entry.losesAcquisition env earlier.length || acquisitionLost earlier

variable {env}

lemma isGeneration_of_held {trace : List TraceEntry} :
    ∀ lock ∈ heldLocks env trace, lock.key.isGeneration = true := by
  induction trace with
  | nil => simp [heldLocks]
  | cons entry earlier ih =>
      simp only [heldLocks]
      split
      · rename_i key hcall
        split
        · rename_i htakes
          simp only [TraceEntry.takesLock, hcall, Bool.and_eq_true] at htakes
          exact List.forall_mem_cons.mpr ⟨htakes.1.1, ih⟩
        · exact ih
      · exact fun lock hlock => ih lock (List.mem_of_mem_filter hlock)
      · exact ih

/-- What a property of the locks reads from a trace. -/
structure SameLocks (env : Env) (trace trace' : List TraceEntry) : Prop where
  taken : takenLocks env trace' = takenLocks env trace
  held : heldLocks env trace' = heldLocks env trace
  lost : acquisitionLost env trace' = acquisitionLost env trace

/-- A call that neither takes nor releases a generation lock does not count. -/
lemma SameLocks.cons {entry : TraceEntry} {earlier : List TraceEntry}
    (h : entry.call.locksGeneration = false) : SameLocks env earlier (entry :: earlier) := by
  rcases entry with ⟨call, verdict, before, l⟩
  cases call with
  | RedisSetIfAbsent key =>
      have hkey : key.isGeneration = false := h
      refine ⟨?_, ?_, ?_⟩
      · simp [takenLocks, TraceEntry.takesLock, hkey]
      · simp [heldLocks, TraceEntry.takesLock, hkey]
      · cases key <;> first | rfl | cases hkey
  | RedisDeleteIfValueMatches key =>
      have hkey : key.isGeneration = false := h
      refine ⟨rfl, ?_, by simp [acquisitionLost, TraceEntry.losesAcquisition]⟩
      refine List.filter_eq_self.mpr fun lock hlock => decide_eq_true fun heq => ?_
      rw [← heq, isGeneration_of_held lock hlock] at hkey
      cases hkey
  | _ => exact ⟨rfl, rfl, by simp [acquisitionLost, TraceEntry.losesAcquisition]⟩

lemma SameLocks.append {new earlier : List TraceEntry}
    (h : ∀ entry ∈ new, entry.call.locksGeneration = false) :
    SameLocks env earlier (new ++ earlier) := by
  induction new with
  | nil => exact ⟨rfl, rfl, rfl⟩
  | cons entry new ih =>
      have hnew := ih fun e he => h e (List.mem_cons_of_mem _ he)
      have hcons : SameLocks env (new ++ earlier) (entry :: (new ++ earlier)) :=
        .cons (h entry List.mem_cons_self)
      exact ⟨hcons.taken.trans hnew.taken, hcons.held.trans hnew.held, hcons.lost.trans hnew.lost⟩

end Trace

/-! ## Steps that have nothing to do with the locks -/

/-- From `w` to `w'` no generation lock was asked for or released, and the timer is as it was. -/
def LocksAside (w w' : World) : Prop :=
  (∃ new, w'.trace = new ++ w.trace ∧ ∀ entry ∈ new, entry.call.locksGeneration = false)
    ∧ w'.renewing = w.renewing

lemma LocksAside.log {c : Call} (hc : c.locksGeneration = false) (w : World) (v : Verdict) :
    LocksAside w (w.log c v) :=
  ⟨⟨[⟨c, v, w.stores, w.locals⟩], rfl, by simpa using hc⟩, rfl⟩

lemma LocksAside.same {w w' : World} (htrace : w'.trace = w.trace)
    (hrenewing : w'.renewing = w.renewing) : LocksAside w w' :=
  ⟨⟨[], htrace, by simp⟩, hrenewing⟩

instance : IsPreorder World LocksAside where
  refl _ := .same rfl rfl
  trans := by
    rintro w w' w'' ⟨⟨new, htrace, hnew⟩, hrenewing⟩ ⟨⟨new', htrace', hnew'⟩, hrenewing'⟩
    refine ⟨⟨new' ++ new, by rw [htrace', htrace, List.append_assoc], ?_⟩,
      hrenewing'.trans hrenewing⟩
    intro entry hentry
    rcases List.mem_append.mp hentry with hentry | hentry
    · exact hnew' entry hentry
    · exact hnew entry hentry

lemma LocksAside.sameLocks (env : Env) {w w' : World} (h : LocksAside w w') :
    SameLocks env w.trace w'.trace := by
  obtain ⟨⟨new, htrace, hnew⟩, -⟩ := h
  rw [htrace]
  exact .append hnew

lemma locksAside_historyFrame : HistoryFrame LocksAside where
  refl := Std.Refl.refl
  trans := IsTrans.trans
  logged w c v hc := .log (Call.not_locksGeneration_of_isSilent hc) w v
  stores _ _ _ := .same rfl rfl
  cacheLogged w c v hc := .log (by cases c <;> first | rfl | simp_all [Call.usesCache]) w v
  redis _ _ := .same rfl rfl

lemma locksAside_summaryFrame : SummaryFrame LocksAside where
  toSilentFrame := locksAside_historyFrame.toSilentFrame
  summaries _ _ := .same rfl rfl

lemma locksAside_replyFrame : ReplyFrame LocksAside where
  toSilentFrame := locksAside_historyFrame.toSilentFrame
  emitted w _ v := .log rfl w v
  locals _ _ _ _ := .same rfl rfl

section Handlers

variable {env : Env} {config : StreamConfig}

lemma locksAside_beginGeneration (chatId : Uuid) (content : JsString) (model : String) :
    Eff.Keeps LocksAside (beginGeneration env chatId content model) :=
  keeps_transact (fun w v => .log rfl w v) fun w v _ _ _ _ =>
    IsTrans.trans _ _ _ (LocksAside.log rfl w v) (.same rfl rfl)

lemma locksAside_endGeneration (id : Uuid) (content : JsString) (errorCode : Option String) :
    Eff.Keeps LocksAside (endGeneration env id content errorCode) :=
  keeps_transact (fun w v => .log rfl w v) fun w v _ _ _ _ =>
    IsTrans.trans _ _ _ (LocksAside.log rfl w v) (.same rfl rfl)

lemma locksAside_finishGeneration (params : StreamChatParams) (model : Model) (id : Uuid)
    (summary : Option ConversationSummary) (finalChunk : OllamaChatChunk) :
    Eff.Keeps LocksAside (finishGeneration env params model id summary finalChunk) := by
  have hhistory := locksAside_historyFrame
  have hreply := locksAside_replyFrame
  refine .bind hreply.readLocals fun before => .bind ?_ fun completed => ?_
  · exact keeps_transact (fun w v => .log rfl w v) fun w v _ _ _ _ =>
      IsTrans.trans _ _ _ (LocksAside.log rfl w v) (.same rfl rfl)
  · exact .bind (hhistory.recordUsage _ _ _ _ _ _) fun _ =>
      .bind (keeps_await (fun w v => .log rfl w v) (hhistory.refresh _)) fun _ =>
        .bind (hreply.emit _) fun _ => hreply.emit _

/-- The `try` block leaves the locks alone. -/
lemma locksAside_generate (params : StreamChatParams) (model : Model) :
    Eff.Keeps LocksAside (generate env config params model) := by
  have hhistory := locksAside_historyFrame
  have hreply := locksAside_replyFrame
  have hassign : ∀ f, Eff.Keeps LocksAside (assign f) := fun f => .modify fun w => .same rfl rfl
  refine .bind (keeps_await (fun w v => .log rfl w v) (hhistory.getHistory _)) fun history =>
    .bind (hassign _) fun _ => .bind (locksAside_beginGeneration _ _ _) fun messages =>
    .bind (hassign _) fun _ =>
    .bind (keeps_await (fun w v => .log rfl w v) (hhistory.append _ _)) fun _ =>
    .bind (hreply.emit _) fun _ =>
    .bind (keeps_await (fun w v => .log rfl w v)
      (locksAside_summaryFrame.buildPrompt _ (hreply.emit _))) fun prompt => .bind ?_ fun _ => ?_
  · exact .bind (keeps_await (fun w v => .log rfl w v) fun w => Std.Refl.refl w) fun t =>
      .bind (.forEach (fun chunk => hreply.receiveChunk _ chunk) _) fun _ => hreply.streamEnd t
  · refine .bind hreply.readLocals fun l => ?_
    split
    · exact .throw _
    · exact locksAside_finishGeneration _ _ _ _ _

/-- The `catch` block leaves the locks alone. -/
lemma locksAside_generationFailed (params : StreamChatParams) (error : JsError) :
    Eff.Keeps LocksAside (generationFailed env params error) := by
  have hhistory := locksAside_historyFrame
  have hreply := locksAside_replyFrame
  refine .bind hreply.readLocals fun l => ?_
  split
  · exact .throw _
  · refine .bind hreply.signalAborted fun aborted => ?_
    split <;> exact .bind (locksAside_endGeneration _ _ _) fun _ =>
      .bind (hhistory.refreshHistory _) fun _ => hreply.emit _

/-! ## Taking the locks

The slots are tried one after the other.  A slot that is taken by somebody else leaves nothing
behind. -/

/-- What a `setIfAbsent` leaves in the trace, and when it answers what. -/
def SetIfAbsentOutcome (env : Env) (key : RedisKey) (w : World) (o : Outcome JsError Bool)
    (w' : World) : Prop :=
  w'.renewing = w.renewing ∧ ∃ v, w'.trace = ⟨.RedisSetIfAbsent key, v, w.stores, w.locals⟩ :: w.trace
    ∧ match o with
      | .Returned set => v = .Resolves ∧ set = (liveKeys env (w.trace.length + 1) w.stores key).isNone
      | .Thrown _ => v ≠ .Resolves
      | .Halted => True

lemma redisSetIfAbsent_spec (key : RedisKey) (value : RedisValue) (w : World) :
    Eff.wp (redisSetIfAbsent env key value) (SetIfAbsentOutcome env key w) w := by
  refine wp_transact ?_ ?_ ?_ (fun _ => ⟨rfl, _, rfl, trivial⟩)
  · intro set s hv ho
    refine ⟨rfl, _, rfl, rfl, ?_⟩
    split at ho
    · rename_i hfree
      cases ho
      exact hfree.symm
    · rename_i htaken
      cases ho
      exact (Bool.eq_false_iff.mpr htaken).symm
  · rintro e v hv (rfl | ho)
    · exact ⟨rfl, _, rfl, by simp⟩
    · split at ho <;> cases ho
  · exact fun set s hv ho => ⟨rfl, _, rfl, by simp⟩

/-- How one `acquire` can end, and what it leaves in the trace. -/
def AcquireOutcome (env : Env) (key : RedisKey) (w : World) (o : Outcome JsError (Option RedisLock))
    (w' : World) : Prop :=
  w'.renewing = w.renewing ∧ ∃ v, w'.trace = ⟨.RedisSetIfAbsent key, v, w.stores, w.locals⟩ :: w.trace
    ∧ match o with
      | .Returned none =>
          v = .Resolves ∧ (liveKeys env (w.trace.length + 1) w.stores key).isNone = false
      | .Returned (some lock) => v = .Resolves ∧ lock = ⟨key, w.trace.length⟩
          ∧ (liveKeys env (w.trace.length + 1) w.stores key).isNone = true
      | .Thrown _ => v ≠ .Resolves
      | .Halted => True

lemma acquire_spec (key : RedisKey) (w : World) :
    Eff.wp (acquire env key) (AcquireOutcome env key w) w := by
  refine Eff.wp_bind_of_eq rfl (Eff.wp_seq (redisSetIfAbsent_spec key _ w) ?_ (fun _ _ h => h)
    (fun _ h => h))
  rintro set w' ⟨hrenewing, v, htrace, hv, hset⟩
  cases set with
  | true => exact ⟨hrenewing, v, htrace, hv, rfl, hset.symm⟩
  | false => exact ⟨hrenewing, v, htrace, hv, hset.symm⟩

/-! ## The phases of a run

Before any lock, with the slot, with both.  `LeavesLock` is the phase from which there is no way
back. -/

/-- The run holds these locks, newest first, and has taken no other. -/
structure Holds (env : Env) (locks : List RedisLock) (renewing : Bool) (w : World) : Prop where
  taken : takenLocks env w.trace = locks
  held : heldLocks env w.trace = locks
  answered : acquisitionLost env w.trace = false
  renewing_eq : w.renewing = renewing

/-- An acquisition was lost, and some lock is not released. -/
def LeavesLock (env : Env) (w : World) : Prop :=
  acquisitionLost env w.trace = true ∧ heldLocks env w.trace ≠ []

variable {locks : List RedisLock} {renewing : Bool} {w w' : World}

lemma Holds.aside (h : Holds env locks renewing w) (ha : LocksAside w w') :
    Holds env locks renewing w' :=
  have hs := ha.sameLocks env
  ⟨hs.taken.trans h.taken, hs.held.trans h.held, hs.lost.trans h.answered,
    ha.2.trans h.renewing_eq⟩

/-- An `acquire` that returns has taken the lock it returns and nothing else. -/
lemma Holds.acquired {key : RedisKey} {lock : Option RedisLock} (hkey : key.isGeneration = true)
    (h : Holds env locks renewing w) (ho : AcquireOutcome env key w (.Returned lock) w') :
    Holds env (lock.toList ++ locks) renewing w' := by
  obtain ⟨hrenewing, v, htrace, ho⟩ := ho
  have hanswered : ∀ before l,
      TraceEntry.losesAcquisition env w.trace.length ⟨.RedisSetIfAbsent key, .Resolves, before, l⟩
        = false := by
    intro before l
    cases key <;> simp [TraceEntry.losesAcquisition]
  cases lock with
  | none =>
      obtain ⟨rfl, htaken⟩ := ho
      refine ⟨?_, ?_, ?_, hrenewing.trans h.renewing_eq⟩ <;> rw [htrace]
      · simp [takenLocks, TraceEntry.takesLock, htaken, h.taken]
      · simp [heldLocks, TraceEntry.takesLock, htaken, h.held]
      · simp [acquisitionLost, hanswered, h.answered]
  | some lock =>
      obtain ⟨rfl, rfl, hfree⟩ := ho
      have happlied : Verdict.Resolves.applied = true := rfl
      refine ⟨?_, ?_, ?_, hrenewing.trans h.renewing_eq⟩ <;> rw [htrace]
      · simp [takenLocks, TraceEntry.takesLock, hfree, h.taken, hkey, happlied]
      · simp [heldLocks, TraceEntry.takesLock, hfree, h.held, hkey, happlied]
      · simp [acquisitionLost, hanswered, h.answered]

/-- The slots in turn: none, one lock, or an exception which may have lost a slot. -/
lemma acquireSlot_spec (principal : PrincipalLockId) (slots : List ℕ) (h : Holds env [] false w) :
    Eff.wp (acquireSlot env principal slots) (fun o w' => match o with
      | .Returned lock => Holds env lock.toList false w'
      | .Thrown _ => Holds env [] false w' ∨ LeavesLock env w'
      | .Halted => True) w := by
  induction slots generalizing w with
  | nil => exact h
  | cons slot slots ih =>
      refine Eff.wp_seq (acquire_spec _ w) ?_ ?_ (fun _ _ => trivial)
      · intro lock w' hw'
        have hlock := h.acquired rfl hw'
        cases lock with
        | none => exact ih hlock
        | some lock => exact hlock
      · rintro e w' ⟨hrenewing, v, htrace, hv⟩
        change v ≠ .Resolves at hv
        cases htakes : TraceEntry.takesLock env w.trace.length
          ⟨.RedisSetIfAbsent (.PrincipalGenerationLock principal slot), v, w.stores, w.locals⟩ with
        | true =>
            refine .inr ⟨?_, ?_⟩ <;> rw [htrace]
            · simp [acquisitionLost, TraceEntry.losesAcquisition, htakes, hv]
            · simp [heldLocks, htakes]
        | false =>
            refine .inl ⟨?_, ?_, ?_, hrenewing.trans h.renewing_eq⟩ <;> rw [htrace]
            · simp [takenLocks, htakes, h.taken]
            · simp [heldLocks, htakes, h.held]
            · simp [acquisitionLost, TraceEntry.losesAcquisition, htakes, h.answered]

/-- The lock of the chat while a slot is held: every exception leaves the slot taken. -/
lemma acquireGenerationLock_spec {slot : RedisLock} (chatId : Uuid)
    (h : Holds env [slot] false w) :
    Eff.wp (acquireGenerationLock env chatId) (fun o w' => match o with
      | .Returned lock => Holds env (lock.toList ++ [slot]) false w'
      | .Thrown _ => LeavesLock env w'
      | .Halted => True) w := by
  refine Eff.wp_mono (acquire_spec _ w) ?_
  rintro (lock | e | _) w' hw'
  · exact h.acquired rfl hw'
  · obtain ⟨-, v, htrace, hv⟩ := hw'
    change v ≠ .Resolves at hv
    refine ⟨?_, ?_⟩ <;> rw [htrace]
    · simp [acquisitionLost, TraceEntry.losesAcquisition, hv]
    · simp only [heldLocks, h.held]
      split <;> simp
  · trivial

/-! ## Releasing them -/

/-- A `release` is in the trace, brings no token back, and where it was carried out the key no
longer holds the token. -/
structure Released (lock : RedisLock) (v : Verdict) (w w' : World) : Prop where
  trace : w'.trace = ⟨.RedisDeleteIfValueMatches lock.key, v, w.stores, w.locals⟩ :: w.trace
  renewing : w'.renewing = w.renewing
  others : ∀ key token, w.stores.redis key ≠ some (.Token token) →
    w'.stores.redis key ≠ some (.Token token)
  freed : v.applied = true → w'.stores.redis lock.key ≠ some (.Token lock.token)

lemma release_spec (lock : RedisLock) (w : World) :
    Eff.wp (lock.release env) (fun _ w' => ∃ v, Released lock v w w') w := by
  set c : Call := .RedisDeleteIfValueMatches lock.key
  set live := liveKeys env (w.tick + 1) w.stores
  have hlive : ∀ key token, w.stores.redis key ≠ some (.Token token) →
      live key ≠ some (.Token token) := by
    intro key token h
    show liveKeys env (w.tick + 1) w.stores key ≠ _
    simp only [liveKeys]
    split
    · simp
    · exact h
  have hdeleted : ∀ v, Released lock v w ((w.log c v).setStores
      { w.stores with redis := Function.update live lock.key none }) := by
    refine fun v => ⟨rfl, rfl, ?_, fun _ => by simp⟩
    intro key token h
    show Function.update live lock.key none key ≠ _
    rw [Function.update_apply]
    split
    · simp
    · exact hlive key token h
  have hkept : ∀ v, live lock.key ≠ some (.Token lock.token) →
      Released lock v w ((w.log c v).setStores { w.stores with redis := live }) :=
    fun v hnot => ⟨rfl, rfl, hlive, fun _ => hnot⟩
  have hrefused : ∀ v, v.applied = false → Released lock v w (w.log c v) :=
    fun v hv => ⟨rfl, rfl, fun _ _ h => h, fun h => by rw [hv] at h; cases h⟩
  have hdone : ∀ v (a : Bool) s, (if live lock.key = some (.Token lock.token) then
      (.ok (true, { w.stores with redis := Function.update live lock.key none }) : Except JsError _)
      else .ok (false, { w.stores with redis := live })) = .ok (a, s) →
      Released lock v w ((w.log c v).setStores s) := by
    intro v a s ho
    split at ho
    · cases ho
      exact hdeleted v
    · rename_i hnot
      cases ho
      exact hkept v hnot
  refine wp_transact (Q := fun _ w' => ∃ v, Released lock v w w')
    (fun a s _ ho => ⟨_, hdone _ a s ho⟩) ?_ (fun a s _ ho => ⟨_, hdone _ a s ho⟩)
    (fun _ => ⟨_, hrefused _ rfl⟩)
  rintro e v hv (rfl | ho)
  · exact ⟨_, hrefused _ rfl⟩
  · split at ho <;> cases ho

lemma settle_spec (lock : RedisLock) (w : World) :
    Eff.wp (settle env lock) (fun _ w' => ∃ v, Released lock v w w') w := by
  refine Eff.wp_tryCatch (P := fun _ w' => ∃ v, Released lock v w w') ?_ (fun _ _ h => h)
    (fun _ _ h => h) (fun _ h => h)
  exact Eff.wp_seq (release_spec lock w) (fun _ _ h => h) (fun _ _ h => h) (fun _ h => h)

/-- After the release of the only lock. -/
lemma Holds.released {lock : RedisLock} {v : Verdict} (h : Holds env [lock] false w)
    (hr : Released lock v w w') :
    LocksSettled env w' ∧ acquisitionLost env w'.trace = false := by
  refine ⟨⟨?_, hr.renewing.trans h.renewing_eq, ?_⟩, ?_⟩
  · rw [hr.trace]
    simp [heldLocks, h.held]
  · rw [hr.trace]
    simp only [takenLocks, h.taken, List.mem_singleton, forall_eq]
    exact fun happlied => hr.freed (happlied _ List.mem_cons_self rfl)
  · rw [hr.trace]
    simp [acquisitionLost, TraceEntry.losesAcquisition, h.answered]

lemma Holds.released_both {chatLock slot : RedisLock} {v v' : Verdict} {w₁ w₂ : World}
    (h : Holds env [chatLock, slot] false w) (hchat : Released chatLock v w w₁)
    (hslot : Released slot v' w₁ w₂) :
    LocksSettled env w₂ ∧ acquisitionLost env w₂.trace = false := by
  have htrace := hslot.trace
  rw [hchat.trace] at htrace
  refine ⟨⟨?_, (hslot.renewing.trans hchat.renewing).trans h.renewing_eq, ?_⟩, ?_⟩
  · rw [htrace]
    by_cases hkey : slot.key = chatLock.key
    · simp [heldLocks, h.held, hkey]
    · simp [heldLocks, h.held, hkey]
  · rw [htrace]
    simp only [takenLocks, h.taken]
    intro lock hlock happlied
    rcases List.mem_pair.mp hlock with rfl | rfl
    · have hv := happlied _ (List.mem_cons_of_mem _ List.mem_cons_self) rfl
      exact hslot.others _ _ (hchat.freed hv)
    · exact hslot.freed (happlied _ List.mem_cons_self rfl)
  · rw [htrace]
    simp [acquisitionLost, TraceEntry.losesAcquisition, h.answered]

/-! ## Every run

What is left is to put the phases together, with `stream_rule` for the blocks in between. -/

/-- Once both locks are held, whatever ends the generation releases them. -/
lemma streamLocked_spec {chatLock slot : RedisLock} (params : StreamChatParams) (model : Model)
    (h : Holds env [chatLock, slot] false w) :
    Eff.wp (streamLocked env config params model chatLock slot)
      (fun o w' => o ≠ .Halted → LocksSettled env w' ∧ acquisitionLost env w'.trace = false) w := by
  refine Eff.wp_bind_of_eq rfl ?_
  have hrenewing : Holds env [chatLock, slot] true { w with renewing := true } :=
    ⟨h.taken, h.held, h.answered, rfl⟩
  have hblocks : Eff.Keeps LocksAside
      (Eff.tryCatch (generate env config params model) (generationFailed env params)) :=
    .tryCatch (locksAside_generate params model) fun e => locksAside_generationFailed params e
  refine Eff.wp_andFinally (P := fun _ w' => LocksAside _ w') (hblocks _) ?_
    (fun _ _ hhalted => absurd rfl hhalted)
  intro o w₁ _ haside
  have hw₁ := hrenewing.aside haside
  refine Eff.wp_bind_of_eq rfl ?_
  have hstopped : Holds env [chatLock, slot] false { w₁ with renewing := false } :=
    ⟨hw₁.taken, hw₁.held, hw₁.answered, rfl⟩
  have hboth : Eff.wp (do settle env chatLock; settle env slot)
      (fun o' w₂ => o' ≠ .Halted → LocksSettled env w₂ ∧ acquisitionLost env w₂.trace = false)
      { w₁ with renewing := false } := by
    refine Eff.wp_seq (Eff.wp_and (settle_spec chatLock _) (settle_never_throws chatLock _)) ?_
      (fun e _ he => (he.2 e rfl).elim) (fun _ _ hhalted => absurd rfl hhalted)
    rintro _ w₂ ⟨⟨v, hchat⟩, -⟩
    refine Eff.wp_mono (settle_spec slot w₂) ?_
    rintro o' w₃ ⟨v', hslot⟩ -
    exact hstopped.released_both hchat hslot
  refine Eff.wp_mono hboth ?_
  intro o' w₂ hsettled
  cases o' with
  | Returned _ => exact fun _ => hsettled (by simp)
  | Thrown _ => exact fun _ => hsettled (by simp)
  | Halted => exact fun hhalted => absurd rfl hhalted

/-- A run that is over has settled its locks, or it has lost an acquisition. -/
def RunLocks (env : Env) (o : Outcome JsError Unit) (w : World) : Prop :=
  o ≠ .Halted → (LocksSettled env w ∧ acquisitionLost env w.trace = false) ∨ LeavesLock env w

lemma Holds.settled (h : Holds env [] false w) :
    LocksSettled env w ∧ acquisitionLost env w.trace = false :=
  ⟨⟨h.held, h.renewing_eq, by simp [h.taken]⟩, h.answered⟩

lemma stream_locks (env : Env) (config : StreamConfig) (params : StreamChatParams) (s : Stores) :
    Eff.wp (stream env config params) (RunLocks env) (World.start s) := by
  rw [stream_eq]
  have hsilent := locksAside_historyFrame.toSilentFrame
  have hidle : ∀ {o : Outcome JsError Unit} {w : World}, Holds env [] false w → RunLocks env o w :=
    fun h _ => .inl h.settled
  -- nothing is locked until the slots are tried
  have next : ∀ {α : Type} {m : Handler α} {f : α → Handler Unit} {w : World},
      Holds env [] false w → Eff.Keeps LocksAside m →
      (∀ a w', Holds env [] false w' → Eff.wp (f a) (RunLocks env) w') →
      Eff.wp (m >>= f) (RunLocks env) w := by
    intro α m f w hw hm hf
    exact Eff.wp_seq (P := fun _ w' => Holds env [] false w') (hw.aside (hm w)) hf
      (fun _ _ h => hidle h) (fun _ h => hidle h)
  have hstart : Holds env [] false (World.start s) := ⟨rfl, rfl, rfl, rfl⟩
  refine next hstart (.modify fun w => .same rfl rfl) ?_
  intro _ w₁ hw₁
  have rest : Eff.wp (streamAccepted env config params) (RunLocks env) w₁ := by
    refine next hw₁ (hsilent.findOwnedChat _ _) ?_
    rintro ⟨chat, chatModel⟩ w₂ hw₂
    refine next hw₂ (hsilent.resolveForGeneration _) ?_
    rintro model w₃ hw₃
    refine next hw₃ (hsilent.assertContentFits _ _ _) ?_
    rintro _ w₄ hw₄
    refine Eff.wp_seq (acquireSlot_spec _ _ hw₄) ?_ ?_ (fun _ _ h => absurd rfl h)
    · rintro (_ | slot) w₅ hw₅
      · exact hidle hw₅
      · refine Eff.wp_seq (acquireGenerationLock_spec params.chatId hw₅) ?_ (fun _ _ h _ => .inr h)
          (fun _ _ h => absurd rfl h)
        rintro (_ | chatLock) w₆ hw₆
        · refine Eff.wp_seq (release_spec slot w₆) ?_ ?_ (fun _ _ h => absurd rfl h)
          · rintro _ w₇ ⟨v, hv⟩ -
            exact .inl (Holds.released hw₆ hv)
          · rintro _ w₇ ⟨v, hv⟩ -
            exact .inl (Holds.released hw₆ hv)
        · exact Eff.wp_mono (streamLocked_spec params model hw₆) fun _ _ h ho => .inl (h ho)
    · rintro e w₅ (h | h)
      · exact hidle h
      · exact fun _ => .inr h
  show Eff.wp (if params.content.length > config.maxMessageChars then _ else _) _ w₁
  split
  · exact hidle hw₁
  · exact rest

end Handlers

/-- **The locks of a run.**  A run that is over, whatever failed in it, has released every
generation lock it took and stopped their renewal — if and only if no acquisition was lost.  The
condition is about Redis and about two of its commands. -/
theorem locks_settled_iff (env : Env) (config : StreamConfig) (params : StreamChatParams)
    (s : Stores) (hover : (stream env config params (World.start s)).1 ≠ .Halted) :
    LocksSettled env (stream env config params (World.start s)).2
      ↔ acquisitionLost env (stream env config params (World.start s)).2.trace = false := by
  rcases stream_locks env config params s hover with h | h
  · exact iff_of_true h.1 h.2
  · refine iff_of_false (fun hs => h.2 hs.released) ?_
    rw [h.1]
    simp

/-- A run without failures releases both of its locks. -/
theorem locks_settled_iff_answering :
    LocksSettled .answering (stream .answering .defaults .hello (.start .oneChat)).2
      ↔ acquisitionLost .answering
          (stream .answering .defaults .hello (.start .oneChat)).2.trace = false :=
  locks_settled_iff .answering .defaults .hello .oneChat (by decide +kernel)

/-- Redis takes the slot and then cannot be reached. -/
def lostChatLock : Env :=
  { Env.answering with
    verdict := fun _ c => if c = .RedisSetIfAbsent (.GenerationLock 1) then .Rejects else .Resolves }

/-- **The slot of a run that is over stays taken.**  The chat lock cannot be asked for, the call
rejects, and nothing was released. -/
theorem locks_leftByRejection :
    (stream lostChatLock .defaults .hello (.start .oneChat)).1 ≠ .Halted
      ∧ ¬ LocksSettled lostChatLock (stream lostChatLock .defaults .hello (.start .oneChat)).2 := by
  have hover : (stream lostChatLock .defaults .hello (.start .oneChat)).1 ≠ .Halted := by
    decide +kernel
  have hheld : heldLocks lostChatLock
      (stream lostChatLock .defaults .hello (.start .oneChat)).2.trace
        = [⟨.PrincipalGenerationLock (.Anonymous 1) 0, 2⟩] := by
    decide +kernel
  exact ⟨hover, fun h => by rw [h.released] at hheld; cases hheld⟩

end RagStack
