import RagStack.Chats.GenerationLocks
import RagStack.Core.LockSections

/-!
# The section of a run

A `stream` call looks a few things up, takes its two locks, works, and releases them.  Nothing that
counts as work is done before both locks are taken or after the first of them is released, whatever
fails on the way; so the calls of concurrent generations on one chat do not mix.

The first half is about one run and all of its failures.  A trace is cut into three sections, by the
kinds of its calls, and every run has such a cut.  What is more, a run that works at all has taken
both of its keys before, and it releases them only when its work is over, since the release is in
the `finally` block.

The second half puts any number of runs side by side.  A run is turned into a script of what it does
to its locks and of its work, and the scripts run on one store in any interleaving.  That they
exclude each other is a theorem about scripts that keep a discipline, and the first half is exactly
the proof that they keep it.  A key that runs out under a working request is excluded by a
condition, because no program could work alone with a lock that it has lost.

* `Call.isOpening`, `Call.isClosing` — the calls before and after the work.
* `RunSections` — a trace is closing calls, then work, then opening calls, newest first.
* `stream_sections` — every run has these sections.
* `StreamRequest`, `lockScript` — any number of runs that share one Redis.
* `generations_serial` — the work on a chat is that of one request after the other, and a principal
  has no more requests at work than slots, as long as no lock runs out under a working request.
-/

namespace RagStack

/-! ## The sections of a trace

Looking up the chat and the model belongs to the opening, together with what is done to get the
locks.  Everything that is neither opening nor closing is work. -/

/-- A call that a run makes before it holds both locks. -/
def Call.isOpening : Call → Bool
  | .FindOwnedChat _ | .FindModelByName _ => true
  | .RedisSetIfAbsent key => key.isGeneration
  | _ => false

/-- A call that a run makes when its work is over. -/
def Call.isClosing : Call → Bool
  | .RedisDeleteIfValueMatches key => key.isGeneration
  | _ => false

/-- A call that a run makes under its locks. -/
def Call.isWork (c : Call) : Bool := !c.isOpening && !c.isClosing

/-- From `w` to `w'` only calls with `p` were made. -/
def OnlyCalls (p : Call → Bool) (w w' : World) : Prop :=
  ∃ new, w'.trace = new ++ w.trace ∧ ∀ entry ∈ new, p entry.call = true

lemma OnlyCalls.log {p : Call → Bool} {c : Call} (hc : p c = true) (w : World) (v : Verdict) :
    OnlyCalls p w (w.log c v) :=
  ⟨[⟨c, v, w.stores, w.locals⟩], rfl, by simpa using hc⟩

lemma OnlyCalls.same {p : Call → Bool} {w w' : World} (h : w'.trace = w.trace) : OnlyCalls p w w' :=
  ⟨[], h, by simp⟩

instance (p : Call → Bool) : IsPreorder World (OnlyCalls p) where
  refl _ := .same rfl
  trans := by
    rintro w w' w'' ⟨new, htrace, hnew⟩ ⟨new', htrace', hnew'⟩
    refine ⟨new' ++ new, by rw [htrace', htrace, List.append_assoc], ?_⟩
    intro entry hentry
    rcases List.mem_append.mp hentry with hentry | hentry
    · exact hnew' entry hentry
    · exact hnew entry hentry

/-- The locks of a request, the newer first, with the tokens that the run has drawn. -/
def requestLocks (params : StreamChatParams) (slot chatToken slotToken : ℕ) : List RedisLock :=
  [⟨.GenerationLock params.chatId, chatToken⟩,
    ⟨.PrincipalGenerationLock (getPrincipalLockId params.principal) slot, slotToken⟩]

/-- **The sections of a run**, newest first: what closes it, its work, and what opens it.  Where
there is any work, what comes before has taken the lock of the chat and a slot of the principal. -/
def RunSections (env : Env) (config : StreamConfig) (params : StreamChatParams)
    (trace : List TraceEntry) : Prop :=
  ∃ closing work opening, trace = closing ++ (work ++ opening)
    ∧ (∀ entry ∈ closing, entry.call.isClosing = true)
    ∧ (∀ entry ∈ work, entry.call.locksGeneration = false)
    ∧ (∀ entry ∈ opening, entry.call.isOpening = true)
    ∧ (work ≠ [] → ∃ slot < config.principalSlots, ∃ chatToken slotToken,
        heldLocks env opening = requestLocks params slot chatToken slotToken)

section Handlers

variable {env : Env} {config : StreamConfig} {p : Call → Bool}

/-! ## What opens a run -/

lemma onlyCalls_findOwnedChat (chatId : Uuid) (principal : RequestPrincipal) :
    Eff.Keeps (OnlyCalls Call.isOpening) (findOwnedChat env chatId principal) := by
  refine .bind (keeps_query fun w v => .log rfl w v) fun found => ?_
  split
  · exact .pure _
  · exact .throw _

lemma onlyCalls_resolveForGeneration (name : String) :
    Eff.Keeps (OnlyCalls Call.isOpening) (resolveForGeneration env name) := by
  refine .bind (keeps_query fun w v => .log rfl w v) fun found => ?_
  split
  · exact .throw _
  · split
    · exact .pure _
    · exact .throw _

lemma onlyCalls_assertContentFits (settings : ContextSettings) (model : Model)
    (content : JsString) :
    Eff.Keeps (OnlyCalls Call.isOpening) (assertContentFits settings model content) := by
  simp only [assertContentFits]
  split
  · exact .throw _
  · exact .pure _

lemma onlyCalls_acquire {key : RedisKey} (hkey : p (.RedisSetIfAbsent key) = true) :
    Eff.Keeps (OnlyCalls p) (acquire env key) := by
  refine .bind .get fun w => .bind ?_ fun set => ?_
  · exact keeps_transact (fun w v => .log hkey w v) fun w v _ _ _ _ =>
      IsTrans.trans _ _ _ (OnlyCalls.log hkey w v) (.same rfl)
  · split <;> exact .pure _

lemma onlyCalls_acquireSlot (principal : PrincipalLockId) (slots : List ℕ) :
    Eff.Keeps (OnlyCalls Call.isOpening) (acquireSlot env principal slots) := by
  induction slots with
  | nil => exact .pure _
  | cons slot slots ih =>
      refine .bind (onlyCalls_acquire rfl) fun lock => ?_
      split
      · exact .pure _
      · exact ih

/-- The slot that is taken is one of those that are tried. -/
lemma acquireSlot_slot (principal : PrincipalLockId) (slots : List ℕ) (w : World) :
    Eff.wp (acquireSlot env principal slots) (fun o _ => ∀ lock, o = .Returned (some lock) →
      ∃ slot ∈ slots, lock.key = .PrincipalGenerationLock principal slot) w := by
  induction slots generalizing w with
  | nil => rintro lock ⟨⟩
  | cons slot slots ih =>
      refine Eff.wp_seq (acquire_key _ w) ?_ (fun _ _ _ => by simp) (fun _ _ => by simp)
      rintro lock w' hlock
      split
      · rintro _ ⟨⟩
        exact ⟨slot, List.mem_cons_self, hlock _ rfl⟩
      · refine Eff.wp_mono (ih w') fun o _ h lock' ho => ?_
        obtain ⟨slot', hslot', hkey⟩ := h lock' ho
        exact ⟨slot', List.mem_cons_of_mem _ hslot', hkey⟩

/-! ## What closes it -/

lemma onlyCalls_release {lock : RedisLock} (hlock : lock.key.isGeneration = true) :
    Eff.Keeps (OnlyCalls Call.isClosing) (lock.release env) := by
  have hclosing : Call.isClosing (.RedisDeleteIfValueMatches lock.key) = true := hlock
  exact keeps_transact (fun w v => .log hclosing w v) fun w v _ _ _ _ =>
    IsTrans.trans _ _ _ (OnlyCalls.log hclosing w v) (.same rfl)

lemma onlyCalls_settle {lock : RedisLock} (hlock : lock.key.isGeneration = true) :
    Eff.Keeps (OnlyCalls Call.isClosing) (settle env lock) :=
  .tryCatch (.bind (onlyCalls_release hlock) fun _ => .pure _) fun _ => .pure _

lemma onlyCalls_releaseLocks {chatLock slot : RedisLock} (hchat : chatLock.key.isGeneration = true)
    (hslot : slot.key.isGeneration = true) :
    Eff.Keeps (OnlyCalls Call.isClosing) (releaseLocks env chatLock slot) :=
  .bind (.modify fun _ => .same rfl) fun _ => .bind (onlyCalls_settle hchat) fun _ =>
    onlyCalls_settle hslot

/-! ## Every run

The phases of a run are followed with the frame lemmas: until the locks are held every call is an
opening one, and in the blocks none of them concerns a lock. -/

/-- So far a run has only looked things up and tried to get its locks. -/
def OnlyOpened (w : World) : Prop := ∀ entry ∈ w.trace, entry.call.isOpening = true

lemma OnlyOpened.keeps {w w' : World} (h : OnlyOpened w) (hmore : OnlyCalls Call.isOpening w w') :
    OnlyOpened w' := by
  obtain ⟨new, htrace, hnew⟩ := hmore
  intro entry hentry
  rw [htrace] at hentry
  exact (List.mem_append.mp hentry).elim (hnew entry) (h entry)

variable {params : StreamChatParams} {w w₁ w₂ : World}

/-- A run that has not got both locks. -/
lemma OnlyOpened.sections (h : OnlyOpened w) : RunSections env config params w.trace :=
  ⟨[], [], w.trace, rfl, by simp, by simp, h, fun hnil => absurd rfl hnil⟩

/-- A run that gives its slot back. -/
lemma OnlyOpened.sections_refused (h : OnlyOpened w) (hclosing : OnlyCalls Call.isClosing w w₁) :
    RunSections env config params w₁.trace := by
  obtain ⟨closing, htrace, hclosing⟩ := hclosing
  exact ⟨closing, [], w.trace, htrace, hclosing, by simp, h, fun hnil => absurd rfl hnil⟩

lemma OnlyOpened.sections_worked (h : OnlyOpened w) (hwork : LocksAside w w₁)
    (hclosing : OnlyCalls Call.isClosing w₁ w₂) {slot chatToken slotToken : ℕ}
    (hslot : slot < config.principalSlots)
    (hheld : heldLocks env w.trace = requestLocks params slot chatToken slotToken) :
    RunSections env config params w₂.trace := by
  obtain ⟨⟨work, htrace, hwork⟩, -⟩ := hwork
  obtain ⟨closing, htrace', hclosing⟩ := hclosing
  exact ⟨closing, work, w.trace, by rw [htrace', htrace], hclosing, hwork, h,
    fun _ => ⟨slot, hslot, chatToken, slotToken, hheld⟩⟩

/-- The part of a run that works and closes. -/
lemma streamLocked_sections {chatLock slotLock : RedisLock} (model : Model) {slot : ℕ}
    (h : OnlyOpened w) (hheld : Holds env [chatLock, slotLock] false w)
    (hchat : chatLock.key = .GenerationLock params.chatId) (hslot : slot < config.principalSlots)
    (hprincipal : slotLock.key
      = .PrincipalGenerationLock (getPrincipalLockId params.principal) slot) :
    Eff.wp (streamLocked env config params model chatLock slotLock)
      (fun _ w' => RunSections env config params w'.trace) w := by
  have hlocks : heldLocks env w.trace = requestLocks params slot chatLock.token slotLock.token := by
    rw [hheld.held, requestLocks, ← hchat, ← hprincipal]
  have h' : OnlyOpened { w with renewing := true } := h
  have hblocks : Eff.Keeps LocksAside
      (Eff.tryCatch (generate env config params model) (generationFailed env params)) :=
    .tryCatch (locksAside_generate params model) fun e => locksAside_generationFailed params e
  refine Eff.wp_bind_of_eq rfl ?_
  refine Eff.wp_andFinally (P := fun _ w' => LocksAside { w with renewing := true } w')
    (hblocks _) ?_ (fun w' haside => h'.sections_worked haside (.same rfl) hslot hlocks)
  intro o w' _ haside
  have hclosed : Eff.Keeps (OnlyCalls Call.isClosing) (releaseLocks env chatLock slotLock) :=
    onlyCalls_releaseLocks (by rw [hchat]; rfl) (by rw [hprincipal]; rfl)
  refine Eff.wp_mono (hclosed.wp (s := w')) ?_
  intro o' w'' hclosing
  have hsections : RunSections env config params w''.trace :=
    h'.sections_worked haside hclosing hslot hlocks
  cases o' <;> exact hsections

structure Unlocked (env : Env) (w : World) : Prop where
  opened : OnlyOpened w
  holds : Holds env [] false w

lemma streamAccepted_sections (h : Unlocked env w) :
    Eff.wp (streamAccepted env config params)
      (fun _ w' => RunSections env config params w'.trace) w := by
  have hsilent := locksAside_historyFrame.toSilentFrame
  -- until the slots are tried, a call leaves nothing locked
  have next : ∀ {α : Type} {m : Handler α} {f : α → Handler Unit} {w : World}, Unlocked env w →
      Eff.Keeps (OnlyCalls Call.isOpening) m → Eff.Keeps LocksAside m →
      (∀ a w', Unlocked env w' →
        Eff.wp (f a) (fun _ w' => RunSections env config params w'.trace) w') →
      Eff.wp (m >>= f) (fun _ w' => RunSections env config params w'.trace) w := by
    intro α m f w hw honly haside hf
    exact Eff.wp_seq (P := fun _ w' => Unlocked env w')
      ⟨hw.opened.keeps (honly w), hw.holds.aside (haside w)⟩ hf
      (fun _ _ h => h.opened.sections) (fun _ h => h.opened.sections)
  refine next h (onlyCalls_findOwnedChat _ _) (hsilent.findOwnedChat _ _) ?_
  rintro ⟨chat, chatModel⟩ w₁ h₁
  refine next h₁ (onlyCalls_resolveForGeneration _) (hsilent.resolveForGeneration _) ?_
  rintro model w₂ h₂
  refine next h₂ (onlyCalls_assertContentFits _ _ _) (hsilent.assertContentFits _ _ _) ?_
  rintro _ w₃ h₃
  have hslots : Eff.Keeps (OnlyCalls Call.isOpening)
      (acquirePrincipalGenerationLock env params.principal config.principalSlots) :=
    onlyCalls_acquireSlot _ _
  refine Eff.wp_seq (Eff.wp_and (Eff.wp_and (acquireSlot_spec _ _ h₃.holds)
    (acquireSlot_slot _ _ w₃)) (hslots.wp (s := w₃))) ?_
    (fun _ _ h => (h₃.opened.keeps h.2).sections) (fun _ h => (h₃.opened.keeps h.2).sections)
  rintro (_ | slotLock) w₄ ⟨⟨hholds, hslot⟩, honly⟩
  · exact (h₃.opened.keeps honly).sections
  obtain ⟨slot, hmem, hkey⟩ := hslot slotLock rfl
  have hopened : OnlyOpened w₄ := h₃.opened.keeps honly
  have hchatLock : Eff.Keeps (OnlyCalls Call.isOpening) (acquireGenerationLock env params.chatId) :=
    onlyCalls_acquire rfl
  refine Eff.wp_seq (Eff.wp_and (Eff.wp_and (acquireGenerationLock_spec params.chatId hholds)
    (acquire_key _ w₄)) (hchatLock.wp (s := w₄))) ?_
    (fun _ _ h => (hopened.keeps h.2).sections) (fun _ h => (hopened.keeps h.2).sections)
  rintro (_ | chatLock) w₅ ⟨⟨hholds, hchat⟩, honly⟩
  · have hrelease : Eff.Keeps (OnlyCalls Call.isClosing) (slotLock.release env) :=
      onlyCalls_release (by rw [hkey]; rfl)
    exact Eff.wp_seq (hrelease.wp (s := w₅)) (fun _ _ h => (hopened.keeps honly).sections_refused h)
      (fun _ _ h => (hopened.keeps honly).sections_refused h)
      (fun _ h => (hopened.keeps honly).sections_refused h)
  · exact streamLocked_sections model (hopened.keeps honly) hholds (hchat chatLock rfl)
      (List.mem_range.mp hmem) hkey

/-- **The sections of a run.**  Whatever fails in it, a run looks things up and takes its locks,
works, and releases the locks, in this order; and it works only if it has got both of them. -/
theorem stream_sections (env : Env) (config : StreamConfig) (params : StreamChatParams)
    (s : Stores) :
    RunSections env config params (stream env config params (World.start s)).2.trace := by
  show Eff.wp (stream env config params) (fun _ w' => RunSections env config params w'.trace)
    (World.start s)
  rw [stream_eq]
  have hstart : Unlocked env (World.start s) := ⟨by rintro entry ⟨⟩, ⟨rfl, rfl, rfl, rfl⟩⟩
  refine Eff.wp_bind_of_eq rfl ?_
  show Eff.wp (if params.content.length > config.maxMessageChars then _ else _) _ _
  split
  · exact hstart.opened.sections
  · exact streamAccepted_sections ⟨hstart.opened, hstart.holds.aside (.same rfl rfl)⟩

end Handlers

/-! ## Any number of requests

Each request has its own script of collaborators and its own tables.  What they share is the store
of the locks. -/

/-- A request, what its collaborators do, and what it finds.  Requests of different times may find
different stores. -/
structure StreamRequest where
  params : StreamChatParams
  env : Env
  stores : Stores

/-- The calls of the request, newest first. -/
def StreamRequest.trace (request : StreamRequest) (config : StreamConfig) : List TraceEntry :=
  (stream request.env config request.params (.start request.stores)).2.trace

/-- What a call is for the locks.  One that was not carried out leaves them as they are. -/
def TraceEntry.lockStep? (env : Env) (t : ℕ) (entry : TraceEntry) :
    Option (LockStep RedisKey TraceEntry) :=
  if entry.call.isWork then some (.Work entry)
  else match entry.call with
    | .RedisSetIfAbsent key => if entry.takesLock env t then some (.Take key) else none
    | .RedisDeleteIfValueMatches key => if entry.verdict.applied then some (.Release key) else none
    | _ => none

/-- A trace as a script, oldest step first. -/
def lockScript (env : Env) : List TraceEntry → List (LockStep RedisKey TraceEntry)
  | [] => []
  | entry :: earlier => lockScript env earlier ++ (entry.lockStep? env earlier.length).toList

/-- The script of the request, which is its run read as a list of steps on keys with the calls
between them as work. -/
def StreamRequest.script (config : StreamConfig) (request : StreamRequest) :
    List (LockStep RedisKey TraceEntry) :=
  lockScript request.env (request.trace config)

/-- The calls the request makes under its locks, oldest first. -/
def StreamRequest.work (config : StreamConfig) (request : StreamRequest) : List TraceEntry :=
  (request.trace config).reverse.filter fun entry => entry.call.isWork

section Script

variable {env : Env}

lemma workOf_lockScript (trace : List TraceEntry) :
    workOf (lockScript env trace) = trace.reverse.filter fun entry => entry.call.isWork := by
  induction trace with
  | nil => rfl
  | cons entry earlier ih =>
      rw [lockScript, workOf_append, ih, List.reverse_cons, List.filter_append]
      congr 1
      cases hwork : entry.call.isWork with
      | true => simp [TraceEntry.lockStep?, workOf, hwork]
      | false =>
          have hnone : workOf (entry.lockStep? env earlier.length).toList = [] := by
            refine workOf_eq_nil ?_
            rintro ⟨work, hmem⟩
            rw [Option.mem_toList, TraceEntry.lockStep?, hwork] at hmem
            simp only [Bool.false_eq_true, if_false] at hmem
            split at hmem <;> simp_all
          rw [hnone]
          simp [hwork]

/-- The steps of later calls come after those of the earlier ones. -/
lemma lockScript_append (env : Env) (newer earlier : List TraceEntry) :
    ∃ rest, lockScript env (newer ++ earlier) = lockScript env earlier ++ rest
      ∧ ∀ step ∈ rest, ∃ entry ∈ newer, ∃ t, entry.lockStep? env t = some step := by
  induction newer with
  | nil => exact ⟨[], (List.append_nil _).symm, by simp⟩
  | cons entry newer ih =>
      obtain ⟨rest, hrest, hsteps⟩ := ih
      refine ⟨rest ++ (entry.lockStep? env (newer ++ earlier).length).toList, ?_, ?_⟩
      · rw [List.cons_append, lockScript, hrest, List.append_assoc]
      · intro step hstep
        rcases List.mem_append.mp hstep with hstep | hstep
        · obtain ⟨entry', hentry', ht⟩ := hsteps step hstep
          exact ⟨entry', List.mem_cons_of_mem _ hentry', ht⟩
        · exact ⟨entry, List.mem_cons_self, _, Option.mem_toList.mp hstep⟩

lemma mem_lockScript {trace : List TraceEntry} {step : LockStep RedisKey TraceEntry}
    (h : step ∈ lockScript env trace) : ∃ entry ∈ trace, ∃ t, entry.lockStep? env t = some step := by
  obtain ⟨rest, hrest, hsteps⟩ := lockScript_append env trace []
  rw [List.append_nil] at hrest
  rw [hrest] at h
  exact hsteps step (by simpa [lockScript] using h)

/-- A lock that is held was taken. -/
lemma take_mem_of_held {trace : List TraceEntry} {lock : RedisLock}
    (h : lock ∈ heldLocks env trace) : .Take lock.key ∈ lockScript env trace := by
  induction trace with
  | nil => cases h
  | cons entry earlier ih =>
      rw [lockScript]
      simp only [heldLocks] at h
      split at h
      · rename_i key hcall
        split at h
        · rename_i htakes
          have hkey : key.isGeneration = true := by
            simp only [TraceEntry.takesLock, hcall, Bool.and_eq_true] at htakes
            exact htakes.1.1
          rcases List.mem_cons.mp h with rfl | h
          · refine List.mem_append_right _ ?_
            simp [TraceEntry.lockStep?, hcall, htakes, Call.isWork, Call.isOpening, hkey]
          · exact List.mem_append_left _ (ih h)
        · exact List.mem_append_left _ (ih h)
      · exact List.mem_append_left _ (ih (List.mem_of_mem_filter h))
      · exact List.mem_append_left _ (ih h)

/-- What opens a run neither works nor releases anything. -/
lemma lockStep?_of_isOpening {entry : TraceEntry} {t : ℕ} {step : LockStep RedisKey TraceEntry}
    (hcall : entry.call.isOpening = true) (h : entry.lockStep? env t = some step) :
    ∃ key, step = .Take key := by
  rcases entry with ⟨call, verdict, before, l⟩
  cases call with
  | RedisSetIfAbsent key =>
      simp only [TraceEntry.lockStep?, Call.isWork, hcall] at h
      simp only [Bool.not_true, Bool.false_and, Bool.false_eq_true, if_false] at h
      split at h
      · exact ⟨key, (Option.some.inj h).symm⟩
      · cases h
  | _ => simp_all [TraceEntry.lockStep?, Call.isWork, Call.isOpening]

lemma lockStep?_of_work {entry : TraceEntry} {t : ℕ} {step : LockStep RedisKey TraceEntry}
    (hcall : entry.call.locksGeneration = false) (h : entry.lockStep? env t = some step)
    (key : RedisKey) : step ≠ .Release key := by
  rintro rfl
  rcases entry with ⟨call, verdict, before, l⟩
  cases call <;> simp_all [TraceEntry.lockStep?, Call.isWork, Call.isOpening, Call.isClosing,
    Call.locksGeneration]

/-- What closes a run is no work. -/
lemma lockStep?_of_isClosing {entry : TraceEntry} {t : ℕ} {step : LockStep RedisKey TraceEntry}
    (hcall : entry.call.isClosing = true) (h : entry.lockStep? env t = some step) :
    ∃ key, step = .Release key := by
  rcases entry with ⟨call, verdict, before, l⟩
  cases call with
  | RedisDeleteIfValueMatches key =>
      simp only [TraceEntry.lockStep?, Call.isWork, hcall] at h
      simp only [Bool.not_true, Bool.and_false, Bool.false_eq_true, if_false] at h
      split at h
      · exact ⟨key, (Option.some.inj h).symm⟩
      · cases h
  | _ => cases hcall

end Script

/-- The keys a request works under. -/
def requestKeys (params : StreamChatParams) (slot : ℕ) : List RedisKey :=
  [.GenerationLock params.chatId,
    .PrincipalGenerationLock (getPrincipalLockId params.principal) slot]

/-- **A request works under its locks.** -/
lemma RunSections.worksUnder {env : Env} {config : StreamConfig} {params : StreamChatParams}
    {trace : List TraceEntry} (h : RunSections env config params trace) :
    ∃ slot, (HasWork (lockScript env trace) → slot < config.principalSlots)
      ∧ WorksUnder (requestKeys params slot) (lockScript env trace) := by
  obtain ⟨closing, work, opening, rfl, hclosing, hwork, hopening, hlocks⟩ := h
  obtain ⟨closingSteps, hscript, hclosingSteps⟩ := lockScript_append env closing (work ++ opening)
  obtain ⟨workSteps, hscript', hworkSteps⟩ := lockScript_append env work opening
  rw [hscript, hscript', List.append_assoc]
  have hidle : ¬ HasWork (lockScript env opening) := by
    rintro ⟨w, hmem⟩
    obtain ⟨entry, hentry, t, hstep⟩ := mem_lockScript hmem
    obtain ⟨key, hkey⟩ := lockStep?_of_isOpening (hopening entry hentry) hstep
    cases hkey
  have hidle' : ¬ HasWork closingSteps := by
    rintro ⟨w, hmem⟩
    obtain ⟨entry, hentry, t, hstep⟩ := hclosingSteps _ hmem
    obtain ⟨key, hkey⟩ := lockStep?_of_isClosing (hclosing entry hentry) hstep
    cases hkey
  have hkept : ∀ key, .Release key ∉ lockScript env opening ++ workSteps := by
    intro key hmem
    rcases List.mem_append.mp hmem with hmem | hmem
    · obtain ⟨entry, hentry, t, hstep⟩ := mem_lockScript hmem
      obtain ⟨key', hkey'⟩ := lockStep?_of_isOpening (hopening entry hentry) hstep
      cases hkey'
    · obtain ⟨entry, hentry, t, hstep⟩ := hworkSteps _ hmem
      exact lockStep?_of_work (hwork entry hentry) hstep key rfl
  have hsome : HasWork workSteps → work ≠ [] := by
    rintro ⟨w, hmem⟩ rfl
    obtain ⟨entry, hentry, -⟩ := hworkSteps _ hmem
    cases hentry
  by_cases hnil : work = []
  · refine ⟨0, ?_, .of_sections hidle hidle' (fun h => absurd hnil (hsome h)) fun key _ => hkept key⟩
    rintro ⟨w, hmem⟩
    rcases List.mem_append.mp hmem with hmem | hmem
    · exact absurd ⟨w, hmem⟩ hidle
    · rcases List.mem_append.mp hmem with hmem | hmem
      · exact absurd hnil (hsome ⟨w, hmem⟩)
      · exact absurd ⟨w, hmem⟩ hidle'
  · obtain ⟨slot, hslot, chatToken, slotToken, hheld⟩ := hlocks hnil
    refine ⟨slot, fun _ => hslot,
      .of_sections hidle hidle' (fun _ key hkey => ?_) fun key _ => hkept key⟩
    have htake : ∀ lock ∈ requestLocks params slot chatToken slotToken,
        .Take lock.key ∈ lockScript env opening := fun lock hlock =>
      take_mem_of_held (hheld ▸ hlock)
    rcases List.mem_pair.mp hkey with rfl | rfl
    · exact htake _ (List.mem_cons_self)
    · exact htake _ (List.mem_cons_of_mem _ List.mem_cons_self)

/-- **Generations are serial.**  In any interleaving of any number of requests in which no lock runs
out under a request that has work left, the work on a chat is done by one request after the other,
and a principal has no more requests at work than slots. -/
theorem generations_serial {ι : Type} [DecidableEq ι] (config : StreamConfig) (ttlMs : ℤ)
    (requests : ι → StreamRequest) (actions : List (SectionAction ι RedisKey))
    (s : SectionSystem ι RedisKey TraceEntry)
    (hrun : runSteps (sectionStep ttlMs) (.initial fun i => (requests i).script config) actions
      = some s)
    (hlast : RunMeets (sectionStep ttlMs) LeasesLast (.initial fun i => (requests i).script config)
      actions) :
    (∀ chatId, ∃ order, OneByOne (fun i => (requests i).work config) order
      (s.log.filter fun entry => (requests entry.1).params.chatId = chatId))
    ∧ ∀ principal (parties : Finset ι), (∀ i ∈ parties, s.AtWork i
        ∧ getPrincipalLockId (requests i).params.principal = getPrincipalLockId principal) →
      parties.card ≤ config.principalSlots := by
  have hrequests : ∀ i, ∃ slot, (HasWork ((requests i).script config) → slot < config.principalSlots)
      ∧ WorksUnder (requestKeys (requests i).params slot) ((requests i).script config) :=
    fun i => (stream_sections _ config _ _).worksUnder
  choose slot hslot hdiscipline using hrequests
  have hinvariant := sectionInvariant_of_run hdiscipline hrun hlast
  refine ⟨fun chatId => ?_, fun principal parties hparties => ?_⟩
  · obtain ⟨order, horder⟩ := hinvariant.oneByOne (.GenerationLock chatId)
    have hwork : (fun i => workOf ((requests i).script config))
        = fun i => (requests i).work config := by
      funext i
      exact workOf_lockScript _
    have hunder : workUnder (fun i => requestKeys (requests i).params (slot i))
        (.GenerationLock chatId) s.log
          = s.log.filter fun entry => (requests entry.1).params.chatId = chatId := by
      refine List.filter_congr fun entry _ => ?_
      simp [requestKeys, eq_comm]
    rw [hwork, hunder] at horder
    exact ⟨order, horder⟩
  · have hpool := hinvariant.card_atWork_le hdiscipline
      ((Finset.range config.principalSlots).image fun slot =>
        .PrincipalGenerationLock (getPrincipalLockId principal) slot) parties ?_
    · exact hpool.trans (Finset.card_image_le.trans_eq (Finset.card_range _))
    · intro i hi
      obtain ⟨hatWork, hprincipal⟩ := hparties i hi
      have hhas : HasWork ((requests i).script config) := by
        have hfollows := hinvariant.follows i
        obtain ⟨w, hmem⟩ := hatWork.2
        exact ⟨w, hfollows ▸ List.mem_append_right _ hmem⟩
      refine ⟨hatWork, .PrincipalGenerationLock (getPrincipalLockId principal) (slot i), ?_, ?_⟩
      · exact Finset.mem_image.mpr ⟨slot i, Finset.mem_range.mpr (hslot i hhas), rfl⟩
      · rw [← hprincipal]
        simp [requestKeys]

def twoRequests : Bool → StreamRequest := fun _ => ⟨.hello, .answering, .oneChat⟩

/-- The second one takes its locks when the first has released them. -/
def oneAfterTheOther : List (SectionAction Bool RedisKey) :=
  List.replicate 28 (.Next false) ++ List.replicate 4 (.Next true)

/-- Two requests on one chat. -/
theorem generations_serial_two :
    ∃ s, runSteps (sectionStep 30000) (.initial fun i => (twoRequests i).script .defaults)
        oneAfterTheOther = some s
      ∧ (∀ chatId, ∃ order, OneByOne (fun i => (twoRequests i).work .defaults) order
          (s.log.filter fun entry => (twoRequests entry.1).params.chatId = chatId))
      ∧ ∀ principal (parties : Finset Bool), (∀ i ∈ parties, s.AtWork i
          ∧ getPrincipalLockId (twoRequests i).params.principal = getPrincipalLockId principal) →
        parties.card ≤ 1 := by
  have hpossible : (runSteps (sectionStep 30000)
      (.initial fun i => (twoRequests i).script .defaults) oneAfterTheOther).isSome = true := by
    decide +kernel
  obtain ⟨s, hrun⟩ := Option.isSome_iff_exists.mp hpossible
  have hnext : ∀ action ∈ oneAfterTheOther, ∃ i, action = .Next i := by
    intro action hmem
    rcases List.mem_append.mp hmem with hmem | hmem
    · exact ⟨false, List.eq_of_mem_replicate hmem⟩
    · exact ⟨true, List.eq_of_mem_replicate hmem⟩
  exact ⟨s, hrun, generations_serial .defaults 30000 twoRequests oneAfterTheOther s hrun
    (leasesLast_of_next _ hnext)⟩

end RagStack
