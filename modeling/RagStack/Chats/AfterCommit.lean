import RagStack.Chats.Lemmas.Frame

/-!
# The steps after the commit of a reply

The `try` block of `stream` does not end with `completeGeneration`.  Four awaited steps follow the
commit — the usage record, the reload of the history, two events — and an exception of any of them
enters the same `catch` block as a failure of the model does.  Whether the committed reply is left
alone is therefore decided by what the collaborators answer to these steps, and by nothing else.

This file reads that decision off the script.  A *point* of a block is a place where the script
has a say: a call may be refused or never be heard of again when it is made, and its answer may get
lost when it has been carried out.  The points stand in the order of the program, each knows the
number of its call, and the first one that control does not pass decides what becomes of the block.

* `Settling`, `Settling.first` — what the script makes of a point, and of a list of points.
* `Env.afterCommit` — the points that follow the commit of call `n`, up to the end of the block.
  Their numbers are known in advance, since every call before a point was made exactly once.
* `Env.Overwrites` — the condition under which a committed reply is lost: the first point that is
  not passed throws, and `endGeneration`, which is then the next call, is carried out.
* `settles_await`, `settles_seq` — the two rules by which a program is matched with its points.
* `afterCommit_settles` — the end of the `try` block settles as its points say.

The condition is about the script and about the state in which `completeGeneration` was called.
It is not about what the run makes of them: the `catch` block does not occur in it except through
the verdict on one call, whose number the points determine.
-/

namespace RagStack

/-! ## Points -/

/-- What the script makes of one point of a block: control passes, an exception leaves the block
there and `next` is the number of the call made after it, or the run is never heard of again. -/
inductive Settling where
  | Passes
  | Throws (next : ℕ)
  | Hangs
  deriving Repr, DecidableEq

/-- What becomes of a block with these points: the first one that is not passed decides. -/
def Settling.first : List Settling → Settling
  | [] => .Passes
  | .Passes :: points => first points
  | point :: _ => point

lemma Settling.first_append (points points' : List Settling) :
    first (points ++ points')
      = if first points = .Passes then first points' else first points := by
  induction points with
  | nil => rfl
  | cons point points ih =>
      cases point with
      | Passes => exact ih
      | Throws next => rfl
      | Hangs => rfl

section Script

variable (env : Env) (n : ℕ)

/-- Call `n` is made: it may be refused, or hang, before it has done anything. -/
def Env.invoked (c : Call) : Settling :=
  match env.verdict n c with
  | .Rejects => .Throws (n + 1)
  | .Hangs => .Hangs
  | _ => .Passes

/-- Call `n` has been carried out, and `next` is the number of the next call: its answer may get
lost. -/
def Env.answered (c : Call) (next : ℕ) : Settling :=
  if env.verdict n c = .RejectsLate then .Throws next else .Passes

/-- Call `n` is made where its exception is caught at once: it can only hang. -/
def Env.swallowed (c : Call) : Settling :=
  if env.verdict n c = .Hangs then .Hangs else .Passes

/-- The points of `usage.record`, beginning with call `n`. -/
def Env.recordPoints : List Settling :=
  [env.invoked n (.Service .RecordUsage), env.swallowed (n + 1) .CreateUsageLog,
    env.answered n (.Service .RecordUsage) (n + 2)]

/-- The points of `loadFromDatabase`, whose query is call `n`: the query is refused or answered late
like any other call, and rows that cannot be converted throw after it. -/
def Env.reloadPoints (chatId : Uuid) (history : Except JsError (List ChatHistoryEntry)) :
    List Settling :=
  [env.invoked n (.FindMessagesForHistory chatId),
    env.answered n (.FindMessagesForHistory chatId) (n + 1),
    match history with
    | .ok _ => .Passes
    | .error _ => .Throws (n + 1)]

/-- The points of `history.refresh`, beginning with call `n`, where `history` is what the rows of
the chat convert to.  The write to the cache can only hang. -/
def Env.refreshPoints (chatId : Uuid) (history : Except JsError (List ChatHistoryEntry)) :
    List Settling :=
  env.invoked n (.Service .RefreshHistory)
    :: (env.reloadPoints (n + 1) chatId history
      ++ (history.toOption.map fun history =>
        env.swallowed (n + 2) (.RedisSet (.Chat chatId) (.Json history))).toList
      ++ [env.answered n (.Service .RefreshHistory) (n + 3)])

/-- The two points of an event at which the script is asked: before the write to the response and
behind it. -/
def Env.eventPoints (event : ChatStreamEvent) : List Settling :=
  [env.invoked n (.Emit event), env.answered n (.Emit event) (n + 1)]

/-- The points after the commit of call `n` that come before the last event: the acknowledgement of
the commit, the usage record, the reload and `message.completed`. -/
def Env.beforeContext (chatId id : Uuid) (completed : Message)
    (history : Except JsError (List ChatHistoryEntry)) : List Settling :=
  env.answered n (.CompleteGeneration id) (n + 1)
    :: (env.recordPoints (n + 1) ++ (env.refreshPoints (n + 3) chatId history
      ++ env.eventPoints (n + 6) (.MessageCompleted (toChatMessage completed))))

/-- **The points after the commit** of call `n`, where `context` is the event that call `n + 7`
sends, if the run gets that far. -/
def Env.afterCommit (chatId id : Uuid) (completed : Message)
    (history : Except JsError (List ChatHistoryEntry)) (context : Option ChatStreamEvent) :
    List Settling :=
  env.beforeContext n chatId id completed history
    ++ (context.map (env.eventPoints (n + 7))).getD []

/-- **The script overwrites the commit** of call `n`: `completeGeneration` is carried out, the
first point after it that is not passed throws, and the call that follows, `endGeneration`, is
carried out as well. -/
def Env.Overwrites (id : Uuid) (points : List Settling) : Prop :=
  (env.verdict n (.CompleteGeneration id)).applied = true
    ∧ ∃ next, Settling.first points = .Throws next
      ∧ (env.verdict next (.EndGeneration id)).applied = true

end Script

/-! ## Programs and their points -/

/-- The block ends as its points say, and `Q` is what holds if all of them are passed. -/
def SettlesThen {α : Type} (points : List Settling) (Q : Outcome JsError α → World → Prop)
    (o : Outcome JsError α) (w : World) : Prop :=
  match Settling.first points with
  | .Passes => Q o w
  | .Throws next => (∃ e, o = .Thrown e) ∧ w.tick = next
  | .Hangs => o = .Halted

/-- The block ends as its points say.  If all of them are passed it returns, and `next` is the
number of the next call. -/
def Settles {α : Type} (points : List Settling) (next : ℕ) : Outcome JsError α → World → Prop :=
  SettlesThen points fun o w => (∃ a, o = .Returned a) ∧ w.tick = next

section Rules

variable {α β : Type} {env : Env} {n next : ℕ} {w : World}

lemma settlesThen_append (points points' : List Settling) {Q : Outcome JsError α → World → Prop}
    {o : Outcome JsError α} :
    SettlesThen (points ++ points') Q o w ↔ SettlesThen points (SettlesThen points' Q) o w := by
  simp only [SettlesThen, Settling.first_append]
  cases h : Settling.first points <;> simp

lemma SettlesThen.mono {points : List Settling} {Q Q' : Outcome JsError α → World → Prop}
    {o : Outcome JsError α} (h : SettlesThen points Q o w) (hQ : Q o w → Q' o w) :
    SettlesThen points Q' o w := by
  simp only [SettlesThen] at h ⊢
  split
  · rename_i hfirst
    rw [hfirst] at h
    exact hQ h
  · rename_i hfirst
    rwa [hfirst] at h
  · rename_i hfirst
    rwa [hfirst] at h

/-- A block that returns has passed all its points. -/
lemma Settles.of_returned {points : List Settling} {a : α}
    (h : Settles points next (.Returned a) w) :
    Settling.first points = .Passes ∧ w.tick = next := by
  simp only [Settles, SettlesThen] at h
  split at h
  · rename_i hfirst
    exact ⟨hfirst, h.2⟩
  · obtain ⟨⟨e, he⟩, -⟩ := h
    cases he
  · cases h

/-- A block that throws does so at its first point that is not passed. -/
lemma Settles.of_thrown {points : List Settling} {e : JsError}
    (h : Settles (α := α) points next (.Thrown e) w) :
    Settling.first points = .Throws w.tick := by
  simp only [Settles, SettlesThen] at h
  split at h
  · obtain ⟨⟨a, ha⟩, -⟩ := h
    cases ha
  · rename_i hfirst
    rw [hfirst, h.2]
  · cases h

/-- A block that hangs does so at its first point that is not passed. -/
lemma Settles.of_halted {points : List Settling}
    (h : Settles (α := α) points next .Halted w) : Settling.first points = .Hangs := by
  simp only [Settles, SettlesThen] at h
  split at h
  · obtain ⟨⟨a, ha⟩, -⟩ := h
    cases ha
  · obtain ⟨⟨e, he⟩, -⟩ := h
    cases he
  · assumption

/-- A block whose first point that is not passed throws does throw. -/
lemma Settles.exists_thrown {points : List Settling} {o : Outcome JsError α} {k : ℕ}
    (h : Settles points next o w) (hfirst : Settling.first points = .Throws k) :
    ∃ e, o = .Thrown e := by
  simp only [Settles, SettlesThen, hfirst] at h
  exact h.1

/-- **Sequencing.**  The second program runs only if all points of the first are passed. -/
lemma settles_seq {m : Handler α} {f : α → Handler β} {points : List Settling}
    {Q : Outcome JsError β → World → Prop} (hm : Eff.wp m (Settles points n) w)
    (hf : ∀ a w', m w = (.Returned a, w') → w'.tick = n → Eff.wp (f a) Q w') :
    Eff.wp (m >>= f) (SettlesThen points Q) w := by
  refine Eff.wp_seq (P := fun o w' => Settles points n o w' ∧ m w = (o, w')) ⟨hm, rfl⟩ ?_ ?_ ?_
  · rintro a w' ⟨h, heq⟩
    obtain ⟨hpasses, htick⟩ := h.of_returned
    refine Eff.wp_mono (hf a w' heq htick) fun o w'' hQ => ?_
    simp only [SettlesThen, hpasses]
    exact hQ
  · rintro e w' ⟨h, -⟩
    simp only [SettlesThen, h.of_thrown]
    exact ⟨⟨e, rfl⟩, trivial⟩
  · rintro w' ⟨h, -⟩
    simp only [SettlesThen, h.of_halted]

/-- **An awaited call** has a point before what the callee does and one after it. -/
lemma settles_await (points : List Settling) {c : Call} {effect : Handler α}
    (heffect : ∀ v, Eff.wp effect (Settles points next) (w.log c v)) :
    Eff.wp (await env c effect)
      (Settles (env.invoked w.tick c :: (points ++ [env.answered w.tick c next])) next) w := by
  refine wp_await ?_ ?_ ?_ ?_
  · intro hv
    have hinvoked : env.invoked w.tick c = .Passes := by simp [Env.invoked, hv]
    have hanswered : env.answered w.tick c next = .Passes := by simp [Env.answered, hv]
    refine Eff.wp_mono (heffect .Resolves) fun o w' h => ?_
    rw [hinvoked, hanswered]
    exact (settlesThen_append points [.Passes]).mpr h
  · intro hv
    have hinvoked : env.invoked w.tick c = .Throws (w.tick + 1) := by simp [Env.invoked, hv]
    rw [hinvoked]
    exact ⟨⟨_, rfl⟩, rfl⟩
  · intro hv
    have hinvoked : env.invoked w.tick c = .Passes := by simp [Env.invoked, hv]
    have hanswered : env.answered w.tick c next = .Throws next := by simp [Env.answered, hv]
    refine Eff.wp_mono (heffect .RejectsLate) fun o w' h => ?_
    rw [hinvoked, hanswered]
    -- the callee has done its part, and only its value is replaced by an exception
    cases o with
    | Returned a =>
        obtain ⟨hpasses, htick⟩ := h.of_returned
        simp only [Settles, SettlesThen, Settling.first, Settling.first_append, hpasses, if_true]
        exact ⟨⟨_, rfl⟩, htick⟩
    | Thrown e =>
        simp only [Settles, SettlesThen, Settling.first, Settling.first_append, h.of_thrown,
          reduceCtorEq, if_false]
        exact ⟨⟨e, rfl⟩, trivial⟩
    | Halted =>
        simp only [Settles, SettlesThen, Settling.first, Settling.first_append, h.of_halted,
          reduceCtorEq, if_false]
  · intro hv
    have hinvoked : env.invoked w.tick c = .Hangs := by simp [Env.invoked, hv]
    rw [hinvoked]
    rfl

/-- A query has no points of its own between the two. -/
lemma settles_query {c : Call} {read : Stores → α} :
    Eff.wp (query env c read)
      (Settles [env.invoked w.tick c, env.answered w.tick c (w.tick + 1)] (w.tick + 1)) w :=
  settles_await [] fun _ => ⟨⟨_, rfl⟩, rfl⟩

/-- An atomic call in a `try` block whose handler does nothing. -/
lemma settles_swallowed {c : Call} {operation : ℕ → Stores → Except JsError (Unit × Stores)} :
    Eff.wp (Eff.tryCatch (transact env c operation) fun _ => pure ())
      (Settles [env.swallowed w.tick c] (w.tick + 1)) w := by
  simp only [Eff.wp, Eff.tryCatch, transact, await, Env.swallowed]
  generalize env.verdict w.tick c = v
  cases v with
  | Resolves =>
      cases operation (w.log c .Resolves).tick (w.log c .Resolves).stores <;> exact ⟨⟨_, rfl⟩, rfl⟩
  | Rejects => exact ⟨⟨_, rfl⟩, rfl⟩
  | RejectsLate =>
      cases operation (w.log c .RejectsLate).tick (w.log c .RejectsLate).stores <;>
        exact ⟨⟨_, rfl⟩, rfl⟩
  | Hangs => rfl

end Rules

/-! ## The end of the `try` block -/

/-- Call `n` of the run. -/
def World.callAt (w : World) (n : ℕ) : Option TraceEntry := w.trace.reverse[n]?

/-- The event that call `n` sends, if it sends one. -/
def World.eventAt (w : World) (n : ℕ) : Option ChatStreamEvent :=
  (w.callAt n).bind fun entry =>
    match entry.call with
    | .Emit event => some event
    | _ => none

lemma World.callAt_log (w : World) (c : Call) (v : Verdict) :
    (w.log c v).callAt w.tick = some ⟨c, v, w.stores, w.locals⟩ := by
  simp [callAt, tick]

/-- A call is one of those made before, or one of the new ones. -/
lemma World.callAt_cases {w w' : World} {new : List TraceEntry} (h : w'.trace = new ++ w.trace)
    {n : ℕ} {entry : TraceEntry} (hentry : w'.callAt n = some entry) :
    w.callAt n = some entry ∨ w.tick ≤ n ∧ entry ∈ new := by
  simp only [callAt] at hentry ⊢
  rw [h, List.reverse_append] at hentry
  rcases Nat.lt_or_ge n w.trace.reverse.length with hlt | hge
  · exact .inl (by rwa [List.getElem?_append_left hlt] at hentry)
  · rw [List.getElem?_append_right hge] at hentry
    exact .inr ⟨by simpa [tick] using hge, List.mem_reverse.mp (List.mem_of_getElem? hentry)⟩

lemma World.callAt_lt {w : World} {n : ℕ} {entry : TraceEntry} (h : w.callAt n = some entry) :
    n < w.tick := by
  obtain ⟨hlt, -⟩ := List.getElem?_eq_some_iff.mp h
  simpa [tick] using hlt

lemma World.callAt_append {w w' : World} {new : List TraceEntry}
    (h : w'.trace = new ++ w.trace) {n : ℕ} {entry : TraceEntry}
    (hentry : w.callAt n = some entry) : w'.callAt n = some entry := by
  obtain ⟨hlt, -⟩ := List.getElem?_eq_some_iff.mp hentry
  simp only [callAt] at hentry ⊢
  rw [h, List.reverse_append, List.getElem?_append_left hlt]
  exact hentry

lemma World.eventAt_append {w w' : World} {new : List TraceEntry}
    (h : w'.trace = new ++ w.trace) {n : ℕ} {event : ChatStreamEvent}
    (hevent : w.eventAt n = some event) : w'.eventAt n = some event := by
  obtain ⟨entry, hentry, hevent⟩ := Option.bind_eq_some_iff.mp hevent
  exact Option.bind_eq_some_iff.mpr ⟨entry, callAt_append h hentry, hevent⟩

section Block

variable {env : Env} {w : World}

def MessagesSame (w w' : World) : Prop := w'.stores.messages = w.stores.messages

instance : IsPreorder World MessagesSame where
  refl _ := rfl
  trans _ _ _ h h' := h'.trans h

lemma messagesSame_frame : SilentFrame MessagesSame where
  refl := Std.Refl.refl
  trans := IsTrans.trans
  logged _ _ _ _ := rfl
  stores _ _ h := h.messages

lemma recordUsage_points (principal : RequestPrincipal) (chatId modelId : Uuid) (kind : UsageKind)
    (inputTokens outputTokens : Option ℤ) :
    Eff.wp (recordUsage env principal chatId modelId kind inputTokens outputTokens)
      (Settles (env.recordPoints w.tick) (w.tick + 2)) w :=
  settles_await [_] fun v => settles_swallowed (w := w.log _ v)

/-- The reload settles as its points say, and returns what the rows convert to. -/
lemma loadFromDatabase_points (chatId : Uuid) :
    Eff.wp (loadFromDatabase env chatId)
      (fun o w' => Settles (env.reloadPoints w.tick chatId (w.stores.history chatId)) (w.tick + 1) o w'
        ∧ ∀ history, o = .Returned history → w.stores.history chatId = .ok history) w := by
  refine Eff.wp_and (Eff.wp_mono (settles_seq settles_query (Q := Settles [_] _) ?_) fun o w' =>
    (settlesThen_append _ _).mpr) ?_
  · intro messages w' hquery htick
    obtain ⟨rfl, -⟩ := query_eq_returned hquery
    simp only [Stores.history]
    cases toHistoryEntries (w.stores.messagesForHistory chatId) with
    | ok history => exact ⟨⟨_, rfl⟩, htick⟩
    | error e => exact ⟨⟨_, rfl⟩, htick⟩
  · refine Eff.wp_seq (P := fun o _ => ∀ messages, o = .Returned messages →
      messages = w.stores.messagesForHistory chatId) ?_ ?_ (by simp) (by simp)
    · refine wp_query ?_ (by simp) (by simp)
      rintro - messages ⟨⟩
      rfl
    · intro messages w' hmessages
      rw [hmessages messages rfl, Stores.history]
      cases toHistoryEntries (w.stores.messagesForHistory chatId) with
      | ok history =>
          rintro _ ⟨⟩
          rfl
      | error e => rintro _ ⟨⟩

lemma refresh_points (chatId : Uuid) :
    Eff.wp (await env (.Service .RefreshHistory) (refresh env chatId))
      (Settles (env.refreshPoints w.tick chatId (w.stores.history chatId)) (w.tick + 3)) w := by
  refine settles_await _ fun v => ?_
  have hload : Eff.wp (loadFromDatabase env chatId) _ (w.log (.Service .RefreshHistory) v) :=
    loadFromDatabase_points chatId
  refine Eff.wp_mono (settles_seq hload.1 fun history w' h htick => ?_) fun o w' =>
    (settlesThen_append _ _).mpr
  have hhistory : w.stores.history chatId = .ok history := by
    have hreturned := hload.2
    rw [h] at hreturned
    exact hreturned history rfl
  have hwrite : Eff.wp (writeCache env chatId history)
      (Settles [env.swallowed w'.tick (.RedisSet (.Chat chatId) (.Json history))] (w'.tick + 1)) w' :=
    settles_swallowed
  rw [htick] at hwrite
  rw [hhistory]
  exact hwrite

/-- An event is sent under its number, whatever becomes of it. -/
lemma emit_points (event : ChatStreamEvent) :
    Eff.wp (emit env event)
      (fun o w' => Settles (env.eventPoints w.tick event) (w.tick + 1) o w'
        ∧ w'.eventAt w.tick = some event) w := by
  refine Eff.wp_and settles_query ?_
  have hlogged : ∀ v, (w.log (.Emit event) v).eventAt w.tick = some event := fun v => by
    simp [World.eventAt, World.callAt_log]
  exact wp_query (fun _ => hlogged _) (fun _ v _ _ => hlogged v) fun _ => hlogged _

/-- **The end of the `try` block** settles as its points say, call `n` being the commit: either one
of the points before the last event is not passed, or that event is sent as call `n + 7`. -/
theorem afterCommit_settles {n : ℕ} (hn : w.tick = n + 1) (params : StreamChatParams)
    (model : Model) (finalChunk : OllamaChatChunk) (completed : Message)
    (context : ChatStreamEvent) :
    Eff.wp (do
      recordUsage env params.principal params.chatId model.id .Chat finalChunk.promptTokens
        finalChunk.completionTokens
      RagStack.await env (.Service .RefreshHistory) (refresh env params.chatId)
      emit env (.MessageCompleted (toChatMessage completed))
      emit env context)
      (SettlesThen (env.recordPoints (n + 1)
          ++ (env.refreshPoints (n + 3) params.chatId (w.stores.history params.chatId)
            ++ env.eventPoints (n + 6) (.MessageCompleted (toChatMessage completed))))
        fun o w' => Settles (env.eventPoints (n + 7) context) (n + 8) o w'
          ∧ w'.eventAt (n + 7) = some context) w := by
  have hrecord : Eff.wp (recordUsage env params.principal params.chatId model.id .Chat
      finalChunk.promptTokens finalChunk.completionTokens) _ w := recordUsage_points _ _ _ _ _ _
  rw [hn] at hrecord
  refine Eff.wp_mono (settles_seq hrecord fun _ w₁ h₁ htick₁ => ?_) fun o w' =>
    (settlesThen_append _ _).mpr
  -- the usage record leaves the rows alone, so the reload finds those of the commit
  have hhistory : w₁.stores.history params.chatId = w.stores.history params.chatId := by
    have hkept : MessagesSame w w₁ := by
      have hkeeps : Eff.Keeps MessagesSame (recordUsage env _ _ _ _ _ _) :=
        messagesSame_frame.recordUsage params.principal params.chatId model.id .Chat
          finalChunk.promptTokens finalChunk.completionTokens
      simpa only [h₁] using hkeeps w
    simp only [Stores.history, Stores.messagesForHistory]
    rw [hkept]
  have hrefresh : Eff.wp (RagStack.await env (.Service .RefreshHistory)
      (refresh env params.chatId)) _ w₁ := refresh_points params.chatId
  rw [htick₁, hhistory] at hrefresh
  refine Eff.wp_mono (settles_seq hrefresh fun _ w₂ _ htick₂ => ?_) fun o w' =>
    (settlesThen_append _ _).mpr
  have hcompleted : Eff.wp (emit env (.MessageCompleted (toChatMessage completed))) _ w₂ :=
    emit_points _
  rw [htick₂] at hcompleted
  refine settles_seq hcompleted.1 fun _ w₃ _ htick₃ => ?_
  have hcontext : Eff.wp (emit env context) _ w₃ := emit_points context
  rw [htick₃] at hcontext
  exact hcontext

end Block

/-! ## The commit of a run -/

section Commit

variable (env : Env) (chatId id : Uuid) (n : ℕ)

/-- What `completeGeneration`, made as call `n` in the state of the entry, answers and stores. -/
def TraceEntry.commit (entry : TraceEntry) : Except JsError (Message × Stores) :=
  entry.before.completeGeneration id entry.locals.assistantContent
    (entry.locals.finalChunk.bind (·.promptTokens))
    (entry.locals.finalChunk.bind (·.completionTokens))
    (entry.locals.finalChunk.bind (·.finishReason)) (env.now (n + 1))

/-- Call `n` of the run is `completeGeneration` of the reply `id`, and `points` are those after it.
What the steps after the commit are asked follows from the state in which call `n` was made; only
the contents of the last event are taken from the run. -/
def World.HasCommit (w : World) (points : List Settling) : Prop :=
  ∃ entry completed s', w.callAt n = some entry ∧ entry.call = .CompleteGeneration id
    ∧ entry.commit env id n = .ok (completed, s')
    ∧ points = env.afterCommit n chatId id completed (s'.history chatId) (w.eventAt (n + 7))

/-- The same while the run goes on: the last event is `context`, sent or not. -/
def World.CommitAt (w : World) (points : List Settling) : Prop :=
  ∃ entry completed s' context, w.callAt n = some entry ∧ entry.call = .CompleteGeneration id
    ∧ entry.commit env id n = .ok (completed, s')
    ∧ points = env.afterCommit n chatId id completed (s'.history chatId) (some context)
    ∧ (Settling.first (env.beforeContext n chatId id completed (s'.history chatId)) = .Passes →
        w.eventAt (n + 7) = some context)

variable {env chatId id n}

lemma World.CommitAt.append {w w' : World} {new : List TraceEntry} {points : List Settling}
    (h : w'.trace = new ++ w.trace) (hcommit : w.CommitAt env chatId id n points) :
    w'.CommitAt env chatId id n points := by
  obtain ⟨entry, completed, s', context, hentry, hcall, hstored, hpoints, hsent⟩ := hcommit
  exact ⟨entry, completed, s', context, callAt_append h hentry, hcall, hstored, hpoints,
    fun hpasses => eventAt_append h (hsent hpasses)⟩

/-- A run that does not get to the last event is not changed by what that event is. -/
lemma World.CommitAt.first_eq {w : World} {points points' : List Settling}
    (h : w.CommitAt env chatId id n points) (h' : w.HasCommit env chatId id n points') :
    Settling.first points' = Settling.first points := by
  obtain ⟨entry, completed, s', context, hentry, -, hstored, rfl, hsent⟩ := h
  obtain ⟨entry', completed', s'', hentry', -, hstored', rfl⟩ := h'
  obtain rfl : entry = entry' := Option.some.inj (hentry.symm.trans hentry')
  cases hstored.symm.trans hstored'
  simp only [Env.afterCommit, Settling.first_append]
  split_ifs with hpasses
  · rw [hsent hpasses]
  · rfl

lemma World.CommitAt.exists_hasCommit {w : World} {points : List Settling}
    (h : w.CommitAt env chatId id n points) :
    ∃ points', w.HasCommit env chatId id n points'
      ∧ Settling.first points' = Settling.first points := by
  have ⟨entry, completed, s', _, hentry, hcall, hstored, _, _⟩ := h
  have hcommit : w.HasCommit env chatId id n
      (env.afterCommit n chatId id completed (s'.history chatId) (w.eventAt (n + 7))) :=
    ⟨entry, completed, s', hentry, hcall, hstored, rfl⟩
  exact ⟨_, hcommit, h.first_eq hcommit⟩

end Commit

end RagStack
