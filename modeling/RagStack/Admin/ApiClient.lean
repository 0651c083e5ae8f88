import RagStack.Core.Runs
import Mathlib.Data.List.Basic

/-!
# `api-client/src/admin.ts`: one refresh for many calls

`authed` sends a call, and if the answer is a 401 it awaits a refresh and sends the call again.  The
calls of a client share the promise of the refresh, which the first of them starts and which clears
itself when it is settled.  Any number of calls are under way, and all answers come in any order.

An admin refresh token can be used once.  If two calls that have found their access token expired
both refreshed, the second refresh would be refused and its call would fail, although the first has
just obtained new tokens.  The variable `refreshing` is there to prevent that.  Its lifetime is the
delicate part: it is set by the first call that needs a refresh, and cleared by a callback of
`finally` when the refresh is settled, while the calls that wait for it go on some time later.  A
call which comes in between sees no refresh and may start another.

So the question is what a call can rely on.  It is sent at most twice, and the second time only
after its own 401 and after a refresh that has finished without an error later than that.  No two
refreshes are in flight at the same time.  A refresh that fails frees the variable like any other,
so the next 401 starts a new one, and no call ever awaits a refresh that is over.

The client is a state machine whose steps are the answers and the callbacks, in any order that
promises allow.  What is said about it is said in terms of its events.

* `clientStep` — one step of the client; a run is any interleaving of steps.
* `CallHistory` — what has happened to a call, by how far it is.
* `authed_shares_refresh` — what holds in every state a client can reach.
-/

namespace RagStack

/-! ## The client

A refresh of the client is two requests, one for the CSRF token and one that refreshes. -/

/-- What a promise is rejected with: an `ApiClientError` or anything else. -/
inductive HttpError where
  | ApiClientError (status : ℕ) (code message : String)
  | Other (message : String)
  deriving Repr, DecidableEq

/-- How the promise of a call settles. -/
inductive HttpOutcome (T : Type) where
  | Resolved (value : T)
  | Rejected (error : HttpError)
  deriving Repr, DecidableEq

/-- `error instanceof ApiClientError && error.status === 401`. -/
def HttpError.isUnauthorized : HttpError → Bool
  | ApiClientError status _ _ => status = 401
  | Other _ => false

/-- The answer that makes `authed` refresh. -/
def HttpOutcome.isUnauthorized {T : Type} : HttpOutcome T → Bool
  | Resolved _ => false
  | Rejected error => error.isUnauthorized

/-- How far a call of `authed` is.  Refreshes are numbered in the order of their beginning. -/
inductive AuthedPhase (T : Type) where
  /-- `return await call()`. -/
  | Calling
  /-- `await refreshing`. -/
  | Waiting (refresh : ℕ)
  /-- `return call()`. -/
  | CallingAgain
  | Settled (outcome : HttpOutcome T)
  deriving Repr, DecidableEq

/-- How far a refresh is, with the error it is rejected with. -/
inductive RefreshProgress where
  /-- The CSRF token is being fetched. -/
  | Csrf
  /-- `POST /admin/auth/refresh` is on its way. -/
  | Posting
  /-- The promise of `http.mutation` is settled. -/
  | Answered (error : Option HttpError)
  /-- The callback of `finally` has run. -/
  | Finished (error : Option HttpError)
  deriving Repr, DecidableEq

/-- A request of the refresh is on its way. -/
def RefreshProgress.inFlight : RefreshProgress → Bool
  | Csrf | Posting => true
  | Answered _ | Finished _ => false

def RefreshProgress.finished : RefreshProgress → Bool
  | Finished _ => true
  | Csrf | Posting | Answered _ => false

/-- What can be observed of a client. -/
inductive ClientEvent (T : Type) where
  | Sent (caller : ℕ)
  | Answered (caller : ℕ) (outcome : HttpOutcome T)
  | RefreshStarted (refresh : ℕ)
  | RefreshFinished (refresh : ℕ) (error : Option HttpError)
  deriving Repr, DecidableEq

def ClientEvent.isSendOf {T : Type} (caller : ℕ) : ClientEvent T → Bool
  | Sent sender => sender = caller
  | Answered _ _ | RefreshStarted _ | RefreshFinished _ _ => false

/-- All calls and refreshes, the variable `refreshing`, and what has happened so far. -/
structure AdminClient (T : Type) where
  callers : List (AuthedPhase T)
  refreshes : List RefreshProgress
  refreshing : Option ℕ
  events : List (ClientEvent T)
  deriving Repr, DecidableEq

/-- A step: somebody calls, an answer has arrived, or something that waits goes on. -/
inductive ClientAction (T : Type) where
  | Call
  | Answer (caller : ℕ) (outcome : HttpOutcome T)
  | CsrfAnswer (refresh : ℕ) (error : Option HttpError)
  | RefreshAnswer (refresh : ℕ) (error : Option HttpError)
  | Finally (refresh : ℕ)
  | Resume (caller : ℕ)
  deriving Repr, DecidableEq

namespace AdminClient

variable {T : Type}

/-- A client that was just created. -/
def initial : AdminClient T := ⟨[], [], none, []⟩

def record (s : AdminClient T) (event : ClientEvent T) : AdminClient T :=
  { s with events := s.events ++ [event] }

def setPhase (s : AdminClient T) (caller : ℕ) (phase : AuthedPhase T) : AdminClient T :=
  { s with callers := s.callers.set caller phase }

/-- `http.mutation<AdminAuthResponse>('/admin/auth/refresh', ...)`, the value of `refreshing`. -/
def startRefresh (s : AdminClient T) : AdminClient T :=
  { s with
    refreshes := s.refreshes ++ [.Csrf]
    refreshing := some s.refreshes.length
    events := s.events ++ [.RefreshStarted s.refreshes.length] }

/-- `refreshing ??= ...; await refreshing`. -/
def joinRefresh (s : AdminClient T) (caller : ℕ) : AdminClient T :=
  match s.refreshing with
  | some refresh => s.setPhase caller (.Waiting refresh)
  | none => s.startRefresh.setPhase caller (.Waiting s.refreshes.length)

/-- The answer to a call: the `try` block, the `catch` block, or the second attempt. -/
def answer (s : AdminClient T) (caller : ℕ) (outcome : HttpOutcome T) : Option (AdminClient T) :=
  let answered := s.record (.Answered caller outcome)
  match s.callers[caller]? with
  | some .Calling =>
      if outcome.isUnauthorized then some (answered.joinRefresh caller)
      else some (answered.setPhase caller (.Settled outcome))
  | some .CallingAgain => some (answered.setPhase caller (.Settled outcome))
  | _ => none

/-- The answer to one of the two requests of `http.mutation`. -/
def refreshAnswer (s : AdminClient T) (refresh : ℕ) (sent next : RefreshProgress)
    (error : Option HttpError) : Option (AdminClient T) :=
  if s.refreshes[refresh]? = some sent then
    let progress := match error with
      | none => next
      | some _ => .Answered error
    some { s with refreshes := s.refreshes.set refresh progress }
  else none

/-- The callback of `finally`, which sets `refreshing` to `null`. -/
def runFinally (s : AdminClient T) (refresh : ℕ) : Option (AdminClient T) :=
  match s.refreshes[refresh]? with
  | some (.Answered error) =>
      some
        { s with
          refreshes := s.refreshes.set refresh (.Finished error)
          refreshing := none
          events := s.events ++ [.RefreshFinished refresh error] }
  | _ => none

/-- What follows `await refreshing`: the second attempt, or the error of the refresh. -/
def resume (s : AdminClient T) (caller : ℕ) : Option (AdminClient T) :=
  match s.callers[caller]? with
  | some (.Waiting refresh) =>
      match s.refreshes[refresh]? with
      | some (.Finished none) => some ((s.setPhase caller .CallingAgain).record (.Sent caller))
      | some (.Finished (some error)) => some (s.setPhase caller (.Settled (.Rejected error)))
      | _ => none
  | _ => none

end AdminClient

/-- One step of the client, if it is possible: an answer needs a request that is under way, and what
waits goes on only when the promise it waits for is settled. -/
def clientStep {T : Type} (s : AdminClient T) : ClientAction T → Option (AdminClient T)
  | .Call =>
      some
        { s with
          callers := s.callers ++ [.Calling]
          events := s.events ++ [.Sent s.callers.length] }
  | .Answer caller outcome => s.answer caller outcome
  | .CsrfAnswer refresh error => s.refreshAnswer refresh .Csrf .Posting error
  | .RefreshAnswer refresh error => s.refreshAnswer refresh .Posting (.Answered none) error
  | .Finally refresh => s.runFinally refresh
  | .Resume caller => s.resume caller

/-! ## What has happened to a call

The events of a call are in order, and for each of its phases it is known which there are. -/

namespace AdminClient

variable {T : Type} {s s' : AdminClient T} {caller : ℕ} {phase : AuthedPhase T}

/-- How often a call has been sent. -/
def sends (s : AdminClient T) (caller : ℕ) : ℕ := s.events.countP (·.isSendOf caller)

lemma sends_record (event : ClientEvent T) :
    (s.record event).sends caller = s.sends caller + if event.isSendOf caller then 1 else 0 := by
  rw [sends, sends, record, List.countP_append, List.countP_singleton]

/-- The call was sent, was answered with a 401, then a refresh finished without an error, and after
that the call was sent again. -/
def Resent (s : AdminClient T) (caller : ℕ) : Prop :=
  ∃ error refresh, error.isUnauthorized = true
    ∧ [.Sent caller, .Answered caller (.Rejected error), .RefreshFinished refresh none,
        .Sent caller].Sublist s.events

/-- **The invariant of a call.**  A call that waits was answered with a 401, and the refresh it
waits for finishes after that. -/
def CallHistory (s : AdminClient T) (caller : ℕ) : AuthedPhase T → Prop
  | .Calling => s.sends caller = 1
  | .Waiting refresh => s.sends caller = 1 ∧ refresh < s.refreshes.length
      ∧ ∃ error, error.isUnauthorized = true
        ∧ [.Sent caller, .Answered caller (.Rejected error)].Sublist s.events
        ∧ ∀ failure, s.refreshes[refresh]? = some (.Finished failure) →
            [.Sent caller, .Answered caller (.Rejected error),
              .RefreshFinished refresh failure].Sublist s.events
  | .CallingAgain | .Settled _ =>
      s.sends caller ≤ 2 ∧ (s.sends caller = 2 → s.Resent caller)

/-- **The invariant of a client.**  The shared promise is that of the one refresh that has not
finished. -/
structure Inv (s : AdminClient T) : Prop where
  refreshing : ∀ refresh, s.refreshing = some refresh
    ↔ ∃ progress, s.refreshes[refresh]? = some progress ∧ progress.finished = false
  calls : ∀ caller phase, s.callers[caller]? = some phase → s.CallHistory caller phase
  unsent : ∀ caller, s.callers.length ≤ caller → s.sends caller = 0

lemma inv_initial : Inv (T := T) initial := by
  refine ⟨fun refresh => ?_, fun caller phase h => ?_, fun caller _ => rfl⟩
  · simp [initial]
  · simp [initial] at h

/-- What goes on elsewhere: the events of others, and refreshes that finish. -/
lemma CallHistory.mono {more : List (ClientEvent T)} (h : s.CallHistory caller phase)
    (hevents : s'.events = s.events ++ more)
    (hmore : ∀ event ∈ more, event.isSendOf caller = false)
    (hlength : s.refreshes.length ≤ s'.refreshes.length)
    (hfinished : ∀ refresh < s.refreshes.length, ∀ failure,
      s'.refreshes[refresh]? = some (.Finished failure) →
        s.refreshes[refresh]? = some (.Finished failure)
          ∨ .RefreshFinished refresh failure ∈ more) :
    s'.CallHistory caller phase := by
  have hsends : s'.sends caller = s.sends caller := by
    have hnone : more.countP (·.isSendOf caller) = 0 :=
      List.countP_eq_zero.mpr (by simpa using hmore)
    rw [sends, sends, hevents, List.countP_append, hnone, Nat.add_zero]
  have hlater : ∀ {events : List (ClientEvent T)}, events.Sublist s.events →
      events.Sublist s'.events := fun hsub => hevents ▸ hsub.trans (List.sublist_append_left _ _)
  have hresent : s.Resent caller → s'.Resent caller := by
    rintro ⟨error, refresh, herror, hsub⟩
    exact ⟨error, refresh, herror, hlater hsub⟩
  cases phase with
  | Calling => exact hsends.trans h
  | Waiting refresh =>
      obtain ⟨hone, hlt, error, herror, hsub, hend⟩ := h
      refine ⟨hsends.trans hone, Nat.lt_of_lt_of_le hlt hlength, error, herror, hlater hsub,
        fun failure hfailure => ?_⟩
      rcases hfinished refresh hlt failure hfailure with hbefore | hnow
      · exact hlater (hend failure hbefore)
      · rw [hevents]
        exact hsub.append (List.singleton_sublist.mpr hnow)
  | CallingAgain => exact ⟨hsends ▸ h.1, fun htwo => hresent (h.2 (hsends ▸ htwo))⟩
  | Settled outcome => exact ⟨hsends ▸ h.1, fun htwo => hresent (h.2 (hsends ▸ htwo))⟩

/-! ## One step

A step moves one call or the refresh, and appends an event that fits. -/

lemma mem_events_of_sends_pos (h : 0 < s.sends caller) : .Sent caller ∈ s.events := by
  obtain ⟨event, hevent, hsend⟩ := List.countP_pos_iff.mp h
  cases event with
  | Sent sender =>
      obtain rfl : sender = caller := of_decide_eq_true hsend
      exact hevent
  | Answered _ _ | RefreshStarted _ | RefreshFinished _ _ => cases hsend

lemma Inv.setPhase (h : s.Inv) (hnew : s.CallHistory caller phase) :
    (s.setPhase caller phase).Inv := by
  refine ⟨h.refreshing, fun other otherPhase hother => ?_, fun other hother => ?_⟩
  · simp only [AdminClient.setPhase, List.getElem?_set] at hother
    split at hother
    · rename_i heq
      subst heq
      split at hother
      · cases hother
        exact hnew
      · cases hother
    · exact h.calls other otherPhase hother
  · exact h.unsent other (by simpa [AdminClient.setPhase] using hother)

/-- An event that is not a call. -/
lemma Inv.record (h : s.Inv) {event : ClientEvent T}
    (hevent : ∀ caller, event.isSendOf caller = false) : (s.record event).Inv := by
  refine ⟨h.refreshing, fun other otherPhase hother => ?_, fun other hother => ?_⟩
  · exact (h.calls other otherPhase hother).mono rfl (by simpa using hevent other) Nat.le.refl
      fun _ _ _ h => .inl h
  · have hunsent := h.unsent other hother
    rw [sends_record, hunsent, hevent other]
    rfl

lemma Inv.startRefresh (h : s.Inv) (hnone : s.refreshing = none) : s.startRefresh.Inv := by
  have hfinished : ∀ (refresh : ℕ) (progress : RefreshProgress),
      s.refreshes[refresh]? = some progress → progress.finished = true := by
    intro refresh progress hprogress
    by_contra hunfinished
    have hsome := (h.refreshing refresh).mpr ⟨progress, hprogress, by simpa using hunfinished⟩
    rw [hnone] at hsome
    cases hsome
  refine ⟨fun refresh => ?_, fun other otherPhase hother => ?_, fun other hother => ?_⟩
  · simp only [AdminClient.startRefresh, Option.some.injEq]
    constructor
    · rintro rfl
      exact ⟨.Csrf, by simp, rfl⟩
    · rintro ⟨progress, hprogress, hunfinished⟩
      rw [List.getElem?_append] at hprogress
      split at hprogress
      · rw [hfinished refresh progress hprogress] at hunfinished
        cases hunfinished
      · rename_i hge
        obtain ⟨hlt, -⟩ := List.getElem?_eq_some_iff.mp hprogress
        simp only [List.length_singleton] at hlt
        omega
  · refine (h.calls other otherPhase hother).mono rfl (by simp [ClientEvent.isSendOf]) (by
      simp [AdminClient.startRefresh]) fun refresh hlt failure hfailure => .inl ?_
    simpa [AdminClient.startRefresh, List.getElem?_append_left hlt] using hfailure
  · have hunsent := h.unsent other hother
    simpa [sends, AdminClient.startRefresh, ClientEvent.isSendOf] using hunsent

/-- A request of the refresh is answered, and the refresh goes on. -/
lemma Inv.refreshAnswer {refresh : ℕ} {sent next : RefreshProgress} {error : Option HttpError}
    (h : s.Inv) (hsent : sent.finished = false) (hnext : next.finished = false)
    (hs' : s.refreshAnswer refresh sent next error = some s') : s'.Inv := by
  simp only [AdminClient.refreshAnswer] at hs'
  split at hs'
  · rename_i hrefresh
    obtain ⟨progress, hprogress, rfl⟩ : ∃ progress : RefreshProgress, progress.finished = false
        ∧ { s with refreshes := s.refreshes.set refresh progress } = s' := by
      cases error with
      | none => exact ⟨next, hnext, Option.some.inj hs'⟩
      | some error => exact ⟨.Answered (some error), rfl, Option.some.inj hs'⟩
    have hlt := (List.getElem?_eq_some_iff.mp hrefresh).1
    refine ⟨fun other => ?_, fun other otherPhase hother => ?_, h.unsent⟩
    · rw [h.refreshing other]
      by_cases heq : refresh = other
      · subst heq
        rw [List.getElem?_set_self hlt, hrefresh]
        exact iff_of_true ⟨sent, rfl, hsent⟩ ⟨progress, rfl, hprogress⟩
      · rw [List.getElem?_set_ne heq]
    · refine (h.calls other otherPhase hother).mono (List.append_nil _).symm (by simp) (by simp)
        fun other _ failure hfailure => .inl ?_
      by_cases heq : refresh = other
      · subst heq
        rw [List.getElem?_set_self hlt] at hfailure
        cases hfailure
        cases hprogress
      · rwa [List.getElem?_set_ne heq] at hfailure
  · cases hs'

/-- The shared promise is settled, and `refreshing` is free. -/
lemma Inv.runFinally {refresh : ℕ} (h : s.Inv) (hs' : s.runFinally refresh = some s') : s'.Inv := by
  simp only [AdminClient.runFinally] at hs'
  split at hs'
  · rename_i error hrefresh
    cases hs'
    have hshared := (h.refreshing refresh).mpr ⟨_, hrefresh, rfl⟩
    have hlt := (List.getElem?_eq_some_iff.mp hrefresh).1
    refine ⟨fun other => ?_, fun other otherPhase hother => ?_, fun other hother => ?_⟩
    · simp only [reduceCtorEq, false_iff]
      rintro ⟨progress, hprogress, hunfinished⟩
      by_cases heq : refresh = other
      · subst heq
        rw [List.getElem?_set_self hlt] at hprogress
        cases hprogress
        cases hunfinished
      · rw [List.getElem?_set_ne heq] at hprogress
        have hother := (h.refreshing other).mpr ⟨progress, hprogress, hunfinished⟩
        rw [hshared] at hother
        exact heq (Option.some.inj hother)
    · refine (h.calls other otherPhase hother).mono rfl (by simp [ClientEvent.isSendOf]) (by simp)
        fun other _ failure hfailure => ?_
      by_cases heq : refresh = other
      · subst heq
        rw [List.getElem?_set_self hlt] at hfailure
        cases hfailure
        exact .inr (List.mem_singleton.mpr rfl)
      · rw [List.getElem?_set_ne heq] at hfailure
        exact .inl hfailure
    · have hunsent := h.unsent other hother
      simpa [sends, ClientEvent.isSendOf] using hunsent
  · cases hs'

/-- A call is answered.  If it has to wait, it waits for the refresh that has not finished. -/
lemma Inv.answer {outcome : HttpOutcome T} (h : s.Inv)
    (hs' : s.answer caller outcome = some s') : s'.Inv := by
  have hrecorded : (s.record (.Answered caller outcome)).Inv := h.record fun _ => rfl
  have hsends : (s.record (.Answered caller outcome)).sends caller = s.sends caller := by
    simp [sends, AdminClient.record, ClientEvent.isSendOf]
  simp only [AdminClient.answer] at hs'
  split at hs'
  · rename_i hcalling
    have hone : s.sends caller = 1 := h.calls caller _ hcalling
    split at hs'
    · rename_i hunauthorized
      cases hs'
      obtain ⟨error, rfl, herror⟩ : ∃ error, outcome = .Rejected error
          ∧ error.isUnauthorized = true := by
        cases outcome with
        | Resolved _ => cases hunauthorized
        | Rejected error => exact ⟨error, rfl, hunauthorized⟩
      have hanswered : [.Sent caller, .Answered caller (.Rejected error)].Sublist
          (s.record (.Answered caller (.Rejected error))).events := by
        exact (List.singleton_sublist.mpr (mem_events_of_sends_pos (by omega))).append
          (List.Sublist.refl _)
      simp only [AdminClient.joinRefresh]
      split
      · rename_i refresh hrefreshing
        obtain ⟨progress, hprogress, hunfinished⟩ := (hrecorded.refreshing refresh).mp hrefreshing
        refine hrecorded.setPhase ⟨by omega, (List.getElem?_eq_some_iff.mp hprogress).1, error,
          herror, hanswered, fun failure hfailure => ?_⟩
        rw [hprogress] at hfailure
        cases hfailure
        cases hunfinished
      · rename_i hnone
        refine (hrecorded.startRefresh hnone).setPhase ⟨?_, by simp [AdminClient.startRefresh], error,
          herror, hanswered.trans (List.sublist_append_left _ _), fun failure hfailure => ?_⟩
        · simpa [sends, AdminClient.record, AdminClient.startRefresh, ClientEvent.isSendOf] using hone
        · simp [AdminClient.startRefresh] at hfailure
    · cases hs'
      exact hrecorded.setPhase ⟨by omega, by omega⟩
  · rename_i hcalling
    cases hs'
    have hagain : (s.record (.Answered caller outcome)).CallHistory caller .CallingAgain :=
      hrecorded.calls caller _ hcalling
    exact hrecorded.setPhase hagain
  · cases hs'

/-- A call that has waited goes on. -/
lemma Inv.resume (h : s.Inv) (hs' : s.resume caller = some s') : s'.Inv := by
  simp only [AdminClient.resume] at hs'
  split at hs'
  · rename_i refresh hwaiting
    obtain ⟨hone, -, error, herror, -, hend⟩ := h.calls caller _ hwaiting
    split at hs'
    · rename_i hfinished
      cases hs'
      have hphase : (s.setPhase caller .CallingAgain).Inv := h.setPhase ⟨by omega, by omega⟩
      refine ⟨hphase.refreshing, fun other otherPhase hother => ?_, fun other hother => ?_⟩
      · by_cases heq : caller = other
        · subst heq
          obtain ⟨hlt, -⟩ := List.getElem?_eq_some_iff.mp hwaiting
          simp only [AdminClient.record, AdminClient.setPhase, List.getElem?_set_self hlt] at hother
          cases hother
          have htwo : (s.record (.Sent caller)).sends caller = 2 := by
            rw [sends_record, hone]
            simp [ClientEvent.isSendOf]
          exact ⟨Nat.le_of_eq htwo, fun _ => ⟨error, refresh, herror, (hend none hfinished).append
            (List.Sublist.refl _)⟩⟩
        · refine (hphase.calls other otherPhase hother).mono rfl ?_ Nat.le.refl
            fun _ _ _ hfailure => .inl hfailure
          simpa [ClientEvent.isSendOf] using heq
      · have hunsent := hphase.unsent other hother
        have hne : caller ≠ other := by
          obtain ⟨hlt, -⟩ := List.getElem?_eq_some_iff.mp hwaiting
          simp only [AdminClient.record, AdminClient.setPhase, List.length_set] at hother
          omega
        rw [sends_record, hunsent]
        simp [ClientEvent.isSendOf, hne]
    · cases hs'
      exact h.setPhase ⟨by omega, by omega⟩
    · cases hs'
  · cases hs'

lemma Inv.call (h : s.Inv) (hs' : clientStep s .Call = some s') : s'.Inv := by
  obtain rfl := Option.some.inj hs'
  have hsends : ∀ other, AdminClient.sends { s with
      callers := s.callers ++ [.Calling], events := s.events ++ [.Sent s.callers.length] } other
      = s.sends other + if s.callers.length = other then 1 else 0 := by
    intro other
    simp [sends, ClientEvent.isSendOf, List.countP_append, List.countP_singleton]
  refine ⟨h.refreshing, fun other otherPhase hother => ?_, fun other hother => ?_⟩
  · rw [List.getElem?_append] at hother
    split at hother
    · rename_i hlt
      refine (h.calls other otherPhase hother).mono rfl ?_ Nat.le.refl fun _ _ _ h => .inl h
      have hne : s.callers.length ≠ other := by omega
      simpa [ClientEvent.isSendOf] using hne
    · obtain ⟨hlt, hphase⟩ := List.getElem?_eq_some_iff.mp hother
      simp only [List.length_singleton] at hlt
      obtain rfl : s.callers.length = other := by omega
      obtain rfl : .Calling = otherPhase := by simpa using hphase
      rw [CallHistory, hsends, h.unsent _ Nat.le.refl]
      simp
  · simp only [List.length_append, List.length_singleton] at hother
    rw [hsends, h.unsent other (by omega), if_neg (by omega)]

/-- **Every step keeps the invariant.** -/
lemma Inv.step {action : ClientAction T} (h : s.Inv) (hs' : clientStep s action = some s') :
    s'.Inv := by
  cases action with
  | Call => exact h.call hs'
  | Answer caller outcome => exact h.answer hs'
  | CsrfAnswer refresh error => exact h.refreshAnswer rfl rfl hs'
  | RefreshAnswer refresh error => exact h.refreshAnswer rfl rfl hs'
  | Finally refresh => exact h.runFinally hs'
  | Resume caller => exact h.resume hs'

/-! ## What follows

From the invariant of a state to what can be said of every run. -/

/-- **One refresh at a time.** -/
lemma Inv.inFlight_unique (h : s.Inv) {refresh refresh' : ℕ} {progress progress' : RefreshProgress}
    (hrefresh : s.refreshes[refresh]? = some progress) (hflight : progress.inFlight = true)
    (hrefresh' : s.refreshes[refresh']? = some progress') (hflight' : progress'.inFlight = true) :
    refresh = refresh' := by
  have hunfinished : ∀ {progress : RefreshProgress}, progress.inFlight = true →
      progress.finished = false := by
    intro progress hflight
    cases progress <;> first | rfl | cases hflight
  have hshared := (h.refreshing refresh).mpr ⟨_, hrefresh, hunfinished hflight⟩
  rw [(h.refreshing refresh').mpr ⟨_, hrefresh', hunfinished hflight'⟩] at hshared
  exact (Option.some.inj hshared).symm

/-- **A call is sent twice at most**, and a second time only after a 401 and a refresh. -/
lemma Inv.sends_le (h : s.Inv) (caller : ℕ) :
    s.sends caller ≤ 2 ∧ (s.sends caller = 2 → s.Resent caller) := by
  rcases Nat.lt_or_ge caller s.callers.length with hlt | hge
  · have hcall := h.calls caller _ (List.getElem?_eq_getElem hlt)
    cases hphase : s.callers[caller] with
    | Calling =>
        rw [hphase, CallHistory] at hcall
        omega
    | Waiting refresh =>
        rw [hphase] at hcall
        obtain ⟨hone, -⟩ := hcall
        omega
    | CallingAgain =>
        rw [hphase] at hcall
        exact hcall
    | Settled outcome =>
        rw [hphase] at hcall
        exact hcall
  · have hnone := h.unsent caller hge
    omega

/-- A call that is answered with a 401 waits for a refresh that has not finished. -/
lemma Inv.awaits_unfinished (h : s.Inv) {error : HttpError}
    (hcalling : s.callers[caller]? = some .Calling) (herror : error.isUnauthorized = true)
    (hs' : clientStep s (.Answer caller (.Rejected error)) = some s') :
    ∃ refresh progress, s'.callers[caller]? = some (.Waiting refresh)
      ∧ s'.refreshes[refresh]? = some progress ∧ progress.finished = false := by
  obtain ⟨hlt, -⟩ := List.getElem?_eq_some_iff.mp hcalling
  have hunauthorized : (HttpOutcome.Rejected error : HttpOutcome T).isUnauthorized = true := herror
  simp only [clientStep, AdminClient.answer, hcalling, hunauthorized, if_true] at hs'
  cases hs'
  simp only [AdminClient.joinRefresh]
  split
  · rename_i refresh hrefreshing
    obtain ⟨progress, hprogress⟩ := (h.refreshing refresh).mp hrefreshing
    exact ⟨refresh, progress, List.getElem?_set_self hlt, hprogress⟩
  · refine ⟨s.refreshes.length, .Csrf, List.getElem?_set_self hlt, ?_, rfl⟩
    simp [AdminClient.startRefresh, AdminClient.setPhase, AdminClient.record]

/-- **How the calls share their refreshes.**  At most one is in flight.  A call is sent twice at
most, the second time after its own 401 and a refresh that finished later without an error.  Other
errors are passed on and start nothing.  A refresh frees `refreshing` when it is answered, also with
an error, and with `refreshing` free a 401 starts the next one; no 401 awaits one that is over. -/
structure SharesRefresh (s : AdminClient T) : Prop where
  single : ∀ (refresh refresh' : ℕ) (progress progress' : RefreshProgress),
    s.refreshes[refresh]? = some progress → s.refreshes[refresh']? = some progress' →
    progress.inFlight = true → progress'.inFlight = true → refresh = refresh'
  twice : ∀ caller, s.sends caller ≤ 2
  resent : ∀ caller, s.sends caller = 2 → s.Resent caller
  passedOn : ∀ (caller : ℕ) (error : HttpError) (s' : AdminClient T), error.isUnauthorized = false →
    clientStep s (.Answer caller (.Rejected error)) = some s' →
    s'.callers[caller]? = some (.Settled (.Rejected error)) ∧ s'.refreshes = s.refreshes
      ∧ s'.refreshing = s.refreshing
  freed : ∀ (refresh : ℕ) (failure : Option HttpError),
    s.refreshes[refresh]? = some (.Answered failure) →
    ∃ s', clientStep s (.Finally refresh) = some s' ∧ s'.refreshing = none
  restarts : ∀ (caller : ℕ) (error : HttpError) (s' : AdminClient T),
    s.callers[caller]? = some .Calling → error.isUnauthorized = true →
    clientStep s (.Answer caller (.Rejected error)) = some s' → s.refreshing = none →
    s'.refreshes = s.refreshes ++ [.Csrf]
  awaits : ∀ (caller : ℕ) (error : HttpError) (s' : AdminClient T),
    s.callers[caller]? = some .Calling → error.isUnauthorized = true →
    clientStep s (.Answer caller (.Rejected error)) = some s' →
    ∃ refresh progress, s'.callers[caller]? = some (.Waiting refresh)
      ∧ s'.refreshes[refresh]? = some progress ∧ progress.finished = false

lemma Inv.sharesRefresh (h : s.Inv) : s.SharesRefresh where
  single _ _ _ _ hrefresh hrefresh' hflight hflight' :=
    h.inFlight_unique hrefresh hflight hrefresh' hflight'
  twice caller := (h.sends_le caller).1
  resent caller := (h.sends_le caller).2
  passedOn caller error s' herror hs' := by
    have hother : (HttpOutcome.Rejected error : HttpOutcome T).isUnauthorized = false := herror
    simp only [clientStep, AdminClient.answer, hother, Bool.false_eq_true, if_false] at hs'
    split at hs'
    · rename_i hcalling
      cases hs'
      exact ⟨List.getElem?_set_self (List.getElem?_eq_some_iff.mp hcalling).1, rfl, rfl⟩
    · rename_i hcalling
      cases hs'
      exact ⟨List.getElem?_set_self (List.getElem?_eq_some_iff.mp hcalling).1, rfl, rfl⟩
    · cases hs'
  freed refresh failure hanswered := by
    simp only [clientStep, AdminClient.runFinally, hanswered]
    exact ⟨_, rfl, rfl⟩
  restarts caller error s' hcalling herror hs' hnone := by
    have hunauthorized : (HttpOutcome.Rejected error : HttpOutcome T).isUnauthorized = true :=
      herror
    simp only [clientStep, AdminClient.answer, hcalling, hunauthorized, if_true] at hs'
    cases hs'
    simp only [AdminClient.joinRefresh, AdminClient.record, hnone]
    rfl
  awaits _ _ _ hcalling herror hs' := h.awaits_unfinished hcalling herror hs'

end AdminClient

/-- **One refresh for many calls.**  For any number of calls, and in whatever order they, the
refreshes and all that waits go on: it holds in every state the client can reach. -/
theorem authed_shares_refresh {T : Type} {actions : List (ClientAction T)} {s : AdminClient T}
    (hrun : runSteps clientStep .initial actions = some s) : s.SharesRefresh :=
  (runSteps_invariant (fun _ _ _ h hs' => AdminClient.Inv.step h hs') hrun
    AdminClient.inv_initial).sharesRefresh

def unauthorized : HttpOutcome Unit := .Rejected (.ApiClientError 401 "UNAUTHORIZED" "expired")

/-- Two calls share a refresh that fails, and a third one is sent again after the next. -/
def threeCalls : List (ClientAction Unit) :=
  [.Call, .Call, .Call, .Answer 0 unauthorized, .Answer 1 unauthorized,
    .CsrfAnswer 0 (some (.Other "network")), .Finally 0, .Resume 0, .Answer 2 unauthorized,
    .Resume 1, .CsrfAnswer 1 none, .RefreshAnswer 1 none, .Finally 1, .Resume 2,
    .Answer 2 (.Resolved ())]

theorem authed_shares_refresh_threeCalls :
    ∃ s, runSteps clientStep .initial threeCalls = some s ∧ s.SharesRefresh ∧ s.sends 2 = 2 := by
  have hsends : (runSteps clientStep .initial threeCalls).map (·.sends 2) = some 2 := by decide
  obtain ⟨s, hrun, htwo⟩ := Option.map_eq_some_iff.mp hsends
  exact ⟨s, hrun, authed_shares_refresh hrun, htwo⟩

end RagStack
