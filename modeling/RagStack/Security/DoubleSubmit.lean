import RagStack.Core.Runs
import RagStack.Security.RequestGuards

/-!
# `api-client/src/http.ts`: tokens and their cookie

A mutation fetches a CSRF token first and then sends its request with the token in a header.  The
answer with the token sets a cookie, which the browser adds to the request.  Every tab and every
application of the browser shares that cookie, and each mutation fetches a token of its own.

That is one cookie for many tokens.  If two mutations overlap, the answer to the second one's fetch
may arrive after that of the first and before the first has sent its request.  Then the request of
the first has its own token in the header and that of the other in the cookie, and it is refused,
though nobody has done anything wrong.  The same happens if something clears the cookie in between.
Whether a request passes is thus a matter of the order in which the answers reach the browser.

The browser is a state machine: how many tokens the API has issued, what is in the cookie, and how
far each mutation is.  The API draws fresh random bytes for each token, so the tokens of different
fetches differ, and a token that is in the cookie shows by whom it was fetched.  The invariant says
that the cookie is the token of the last that wrote it.  From there on it is a question about the
list of steps: who wrote last before the request was sent.

Only the steps between a mutation's own token and its request count.  What is written later does not
matter, since the browser has added the cookie to the request already.

* `browserStep` — one step of a browser and the API; a run is any interleaving of steps.
* `CookieKept` — nothing wrote the cookie between the token of a mutation and its request.
* `csrf_accepts_iff` — exactly then the request passes the CSRF guard.
-/

namespace RagStack

/-! ## The browser

A step is one message that is sent or arrives, for one mutation.  Any number of mutations of any
tabs may be under way. -/

/-- How far a mutation is.  The cookie that goes with its request is kept from when it is posted,
since the browser adds it then. -/
inductive MutationPhase where
  /-- `await request(csrfPath)`. -/
  | Fetching
  /-- The API has issued the token. -/
  | Issued
  /-- The cookie is set, and `csrf` has its value. -/
  | Holding
  /-- `request(path, …)` is sent, with the cookie that the browser has. -/
  | Posted (cookie : Option (List Char))
  /-- `CsrfGuard` has let the request pass, or has not. -/
  | Decided (accepted : Bool)
  /-- An error, or the tab is closed. -/
  | Failed
  deriving Repr, DecidableEq

structure Mutation where
  csrfToken : Option (List Char)
  phase : MutationPhase
  deriving Repr, DecidableEq

/-- How many tokens the API has issued, the cookie `csrf_token`, and the mutations of all tabs. -/
structure Browser where
  issued : ℕ
  cookie : Option (List Char)
  mutations : List Mutation
  deriving Repr, DecidableEq

inductive BrowserAction where
  | Start
  | Issue (mutation : ℕ)
  | Receive (mutation : ℕ)
  | Post (mutation : ℕ)
  | Decide (mutation : ℕ)
  | Fail (mutation : ℕ)
  | ClearCookies
  deriving Repr, DecidableEq

namespace Browser

def initial : Browser := ⟨0, none, []⟩

def setMutation (s : Browser) (i : ℕ) (mutation : Mutation) : Browser :=
  { s with mutations := s.mutations.set i mutation }

def tokenOf (s : Browser) (i : ℕ) : Option (List Char) := s.mutations[i]?.bind (·.csrfToken)

end Browser

section Step

variable (nonces : ℕ → List Char) (sign : List Char → List Char)

/-- One step, if it is possible.  The API draws the random bytes of its tokens in order. -/
def browserStep (s : Browser) : BrowserAction → Option Browser
  | .Start => some { s with mutations := s.mutations ++ [⟨none, .Fetching⟩] }
  | .Issue i =>
      match s.mutations[i]? with
      | some ⟨_, .Fetching⟩ =>
          let token := issue sign (nonces s.issued)
          some { s.setMutation i ⟨some token, .Issued⟩ with issued := s.issued + 1 }
      | _ => none
  | .Receive i =>
      match s.mutations[i]? with
      | some ⟨token, .Issued⟩ => some { s.setMutation i ⟨token, .Holding⟩ with cookie := token }
      | _ => none
  | .Post i =>
      match s.mutations[i]? with
      | some ⟨token, .Holding⟩ => some (s.setMutation i ⟨token, .Posted s.cookie⟩)
      | _ => none
  | .Decide i =>
      match s.mutations[i]? with
      | some ⟨token, .Posted cookie⟩ =>
          some (s.setMutation i ⟨token, .Decided (validate sign cookie token)⟩)
      | _ => none
  | .Fail i =>
      match s.mutations[i]? with
      | some ⟨token, .Fetching⟩ | some ⟨token, .Issued⟩ | some ⟨token, .Holding⟩ =>
          some (s.setMutation i ⟨token, .Failed⟩)
      | _ => none
  | .ClearCookies => some { s with cookie := none }

end Step

/-! ## Who wrote the cookie

This is read off the steps, from the end backwards, without looking at states. -/

/-- Whose token an action writes into the cookie, or that it clears it. -/
def BrowserAction.writes : BrowserAction → Option (Option ℕ)
  | Receive i => some (some i)
  | ClearCookies => some none
  | Start | Issue _ | Post _ | Decide _ | Fail _ => none

/-- Whose token is in the cookie. -/
def cookieHolder (acts : List BrowserAction) : Option ℕ :=
  (acts.reverse.findSome? BrowserAction.writes).join

/-- **Nothing wrote the cookie** between the token of a mutation and its request. -/
def CookieKept (i : ℕ) (acts : List BrowserAction) : Prop :=
  ∃ before between after, acts = before ++ .Receive i :: between ++ .Post i :: after
    ∧ ∀ action ∈ between, action.writes = none

section Holder

variable {acts : List BrowserAction} {action : BrowserAction} {i : ℕ}

lemma cookieHolder_concat_of_writes {holder : Option ℕ} (h : action.writes = some holder) :
    cookieHolder (acts ++ [action]) = holder := by
  simp [cookieHolder, h]

lemma cookieHolder_concat (h : action.writes = none) :
    cookieHolder (acts ++ [action]) = cookieHolder acts := by
  simp [cookieHolder, h]

lemma cookieHolder_eq_some_iff :
    cookieHolder acts = some i ↔ ∃ before between, acts = before ++ .Receive i :: between
      ∧ ∀ action ∈ between, action.writes = none := by
  rw [cookieHolder, Option.join_eq_some_iff, List.findSome?_eq_some_iff]
  constructor
  · rintro ⟨between, action, before, hacts, hwrites, hnone⟩
    obtain rfl : action = .Receive i := by
      cases action <;> simp_all [BrowserAction.writes]
    refine ⟨before.reverse, between.reverse, ?_, by simpa using hnone⟩
    rw [← List.reverse_inj, hacts]
    simp
  · rintro ⟨before, between, rfl, hnone⟩
    exact ⟨between.reverse, .Receive i, before.reverse, by simp, rfl, by simpa using hnone⟩

lemma cookieKept_iff : CookieKept i acts
    ↔ ∃ before after, acts = before ++ .Post i :: after ∧ cookieHolder before = some i := by
  simp only [cookieHolder_eq_some_iff]
  constructor
  · rintro ⟨before, between, after, rfl, hnone⟩
    exact ⟨before ++ .Receive i :: between, after, rfl, before, between, rfl, hnone⟩
  · rintro ⟨_, after, rfl, before, between, rfl, hnone⟩
    exact ⟨before, between, after, rfl, hnone⟩

/-- The request of a mutation is sent now, with the token of the holder. -/
lemma cookieKept_concat_post (hnot : .Post i ∉ acts) :
    CookieKept i (acts ++ [.Post i]) ↔ cookieHolder acts = some i := by
  rw [cookieKept_iff]
  constructor
  · rintro ⟨before, after, hacts, hholder⟩
    obtain ⟨rfl, -⟩ := append_cons_eq_concat hacts.symm hnot
    exact hholder
  · exact fun hholder => ⟨acts, [], rfl, hholder⟩

lemma cookieKept_concat (hne : action ≠ .Post i) :
    CookieKept i (acts ++ [action]) ↔ CookieKept i acts := by
  rw [cookieKept_iff, cookieKept_iff]
  constructor
  · rintro ⟨before, after, hacts, hholder⟩
    rcases append_eq_append_cons hacts with ⟨rest, rfl, -⟩ | ⟨rest, rfl, hrest⟩
    · exact ⟨before, rest, rfl, hholder⟩
    · exact absurd (List.mem_singleton.mp (hrest ▸ List.mem_append_right rest List.mem_cons_self)).symm
        hne
  · rintro ⟨before, after, rfl, hholder⟩
    exact ⟨before, after ++ [action], by simp, hholder⟩

end Holder

/-! ## The invariant

For each phase of a mutation, what its token has to do with the cookie.  No two mutations have the
same token. -/

/-- What is known of a mutation, by how far it is. -/
def Mutation.History (acts : List BrowserAction) (i : ℕ) (mutation : Mutation) : Prop :=
  match mutation.phase with
  | .Fetching => mutation.csrfToken = none ∧ .Post i ∉ acts
  | .Issued | .Holding => mutation.csrfToken.isSome ∧ .Post i ∉ acts
  | .Posted cookie =>
      mutation.csrfToken.isSome ∧ (cookie = mutation.csrfToken ↔ CookieKept i acts)
  | .Decided accepted => accepted = true ↔ CookieKept i acts
  | .Failed => True

section Invariant

variable {nonces : ℕ → List Char} {sign : List Char → List Char}

variable (nonces sign) in
/-- **The invariant**: the cookie is the token of the last that wrote it, and no two mutations have
one token. -/
structure CookieInv (acts : List BrowserAction) (s : Browser) : Prop where
  cookie : s.cookie = (cookieHolder acts).bind s.tokenOf
  holder : ∀ i, cookieHolder acts = some i → (s.tokenOf i).isSome
  issued : ∀ i token, s.tokenOf i = some token → ∃ k < s.issued, token = issue sign (nonces k)
  distinct : ∀ i j token, s.tokenOf i = some token → s.tokenOf j = some token → i = j
  history : ∀ i (mutation : Mutation), s.mutations[i]? = some mutation → mutation.History acts i
  unposted : ∀ i, s.mutations.length ≤ i → .Post i ∉ acts

variable {acts : List BrowserAction} {s s' : Browser} {action : BrowserAction} {i : ℕ}

lemma cookieInv_initial : CookieInv nonces sign [] Browser.initial where
  cookie := rfl
  holder i h := by cases h
  issued i token h := by cases h
  distinct i j token h := by cases h
  history i mutation h := by cases h
  unposted i _ h := by cases h

/-- Other actions than its request change nothing for a mutation. -/
lemma Mutation.History.concat {mutation : Mutation} (h : mutation.History acts i)
    (hne : action ≠ .Post i) : mutation.History (acts ++ [action]) i := by
  have hpost : .Post i ∉ acts → .Post i ∉ acts ++ [action] := fun hnot hmem =>
    (List.mem_append.mp hmem).elim hnot fun hlast => hne (List.mem_singleton.mp hlast).symm
  obtain ⟨token, phase⟩ := mutation
  cases phase with
  | Fetching => exact ⟨h.1, hpost h.2⟩
  | Issued | Holding => exact ⟨h.1, hpost h.2⟩
  | Posted cookie => exact ⟨h.1, h.2.trans (cookieKept_concat hne).symm⟩
  | Decided accepted => exact Iff.trans h (cookieKept_concat hne).symm
  | Failed => trivial

lemma getElem?_setMutation {mutation : Mutation} (hi : i < s.mutations.length) (j : ℕ) :
    (s.setMutation i mutation).mutations[j]? = if j = i then some mutation else s.mutations[j]? := by
  rw [Browser.setMutation, List.getElem?_set]
  by_cases hj : j = i
  · subst hj
    rw [if_pos rfl, if_pos rfl, if_pos hi]
  · rw [if_neg hj, if_neg (Ne.symm hj)]

/-- The histories after a step of one mutation. -/
lemma CookieInv.history_set (h : CookieInv nonces sign acts s) (hi : i < s.mutations.length)
    {mutation : Mutation} (hmutation : mutation.History (acts ++ [action]) i)
    (hothers : ∀ j ≠ i, action ≠ .Post j) (j : ℕ) (other : Mutation)
    (hother : (s.setMutation i mutation).mutations[j]? = some other) :
    other.History (acts ++ [action]) j := by
  rw [getElem?_setMutation hi] at hother
  split at hother
  · rename_i hj
    cases hother
    rwa [hj]
  · rename_i hj
    exact (h.history j other hother).concat (hothers j hj)

/-- A mutation gets further with the token it has, and the cookie may change. -/
lemma CookieInv.setMutation (h : CookieInv nonces sign acts s) {mutation : Mutation}
    (mutation' : Mutation) (hi : s.mutations[i]? = some mutation)
    (htoken : mutation'.csrfToken = mutation.csrfToken)
    (hothers : ∀ j ≠ i, action ≠ .Post j) (hhistory : mutation'.History (acts ++ [action]) i)
    {cookie : Option (List Char)} (hcookie : cookie = (cookieHolder (acts ++ [action])).bind s.tokenOf)
    (hholder : ∀ j, cookieHolder (acts ++ [action]) = some j → (s.tokenOf j).isSome) :
    CookieInv nonces sign (acts ++ [action]) { s.setMutation i mutation' with cookie } := by
  have hlt : i < s.mutations.length := (List.getElem?_eq_some_iff.mp hi).1
  have htokens : Browser.tokenOf { s.setMutation i mutation' with cookie } = s.tokenOf := by
    funext j
    show ((s.setMutation i mutation').mutations[j]?.bind _) = _
    rw [Browser.tokenOf, getElem?_setMutation hlt]
    split
    · rename_i hj
      rw [hj, hi]
      exact htoken
    · rfl
  refine ⟨?_, ?_, ?_, ?_, h.history_set hlt hhistory hothers, fun j hj => ?_⟩
  · rwa [htokens]
  · rwa [htokens]
  · rw [htokens]
    exact h.issued
  · rw [htokens]
    exact h.distinct
  · simp only [Browser.setMutation, List.length_set] at hj
    intro hmem
    rcases List.mem_append.mp hmem with hmem | hlast
    · exact h.unposted j hj hmem
    · exact hothers j (by omega) (List.mem_singleton.mp hlast).symm

/-- So it does without a change of the cookie. -/
lemma CookieInv.setPhase (h : CookieInv nonces sign acts s) {mutation : Mutation}
    (mutation' : Mutation) (hi : s.mutations[i]? = some mutation)
    (htoken : mutation'.csrfToken = mutation.csrfToken)
    (hwrites : action.writes = none) (hothers : ∀ j ≠ i, action ≠ .Post j)
    (hhistory : mutation'.History (acts ++ [action]) i) :
    CookieInv nonces sign (acts ++ [action]) (s.setMutation i mutation') :=
  h.setMutation mutation' hi htoken hothers hhistory
    (by rw [cookieHolder_concat hwrites]; exact h.cookie)
    (by rw [cookieHolder_concat hwrites]; exact h.holder)

lemma CookieInv.start (h : CookieInv nonces sign acts s) :
    CookieInv nonces sign (acts ++ [.Start])
      { s with mutations := s.mutations ++ [⟨none, .Fetching⟩] } := by
  have hwrites : BrowserAction.Start.writes = none := rfl
  have htokens : Browser.tokenOf { s with mutations := s.mutations ++ [⟨none, .Fetching⟩] }
      = s.tokenOf := by
    funext j
    simp only [Browser.tokenOf]
    rcases lt_trichotomy j s.mutations.length with hj | rfl | hj
    · rw [List.getElem?_append_left hj]
    · simp
    · rw [List.getElem?_eq_none (by simpa using Nat.succ_le_of_lt hj),
        List.getElem?_eq_none hj.le]
  have hpost : ∀ j, .Post j ∉ acts → .Post j ∉ acts ++ [BrowserAction.Start] := by
    simp
  refine ⟨?_, ?_, ?_, ?_, fun j mutation hj => ?_, fun j hj => hpost j (h.unposted j ?_)⟩
  · rw [htokens, cookieHolder_concat hwrites]
    exact h.cookie
  · rw [htokens, cookieHolder_concat hwrites]
    exact h.holder
  · rw [htokens]
    exact h.issued
  · rw [htokens]
    exact h.distinct
  · rw [List.getElem?_append] at hj
    split at hj
    · exact (h.history j mutation hj).concat nofun
    · rename_i hge
      rw [List.getElem?_singleton] at hj
      split at hj
      · cases hj
        exact ⟨rfl, hpost j (h.unposted j (Nat.le_of_not_lt hge))⟩
      · cases hj
  · simp only [List.length_append, List.length_singleton] at hj
    omega

/-- A new token is none that was issued before. -/
lemma CookieInv.issue (h : CookieInv nonces sign acts s) (hnonces : Function.Injective nonces)
    (hsign : ∀ value, '.' ∉ sign value) {token : Option (List Char)}
    (hi : s.mutations[i]? = some ⟨token, .Fetching⟩) :
    CookieInv nonces sign (acts ++ [.Issue i])
      { s.setMutation i ⟨some (RagStack.issue sign (nonces s.issued)), .Issued⟩ with
        issued := s.issued + 1 } := by
  have hlt : i < s.mutations.length := (List.getElem?_eq_some_iff.mp hi).1
  have hwrites : (BrowserAction.Issue i).writes = none := rfl
  obtain ⟨rfl, hnot⟩ := h.history i _ hi
  have hnone : s.tokenOf i = none := by rw [Browser.tokenOf, hi]; rfl
  have htokens : ∀ j, Browser.tokenOf
      { s.setMutation i ⟨some (RagStack.issue sign (nonces s.issued)), .Issued⟩ with
        issued := s.issued + 1 } j
      = if j = i then some (RagStack.issue sign (nonces s.issued)) else s.tokenOf j := by
    intro j
    show ((s.setMutation i _).mutations[j]?.bind _) = _
    rw [getElem?_setMutation hlt]
    split
    · rfl
    · rfl
  have hnew : ∀ j, s.tokenOf j ≠ some (RagStack.issue sign (nonces s.issued)) := by
    intro j hj
    obtain ⟨k, hk, heq⟩ := h.issued j _ hj
    have hsame := hnonces (issue_injective hsign heq)
    omega
  have hnotHolder : cookieHolder acts ≠ some i := by
    intro hholder
    have hsome := h.holder i hholder
    rw [hnone] at hsome
    cases hsome
  refine ⟨?_, fun j hj => ?_, fun j token hj => ?_, fun j j' token hj hj' => ?_,
    h.history_set hlt ⟨rfl, by simpa using hnot⟩ nofun, fun j hj => ?_⟩
  · rw [cookieHolder_concat hwrites]
    show s.cookie = _
    rw [h.cookie]
    cases hholder : cookieHolder acts with
    | none => rfl
    | some j =>
        rw [Option.bind_some, Option.bind_some, htokens, if_neg]
        rintro rfl
        exact hnotHolder hholder
  · rw [cookieHolder_concat hwrites] at hj
    rw [htokens]
    split
    · rfl
    · exact h.holder j hj
  · rw [htokens] at hj
    split at hj
    · exact ⟨s.issued, Nat.lt_succ_self _, (Option.some.inj hj).symm⟩
    · obtain ⟨k, hk, heq⟩ := h.issued j token hj
      exact ⟨k, Nat.lt_succ_of_lt hk, heq⟩
  · rw [htokens] at hj hj'
    split at hj <;> split at hj'
    · rename_i hji hji'
      rw [hji, hji']
    · exact absurd (hj'.trans hj.symm) (hnew j')
    · exact absurd (hj.trans hj'.symm) (hnew j)
    · exact h.distinct j j' token hj hj'
  · simp only [Browser.setMutation, List.length_set] at hj
    simpa using h.unposted j hj

/-- The cookie is the token of a mutation exactly if the mutation was the last to write it. -/
lemma CookieInv.cookie_eq_iff (h : CookieInv nonces sign acts s) {mutation : Mutation}
    (hi : s.mutations[i]? = some mutation) (hsome : mutation.csrfToken.isSome) :
    s.cookie = mutation.csrfToken ↔ cookieHolder acts = some i := by
  obtain ⟨token, htoken⟩ := Option.isSome_iff_exists.mp hsome
  have hown : s.tokenOf i = some token := by rw [Browser.tokenOf, hi]; exact htoken
  rw [h.cookie, htoken]
  constructor
  · intro hcookie
    obtain ⟨j, hj, hother⟩ := Option.bind_eq_some_iff.mp hcookie
    rw [hj, h.distinct j i token hother hown]
  · intro hholder
    rw [hholder, Option.bind_some, hown]

/-- A token that was issued is valid with itself only. -/
lemma CookieInv.validate_iff_eq (h : CookieInv nonces sign acts s) (hne : ∀ k, nonces k ≠ [])
    (hsign : ∀ value, '.' ∉ sign value) {mutation : Mutation}
    (hi : s.mutations[i]? = some mutation) (hsome : mutation.csrfToken.isSome)
    {cookie : Option (List Char)} :
    validate sign cookie mutation.csrfToken = true ↔ cookie = mutation.csrfToken := by
  obtain ⟨token, htoken⟩ := Option.isSome_iff_exists.mp hsome
  obtain ⟨k, -, rfl⟩ := h.issued i token (by rw [Browser.tokenOf, hi]; exact htoken)
  rw [validate_iff hsign, htoken]
  constructor
  · rintro ⟨nonce, -, hcookie, hheader⟩
    rw [hcookie, hheader]
  · rintro rfl
    exact ⟨nonces k, hne k, rfl, rfl⟩

/-- **Every step keeps the invariant.**  The token that is issued next is new because the random
bytes are. -/
lemma CookieInv.step (h : CookieInv nonces sign acts s) (hnonces : Function.Injective nonces)
    (hne : ∀ k, nonces k ≠ []) (hsign : ∀ value, '.' ∉ sign value)
    (hstep : browserStep nonces sign s action = some s') :
    CookieInv nonces sign (acts ++ [action]) s' := by
  cases action with
  | Start =>
      cases hstep
      exact h.start
  | Issue i =>
      simp only [browserStep] at hstep
      split at hstep
      · rename_i hi
        cases hstep
        exact h.issue hnonces hsign hi
      · cases hstep
  | Receive i =>
      simp only [browserStep] at hstep
      split at hstep
      · rename_i token hi
        cases hstep
        have hhistory := h.history i _ hi
        have htoken : s.tokenOf i = token := by rw [Browser.tokenOf, hi]; rfl
        have hholder := @cookieHolder_concat_of_writes acts (.Receive i) (some i) rfl
        have hne' : ∀ j, BrowserAction.Receive i ≠ .Post j := nofun
        refine h.setMutation ⟨token, .Holding⟩ hi rfl (fun j _ => hne' j)
          (hhistory.concat (hne' i)) ?_ fun j hj => ?_
        · rw [hholder, Option.bind_some, htoken]
        · obtain rfl : i = j := Option.some.inj (hholder.symm.trans hj)
          rw [htoken]
          exact hhistory.1
      · cases hstep
  | Post i =>
      simp only [browserStep] at hstep
      split at hstep
      · rename_i token hi
        cases hstep
        obtain ⟨htoken, hnot⟩ := h.history i _ hi
        refine h.setPhase ⟨token, .Posted s.cookie⟩ hi rfl rfl
          (fun j hj => by simpa using hj.symm) ⟨htoken, ?_⟩
        rw [cookieKept_concat_post hnot, h.cookie_eq_iff hi htoken]
      · cases hstep
  | Decide i =>
      simp only [browserStep] at hstep
      split at hstep
      · rename_i token cookie hi
        cases hstep
        obtain ⟨htoken, hkept⟩ := h.history i _ hi
        have hne' : ∀ j, BrowserAction.Decide i ≠ .Post j := nofun
        refine h.setPhase ⟨token, .Decided (validate sign cookie token)⟩ hi rfl rfl
          (fun j _ => hne' j) ?_
        show validate sign cookie token = true ↔ CookieKept i (acts ++ [.Decide i])
        rw [cookieKept_concat (hne' i), ← hkept, h.validate_iff_eq hne hsign hi htoken]
      · cases hstep
  | Fail i =>
      have hne' : ∀ j, BrowserAction.Fail i ≠ .Post j := nofun
      simp only [browserStep] at hstep
      split at hstep
      · rename_i hi
        cases hstep
        exact h.setPhase _ hi rfl rfl (fun j _ => hne' j) trivial
      · rename_i hi
        cases hstep
        exact h.setPhase _ hi rfl rfl (fun j _ => hne' j) trivial
      · rename_i hi
        cases hstep
        exact h.setPhase _ hi rfl rfl (fun j _ => hne' j) trivial
      · cases hstep
  | ClearCookies =>
      cases hstep
      have hholder := @cookieHolder_concat_of_writes acts .ClearCookies none rfl
      refine ⟨?_, fun j hj => ?_, h.issued, h.distinct, fun j mutation hj =>
        (h.history j mutation hj).concat nofun, fun j hj => by simpa using h.unposted j hj⟩
      · rw [hholder]
        rfl
      · rw [hholder] at hj
        cases hj

end Invariant

/-- **The CSRF guard lets a request pass exactly if its cookie was kept**: if no token of another
mutation reached the browser, and nothing cleared the cookie, between its own token and its
sending.  This holds in every interleaving of the mutations of all tabs. -/
theorem csrf_accepts_iff (nonces : ℕ → List Char) (sign : List Char → List Char)
    (hnonces : Function.Injective nonces) (hne : ∀ k, nonces k ≠ [])
    (hsign : ∀ value, '.' ∉ sign value) {acts : List BrowserAction} {s : Browser}
    (hrun : runSteps (browserStep nonces sign) Browser.initial acts = some s) {i : ℕ}
    {token : Option (List Char)} {accepted : Bool}
    (hi : s.mutations[i]? = some ⟨token, .Decided accepted⟩) :
    accepted = true ↔ CookieKept i acts := by
  have hinv : CookieInv nonces sign ([] ++ acts) s :=
    runSteps_history (fun _ _ _ _ h hstep => h.step hnonces hne hsign hstep) hrun cookieInv_initial
  exact hinv.history i _ hi

/-! ## Two tabs

The token of a second tab arrives between the token of the first and its request. -/

def plainNonces (k : ℕ) : List Char := List.replicate (k + 1) 'a'

lemma plainNonces_injective : Function.Injective plainNonces := fun k k' h => by
  have hlength := congrArg List.length h
  simpa [plainNonces] using hlength

lemma plainNonces_ne_nil (k : ℕ) : plainNonces k ≠ [] := by
  simp [plainNonces]

/-- The token of a second tab arrives before the first has sent its request. -/
def overtakenMutation : List BrowserAction :=
  [.Start, .Start, .Issue 0, .Issue 1, .Receive 0, .Receive 1, .Post 0, .Decide 0]

/-- A token of another tab arrives in between, and the request of the first tab is refused. -/
theorem csrf_accepts_iff_overtaken : ∃ s token,
    runSteps (browserStep plainNonces plainSign) Browser.initial overtakenMutation = some s
      ∧ s.mutations[0]? = some ⟨token, .Decided false⟩
      ∧ (false = true ↔ CookieKept 0 overtakenMutation) := by
  have hrun : runSteps (browserStep plainNonces plainSign) Browser.initial overtakenMutation
      = some ⟨2, some (issue plainSign (plainNonces 1)),
        [⟨some (issue plainSign (plainNonces 0)), .Decided false⟩,
          ⟨some (issue plainSign (plainNonces 1)), .Holding⟩]⟩ := by decide +kernel
  exact ⟨_, _, hrun, rfl, csrf_accepts_iff plainNonces plainSign plainNonces_injective
    plainNonces_ne_nil dot_notMem_plainSign hrun rfl⟩

end RagStack
