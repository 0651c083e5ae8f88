import RagStack.Accounts.RotationFamilies

/-!
# Signing out everywhere

`signOutAll` is one UPDATE over the sessions it found when it started.

Under READ COMMITTED a statement works on the rows that were committed when it began.  It goes from
one to the next, waits for rows that others have written, and looks at each again when it gets it.
It does not look for rows that were added meanwhile.  A refresh that commits while the UPDATE is
under way adds one: the replacement was not there at the beginning, and the old session is revoked
when the UPDATE comes to it, so the condition fails and nothing is done.  The user has signed out
everywhere, and a session is still active.

If no rotation commits for a session which the UPDATE has still to visit, this cannot happen, and
then the result is as strong as one could wish: all sessions of the user that existed at the start
are revoked, and so is everything they were ever rotated to.  The reason is that a set of revoked
sessions which no pointer leaves stays that way, since revoked sessions are not rotated
(`AllRevoked`).

So the condition is used for the time of one statement only.  It is a condition on each step that
others take, in the state they take it in, and as such it is part of what the contract of the UPDATE
relies on.

* `AllRevoked` — a set of sessions that pointers do not leave, all of them revoked.
* `signOutAllContract` — the UPDATE relies on it that no session which it has still to visit is
  rotated.
* `signOutAll_revokes` — if this is so, no session that existed when it started and no session that
  one of them was rotated to is active afterwards.
* `signOutAll_missesReplacement` — otherwise the replacement may stay active: it was not committed
  when the UPDATE started, and the old session is revoked when the UPDATE comes to it.
-/

namespace RagStack

/-- Revoked sessions with all their replacements. -/
structure AllRevoked (members : Uuid → Prop) (rows : Rows Row) : Prop where
  revoked : ∀ a, members a → IsRevoked rows a
  closed : ∀ a b, members a → replacementOf rows a = some b → members b

section Revoked

variable {members : Uuid → Prop} {rows rows' : Rows Row}

lemma AllRevoked.moves (h : AllRevoked members rows)
    (hmoves : ∀ k, SessionMoves (rows k) (rows' k)) : AllRevoked members rows' := by
  refine ⟨fun a ha => (h.revoked a ha).moves hmoves, fun a b ha hab => ?_⟩
  rw [(h.revoked a ha).replacementOf_eq hmoves] at hab
  exact h.closed a b ha hab

/-- What can be reached from a member is revoked. -/
lemma AllRevoked.reached (h : AllRevoked members rows) {a t : Uuid} (ha : members a)
    (ht : Relation.ReflTransGen (Points (replacementOf rows)) a t) : IsRevoked rows t := by
  have hmember : members t := by
    induction ht with
    | refl => exact ha
    | tail _ hbt ih => exact h.closed _ _ ih hbt
  exact h.revoked t hmember

lemma sessionUser_moves (hmoves : ∀ k, SessionMoves (rows k) (rows' k)) {id userId : Uuid}
    (h : sessionUser rows id = some userId) : sessionUser rows' id = some userId := by
  obtain ⟨s, hs, rfl⟩ := exists_of_sessionUser h
  obtain ⟨t, ht, huser, -⟩ := hmoves id s hs
  rw [sessionUser_of_eq ht, huser]

lemma isActiveSessionOf_or_isRevoked {id userId : Uuid} (h : sessionUser rows id = some userId) :
    (∃ r, rows id = some r ∧ r.isActiveSessionOf userId = true) ∨ IsRevoked rows id := by
  obtain ⟨s, hs, rfl⟩ := exists_of_sessionUser h
  cases hrevoked : s.revokedAt with
  | none => exact .inl ⟨_, hs, by simp [Row.isActiveSessionOf, hrevoked]⟩
  | some time => exact .inr ⟨s, hs, by rw [hrevoked]; rfl⟩

end Revoked

/-! ## The UPDATE

What is known while it runs is about the sessions it has visited, which are revoked by it or by
somebody else, and about those it has not, which have no new pointer. -/

/-- Every session of the user in `rows₀` is revoked, with all it was rotated to. -/
def SignedOut (rows₀ : Rows Row) (userId : Uuid) (rows : Rows Row) : Prop :=
  ∃ members : Uuid → Prop, (∀ a, sessionUser rows₀ a = some userId → members a)
    ∧ AllRevoked members rows

/-- While the UPDATE is in progress, no session it has still to visit gets a pointer. -/
def signOutAllContract (rows₀ : Rows Row) (userId : Uuid) : Contract Row Statement Reply where
  Rely _ scan rows rows' := (∀ k, SessionMoves (rows k) (rows' k))
    ∧ ∀ s, scan = some s → ∀ a ∈ s.todo, ∀ b, replacementOf rows' a = some b →
      replacementOf rows a = some b
  Guar := (authContract none).Guar
  mayFail := True
  Post _ _ rows := SignedOut rows₀ userId rows
  refl _ _ _ := ⟨fun _ => .refl _, fun _ _ _ _ _ h => h⟩
  trans _ _ _ _ _ h h' := ⟨fun k => (h.1 k).trans (h'.1 k),
    fun s hs a ha b hab => h.2 s hs a ha b (h'.2 s hs a ha b hab)⟩
  weaken _ _ _ _ h := ⟨h.1, fun s hs => by cases hs⟩

/-- What is known of the members while the UPDATE is in progress: since it started, in the state
`rows₁`, none of them got a pointer. -/
structure Signing (rows₁ : Rows Row) (userId : Uuid) (w : Writes Row) (db : Db Row) : Prop where
  overwrites : Overwrites pointersKept w db
  moves : ∀ k, SessionMoves (rows₁ k) (db.rows k)
  pointers : ∀ a b, sessionUser rows₁ a = some userId → replacementOf db.rows a = some b →
    replacementOf rows₁ a = some b

section Update

variable {rows₀ rows₁ : Rows Row} {userId : Uuid} {w : Writes Row} {db db' : Db Row}
  {log : List Statement} {scan : Option Scan}

/-- A member that the transaction sees as revoked was visited, or is revoked for everybody. -/
lemma Signing.pointer_of_revoked (h : Signing rows₁ userId w db) {a b : Uuid}
    (ha : sessionUser rows₁ a = some userId) (hrevoked : IsRevoked (db.apply w).rows a)
    (hundisturbed : Undisturbed accountSchema w db db')
    (hmoves : ∀ k, SessionMoves (db.rows k) (db'.rows k))
    (hab : replacementOf db'.rows a = some b) : replacementOf rows₁ a = some b := by
  refine h.pointers a b ha ?_
  cases hw : w a with
  | some v =>
      rwa [replacementOf_eq, hundisturbed.rows a v hw, ← replacementOf_eq] at hab
  | none =>
      obtain ⟨s, hs, hsome⟩ := hrevoked
      rw [Db.rows_apply_none hw] at hs
      rwa [IsRevoked.replacementOf_eq ⟨s, hs, hsome⟩ hmoves] at hab

/-- Interference leaves the members without new pointers. -/
lemma Signing.later (h : Signing rows₁ userId w db) {s : Scan}
    (htodo : ∀ k r, (db.apply w).rows k = some r →
      sessionUser rows₁ k = some userId ∧ r.isActiveSessionOf userId = true → k ∈ s.todo)
    (hlater : Later accountSchema RotationInvariant (signOutAllContract rows₀ userId) log (some s) w
      db db') : Signing rows₁ userId w db' := by
  refine ⟨h.overwrites.later hlater.undisturbed, fun k => (h.moves k).trans (hlater.rely.1 k), ?_⟩
  intro a b ha hab
  have hview := sessionUser_moves (fun k => (h.overwrites.view k).1) (sessionUser_moves h.moves ha)
  rcases isActiveSessionOf_or_isRevoked hview with ⟨r, hr, hactive⟩ | hrevoked
  · exact h.pointers a b ha (hlater.rely.2 s rfl a (htodo a r hr ⟨ha, hactive⟩) b hab)
  · exact h.pointer_of_revoked ha hrevoked hlater.undisturbed hlater.rely.1 hab

lemma Signing.active_before (h : Signing rows₁ userId w db)
    (hmoves : ∀ k, SessionMoves (db.rows k) (db'.rows k)) {k : Key} {r : Row}
    (hr : db'.rows k = some r) (hk : sessionUser rows₁ k = some userId)
    (hactive : r.isActiveSessionOf userId = true) :
    ∃ r', db.rows k = some r' ∧ r'.isActiveSessionOf userId = true := by
  rcases isActiveSessionOf_or_isRevoked (sessionUser_moves h.moves hk) with hold | hrevoked
  · exact hold
  · obtain ⟨s, hs, hsome⟩ := hrevoked.moves hmoves
    cases hr.symm.trans hs
    simp only [Row.isActiveSessionOf, Bool.and_eq_true] at hactive
    rw [Option.isNone_iff_eq_none.mp hactive.2] at hsome
    cases hsome

/-- When the UPDATE has ended, all members are revoked. -/
lemma Signing.allRevoked (h : Signing rows₁ userId w db) (hinv : RotationInvariant rows₁)
    (hdone : ∀ k r, (db.apply w).rows k = some r →
      ¬ (sessionUser rows₁ k = some userId ∧ r.isActiveSessionOf userId = true))
    (hundisturbed : Undisturbed accountSchema w db db')
    (hmoves : ∀ k, SessionMoves (db.rows k) (db'.rows k)) :
    AllRevoked (fun a => sessionUser rows₁ a = some userId) (db'.apply w).rows := by
  have hw' := h.overwrites.later hundisturbed
  have hrevoked : ∀ a, sessionUser rows₁ a = some userId → IsRevoked (db.apply w).rows a := by
    intro a ha
    have hview := sessionUser_moves (fun k => (h.overwrites.view k).1) (sessionUser_moves h.moves ha)
    rcases isActiveSessionOf_or_isRevoked hview with ⟨r, hr, hactive⟩ | hrevoked
    · exact absurd ⟨ha, hactive⟩ (hdone a r hr)
    · exact hrevoked
  refine ⟨fun a ha => ?_, fun a b ha hab => ?_⟩
  · obtain ⟨s, hs, hsome⟩ := hrevoked a ha
    cases hw : w a with
    | some v =>
        rw [Db.rows_apply_some hw] at hs
        exact ⟨s, (Db.rows_apply_some hw).trans hs, hsome⟩
    | none =>
        rw [Db.rows_apply_none hw] at hs
        obtain ⟨t, ht, -, hkept⟩ := hmoves a s hs
        exact ⟨t, (Db.rows_apply_none hw).trans ht, (hkept hsome).1⟩
  · rw [replacementOf_eq, (hw'.view a).2, ← replacementOf_eq] at hab
    have hpointer := h.pointer_of_revoked ha (hrevoked a ha) hundisturbed hmoves hab
    obtain ⟨s, t, hs, ht, huser⟩ := hinv.owner a b hpointer
    rw [sessionUser_of_eq hs] at ha
    rw [sessionUser_of_eq ht, ← huser]
    exact ha

/-- **`signOutAll` keeps its contract.**  The UPDATE visits every session of the user that was there
when it began.  What it finds active it revokes; what it finds revoked was so before, with a pointer
as old as the UPDATE, or none. -/
lemma safe_signOutAll {now : Timestamp} (hdb : ∀ k, SessionMoves (rows₀ k) (db.rows k)) :
    Safe accountSchema RotationInvariant (signOutAllContract rows₀ userId)
      (signOutAll userId now) log (fun _ => none) db := by
  intro db₁ h₁
  refine safe_updateAll
    (fun k r => sessionUser db₁.rows k = some userId ∧ r.isActiveSessionOf userId = true)
    (Signing db₁.rows userId) trivial h₁.here ⟨.nothing _ _, fun _ => .refl _, fun _ _ _ h => h⟩
    (fun _ _ hq => hq.2) ?_ ?_ ?_
  · intro scan w db db' hw htodo hlater
    refine ⟨hw.later htodo hlater, fun k r _ hr hq => ?_⟩
    obtain ⟨r', hr', hactive⟩ := hw.active_before hlater.rely.1 hr hq.1 hq.2
    exact ⟨r', hr', hq.1, hactive⟩
  · rintro w db k r hw - hr hactive -
    refine ⟨⟨hw.overwrites.write hr (pointersKept_setRevokedAt now k r), hw.moves, hw.pointers⟩, ?_⟩
    rintro ⟨-, hactive'⟩
    cases r <;> simp_all [setRevokedAt, Row.mapSession, Row.isActiveSessionOf]
  · intro count w db hw hdone db₂ h₂
    have hw₂ := hw.overwrites.later h₂.undisturbed
    have hpointers : ∀ k, replacementOf (db₂.apply w).rows k = replacementOf db₂.rows k := by
      intro k
      rw [replacementOf_eq, replacementOf_eq]
      exact (hw₂.view k).2
    refine ⟨⟨fun k => (hw₂.view k).1, fun a b hab => .inl ?_⟩,
      h₂.inv.moves (fun k => (hw₂.view k).1) hpointers, fun db₃ h₃ => ?_⟩
    · rwa [hpointers] at hab
    · refine ⟨_, fun a ha => ?_,
        (hw.allRevoked h₁.inv hdone h₂.undisturbed h₂.rely.1).moves h₃.rely.1⟩
      exact sessionUser_moves (fun k => (hdb k).trans (h₁.rely.1 k)) ha

end Update

/-! ## The run

The others keep the contracts of the calls.  To get from them to what the UPDATE relies on takes the
condition, step by step. -/

/-- The step is not the commit of a rotation whose session the UPDATE of client `i` has still to
visit. -/
def rotatesNoneAhead {n : ℕ} (i : Fin n) (mid : Sys n Row Statement Reply) (j : Fin n) :
    Action → Bool
  | .Proceed =>
      match (mid.procs j).prog, (mid.procs i).scan with
      | .commit (.CommitRotation sessionId _) _, some scan => !scan.todo.contains sessionId
      | _, _ => true
  | _ => true

lemma not_mem_of_rotatesNoneAhead {n : ℕ} {i j : Fin n} {mid : Sys n Row Statement Reply}
    (h : rotatesNoneAhead i mid j .Proceed = true) {scan : Scan} {a b : Uuid} {next : Statements}
    (hprog : (mid.procs j).prog = .commit (.CommitRotation a b) next)
    (hscan : (mid.procs i).scan = some scan) : a ∉ scan.todo := by
  simp only [rotatesNoneAhead] at h
  simp only [hprog, hscan] at h
  simpa using h

/-- **Signing out everywhere.**  `signOutAll` of client `i` starts in the state `sys`.  If no
rotation of a session that its UPDATE has still to visit commits, then after it no session of the
user that existed, and no session that one of them was rotated to, is active.  Rotations that commit
before the UPDATE or after it do no harm, nor do those of sessions it has passed. -/
theorem signOutAll_revokes {n : ℕ} {service : TokenService} {rows : List (Option Row)}
    {calls : Fin n → AuthCall} {acts more : List (Fin n × Action)}
    {sys sys' : Sys n Row Statement Reply} {i : Fin n} {userId : Uuid} {now : Timestamp}
    {reply : Reply} (hempty : ∀ s, some (.AuthSession s) ∉ rows)
    (hrun : (authSystem service rows calls).run accountSchema acts = some sys)
    (hstart : sys.procs i = .start (signOutAll userId now))
    (hmore : sys.run accountSchema more = some sys')
    (hahead : sys.AlongRun accountSchema (fun mid j a => rotatesNoneAhead i mid j a) more)
    (hdone : (sys'.procs i).prog = .done reply) :
    ∀ a s, sys.db.rows a = some (.AuthSession s) → s.userId = userId →
      ∀ t, Relation.ReflTransGen (Points (replacementOf sys'.db.rows)) a t →
        IsRevoked sys'.db.rows t := by
  have hsecure := authSystem_run hempty hrun
  obtain ⟨contracts, hcontracts⟩ : ∃ contracts, contracts = Function.update
    (authContracts service calls) i (signOutAllContract sys.db.rows userId) := ⟨_, rfl⟩
  have hself : contracts i = signOutAllContract sys.db.rows userId := by
    rw [hcontracts, Function.update_self]
  have hother : ∀ j, j ≠ i → contracts j = authContracts service calls j := by
    intro j hj
    rw [hcontracts, Function.update_of_ne hj]
  have hcommon : ∀ j, (contracts j).mayFail ∧ (contracts j).Guar = (authContract none).Guar := by
    intro j
    by_cases hj : j = i
    · rw [hj, hself]
      exact ⟨trivial, rfl⟩
    · rw [hother j hj]
      exact ⟨trivial, rfl⟩
  have hstarted : Secure accountSchema RotationInvariant contracts sys := by
    refine ⟨hsecure.locked, hsecure.inv, fun j => ?_⟩
    by_cases hj : j = i
    · rw [hj, hself, hstart]
      exact safe_signOutAll fun _ => .refl _
    · rw [hother j hj]
      exact hsecure.procs j
  have hadmissible : sys.AlongRun accountSchema (Admissible contracts) more := by
    refine hahead.imp fun mid j a hmid => ?_
    refine ⟨fun _ => (hcommon j).1, fun ha label next hprog hguar j' _ _ => ?_⟩
    rw [(hcommon j).2] at hguar
    by_cases hj' : j' = i
    · rw [hj', hself]
      refine ⟨hguar.1, fun scan hscan b hb c hbc => ?_⟩
      rcases hguar.2 b c hbc with hold | hlabel
      · exact hold
      · cases hlabel
        subst ha
        exact absurd hb (not_mem_of_rotatesNoneAhead hmid hprog hscan)
    · rw [hother j' hj']
      exact hguar.1
  have hpost := (hstarted.run hadmissible hmore).post hdone
  rw [hself] at hpost
  obtain ⟨members, hmembers, hrevoked⟩ := hpost
  intro a s hs huser t ht
  exact hrevoked.reached (hmembers a (by rw [sessionUser_of_eq hs, huser])) ht

/-! ## A rotation that commits meanwhile

Two orders of the same steps.  In the first the refresh commits before the UPDATE starts and all is
well, and in the second it commits a little later. -/

/-- A sign-in, a refresh with the token it returns, and a sign-out of all sessions. -/
def overtakingCalls : Fin 3 → AuthCall
  | 0 => .SignIn "user@example.com" (fun _ => true) none (plainInput "first")
  | 1 => .Refresh "r." (plainInput "second")
  | 2 => .SignOutAll 0 20

attribute [local instance] neZero_three in
/-- The sign-in, and the refresh up to its commit. -/
def beforeSignOut : List (Fin 3 × Action) :=
  [(0, .Proceed), (0, .Proceed), (0, .Proceed), (0, .Visit 1), (0, .Proceed), (0, .Proceed),
    (1, .Proceed), (1, .Proceed), (1, .Proceed), (1, .Visit 2), (1, .Proceed), (1, .Proceed),
    (1, .Visit 1), (1, .Proceed)]

attribute [local instance] neZero_three in
/-- The UPDATE starts, the refresh commits, and the UPDATE comes to the old session. -/
def overtaken : List (Fin 3 × Action) :=
  [(2, .Proceed), (1, .Proceed), (2, .Visit 1), (2, .Proceed), (2, .Proceed)]

attribute [local instance] neZero_three in
/-- The refresh commits first. -/
def notOvertaken : List (Fin 3 × Action) :=
  [(1, .Proceed), (2, .Proceed), (2, .Visit 2), (2, .Proceed), (2, .Proceed)]

lemma signOutAll_notStarted {sys : Sys 3 Row Statement Reply}
    (h : (authSystem sessionTokens oneUser overtakingCalls).run accountSchema beforeSignOut
      = some sys) : sys.procs 2 = .start (signOutAll 0 20) :=
  Sys.run_procs h (by decide)

/-- Without being overtaken `signOutAll` revokes the replacement too. -/
theorem signOutAll_revokes_notOvertaken : ∃ sys sys',
    (authSystem sessionTokens oneUser overtakingCalls).run accountSchema beforeSignOut = some sys
      ∧ sys.run accountSchema notOvertaken = some sys' ∧ ∀ a s,
        sys.db.rows a = some (.AuthSession s) → s.userId = 0 →
          ∀ t, Relation.ReflTransGen (Points (replacementOf sys'.db.rows)) a t →
            IsRevoked sys'.db.rows t := by
  have hruns : ((authSystem sessionTokens oneUser overtakingCalls).run accountSchema
      beforeSignOut).any (fun sys =>
        decide (sys.AlongRun accountSchema (fun mid j a => rotatesNoneAhead 2 mid j a) notOvertaken)
          && (sys.run accountSchema notOvertaken).any fun sys' =>
            (sys'.procs 2).prog.answer == some .Finished) = true := by decide +kernel
  obtain ⟨sys, hrun, hsys⟩ := (Option.any_eq_true _ _).mp hruns
  rw [Bool.and_eq_true, decide_eq_true_eq] at hsys
  obtain ⟨sys', hmore, hdone⟩ := (Option.any_eq_true _ _).mp hsys.2
  rw [beq_iff_eq, Prog.answer_eq_some] at hdone
  exact ⟨sys, sys', hrun, hmore, signOutAll_revokes (by simp [oneUser]) hrun
    (signOutAll_notStarted hrun) hmore hsys.1 hdone⟩

/-- The old session existed when `signOutAll` started, and what it was rotated to is active when
both calls have returned. -/
theorem signOutAll_missesReplacement : ∃ sys sys' reply,
    (authSystem sessionTokens oneUser overtakingCalls).run accountSchema beforeSignOut = some sys
      ∧ sys.procs 2 = .start (signOutAll 0 20) ∧ sys.run accountSchema overtaken = some sys'
      ∧ (sys'.procs 1).prog = .done reply ∧ (sys'.procs 2).prog = .done .Finished
      ∧ ∃ a s, sys.db.rows a = some (.AuthSession s) ∧ s.userId = 0
        ∧ ∃ t, Relation.ReflTransGen (Points (replacementOf sys'.db.rows)) a t
          ∧ IsActive sys'.db.rows t := by
  have hruns : ((authSystem sessionTokens oneUser overtakingCalls).run accountSchema
      beforeSignOut).any (fun sys => sessionUser sys.db.rows 1 == some 0
        && (sys.run accountSchema overtaken).any fun sys' => (sys'.procs 1).prog.answer.isSome
          && (sys'.procs 2).prog.answer == some .Finished
          && replacementOf sys'.db.rows 1 == some 2
          && (sys'.db.rows 2).any Row.isActiveSession) = true := by decide +kernel
  obtain ⟨sys, hrun, hsys⟩ := (Option.any_eq_true _ _).mp hruns
  rw [Bool.and_eq_true, beq_iff_eq] at hsys
  obtain ⟨sys', hmore, hend⟩ := (Option.any_eq_true _ _).mp hsys.2
  simp only [Bool.and_eq_true, beq_iff_eq, Prog.answer_eq_some] at hend
  obtain ⟨⟨⟨hrefreshed, hdone⟩, hpointer⟩, hactive⟩ := hend
  obtain ⟨reply, hreply⟩ := Option.isSome_iff_exists.mp hrefreshed
  obtain ⟨s, hs, huser⟩ := exists_of_sessionUser hsys.1
  obtain ⟨r, hr, hnone⟩ := (Option.any_eq_true _ _).mp hactive
  refine ⟨sys, sys', reply, hrun, signOutAll_notStarted hrun, hmore,
    Prog.answer_eq_some.mp hreply, hdone, 1, s, hs, huser, 2, .single hpointer, ?_⟩
  cases r with
  | AuthSession t => exact ⟨t, hr, Option.isNone_iff_eq_none.mp hnone⟩
  | _ => cases hnone

end RagStack
