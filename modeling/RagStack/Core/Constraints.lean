import RagStack.Core.RelyGuarantee

/-!
# What the database enforces

Unique indexes and CHECKs are looked at with every write, in the view of the client that writes.  A
view is not what is committed: other transactions have pending writes that it does not show, and two
of them could be admitted separately and clash once both are committed.  This is what makes unique
indexes a matter of locks.  A client whose row would clash with one that another transaction has
written waits for that transaction, and the step function models this wait.

`Enforced` says what it amounts to: the constraints hold of the committed rows and of the rows that
any client sees, and no version that a client has written clashes with one of another client.  The
last part is the invariant that carries the induction.  Without it a commit could not be justified,
since it turns pending rows of one client into committed rows of all.

The theorem holds for every program and every schedule, so that nothing about an index has to be
proved again for the code that writes to its table: a unique index of the schema is unique in every
state of every run.

* `Valid` — rows that satisfy the constraints.
* `Lawful` — what this takes of a schema.
* `Enforced.step`, `Enforced.run` — every run keeps the constraints.
-/

namespace RagStack

section Constraints

variable {n : ℕ} {Row L α : Type}

/-- No row violates a CHECK, and no two rows clash.  It is about rows that are committed; what a
transaction has written is checked against what it sees. -/
structure Valid (S : Schema Row) (rows : Rows Row) : Prop where
  check : ∀ k r, rows k = some r → S.check r = true
  clash : ∀ k k' r r', k ≠ k' → rows k = some r → rows k' = some r' → S.clash r r' = false

/-- Clashes are mutual, and a row that loses references satisfies the constraints it satisfied. -/
structure Schema.Lawful (S : Schema Row) : Prop where
  symm : ∀ r r', S.clash r r' = S.clash r' r
  setNull_clash : ∀ gone r r', S.clash r r' = false → S.clash (S.setNull gone r) r' = false
  setNull_check : ∀ gone r, S.check r = true → S.check (S.setNull gone r) = true

/-- **The constraints hold**, in what is committed and in what the clients see. -/
structure Enforced (S : Schema Row) (sys : Sys n Row L α) : Prop where
  locked : Locked S sys
  committed : Valid S sys.db.rows
  seen : ∀ i, Valid S (sys.view i).rows
  pending : ∀ i j, i ≠ j → ∀ k k' r r', k ≠ k' → (sys.procs i).writes k = some (some r) →
    (sys.procs j).writes k' = some (some r') → S.clash r r' = false

variable {S : Schema Row} {sys sys' : Sys n Row L α} {i : Fin n}

/-- A row that is admitted keeps the constraints. -/
lemma Valid.write {view : Db Row} {k : Key} {r : Row} (hS : S.Lawful) (h : Valid S view.rows)
    (hgenerated : ∀ k' r', view.rows k' = some r' → k' < view.clock)
    (hadmits : S.Admits view k r) : Valid S (Function.update view.rows k (some r)) := by
  obtain ⟨-, hunique, hcheck⟩ := hadmits
  have hothers : ∀ k' r', k' ≠ k → view.rows k' = some r' → S.clash r r' = false := by
    intro k' r' hk' hr'
    have hall := hunique k' (hgenerated k' r' hr') hk'
    rw [hr', Option.all_some, Bool.not_eq_true'] at hall
    exact hall
  refine ⟨fun k' r' hr' => ?_, fun k₁ k₂ r₁ r₂ hne h₁ h₂ => ?_⟩
  · by_cases hk : k' = k
    · subst hk
      rw [Function.update_self] at hr'
      cases hr'
      exact hcheck
    · rw [Function.update_of_ne hk] at hr'
      exact h.check k' r' hr'
  · by_cases hk₁ : k₁ = k
    · subst hk₁
      rw [Function.update_self] at h₁
      rw [Function.update_of_ne hne.symm] at h₂
      cases h₁
      exact hothers k₂ r₂ hne.symm h₂
    · rw [Function.update_of_ne hk₁] at h₁
      by_cases hk₂ : k₂ = k
      · subst hk₂
        rw [Function.update_self] at h₂
        cases h₂
        rw [hS.symm]
        exact hothers k₁ r₁ hk₁ h₁
      · rw [Function.update_of_ne hk₂] at h₂
        exact h.clash k₁ k₂ r₁ r₂ hne h₁ h₂

/-- What a client sees once it has written a row. -/
lemma Db.apply_update (db : Db Row) (w : Writes Row) (k : Key) (v : Option Row) :
    (db.apply (Function.update w k (some v))).rows = Function.update (db.apply w).rows k v := by
  funext k'
  by_cases hk : k' = k
  · subst hk
    rw [Db.rows_apply_update_self, Function.update_self]
  · rw [Db.rows_apply_update_of_ne _ _ hk, Function.update_of_ne hk]

/-- What a client sees has a generated key. -/
lemma Locked.seen_lt (h : Locked S sys) {k : Key} {r : Row} (hr : (sys.view i).rows k = some r) :
    k < sys.db.clock := by
  cases hw : (sys.procs i).writes k with
  | none => exact h.generated k r (Db.rows_apply_none hw ▸ hr)
  | some v => exact h.written i k v hw

/-- Client `i` goes on as `p`; the others are where they were. -/
lemma Enforced.become (hS : S.Lawful) (h : Enforced S sys) {db : Db Row} {p : Proc Row L α}
    (hdb : db.rows = sys.db.rows) (hlocked : Locked S (Sys.become { sys with db } i p))
    (hseen : Valid S (db.apply p.writes).rows)
    (hpending : ∀ j, j ≠ i → ∀ k k' r r', k ≠ k' → p.writes k = some (some r) →
      (sys.procs j).writes k' = some (some r') → S.clash r r' = false) :
    Enforced S (Sys.become { sys with db } i p) := by
  have hself := Sys.procs_become_self { sys with db } i p
  have hother : ∀ j, j ≠ i → (Sys.become { sys with db } i p).procs j = sys.procs j :=
    fun j hj => Sys.procs_become_of_ne _ _ _ hj
  refine ⟨hlocked, hdb ▸ h.committed, fun j => ?_, ?_⟩
  · show Valid S (db.apply ((Sys.become { sys with db } i p).procs j).writes).rows
    by_cases hj : j = i
    · subst hj
      rwa [hself]
    · rw [hother j hj]
      have hview : (db.apply (sys.procs j).writes).rows = (sys.view j).rows := by
        simp only [Sys.view, Db.apply, hdb]
      rw [hview]
      exact h.seen j
  · intro j j' hjj' k k' r r' hne hr hr'
    by_cases hj : j = i
    · subst hj
      rw [hself] at hr
      rw [hother j' hjj'.symm] at hr'
      exact hpending j' hjj'.symm k k' r r' hne hr hr'
    · rw [hother j hj] at hr
      by_cases hj' : j' = i
      · subst hj'
        rw [hself] at hr'
        rw [hS.symm]
        exact hpending j hj k' k r' r hne.symm hr' hr
      · rw [hother j' hj'] at hr'
        exact h.pending j j' hjj' k k' r r' hne hr hr'

/-- Client `i` goes on without having written anything new. -/
lemma Enforced.same (hS : S.Lawful) (h : Enforced S sys) {p : Proc Row L α}
    (hlocked : Locked S (sys.become i p)) (hp : p.writes = (sys.procs i).writes) :
    Enforced S (sys.become i p) := by
  refine h.become hS rfl hlocked ?_ ?_
  · rw [hp]
    exact h.seen i
  · intro j hj
    rw [hp]
    exact h.pending i j hj.symm

/-- Client `i` gives up what it wrote. -/
lemma Enforced.clear (hS : S.Lawful) (h : Enforced S sys) {p : Proc Row L α}
    (hlocked : Locked S (sys.become i p)) (hp : p.writes = fun _ => none) :
    Enforced S (sys.become i p) := by
  refine h.become hS rfl hlocked ?_ ?_
  · rw [hp, Db.apply_nothing]
    exact h.committed
  · intro j hj k k' r r' hne hr
    rw [hp] at hr
    cases hr

lemma Enforced.write (hS : S.Lawful) (h : Enforced S sys) {db : Db Row} {k : Key} {r : Row}
    {p : Proc Row L α} (hdb : db.rows = sys.db.rows)
    (hlocked : Locked S (Sys.become { sys with db } i p))
    (hp : p.writes = Function.update (sys.procs i).writes k (some (some r)))
    (hadmits : S.Admits (sys.view i) k r) (hstays : sys.UniqueStays S i k r) :
    Enforced S (Sys.become { sys with db } i p) := by
  refine h.become hS hdb hlocked ?_ ?_
  · have hview : (db.apply p.writes).rows = Function.update (sys.view i).rows k (some r) := by
      rw [hp, Db.apply_update]
      simp only [Sys.view, Db.apply, hdb]
    rw [hview]
    exact (h.seen i).write hS (fun k' r' hr' => h.locked.seen_lt hr') hadmits
  · intro j hj k₁ k₂ r₁ r₂ hne h₁ h₂
    rw [hp] at h₁
    by_cases hk : k₁ = k
    · subst hk
      rw [Function.update_self] at h₁
      cases h₁
      have hall := hstays j hj k₂ (h.locked.written j k₂ _ h₂) hne.symm
      rw [h₂, Option.join_some, Option.all_some, Bool.not_eq_true'] at hall
      exact hall
    · rw [Function.update_of_ne hk] at h₁
      exact h.pending i j hj.symm k₁ k₂ r₁ r₂ hne h₁ h₂

/-- What is left after a DELETE: rows that were there, some of them without references. -/
lemma rows_erase {view : Db Row} {k k' : Key} {v : Option Row} {r : Row}
    (he : S.erase view k k' = some v) (hv : v = some r) :
    ∃ gone r₀, view.rows k' = some r₀ ∧ r = S.setNull gone r₀ := by
  subst hv
  simp only [Schema.erase] at he
  obtain ⟨r₀, hr₀, he⟩ := Option.bind_eq_some_iff.mp he
  split at he
  · cases he
  · split at he
    · cases he
      exact ⟨_, r₀, hr₀, rfl⟩
    · cases he

/-- Client `i` deletes a row with what depends on it. -/
lemma Enforced.delete (hS : S.Lawful) (h : Enforced S sys) {k : Key} {p : Proc Row L α}
    (hlocked : Locked S (sys.become i p)) (herasable : sys.Erasable S i k)
    (hp : p.writes = fun k' =>
      (S.erase (sys.view i) k k').orElse fun _ => (sys.procs i).writes k') :
    Enforced S (sys.become i p) := by
  -- every row that is left comes from one that the client saw
  have hleft : ∀ k' r, (sys.db.apply p.writes).rows k' = some r →
      ∃ r₀, (sys.view i).rows k' = some r₀ ∧ (r = r₀ ∨ ∃ gone, r = S.setNull gone r₀) := by
    intro k' r hr
    cases he : S.erase (sys.view i) k k' with
    | none =>
        have hwrites : p.writes k' = (sys.procs i).writes k' := by
          simp only [hp, he, Option.orElse_none]
        refine ⟨r, ?_, .inl rfl⟩
        rw [← hr]
        show ((sys.procs i).writes k').getD _ = (p.writes k').getD _
        rw [hwrites]
    | some v =>
        have hv : v = some r := by
          rw [← hr]
          exact (Db.rows_apply_some (by simp only [hp, he, Option.orElse_some])).symm
        obtain ⟨gone, r₀, hr₀, hr⟩ := rows_erase he hv
        exact ⟨r₀, hr₀, .inr ⟨gone, hr⟩⟩
  have hclash : ∀ r r₀ r', (r = r₀ ∨ ∃ gone, r = S.setNull gone r₀) → S.clash r₀ r' = false →
      S.clash r r' = false := by
    rintro r r₀ r' (rfl | ⟨gone, rfl⟩) hclash
    · exact hclash
    · exact hS.setNull_clash _ _ _ hclash
  refine h.become hS rfl hlocked ⟨fun k' r hr => ?_, fun k₁ k₂ r₁ r₂ hne h₁ h₂ => ?_⟩ ?_
  · obtain ⟨r₀, hr₀, hr⟩ := hleft k' r hr
    have hcheck := (h.seen i).check k' r₀ hr₀
    rcases hr with rfl | ⟨gone, rfl⟩
    · exact hcheck
    · exact hS.setNull_check _ _ hcheck
  · obtain ⟨r₀, hr₀, hr⟩ := hleft k₁ r₁ h₁
    obtain ⟨r₀', hr₀', hr'⟩ := hleft k₂ r₂ h₂
    refine hclash _ _ _ hr ?_
    rw [hS.symm]
    refine hclash _ _ _ hr' ?_
    rw [hS.symm]
    exact (h.seen i).clash k₁ k₂ r₀ r₀' hne hr₀ hr₀'
  · intro j hj k₁ k₂ r₁ r₂ hne h₁ h₂
    cases he : S.erase (sys.view i) k k₁ with
    | none =>
        simp only [hp, he, Option.orElse_none] at h₁
        exact h.pending i j hj.symm k₁ k₂ r₁ r₂ hne h₁ h₂
    | some v =>
        simp only [hp, he, Option.orElse_some] at h₁
        obtain ⟨gone, r₀, hr₀, rfl⟩ := rows_erase he (Option.some.inj h₁)
        refine hS.setNull_clash _ _ _ ?_
        cases hw : (sys.procs i).writes k₁ with
        | some v' =>
            rw [Sys.view, Db.rows_apply_some hw] at hr₀
            subst hr₀
            exact h.pending i j hj.symm k₁ k₂ r₀ r₂ hne hw h₂
        | none =>
            -- the row is committed, and nobody else has written it: client `j` sees it too
            have hunlocked := herasable.1 k₁ (h.locked.seen_lt hr₀) (by rw [he]; rfl) j hj
            rw [Sys.view, Db.rows_apply_none hw] at hr₀
            refine (h.seen j).clash k₁ k₂ r₀ r₂ hne ?_ (Db.rows_apply_some h₂)
            rw [Sys.view, Db.rows_apply_none (Option.isNone_iff_eq_none.mp hunlocked), hr₀]

lemma Enforced.commit (hS : S.Lawful) (h : Enforced S sys) {p : Proc Row L α}
    (hlocked : Locked S (Sys.become { sys with db := sys.view i } i p))
    (hp : p.writes = fun _ => none) :
    Enforced S (Sys.become { sys with db := sys.view i } i p) := by
  have hself := Sys.procs_become_self { sys with db := sys.view i } i p
  have hother : ∀ j, j ≠ i →
      (Sys.become { sys with db := sys.view i } i p).procs j = sys.procs j :=
    fun j hj => Sys.procs_become_of_ne _ _ _ hj
  -- what client `j` sees was written by it, or by the committer, or seen by it before
  have horigin : ∀ j, j ≠ i → ∀ k r, ((sys.view i).apply (sys.procs j).writes).rows k = some r →
      (sys.view j).rows k = some r ∨ (sys.procs j).writes k = none
        ∧ (sys.procs i).writes k = some (some r) := by
    intro j hj k r hr
    cases hwj : (sys.procs j).writes k with
    | some v =>
        rw [Db.rows_apply_some hwj] at hr
        exact .inl (hr ▸ Db.rows_apply_some hwj)
    | none =>
        rw [Db.rows_apply_none hwj] at hr
        cases hwi : (sys.procs i).writes k with
        | some v =>
            rw [Sys.view, Db.rows_apply_some hwi] at hr
            exact .inr ⟨rfl, by rw [hr]⟩
        | none =>
            rw [Sys.view, Db.rows_apply_none hwi] at hr
            exact .inl (hr ▸ Db.rows_apply_none hwj)
  -- a version of the committer and a row that client `j` saw
  have hmixed : ∀ j, j ≠ i → ∀ k k' r r', k ≠ k' → (sys.procs i).writes k = some (some r) →
      ((sys.view i).apply (sys.procs j).writes).rows k' = some r' →
      (sys.procs j).writes k = none → S.clash r r' = false := by
    intro j hj k k' r r' hne hr hr' hwj
    cases hwj' : (sys.procs j).writes k' with
    | some v =>
        rw [Db.rows_apply_some hwj'] at hr'
        subst hr'
        exact h.pending i j hj.symm k k' r r' hne hr hwj'
    | none =>
        rw [Db.rows_apply_none hwj'] at hr'
        exact (h.seen i).clash k k' r r' hne (Db.rows_apply_some hr) hr'
  refine ⟨hlocked, h.seen i, fun j => ?_, fun j j' hjj' k k' r r' hne hr hr' => ?_⟩
  · show Valid S ((sys.view i).apply
      ((Sys.become { sys with db := sys.view i } i p).procs j).writes).rows
    by_cases hj : j = i
    · subst hj
      rw [hself, hp, Db.apply_nothing]
      exact h.seen j
    · rw [hother j hj]
      refine ⟨fun k r hr => ?_, fun k k' r r' hne hr hr' => ?_⟩
      · rcases horigin j hj k r hr with hold | ⟨-, hnew⟩
        · exact (h.seen j).check k r hold
        · exact (h.seen i).check k r (Db.rows_apply_some hnew)
      · rcases horigin j hj k r hr with hold | ⟨hfree, hnew⟩
        · rcases horigin j hj k' r' hr' with hold' | ⟨hfree', hnew'⟩
          · exact (h.seen j).clash k k' r r' hne hold hold'
          · rw [hS.symm]
            exact hmixed j hj k' k r' r hne.symm hnew' hr hfree'
        · exact hmixed j hj k k' r r' hne hnew hr' hfree
  · have hnot : ∀ j k r,
        ((Sys.become { sys with db := sys.view i } i p).procs j).writes k = some (some r) →
        j ≠ i := by
      rintro j k r hr rfl
      rw [hself, hp] at hr
      cases hr
    have hj := hnot j k r hr
    have hj' := hnot j' k' r' hr'
    rw [hother j hj] at hr
    rw [hother j' hj'] at hr'
    exact h.pending j j' hjj' k k' r r' hne hr hr'

/-- **Every step keeps the constraints.**  A write is only taken if it is admitted in the view of
its client and clashes with no pending write, and a DELETE leaves rows that satisfied the
constraints before. -/
theorem Enforced.step (hS : S.Lawful) (h : Enforced S sys) {a : Action}
    (hmoved : Moved S sys i a sys') : Enforced S sys' := by
  have hlocked := h.locked.step hmoved
  cases hmoved with
  | read hscan hprog => exact h.same hS hlocked rfl
  | insert hscan hprog hadmits hunhindered =>
      exact h.write hS rfl hlocked rfl hadmits hunhindered.2.2
  | insertRejected hscan hprog hrejects => exact h.clear hS hlocked rfl
  | updateStart hscan hprog => exact h.same hS hlocked rfl
  | updateEnd hscan hprog => exact h.same hS hlocked rfl
  | delete hscan hprog hfound herasable => exact h.delete hS hlocked herasable rfl
  | deleteNothing hscan hprog hmissing => exact h.same hS hlocked rfl
  | commit hscan hprog => exact h.commit hS hlocked rfl
  | rollback hscan hprog => exact h.clear hS hlocked rfl
  | hit hscan hprog hk hr hp hadmits hunhindered =>
      exact h.write hS rfl hlocked rfl hadmits hunhindered.2.2
  | hitRejected hscan hprog hk hr hp hrejects => exact h.clear hS hlocked rfl
  | miss hscan hprog hk hr => exact h.same hS hlocked rfl
  | abort hdone => exact h.clear hS hlocked rfl

lemma Enforced.start {db : Db Row} {progs : Fin n → Prog Row L α} (hvalid : Valid S db.rows)
    (hgenerated : ∀ k r, db.rows k = some r → k < db.clock) :
    Enforced S (Sys.start db progs) := by
  refine ⟨⟨?_, ?_, hgenerated, ?_⟩, hvalid, fun _ => hvalid, ?_⟩
  · rintro i j - k v ⟨⟩
  · rintro i j - k ⟨⟩
  · rintro i k v ⟨⟩
  · rintro i j - k k' r r' - ⟨⟩

/-- **Every run keeps the constraints.** -/
theorem Enforced.run (hS : S.Lawful) (h : Enforced S sys) {acts : List (Fin n × Action)}
    (hrun : sys.run S acts = some sys') : Enforced S sys' := by
  induction acts generalizing sys with
  | nil =>
      cases hrun
      exact h
  | cons act acts ih =>
      obtain ⟨mid, hmid, hrest⟩ := Option.bind_eq_some_iff.mp hrun
      exact ih (h.step hS (Sys.step_moved hmid)) hrest

end Constraints

end RagStack
