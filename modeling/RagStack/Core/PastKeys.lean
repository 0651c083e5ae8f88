import RagStack.Core.Overwrites
import RagStack.Core.SingleCommit

/-!
# Rows that have gone

Keys are generated once.  A row that was deleted is not inserted again, and whoever updates a row
has seen it.  So a row that has gone stays away, whatever the clients do from then on, and nobody
has to promise it.

The difficulty is in the transactions that are under way when the row goes.  One of them could have
written a new version of the row that is not committed yet.  It cannot, because the row is locked by
whoever deletes it, but this has to be carried along as an invariant: a pending version of an old
row is only held while the row is still there.

The second half is about the client that deletes.  Once its own transaction no longer sees the row,
it will not see it later, and if its program ends well the row has gone for everybody.  This needs
that no statement of the program throws its writes away in between.

`Prog.map` renames labels and answers.  It lets programs with answers of different types run in one
system, and their properties carry over.

* `Sys.Past` — the key was generated, and nobody holds a row of it that is not committed.
* `Sys.Past.step`, `Sys.Past.gone` — this stays so, and a row that has gone stays away.
* `Along.safe_gone` — a program that has deleted the row.
* `Prog.map` — a program with other labels and answers.
-/

namespace RagStack

/-! ## Keys of the past

A key is past when it has been generated and no transaction is about to bring a row of it. -/

section Past

variable {n : ℕ} {Row L α : Type} {S : Schema Row} {sys sys' : Sys n Row L α} {i : Fin n}
  {a : Action} {k : Key}

/-- The key `k` belongs to a row that is or was committed. -/
structure Sys.Past (sys : Sys n Row L α) (k : Key) : Prop where
  generated : k < sys.db.clock
  pending : ∀ i r, (sys.procs i).writes k = some (some r) → (sys.db.rows k).isSome = true

lemma Sys.past_of_committed (h : Locked S sys) {r : Row} (hr : sys.db.rows k = some r) :
    sys.Past k :=
  ⟨h.generated k r hr, fun _ _ _ => by rw [hr]; rfl⟩

lemma Sys.Past.committed_of_view (h : sys.Past k) {r : Row} (hr : (sys.view i).rows k = some r) :
    (sys.db.rows k).isSome = true := by
  cases hw : (sys.procs i).writes k with
  | none =>
      rw [Sys.view, Db.rows_apply_none hw] at hr
      rw [hr]
      rfl
  | some v =>
      rw [Sys.view, Db.rows_apply_some hw] at hr
      exact h.pending i r (hr ▸ hw)

/-- Nobody sees a row that has gone. -/
lemma Sys.Past.view_none (h : sys.Past k) (hgone : sys.db.rows k = none) :
    (sys.view i).rows k = none := by
  cases hr : (sys.view i).rows k with
  | none => rfl
  | some r =>
      have hsome := h.committed_of_view hr
      rw [hgone] at hsome
      cases hsome

/-- Client `i` becomes `p`; the committed row is the same. -/
lemma Sys.Past.become (h : sys.Past k) {db : Db Row} {p : Proc Row L α}
    (hclock : sys.db.clock ≤ db.clock) (hrow : db.rows k = sys.db.rows k)
    (hp : ∀ r, p.writes k = some (some r) → (sys.db.rows k).isSome = true) :
    (Sys.become { sys with db } i p).Past k := by
  refine ⟨Nat.lt_of_lt_of_le h.generated hclock, fun j r hj => ?_⟩
  show (db.rows k).isSome = true
  rw [hrow]
  by_cases hji : j = i
  · subst hji
    rw [Sys.procs_become_self] at hj
    exact hp r hj
  · rw [Sys.procs_become_of_ne _ _ _ hji] at hj
    exact h.pending j r hj

/-- **Step lemma.** -/
theorem Sys.Past.step (h : sys.Past k) (hlocked : Locked S sys) (hmoved : Moved S sys i a sys') :
    sys'.Past k := by
  cases hmoved with
  | insert hscan hprog =>
      refine h.become (Nat.le_succ _) rfl fun r hr => h.pending i r ?_
      dsimp only at hr
      rwa [Function.update_of_ne (Nat.ne_of_lt h.generated)] at hr
  | @hit label p f next scan k' r₀ hscan hprog hk hr =>
      refine h.become le_rfl rfl fun r hw => ?_
      dsimp only at hw
      by_cases hkk : k = k'
      · subst hkk
        exact h.committed_of_view hr
      · rw [Function.update_of_ne hkk] at hw
        exact h.pending i r hw
  | delete hscan hprog hfound =>
      refine h.become le_rfl rfl fun r hr => ?_
      dsimp only at hr
      cases herase : S.erase (sys.view i) _ k with
      | none =>
          rw [herase] at hr
          exact h.pending i r hr
      | some v =>
          obtain ⟨r', hr', -⟩ := Schema.erase_some herase
          exact h.committed_of_view hr'
  | commit hscan hprog =>
      refine ⟨h.generated, fun j r hj => ?_⟩
      by_cases hji : j = i
      · subst hji
        rw [Sys.procs_become_self] at hj
        cases hj
      · rw [Sys.procs_become_of_ne _ _ _ hji] at hj
        have hnone := hlocked.exclusive j i hji k _ hj
        show ((sys.view i).rows k).isSome = true
        rw [Sys.view, Db.rows_apply_none hnone]
        exact h.pending j r hj
  | rollback | insertRejected | hitRejected | abort =>
      exact h.become le_rfl rfl fun r hr => by cases hr
  | read | updateStart | updateEnd | deleteNothing | miss =>
      exact h.become le_rfl rfl fun r hr => h.pending i r hr

/-- What a step does to the row. -/
theorem Sys.Past.gone_step (h : sys.Past k) (hmoved : Moved S sys i a sys')
    (hgone : sys.db.rows k = none) : sys'.db.rows k = none := by
  cases hmoved with
  | commit => exact h.view_none hgone
  | _ => exact hgone

/-- **A row that has gone stays away**, in every state of every run, whatever programs the clients
run. -/
theorem Sys.Past.gone (h : sys.Past k) (hlocked : Locked S sys) (hgone : sys.db.rows k = none)
    {acts : List (Fin n × Action)} (hrun : sys.run S acts = some sys') : sys'.db.rows k = none := by
  induction acts generalizing sys with
  | nil =>
      cases hrun
      exact hgone
  | cons act acts ih =>
      obtain ⟨mid, hmid, hrest⟩ := Option.bind_eq_some_iff.mp hrun
      have hmoved := Sys.step_moved hmid
      exact ih (h.step hlocked hmoved) (hlocked.step hmoved) (h.gone_step hmoved hgone) hrest

/-- A condition on the steps of a run that follows from an invariant. -/
theorem Sys.alongRun_of_invariant {P : Sys n Row L α → Fin n → Action → Prop}
    {J : Sys n Row L α → Prop} (hJ : J sys)
    (hstep : ∀ sys i a sys', J sys → Moved S sys i a sys' → J sys')
    (hP : ∀ sys i a, J sys → P sys i a) (acts : List (Fin n × Action)) : sys.AlongRun S P acts := by
  induction acts generalizing sys with
  | nil => trivial
  | cons act acts ih =>
      exact ⟨hP _ _ _ hJ, fun mid hmid => ih (hstep _ _ _ _ hJ (Sys.step_moved hmid))⟩

end Past

/-! ## Programs that have deleted a row

The rest of the program is treated like any other, by recursion over its text. -/

section Programs

variable {Row L α : Type} {S : Schema Row} {Inv : Rows Row → Prop} {C : Contract Row L α}
  {E : Evolution Row} {bound : ℕ} {k : Key} {log : List L} {scan : Option Scan} {w : Writes Row}
  {db db' : Db Row}

/-- The program throws no writes away, unless it fails. -/
def Prog.KeepsWrites : Prog Row L α → Prop
  | .done _ | .failed => True
  | .read _ next => ∀ db, (next db).KeepsWrites
  | .insert _ _ next => ∀ k, (next k).KeepsWrites
  | .update _ _ _ next => ∀ count, (next count).KeepsWrites
  | .delete _ _ _ next => ∀ count, (next count).KeepsWrites
  | .commit _ next => next.KeepsWrites
  | .rollback _ => False

/-- What a transaction does not see, it does not see later, if the row does not come back. -/
lemma viewGone (hrely : db.rows k = none → db'.rows k = none)
    (hgone : (db.apply w).rows k = none) : (db'.apply w).rows k = none := by
  cases hw : w k with
  | none =>
      rw [Db.rows_apply_none hw] at hgone ⊢
      exact hrely hgone
  | some v =>
      rw [Db.rows_apply_some hw] at hgone ⊢
      exact hgone

/-- **The rest of a program that sees the row no more.**  When it has succeeded, the row has gone.
-/
theorem Along.safe_gone {p : α → Bool} (hfail : C.mayFail)
    (hrely : ∀ log scan rows rows', C.Rely log scan rows rows' → rows k = none → rows' k = none)
    (hcommit : ∀ label log w db, Overwrites E w db → Later S Inv C log none w db db →
      C.Guar (label :: log) db.rows (db.apply w).rows ∧ Inv (db.apply w).rows)
    (hdone : ∀ log a rows, p a = false ∨ rows k = none → C.Post log a rows) {prog : Prog Row L α}
    (h : Along S E bound (fun _ => True) (fun _ => True) prog) (hcommits : prog.CommitsTo p)
    (hkeeps : prog.KeepsWrites) (hbound : bound ≤ db.clock) (hk : k < db.clock)
    (hw : Overwrites E w db) (hgone : (db.apply w).rows k = none) :
    Safe S Inv C prog log w db := by
  have hlater : ∀ {log scan w db db'}, Later S Inv C log scan w db db' →
      (db.apply w).rows k = none → (db'.apply w).rows k = none := by
    intro log scan w db db' hlater hgone
    exact viewGone (hrely _ _ _ _ hlater.rely) hgone
  induction prog generalizing log w db with
  | done a => exact fun db' _ => hdone log a _ (.inl hcommits)
  | failed => exact hfail
  | read label next ih =>
      intro db' h'
      exact ih _ (h _) (hcommits _) (hkeeps _) (hbound.trans h'.undisturbed.clock)
        (Nat.lt_of_lt_of_le hk h'.undisturbed.clock) (hw.later h'.undisturbed) (hlater h' hgone)
  | insert label row next ih =>
      intro db' h'
      have hbound' := hbound.trans h'.undisturbed.clock
      have hk' := Nat.lt_of_lt_of_le hk h'.undisturbed.clock
      have hgone' := hlater h' hgone
      obtain ⟨hmoves, hnext⟩ := h db'.clock hbound'
      refine ⟨fun _ => ?_, fun _ => hfail⟩
      refine ih _ hnext (hcommits _) (hkeeps _) (hbound'.trans (Nat.le_succ _))
        (hk'.trans (Nat.lt_succ_self _)) ((hw.later h'.undisturbed).insert h'.fresh.1 hmoves) ?_
      exact (Db.rows_apply_update_of_ne _ _ (Nat.ne_of_lt hk') _).trans hgone'
  | update label q f next ih =>
      intro db' h'
      refine safe_updateAll (fun _ _ => False) (fun w db => Overwrites E w db ∧ bound ≤ db.clock
          ∧ k < db.clock ∧ (db.apply w).rows k = none) hfail h'.here
        ⟨hw.later h'.undisturbed, hbound.trans h'.undisturbed.clock,
          Nat.lt_of_lt_of_le hk h'.undisturbed.clock, hlater h' hgone⟩
        (fun _ _ hq => hq.elim) ?_ ?_ ?_
      · rintro scan w db db' ⟨hw, hclock, hk, hgone⟩ - h'
        exact ⟨⟨hw.later h'.undisturbed, hclock.trans h'.undisturbed.clock,
          Nat.lt_of_lt_of_le hk h'.undisturbed.clock, hlater h' hgone⟩, fun _ _ _ _ hq => hq.elim⟩
      · rintro w db k' r ⟨hw, hclock, hk, hgone⟩ - hr hp -
        have hne : k ≠ k' := by
          rintro rfl
          cases hgone.symm.trans hr
        exact ⟨⟨hw.write hr (h.1 k' r hp), hclock, hk,
          (Db.rows_apply_update_of_ne _ _ hne _).trans hgone⟩, id⟩
      · rintro count w db ⟨hw, hclock, hk, hgone⟩ -
        exact ih count (h.2 count) (hcommits count) (hkeeps count) hclock hk hw hgone
  | delete label q k' next ih =>
      intro db' h'
      have hbound' := hbound.trans h'.undisturbed.clock
      have hk' := Nat.lt_of_lt_of_le hk h'.undisturbed.clock
      have hw' := hw.later h'.undisturbed
      have hgone' := hlater h' hgone
      refine ⟨fun hfound => ?_, fun _ => ih 0 (h.2 0) (hcommits 0) (hkeeps 0) hbound' hk' hw' hgone'⟩
      obtain ⟨r, hr, hq⟩ := (Option.any_eq_true _ _).mp hfound
      refine ih 1 (h.2 1) (hcommits 1) (hkeeps 1) hbound' hk' (hw'.erase (h.1 _ r hr hq)) ?_
      cases herase : S.erase (db'.apply w) k' k with
      | none =>
          show ((S.erase (db'.apply w) k' k).orElse fun _ => w k).getD (db'.rows k) = none
          rw [herase]
          exact hgone'
      | some v =>
          obtain ⟨r', hr', -⟩ := Schema.erase_some herase
          cases hgone'.symm.trans hr'
  | commit label next ih =>
      intro db' h'
      obtain ⟨hguar, hinv⟩ := hcommit label log w db' (hw.later h'.undisturbed) h'.here
      obtain ⟨a, rfl, -⟩ := hcommits
      refine ⟨hguar, hinv, fun db'' h'' => hdone _ a _ (.inr ?_)⟩
      exact hrely _ _ _ _ h''.rely (hlater h' hgone)
  | rollback next ih => exact hkeeps.elim

end Programs

/-! ## Programs under other names -/

/-- The program with other labels and answers. -/
def Prog.map {Row L L' α α' : Type} (f : L → L') (g : α → α') : Prog Row L α → Prog Row L' α'
  | .done a => .done (g a)
  | .failed => .failed
  | .read label next => .read (f label) fun db => (next db).map f g
  | .insert label row next => .insert (f label) row fun k => (next k).map f g
  | .update label p h next => .update (f label) p h fun count => (next count).map f g
  | .delete label p k next => .delete (f label) p k fun count => (next count).map f g
  | .commit label next => .commit (f label) (next.map f g)
  | .rollback next => .rollback (next.map f g)

section Map

variable {Row L L' α α' : Type} {S : Schema Row} {E : Evolution Row} {bound : ℕ} {f : L → L'}
  {g : α → α'} {prog : Prog Row L α}

lemma Along.map (h : Along S E bound (fun _ => True) (fun _ => True) prog) :
    Along S E bound (fun _ => True) (fun _ => True) (prog.map f g) := by
  induction prog with
  | done a => trivial
  | failed => trivial
  | read label next ih => exact fun db => ih db (h db)
  | insert label row next ih => exact fun k hk => ⟨(h k hk).1, ih k (h k hk).2⟩
  | update label p h' next ih => exact ⟨h.1, fun count => ih count (h.2 count)⟩
  | delete label p k next ih => exact ⟨h.1, fun count => ih count (h.2 count)⟩
  | commit label next ih => exact ⟨trivial, ih h.2⟩
  | rollback next ih => exact ih h

lemma Prog.CommitsTo.map {p : α → Bool} {p' : α' → Bool} (hp : ∀ a, p' (g a) = p a)
    (h : prog.CommitsTo p) : (prog.map f g).CommitsTo p' := by
  induction prog with
  | done a => exact (hp a).trans h
  | failed => trivial
  | read label next ih => exact fun db => ih db (h db)
  | insert label row next ih => exact fun k => ih k (h k)
  | update label q f next ih => exact fun count => ih count (h count)
  | delete label q k next ih => exact fun count => ih count (h count)
  | commit label next ih =>
      obtain ⟨a, rfl, ha⟩ := h
      exact ⟨g a, rfl, (hp a).trans ha⟩
  | rollback next ih => exact ih h

lemma Prog.KeepsWrites.map (h : prog.KeepsWrites) : (prog.map f g).KeepsWrites := by
  induction prog with
  | done a => trivial
  | failed => trivial
  | read label next ih => exact fun db => ih db (h db)
  | insert label row next ih => exact fun k => ih k (h k)
  | update label q f next ih => exact fun count => ih count (h count)
  | delete label q k next ih => exact fun count => ih count (h count)
  | commit label next ih => exact ih h
  | rollback next ih => exact h

end Map

end RagStack
