import RagStack.Core.ReadCommitted

/-!
# Rely–guarantee reasoning about transactions

The committed rows change only when somebody commits.  So a client can be verified alone, against a
`Contract`: what it relies on between its own statements, and what it guarantees of its commits.
The interleavings are gone from such a proof.  It is an induction over the program, in which the
rows before each statement are those after the last one, up to any change the contract relies on.

What makes this sound are the locks.  Between two statements of a client others may commit, but they
cannot change rows that this client has written, nor delete rows these refer to.  `Locked` states
this for a whole system as an invariant, `Undisturbed` for one client and the commits of the others,
and `Later` adds to it what the contract relies on.  What a client knows has to survive `Later`.

An UPDATE of many rows is the hard case.  It finds its rows when it starts, and visits them in an
order nobody knows, while others commit in between.  Its rule asks for an invariant of the scan
(`ScanInvariant`), which has to survive both a visit and what others do; the rules for one row and
for all rows of a kind are instances that programs use.

The contracts of the clients have to fit each other: what one guarantees, the others rely on.  This
is asked for along the run and not once and for all (`Admissible`), because some properties only
hold of runs whose commits come in time.

* `Locked` — the invariant of the locks.  It is what makes the rows a transaction wrote, the rows
  these refer to, and the rows it deletes stay as they are until it ends (`Undisturbed`).
* `Safe` — a program keeps its contract from here on, by recursion over the program.  Before every
  statement the committed rows may have changed in any way the contract relies on (`Later`).
* `Secure.step`, `Secure.run` — if every client is safe, the whole system stays so.
* `safe_updateOne` — the rule of an UPDATE of one row.
-/

namespace RagStack

abbrev Rows (Row : Type) : Type := Key → Option Row

section Locks

variable {n : ℕ} {Row L α : Type}

/-- **The locks.**  No row was written by two clients, no client refers to a row which another one
deletes, and all keys were generated. -/
structure Locked (S : Schema Row) (sys : Sys n Row L α) : Prop where
  exclusive : ∀ i j, i ≠ j → ∀ k v, (sys.procs i).writes k = some v → (sys.procs j).writes k = none
  referenced : ∀ i j, i ≠ j → ∀ k, (sys.procs i).writes k = some none →
    ∀ k' r, (sys.procs j).writes k' = some (some r) → ∀ ref ∈ S.references r, ref.1 ≠ k
  generated : ∀ k r, sys.db.rows k = some r → k < sys.db.clock
  written : ∀ i k v, (sys.procs i).writes k = some v → k < sys.db.clock

/-- What the commits of others leave as it was, for a transaction that wrote `w`. -/
structure Undisturbed (S : Schema Row) (w : Writes Row) (db db' : Db Row) : Prop where
  clock : db.clock ≤ db'.clock
  rows : ∀ k v, w k = some v → db'.rows k = db.rows k
  parents : ∀ k r, w k = some (some r) → ∀ ref ∈ S.references r,
    (db.rows ref.1).isSome = true → (db'.rows ref.1).isSome = true
  children : ∀ k, w k = some none → ∀ k' r, db'.rows k' = some r →
    (∃ ref ∈ S.references r, ref.1 = k) → db.rows k' = some r

variable {S : Schema Row} {sys : Sys n Row L α} {i : Fin n}

lemma Undisturbed.refl (S : Schema Row) (w : Writes Row) (db : Db Row) : Undisturbed S w db db :=
  ⟨le_rfl, fun _ _ _ => rfl, fun _ _ _ _ _ h => h, fun _ _ _ _ hr _ => hr⟩

lemma Undisturbed.trans {w : Writes Row} {db db₁ db₂ : Db Row} (h : Undisturbed S w db db₁)
    (h' : Undisturbed S w db₁ db₂) : Undisturbed S w db db₂ := by
  refine ⟨h.clock.trans h'.clock, fun k v hv => (h'.rows k v hv).trans (h.rows k v hv),
    fun k r hr ref href hsome => h'.parents k r hr ref href (h.parents k r hr ref href hsome), ?_⟩
  intro k hk k' r hr href
  exact h.children k hk k' r (h'.children k hk k' r hr href) href

lemma Undisturbed.tick (S : Schema Row) (w : Writes Row) (db : Db Row) :
    Undisturbed S w db db.tick :=
  ⟨Nat.le_succ _, fun _ _ _ => rfl, fun _ _ _ _ _ h => h, fun _ _ _ _ hr _ => hr⟩

lemma Locked.undisturbed (h : Locked S sys) {j : Fin n} (hij : i ≠ j) :
    Undisturbed S (sys.procs j).writes sys.db (sys.view i) := by
  refine ⟨le_rfl, ?_, ?_, ?_⟩
  · intro k v hv
    exact Db.rows_apply_none (h.exclusive j i hij.symm k v hv)
  · intro k r hr ref href hsome
    cases hw : (sys.procs i).writes ref.1 with
    | none => rwa [Sys.view, Db.rows_apply_none hw]
    | some v =>
        cases v with
        | none => exact absurd rfl (h.referenced i j hij ref.1 hw k r hr ref href)
        | some r' => rw [Sys.view, Db.rows_apply_some hw, Option.isSome_some]
  · rintro k hk k' r hr ⟨ref, href, hrefk⟩
    cases hw : (sys.procs i).writes k' with
    | none =>
        rwa [Sys.view, Db.rows_apply_none hw] at hr
    | some v =>
        rw [Sys.view, Db.rows_apply_some hw] at hr
        subst hr
        exact absurd hrefk (h.referenced j i hij.symm k hk k' r hw ref href)

/-- Client `i` goes on as `p`, having written rows that nobody else holds. -/
lemma Locked.become (h : Locked S sys) (db : Db Row) {p : Proc Row L α}
    (hclock : sys.db.clock ≤ db.clock) (hgenerated : ∀ k r, db.rows k = some r → k < db.clock)
    (hlock : ∀ k v, p.writes k = some v → k < db.clock ∧ ∀ j, j ≠ i → (sys.procs j).writes k = none)
    (hdelete : ∀ k, p.writes k = some none → ∀ j, j ≠ i → ∀ k' r,
      (sys.procs j).writes k' = some (some r) → ∀ ref ∈ S.references r, ref.1 ≠ k)
    (hrefer : ∀ k r, p.writes k = some (some r) → ∀ ref ∈ S.references r, ∀ j, j ≠ i →
      (sys.procs j).writes ref.1 ≠ some none) :
    Locked S (Sys.become { sys with db } i p) := by
  have hself := Sys.procs_become_self { sys with db } i p
  have hother : ∀ j, j ≠ i → (Sys.become { sys with db } i p).procs j = sys.procs j :=
    fun j hj => Sys.procs_become_of_ne _ _ _ hj
  refine ⟨?_, ?_, hgenerated, ?_⟩
  · intro j j' hjj' k v hv
    by_cases hj : j = i
    · subst hj
      rw [hself] at hv
      rw [hother j' hjj'.symm]
      exact (hlock k v hv).2 j' hjj'.symm
    · rw [hother j hj] at hv
      by_cases hj' : j' = i
      · subst hj'
        rw [hself]
        cases hw : p.writes k with
        | none => rfl
        | some v' =>
            rw [(hlock k v' hw).2 j hj] at hv
            cases hv
      · rw [hother j' hj']
        exact h.exclusive j j' hjj' k v hv
  · intro j j' hjj' k hk k' r hr ref href hrefk
    by_cases hj : j = i
    · subst hj
      rw [hself] at hk
      rw [hother j' hjj'.symm] at hr
      exact hdelete k hk j' hjj'.symm k' r hr ref href hrefk
    · rw [hother j hj] at hk
      by_cases hj' : j' = i
      · subst hj'
        rw [hself] at hr
        exact hrefer k' r hr ref href j hj (hrefk ▸ hk)
      · rw [hother j' hj'] at hr
        exact h.referenced j j' hjj' k hk k' r hr ref href hrefk
  · intro j k v hv
    by_cases hj : j = i
    · subst hj
      rw [hself] at hv
      exact (hlock k v hv).1
    · rw [hother j hj] at hv
      exact (h.written j k v hv).trans_le hclock

/-- Client `i` goes on without having written anything new. -/
lemma Locked.same (h : Locked S sys) {p : Proc Row L α}
    (hp : p.writes = (sys.procs i).writes) : Locked S (sys.become i p) := by
  refine h.become sys.db le_rfl h.generated ?_ ?_ ?_
  · intro k v hv
    rw [hp] at hv
    exact ⟨h.written i k v hv, fun j hj => h.exclusive i j hj.symm k v hv⟩
  · intro k hk j hj
    rw [hp] at hk
    exact h.referenced i j hj.symm k hk
  · intro k r hr ref href j hj hdeleted
    rw [hp] at hr
    exact h.referenced j i hj ref.1 hdeleted k r hr ref href rfl

/-- Client `i` gives up what it wrote. -/
lemma Locked.clear (h : Locked S sys) {p : Proc Row L α} (hp : p.writes = fun _ => none) :
    Locked S (sys.become i p) := by
  refine h.become sys.db le_rfl h.generated ?_ ?_ ?_ <;> simp [hp]

lemma Locked.write (h : Locked S sys) (db : Db Row) {k : Key} {r : Row} {p : Proc Row L α}
    (hdb : db.rows = sys.db.rows) (hclock : sys.db.clock ≤ db.clock) (hk : k < db.clock)
    (hunhindered : sys.Unhindered S i k r)
    (hp : p.writes = Function.update (sys.procs i).writes k (some (some r))) :
    Locked S (Sys.become { sys with db } i p) := by
  have hcases : ∀ k' v, p.writes k' = some v →
      k' = k ∧ v = some r ∨ (sys.procs i).writes k' = some v := by
    intro k' v hv
    rw [hp] at hv
    by_cases hkk : k' = k
    · subst hkk
      rw [Function.update_self] at hv
      exact .inl ⟨rfl, (Option.some.inj hv).symm⟩
    · rw [Function.update_of_ne hkk] at hv
      exact .inr hv
  refine h.become db hclock ?_ ?_ ?_ ?_
  · intro k' r' hr'
    rw [hdb] at hr'
    exact (h.generated k' r' hr').trans_le hclock
  · intro k' v hv
    rcases hcases k' v hv with ⟨rfl, -⟩ | hv
    · exact ⟨hk, fun j hj => Option.isNone_iff_eq_none.mp (hunhindered.1 j hj)⟩
    · exact ⟨(h.written i k' v hv).trans_le hclock, fun j hj => h.exclusive i j hj.symm k' v hv⟩
  · intro k' hv j hj
    rcases hcases k' none hv with ⟨-, hnone⟩ | hv
    · cases hnone
    · exact h.referenced i j hj.symm k' hv
  · intro k' r' hv ref href j hj hdeleted
    rcases hcases k' (some r') hv with ⟨-, hr'⟩ | hv
    · cases hr'
      have hstays := hunhindered.2.1 ref href j hj
      rw [hdeleted] at hstays
      cases hstays
    · exact h.referenced j i hj ref.1 hdeleted k' r' hv ref href rfl

/-- Client `i` deletes a row with what depends on it. -/
lemma Locked.delete (h : Locked S sys) {k : Key} (herasable : sys.Erasable S i k)
    {p : Proc Row L α} (hp : p.writes = fun k' =>
      (S.erase (sys.view i) k k').orElse fun _ => (sys.procs i).writes k') :
    Locked S (sys.become i p) := by
  -- what is erased is a row that the client sees
  have hseen : ∀ k' v, S.erase (sys.view i) k k' = some v → k' < sys.db.clock := by
    intro k' v hv
    cases hr : (sys.view i).rows k' with
    | none =>
        simp only [Schema.erase] at hv
        rw [hr] at hv
        cases hv
    | some r =>
        cases hw : (sys.procs i).writes k' with
        | none =>
            rw [Sys.view, Db.rows_apply_none hw] at hr
            exact h.generated k' r hr
        | some v' => exact h.written i k' v' hw
  have hcases : ∀ k' v, p.writes k' = some v →
      S.erase (sys.view i) k k' = some v ∨ (sys.procs i).writes k' = some v := by
    intro k' v hv
    rw [hp] at hv
    simp only at hv
    cases he : S.erase (sys.view i) k k' with
    | none =>
        rw [he] at hv
        exact .inr hv
    | some v' =>
        rw [he] at hv
        exact .inl hv
  refine h.become sys.db le_rfl h.generated ?_ ?_ ?_
  · intro k' v hv
    rcases hcases k' v hv with hv | hv
    · have hunlocked := herasable.1 k' (hseen k' v hv) (by rw [hv]; rfl)
      exact ⟨hseen k' v hv, fun j hj => Option.isNone_iff_eq_none.mp (hunlocked j hj)⟩
    · exact ⟨h.written i k' v hv, fun j hj => h.exclusive i j hj.symm k' v hv⟩
  · intro k' hv j hj k'' r hr ref href hrefk
    rcases hcases k' none hv with hv | hv
    · have hall := herasable.2.2 j hj k'' (h.written j k'' _ hr)
      rw [hr, Option.join_some, Option.all_some, List.all_eq_true] at hall
      have hkept := hall ref href
      rw [hrefk, hv] at hkept
      cases hkept
    · exact h.referenced i j hj.symm k' hv k'' r hr ref href hrefk
  · intro k' r hv ref href j hj hdeleted
    rcases hcases k' (some r) hv with hv | hv
    · have hstays := herasable.2.1 k' (hseen k' _ hv) r (by rw [hv]; rfl) ref href j hj
      rw [hdeleted] at hstays
      cases hstays
    · exact h.referenced j i hj ref.1 hdeleted k' r hv ref href rfl

lemma Locked.commit (h : Locked S sys) {p : Proc Row L α} (hp : p.writes = fun _ => none) :
    Locked S (Sys.become { sys with db := sys.view i } i p) := by
  refine h.become (sys.view i) le_rfl ?_ (by simp [hp]) (by simp [hp]) (by simp [hp])
  intro k r hr
  cases hw : (sys.procs i).writes k with
  | none =>
      rw [Sys.view, Db.rows_apply_none hw] at hr
      exact h.generated k r hr
  | some v => exact h.written i k v hw

/-- **Every step keeps the locks.**  No assumption about programs is needed: a step that would break
the invariant is not possible. -/
theorem Locked.step (h : Locked S sys) {a : Action} {sys' : Sys n Row L α}
    (hmoved : Moved S sys i a sys') : Locked S sys' := by
  cases hmoved with
  | read hscan hprog => exact h.same rfl
  | insert hscan hprog hadmits hunhindered =>
      exact h.write sys.db.tick rfl (Nat.le_succ _) (Nat.lt_succ_self _) hunhindered rfl
  | insertRejected hscan hprog hrejects => exact h.clear rfl
  | updateStart hscan hprog => exact h.same rfl
  | updateEnd hscan hprog => exact h.same rfl
  | delete hscan hprog hfound herasable => exact h.delete herasable rfl
  | deleteNothing hscan hprog hmissing => exact h.same rfl
  | commit hscan hprog => exact h.commit rfl
  | rollback hscan hprog => exact h.clear rfl
  | hit hscan hprog hk hr hp hadmits hunhindered =>
      rename_i k r
      refine h.write sys.db rfl le_rfl ?_ hunhindered rfl
      cases hw : (sys.procs i).writes k with
      | none =>
          rw [Sys.view, Db.rows_apply_none hw] at hr
          exact h.generated k r hr
      | some v => exact h.written i k v hw
  | hitRejected hscan hprog hk hr hp hrejects => exact h.clear rfl
  | miss hscan hprog hk hr => exact h.same rfl
  | abort hdone => exact h.clear rfl

end Locks

/-! ## Contracts

A contract depends on the statements a client has executed so far, newest first.  This lets one
contract speak of several transactions of a call, and lets a client rely on more after it has locked
a row than before. -/

/-- What a client promises, given what it has executed so far. -/
structure Contract (Row L α : Type) where
  /-- How the committed rows may change between two of its steps, also in the middle of an UPDATE. -/
  Rely : List L → Option Scan → Rows Row → Rows Row → Prop
  /-- How its own commits change them. -/
  Guar : List L → Rows Row → Rows Row → Prop
  /-- The call may fail. -/
  mayFail : Prop
  /-- What holds from the end of the call on. -/
  Post : List L → α → Rows Row → Prop
  refl : ∀ log scan rows, Rely log scan rows rows
  trans : ∀ log scan rows rows₁ rows₂,
    Rely log scan rows rows₁ → Rely log scan rows₁ rows₂ → Rely log scan rows rows₂
  /-- An UPDATE in progress may rely on more. -/
  weaken : ∀ log scan rows rows', Rely log (some scan) rows rows' → Rely log none rows rows'

section Safety

variable {n : ℕ} {Row L α : Type} (S : Schema Row) (Inv : Rows Row → Prop) (C : Contract Row L α)

/-- **Interference.**  The committed rows `db` may have become `db'`, for a client that has executed
`log` and whose transaction wrote `w`. -/
structure Later (log : List L) (scan : Option Scan) (w : Writes Row) (db db' : Db Row) : Prop where
  rely : C.Rely log scan db.rows db'.rows
  undisturbed : Undisturbed S w db db'
  inv : Inv db'.rows
  generated : ∀ k r, db'.rows k = some r → k < db'.clock
  written : ∀ k v, w k = some v → k < db'.clock

/-- An invariant `J` of an UPDATE: it survives interference and every visit. -/
structure ScanInvariant (p : Key → Row → Bool) (f : Row → Row) (log : List L)
    (J : Scan → Writes Row → Db Row → Prop) : Prop where
  later : ∀ scan w db db', J scan w db → Later S Inv C log (some scan) w db db' → J scan w db'
  hit : ∀ scan w db k r, J scan w db → Later S Inv C log (some scan) w db db → k ∈ scan.todo →
    (db.apply w).rows k = some r → p k r = true →
      (S.Admits (db.apply w) k (f r) → J ⟨scan.todo.erase k, scan.count + 1⟩
        (Function.update w k (some (some (f r)))) db)
      ∧ (¬ S.Admits (db.apply w) k (f r) → C.mayFail)
  miss : ∀ scan w db k, J scan w db → Later S Inv C log (some scan) w db db → k ∈ scan.todo →
    (∀ r, (db.apply w).rows k = some r → p k r = false) → J ⟨scan.todo.erase k, scan.count⟩ w db

/-- **Safety of a program**: from here on it keeps its contract. -/
def Safe : Prog Row L α → List L → Writes Row → Db Row → Prop
  | .done a, log, w, db => ∀ db', Later S Inv C log none w db db' → C.Post log a db'.rows
  | .failed, _, _, _ => C.mayFail
  | .read label next, log, w, db => ∀ db', Later S Inv C log none w db db' →
      Safe (next (db'.apply w)) (label :: log) w db'
  | .insert label row next, log, w, db => ∀ db', Later S Inv C log none w db db' →
      (S.Admits (db'.apply w) db'.clock (row db'.clock) →
        Safe (next db'.clock) (label :: log)
          (Function.update w db'.clock (some (some (row db'.clock)))) db'.tick)
      ∧ (¬ S.Admits (db'.apply w) db'.clock (row db'.clock) → C.mayFail)
  | .update label p f next, log, w, db => ∀ db', Later S Inv C log none w db db' →
      ∃ J : Scan → Writes Row → Db Row → Prop, J ⟨(db'.apply w).keysWhere p, 0⟩ w db'
        ∧ ScanInvariant S Inv C p f (label :: log) J
        ∧ ∀ count w' db'', J ⟨[], count⟩ w' db'' → Safe (next count) (label :: log) w' db''
  | .delete label p k next, log, w, db => ∀ db', Later S Inv C log none w db db' →
      (((db'.apply w).rows k).any p = true → Safe (next 1) (label :: log)
        (fun k' => (S.erase (db'.apply w) k k').orElse fun _ => w k') db')
      ∧ (((db'.apply w).rows k).any p = false → Safe (next 0) (label :: log) w db')
  | .commit label next, log, w, db => ∀ db', Later S Inv C log none w db db' →
      C.Guar (label :: log) db'.rows (db'.apply w).rows ∧ Inv (db'.apply w).rows
        ∧ Safe next (label :: log) (fun _ => none) (db'.apply w)
  | .rollback next, log, w, db => ∀ db', Later S Inv C log none w db db' →
      Safe next log (fun _ => none) db'

/-- Safety of a client, which may be in the middle of an UPDATE. -/
def SafeProc (p : Proc Row L α) (db : Db Row) : Prop :=
  match p.scan, p.prog with
  | none, prog => Safe S Inv C prog p.log p.writes db
  | some scan, .update _ q f next => ∃ J : Scan → Writes Row → Db Row → Prop,
      J scan p.writes db ∧ ScanInvariant S Inv C q f p.log J
        ∧ ∀ count w db', J ⟨[], count⟩ w db' → Safe S Inv C (next count) p.log w db'
  | some _, _ => False

variable {S Inv C}

lemma Later.trans {log : List L} {scan : Option Scan} {w : Writes Row} {db db₁ db₂ : Db Row}
    (h : Later S Inv C log scan w db db₁) (h' : Later S Inv C log scan w db₁ db₂) :
    Later S Inv C log scan w db db₂ :=
  ⟨C.trans _ _ _ _ _ h.rely h'.rely, h.undisturbed.trans h'.undisturbed, h'.inv, h'.generated,
    h'.written⟩

/-- What is known after some interference is known without more of it. -/
lemma Later.here {log log' : List L} {scan scan' : Option Scan} {w : Writes Row} {db db' : Db Row}
    (h : Later S Inv C log scan w db db') : Later S Inv C log' scan' w db' db' :=
  ⟨C.refl _ _ _, .refl S w db', h.inv, h.generated, h.written⟩

/-- The interference that an UPDATE in progress is exposed to is interference. -/
lemma Later.weaken {log : List L} {scan : Scan} {w : Writes Row} {db db' : Db Row}
    (h : Later S Inv C log (some scan) w db db') : Later S Inv C log none w db db' :=
  ⟨C.weaken _ _ _ _ h.rely, h.undisturbed, h.inv, h.generated, h.written⟩

/-- The key that an INSERT generates is new. -/
lemma Later.fresh {log : List L} {scan : Option Scan} {w : Writes Row} {db db' : Db Row}
    (h : Later S Inv C log scan w db db') : db'.rows db'.clock = none ∧ w db'.clock = none := by
  constructor
  · cases hr : db'.rows db'.clock with
    | none => rfl
    | some r => exact absurd (h.generated _ r hr) (lt_irrefl _)
  · cases hw : w db'.clock with
    | none => rfl
    | some v => exact absurd (h.written _ v hw) (lt_irrefl _)

/-- **Safety survives interference.** -/
lemma Safe.later {prog : Prog Row L α} {log : List L} {w : Writes Row} {db db' : Db Row}
    (h : Safe S Inv C prog log w db) (hlater : Later S Inv C log none w db db') :
    Safe S Inv C prog log w db' := by
  cases prog with
  | failed => exact h
  | _ => exact fun db'' hlater' => h db'' (hlater.trans hlater')

lemma SafeProc.later {p : Proc Row L α} {db db' : Db Row} (h : SafeProc S Inv C p db)
    (hlater : Later S Inv C p.log p.scan p.writes db db') : SafeProc S Inv C p db' := by
  obtain ⟨prog, w, scan, log⟩ := p
  cases scan with
  | none => exact Safe.later h hlater
  | some scan =>
      cases prog with
      | update label q f next =>
          obtain ⟨J, hJ, hinvariant, hend⟩ := h
          exact ⟨J, hinvariant.later _ _ _ _ hJ hlater, hinvariant, hend⟩
      | _ => exact h

/-- Nothing can happen to a client that has failed. -/
lemma SafeProc.of_failed {p : Proc Row L α} {db : Db Row} (h : SafeProc S Inv C p db)
    (hfailed : p.prog = .failed) (db' : Db Row) : SafeProc S Inv C p db' := by
  obtain ⟨prog, w, scan, log⟩ := p
  cases hfailed
  cases scan <;> exact h

/-! ## Rules

The rule of an UPDATE whose condition names one row: it waits for the row, looks again, and then
either writes or finds that there is nothing left to write.  Both cases come with the interference
before the wait and during it. -/

/-- The rows that `WHERE id = k AND q` finds. -/
lemma keysWhere_one (db : Db Row) (k : Key) (q : Row → Bool)
    (hgenerated : ∀ r, db.rows k = some r → k < db.clock) :
    db.keysWhere (fun k' r => k' == k && q r) = if (db.rows k).any q then [k] else [] := by
  have hcongr : db.keysWhere (fun k' r => k' == k && q r)
      = (List.range db.clock).filter fun k' => k' == k && (db.rows k).any q := by
    refine List.filter_congr fun k' _ => ?_
    by_cases hk : k' = k
    · subst hk
      simp
    · have hne : (k' == k) = false := beq_false_of_ne hk
      simp only [hne, Bool.false_and]
      cases db.rows k' <;> rfl
  rw [hcongr]
  split
  · rename_i hany
    obtain ⟨r, hr, -⟩ := (Option.any_eq_true _ _).mp hany
    simp only [hany, Bool.and_true]
    have hcount : (List.range db.clock).filter (· == k) = List.replicate 1 k := by
      rw [List.filter_beq, List.count_eq_one_of_mem List.nodup_range
        (List.mem_range.mpr (hgenerated r hr))]
    exact hcount
  · rename_i hany
    rw [List.filter_eq_nil_iff]
    intro k' _
    simp [hany]

/-- **An UPDATE of one row.**  Either it finds the row, waits for it and still finds it, or it
changes nothing. -/
theorem safe_updateOne {label : L} {k : Key} {q : Row → Bool} {f : Row → Row}
    {next : ℕ → Prog Row L α} {log : List L} {w : Writes Row} {db : Db Row}
    (hit : ∀ db₁ r, (∃ db₀, Later S Inv C log none w db db₀
        ∧ Later S Inv C (label :: log) none w db₀ db₁) → (db₁.apply w).rows k = some r → q r = true →
      (S.Admits (db₁.apply w) k (f r) → Safe S Inv C (next 1) (label :: log)
        (Function.update w k (some (some (f r)))) db₁)
      ∧ (¬ S.Admits (db₁.apply w) k (f r) → C.mayFail))
    (miss : ∀ db₁, (∃ db₀, Later S Inv C log none w db db₀
        ∧ Later S Inv C (label :: log) none w db₀ db₁) →
      (∀ r, (db₁.apply w).rows k = some r → q r = false) →
        Safe S Inv C (next 0) (label :: log) w db₁) :
    Safe S Inv C (.update label (fun k' r => k' == k && q r) f next) log w db := by
  intro db₀ h₀
  have hstart : Later S Inv C (label :: log) none w db₀ db₀ := h₀.here
  have hseen : ∀ r, (db₀.apply w).rows k = some r → k < (db₀.apply w).clock := by
    intro r hr
    cases hw : w k with
    | none => exact h₀.generated k r (Db.rows_apply_none hw ▸ hr)
    | some v => exact h₀.written k v hw
  refine ⟨fun scan w' db' =>
    (scan = ⟨[k], 0⟩ ∧ w' = w ∧ Later S Inv C (label :: log) none w db₀ db')
      ∨ (scan.todo = [] ∧ Safe S Inv C (next scan.count) (label :: log) w' db'), ?_, ?_, ?_⟩
  · rw [keysWhere_one _ _ _ hseen]
    split
    · exact .inl ⟨rfl, rfl, hstart⟩
    · rename_i hany
      refine .inr ⟨rfl, miss db₀ ⟨db₀, h₀, hstart⟩ fun r hr => ?_⟩
      rw [hr] at hany
      exact Bool.eq_false_of_not_eq_true hany
  · refine ⟨?_, ?_, ?_⟩
    · rintro scan w' db₁ db₂ (⟨hscan, rfl, h₁⟩ | ⟨hscan, hsafe⟩) hlater
      · exact .inl ⟨hscan, rfl, h₁.trans hlater.weaken⟩
      · exact .inr ⟨hscan, hsafe.later hlater.weaken⟩
    · rintro scan w' db₁ k' r (⟨rfl, rfl, h₁⟩ | ⟨hscan, -⟩) hhere hk' hr hq
      · obtain rfl := List.mem_singleton.mp hk'
        have hdone := hit db₁ r ⟨db₀, h₀, h₁⟩ hr (by simpa using hq)
        exact ⟨fun hadmits => .inr ⟨by simp, hdone.1 hadmits⟩, hdone.2⟩
      · rw [hscan] at hk'
        cases hk'
    · rintro scan w' db₁ k' (⟨rfl, rfl, h₁⟩ | ⟨hscan, -⟩) hhere hk' hr
      · obtain rfl := List.mem_singleton.mp hk'
        refine .inr ⟨by simp, miss db₁ ⟨db₀, h₀, h₁⟩ fun r hr' => ?_⟩
        simpa using hr r hr'
      · rw [hscan] at hk'
        cases hk'
  · rintro count w' db₁ (⟨hscan, -, -⟩ | ⟨-, hsafe⟩)
    · cases hscan
    · exact hsafe

end Safety

/-! ## Systems

Each client of a system has a contract of its own.  The theorems say that a system in which every
client is safe stays one, whatever step is taken, and what the committed rows then go through. -/

section Systems

variable {n : ℕ} {Row L α : Type} (S : Schema Row) (Inv : Rows Row → Prop)
  (C : Fin n → Contract Row L α)

structure Secure (sys : Sys n Row L α) : Prop where
  locked : Locked S sys
  inv : Inv sys.db.rows
  procs : ∀ i, SafeProc S Inv (C i) (sys.procs i) sys.db

/-- What has to be known about a step: the others, as far as they have not failed, rely on what a
commit guarantees, and a client whose call must not fail is not aborted. -/
def Admissible (sys : Sys n Row L α) (i : Fin n) (a : Action) : Prop :=
  (a = .Abort → (C i).mayFail)
    ∧ (a = .Proceed → ∀ label next, (sys.procs i).prog = .commit label next →
      (C i).Guar (label :: (sys.procs i).log) sys.db.rows (sys.view i).rows →
        ∀ j, j ≠ i → (sys.procs j).prog ≠ .failed →
          (C j).Rely (sys.procs j).log (sys.procs j).scan sys.db.rows (sys.view i).rows)

variable {S Inv C} {sys sys' : Sys n Row L α} {i : Fin n} {a : Action}

lemma Secure.start {db : Db Row} {progs : Fin n → Prog Row L α} (hinv : Inv db.rows)
    (hgenerated : ∀ k r, db.rows k = some r → k < db.clock)
    (hsafe : ∀ i, Safe S Inv (C i) (progs i) [] (fun _ => none) db) :
    Secure S Inv C (Sys.start db progs) := by
  refine ⟨⟨?_, ?_, hgenerated, ?_⟩, hinv, hsafe⟩
  · rintro i j - k v ⟨⟩
  · rintro i j - k ⟨⟩
  · rintro i k v ⟨⟩

/-- From here on client `j` is verified against another contract. -/
lemma Secure.update (h : Secure S Inv C sys) {j : Fin n} {C' : Contract Row L α}
    (hsafe : SafeProc S Inv C' (sys.procs j) sys.db) : Secure S Inv (Function.update C j C') sys := by
  refine ⟨h.locked, h.inv, fun i => ?_⟩
  by_cases hi : i = j
  · subst hi
    rw [Function.update_self]
    exact hsafe
  · rw [Function.update_of_ne hi]
    exact h.procs i

lemma Secure.here (h : Secure S Inv C sys) (j : Fin n) (scan : Option Scan) :
    Later S Inv (C j) (sys.procs j).log scan (sys.procs j).writes sys.db sys.db :=
  ⟨(C j).refl _ _ _, .refl _ _ _, h.inv, h.locked.generated, h.locked.written j⟩

/-- Client `i` has moved, without a commit; the others are where they were. -/
lemma Secure.become (h : Secure S Inv C sys) {db : Db Row} {p : Proc Row L α}
    (hdb : db = sys.db ∨ db = sys.db.tick) (hlocked : Locked S (Sys.become { sys with db } i p))
    (hsafe : SafeProc S Inv (C i) p db) : Secure S Inv C (Sys.become { sys with db } i p) := by
  have hrows : db.rows = sys.db.rows := by rcases hdb with rfl | rfl <;> rfl
  refine ⟨hlocked, hrows ▸ h.inv, fun j => ?_⟩
  show SafeProc S Inv (C j) (Function.update sys.procs i p j) db
  by_cases hj : j = i
  · subst hj
    rw [Function.update_self]
    exact hsafe
  · rw [Function.update_of_ne hj]
    refine (h.procs j).later ⟨hrows ▸ (C j).refl _ _ _, ?_, hrows ▸ h.inv, hlocked.generated, ?_⟩
    · rcases hdb with rfl | rfl
      · exact .refl _ _ _
      · exact .tick _ _ _
    · intro k v hv
      have hwritten := hlocked.written j k v
      rw [show (Sys.become { sys with db } i p).procs j = sys.procs j from
        Function.update_of_ne hj _ _] at hwritten
      exact hwritten hv

/-- **Step lemma.**  A step that is admissible keeps every client safe: the one that moves, because
its program is safe, and the others, because what they know survives the step. -/
theorem Secure.step (h : Secure S Inv C sys) (hadmissible : Admissible C sys i a)
    (hmoved : Moved S sys i a sys') : Secure S Inv C sys' := by
  have hlocked := h.locked.step hmoved
  have hsafe := h.procs i
  have hhere := h.here i none
  simp only [SafeProc] at hsafe
  cases hmoved with
  | read hscan hprog =>
      simp only [hscan, hprog] at hsafe
      exact h.become (.inl rfl) hlocked (hsafe sys.db hhere)
  | insert hscan hprog hadmits hunhindered =>
      simp only [hscan, hprog] at hsafe
      exact h.become (.inr rfl) hlocked ((hsafe sys.db hhere).1 hadmits)
  | insertRejected hscan hprog hrejects =>
      simp only [hscan, hprog] at hsafe
      exact h.become (.inl rfl) hlocked ((hsafe sys.db hhere).2 hrejects)
  | updateStart hscan hprog =>
      simp only [hscan, hprog] at hsafe
      exact h.become (.inl rfl) hlocked (hsafe sys.db hhere)
  | updateEnd hscan hprog =>
      simp only [hscan, hprog] at hsafe
      obtain ⟨J, hJ, -, hend⟩ := hsafe
      exact h.become (.inl rfl) hlocked (hend _ _ _ hJ)
  | delete hscan hprog hfound herasable =>
      simp only [hscan, hprog] at hsafe
      exact h.become (.inl rfl) hlocked ((hsafe sys.db hhere).1 hfound)
  | deleteNothing hscan hprog hmissing =>
      simp only [hscan, hprog] at hsafe
      exact h.become (.inl rfl) hlocked ((hsafe sys.db hhere).2 hmissing)
  | commit hscan hprog =>
      simp only [hscan, hprog] at hsafe
      obtain ⟨hguar, hinv, hnext⟩ := hsafe sys.db hhere
      refine ⟨hlocked, hinv, fun j => ?_⟩
      show SafeProc S Inv (C j) (Function.update sys.procs i _ j) (sys.view i)
      by_cases hj : j = i
      · subst hj
        rw [Function.update_self]
        exact hnext
      · rw [Function.update_of_ne hj]
        by_cases hfailed : (sys.procs j).prog = .failed
        · exact (h.procs j).of_failed hfailed _
        · exact (h.procs j).later ⟨hadmissible.2 rfl _ _ hprog hguar j hj hfailed,
            h.locked.undisturbed (Ne.symm hj), hinv, hlocked.generated, h.locked.written j⟩
  | rollback hscan hprog =>
      simp only [hscan, hprog] at hsafe
      exact h.become (.inl rfl) hlocked (hsafe sys.db hhere)
  | hit hscan hprog hk hr hp hadmits hunhindered =>
      simp only [hscan, hprog] at hsafe
      obtain ⟨J, hJ, hinvariant, hend⟩ := hsafe
      exact h.become (.inl rfl) hlocked
        ⟨J, (hinvariant.hit _ _ _ _ _ hJ (h.here i _) hk hr hp).1 hadmits, hinvariant, hend⟩
  | hitRejected hscan hprog hk hr hp hrejects =>
      simp only [hscan, hprog] at hsafe
      obtain ⟨J, hJ, hinvariant, -⟩ := hsafe
      exact h.become (.inl rfl) hlocked ((hinvariant.hit _ _ _ _ _ hJ (h.here i _) hk hr hp).2 hrejects)
  | miss hscan hprog hk hr =>
      simp only [hscan, hprog] at hsafe
      obtain ⟨J, hJ, hinvariant, hend⟩ := hsafe
      exact h.become (.inl rfl) hlocked
        ⟨J, hinvariant.miss _ _ _ _ hJ (h.here i _) hk hr, hinvariant, hend⟩
  | abort hdone => exact h.become (.inl rfl) hlocked (hadmissible.1 rfl)

/-- **Run lemma**, for a property that every step of a secure system keeps. -/
theorem Secure.run_induct (h : Secure S Inv C sys) {acts : List (Fin n × Action)}
    (hadmissible : sys.AlongRun S (Admissible C) acts) (hrun : sys.run S acts = some sys')
    {Q : Sys n Row L α → Prop} (hstart : Q sys)
    (hstep : ∀ sys i a sys', Secure S Inv C sys → Admissible C sys i a → Moved S sys i a sys' →
      Q sys → Q sys') : Secure S Inv C sys' ∧ Q sys' := by
  induction acts generalizing sys with
  | nil =>
      cases hrun
      exact ⟨h, hstart⟩
  | cons act acts ih =>
      obtain ⟨i, a⟩ := act
      obtain ⟨mid, hmid, hrest⟩ := Option.bind_eq_some_iff.mp hrun
      obtain ⟨hfirst, hlater⟩ := hadmissible
      have hmoved := Sys.step_moved hmid
      exact ih (h.step hfirst hmoved) (hlater mid hmid) hrest
        (hstep sys i a mid h hfirst hmoved hstart)

/-- **Run lemma**, for the contracts. -/
theorem Secure.run (h : Secure S Inv C sys) {acts : List (Fin n × Action)}
    (hadmissible : sys.AlongRun S (Admissible C) acts) (hrun : sys.run S acts = some sys') :
    Secure S Inv C sys' :=
  (h.run_induct (Q := fun _ => True) hadmissible hrun trivial fun _ _ _ _ _ _ _ _ => trivial).1

/-- A client that commits keeps its guarantee. -/
lemma Secure.guar (h : Secure S Inv C sys) {label : L} {next : Prog Row L α}
    (hscan : (sys.procs i).scan = none) (hprog : (sys.procs i).prog = .commit label next) :
    (C i).Guar (label :: (sys.procs i).log) sys.db.rows (sys.view i).rows := by
  have hsafe := h.procs i
  simp only [SafeProc] at hsafe
  simp only [hscan, hprog] at hsafe
  exact (hsafe sys.db (h.here i none)).1

/-- What a step does to the committed rows and to the logs. -/
theorem Secure.moved (h : Secure S Inv C sys) (hmoved : Moved S sys i a sys') :
    (∀ j, (sys.procs j).log ⊆ (sys'.procs j).log) ∧ (sys'.db.rows = sys.db.rows
      ∨ ∃ label, label ∈ (sys'.procs i).log
        ∧ (C i).Guar (label :: (sys.procs i).log) sys.db.rows sys'.db.rows) := by
  have hlogs : ∀ (db : Db Row) (p : Proc Row L α), (sys.procs i).log ⊆ p.log →
      ∀ j, (sys.procs j).log ⊆ ((Sys.become { sys with db } i p).procs j).log := by
    intro db p hp j
    by_cases hj : j = i
    · subst hj
      rwa [Sys.procs_become_self]
    · rw [Sys.procs_become_of_ne _ _ _ hj]
      exact List.Subset.refl _
  cases hmoved with
  | commit hscan hprog =>
      refine ⟨hlogs _ _ (List.subset_cons_self _ _), .inr ⟨_, ?_, h.guar hscan hprog⟩⟩
      rw [Sys.procs_become_self]
      exact List.mem_cons_self
  | insert => exact ⟨hlogs sys.db.tick _ (List.subset_cons_self _ _), .inl rfl⟩
  | _ => exact ⟨hlogs sys.db _ (by simp [Proc.fail]), .inl rfl⟩

/-- What every client guarantees of its commits, the run guarantees of the committed rows.  It is
used with relations such as "no row of this kind comes back". -/
theorem Secure.run_guar (h : Secure S Inv C sys) {acts : List (Fin n × Action)}
    (hadmissible : sys.AlongRun S (Admissible C) acts) (hrun : sys.run S acts = some sys')
    {G : Rows Row → Rows Row → Prop} (hrefl : ∀ rows, G rows rows)
    (htrans : ∀ rows rows₁ rows₂, G rows rows₁ → G rows₁ rows₂ → G rows rows₂)
    (hguar : ∀ i log rows rows', (C i).Guar log rows rows' → G rows rows') :
    G sys.db.rows sys'.db.rows := by
  refine (h.run_induct (Q := fun mid => G sys.db.rows mid.db.rows) hadmissible hrun (hrefl _) ?_).2
  intro mid i a mid' hmid _ hmoved hG
  rcases (hmid.moved hmoved).2 with hrows | ⟨label, -, hrows⟩
  · rwa [hrows]
  · exact htrans _ _ _ hG (hguar _ _ _ _ hrows)

/-- A client that has returned has reached its postcondition. -/
theorem Secure.post (h : Secure S Inv C sys) {r : α} (hprog : (sys.procs i).prog = .done r) :
    (C i).Post (sys.procs i).log r sys.db.rows := by
  have hsafe := h.procs i
  simp only [SafeProc] at hsafe
  cases hscan : (sys.procs i).scan with
  | none =>
      simp only [hscan, hprog] at hsafe
      exact hsafe sys.db (h.here i none)
  | some scan =>
      simp only [hscan, hprog] at hsafe

end Systems

end RagStack
