import RagStack.Core.RelyGuarantee

/-!
# What a transaction does to the rows

Many programs can be verified without following them statement by statement: all their writes move
rows in a way that is harmless.  If some programs set a time stamp that is not set yet, and others
insert rows besides, then for the question whether a time stamp that is set can be cleared again it
does not matter in which order they do it, or what they read in between.

An `Evolution` is such a way of changing single rows.  If each write of a program moves its row
along, then so do all of them together, since moves compose, and therefore the commit moves the
committed rows along.  The pending writes have to be compared with the committed rows at the time of
the commit, not with those the transaction has seen; `Overwrites` does this, and it survives the
commits of others because the rows it speaks of are locked.

A deleted row does not come back.  This is why the last move of a row may end in `none` but moves
only compose through a row that is there.

* `Evolution` — a way in which single rows may change.
* `Overwrites` — the pending writes of a transaction move the committed rows that way.  Nobody else
  can break this, since the rows are locked.
* `Along` — every write of a program moves its row that way, by recursion over the program.
  `Along.safe` is what has to be known about its commits.
* `safe_updateAll` — the rule of an UPDATE of many rows: at its end no row is left that should have
  been changed, provided none appears meanwhile.
-/

namespace RagStack

variable {Row L α : Type}

/-- A way in which the row of a key may change.  A deleted row does not come back. -/
structure Evolution (Row : Type) where
  Moves : Key → Option Row → Option Row → Prop
  same : ∀ k x, Moves k x x
  trans : ∀ k x r y, Moves k x (some r) → Moves k (some r) y → Moves k x y

/-- The pending writes move the committed rows. -/
def Overwrites (E : Evolution Row) (w : Writes Row) (db : Db Row) : Prop :=
  ∀ k v, w k = some v → E.Moves k (db.rows k) v

namespace Overwrites

variable {E : Evolution Row} {S : Schema Row} {w : Writes Row} {db db' : Db Row}

lemma nothing (E : Evolution Row) (db : Db Row) : Overwrites E (fun _ => none) db := by
  intro k v hv
  cases hv

lemma later (h : Overwrites E w db) (hundisturbed : Undisturbed S w db db') :
    Overwrites E w db' := by
  intro k v hv
  rw [hundisturbed.rows k v hv]
  exact h k v hv

/-- What the transaction sees has moved from what is committed. -/
lemma view (h : Overwrites E w db) (k : Key) : E.Moves k (db.rows k) ((db.apply w).rows k) := by
  cases hw : w k with
  | none =>
      rw [Db.rows_apply_none hw]
      exact E.same _ _
  | some v =>
      rw [Db.rows_apply_some hw]
      exact h k v hw

lemma write (h : Overwrites E w db) {k : Key} {r : Row} {v : Option Row}
    (hr : (db.apply w).rows k = some r) (hmoves : E.Moves k (some r) v) :
    Overwrites E (Function.update w k (some v)) db := by
  intro k' v' hv'
  by_cases hk : k' = k
  · subst hk
    rw [Function.update_self] at hv'
    cases hv'
    exact E.trans _ _ _ _ (hr ▸ h.view k') hmoves
  · rw [Function.update_of_ne hk] at hv'
    exact h k' v' hv'

lemma insert (h : Overwrites E w db) {k : Key} {r : Row} (hfresh : db.rows k = none)
    (hmoves : E.Moves k none (some r)) :
    Overwrites E (Function.update w k (some (some r))) db.tick := by
  intro k' v' hv'
  by_cases hk : k' = k
  · subst hk
    rw [Function.update_self] at hv'
    cases hv'
    rw [Db.rows_tick, hfresh]
    exact hmoves
  · rw [Function.update_of_ne hk] at hv'
    exact h k' v' hv'

/-- Rows are deleted, with what depends on them. -/
lemma erase (h : Overwrites E w db) {k : Key} (hmoves : ∀ k' r v, (db.apply w).rows k' = some r →
    S.erase (db.apply w) k k' = some v → E.Moves k' (some r) v) :
    Overwrites E (fun k' => (S.erase (db.apply w) k k').orElse fun _ => w k') db := by
  intro k' v hv
  cases he : S.erase (db.apply w) k k' with
  | none =>
      simp only [he] at hv
      exact h k' v hv
  | some v' =>
      simp only [he] at hv
      cases hv
      cases hr : (db.apply w).rows k' with
      | none =>
          simp only [Schema.erase] at he
          rw [hr] at he
          cases he
      | some r => exact E.trans _ _ _ _ (hr ▸ h.view k') (hmoves k' r v hr he)

end Overwrites

/-! ## What a DELETE does

With the row go the rows that depend on it by a cascade, and others lose a reference.  Both are
moves of single rows, and these lemmas say which. -/

namespace Schema

variable {S : Schema Row} {view : Db Row} {k k' : Key}

/-- A row goes, or loses a reference. -/
lemma erase_some {v : Option Row} (h : S.erase view k k' = some v) :
    ∃ r, view.rows k' = some r ∧ (S.doomed view k S.depth k' = true ∧ v = none
      ∨ S.doomed view k S.depth k' = false ∧ S.losesReference view k r = true
        ∧ v = some (S.setNull (S.gone view k) r)) := by
  simp only [erase] at h
  obtain ⟨r, hr, h⟩ := Option.bind_eq_some_iff.mp h
  refine ⟨r, hr, ?_⟩
  split at h
  · rename_i hdoomed
    cases h
    exact .inl ⟨hdoomed, rfl⟩
  · rename_i hdoomed
    split at h
    · rename_i hloses
      cases h
      exact .inr ⟨Bool.eq_false_of_not_eq_true hdoomed, hloses, rfl⟩
    · cases h

lemma erase_self {r : Row} (hr : view.rows k = some r) : S.erase view k k = some none := by
  have hdoomed : ∀ n, S.doomed view k n k = true := by
    intro n
    induction n with
    | zero => simp [doomed]
    | succ n ih => simp [doomed, ih]
  simp only [erase]
  rw [hr]
  simp [hdoomed]

/-- What goes belongs to tables that the cascades do not leave. -/
lemma doomed_of_closed {T : Row → Prop} (hk : ∀ r, view.rows k = some r → T r)
    (hclosed : ∀ r ref r', ref ∈ S.cascades r → ref.2 r' = true → T r' → T r) {n : ℕ} {r : Row}
    (hdoomed : S.doomed view k n k' = true) (hr : view.rows k' = some r) : T r := by
  induction n generalizing k' r with
  | zero =>
      rw [doomed, beq_iff_eq] at hdoomed
      subst hdoomed
      exact hk r hr
  | succ n ih =>
      rw [doomed, hr, Option.any_some, Bool.or_eq_true, List.any_eq_true] at hdoomed
      rcases hdoomed with hdoomed | ⟨ref, href, hparent⟩
      · exact ih hdoomed hr
      · rw [Bool.and_eq_true] at hparent
        obtain ⟨r', hr', htable⟩ := (Option.any_eq_true _ _).mp hparent.2
        exact hclosed r ref r' href htable (ih hparent.1 hr')

/-- If nothing depends on the row, only it goes. -/
lemma eq_of_doomed (halone : ∀ k' r, view.rows k' = some r → ∀ ref ∈ S.cascades r,
    (view.rows k).any ref.2 = true → ref.1 ≠ k) {n : ℕ} (h : S.doomed view k n k' = true) :
    k' = k := by
  induction n generalizing k' with
  | zero => simpa [doomed] using h
  | succ n ih =>
      rw [doomed, Bool.or_eq_true] at h
      rcases h with h | h
      · exact ih h
      · obtain ⟨r, hr, hany⟩ := (Option.any_eq_true _ _).mp h
        obtain ⟨ref, href, hparent⟩ := List.any_eq_true.mp hany
        rw [Bool.and_eq_true] at hparent
        have hrefk := ih hparent.1
        rw [hrefk] at hparent
        exact absurd hrefk (halone k' r hr ref href hparent.2)

/-- What has gone is a row of the deleted tables. -/
lemma gone_some {r : Row} (h : S.gone view k k' = some r) :
    S.doomed view k S.depth k' = true ∧ view.rows k' = some r := by
  simp only [gone] at h
  split at h
  · rename_i hdoomed
    exact ⟨hdoomed, h⟩
  · cases h

end Schema

/-! ## Programs all of whose writes move rows along

`Along` is a recursion over the program that asks nothing about what is read: whatever the database
returns, the next write has to be a move.  It can therefore be checked on the text of a program. -/

/-- Every write moves its row, every commit is promised and every answer is expected.  Keys are
generated from `bound` on. -/
def Along (S : Schema Row) (E : Evolution Row) (bound : ℕ) (promised : L → Prop)
    (expected : α → Prop) : Prog Row L α → Prop
  | .done a => expected a
  | .failed => True
  | .read _ next => ∀ db, Along S E bound promised expected (next db)
  | .insert _ row next => ∀ k, bound ≤ k →
      E.Moves k none (some (row k)) ∧ Along S E bound promised expected (next k)
  | .update _ p f next => (∀ k r, p k r = true → E.Moves k (some r) (some (f r)))
      ∧ ∀ count, Along S E bound promised expected (next count)
  | .delete _ p k next => (∀ (view : Db Row) r, view.rows k = some r → p r = true →
        ∀ k' r' v, view.rows k' = some r' → S.erase view k k' = some v → E.Moves k' (some r') v)
      ∧ ∀ count, Along S E bound promised expected (next count)
  | .commit label next => promised label ∧ Along S E bound promised expected next
  | .rollback next => Along S E bound promised expected next

section Rules

variable {S : Schema Row} {Inv : Rows Row → Prop} {C : Contract Row L α}

/-- **An UPDATE of many rows.**  `q` is what the UPDATE should leave no row in.  `I` is what else is
known of the writes so far.  The premise `later` is the point of it: meanwhile others may change
rows of `q` but must not add any, since the UPDATE would not find them. -/
theorem safe_updateAll {label : L} {p : Key → Row → Bool} {f : Row → Row} {next : ℕ → Prog Row L α}
    {log : List L} {w₀ : Writes Row} {db₀ : Db Row} (q : Key → Row → Prop)
    (I : Writes Row → Db Row → Prop) (hfail : C.mayFail)
    (h₀ : Later S Inv C (label :: log) none w₀ db₀ db₀) (hI : I w₀ db₀)
    (hq : ∀ k r, q k r → p k r = true)
    (later : ∀ scan w db db', I w db → (∀ k r, (db.apply w).rows k = some r → q k r → k ∈ scan.todo) →
      Later S Inv C (label :: log) (some scan) w db db' → I w db' ∧
        ∀ k r, w k = none → db'.rows k = some r → q k r → ∃ r', db.rows k = some r' ∧ q k r')
    (hit : ∀ w db k r, I w db → Later S Inv C (label :: log) none w db db →
      (db.apply w).rows k = some r → p k r = true → S.Admits (db.apply w) k (f r) →
        I (Function.update w k (some (some (f r)))) db ∧ ¬ q k (f r))
    (hnext : ∀ count w db, I w db → (∀ k r, (db.apply w).rows k = some r → ¬ q k r) →
      Safe S Inv C (next count) (label :: log) w db) :
    ∃ J : Scan → Writes Row → Db Row → Prop, J ⟨(db₀.apply w₀).keysWhere p, 0⟩ w₀ db₀
      ∧ ScanInvariant S Inv C p f (label :: log) J
      ∧ ∀ count w db, J ⟨[], count⟩ w db → Safe S Inv C (next count) (label :: log) w db := by
  -- what still has to be changed is still to be visited
  refine ⟨fun scan w db => I w db ∧ ∀ k r, (db.apply w).rows k = some r → q k r → k ∈ scan.todo,
    ⟨hI, ?_⟩, ⟨?_, ?_, ?_⟩, ?_⟩
  · intro k r hr hqr
    refine Db.mem_keysWhere.mpr ⟨?_, r, hr, hq k r hqr⟩
    cases hw : w₀ k with
    | none => exact h₀.generated k r (Db.rows_apply_none hw ▸ hr)
    | some v => exact h₀.written k v hw
  · rintro scan w db db' ⟨hIw, htodo⟩ hlater
    obtain ⟨hIw', hold⟩ := later scan w db db' hIw htodo hlater
    refine ⟨hIw', fun k r hr hqr => ?_⟩
    cases hw : w k with
    | none =>
        obtain ⟨r', hr', hqr'⟩ := hold k r hw (Db.rows_apply_none hw ▸ hr) hqr
        exact htodo k r' ((Db.rows_apply_none hw).trans hr') hqr'
    | some v =>
        rw [Db.rows_apply_some hw] at hr
        exact htodo k r (by rw [Db.rows_apply_some hw, hr]) hqr
  · rintro scan w db k r ⟨hIw, htodo⟩ hhere hk hr hp
    refine ⟨fun hadmits => ?_, fun _ => hfail⟩
    obtain ⟨hIw', hdone⟩ := hit w db k r hIw hhere.weaken hr hp hadmits
    refine ⟨hIw', fun k' r' hr' hqr' => ?_⟩
    by_cases hkk : k' = k
    · subst hkk
      rw [Db.rows_apply_update_self] at hr'
      cases hr'
      exact absurd hqr' hdone
    · rw [Db.rows_apply_update_of_ne _ _ hkk] at hr'
      exact (List.mem_erase_of_ne hkk).mpr (htodo k' r' hr' hqr')
  · rintro scan w db k ⟨hIw, htodo⟩ hhere hk hr
    refine ⟨hIw, fun k' r' hr' hqr' => ?_⟩
    by_cases hkk : k' = k
    · subst hkk
      have hmiss := hr r' hr'
      rw [hq k' r' hqr'] at hmiss
      cases hmiss
    · exact (List.mem_erase_of_ne hkk).mpr (htodo k' r' hr' hqr')
  · rintro count w db ⟨hIw, htodo⟩
    exact hnext count w db hIw fun k r hr hqr => by cases htodo k r hr hqr

/-- **A program whose writes move rows along is safe**, if its commits are.  The proof is an
induction over the program, in which `Overwrites` is what is known of the pending writes. -/
theorem Along.safe {E : Evolution Row} {bound : ℕ} {promised : L → Prop} {expected : α → Prop}
    (hfail : C.mayFail)
    (hcommit : ∀ label log w db, promised label → Overwrites E w db → Later S Inv C log none w db db →
      C.Guar (label :: log) db.rows (db.apply w).rows ∧ Inv (db.apply w).rows)
    (hdone : ∀ log a rows, expected a → C.Post log a rows) {prog : Prog Row L α} {log : List L}
    {w : Writes Row} {db : Db Row} (h : Along S E bound promised expected prog)
    (hbound : bound ≤ db.clock) (hw : Overwrites E w db) : Safe S Inv C prog log w db := by
  induction prog generalizing log w db with
  | done a => exact fun db' _ => hdone log a db'.rows h
  | failed => exact hfail
  | read label next ih =>
      intro db' hlater
      exact ih _ (h _) (hbound.trans hlater.undisturbed.clock) (hw.later hlater.undisturbed)
  | insert label row next ih =>
      intro db' hlater
      have hbound' := hbound.trans hlater.undisturbed.clock
      obtain ⟨hmoves, hnext⟩ := h db'.clock hbound'
      exact ⟨fun _ => ih _ hnext (hbound'.trans (Nat.le_succ _))
        ((hw.later hlater.undisturbed).insert hlater.fresh.1 hmoves), fun _ => hfail⟩
  | update label p f next ih =>
      intro db' hlater
      refine safe_updateAll (fun _ _ => False) (fun w db => Overwrites E w db ∧ bound ≤ db.clock)
        hfail hlater.here ⟨hw.later hlater.undisturbed, hbound.trans hlater.undisturbed.clock⟩
        (fun _ _ hq => hq.elim) ?_ ?_ ?_
      · rintro scan w db db' ⟨hw, hclock⟩ - hlater
        exact ⟨⟨hw.later hlater.undisturbed, hclock.trans hlater.undisturbed.clock⟩,
          fun _ _ _ _ hq => hq.elim⟩
      · rintro w db k r ⟨hw, hclock⟩ - hr hp -
        exact ⟨⟨hw.write hr (h.1 k r hp), hclock⟩, id⟩
      · rintro count w db ⟨hw, hclock⟩ -
        exact ih count (h.2 count) hclock hw
  | delete label p k next ih =>
      intro db' hlater
      have hbound' := hbound.trans hlater.undisturbed.clock
      have hw' := hw.later hlater.undisturbed
      refine ⟨fun hfound => ?_, fun _ => ih 0 (h.2 0) hbound' hw'⟩
      obtain ⟨r, hr, hp⟩ := (Option.any_eq_true _ _).mp hfound
      exact ih 1 (h.2 1) hbound' (hw'.erase (h.1 _ r hr hp))
  | commit label next ih =>
      intro db' hlater
      obtain ⟨hguar, hinv⟩ :=
        hcommit label log w db' h.1 (hw.later hlater.undisturbed) hlater.here
      exact ⟨hguar, hinv, ih h.2 (hbound.trans hlater.undisturbed.clock) (.nothing _ _)⟩
  | rollback next ih =>
      intro db' hlater
      exact ih h (hbound.trans hlater.undisturbed.clock) (.nothing _ _)

end Rules

end RagStack
