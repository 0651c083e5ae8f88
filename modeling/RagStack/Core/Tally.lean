import RagStack.Core.SingleCommit
import Mathlib.Algebra.BigOperators.Group.Finset.Basic
import Mathlib.Data.Fintype.BigOperators

/-!
# What a table adds up to

Each client adds its amount to a sum over the committed rows, all of it with one commit.  Whatever
the interleaving, the sum is what it was before plus the amounts of the clients that have succeeded.
Nothing is counted twice and nothing is lost, and a client that has failed has added nothing.

The sum ranges over all keys that were ever generated, with a weight for a row that is there and
another for none.  This makes inserting, changing and deleting a row the same kind of event.
Weights are in any commutative monoid, so one theorem counts rows, adds up numbers, and does both at
once.

A client whose amount is zero may commit as often as it likes.  The others have to be of the kind
that commits once, since otherwise a part of the amount could be visible while the client can still
fail.

* `Db.tally` — a sum over the committed rows.
* `Secure.run_tally` — the sum after a run.
-/

namespace RagStack

/-! ## Sums over the rows

Only the keys that a commit has written matter to what it does to the sum. -/

section Tally

variable {Row M : Type} [AddCommMonoid M] (weight : Option Row → M)

/-- The weights of the committed rows, added up. -/
def Db.tally (db : Db Row) : M := ∑ k ∈ Finset.range db.clock, weight (db.rows k)

variable {weight} {db : Db Row} {w : Writes Row} {k : Key}

/-- A key that was generated and has no row yet. -/
lemma Db.tally_tick (hweight : weight none = 0) (hfresh : db.rows db.clock = none) :
    db.tick.tally weight = db.tally weight := by
  simp only [tally, tick, Finset.sum_range_succ, hfresh, hweight, add_zero]

/-- A commit that leaves the weight of every row alone. -/
lemma Db.tally_apply (h : ∀ k, weight ((db.apply w).rows k) = weight (db.rows k)) :
    (db.apply w).tally weight = db.tally weight := by
  simp only [tally, h]
  rfl

/-- A commit that changes the weight of one row, which had none. -/
lemma Db.tally_apply_one (hk : k < db.clock) (hnone : weight (db.rows k) = 0)
    (h : ∀ k' ≠ k, weight ((db.apply w).rows k') = weight (db.rows k')) :
    (db.apply w).tally weight = db.tally weight + weight ((db.apply w).rows k) := by
  have hmem : k ∈ Finset.range db.clock := Finset.mem_range.mpr hk
  have hothers : ∑ k' ∈ (Finset.range db.clock).erase k, weight ((db.apply w).rows k')
      = ∑ k' ∈ (Finset.range db.clock).erase k, weight (db.rows k') :=
    Finset.sum_congr rfl fun k' hk' => h k' (Finset.ne_of_mem_erase hk')
  calc (db.apply w).tally weight
      = weight ((db.apply w).rows k)
        + ∑ k' ∈ (Finset.range db.clock).erase k, weight ((db.apply w).rows k') :=
        (Finset.add_sum_erase _ _ hmem).symm
    _ = weight ((db.apply w).rows k)
        + ∑ k' ∈ (Finset.range db.clock).erase k, weight (db.rows k') := by rw [hothers]
    _ = weight ((db.apply w).rows k) + db.tally weight := by
        rw [tally, ← Finset.add_sum_erase _ _ hmem, hnone, zero_add]
    _ = db.tally weight + weight ((db.apply w).rows k) := add_comm _ _

end Tally

/-! ## Runs

The induction is over the run, with the contracts of the clients as the source of what a commit may
do. -/

section Runs

variable {n : ℕ} {Row L α M : Type} [AddCommMonoid M] {S : Schema Row} {Inv : Rows Row → Prop}
  {C : Fin n → Contract Row L α} {p : α → Bool} {sys sys' : Sys n Row L α} {i : Fin n} {a : Action}
  {weight : Option Row → M} {amount : Fin n → M}

/-- What the clients that have answered `p` add up to. -/
def Sys.answered (p : α → Bool) (amount : Fin n → M) (sys : Sys n Row L α) : M :=
  ∑ i, if sys.Answered p i then amount i else 0

lemma Sys.answered_congr (h : ∀ j, amount j = 0 ∨ (sys'.Answered p j ↔ sys.Answered p j)) :
    sys'.answered p amount = sys.answered p amount := by
  refine Finset.sum_congr rfl fun j _ => ?_
  rcases h j with hzero | hiff
  · simp [hzero]
  · simp [hiff]

lemma Sys.answered_add (hbefore : ¬ sys.Answered p i) (hafter : sys'.Answered p i)
    (hothers : ∀ j ≠ i, sys'.Answered p j ↔ sys.Answered p j) :
    sys'.answered p amount = sys.answered p amount + amount i := by
  have hrest : ∀ j ∈ ({i} : Finset (Fin n))ᶜ, (if sys'.Answered p j then amount j else 0)
      = if sys.Answered p j then amount j else 0 := by
    intro j hj
    simp [hothers j (by simpa using hj)]
  rw [answered, answered, Fintype.sum_eq_add_sum_compl i, Fintype.sum_eq_add_sum_compl i,
    if_pos hafter, if_neg hbefore, zero_add, Finset.sum_congr rfl hrest, add_comm]

/-- **The sum after a run**, if every commit of a client adds its amount. -/
theorem Secure.run_tally {db : Db Row} {progs : Fin n → Prog Row L α}
    (hstart : Secure S Inv C (Sys.start db progs)) {acts : List (Fin n × Action)}
    (hadmissible : (Sys.start db progs).AlongRun S (Admissible C) acts)
    (hrun : (Sys.start db progs).run S acts = some sys) (hweight : weight none = 0)
    (hends : ∀ i, amount i = 0 ∨ (progs i).CommitsTo p)
    (hcommit : ∀ i label log (db : Db Row) w, (∀ k r, (db.apply w).rows k = some r → k < db.clock) →
      (C i).Guar (label :: log) db.rows (db.apply w).rows →
        (db.apply w).tally weight = db.tally weight + amount i) :
    sys.db.tally weight = db.tally weight + sys.answered p amount := by
  have hnobody : (Sys.start db progs).answered p amount = 0 := by
    refine Finset.sum_eq_zero fun j _ => ?_
    rcases hends j with hzero | hend
    · simp [hzero]
    · exact if_neg (hend : ((Sys.start db progs).procs j).prog.CommitsTo p).not_answered
  refine (hstart.run_induct (Q := fun mid => mid.db.tally weight
      = db.tally weight + mid.answered p amount ∧ ∀ j, amount j = 0
        ∨ (mid.procs j).prog.CommitsTo p ∨ mid.Answered p j) hadmissible hrun ?_ ?_).2.1
  · refine ⟨?_, fun j => (hends j).imp id .inl⟩
    rw [hnobody, add_zero]
    rfl
  · rintro mid i a mid' hmid - hmoved ⟨htally, hprogs⟩
    have hticked : mid.db.tick.tally weight = mid.db.tally weight :=
      Db.tally_tick hweight (hmid.here i none).fresh.1
    have hcommitted : (mid.procs i).scan = none → (∃ label next,
        (mid.procs i).prog = .commit label next) →
          (mid.view i).tally weight = mid.db.tally weight + amount i := by
      rintro hscan ⟨label, next, hprog⟩
      refine hcommit i _ _ mid.db _ (fun k r hr => ?_) (hmid.guar hscan hprog)
      cases hw : (mid.procs i).writes k with
      | none => exact hmid.locked.generated k r (Db.rows_apply_none hw ▸ hr)
      | some v => exact hmid.locked.written i k v hw
    have hsame : ∀ j ≠ i, mid'.Answered p j ↔ mid.Answered p j :=
      fun j hj => Sys.answered_of_moved hmoved hj
    have hkeep : ∀ j ≠ i, amount j = 0 ∨ (mid'.procs j).prog.CommitsTo p ∨ mid'.Answered p j := by
      intro j hj
      rw [Sys.ends_of_moved hmoved hj]
      exact hprogs j
    rcases hprogs i with hzero | hend | hanswered
    · refine ⟨?_, forall_of_one (.inl hzero) hkeep⟩
      rw [Sys.answered_congr (forall_of_one (.inl hzero) fun j hj => .inr (hsame j hj)), ← htally]
      rcases hmoved.db_cases with hdb | hdb | ⟨hdb, hscan, hprog⟩
      · rw [hdb]
      · rw [hdb, hticked]
      · rw [hdb, hcommitted hscan hprog, hzero, add_zero]
    · rcases hend.moved hmoved with ⟨hend', hdb⟩ | ⟨hanswered, hdb, hscan, hprog⟩
      · have hneither := iff_of_false hend'.not_answered hend.not_answered
        refine ⟨?_, forall_of_one (.inr (.inl hend')) hkeep⟩
        rw [Sys.answered_congr (forall_of_one (.inr hneither) fun j hj => .inr (hsame j hj)), ← htally]
        rcases hdb with hdb | hdb
        · rw [hdb]
        · rw [hdb, hticked]
      · refine ⟨?_, forall_of_one (.inr (.inr hanswered)) hkeep⟩
        rw [hdb, hcommitted hscan hprog, Sys.answered_add hend.not_answered hanswered hsame, htally,
          add_assoc]
    · exact absurd hmoved hanswered.not_moved

end Runs

end RagStack
