import Mathlib.Data.List.Dedup
import Mathlib.Algebra.BigOperators.Group.List.Basic
import Mathlib.Algebra.GroupWithZero.Nat

/-!
# Grouped and filtered aggregates

`GROUP BY` puts every row in the group of its key, and aggregates are computed for each group.  The
same numbers can be had by filtering the rows of one key and aggregating those, and a page that
shows a list of totals and a page that shows one of them are written in these two ways.  This file
is the reason why they agree.

The groups are a list of the keys without repetition, each with its rows.  A key has a group exactly
if some row has it, and the rows of the group are the rows of the filter, in the same order.  An
aggregate of the group therefore is the aggregate of the filter, whatever it computes.  For a sum
over everything there is one more fact, that each row is in exactly one group.

Aggregates of no rows are NULL in SQL and not zero, which is why they are options here.

* `groupRows` — the keys, each of them once, with their rows.
* `find?_groupRows` — the group of a key has the rows a filter on the key finds.
* `sum_groupRows` — summing in groups first and then over the groups is summing over the rows.
* `sqlSum`, `sqlMax` — aggregates that are NULL for no rows.
-/

namespace RagStack

variable {ρ κ M : Type*} [DecidableEq κ]

/-- `GROUP BY key`. -/
def groupRows (key : ρ → κ) (rows : List ρ) : List (κ × List ρ) :=
  (rows.map key).dedup.map fun k => (k, rows.filter (key · = k))

/-- `SUM`. -/
def sqlSum (values : List ℕ) : Option ℕ := if values = [] then none else some values.sum

/-- `MAX`. -/
def sqlMax (values : List ℕ) : Option ℕ := values.max?

@[simp] lemma sqlSum_getD (values : List ℕ) : (sqlSum values).getD 0 = values.sum := by
  simp only [sqlSum]
  split
  · rename_i hnil
    rw [hnil]
    rfl
  · rfl

variable {key : ρ → κ} {rows : List ρ}

/-- A group is found by its key, and it has the rows of the key. -/
lemma find?_groupRows (k : κ) :
    (groupRows key rows).find? (·.1 = k)
      = if k ∈ rows.map key then some (k, rows.filter (key · = k)) else none := by
  have hfind : ∀ ks : List κ, (ks.map fun k => (k, rows.filter (key · = k))).find? (·.1 = k)
      = if k ∈ ks then some (k, rows.filter (key · = k)) else none := by
    intro ks
    induction ks with
    | nil => rfl
    | cons k' ks ih =>
        rw [List.map_cons, List.find?_cons]
        by_cases heq : k' = k
        · simp [heq]
        · simp [heq, Ne.symm heq, ih]
  simp only [groupRows]
  rw [hfind]
  simp only [List.mem_dedup]

/-- A value that one of the keys has. -/
lemma sum_map_ite_of_nodup [AddCommMonoid M] {ks : List κ} (hnodup : ks.Nodup) {k : κ} (hk : k ∈ ks)
    (value : M) : (ks.map fun k' => if k = k' then value else 0).sum = value := by
  induction ks with
  | nil => cases hk
  | cons k' ks ih =>
      obtain ⟨hnot, hnodup⟩ := List.nodup_cons.mp hnodup
      rw [List.map_cons, List.sum_cons]
      rcases List.mem_cons.mp hk with rfl | hmem
      · have hzero : (ks.map fun k' => if k = k' then value else 0).sum = 0 := by
          refine List.sum_eq_zero fun x hx => ?_
          obtain ⟨k', hk', rfl⟩ := List.mem_map.mp hx
          exact if_neg (by rintro rfl; exact hnot hk')
        rw [if_pos rfl, hzero, add_zero]
      · rw [if_neg (by rintro rfl; exact hnot hmem), zero_add, ih hnodup hmem]

/-- **Summing by groups.** -/
lemma sum_groupRows [AddCommMonoid M] (f : ρ → M) :
    ((groupRows key rows).map fun group => (group.2.map f).sum).sum = (rows.map f).sum := by
  have hsum : ∀ ks : List κ, ks.Nodup → ∀ rows : List ρ, (∀ row ∈ rows, key row ∈ ks) →
      (ks.map fun k => ((rows.filter (key · = k)).map f).sum).sum = (rows.map f).sum := by
    intro ks hnodup rows hkeys
    induction rows with
    | nil => simp
    | cons row rows ih =>
        obtain ⟨hrow, hrows⟩ := List.forall_mem_cons.mp hkeys
        -- the row is in the group of its key only
        have hgroup : ∀ k, (((row :: rows).filter (key · = k)).map f).sum
            = (if key row = k then f row else 0) + ((rows.filter (key · = k)).map f).sum := by
          intro k
          by_cases hk : key row = k
          · simp [hk]
          · simp [hk]
        simp only [hgroup, List.sum_map_add]
        rw [sum_map_ite_of_nodup hnodup hrow, ih hrows, List.map_cons, List.sum_cons]
  simp only [groupRows]
  rw [List.map_map]
  refine hsum _ (List.nodup_dedup _) rows fun row hrow => ?_
  exact List.mem_dedup.mpr (List.mem_map_of_mem hrow)

end RagStack
