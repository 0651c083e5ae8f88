import RagStack.Core.ReadCommitted

/-!
# A client that is alone

Without other clients nothing has to wait.  `Returns` says that a client alone comes to the end of
its program; there is a rule for each kind of statement, and a proof applies the rules in the order
of the program.  This is a liveness fact of the weakest sort, and it is still worth having beside
the safety theorems: a program whose statements were rejected each time would satisfy all of these.

A rejection can only come from a constraint.  An INSERT has to be admitted, which depends on its
row, but an UPDATE writes new versions of rows that are there, and most UPDATEs set columns that no
constraint mentions.  For these the new version is `Similar` to the old one, the database stays
`Consistent`, and the UPDATE needs no condition at all.

How many steps an UPDATE takes is not fixed in advance.  It visits the rows it has found one at a
time, in an order of which one is constructed here, and ends when its list is empty.

* `Returns.update` — an UPDATE ends, because every visit takes a row off its list.
* `Returns.update_similar` — no visit is rejected, if the new versions of rows are `Similar` to the
  old ones and the database was `Consistent`.
-/

namespace RagStack

variable {Row L α : Type}

/-- The database with one client, which is never hindered by a lock. -/
def lone (db : Db Row) (p : Proc Row L α) : Sys 1 Row L α := ⟨db, fun _ => p⟩

/-- Alone, the client can come to the end of its program. -/
def Returns (S : Schema Row) (db : Db Row) (p : Proc Row L α) : Prop :=
  ∃ acts db' p' a, (lone db p).run S acts = some (lone db' p') ∧ p'.prog = .done a

section Lone

variable {S : Schema Row} {db db' : Db Row} {p p' : Proc Row L α} {k : Key} {r : Row}

@[simp] lemma procs_lone (i : Fin 1) : (lone db p).procs i = p := rfl

@[simp] lemma view_lone : (lone db p).view 0 = db.apply p.writes := rfl

@[simp] lemma become_lone : (lone db p).become 0 p' = lone db p' := by
  simp only [lone, Sys.become]
  congr 1
  funext j
  rw [Subsingleton.elim j 0, Function.update_self]

@[simp] lemma unlocked_lone : (lone db p).Unlocked 0 k :=
  fun j hj => absurd (Subsingleton.elim j 0) hj

@[simp] lemma unhindered_lone : (lone db p).Unhindered S 0 k r :=
  ⟨unlocked_lone, fun _ _ j hj => absurd (Subsingleton.elim j 0) hj,
    fun j hj => absurd (Subsingleton.elim j 0) hj⟩

end Lone

namespace Returns

variable {S : Schema Row} {db db' : Db Row} {p p' : Proc Row L α} {w : Writes Row} {log : List L}
  {label : L}

lemma step {a : Action} (hstep : (lone db p).step S 0 a = some (lone db' p'))
    (h : Returns S db' p') : Returns S db p := by
  obtain ⟨acts, db'', p'', reply, hrun, hdone⟩ := h
  refine ⟨(0, a) :: acts, db'', p'', reply, ?_, hdone⟩
  rw [Sys.run, hstep]
  exact hrun

lemma done (a : α) : Returns S db ⟨.done a, w, none, log⟩ :=
  ⟨[], db, _, a, rfl, rfl⟩

lemma read {next : Db Row → Prog Row L α}
    (h : Returns S db ⟨next (db.apply w), w, none, label :: log⟩) :
    Returns S db ⟨.read label next, w, none, log⟩ := by
  refine step (a := .Proceed) ?_ h
  simp [Sys.step, Sys.proceed]

lemma commit {next : Prog Row L α}
    (h : Returns S (db.apply w) ⟨next, fun _ => none, none, label :: log⟩) :
    Returns S db ⟨.commit label next, w, none, log⟩ := by
  refine step (a := .Proceed) ?_ h
  show some (Sys.become { lone db _ with db := _ } _ _) = _
  exact congrArg some become_lone

/-- **An UPDATE ends.**  `K` is what makes every visit admissible: it holds of the view in which the
UPDATE starts and survives each write.  The proof is an induction on the number of rows it has left.
-/
theorem update {q : Key → Row → Bool} {f : Row → Row} {next : ℕ → Prog Row L α}
    (K : Db Row → Prop) (hK : K (db.apply w))
    (hkeep : ∀ w k r, K (db.apply w) → (db.apply w).rows k = some r → q k r = true →
      S.Admits (db.apply w) k (f r) ∧ K (db.apply (Function.update w k (some (some (f r))))))
    (hnext : ∀ count w, K (db.apply w) → Returns S db ⟨next count, w, none, label :: log⟩) :
    Returns S db ⟨.update label q f next, w, none, log⟩ := by
  have hvisits : ∀ todo count w, K (db.apply w) →
      Returns S db ⟨.update label q f next, w, some ⟨todo, count⟩, label :: log⟩ := by
    intro todo
    induction todo with
    | nil =>
        intro count w hK
        refine step (a := .Proceed) ?_ (hnext count w hK)
        simp [Sys.step, Sys.proceed]
    | cons k todo ih =>
        intro count w hK
        cases hr : (db.apply w).rows k with
        | none =>
            refine step (a := .Visit k) ?_ (ih count w hK)
            simp [Sys.step, Sys.visit, hr]
        | some r =>
            cases hq : q k r with
            | false =>
                refine step (a := .Visit k) ?_ (ih count w hK)
                simp [Sys.step, Sys.visit, hr, hq]
            | true =>
                obtain ⟨hadmits, hK'⟩ := hkeep w k r hK hr hq
                refine step (a := .Visit k) ?_ (ih (count + 1) _ hK')
                simp [Sys.step, Sys.visit, hr, hq, hadmits, Sys.write]
  refine step (a := .Proceed) ?_ (hvisits ((db.apply w).keysWhere q) 0 w hK)
  simp [Sys.step, Sys.proceed]

end Returns

/-! ## Constraints that stay

Consistency of a database is admissibility of all its rows.  It is kept by an UPDATE whose new
versions have the same references, clash with the same rows, and are of the same table in the eyes
of every foreign key. -/

namespace Schema

def Consistent (S : Schema Row) (view : Db Row) : Prop :=
  ∀ k r, view.rows k = some r → S.Admits view k r

/-- Two versions of a row between which no constraint tells a difference. -/
structure Similar (S : Schema Row) (r r' : Row) : Prop where
  references : S.references r' = S.references r
  clash : ∀ x, S.clash r' x = S.clash r x ∧ S.clash x r' = S.clash x r
  check : S.check r' = S.check r
  table : ∀ x, ∀ ref ∈ S.references x, ref.2 r' = ref.2 r

variable {S : Schema Row} {view : Db Row} {k : Key} {r r' : Row}

lemma Similar.admits (h : S.Similar r r') (hadmits : S.Admits view k r) : S.Admits view k r' := by
  refine ⟨?_, fun k' hk' hne => ?_, h.check.trans hadmits.2.2⟩
  · simp only [ParentsExist]
    rw [h.references]
    exact hadmits.1
  · have hunique := hadmits.2.1 k' hk' hne
    cases hx : view.rows k' with
    | none => rfl
    | some x =>
        rw [hx, Option.all_some] at hunique
        rw [Option.all_some, (h.clash x).1]
        exact hunique

/-- A similar version changes nothing for the other rows. -/
lemma Similar.consistent (h : S.Similar r r') (hconsistent : S.Consistent view)
    (hr : view.rows k = some r) :
    S.Consistent { view with rows := Function.update view.rows k (some r') } := by
  have hrow : ∀ k', Function.update view.rows k (some r') k'
      = if k' = k then some r' else view.rows k' := fun k' => Function.update_apply _ _ _ _
  have hothers : ∀ k' x, S.Admits view k' x →
      S.Admits { view with rows := Function.update view.rows k (some r') } k' x := by
    intro k' x hadmits
    refine ⟨fun ref href => ?_, fun k'' hk'' hne => ?_, hadmits.2.2⟩
    · have hparent := hadmits.1 ref href
      show (Function.update view.rows k (some r') ref.1).any ref.2 = true
      rw [hrow]
      split
      · rename_i hk
        rw [hk, hr, Option.any_some] at hparent
        rw [Option.any_some, h.table x ref href]
        exact hparent
      · exact hparent
    · have hunique := hadmits.2.1 k'' hk'' hne
      show (Function.update view.rows k (some r') k'').all (fun y => !S.clash x y) = true
      rw [hrow]
      split
      · rename_i hk
        rw [hk, hr, Option.all_some] at hunique
        rw [Option.all_some, (h.clash x).2]
        exact hunique
      · exact hunique
  intro k' x hx
  have hx' : (if k' = k then some r' else view.rows k') = some x := (hrow k').symm.trans hx
  split at hx'
  · rename_i hk
    cases hx'
    rw [hk]
    exact hothers k r' (h.admits (hconsistent k r hr))
  · exact hothers k' x (hconsistent k' x hx')

end Schema

/-- An UPDATE that no constraint can object to ends. -/
theorem Returns.update_similar {S : Schema Row} {db : Db Row} {w : Writes Row} {log : List L}
    {label : L} {q : Key → Row → Bool} {f : Row → Row} {next : ℕ → Prog Row L α}
    (hconsistent : S.Consistent (db.apply w)) (hsimilar : ∀ r, S.Similar r (f r))
    (hnext : ∀ count w, S.Consistent (db.apply w) →
      Returns S db ⟨next count, w, none, label :: log⟩) :
    Returns S db ⟨.update label q f next, w, none, log⟩ := by
  refine Returns.update S.Consistent hconsistent (fun w k r hK hr _ => ?_) hnext
  refine ⟨(hsimilar r).admits (hK k r hr), ?_⟩
  have happly : db.apply (Function.update w k (some (some (f r))))
      = { db.apply w with rows := Function.update (db.apply w).rows k (some (f r)) } := by
    simp only [Db.apply]
    congr 1
    funext k'
    rw [Function.update_apply, Function.update_apply]
    split <;> rfl
  rw [happly]
  exact (hsimilar r).consistent hK hr

end RagStack
