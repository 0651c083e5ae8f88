import Mathlib.Data.Fintype.Card
import RagStack.Core.RelyGuarantee

/-!
# One client after the other

What a client does when nothing interferes is a function of the database.  This function is the
yardstick for everything that clients do at the same time: an interleaving is explained if its
outcome is that of some serial order.

`Prog.alone` is defined by recursion over the program and not as a run of the system, so that it can
be computed and rewritten with.  That it is a run all the same is `exists_run_alone`: while no other
client holds a lock, a client can get to the end of its program, and it gets there as the function
says.  Both directions of a comparison need this, one to show that an order explains a run, the
other to show that a bad outcome is possible.

An UPDATE visits its rows in some order, and if a visit could be rejected the order would matter.
The rules of this file are about UPDATEs all of whose visits are admitted, for which it does not.

A call that answers with a conflict may be left out of the order.  It is for the user of
`Serializable` to say which answers are excused in this way.

* `Prog.alone` — the database and the client at the end of its program.
* `alone_updateOne`, `visitAll_keysWhere` — the rules of an UPDATE.
* `exists_run_alone` — while no other client holds a lock, a client can run like that.
* `serially` — some clients, one after the other.
* `Serializable` — what has become of the database and of the answers is what one client after the
  other would have led to.  A call with an excused answer may have had no effect.
-/

namespace RagStack

variable {n : ℕ} {Row L α : Type}

/-- An UPDATE that visits these rows; `none` if a row violates a constraint. -/
def visitAll (S : Schema Row) (p : Key → Row → Bool) (f : Row → Row) (db : Db Row) :
    List Key → ℕ → Writes Row → Option (ℕ × Writes Row)
  | [], count, w => some (count, w)
  | k :: todo, count, w =>
      match (db.apply w).rows k with
      | none => visitAll S p f db todo count w
      | some r =>
          if p k r then
            if S.Admits (db.apply w) k (f r) then
              visitAll S p f db todo (count + 1) (Function.update w k (some (some (f r))))
            else none
          else visitAll S p f db todo count w

/-- **A client alone**, to the end of its program.  An UPDATE visits its rows in their order. -/
def Prog.alone (S : Schema Row) : Prog Row L α → Db Row → Writes Row → List L →
    Db Row × Proc Row L α
  | .done a, db, w, log => (db, ⟨.done a, w, none, log⟩)
  | .failed, db, w, log => (db, ⟨.failed, w, none, log⟩)
  | .read label next, db, w, log => (next (db.apply w)).alone S db w (label :: log)
  | .insert label row next, db, w, log =>
      if S.Admits (db.apply w) db.clock (row db.clock) then
        (next db.clock).alone S db.tick
          (Function.update w db.clock (some (some (row db.clock)))) (label :: log)
      else (db, ⟨.failed, fun _ => none, none, log⟩)
  | .update label p f next, db, w, log =>
      match visitAll S p f db ((db.apply w).keysWhere p) 0 w with
      | none => (db, ⟨.failed, fun _ => none, none, label :: log⟩)
      | some (count, w') => (next count).alone S db w' (label :: log)
  | .delete label p k next, db, w, log =>
      if ((db.apply w).rows k).any p then
        (next 1).alone S db (fun k' => (S.erase (db.apply w) k k').orElse fun _ => w k')
          (label :: log)
      else (next 0).alone S db w (label :: log)
  | .commit label next, db, w, log => next.alone S (db.apply w) (fun _ => none) (label :: log)
  | .rollback next, db, _, log => next.alone S db (fun _ => none) log

/-! ## UPDATEs

`visitAll` is an UPDATE as a function.  With an invariant of the view that makes each visit
admissible, it changes all the rows it has found, and nothing else. -/

section Updates

variable {S : Schema Row} {db : Db Row} {w : Writes Row} {label : L} {log : List L}
  {f : Row → Row} {next : ℕ → Prog Row L α}

/-- An UPDATE of one row, which is there. -/
lemma alone_updateOne {k : Key} {r : Row} {q : Row → Bool} (hk : k < db.clock)
    (hr : (db.apply w).rows k = some r) (hq : q r = true) (hadmits : S.Admits (db.apply w) k (f r)) :
    (Prog.update label (fun k' r => k' == k && q r) f next).alone S db w log
      = (next 1).alone S db (Function.update w k (some (some (f r)))) (label :: log) := by
  rw [Prog.alone, keysWhere_one (db.apply w) k q fun _ _ => hk, hr, Option.any_some, if_pos hq]
  simp [visitAll, hr, hq, hadmits]

/-- The visits of an UPDATE.  `K` is what makes all of them admissible. -/
lemma visitAll_some {p : Key → Row → Bool} (K : Db Row → Prop)
    (hK : ∀ w k r, K (db.apply w) → (db.apply w).rows k = some r → p k r = true →
      S.Admits (db.apply w) k (f r) ∧ K (db.apply (Function.update w k (some (some (f r))))))
    {todo : List Key} (hnodup : todo.Nodup) (count : ℕ) (hw : K (db.apply w)) :
    ∃ count' w', visitAll S p f db todo count w = some (count', w') ∧ K (db.apply w')
      ∧ ∀ k, (db.apply w').rows k = if k ∈ todo
          then ((db.apply w).rows k).map fun r => if p k r then f r else r
          else (db.apply w).rows k := by
  induction todo generalizing count w with
  | nil => exact ⟨count, w, rfl, hw, fun k => by rw [if_neg List.not_mem_nil]⟩
  | cons k todo ih =>
      obtain ⟨hk, hnodup⟩ := List.nodup_cons.mp hnodup
      -- the row `k` is not visited again
      have hrest : ∀ (w₁ : Writes Row) (count₁ : ℕ), K (db.apply w₁) →
          visitAll S p f db (k :: todo) count w = visitAll S p f db todo count₁ w₁ →
          (∀ k', (db.apply w₁).rows k' = if k' = k
            then ((db.apply w).rows k).map fun r => if p k r then f r else r
            else (db.apply w).rows k') →
          ∃ count' w', visitAll S p f db (k :: todo) count w = some (count', w')
            ∧ K (db.apply w') ∧ ∀ k', (db.apply w').rows k' = if k' ∈ k :: todo
              then ((db.apply w).rows k').map fun r => if p k' r then f r else r
              else (db.apply w).rows k' := by
        intro w₁ count₁ hw₁ hvisit hrows
        obtain ⟨count', w', hresult, hw', hrows'⟩ := ih hnodup count₁ hw₁
        refine ⟨count', w', hvisit.trans hresult, hw', fun k' => ?_⟩
        rw [hrows', hrows]
        by_cases hk' : k' = k
        · subst hk'
          rw [if_neg hk, if_pos rfl, if_pos List.mem_cons_self]
        · simp [hk']
      cases hr : (db.apply w).rows k with
      | none =>
          refine hrest w count hw ?_ fun k' => ?_
          · rw [visitAll, hr]
          · split
            · rename_i hk'
              rw [hk', hr, Option.map_none]
            · rfl
      | some r =>
          by_cases hp : p k r = true
          · obtain ⟨hadmits, hw₁⟩ := hK w k r hw hr hp
            refine hrest _ (count + 1) hw₁ ?_ fun k' => ?_
            · rw [visitAll, hr]
              simp only [if_pos hp, if_pos hadmits]
            · split
              · rename_i hk'
                rw [hk', Db.rows_apply_update_self, hr, Option.map_some, if_pos hp]
              · rename_i hk'
                rw [Db.rows_apply_update_of_ne _ _ hk']
          · refine hrest w count hw ?_ fun k' => ?_
            · rw [visitAll, hr]
              simp only [if_neg hp]
            · split
              · rename_i hk'
                rw [hk', hr, Option.map_some, if_neg hp]
              · rfl

/-- An UPDATE of many rows changes all of them. -/
lemma visitAll_keysWhere {p : Key → Row → Bool} (K : Db Row → Prop)
    (hK : ∀ w k r, K (db.apply w) → (db.apply w).rows k = some r → p k r = true →
      S.Admits (db.apply w) k (f r) ∧ K (db.apply (Function.update w k (some (some (f r))))))
    (hseen : ∀ k r, (db.apply w).rows k = some r → k < db.clock) (hw : K (db.apply w)) :
    ∃ count w', visitAll S p f db ((db.apply w).keysWhere p) 0 w = some (count, w')
      ∧ K (db.apply w') ∧ ∀ k, (db.apply w').rows k
          = ((db.apply w).rows k).map fun r => if p k r then f r else r := by
  have hnodup : ((db.apply w).keysWhere p).Nodup := List.nodup_range.filter _
  obtain ⟨count, w', hresult, hw', hrows⟩ := visitAll_some K hK hnodup 0 hw
  refine ⟨count, w', hresult, hw', fun k => ?_⟩
  rw [hrows]
  split
  · rfl
  · rename_i hk
    cases hr : (db.apply w).rows k with
    | none => rfl
    | some r =>
        rw [Option.map_some, if_neg]
        exact fun hp => hk (Db.mem_keysWhere.mpr ⟨hseen k r hr, r, hr, hp⟩)

end Updates

/-! ## It is a run

The schedule is constructed along the program, each statement being one step, except for an UPDATE,
which takes one step for each of its rows and two more. -/

section Runs

variable {S : Schema Row} {sys : Sys n Row L α} {i : Fin n}

/-- No other client has written anything. -/
def Sys.Undisputed (sys : Sys n Row L α) (i : Fin n) : Prop :=
  ∀ j, j ≠ i → (sys.procs j).writes = fun _ => none

namespace Sys.Undisputed

lemma unlocked (h : sys.Undisputed i) (k : Key) : sys.Unlocked i k := by
  intro j hj
  rw [h j hj]
  rfl

lemma parentsStay (h : sys.Undisputed i) (r : Row) : sys.ParentsStay S i r := by
  intro ref _ j hj
  rw [h j hj]
  rfl

lemma unhindered (h : sys.Undisputed i) (k : Key) (r : Row) : sys.Unhindered S i k r := by
  refine ⟨h.unlocked k, h.parentsStay r, fun j hj k' _ _ => ?_⟩
  rw [h j hj]
  rfl

lemma settled (h : sys.Undisputed i) (k : Key) (r : Row) : sys.Settled S i k r :=
  fun _ k' _ _ _ => h.unlocked k'

lemma erasable (h : sys.Undisputed i) (k : Key) : sys.Erasable S i k := by
  refine ⟨fun k' _ _ => h.unlocked k', fun _ _ r _ => h.parentsStay r, fun j hj k' _ => ?_⟩
  rw [h j hj]
  rfl

/-- It stays so while only client `i` moves. -/
lemma become (h : sys.Undisputed i) (db : Db Row) (p : Proc Row L α) :
    (Sys.become { sys with db } i p).Undisputed i := by
  intro j hj
  rw [Sys.procs_become_of_ne _ _ _ hj]
  exact h j hj

end Sys.Undisputed

/-- Client `i` can get to `p'` by itself. -/
def Reaches (S : Schema Row) (sys : Sys n Row L α) (i : Fin n) (db' : Db Row)
    (p' : Proc Row L α) : Prop :=
  ∃ acts : List (Fin n × Action), sys.run S acts = some (Sys.become { sys with db := db' } i p')

lemma Reaches.refl (S : Schema Row) (sys : Sys n Row L α) (i : Fin n) :
    Reaches S sys i sys.db (sys.procs i) := by
  refine ⟨[], ?_⟩
  rw [Sys.run, Sys.become, Function.update_eq_self]

lemma Reaches.of_proc {p : Proc Row L α} (hproc : sys.procs i = p) :
    Reaches S sys i sys.db p :=
  hproc ▸ .refl S sys i

lemma Reaches.head {db db' : Db Row} {p p' : Proc Row L α} {a : Action}
    (hstep : sys.step S i a = some (Sys.become { sys with db } i p))
    (h : Reaches S (Sys.become { sys with db } i p) i db' p') : Reaches S sys i db' p' := by
  obtain ⟨acts, hacts⟩ := h
  refine ⟨(i, a) :: acts, ?_⟩
  rw [Sys.run, hstep, Option.bind_some, hacts]
  simp only [Sys.become, Function.update_idem]

lemma Reaches.trans {db db' : Db Row} {p p' : Proc Row L α} (h : Reaches S sys i db p)
    (h' : Reaches S (Sys.become { sys with db } i p) i db' p') : Reaches S sys i db' p' := by
  obtain ⟨acts, hacts⟩ := h
  obtain ⟨more, hmore⟩ := h'
  refine ⟨acts ++ more, ?_⟩
  rw [Sys.run_append, hacts, Option.bind_some, hmore]
  simp only [Sys.become, Function.update_idem]

/-- The client when the UPDATE has visited its rows. -/
def Proc.afterVisits (label : L) (p : Key → Row → Bool) (f : Row → Row) (next : ℕ → Prog Row L α)
    (log : List L) : Option (ℕ × Writes Row) → Proc Row L α
  | none => ⟨.failed, fun _ => none, none, log⟩
  | some (count, w) => ⟨.update label p f next, w, some ⟨[], count⟩, log⟩

lemma reaches_afterVisits {label : L} {p : Key → Row → Bool} {f : Row → Row}
    {next : ℕ → Prog Row L α} {log : List L} {todo : List Key} {count : ℕ} {w : Writes Row}
    (hfree : sys.Undisputed i)
    (hproc : sys.procs i = ⟨.update label p f next, w, some ⟨todo, count⟩, log⟩) :
    Reaches S sys i sys.db
      (.afterVisits label p f next log (visitAll S p f sys.db todo count w)) := by
  induction todo generalizing sys count w with
  | nil =>
      rw [visitAll, Proc.afterVisits, ← hproc]
      exact .refl S sys i
  | cons k todo ih =>
      have hview : sys.view i = sys.db.apply w := by rw [Sys.view, hproc]
      have hunlocked := hfree.unlocked k
      have hnext : ∀ (w' : Writes Row) (count' : ℕ),
          sys.step S i (.Visit k) = some (sys.become i
            ⟨.update label p f next, w', some ⟨todo, count'⟩, log⟩) →
          Reaches S sys i sys.db
            (.afterVisits label p f next log (visitAll S p f sys.db todo count' w')) :=
        fun w' count' hstep =>
          .head hstep (ih (hfree.become sys.db _) (Sys.procs_become_self sys i _))
      rw [visitAll]
      cases hr : (sys.db.apply w).rows k with
      | none =>
          refine hnext w count ?_
          simp [Sys.step, Sys.visit, hproc, hview, hr, hunlocked]
      | some r =>
          by_cases hp : p k r = true
          · by_cases hadmits : S.Admits (sys.db.apply w) k (f r)
            · simp only [if_pos hp, if_pos hadmits]
              refine hnext _ _ ?_
              simp [Sys.step, Sys.visit, hproc, hview, hr, hunlocked, hp, hadmits,
                hfree.unhindered k (f r), Sys.write]
            · simp only [if_pos hp, if_neg hadmits]
              refine .head (a := .Visit k) ?_ (.of_proc (Sys.procs_become_self sys i _))
              simp [Sys.step, Sys.visit, hproc, hview, hr, hunlocked, hp, hadmits,
                hfree.settled k (f r), Proc.fail, Proc.afterVisits]
          · simp only [if_neg hp]
            refine hnext w count ?_
            simp [Sys.step, Sys.visit, hproc, hview, hr, hunlocked, hp]

/-- **A client alone** can get to the end of its program, and what it leaves there is what
`Prog.alone` computes.  The schedule exists; that no other schedule of the same client leads
elsewhere is not claimed. -/
theorem exists_run_alone {prog : Prog Row L α} {w : Writes Row} {log : List L}
    (hfree : sys.Undisputed i) (hproc : sys.procs i = ⟨prog, w, none, log⟩) :
    Reaches S sys i (prog.alone S sys.db w log).1 (prog.alone S sys.db w log).2 := by
  induction prog generalizing sys w log with
  | done a => exact .of_proc hproc
  | failed => exact .of_proc hproc
  | read label next ih =>
      rw [Prog.alone]
      refine .head (a := .Proceed) ?_ (ih _ (hfree.become sys.db _) (Sys.procs_become_self sys i _))
      simp [Sys.step, Sys.proceed, hproc, Sys.view]
  | insert label row next ih =>
      rw [Prog.alone]
      split
      · rename_i hadmits
        refine .head (a := .Proceed) ?_
          (ih _ (hfree.become sys.db.tick _) (Sys.procs_become_self { sys with db := _ } i _))
        simp [Sys.step, Sys.proceed, hproc, Sys.view, hadmits,
          hfree.unhindered sys.db.clock (row sys.db.clock), Sys.write]
        rfl
      · rename_i hadmits
        refine .head (a := .Proceed) ?_ (.of_proc (Sys.procs_become_self sys i _))
        simp [Sys.step, Sys.proceed, hproc, Sys.view, hadmits,
          hfree.settled sys.db.clock (row sys.db.clock), Proc.fail]
  | update label p f next ih =>
      rw [Prog.alone]
      -- the UPDATE starts, visits its rows and ends
      have hstart : sys.step S i .Proceed = some (sys.become i ⟨.update label p f next, w,
          some ⟨(sys.db.apply w).keysWhere p, 0⟩, label :: log⟩) := by
        simp [Sys.step, Sys.proceed, hproc, Sys.view]
      have hvisits : Reaches S sys i sys.db (.afterVisits label p f next (label :: log)
          (visitAll S p f sys.db ((sys.db.apply w).keysWhere p) 0 w)) :=
        .head hstart (reaches_afterVisits (hfree.become sys.db _) (Sys.procs_become_self sys i _))
      cases hresult : visitAll S p f sys.db ((sys.db.apply w).keysWhere p) 0 w with
      | none =>
          rw [hresult] at hvisits
          exact hvisits
      | some result =>
          obtain ⟨count, w'⟩ := result
          rw [hresult] at hvisits
          have hdone := hfree.become sys.db (.afterVisits label p f next (label :: log)
            (some (count, w')))
          refine hvisits.trans (.head (a := .Proceed) ?_
            (ih count (hdone.become sys.db _) (Sys.procs_become_self _ i _)))
          simp [Sys.step, Sys.proceed, Proc.afterVisits]
          rfl
  | delete label p k next ih =>
      rw [Prog.alone]
      split
      · rename_i hfound
        refine .head (a := .Proceed) ?_ (ih _ (hfree.become sys.db _) (Sys.procs_become_self sys i _))
        simp [Sys.step, Sys.proceed, hproc, Sys.view, hfound, hfree.erasable k]
      · rename_i hmissing
        refine .head (a := .Proceed) ?_ (ih _ (hfree.become sys.db _) (Sys.procs_become_self sys i _))
        simp [Sys.step, Sys.proceed, hproc, Sys.view, hmissing]
  | commit label next ih =>
      rw [Prog.alone]
      refine .head (a := .Proceed) ?_ (ih (hfree.become (sys.db.apply w) _)
        (Sys.procs_become_self { sys with db := _ } i _))
      simp [Sys.step, Sys.proceed, hproc, Sys.view, Sys.become]
      rfl
  | rollback next ih =>
      rw [Prog.alone]
      refine .head (a := .Proceed) ?_ (ih (hfree.become sys.db _) (Sys.procs_become_self sys i _))
      simp [Sys.step, Sys.proceed, hproc]

end Runs

/-! ## Serial orders

An order is a list of clients without repetitions.  The clients that are not in it have done
nothing. -/

/-- Some clients, one after the other: the database, and what they have answered. -/
def serially (S : Schema Row) (progs : Fin n → Prog Row L α) :
    List (Fin n) → Db Row → Db Row × (Fin n → Option α)
  | [], db => (db, fun _ => none)
  | i :: order, db =>
      let first := (progs i).alone S db (fun _ => none) []
      let rest := serially S progs order first.1
      (rest.1, Function.update rest.2 i first.2.prog.answer)

/-- **Serializability** of what has become of the clients that started on `db`: some of them, in
some order, would have left the same rows and given the same answers.  A client whose answer is
excused may be left out of the order. -/
def Serializable (S : Schema Row) (progs : Fin n → Prog Row L α) (excused : Option α → Prop)
    (db : Db Row) (sys : Sys n Row L α) : Prop :=
  ∃ order : List (Fin n), order.Nodup
    ∧ (∀ i, i ∉ order → excused (sys.procs i).prog.answer)
    ∧ (serially S progs order db).1.rows = sys.db.rows
    ∧ ∀ i ∈ order, (serially S progs order db).2 i = (sys.procs i).prog.answer

/-- Two clients whose answers are not excused ran in one order or in the other. -/
theorem Serializable.two {S : Schema Row} {progs : Fin 2 → Prog Row L α} {excused : Option α → Prop}
    {db : Db Row} {sys : Sys 2 Row L α} (h : Serializable S progs excused db sys) {i j : Fin 2}
    (hij : i ≠ j) (hi : ¬ excused (sys.procs i).prog.answer)
    (hj : ¬ excused (sys.procs j).prog.answer) :
    (((progs i).alone S db (fun _ => none) []).2.prog.answer = (sys.procs i).prog.answer
        ∧ ((progs j).alone S ((progs i).alone S db (fun _ => none) []).1 (fun _ => none)
          []).2.prog.answer = (sys.procs j).prog.answer)
      ∨ (((progs j).alone S db (fun _ => none) []).2.prog.answer = (sys.procs j).prog.answer
        ∧ ((progs i).alone S ((progs j).alone S db (fun _ => none) []).1 (fun _ => none)
          []).2.prog.answer = (sys.procs i).prog.answer) := by
  obtain ⟨order, hnodup, hexcused, -, hanswers⟩ := h
  have himem : i ∈ order := by_contra fun hmem => hi (hexcused i hmem)
  have hjmem : j ∈ order := by_contra fun hmem => hj (hexcused j hmem)
  have hlength := hnodup.length_le_card
  rw [Fintype.card_fin] at hlength
  have horder : order = [i, j] ∨ order = [j, i] := by
    rcases order with _ | ⟨a, _ | ⟨b, _ | ⟨_, _⟩⟩⟩
    · cases himem
    · rw [List.mem_singleton] at himem hjmem
      exact absurd (himem.trans hjmem.symm) hij
    · simp only [List.mem_cons, List.not_mem_nil, or_false] at himem hjmem
      rcases himem with rfl | rfl <;> rcases hjmem with rfl | rfl
      · exact absurd rfl hij
      · exact .inl rfl
      · exact .inr rfl
      · exact absurd rfl hij
    · simp at hlength
  have hfirst := hanswers i himem
  have hsecond := hanswers j hjmem
  rcases horder with rfl | rfl
  · simp only [serially, Function.update_self, Function.update_of_ne hij.symm] at hfirst hsecond
    exact .inl ⟨hfirst, hsecond⟩
  · simp only [serially, Function.update_self, Function.update_of_ne hij] at hfirst hsecond
    exact .inr ⟨hsecond, hfirst⟩

/-- The client has come to the end of its program, with an answer or without one. -/
def Prog.Ended : Prog Row L α → Prop
  | .done _ | .failed => True
  | _ => False

end RagStack
