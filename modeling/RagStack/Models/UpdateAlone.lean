import RagStack.Core.Serial
import RagStack.Models.UpdateHistory

/-!
# `update` without interference

What a call of `update` does when nothing else happens is the atomic update, decided on the row that
is there; or it refuses, or it finds no row.

A serial order of calls is defined by running the programs one after the other, each from its start
to its end.  To compare a history of atomic updates with it, one has to know what a program does
when it runs alone.  This file executes it: every statement finds the rows as the ones before have
left them, nobody holds a lock, and a constraint can only be violated by the call itself.

The transaction is executed for a decision on any row and not only for the one that is there.  So
the same lemma describes the transaction of a call that was decided on an old row and has not been
disturbed since, which is what the runs in which a call is overtaken look like.

Whether the index is satisfied at each statement takes a little care.  The statement that clears
flags runs before the one that sets the flag, and in between the table has no default.  That is why
the constraints are asked for after every statement, and why the order of the two is what makes a
switch succeed.

* `alone_transaction` — the transaction, also when it was decided on another row.
* `alone_missing`, `alone_refused`, `alone_applied` — the call.
-/

namespace RagStack

section Statements

variable {view db : Db ModelRow} {id k : Uuid} {row row' : ModelRow} {w : Writes ModelRow}
  {log : List ModelStatement}

/-- A new version of a row is admitted if it has its name and is not a second default. -/
lemma admits_version (hvalid : Valid modelSchema view.rows) (hrow : view.rows id = some row)
    (hname : row'.name = row.name) (hcheck : row'.check = true)
    (hdefault : row'.isDefault = true → ∀ k, k ≠ id → ¬ IsDefaultModel view.rows k) :
    modelSchema.Admits view id row' := by
  refine ⟨fun _ href => absurd href List.not_mem_nil, fun k _ hk => ?_, hcheck⟩
  cases hother : view.rows k with
  | none => rfl
  | some other =>
      have hclash := hvalid.clash id k row other hk.symm hrow hother
      have hnotDefault : row'.isDefault = true → other.isDefault = false := by
        intro hrow'
        by_contra hne
        exact hdefault hrow' k hk ⟨other, hother, Bool.eq_true_of_not_eq_false hne⟩
      simp only [modelSchema, ModelRow.clash, Bool.or_eq_false_iff] at hclash
      rw [Option.all_some, Bool.not_eq_true']
      simp only [modelSchema, ModelRow.clash, hname, hclash.1, Bool.false_or]
      cases hrow' : row'.isDefault with
      | false => rfl
      | true => rw [hnotDefault hrow', Bool.and_false]

/-- The UPDATE of one row, and what it returns. -/
lemma alone_updateRow {label : ModelStatement} {data : ModelRow → ModelRow}
    {next : ModelRow → ModelProg} (hid : id < db.clock) (hrow : (db.apply w).rows id = some row)
    (hadmits : modelSchema.Admits (db.apply w) id (data row)) :
    (updateRow label id data next).alone modelSchema db w log
      = (next (data row)).alone modelSchema db (Function.update w id (some (some (data row))))
          (.ReturnModel :: label :: log) := by
  rw [updateRow, alone_updateOne (q := fun _ => true) hid hrow rfl hadmits, if_neg one_ne_zero,
    returning, Prog.alone, Db.rows_apply_update_self]

/-- What holds of the table in between. -/
structure Tidy (view : Db ModelRow) : Prop where
  valid : Valid modelSchema view.rows
  generated : ∀ k r, view.rows k = some r → k < view.clock

lemma Tidy.write (h : Tidy (db.apply w)) (hrow : (db.apply w).rows id = some row)
    (hadmits : modelSchema.Admits (db.apply w) id row') :
    Tidy (db.apply (Function.update w id (some (some row')))) := by
  refine ⟨?_, fun k r hr => ?_⟩
  · rw [Db.apply_update]
    exact h.valid.write modelSchema_lawful h.generated hadmits
  · rw [Db.apply_update] at hr
    by_cases hk : k = id
    · subst hk
      exact h.generated k row hrow
    · rw [Function.update_of_ne hk] at hr
      exact h.generated k r hr

end Statements

namespace UpdateCall

variable {call : UpdateCall} {db : Db ModelRow} {model row : ModelRow} {log : List ModelStatement}

/-- The checks on the row as it is written first. -/
lemma admits_withData (hdb : Tidy db) (hrow : db.rows call.id = some row)
    (hcheck : (withData call.now call.data row).check = true) :
    modelSchema.Admits db call.id (withData call.now call.data row) :=
  admits_version hdb.valid hrow rfl hcheck fun hdefault _ hk hother =>
    hk (hdb.valid.default_unique hother ⟨row, hrow, hdefault⟩)

lemma applied_of_edit (hmake : call.makeDefault model = false) (rows : Rows ModelRow)
    (hrow : rows call.id = some row) : Function.update rows call.id
      (some (withData call.now call.data row)) = call.applied model rows := by
  funext k
  rw [Function.update_apply, applied, change_edit hmake, hmake]
  split
  · rename_i hk
    rw [hk, hrow]
    rfl
  · simp

/-- The UPDATE that clears every other default. -/
lemma alone_clearDefault (now : Timestamp) (id : Uuid) {w : Writes ModelRow}
    (h : Tidy (db.apply w)) : ∃ w₂,
      (∀ (next : ModelProg) (log : List ModelStatement),
        (Prog.update .ClearDefault (fun k model => model.isDefault && k != id) (clearDefault now)
            fun _ => next).alone modelSchema db w log
          = next.alone modelSchema db w₂ (.ClearDefault :: log))
      ∧ Tidy (db.apply w₂) ∧ ∀ k, (db.apply w₂).rows k = ((db.apply w).rows k).map fun model =>
          if model.isDefault && k != id then clearDefault now model else model := by
  have hvisit : ∀ w k model, Tidy (db.apply w) → (db.apply w).rows k = some model →
      (model.isDefault && k != id) = true →
      modelSchema.Admits (db.apply w) k (clearDefault now model)
        ∧ Tidy (db.apply (Function.update w k (some (some (clearDefault now model))))) := by
    intro w k model hw hmodel _
    have hcheck := hw.valid.check k model hmodel
    have hadmits : modelSchema.Admits (db.apply w) k (clearDefault now model) := by
      refine admits_version hw.valid hmodel rfl ?_ fun h => absurd h Bool.false_ne_true
      simp only [modelSchema, ModelRow.check, Bool.and_eq_true] at hcheck ⊢
      exact ⟨hcheck.1, rfl⟩
    exact ⟨hadmits, hw.write hmodel hadmits⟩
  obtain ⟨count, w₂, hresult, htidy₂, hrows₂⟩ := visitAll_keysWhere Tidy hvisit h.generated h
  exact ⟨w₂, fun next log => by rw [Prog.alone, hresult], htidy₂, hrows₂⟩

/-- **The transaction alone**, decided on `model` while the row is `row`.  It commits the atomic
update and answers with the row it has left, provided that the row passes the check with its new
values. -/
theorem alone_transaction (hdb : Tidy db) (hrow : db.rows call.id = some row)
    (hcheck : (withData call.now call.data row).check = true) : ∃ db' log',
      (call.transaction model).alone modelSchema db (fun _ => none) log
        = (db', ⟨.done (call.present (call.change model row)), fun _ => none, none, log'⟩)
      ∧ db'.rows = call.applied model db.rows ∧ db'.clock = db.clock := by
  have hid := hdb.generated call.id row hrow
  have hadmits := admits_withData hdb hrow hcheck
  rw [transaction, updateWithDefault,
    alone_updateRow (w := fun _ => none) hid hrow hadmits]
  have hrows₁ := (Db.apply_update db (fun _ => none) call.id
    (some (withData call.now call.data row)))
  have htidy₁ : Tidy (db.apply (Function.update (fun _ => none) call.id
      (some (some (withData call.now call.data row))))) :=
    Tidy.write (w := fun _ => none) hdb hrow hadmits
  rw [Db.apply_nothing] at hrows₁
  cases hmake : call.makeDefault model with
  | false =>
      refine ⟨db.apply (Function.update (fun _ => none) call.id
          (some (some (withData call.now call.data row)))),
        .CommitUpdate model (withData call.now call.data row) :: .ReturnModel :: .UpdateModel :: log,
        ?_, ?_, rfl⟩
      · rw [if_neg Bool.false_ne_true, Prog.alone, Prog.alone, change_edit hmake]
      · exact hrows₁.trans (applied_of_edit hmake db.rows hrow)
  | true =>
      -- every other default is cleared
      obtain ⟨w₂, hcleared, htidy₂, hrows₂⟩ := alone_clearDefault call.now call.id htidy₁
      have hown₂ : (db.apply w₂).rows call.id = some (withData call.now call.data row) := by
        rw [hrows₂, hrows₁, Function.update_self]
        simp
      have hadmits₂ : modelSchema.Admits (db.apply w₂) call.id
          (markDefault call.now (withData call.now call.data row)) := by
        refine admits_version htidy₂.valid hown₂ rfl ?_ fun _ k hk => ?_
        · simp only [ModelRow.check, Bool.and_eq_true] at hcheck ⊢
          exact ⟨hcheck.1, rfl⟩
        · rintro ⟨other, hother, hdefault⟩
          rw [hrows₂, Option.map_eq_some_iff] at hother
          obtain ⟨before, -, rfl⟩ := hother
          split at hdefault
          · cases hdefault
          · rename_i hnot
            exact hnot (by simp [hdefault, hk])
      rw [if_pos rfl, applyDefault, hcleared, alone_updateRow hid hown₂ hadmits₂]
      refine ⟨db.apply (Function.update w₂ call.id
          (some (some (markDefault call.now (withData call.now call.data row))))),
        .CommitUpdate model (markDefault call.now (withData call.now call.data row)) ::
          .ReturnModel :: .SetDefault :: .ClearDefault :: .ReturnModel :: .UpdateModel :: log,
        ?_, ?_, rfl⟩
      · rw [Prog.alone, Prog.alone, change_make hmake]
      · rw [Db.apply_update]
        funext k
        rw [Function.update_apply, applied, change_make hmake, hmake]
        split
        · rename_i hk
          rw [hk, hrow]
          rfl
        · rename_i hk
          rw [hrows₂, hrows₁, Function.update_of_ne hk]
          simp [hk]

/-! ## The call -/

lemma alone_missing (hrow : db.rows call.id = none) :
    call.program.alone modelSchema db (fun _ => none) []
      = (db, ⟨.done (.NotFound "Model not found."), fun _ => none, none, [.FindModel]⟩) := by
  rw [program, Prog.alone, Db.apply_nothing, hrow]
  rfl

lemma alone_refused {message : String} (hrow : db.rows call.id = some row)
    (hassert : assertTransition row call.input = some message) :
    call.program.alone modelSchema db (fun _ => none) []
      = (db, ⟨.done (.Conflict message), fun _ => none, none, [.FindModel]⟩) := by
  rw [program, Prog.alone, Db.apply_nothing, hrow, afterFind, hassert]
  rfl

/-- **The call alone.**  It decides on the row that is there, so it is the atomic update decided on
that row. -/
theorem alone_applied (hdb : Tidy db) (hrow : db.rows call.id = some row)
    (hassert : assertTransition row call.input = none)
    (hcheck : (withData call.now call.data row).check = true) : ∃ db' log',
      call.program.alone modelSchema db (fun _ => none) []
        = (db', ⟨.done (call.present (call.change row row)), fun _ => none, none, log'⟩)
      ∧ db'.rows = call.applied row db.rows ∧ db'.clock = db.clock := by
  rw [program, Prog.alone, Db.apply_nothing, hrow, afterFind, hassert]
  exact alone_transaction hdb hrow hcheck

end UpdateCall

end RagStack
