import RagStack.Models.UpdateAlone

/-!
# Histories that are serial orders

A history of atomic updates is a serial order if no decision in it was on a stale row, or if the
stale row made no difference.

The difference between a history and a serial execution is only in the decisions.  In a serial
execution a call reads the row which the calls before it have left.  In a history it may have read
an older one.  If the older row leads to the same verdict of `assertTransition` and to the same
update, then running the calls in the order of their commits gives the table of the history and the
same answers.  This is what `Harmless` says of every entry of a history.

The other calls have to be put somewhere too.  A call that has found no model can go first, since
models are never deleted and one that is missing in the end was missing at the start.  One that was
refused, or has failed, has changed nothing and may be left out, because the statement of
serializability asks nothing of calls that are answered with a conflict.

The induction is on the history.  Its first entry is one call run alone, and the rest is a history
on the table that this call has left.

* `Harmless` — this condition.
* `serially_of_harmless` — running the calls of the history one after the other gives its table and
  its answers.
* `serializable_of_harmless` — calls that found no model come first, refused and failed ones have no
  effect.
-/

namespace RagStack

variable {n : ℕ} {calls : Fin n → UpdateCall}

/-- Each call of the history would have decided the same way on the row that was there. -/
def Harmless (calls : Fin n → UpdateCall) : Rows ModelRow → List (Fin n × ModelRow) → Prop
  | _, [] => True
  | rows, (i, model) :: history =>
      (∃ row, rows (calls i).id = some row ∧ assertTransition row (calls i).input = none
        ∧ (calls i).applied model rows = (calls i).applied row rows)
      ∧ Harmless calls ((calls i).applied model rows) history

/-- A call that failed, or was answered with a conflict. -/
def IsConflict : Option ModelReply → Prop
  | none | some (.Conflict _) => True
  | some _ => False

section Decisions

variable {call : UpdateCall} {input : UpdateModelInput} {model row : ModelRow}
  {rows : Rows ModelRow} {db : Db ModelRow}

lemma assertTransition_eq_none : assertTransition model input = none ↔
    (model.isDefault = true → input.isDefault ≠ some false ∧ input.isAvailable ≠ some false)
    ∧ (input.isDefault = some true → input.isAvailable ≠ some false
      ∧ (model.isAvailable = true ∨ input.isAvailable = some true)) := by
  simp only [assertTransition]
  rcases input with ⟨maxContext, _ | _ | _, _ | _ | _⟩ <;>
    cases model.isDefault <;> cases model.isAvailable <;> simp

/-- A transaction that leaves a valid table has also written a valid row at first. -/
lemma UpdateCall.check_withData (hrow : rows call.id = some row)
    (hvalid : Valid modelSchema (call.applied row rows)) :
    (withData call.now call.data row).check = true := by
  have hcheck := hvalid.check _ _ (applied_own hrow)
  cases hmake : call.makeDefault row with
  | false => rwa [change_edit hmake] at hcheck
  | true =>
      rw [change_make hmake] at hcheck
      rw [makeDefault, Bool.and_eq_true, Bool.not_eq_true'] at hmake
      simp only [modelSchema, ModelRow.check, Bool.and_eq_true] at hcheck ⊢
      exact ⟨hcheck.1, by simp [withData, hmake.2]⟩

lemma UpdateCall.tidy_applied {db' : Db ModelRow} (hdb : Tidy db)
    (hvalid : Valid modelSchema (call.applied model db.rows))
    (hrows : db'.rows = call.applied model db.rows) (hclock : db'.clock = db.clock) : Tidy db' := by
  refine ⟨hrows ▸ hvalid, fun k r hr => ?_⟩
  rw [hrows, applied, Option.map_eq_some_iff] at hr
  obtain ⟨r', hr', -⟩ := hr
  rw [hclock]
  exact hdb.generated k r' hr'

end Decisions

section Orders

variable {db : Db ModelRow} {history : List (Fin n × ModelRow)}

/-- **A harmless history is a serial order.** -/
theorem serially_of_harmless (hdb : Tidy db) (hharmless : Harmless calls db.rows history)
    (hvalid : ∀ past, past <+: history → Valid modelSchema (replay calls db.rows past))
    (hnodup : (history.map Prod.fst).Nodup) :
    (serially modelSchema (fun i => (calls i).program) (history.map Prod.fst) db).1.rows
        = replay calls db.rows history
      ∧ ∀ past i model rest updated, history = past ++ (i, model) :: rest →
        replay calls db.rows (past ++ [(i, model)]) (calls i).id = some updated →
        (serially modelSchema (fun i => (calls i).program) (history.map Prod.fst) db).2 i
          = some ((calls i).present updated) := by
  induction history generalizing db with
  | nil =>
      refine ⟨rfl, fun past i model rest updated hhistory => ?_⟩
      simp at hhistory
  | cons entry history ih =>
      obtain ⟨i, model⟩ := entry
      obtain ⟨⟨row, hrow, hassert, hsame⟩, hharmless⟩ := hharmless
      have hvalid₁ : Valid modelSchema ((calls i).applied model db.rows) :=
        hvalid [(i, model)] (List.prefix_append [(i, model)] history)
      have hcheck := UpdateCall.check_withData hrow (hsame ▸ hvalid₁)
      obtain ⟨db₁, log, halone, hrows₁, hclock₁⟩ :=
        UpdateCall.alone_applied hdb hrow hassert hcheck
      rw [← hsame] at hrows₁
      obtain ⟨hnew, hnodup⟩ := List.nodup_cons.mp hnodup
      obtain ⟨hfinal, hanswers⟩ := ih (UpdateCall.tidy_applied hdb hvalid₁ hrows₁ hclock₁)
        (hrows₁ ▸ hharmless) (fun past hpast => hrows₁ ▸ hvalid ((i, model) :: past)
          (List.cons_prefix_cons.mpr ⟨rfl, hpast⟩)) hnodup
      simp only [List.map_cons, serially, halone]
      refine ⟨hfinal.trans (by rw [hrows₁]; rfl), fun past j model' rest updated hhistory hj => ?_⟩
      cases past with
      | nil =>
          rw [List.nil_append] at hhistory
          cases hhistory
          rw [Function.update_self, Prog.answer]
          have hown : replay calls db.rows ([] ++ [(i, model)]) (calls i).id
              = some ((calls i).change row row) := by
            show (calls i).applied model db.rows (calls i).id = _
            rw [hsame, UpdateCall.applied_own hrow]
          rw [hown] at hj
          cases hj
          rfl
      | cons entry past =>
          rw [List.cons_append] at hhistory
          cases hhistory
          have hne : j ≠ i := by
            rintro rfl
            exact hnew (by simp)
          rw [Function.update_of_ne hne]
          refine hanswers past j model' rest updated rfl ?_
          rw [hrows₁]
          exact hj

/-- Calls that find no model come first. -/
lemma serially_missing (calls : Fin n → UpdateCall) (order : List (Fin n)) {missing : List (Fin n)}
    (hmissing : ∀ i ∈ missing, db.rows (calls i).id = none) :
    (serially modelSchema (fun i => (calls i).program) (missing ++ order) db).1
        = (serially modelSchema (fun i => (calls i).program) order db).1
      ∧ ∀ i, (serially modelSchema (fun i => (calls i).program) (missing ++ order) db).2 i
        = if i ∈ missing then some (.NotFound "Model not found.")
          else (serially modelSchema (fun i => (calls i).program) order db).2 i := by
  induction missing with
  | nil => exact ⟨rfl, fun i => by rw [List.nil_append, if_neg List.not_mem_nil]⟩
  | cons i missing ih =>
      obtain ⟨hrows, hanswers⟩ := ih fun j hj => hmissing j (List.mem_cons_of_mem _ hj)
      simp only [List.cons_append, serially,
        UpdateCall.alone_missing (hmissing i List.mem_cons_self)]
      refine ⟨hrows, fun j => ?_⟩
      by_cases hj : j = i
      · subst hj
        rw [Function.update_self, if_pos List.mem_cons_self, Prog.answer]
      · rw [Function.update_of_ne hj, hanswers]
        simp only [List.mem_cons, hj, false_or]

variable {table : ModelTable} {sys : Sys n ModelRow ModelStatement ModelReply} {i : Fin n}

lemma ModelTable.tidy (table : ModelTable) : Tidy table.db := ⟨table.valid, table.generated⟩

/-- A call that has been presented a model has committed. -/
lemma UpdateHistory.committed (h : UpdateHistory calls table.db.rows history sys)
    {model : AdminModel} (hanswer : (sys.procs i).prog.answer = some (.Presented model)) :
    ∃ past decided rest updated, history = past ++ (i, decided) :: rest
      ∧ replay calls table.db.rows (past ++ [(i, decided)]) (calls i).id = some updated
      ∧ model = toAdminModel (calls i).id updated (calls i).installed := by
  rw [Prog.answer_eq_some] at hanswer
  cases h.phase i with
  | Reading hnew hprog hwrites =>
      rw [hprog] at hanswer
      cases hanswer
  | Checked hnew hdecided hprog =>
      rw [hanswer] at hprog
      exact hprog.elim
  | Committed hhistory hupdated hprog =>
      rw [hprog] at hanswer
      cases hanswer
      exact ⟨_, _, _, _, hhistory, hupdated, rfl⟩
  | Refused hnew hprog | Missing hnew hmissing hprog | Failed hnew hprog =>
      rw [hprog] at hanswer
      cases hanswer

/-- A call of the history has been presented its row. -/
lemma UpdateHistory.answer (h : UpdateHistory calls table.db.rows history sys)
    (hmem : i ∈ history.map Prod.fst) : ∃ past decided rest updated,
      history = past ++ (i, decided) :: rest
      ∧ replay calls table.db.rows (past ++ [(i, decided)]) (calls i).id = some updated
      ∧ (sys.procs i).prog.answer = some ((calls i).present updated) := by
  cases h.phase i with
  | Committed hhistory hupdated hprog =>
      exact ⟨_, _, _, _, hhistory, hupdated, by rw [hprog]; rfl⟩
  | Reading hnew | Checked hnew | Refused hnew | Missing hnew | Failed hnew =>
      exact absurd hmem hnew

/-- A call outside of it, that has ended, found no model or had no effect. -/
lemma UpdateHistory.answer_of_notMem (h : UpdateHistory calls table.db.rows history sys)
    (hended : (sys.procs i).prog.Ended) (hmem : i ∉ history.map Prod.fst) :
    IsConflict (sys.procs i).prog.answer ∨ table.db.rows (calls i).id = none
      ∧ (sys.procs i).prog.answer = some (.NotFound "Model not found.") := by
  cases h.phase i with
  | Reading hnew hprog hwrites =>
      rw [hprog] at hended
      exact hended.elim
  | Checked hnew hdecided hprog =>
      cases hp : (sys.procs i).prog with
      | failed => exact .inl trivial
      | done reply =>
          rw [hp] at hprog
          exact hprog.elim
      | _ =>
          rw [hp] at hended
          exact hended.elim
  | Committed hhistory hupdated hprog =>
      subst hhistory
      exact absurd (by simp) hmem
  | Refused hnew hprog =>
      rw [hprog]
      exact .inl trivial
  | Missing hnew hmissing hprog =>
      rw [hprog]
      exact .inr ⟨hmissing, rfl⟩
  | Failed hnew hprog =>
      rw [hprog]
      exact .inl trivial

/-- **A run whose history is harmless is serializable**: there is an order of the calls which, one
after the other, leads to the table of the run and to its answers, those of conflicts excepted. -/
theorem serializable_of_harmless (h : UpdateHistory calls table.db.rows history sys)
    (hended : ∀ i, (sys.procs i).prog.Ended) (hharmless : Harmless calls table.db.rows history) :
    Serializable modelSchema (fun i => (calls i).program) IsConflict table.db sys := by
  obtain ⟨hrows, hanswers⟩ := serially_of_harmless table.tidy hharmless h.valid h.nodup
  let missing := (List.finRange n).filter fun i =>
    decide ((sys.procs i).prog.answer = some (.NotFound "Model not found."))
  have hmem : ∀ i, i ∈ missing ↔
      (sys.procs i).prog.answer = some (.NotFound "Model not found.") := by
    intro i
    simp [missing]
  have hdisjoint : ∀ i ∈ missing, i ∉ history.map Prod.fst := by
    intro i hi hin
    obtain ⟨past, decided, rest, updated, -, -, hanswer⟩ := h.answer hin
    rw [(hmem i).mp hi] at hanswer
    cases hanswer
  have hmissing : ∀ i ∈ missing, table.db.rows (calls i).id = none := by
    intro i hi
    rcases h.answer_of_notMem (hended i) (hdisjoint i hi) with hconflict | ⟨hnone, -⟩
    · rw [(hmem i).mp hi] at hconflict
      exact hconflict.elim
    · exact hnone
  obtain ⟨hfirst, hrest⟩ := serially_missing calls (history.map Prod.fst) hmissing
  refine ⟨missing ++ history.map Prod.fst, ?_, fun i hi => ?_, ?_, fun i hi => ?_⟩
  · refine List.nodup_append.mpr ⟨(List.nodup_finRange n).filter _, h.nodup, ?_⟩
    rintro i hi _ hj rfl
    exact hdisjoint i hi hj
  · rw [List.mem_append, not_or] at hi
    rcases h.answer_of_notMem (hended i) hi.2 with hconflict | ⟨-, hanswer⟩
    · exact hconflict
    · exact absurd ((hmem i).mpr hanswer) hi.1
  · rw [hfirst, hrows, h.rows_eq]
  · rw [hrest]
    split
    · rename_i hmissed
      exact ((hmem i).mp hmissed).symm
    · rename_i hfound
      obtain ⟨past, decided, rest, updated, hhistory, hupdated, hanswer⟩ :=
        h.answer ((List.mem_append.mp hi).resolve_left hfound)
      rw [hanswers past i decided rest updated hhistory hupdated, hanswer]

end Orders

end RagStack
