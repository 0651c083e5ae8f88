import RagStack.Models.UpdateRaces

/-!
# The outcomes of two `update` calls

Two calls of `update` on any table, in any interleaving, with failures and aborts.  The question is
whether what they leave and what they answer could have come from running them one after the other,
and whether each admin got what was asked for.

One direction has been prepared: if the calls do not collide, every history is harmless, and a
harmless history is a serial order.  For the other direction there is a run for each collision.  The
second call reads its row, the first one runs from its start to its end, and then the second one
goes on with a decision that is out of date.  Such a run exists for any two calls whose inputs are
let through, so what is left is to see that its answers belong to no serial order.  The three kinds
of collisions need an argument each: what the second call would have been presented, alone or after
the first, is not what it was presented.

The third kind is not only a matter of orders.  An admin who has disabled a model, and was told so,
finds it enabled.  `Explained` asks for this separately, and for a default that was asked for being
kept.

* `Explained` — the table and the answers are those of a serial order, a model that was made the
  default is it unless another one has been made it since, and no model is enabled again behind the
  back of the admin who has disabled it.
* `explained_of_harmless` — a harmless history explains a run.
* `exists_overtaken_run` — a call can always read its row before the other call runs, and then
  commit on the table that the other one has left.
* `updates_explained_iff` — all runs are explained if and only if the calls do not collide.
-/

namespace RagStack

/-- **Two calls that have ended are explained**: one after the other would have led to the same
table and answers, a default that was asked for is kept, and no model is enabled again that the
other call has disabled. -/
structure Explained (table : ModelTable) (calls : Fin 2 → UpdateCall)
    (sys : Sys 2 ModelRow ModelStatement ModelReply) : Prop where
  serializable : Serializable modelSchema (fun i => (calls i).program) IsConflict table.db sys
  keepsDefault : ∀ i model, (sys.procs i).prog.answer = some (.Presented model) →
    (calls i).input.isDefault = some true → model.isDefault = true
      ∧ (IsDefaultModel sys.db.rows (calls i).id ∨ ∃ j, j ≠ i ∧ (calls j).id ≠ (calls i).id
        ∧ (calls j).input.isDefault = some true
        ∧ ∃ other, (sys.procs j).prog.answer = some (.Presented other))
  doesNotReenable : ∀ i j model other, i ≠ j → (calls i).id = (calls j).id →
    (sys.procs i).prog.answer = some (.Presented model) →
    (sys.procs j).prog.answer = some (.Presented other) →
    (calls i).input.isDefault = some true → (calls i).input.isAvailable ≠ some true →
      (calls j).input.isAvailable ≠ some false

/-! ## Explanations

From harmless histories to what the admins see. -/

section Explanations

variable {n : ℕ} {calls : Fin n → UpdateCall} {rows : Rows ModelRow} {call : UpdateCall}
  {row : ModelRow} {past rest history : List (Fin n × ModelRow)} {i : Fin n} {model : ModelRow}

/-- A call of a harmless history has decided as on the row that was there. -/
lemma Harmless.decided (h : Harmless calls rows (past ++ (i, model) :: rest)) :
    (∃ row, replay calls rows past (calls i).id = some row
      ∧ assertTransition row (calls i).input = none
      ∧ replay calls rows (past ++ [(i, model)])
        = (calls i).applied row (replay calls rows past))
    ∧ Harmless calls (replay calls rows (past ++ [(i, model)])) rest := by
  induction past generalizing rows with
  | nil =>
      obtain ⟨⟨row, hrow, hassert, hsame⟩, hrest⟩ := h
      exact ⟨⟨row, hrow, hassert, hsame⟩, hrest⟩
  | cons entry past ih => exact ih h.2

/-- The row that the call leaves, if it was to be the default. -/
lemma UpdateCall.change_of_default (hdefault : call.input.isDefault = some true) :
    (call.change row row).isDefault = true := by
  cases hmake : call.makeDefault row with
  | true => exact change_isDefault hmake
  | false =>
      rw [change_edit hmake]
      show row.isDefault = true
      simpa [makeDefault, hdefault] using hmake

/-- A default remains it, until another model is made it. -/
lemma Harmless.staysDefault {id : Uuid} (h : Harmless calls rows rest)
    (hdefault : IsDefaultModel rows id) : IsDefaultModel (replay calls rows rest) id
      ∨ ∃ j ∈ rest.map Prod.fst, (calls j).id ≠ id ∧ (calls j).input.isDefault = some true := by
  induction rest generalizing rows with
  | nil => exact .inl hdefault
  | cons entry rest ih =>
      obtain ⟨j, model⟩ := entry
      obtain ⟨⟨row, hrow, -, hsame⟩, hrest⟩ := h
      obtain ⟨current, hcurrent, hcurrentDefault⟩ := hdefault
      have hnext : IsDefaultModel ((calls j).applied model rows) id
          ∨ (calls j).id ≠ id ∧ (calls j).input.isDefault = some true := by
        rw [hsame]
        by_cases hid : (calls j).id = id
        · subst hid
          rw [hrow] at hcurrent
          cases hcurrent
          refine .inl ⟨_, UpdateCall.applied_own hrow, ?_⟩
          have hmake : (calls j).makeDefault row = false := by
            simp [UpdateCall.makeDefault, hcurrentDefault]
          rw [UpdateCall.change_edit hmake]
          exact hcurrentDefault
        · cases hmake : (calls j).makeDefault row with
          | true => exact .inr ⟨hid, (UpdateCall.makeDefault_eq_true.mp hmake).1⟩
          | false =>
              refine .inl ⟨current, ?_, hcurrentDefault⟩
              rw [UpdateCall.applied, hcurrent, Option.map_some, if_neg (Ne.symm hid), hmake]
              rfl
      rcases hnext with hnext | hswitched
      · rcases ih hrest hnext with hkept | ⟨k, hk, hswitched⟩
        · exact .inl hkept
        · exact .inr ⟨k, List.mem_cons_of_mem _ hk, hswitched⟩
      · exact .inr ⟨j, List.mem_cons_self, hswitched⟩

end Explanations

section TwoCalls

variable {table : ModelTable} {calls : Fin 2 → UpdateCall} {history : List (Fin 2 × ModelRow)}
  {sys : Sys 2 ModelRow ModelStatement ModelReply} {i j : Fin 2}

/-- A model that was made the default. -/
lemma UpdateHistory.keepsDefault (h : UpdateHistory calls table.db.rows history sys)
    (hharmless : Harmless calls table.db.rows history) {model : AdminModel}
    (hanswer : (sys.procs i).prog.answer = some (.Presented model))
    (hdefault : (calls i).input.isDefault = some true) : model.isDefault = true
      ∧ (IsDefaultModel sys.db.rows (calls i).id ∨ ∃ j, j ≠ i ∧ (calls j).id ≠ (calls i).id
        ∧ (calls j).input.isDefault = some true
        ∧ ∃ other, (sys.procs j).prog.answer = some (.Presented other)) := by
  obtain ⟨past, decided, rest, updated, rfl, hupdated, rfl⟩ := h.committed hanswer
  obtain ⟨⟨row, hrow, -, hreplay⟩, hrest⟩ := hharmless.decided
  have hown : updated = (calls i).change row row := by
    rw [hreplay, UpdateCall.applied_own hrow] at hupdated
    exact (Option.some.inj hupdated).symm
  have hupdatedDefault : updated.isDefault = true := by
    rw [hown]
    exact UpdateCall.change_of_default hdefault
  refine ⟨hupdatedDefault, ?_⟩
  rcases hrest.staysDefault ⟨updated, hupdated, hupdatedDefault⟩ with hkept | ⟨j, hj, hid, hj'⟩
  · left
    rw [h.rows_eq, ← List.singleton_append, ← List.append_assoc, replay_append]
    exact hkept
  · obtain ⟨-, -, -, other, -, -, hother⟩ := h.answer (i := j) (by simp_all)
    refine .inr ⟨j, ?_, hid, hj', _, hother⟩
    rintro rfl
    exact hid rfl

/-- Of two calls on one model, not both can disable it and make it the default. -/
lemma UpdateHistory.doesNotReenable (h : UpdateHistory calls table.db.rows history sys)
    (hharmless : Harmless calls table.db.rows history) {model other : AdminModel} (hij : i ≠ j)
    (hid : (calls i).id = (calls j).id)
    (hanswer : (sys.procs i).prog.answer = some (.Presented model))
    (hanswer' : (sys.procs j).prog.answer = some (.Presented other))
    (hdefault : (calls i).input.isDefault = some true)
    (havailable : (calls i).input.isAvailable ≠ some true) :
    (calls j).input.isAvailable ≠ some false := by
  obtain ⟨past, decided, rest, updated, hhistory, hupdated, -⟩ := h.committed hanswer
  obtain ⟨past', decided', rest', updated', hhistory', hupdated', -⟩ := h.committed hanswer'
  intro hdisable
  rcases h.length_le with rfl | ⟨k, m, rfl⟩ | ⟨k, m, l, m', hkl, rfl⟩
  · simp at hhistory
  · rcases past with _ | ⟨_, _⟩ <;> rcases past' with _ | ⟨_, _⟩ <;> simp_all
  · obtain ⟨⟨row, hrow, hassert, hsame⟩, ⟨row', hrow', hassert', hsame'⟩, -⟩ := hharmless
    have hcases : i = k ∧ j = l ∨ i = l ∧ j = k := by omega
    rcases hcases with ⟨rfl, rfl⟩ | ⟨rfl, rfl⟩
    · -- the model is the default by then
      rw [hsame, ← hid, UpdateCall.applied_own hrow] at hrow'
      cases hrow'
      exact ((assertTransition_eq_none.mp hassert').1
        (UpdateCall.change_of_default hdefault)).2 hdisable
    · -- the model is disabled by then
      rw [hsame, hid, UpdateCall.applied_own hrow] at hrow'
      cases hrow'
      have hmake : (calls j).makeDefault row = false := by
        by_contra hne
        have hswitch := (UpdateCall.makeDefault_eq_true.mp (Bool.eq_true_of_not_eq_false hne)).1
        exact ((assertTransition_eq_none.mp hassert).2 hswitch).1 hdisable
      rw [UpdateCall.change_edit hmake] at hassert'
      rcases ((assertTransition_eq_none.mp hassert').2 hdefault).2 with henabled | hgiven
      · simp [withData, UpdateCall.data, hdisable] at henabled
      · exact havailable hgiven

/-- **A harmless history explains the run.** -/
theorem explained_of_harmless (h : UpdateHistory calls table.db.rows history sys)
    (hended : ∀ i, (sys.procs i).prog.Ended) (hharmless : Harmless calls table.db.rows history) :
    Explained table calls sys where
  serializable := serializable_of_harmless h hended hharmless
  keepsDefault _ _ := h.keepsDefault hharmless
  doesNotReenable _ _ _ _ := h.doesNotReenable hharmless

end TwoCalls

/-! ## Overtaken calls

The run is put together from two calls that run alone, the second of them in two parts. -/

section Overtaken

variable {n : ℕ} {calls : Fin n → UpdateCall} {table : ModelTable} {i j : Fin n}
  {model model' row : ModelRow}

/-- **A call can be overtaken** by another one between its read and its transaction.  Both succeed,
and the table is what the two atomic updates make of it, the second decided on the row before the
first. -/
theorem exists_overtaken_run (hij : i ≠ j) (hmodel : table.db.rows (calls i).id = some model)
    (hassert : assertTransition model (calls i).input = none)
    (hcheck : (withData (calls i).now (calls i).data model).check = true)
    (hmodel' : table.db.rows (calls j).id = some model')
    (hassert' : assertTransition model' (calls j).input = none)
    (hrow : (calls i).applied model table.db.rows (calls j).id = some row)
    (hcheck' : (withData (calls j).now (calls j).data row).check = true) : ∃ acts sys,
      (modelsSystem table fun k => .Update (calls k)).run modelSchema acts = some sys
      ∧ (sys.procs i).prog = .done ((calls i).present ((calls i).change model model))
      ∧ (sys.procs j).prog = .done ((calls j).present ((calls j).change model' row))
      ∧ Valid modelSchema ((calls i).applied model table.db.rows) := by
  let sys₀ := modelsSystem table fun k => .Update (calls k)
  -- call `j` reads its row
  let sys₁ := sys₀.become j ⟨(calls j).transaction model', fun _ => none, none, [.FindModel]⟩
  have hread : sys₀.step modelSchema j .Proceed = some sys₁ := by
    simp [sys₀, sys₁, modelsSystem, Sys.start, Proc.start, Sys.step, Sys.proceed, Sys.view,
      ModelsCall.program, UpdateCall.program, UpdateCall.afterFind, hmodel', hassert']
  have hstart : ∀ k, k ≠ j → sys₁.procs k = .start (calls k).program :=
    fun k hk => Sys.procs_become_of_ne _ _ _ hk
  have hfree₁ : sys₁.Undisputed i := by
    intro k _
    by_cases hk : k = j
    · rw [hk, Sys.procs_become_self]
    · rw [hstart k hk]
      rfl
  -- call `i` runs
  obtain ⟨db₁, log₁, halone₁, hrows₁, hclock₁⟩ :=
    UpdateCall.alone_applied table.tidy hmodel hassert hcheck
  have hreach₁ := exists_run_alone (S := modelSchema) hfree₁ (hstart i hij)
  rw [show sys₁.db = table.db from rfl, halone₁] at hreach₁
  obtain ⟨acts₁, hacts₁⟩ := hreach₁
  let sys₂ := Sys.become { sys₁ with db := db₁ } i
    ⟨.done ((calls i).present ((calls i).change model model)), fun _ => none, none, log₁⟩
  have hrun₁ : sys₀.run modelSchema ((j, .Proceed) :: acts₁) = some sys₂ := by
    rw [Sys.run, hread, Option.bind_some]
    exact hacts₁
  have hvalid₁ := hrows₁ ▸ (enforced_modelsSystem hrun₁).committed
  have htidy₁ : Tidy db₁ := UpdateCall.tidy_applied table.tidy hvalid₁ hrows₁ hclock₁
  -- call `j` goes on
  have hrest : ∃ db₂ log₂, ((calls j).transaction model').alone modelSchema db₁ (fun _ => none)
        [.FindModel] = (db₂, ⟨.done ((calls j).present ((calls j).change model' row)),
          fun _ => none, none, log₂⟩)
      ∧ db₂.rows = (calls j).applied model' db₁.rows ∧ db₂.clock = db₁.clock :=
    UpdateCall.alone_transaction htidy₁ (hrows₁ ▸ hrow) hcheck'
  obtain ⟨db₂, log₂, halone₂, -, -⟩ := hrest
  have hfree₂ : sys₂.Undisputed j := by
    intro k hk
    by_cases hki : k = i
    · rw [hki, Sys.procs_become_self]
    · rw [Sys.procs_become_of_ne _ _ _ hki]
      exact congrArg Proc.writes (hstart k hk)
  have hproc₂ : sys₂.procs j = ⟨(calls j).transaction model', fun _ => none, none, [.FindModel]⟩ :=
    (Sys.procs_become_of_ne _ _ _ hij.symm).trans (Sys.procs_become_self sys₀ j _)
  have hreach₂ := exists_run_alone (S := modelSchema) hfree₂ hproc₂
  rw [show sys₂.db = db₁ from rfl, halone₂] at hreach₂
  obtain ⟨acts₂, hacts₂⟩ := hreach₂
  refine ⟨((j, .Proceed) :: acts₁) ++ acts₂, Sys.become { sys₂ with db := db₂ } j
    ⟨.done ((calls j).present ((calls j).change model' row)), fun _ => none, none, log₂⟩,
    ?_, ?_, ?_, hvalid₁⟩
  · show sys₀.run modelSchema (((j, .Proceed) :: acts₁) ++ acts₂) = _
    rw [Sys.run_append, hrun₁]
    exact hacts₂
  · rw [Sys.procs_become_of_ne _ _ _ hij]
    show (sys₂.procs i).prog = _
    rw [Sys.procs_become_self]
  · rw [Sys.procs_become_self]

end Overtaken

/-! ## Collisions

A serial order of two calls is one of two, so it is refuted by looking at both. -/

section Collisions

variable {call : UpdateCall} {row : ModelRow} {db : Db ModelRow}

/-- A row that is written first is valid, if the input is. -/
lemma UpdateCall.check_of_context (hcheck : row.check = true) (hcontext : call.input.HasContext)
    (hkeeps : row.isDefault = true → call.input.isAvailable ≠ some false) :
    (withData call.now call.data row).check = true := by
  rw [ModelRow.check, Bool.and_eq_true, decide_eq_true_eq] at hcheck ⊢
  show 0 < call.input.maxContext.getD row.maxContext
    ∧ (!row.isDefault || call.input.isAvailable.getD row.isAvailable) = true
  constructor
  · cases hmax : call.input.maxContext with
    | none => exact hcheck.1
    | some maxContext => exact hcontext maxContext hmax
  · cases hdefault : row.isDefault with
    | false => rfl
    | true =>
        cases hgiven : call.input.isAvailable with
        | none => simpa [hdefault] using hcheck.2
        | some value =>
            cases value with
            | true => rfl
            | false => exact absurd hgiven (hkeeps hdefault)

/-- A call that would be refused is not presented a model. -/
lemma UpdateCall.answer_of_refused (hrow : db.rows call.id = some row)
    (hassert : assertTransition row call.input ≠ none) (model : AdminModel) :
    (call.program.alone modelSchema db (fun _ => none) []).2.prog.answer
      ≠ some (.Presented model) := by
  obtain ⟨message, hmessage⟩ := Option.ne_none_iff_exists'.mp hassert
  rw [alone_refused hrow hmessage]
  rintro ⟨⟩

lemma UpdateCall.answer_of_applied (hdb : Tidy db) (hrow : db.rows call.id = some row)
    (hassert : assertTransition row call.input = none)
    (hcheck : (withData call.now call.data row).check = true) {model : ModelRow}
    (hanswer : (call.program.alone modelSchema db (fun _ => none) []).2.prog.answer
      = some (call.present model)) :
    model.isDefault = (call.change row row).isDefault := by
  obtain ⟨db', log, halone, -, -⟩ := alone_applied hdb hrow hassert hcheck
  rw [halone] at hanswer
  have hmodel : call.present (call.change row row) = call.present model := Option.some.inj hanswer
  exact (congrArg AdminModel.isDefault (ModelReply.Presented.inj hmodel)).symm

/-- What an update leaves of a row is valid, if what it writes first is. -/
lemma UpdateCall.check_change (hcheck : (withData call.now call.data row).check = true)
    (model : ModelRow) : (call.change model row).check = true := by
  rw [change]
  split
  · rw [ModelRow.check, Bool.and_eq_true] at hcheck ⊢
    exact ⟨hcheck.1, rfl⟩
  · exact hcheck

/-- No serial order has these answers: `second` alone, before or after `first`, is not presented
`updated'`, or `first` after it is not presented `updated`. -/
def NoSerialOrder (db : Db ModelRow) (first second : UpdateCall) (updated updated' : ModelRow) :
    Prop :=
  (second.program.alone modelSchema (first.program.alone modelSchema db (fun _ => none) []).1
      (fun _ => none) []).2.prog.answer ≠ some (second.present updated')
    ∧ ((second.program.alone modelSchema db (fun _ => none) []).2.prog.answer
        ≠ some (second.present updated')
      ∨ (first.program.alone modelSchema (second.program.alone modelSchema db (fun _ => none) []).1
        (fun _ => none) []).2.prog.answer ≠ some (first.present updated))

/-- What `first` leaves lets `second`, which has read `model'`, go through, and no serial order has
these answers. -/
abbrev LeavesNoOrder (table : ModelTable) (first second : UpdateCall) (model model' : ModelRow) :
    Prop :=
  ∃ row, first.applied model table.db.rows second.id = some row
    ∧ (withData second.now second.data row).check = true
    ∧ (Valid modelSchema (first.applied model table.db.rows) →
      NoSerialOrder table.db first second (first.change model model) (second.change model' row))

variable {first second : UpdateCall} {model model' : ModelRow} {table : ModelTable}

/-- A call that would be refused after `first` is not presented a model then. -/
lemma UpdateCall.answer_of_refused_after (hmodel : table.db.rows first.id = some model)
    (hassert : assertTransition model first.input = none)
    (hcheck : (withData first.now first.data model).check = true) {row : ModelRow}
    (hrow : first.applied model table.db.rows second.id = some row)
    (hrefused : assertTransition row second.input ≠ none) (presented : AdminModel) :
    (second.program.alone modelSchema (first.program.alone modelSchema table.db (fun _ => none)
      []).1 (fun _ => none) []).2.prog.answer ≠ some (.Presented presented) := by
  obtain ⟨db₁, log₁, halone₁, hrows₁, -⟩ := alone_applied table.tidy hmodel hassert hcheck
  rw [halone₁]
  exact answer_of_refused (hrows₁ ▸ hrow) hrefused presented

/-- The default has been switched away: `second` is not presented a default. -/
lemma SwitchesAway.noSerialOrder (h : SwitchesAway first second model')
    (hmodel : table.db.rows first.id = some model)
    (hmodel' : table.db.rows second.id = some model')
    (hassert : assertTransition model first.input = none)
    (hassert' : assertTransition model' second.input = none)
    (hcheck : (withData first.now first.data model).check = true)
    (hcontext' : second.input.HasContext) :
    LeavesNoOrder table first second model model' := by
  obtain ⟨hid, hfirst, hdefault, hsecond⟩ := h
  have hmodelDefault : model.isDefault = false := by
    by_contra hne
    exact hid (table.valid.default_unique
      ⟨model, hmodel, Bool.eq_true_of_not_eq_false hne⟩ ⟨model', hmodel', hdefault⟩)
  have hmake : first.makeDefault model = true :=
    UpdateCall.makeDefault_eq_true.mpr ⟨hfirst, hmodelDefault⟩
  have hrow : first.applied model table.db.rows second.id
      = some (clearDefault first.now model') := by
    rw [UpdateCall.applied, hmodel', Option.map_some, if_neg (Ne.symm hid), hmake, hdefault]
    rfl
  have hpasses := assertTransition_eq_none.mp hassert'
  have hcheckModel := table.valid.check _ _ hmodel'
  have hcheckRow : (clearDefault first.now model').check = true := by
    simp only [modelSchema, ModelRow.check, Bool.and_eq_true] at hcheckModel ⊢
    exact ⟨hcheckModel.1, rfl⟩
  have hcheck' : (withData second.now second.data (clearDefault first.now model')).check = true :=
    UpdateCall.check_of_context hcheckRow hcontext' fun h => absurd h Bool.false_ne_true
  refine ⟨_, hrow, hcheck', fun hvalid₁ => ?_⟩
  -- `second` sees the default, and does not switch
  have hanswer : (second.change model' (clearDefault first.now model')).isDefault = false := by
    rw [UpdateCall.change_edit (by simp [UpdateCall.makeDefault, hdefault])]
    rfl
  obtain ⟨db₁, log₁, halone₁, hrows₁, hclock₁⟩ :=
    UpdateCall.alone_applied table.tidy hmodel hassert hcheck
  refine ⟨fun hpresented => ?_, .inl fun hpresented => ?_⟩
  · rw [halone₁] at hpresented
    have hown : db₁.rows second.id = some (clearDefault first.now model') := by rw [hrows₁, hrow]
    have hwould := UpdateCall.answer_of_applied
      (UpdateCall.tidy_applied table.tidy hvalid₁ hrows₁ hclock₁) hown
      (assertTransition_eq_none.mpr ⟨fun h => absurd h Bool.false_ne_true, hpasses.2⟩) hcheck'
      hpresented
    rw [hanswer, UpdateCall.change_of_default hsecond] at hwould
    cases hwould
  · have hwould := UpdateCall.answer_of_applied table.tidy hmodel' hassert'
      (UpdateCall.check_of_context hcheckModel hcontext' fun h => (hpasses.1 h).2) hpresented
    rw [hanswer, UpdateCall.change_of_default hsecond] at hwould
    cases hwould

/-- The default was to be unset: `second` is presented a default instead of a conflict. -/
lemma UnsetsDefault.noSerialOrder (h : UnsetsDefault first second model)
    (hmodel : table.db.rows first.id = some model)
    (hassert : assertTransition model first.input = none)
    (hassert' : assertTransition model second.input = none)
    (hcheck : (withData first.now first.data model).check = true)
    (hcontext' : second.input.HasContext) :
    LeavesNoOrder table first second model model := by
  obtain ⟨hid, hfirst, hdefault, hsecond, hkeeps⟩ := h
  have hmake : first.makeDefault model = true :=
    UpdateCall.makeDefault_eq_true.mpr ⟨hfirst, hdefault⟩
  have hmade : (first.change model model).isDefault = true := UpdateCall.change_isDefault hmake
  have hrow : first.applied model table.db.rows second.id = some (first.change model model) := by
    rw [← hid]
    exact UpdateCall.applied_own hmodel
  have hedit : second.change model = withData second.now second.data :=
    UpdateCall.change_edit (by simp [UpdateCall.makeDefault, hsecond])
  refine ⟨_, hrow, UpdateCall.check_of_context (UpdateCall.check_change hcheck model) hcontext'
    fun _ => hkeeps, fun _ => ⟨?_, .inl fun hpresented => ?_⟩⟩
  · refine UpdateCall.answer_of_refused_after hmodel hassert hcheck hrow (fun hpasses => ?_) _
    exact ((assertTransition_eq_none.mp hpasses).1 hmade).1 hsecond
  · rw [hid] at hmodel
    have hwould := UpdateCall.answer_of_applied table.tidy hmodel hassert'
      (UpdateCall.check_of_context (table.valid.check _ _ hmodel) hcontext' fun _ => hkeeps)
      hpresented
    rw [hedit] at hwould
    exact absurd (hmade.symm.trans hwould) (by simp [withData, hdefault])

/-- The model was disabled: `second` is presented a default instead of a conflict. -/
lemma ReenablesModel.noSerialOrder (h : ReenablesModel first second)
    (hmodel : table.db.rows first.id = some model)
    (hassert : assertTransition model first.input = none)
    (hassert' : assertTransition model second.input = none)
    (hcheck : (withData first.now first.data model).check = true)
    (hcontext' : second.input.HasContext) :
    LeavesNoOrder table first second model model := by
  obtain ⟨hid, hfirst, hsecond, hgiven⟩ := h
  have hmake : first.makeDefault model = false := by
    by_contra hne
    have hswitch := (UpdateCall.makeDefault_eq_true.mp (Bool.eq_true_of_not_eq_false hne)).1
    exact ((assertTransition_eq_none.mp hassert).2 hswitch).1 hfirst
  have hdisabled : (first.change model model).isAvailable = false := by
    rw [UpdateCall.change_edit hmake]
    simp [withData, UpdateCall.data, hfirst]
  have hrow : first.applied model table.db.rows second.id = some (first.change model model) := by
    rw [← hid]
    exact UpdateCall.applied_own hmodel
  have hkeeps : second.input.isAvailable ≠ some false := by rw [hgiven]; rintro ⟨⟩
  refine ⟨_, hrow, UpdateCall.check_of_context (UpdateCall.check_change hcheck model) hcontext'
    fun _ => hkeeps, fun _ => ⟨?_, .inr ?_⟩⟩
  · refine UpdateCall.answer_of_refused_after hmodel hassert hcheck hrow (fun hpasses => ?_) _
    rcases ((assertTransition_eq_none.mp hpasses).2 hsecond).2 with havailable | henabled
    · rw [hdisabled] at havailable
      cases havailable
    · rw [hgiven] at henabled
      cases henabled
  · rw [hid] at hmodel
    have hown : second.applied model table.db.rows first.id = some (second.change model model) := by
      rw [hid]
      exact UpdateCall.applied_own hmodel
    refine UpdateCall.answer_of_refused_after hmodel hassert' (UpdateCall.check_of_context
      (table.valid.check _ _ hmodel) hcontext' fun _ => hkeeps) hown (fun hpasses => ?_) _
    exact ((assertTransition_eq_none.mp hpasses).1
      (UpdateCall.change_of_default hsecond)).2 hfirst

/-- **Calls that collide have a run that is not serializable.** -/
theorem exists_run_not_serializable {calls : Fin 2 → UpdateCall} {i j : Fin 2} (hij : i ≠ j)
    (h : Collides table.db.rows (calls i) (calls j)) : ∃ acts sys,
      (modelsSystem table fun k => .Update (calls k)).run modelSchema acts = some sys
      ∧ (∀ k, (sys.procs k).prog.Ended)
      ∧ ¬ Serializable modelSchema (fun k => (calls k).program) IsConflict table.db sys := by
  obtain ⟨model, model', hmodel, hmodel', hassert, hassert', hcontext, hcontext', hrace⟩ := h
  have hcheck : (withData (calls i).now (calls i).data model).check = true :=
    UpdateCall.check_of_context (table.valid.check _ _ hmodel) hcontext
      fun h => ((assertTransition_eq_none.mp hassert).1 h).2
  have hno : LeavesNoOrder table (calls i) (calls j) model model' := by
    rcases hrace with hswitches | hunsets | hreenables
    · exact hswitches.noSerialOrder hmodel hmodel' hassert hassert' hcheck hcontext'
    · obtain rfl : model = model' := by
        rw [← hunsets.1, hmodel] at hmodel'
        exact Option.some.inj hmodel'
      exact hunsets.noSerialOrder hmodel hassert hassert' hcheck hcontext'
    · obtain rfl : model = model' := by
        rw [← hreenables.1, hmodel] at hmodel'
        exact Option.some.inj hmodel'
      exact hreenables.noSerialOrder hmodel hassert hassert' hcheck hcontext'
  obtain ⟨row, hrow, hcheck', hno⟩ := hno
  obtain ⟨acts, sys, hrun, hi, hj, hvalid₁⟩ :=
    exists_overtaken_run hij hmodel hassert hcheck hmodel' hassert' hrow hcheck'
  refine ⟨acts, sys, hrun, fun k => ?_, fun hserializable => ?_⟩
  · have hk : k = i ∨ k = j := by omega
    rcases hk with rfl | rfl
    · rw [hi]
      trivial
    · rw [hj]
      trivial
  · obtain ⟨hafter, hbefore⟩ := hno hvalid₁
    have horders := hserializable.two hij (by rw [hi]; exact id) (by rw [hj]; exact id)
    rw [hi, hj] at horders
    rcases horders with ⟨-, hsecond⟩ | ⟨hsecond, hfirst⟩
    · exact hafter hsecond
    · rcases hbefore with hbefore | hbefore
      · exact hbefore hsecond
      · exact hbefore hfirst

/-- **When two calls of `update` behave as if they ran one after the other.**  In every run the
outcome is explained, if and only if neither call can overtake the other in a way that matters. -/
theorem updates_explained_iff (table : ModelTable) (calls : Fin 2 → UpdateCall) :
    (∀ acts sys, (modelsSystem table fun k => .Update (calls k)).run modelSchema acts = some sys →
      (∀ k, (sys.procs k).prog.Ended) → Explained table calls sys)
      ↔ ∀ i j, i ≠ j → ¬ Collides table.db.rows (calls i) (calls j) := by
  constructor
  · intro hall i j hij hcollides
    obtain ⟨acts, sys, hrun, hended, hnot⟩ := exists_run_not_serializable hij hcollides
    exact hnot (hall acts sys hrun hended).serializable
  · intro hnot acts sys hrun hended
    obtain ⟨history, hhistory⟩ := exists_updateHistory hrun
    exact explained_of_harmless hhistory hended (hhistory.harmless hnot)

/-- One admin disables the second model, another one makes it the default. -/
def disableAndSwitch : Fin 2 → UpdateCall
  | 0 => ⟨1, ⟨none, some false, none⟩, 10, none⟩
  | 1 => ⟨1, ⟨none, none, some true⟩, 11, none⟩

attribute [local instance] neZero_two in
/-- The second admin's call reads the model, and is overtaken. -/
def disabledMeanwhile : List (Fin 2 × Action) :=
  [(1, .Proceed), (0, .Proceed), (0, .Proceed), (0, .Visit 1), (0, .Proceed), (0, .Proceed),
    (0, .Proceed), (1, .Proceed), (1, .Visit 1), (1, .Proceed), (1, .Proceed), (1, .Proceed),
    (1, .Visit 0), (1, .Proceed), (1, .Proceed), (1, .Visit 1), (1, .Proceed), (1, .Proceed),
    (1, .Proceed)]

/-- Both calls succeed, and the model that was disabled is enabled again. -/
theorem updates_reenable : ∃ sys,
    (modelsSystem twoModels fun k => .Update (disableAndSwitch k)).run modelSchema disabledMeanwhile
        = some sys
      ∧ (sys.procs 0).prog = .done (.Presented ⟨1, js "b", 4096, false, false, none, 0, 10⟩)
      ∧ (sys.procs 1).prog = .done (.Presented ⟨1, js "b", 4096, true, true, none, 0, 11⟩)
      ∧ ¬ Explained twoModels disableAndSwitch sys := by
  have hruns : ((modelsSystem twoModels fun k => .Update (disableAndSwitch k)).run modelSchema
      disabledMeanwhile).any (fun sys =>
        (sys.procs 0).prog.answer
            == some (.Presented ⟨1, js "b", 4096, false, false, none, 0, 10⟩)
          && (sys.procs 1).prog.answer
            == some (.Presented ⟨1, js "b", 4096, true, true, none, 0, 11⟩)) = true := by
    decide +kernel
  obtain ⟨sys, hrun, hanswers⟩ := (Option.any_eq_true _ _).mp hruns
  rw [Bool.and_eq_true, beq_iff_eq, beq_iff_eq] at hanswers
  refine ⟨sys, hrun, Prog.answer_eq_some.mp hanswers.1, Prog.answer_eq_some.mp hanswers.2, ?_⟩
  intro h
  exact h.doesNotReenable 1 0 _ _ (by decide) rfl hanswers.2 hanswers.1 rfl (by decide) rfl

end Collisions

end RagStack
