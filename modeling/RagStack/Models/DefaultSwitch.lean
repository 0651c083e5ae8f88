import RagStack.Core.Constraints
import RagStack.Core.Overwrites
import RagStack.Models.AdministrationService

/-!
# What a commit does to the model table

The calls are verified one by one.  Nothing is assumed of the others: what a transaction needs of
the rows, it has locked.

Every commit of a call is of one of two kinds.  Either a row was added that is not the default, or
one row was changed in a way that is known, and others may have ceased to be the default.  The
second kind is what `update` and the seeder do, and its proof follows the statements of the
transaction: at each of them some rows have been written, all of which are locked, and what was
written is described by a function on the row of the call and by `clearing` for the others.

An UPDATE by id finds its row or it does not.  That it is there when the transaction comes to it is
not assumed, for the statement counts, and the call fails if it has counted nothing.  That the row
is the one the service has read is not assumed either, and is not true in general.  The contract
therefore names both rows, the one that was read and the one that was changed.

So the contracts say what the programs do and nothing about whether that is a good thing.  What
follows from it for the table is the matter of the next files.

* `Created`, `Switched` — the two kinds of commits.
* `Switching` — the pending writes of a transaction that is on its way to a `Switched`.
* `modelsContract` — every commit of a call is one of these; a commit of `update` says on which row
  the service had decided.
* `ModelsCall.safe` — all calls keep their contracts.
-/

namespace RagStack

variable {now : Timestamp} {id : Uuid} {clears : Bool} {f : ModelRow → ModelRow}

/-- A model was added.  It is not the default. -/
def Created (rows rows' : Rows ModelRow) : Prop :=
  ∃ id model, rows id = none ∧ model.isDefault = false ∧ rows' = Function.update rows id (some model)

/-- The row `id` was changed, and other models may have ceased to be the default. -/
structure Switched (now : Timestamp) (id : Uuid) (clears : Bool) (change : ModelRow → ModelRow)
    (rows rows' : Rows ModelRow) : Prop where
  own : ∃ model, rows id = some model ∧ rows' id = some (change model)
  others : ∀ k, k ≠ id → rows' k = rows k ∨ clears = true ∧ ∃ model, rows k = some model
    ∧ model.isDefault = true ∧ rows' k = some (clearDefault now model)

/-- The rows other than `id` change only by ceasing to be the default. -/
def clearing (now : Timestamp) (id : Uuid) (clears : Bool) : Evolution ModelRow where
  Moves k x y := k ≠ id → y = x ∨ clears = true ∧ ∃ model, x = some model
    ∧ model.isDefault = true ∧ y = some (clearDefault now model)
  same _ _ _ := .inl rfl
  trans := by
    intro k x r y hfirst hsecond hk
    rcases hsecond hk with rfl | ⟨hclears, model, hr, hdefault, rfl⟩
    · exact hfirst hk
    · cases hr
      rcases hfirst hk with rfl | ⟨-, model', rfl, -, hr⟩
      · exact .inr ⟨hclears, r, rfl, hdefault, rfl⟩
      · -- what has ceased to be the default is not cleared again
        cases hr
        cases hdefault

/-- The pending writes of such a transaction: so far, the row `id` was changed by `f`. -/
structure Switching (now : Timestamp) (id : Uuid) (clears : Bool) (f : ModelRow → ModelRow)
    (w : Writes ModelRow) (db : Db ModelRow) : Prop where
  others : Overwrites (clearing now id clears) w db
  own : w id = none ∧ f = (fun model => model)
    ∨ ∃ model, db.rows id = some model ∧ w id = some (some (f model))

namespace Switching

variable {w : Writes ModelRow} {db db' : Db ModelRow} {k : Key} {model : ModelRow}

lemma nothing (now : Timestamp) (id : Uuid) (clears : Bool) (db : Db ModelRow) :
    Switching now id clears (fun model => model) (fun _ => none) db :=
  ⟨.nothing _ _, .inl ⟨rfl, rfl⟩⟩

/-- The rows it has written are locked. -/
lemma later (h : Switching now id clears f w db) (hundisturbed : Undisturbed modelSchema w db db') :
    Switching now id clears f w db' := by
  refine ⟨h.others.later hundisturbed, ?_⟩
  rcases h.own with hfree | ⟨model, hmodel, hw⟩
  · exact .inl hfree
  · exact .inr ⟨model, (hundisturbed.rows id _ hw).trans hmodel, hw⟩

lemma change (h : Switching now id clears f w db) (hmodel : (db.apply w).rows id = some model)
    (data : ModelRow → ModelRow) : Switching now id clears (fun model => data (f model))
      (Function.update w id (some (some (data model)))) db := by
  refine ⟨h.others.write hmodel fun hne => absurd rfl hne, .inr ?_⟩
  rcases h.own with ⟨hfree, rfl⟩ | ⟨model₀, hmodel₀, hw⟩
  · rw [Db.rows_apply_none hfree] at hmodel
    exact ⟨model, hmodel, Function.update_self _ _ _⟩
  · rw [Db.rows_apply_some hw] at hmodel
    cases hmodel
    exact ⟨model₀, hmodel₀, Function.update_self _ _ _⟩

lemma clear (h : Switching now id true f w db) (hk : k ≠ id)
    (hmodel : (db.apply w).rows k = some model) (hdefault : model.isDefault = true) :
    Switching now id true f (Function.update w k (some (some (clearDefault now model)))) db := by
  refine ⟨h.others.write hmodel fun _ => .inr ⟨rfl, model, rfl, hdefault, rfl⟩, ?_⟩
  rw [Function.update_of_ne hk.symm]
  exact h.own

lemma switched (h : Switching now id clears f w db) (hw : w id = some (some model)) :
    Switched now id clears f db.rows (db.apply w).rows ∧ (db.apply w).rows id = some model := by
  have hview : (db.apply w).rows id = some model := Db.rows_apply_some hw
  refine ⟨⟨?_, fun k hk => h.others.view k hk⟩, hview⟩
  rcases h.own with ⟨hfree, -⟩ | ⟨model₀, hmodel₀, hw₀⟩
  · rw [hfree] at hw
    cases hw
  · rw [hw₀] at hw
    cases hw
    exact ⟨model₀, hmodel₀, hview⟩

end Switching

/-! ## The statements, one by one

An UPDATE of the own row composes a function with those before it; the statement that clears flags
leaves the own row alone. -/

section Rules

variable {C : Contract ModelRow ModelStatement ModelReply} {log : List ModelStatement}
  {w : Writes ModelRow} {db db' : Db ModelRow} {next : ModelRow → ModelProg}

/-- A client of the model table relies on nothing, and may fail. -/
structure Carefree (C : Contract ModelRow ModelStatement ModelReply) : Prop where
  rely : ∀ log scan rows rows', C.Rely log scan rows rows'
  mayFail : C.mayFail
  post : ∀ log reply rows, C.Post log reply rows

/-- Its log does not matter for what may happen to it. -/
lemma Carefree.later (hC : Carefree C) {log log' : List ModelStatement} {scan scan' : Option Scan}
    (h : Later modelSchema (fun _ => True) C log scan w db db') :
    Later modelSchema (fun _ => True) C log' scan' w db db' :=
  ⟨hC.rely _ _ _ _, h.undisturbed, h.inv, h.generated, h.written⟩

lemma safe_done (hC : Carefree C) (reply : ModelReply) :
    Safe modelSchema (fun _ => True) C (.done reply) log w db :=
  fun _ _ => hC.post _ _ _

lemma safe_returning (hC : Carefree C) {model : ModelRow} (hw : w id = some (some model))
    (hnext : Safe modelSchema (fun _ => True) C (next model) (.ReturnModel :: log) w db) :
    Safe modelSchema (fun _ => True) C (returning id next) log w db := by
  intro db' hlater
  have hview : (db'.apply w).rows id = some model := Db.rows_apply_some hw
  simp only [hview]
  exact hnext.later (hC.later hlater)

/-- **UPDATE of the own row.** -/
lemma safe_updateRow (hC : Carefree C) {label : ModelStatement} {data : ModelRow → ModelRow}
    (h : Switching now id clears f w db)
    (hnext : ∀ w db model log, Switching now id clears (fun model => data (f model)) w db →
      w id = some (some model) → Safe modelSchema (fun _ => True) C (next model) log w db) :
    Safe modelSchema (fun _ => True) C (updateRow label id data next) log w db := by
  refine safe_updateOne ?_ fun _ _ _ _ _ => hC.mayFail
  rintro db₁ model ⟨db₀, h₀, h₁⟩ hmodel -
  have hnow := (h.later h₀.undisturbed).later h₁.undisturbed
  refine ⟨fun _ => ?_, fun _ => hC.mayFail⟩
  have hw : Function.update w id (some (some (data model))) id = some (some (data model)) :=
    Function.update_self _ _ _
  exact safe_returning hC hw (hnext _ _ _ _ (hnow.change hmodel data) hw)

/-- **`applyDefault`.** -/
lemma safe_applyDefault (hC : Carefree C) (h : Switching now id true f w db)
    (hnext : ∀ w db model log, Switching now id true (fun model => markDefault now (f model)) w db →
      w id = some (some model) → Safe modelSchema (fun _ => True) C (next model) log w db) :
    Safe modelSchema (fun _ => True) C (applyDefault now id next) log w db := by
  intro db' hlater
  refine safe_updateAll (fun _ _ => False) (Switching now id true f) hC.mayFail hlater.here
    (h.later hlater.undisturbed) (fun _ _ hq => hq.elim) ?_ ?_ ?_
  · intro scan w db db' hw _ hlater
    exact ⟨hw.later hlater.undisturbed, fun _ _ _ _ hq => hq.elim⟩
  · intro w db k model hw _ hmodel hp _
    rw [Bool.and_eq_true, bne_iff_ne] at hp
    exact ⟨hw.clear hp.2 hmodel hp.1, fun hq => hq⟩
  · intro count w db hw _
    exact safe_updateRow hC hw hnext

/-- **The COMMIT** of a transaction that has changed its own row. -/
lemma safe_commit (hC : Carefree C) {label : ModelStatement} {reply : ModelReply} {model : ModelRow}
    (h : Switching now id clears f w db) (hw : w id = some (some model))
    (hguar : ∀ log rows rows', Switched now id clears f rows rows' → rows' id = some model →
      C.Guar (label :: log) rows rows') :
    Safe modelSchema (fun _ => True) C (.commit label (.done reply)) log w db := by
  intro db' hlater
  obtain ⟨hswitched, hown⟩ := (h.later hlater.undisturbed).switched hw
  exact ⟨hguar _ _ _ hswitched hown, trivial, safe_done hC reply⟩

lemma safe_setDefault (hC : Carefree C) {reply : ModelReply}
    (hguar : ∀ log rows rows', Switched now id true (markDefault now) rows rows' →
      C.Guar log rows rows') :
    Safe modelSchema (fun _ => True) C (setDefault now id fun _ => .done reply) log
      (fun _ => none) db := by
  refine safe_applyDefault hC (.nothing now id true db) fun w db model log h hw => ?_
  exact safe_commit hC h hw fun log rows rows' hswitched _ => hguar _ _ _ hswitched

lemma safe_createModel {row : ModelRow} (hC : Carefree C) (hrow : row.isDefault = false)
    {next : Uuid → ModelProg} (hguar : ∀ log rows rows', Created rows rows' → C.Guar log rows rows')
    (hnext : ∀ id db log, Safe modelSchema (fun _ => True) C (next id) log (fun _ => none) db) :
    Safe modelSchema (fun _ => True) C (createModel row next) log (fun _ => none) db := by
  intro db₁ h₁
  refine ⟨fun _ => ?_, fun _ => hC.mayFail⟩
  intro db₂ h₂
  refine ⟨hguar _ _ _ ⟨db₁.clock, row, ?_, hrow, ?_⟩, trivial, hnext _ _ _⟩
  · rw [h₂.undisturbed.rows db₁.clock _ (Function.update_self _ _ _)]
    exact h₁.fresh.1
  · rw [Db.apply_update, Db.apply_nothing]

end Rules

/-! ## The calls

One case for each call, and for `update` one for each way its checks can go. -/

/-- What `update` makes of the row, when it has decided on `model`. -/
def UpdateCall.change (call : UpdateCall) (model row : ModelRow) : ModelRow :=
  if call.makeDefault model then markDefault call.now (withData call.now call.data row)
  else withData call.now call.data row

lemma UpdateCall.change_edit {call : UpdateCall} {model : ModelRow}
    (hmake : call.makeDefault model = false) :
    call.change model = withData call.now call.data := by
  funext row
  rw [change, hmake, if_neg Bool.false_ne_true]

lemma UpdateCall.change_make {call : UpdateCall} {model : ModelRow}
    (hmake : call.makeDefault model = true) :
    call.change model = fun row => markDefault call.now (withData call.now call.data row) := by
  funext row
  rw [change, hmake, if_pos rfl]

/-- The commit of an `update` that has decided on `model` and returns `updated`. -/
structure UpdateCall.Commits (call : UpdateCall) (model updated : ModelRow)
    (rows rows' : Rows ModelRow) : Prop where
  switched : Switched call.now call.id (call.makeDefault model) (call.change model) rows rows'
  returned : rows' call.id = some updated

/-- A commit of the call, from the committed rows before it to those behind it.  The log of the
transaction begins with its label. -/
def ModelsCall.Commits : ModelsCall → List ModelStatement → Rows ModelRow → Rows ModelRow → Prop
  | Create _, _, rows, rows' => Created rows rows'
  | Update call, log, rows, rows' => ∃ model updated, log.head? = some (.CommitUpdate model updated)
      ∧ call.Commits model updated rows rows'
  | Seed call, _, rows, rows' => Created rows rows'
      ∨ ∃ id, Switched call.now id true (markDefault call.now) rows rows'

/-- The contract of a call.  It relies on nothing and may fail; what it guarantees is that its
commits are of the two kinds. -/
def modelsContract (call : ModelsCall) : Contract ModelRow ModelStatement ModelReply where
  Rely _ _ _ _ := True
  Guar := call.Commits
  mayFail := True
  Post _ _ _ := True
  refl _ _ _ := trivial
  trans _ _ _ _ _ _ _ := trivial
  weaken _ _ _ _ _ := trivial

lemma carefree (call : ModelsCall) : Carefree (modelsContract call) :=
  ⟨fun _ _ _ _ => trivial, trivial, fun _ _ _ => trivial⟩

lemma CreateCall.safe (call : CreateCall) (db : Db ModelRow) :
    Safe modelSchema (fun _ => True) (modelsContract (.Create call)) call.program []
      (fun _ => none) db :=
  safe_createModel (carefree _) rfl (fun _ _ _ h => h) fun _ _ _ => safe_done (carefree _) _

lemma UpdateCall.safe_transaction (call : UpdateCall) (model : ModelRow)
    {log : List ModelStatement} (db : Db ModelRow) :
    Safe modelSchema (fun _ => True) (modelsContract (.Update call)) (call.transaction model) log
      (fun _ => none) db := by
  have hC := carefree (.Update call)
  refine safe_updateRow hC (.nothing call.now call.id (call.makeDefault model) db) ?_
  intro w db updated log h hw
  cases hmake : call.makeDefault model with
  | false =>
      rw [hmake] at h
      refine safe_commit hC h hw fun log rows rows' hswitched hown => ⟨model, updated, rfl, ?_, hown⟩
      rw [change_edit hmake, hmake]
      exact hswitched
  | true =>
      rw [hmake] at h
      refine safe_applyDefault hC h fun w db updated log h hw => ?_
      refine safe_commit hC h hw fun log rows rows' hswitched hown => ⟨model, updated, rfl, ?_, hown⟩
      rw [change_make hmake, hmake]
      exact hswitched

lemma UpdateCall.safe (call : UpdateCall) (db : Db ModelRow) :
    Safe modelSchema (fun _ => True) (modelsContract (.Update call)) call.program []
      (fun _ => none) db := by
  intro db' _
  show Safe _ _ _ (call.afterFind (db'.rows call.id)) _ _ db'
  cases db'.rows call.id with
  | none => exact safe_done (carefree _) _
  | some model =>
      rw [afterFind]
      cases assertTransition model call.input with
      | some message => exact safe_done (carefree _) _
      | none => exact call.safe_transaction model db'

lemma SeedCall.safe (call : SeedCall) (db : Db ModelRow) :
    Safe modelSchema (fun _ => True) (modelsContract (.Seed call)) call.program []
      (fun _ => none) db := by
  have hC := carefree (.Seed call)
  have hset : ∀ id log db, Safe modelSchema (fun _ => True) (modelsContract (.Seed call))
      (setDefault call.now id fun _ => .done .Seeded) log (fun _ => none) db :=
    fun id log db => safe_setDefault hC fun _ _ _ hswitched => .inr ⟨id, hswitched⟩
  intro db₁ _
  beta_reduce
  split
  · exact safe_done hC _
  · intro db₂ _
    beta_reduce
    cases findByName (db₂.apply fun _ => none) call.seedName with
    | some id => exact hset id _ _
    | none =>
        exact safe_createModel hC rfl (fun _ _ _ h => .inl h) fun id db log => hset id log db

/-- **Every call keeps its contract**, whatever the other calls do.  It may fail at any statement,
since a constraint can be violated by what others have committed. -/
theorem ModelsCall.safe (call : ModelsCall) (db : Db ModelRow) :
    Safe modelSchema (fun _ => True) (modelsContract call) call.program [] (fun _ => none) db := by
  cases call with
  | Create call => exact call.safe db
  | Update call => exact call.safe db
  | Seed call => exact call.safe db

end RagStack
