import RagStack.Models.DefaultSwitch

/-!
# The default model

At most one model is the default, and it is available.  Both are constraints of the table, so every
committed state satisfies them, and this is a fact about PostgreSQL more than about the service.
What the service has to do with it is the rest: once there is a default there must always be one.
No constraint says so.

A commit that takes the flag from a model has set it on another one in the same transaction, because
the flag is cleared in the course of a switch and nowhere else.  It does not matter what the call
knew when it began, whether the model it switches to is still the one it has read, or which model
was the default then.  If the transaction commits, its own row is the default.  This is a property
of each commit, by the two kinds of commits of the last file, and it is carried along a run by
induction.

The check on `update` refuses to unset the default.  But a check is made on a row that was read, and
it could be out of date.  What counts here is that the statements behind the check never write
`is_default: false` to the row of the call.

* `ModelTable` — a table that satisfies its constraints.
* `Commits.hasDefault` — no commit takes the last default away, whatever it knew when it began.
* `single_default` — in every reachable state at most one model is the default, it is available, and
  once there was a default there is exactly one.
-/

namespace RagStack

/-- The model `id` is there and has its flag set. -/
def IsDefaultModel (rows : Rows ModelRow) (id : Uuid) : Prop :=
  ∃ model, rows id = some model ∧ model.isDefault = true

/-- The `model` table, with its constraints.  It is where runs begin, so that they begin in a table
PostgreSQL could hold. -/
structure ModelTable where
  db : Db ModelRow
  valid : Valid modelSchema db.rows
  generated : ∀ k r, db.rows k = some r → k < db.clock

/-- The system in which the calls have not done anything yet, on a given table. -/
def modelsSystem {n : ℕ} (table : ModelTable) (calls : Fin n → ModelsCall) :
    Sys n ModelRow ModelStatement ModelReply :=
  Sys.start table.db fun i => (calls i).program

lemma modelSchema_lawful : modelSchema.Lawful := by
  refine ⟨fun a b => ?_, fun _ _ _ h => h, fun _ _ h => h⟩
  show (_ || _) = (_ || _)
  rw [Bool.and_comm, Bool.beq_comm]

section Valid

variable {rows : Rows ModelRow} {id id' : Uuid} {model : ModelRow}

lemma Valid.default_unique (h : Valid modelSchema rows) (hid : IsDefaultModel rows id)
    (hid' : IsDefaultModel rows id') : id = id' := by
  obtain ⟨model, hmodel, hdefault⟩ := hid
  obtain ⟨model', hmodel', hdefault'⟩ := hid'
  by_contra hne
  have hclash := h.clash id id' model model' hne hmodel hmodel'
  simp [modelSchema, ModelRow.clash, hdefault, hdefault'] at hclash

lemma Valid.default_available (h : Valid modelSchema rows) (hmodel : rows id = some model)
    (hdefault : model.isDefault = true) : model.isAvailable = true := by
  have hcheck := h.check id model hmodel
  simp only [modelSchema, ModelRow.check, hdefault, Bool.and_eq_true] at hcheck
  simpa using hcheck.2

end Valid

/-! ## There is still a default

For a model that was added nothing changes.  For a switch the new default is the row of the call,
and for any other edit the flags stay where they are. -/

section Commits

variable {rows rows' : Rows ModelRow} {log : List ModelStatement}

lemma Created.hasDefault (h : Created rows rows') (hdefault : ∃ id, IsDefaultModel rows id) :
    ∃ id, IsDefaultModel rows' id := by
  obtain ⟨id, model, hmodel, hmodelDefault⟩ := hdefault
  obtain ⟨new, newModel, hnew, -, rfl⟩ := h
  refine ⟨id, model, ?_, hmodelDefault⟩
  rw [Function.update_of_ne, hmodel]
  rintro rfl
  rw [hnew] at hmodel
  cases hmodel

/-- If other models cease to be the default, the own row becomes it. -/
lemma Switched.hasDefault {now : Timestamp} {own : Uuid} {clears : Bool}
    {change : ModelRow → ModelRow} (h : Switched now own clears change rows rows')
    (hsets : clears = true → ∀ model, (change model).isDefault = true)
    (hkeeps : ∀ model, model.isDefault = true → (change model).isDefault = true)
    (hdefault : ∃ id, IsDefaultModel rows id) : ∃ id, IsDefaultModel rows' id := by
  obtain ⟨id, model, hmodel, hmodelDefault⟩ := hdefault
  obtain ⟨ownModel, hown, hown'⟩ := h.own
  by_cases hid : id = own
  · subst hid
    rw [hown] at hmodel
    cases hmodel
    exact ⟨id, _, hown', hkeeps _ hmodelDefault⟩
  · rcases h.others id hid with hsame | ⟨hclears, -⟩
    · exact ⟨id, model, hsame.trans hmodel, hmodelDefault⟩
    · exact ⟨own, _, hown', hsets hclears _⟩

/-- **No commit takes the last default away.** -/
theorem ModelsCall.Commits.hasDefault {call : ModelsCall} (h : call.Commits log rows rows')
    (hdefault : ∃ id, IsDefaultModel rows id) : ∃ id, IsDefaultModel rows' id := by
  cases call with
  | Create call => exact Created.hasDefault h hdefault
  | Update call =>
      obtain ⟨model, updated, -, hcommits⟩ := h
      refine hcommits.switched.hasDefault (fun hmake row => ?_) (fun row hrow => ?_) hdefault
      · rw [UpdateCall.change, if_pos hmake]
        rfl
      · rw [UpdateCall.change]
        split
        · rfl
        · exact hrow
  | Seed call =>
      rcases h with hcreated | ⟨id, hswitched⟩
      · exact hcreated.hasDefault hdefault
      · exact hswitched.hasDefault (fun _ _ => rfl) (fun _ _ => rfl) hdefault

end Commits

/-! ## Runs

The index and the check come from the constraints, which hold in every state that a run reaches. -/

section Runs

variable {n : ℕ} {table : ModelTable} {calls : Fin n → ModelsCall}
  {acts : List (Fin n × Action)} {sys sys' : Sys n ModelRow ModelStatement ModelReply}

lemma enforced_modelsSystem (hrun : (modelsSystem table calls).run modelSchema acts = some sys) :
    Enforced modelSchema sys :=
  (Enforced.start table.valid table.generated).run modelSchema_lawful hrun

/-- The calls rely on nothing, so every step is admissible. -/
lemma admissible_models (calls : Fin n → ModelsCall)
    (sys : Sys n ModelRow ModelStatement ModelReply) (acts : List (Fin n × Action)) :
    sys.AlongRun modelSchema (Admissible fun i => modelsContract (calls i)) acts :=
  .of_forall modelSchema (fun _ _ _ => ⟨fun _ => trivial, fun _ _ _ _ _ _ _ _ => trivial⟩) sys acts

lemma secure_modelsSystem (hrun : (modelsSystem table calls).run modelSchema acts = some sys) :
    Secure modelSchema (fun _ => True) (fun i => modelsContract (calls i)) sys := by
  have hstart : Secure modelSchema (fun _ => True) (fun i => modelsContract (calls i))
      (modelsSystem table calls) :=
    .start trivial table.generated fun i => (calls i).safe table.db
  exact hstart.run (admissible_models calls _ acts) hrun

/-- **There is one default model.**  In every reachable state at most one model is the default, and
it is available.  Once there was a default, there is exactly one, however many calls create, update
and seed models at the same time. -/
theorem single_default {acts' : List (Fin n × Action)}
    (hrun : (modelsSystem table calls).run modelSchema acts = some sys)
    (hmore : sys.run modelSchema acts' = some sys') :
    (∀ id id', IsDefaultModel sys'.db.rows id → IsDefaultModel sys'.db.rows id' → id = id')
      ∧ (∀ id model, sys'.db.rows id = some model → model.isDefault = true →
          model.isAvailable = true)
      ∧ ((∃ id, IsDefaultModel sys.db.rows id) → ∃! id, IsDefaultModel sys'.db.rows id) := by
  have hvalid := ((enforced_modelsSystem hrun).run modelSchema_lawful hmore).committed
  refine ⟨fun id id' => hvalid.default_unique, fun id model => hvalid.default_available, ?_⟩
  intro hdefault
  have hkept := (secure_modelsSystem hrun).run_guar (admissible_models calls sys acts') hmore
    (G := fun rows rows' => (∃ id, IsDefaultModel rows id) → ∃ id, IsDefaultModel rows' id)
    (fun _ h => h) (fun _ _ _ h h' hd => h' (h hd)) (fun _ _ _ _ h => h.hasDefault)
  obtain ⟨id, hid⟩ := hkept hdefault
  exact ⟨id, hid, fun id' hid' => hvalid.default_unique hid' hid⟩

end Runs

/-! ## A switch

While one call switches the default, another one edits the old default, with a decision it has made
before. -/

/-- A table with some models, all of which were created with it. -/
def ModelTable.ofModels (models : List ModelRow) (hcheck : ∀ model ∈ models, model.check = true)
    (hclash : models.Pairwise fun a b => a.clash b = false) : ModelTable where
  db := .ofRows (models.map some)
  valid := by
    have hrow : ∀ k model, (Db.ofRows (models.map some)).rows k = some model →
        models[k]? = some model := by
      intro k model hmodel
      have hk := Db.rows_ofRows.mp hmodel
      rw [List.getElem?_map, Option.map_eq_some_iff] at hk
      obtain ⟨model', hk, hmodel'⟩ := hk
      cases hmodel'
      exact hk
    refine ⟨fun k model hmodel => hcheck _ (List.mem_of_getElem? (hrow k model hmodel)), ?_⟩
    intro k k' model model' hne hmodel hmodel'
    have hk := List.getElem?_eq_some_iff.mp (hrow k model hmodel)
    have hk' := List.getElem?_eq_some_iff.mp (hrow k' model' hmodel')
    obtain ⟨hlt, rfl⟩ := hk
    obtain ⟨hlt', rfl⟩ := hk'
    rcases Nat.lt_or_gt_of_ne hne with h | h
    · exact List.pairwise_iff_getElem.mp hclash k k' hlt hlt' h
    · rw [modelSchema_lawful.symm]
      exact List.pairwise_iff_getElem.mp hclash k' k hlt' hlt h
  generated := Db.lt_clock_ofRows _

/-- Two models, the first of them the default. -/
def twoModels : ModelTable :=
  .ofModels [⟨js "a", 4096, true, true, 0, 0⟩, ⟨js "b", 4096, true, false, 0, 0⟩]
    (by decide) (by decide)

/-- Somebody makes the second model the default, while somebody else edits the first. -/
def switchAndEdit : Fin 2 → ModelsCall
  | 0 => .Update ⟨1, ⟨none, none, some true⟩, 10, none⟩
  | 1 => .Update ⟨0, ⟨some 8192, none, none⟩, 11, none⟩

attribute [local instance] neZero_two in
/-- The edit reads its row while the switch has already cleared it, and is committed last. -/
def switchedMeanwhile : List (Fin 2 × Action) :=
  [(0, .Proceed), (0, .Proceed), (0, .Visit 1), (0, .Proceed), (0, .Proceed),
    (0, .Proceed), (0, .Visit 0), (1, .Proceed), (1, .Proceed), (0, .Proceed),
    (0, .Proceed), (0, .Visit 1), (0, .Proceed), (0, .Proceed), (0, .Proceed),
    (1, .Visit 0), (1, .Proceed), (1, .Proceed), (1, .Proceed)]

/-- After both there is one default, as there was before. -/
theorem single_default_switched : ∃ sys,
    (modelsSystem twoModels switchAndEdit).run modelSchema switchedMeanwhile = some sys
      ∧ ∃! id, IsDefaultModel sys.db.rows id := by
  have hruns : ((modelsSystem twoModels switchAndEdit).run modelSchema switchedMeanwhile).isSome
      = true := by decide +kernel
  obtain ⟨sys, hrun⟩ := Option.isSome_iff_exists.mp hruns
  have hstart : (modelsSystem twoModels switchAndEdit).run modelSchema []
      = some (modelsSystem twoModels switchAndEdit) := rfl
  exact ⟨sys, hrun, (single_default hstart hrun).2.2 ⟨0, _, rfl, rfl⟩⟩

end RagStack
