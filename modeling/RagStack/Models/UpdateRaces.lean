import RagStack.Models.UpdateOrder

/-!
# Two `update` calls at the same time

The service decides on a row that it reads before the transaction.  If the other call commits in
between, the decision can be wrong, and in three kinds of races the outcome is not that of any order
of the two calls.

In the first the second call asks that the default remain the default.  It sees no need to switch,
because its model is the default when it reads, but the first call has made another model the
default by the time it commits.  In the second the first call makes a model the default and the
second one asks that it be none.  Had it read the new row, it would have been refused.  In the
third, one call disables a model and the other makes it the default, which enables it again: that
`is_available` is written together with the flag keeps the check satisfied, and it undoes what an
admin has just done.

Collisions are a property of the table before the two calls and of their inputs.  The conditions on
the inputs alone, that both would be let through and that their context windows are positive, say
that the two calls can commit at all.

That nothing else is a race is the longer half.  For two calls which do not collide, whatever the
first one writes, the second one decides on the new row as it has decided on the old one, or makes
the same change.

* `Collides` — these races, by the table and the two inputs.
* `harmless_of_not_collides` — in no other does the stale row make a difference.
-/

namespace RagStack

/-! ## Races

`first` is the call that commits first.  Two calls collide in one order or in the other or in both.
-/

/-- `second` asks that the default remain the default, but `first` makes another model the default:
`second` sees no need to switch. -/
def SwitchesAway (first second : UpdateCall) (model : ModelRow) : Prop :=
  first.id ≠ second.id ∧ first.input.isDefault = some true
    ∧ model.isDefault = true ∧ second.input.isDefault = some true

/-- `first` makes the model the default, and `second` asks that it be none: `second` sees nothing to
refuse. -/
def UnsetsDefault (first second : UpdateCall) (model : ModelRow) : Prop :=
  first.id = second.id ∧ first.input.isDefault = some true
    ∧ model.isDefault = false ∧ second.input.isDefault = some false
    ∧ second.input.isAvailable ≠ some false

/-- `first` disables the model, and `second` makes it the default: `second` enables it again without
having been asked to. -/
def ReenablesModel (first second : UpdateCall) : Prop :=
  first.id = second.id ∧ first.input.isAvailable = some false
    ∧ second.input.isDefault = some true ∧ second.input.isAvailable = none

/-- `model_max_context_check` on an input. -/
def UpdateModelInput.HasContext (input : UpdateModelInput) : Prop :=
  ∀ maxContext, input.maxContext = some maxContext → 0 < maxContext

/-- **The calls collide**, if `first` commits after `second` has read its row. -/
def Collides (rows : Rows ModelRow) (first second : UpdateCall) : Prop :=
  ∃ model model', rows first.id = some model ∧ rows second.id = some model'
    ∧ assertTransition model first.input = none ∧ assertTransition model' second.input = none
    ∧ first.input.HasContext ∧ second.input.HasContext
    ∧ (SwitchesAway first second model' ∨ UnsetsDefault first second model'
      ∨ ReenablesModel first second)

section Fields

variable {call : UpdateCall} {model model' row : ModelRow} {rows : Rows ModelRow}

lemma UpdateCall.makeDefault_eq_true : call.makeDefault model = true ↔
    call.input.isDefault = some true ∧ model.isDefault = false := by
  simp [makeDefault]

/-- The decision is used for one thing only. -/
lemma UpdateCall.applied_congr (h : call.makeDefault model = call.makeDefault model') :
    call.applied model rows = call.applied model' rows := by
  unfold applied change
  rw [h]

lemma UpdateCall.change_maxContext :
    (call.change model row).maxContext = call.input.maxContext.getD row.maxContext := by
  rw [change]
  split <;> rfl

/-- An input that ends up in a valid table is valid. -/
lemma UpdateCall.hasContext (hrow : rows call.id = some row)
    (hvalid : Valid modelSchema (call.applied model rows)) : call.input.HasContext := by
  intro maxContext hmax
  have hcheck := hvalid.check _ _ (applied_own hrow)
  simp only [modelSchema, ModelRow.check, Bool.and_eq_true, decide_eq_true_eq,
    change_maxContext, hmax, Option.getD_some] at hcheck
  exact hcheck.1

/-- Making the default the default changes nothing more. -/
lemma UpdateCall.applied_of_default (hvalid : Valid modelSchema rows)
    (hrow : rows call.id = some row) (hdefault : row.isDefault = true)
    (hkeeps : call.input.isAvailable ≠ some false) :
    call.applied model rows = call.applied row rows := by
  have hedit : call.makeDefault row = false := by simp [makeDefault, hdefault]
  cases hmake : call.makeDefault model with
  | false => exact applied_congr (hmake.trans hedit.symm)
  | true =>
      have hown : markDefault call.now (withData call.now call.data row)
          = withData call.now call.data row := by
        have havailable : call.input.isAvailable.getD row.isAvailable = true := by
          cases hgiven : call.input.isAvailable with
          | none => exact hvalid.default_available hrow hdefault
          | some value => cases value <;> simp_all
        simp [markDefault, withData, data, hdefault, havailable]
      funext k
      rw [applied, applied, change_make hmake, change_edit hedit, hmake, hedit]
      cases hk : rows k with
      | none => rfl
      | some other =>
          rw [Option.map_some, Option.map_some]
          by_cases hid : k = call.id
          · subst hid
            rw [hrow] at hk
            cases hk
            rw [if_pos rfl, if_pos rfl]
            exact congrArg some hown
          · have hother : other.isDefault = false := by
              by_contra hne
              exact hid (hvalid.default_unique
                ⟨other, hk, Bool.eq_true_of_not_eq_false hne⟩ ⟨row, hrow, hdefault⟩)
            rw [if_neg hid, if_neg hid, hother]
            rfl

end Fields

/-! ## Races that make no difference

The cases are those of the two inputs: which flags they set, and whether they are about one model.
-/

section Harmless

variable {rows : Rows ModelRow} {first second : UpdateCall} {model model' : ModelRow}

/-- A call that has read `model` does what it would do on the row that is there. -/
abbrev DecidesAlike (call : UpdateCall) (rows : Rows ModelRow) (model : ModelRow) : Prop :=
  ∃ row, rows call.id = some row ∧ assertTransition row call.input = none
    ∧ call.applied model rows = call.applied row rows

/-- The stale row is that of another model. -/
lemma harmless_of_ne (hne : second.id ≠ first.id) (hmodel' : rows second.id = some model')
    (hassert' : assertTransition model' second.input = none)
    (hnot : ¬ SwitchesAway first second model') :
    DecidesAlike second (first.applied model rows) model' := by
  have hrow : first.applied model rows second.id = some
      (if first.makeDefault model && model'.isDefault then clearDefault first.now model'
        else model') := by
    rw [UpdateCall.applied, hmodel', Option.map_some, if_neg hne]
  split at hrow
  · -- it was the default, and nobody has asked that it remain so
    rename_i hcleared
    rw [Bool.and_eq_true, UpdateCall.makeDefault_eq_true] at hcleared
    have hinput : second.input.isDefault ≠ some true :=
      fun h => hnot ⟨hne.symm, hcleared.1.1, hcleared.2, h⟩
    refine ⟨_, hrow, ?_, UpdateCall.applied_congr ?_⟩
    · rw [assertTransition_eq_none]
      exact ⟨fun h => absurd h Bool.false_ne_true, fun h => absurd h hinput⟩
    · rw [UpdateCall.makeDefault, UpdateCall.makeDefault, beq_false_of_ne hinput]
      rfl
  · exact ⟨model', hrow, hassert', rfl⟩

/-- The first call has made the model the default. -/
lemma harmless_of_makeDefault (hid : second.id = first.id) (hmodel : rows first.id = some model)
    (hmake : first.makeDefault model = true)
    (hvalid₁ : Valid modelSchema (first.applied model rows))
    (hvalid₂ : Valid modelSchema (second.applied model (first.applied model rows)))
    (hassert' : assertTransition model second.input = none)
    (hnot : ¬ UnsetsDefault first second model) :
    DecidesAlike second (first.applied model rows) model := by
  have hrow : first.applied model rows second.id = some (first.change model model) := by
    rw [hid]
    exact UpdateCall.applied_own hmodel
  have hdefault : (first.change model model).isDefault = true := UpdateCall.change_isDefault hmake
  have havailable := hvalid₁.default_available hrow hdefault
  obtain ⟨hfirst, hwas⟩ := UpdateCall.makeDefault_eq_true.mp hmake
  obtain ⟨-, hassert'⟩ := assertTransition_eq_none.mp hassert'
  -- the default cannot be made unavailable: the CHECK fails
  have hkeeps : second.input.isAvailable ≠ some false := by
    intro hdisable
    have hinput : second.input.isDefault ≠ some true := fun h => (hassert' h).1 hdisable
    have hcheck := hvalid₂.check _ _ (UpdateCall.applied_own hrow)
    rw [UpdateCall.change_edit (by simp [UpdateCall.makeDefault, hinput])] at hcheck
    simp [modelSchema, ModelRow.check, withData, UpdateCall.data, hdisable, hdefault] at hcheck
  refine ⟨_, hrow, ?_, ?_⟩
  · rw [assertTransition_eq_none]
    exact ⟨fun _ => ⟨fun h => hnot ⟨hid.symm, hfirst, hwas, h, hkeeps⟩, hkeeps⟩,
      fun _ => ⟨hkeeps, .inl havailable⟩⟩
  · exact UpdateCall.applied_of_default hvalid₁ hrow hdefault hkeeps

/-- The first call has edited the same model. -/
lemma harmless_of_edit (hid : second.id = first.id) (hmodel : rows first.id = some model)
    (hmake : first.makeDefault model = false)
    (hassert' : assertTransition model second.input = none)
    (hnot : ¬ ReenablesModel first second) :
    DecidesAlike second (first.applied model rows) model := by
  have hrow : first.applied model rows second.id
      = some (withData first.now first.data model) := by
    rw [hid, UpdateCall.applied_own hmodel, UpdateCall.change_edit hmake]
  refine ⟨_, hrow, ?_, UpdateCall.applied_congr rfl⟩
  rw [assertTransition_eq_none] at hassert' ⊢
  refine ⟨hassert'.1, fun hdefault => ⟨(hassert'.2 hdefault).1, ?_⟩⟩
  rcases (hassert'.2 hdefault).2 with havailable | hgiven
  · cases hfirst : first.input.isAvailable with
    | none => exact .inl (by simpa [withData, UpdateCall.data, hfirst] using havailable)
    | some value =>
        cases value with
        | true => exact .inl (by simp [withData, UpdateCall.data, hfirst])
        | false =>
            cases hsecond : second.input.isAvailable with
            | none => exact absurd ⟨hid.symm, hfirst, hdefault, hsecond⟩ hnot
            | some value' =>
                cases value' with
                | true => exact .inr rfl
                | false => exact absurd hsecond (hassert'.2 hdefault).1
  · exact .inr hgiven

/-- **Without a collision, the stale row makes no difference.** -/
theorem harmless_of_not_collides (hmodel : rows first.id = some model)
    (hmodel' : rows second.id = some model')
    (hassert : assertTransition model first.input = none)
    (hassert' : assertTransition model' second.input = none)
    (hvalid₁ : Valid modelSchema (first.applied model rows))
    (hvalid₂ : Valid modelSchema (second.applied model' (first.applied model rows)))
    (hnot : ¬ Collides rows first second) :
    DecidesAlike second (first.applied model rows) model' := by
  have hsecond : ∃ row, first.applied model rows second.id = some row := by
    rw [UpdateCall.applied, hmodel']
    exact ⟨_, rfl⟩
  have hrace : ¬ (SwitchesAway first second model' ∨ UnsetsDefault first second model'
      ∨ ReenablesModel first second) :=
    fun h => hnot ⟨model, model', hmodel, hmodel', hassert, hassert',
      UpdateCall.hasContext hmodel hvalid₁, UpdateCall.hasContext hsecond.choose_spec hvalid₂, h⟩
  rw [not_or, not_or] at hrace
  by_cases hid : second.id = first.id
  · rw [hid, hmodel] at hmodel'
    cases hmodel'
    cases hmake : first.makeDefault model with
    | true => exact harmless_of_makeDefault hid hmodel hmake hvalid₁ hvalid₂ hassert' hrace.2.1
    | false => exact harmless_of_edit hid hmodel hmake hassert' hrace.2.2
  · exact harmless_of_ne hid hmodel' hassert' hrace.1

end Harmless

/-! ## Two calls

With two calls a history has at most two entries, and only the second one can have been decided on a
stale row. -/

section TwoCalls

variable {table : ModelTable} {calls : Fin 2 → UpdateCall} {history : List (Fin 2 × ModelRow)}
  {sys : Sys 2 ModelRow ModelStatement ModelReply} {i j : Fin 2}

/-- The calls of this history can have been decided on these rows only. -/
lemma DecidedOn.of_nil {rows : Rows ModelRow} {model : ModelRow}
    (h : DecidedOn calls rows [] i model) :
    rows (calls i).id = some model ∧ assertTransition model (calls i).input = none := by
  obtain ⟨past, hpast, hmodel, hassert⟩ := h
  rw [List.prefix_nil.mp hpast] at hmodel
  exact ⟨hmodel, hassert⟩

/-- Two calls commit at most once each. -/
lemma UpdateHistory.length_le (h : UpdateHistory calls table.db.rows history sys) :
    history = [] ∨ (∃ i model, history = [(i, model)])
      ∨ ∃ i model j model', i ≠ j ∧ history = [(i, model), (j, model')] := by
  have hlength := h.nodup.length_le_card
  rw [List.length_map, Fintype.card_fin] at hlength
  rcases history with _ | ⟨⟨i, model⟩, _ | ⟨⟨j, model'⟩, _ | ⟨_, _⟩⟩⟩
  · exact .inl rfl
  · exact .inr (.inl ⟨i, model, rfl⟩)
  · refine .inr (.inr ⟨i, model, j, model', ?_, rfl⟩)
    have hnodup := h.nodup
    simp at hnodup
    exact hnodup
  · simp at hlength

/-- **Without a collision, every history is harmless.** -/
theorem UpdateHistory.harmless (h : UpdateHistory calls table.db.rows history sys)
    (hnot : ∀ i j, i ≠ j → ¬ Collides table.db.rows (calls i) (calls j)) :
    Harmless calls table.db.rows history := by
  rcases h.length_le with rfl | ⟨i, model, rfl⟩ | ⟨i, model, j, model', hij, rfl⟩
  · trivial
  · obtain ⟨hmodel, hassert⟩ := (h.decided [] i model [] rfl).of_nil
    exact ⟨⟨model, hmodel, hassert, rfl⟩, trivial⟩
  · obtain ⟨hmodel, hassert⟩ := (h.decided [] i model _ rfl).of_nil
    obtain ⟨past, hpast, hmodel', hassert'⟩ := h.decided [(i, model)] j model' [] rfl
    refine ⟨⟨model, hmodel, hassert, rfl⟩, ?_, trivial⟩
    rcases List.prefix_cons_iff.mp hpast with rfl | ⟨past, rfl, hnil⟩
    · -- the second call had read its row before the first one committed
      exact harmless_of_not_collides hmodel hmodel' hassert hassert'
        (h.valid [(i, model)] (List.prefix_append _ _)) (h.valid _ List.prefix_rfl)
        (hnot i j hij)
    · rw [List.prefix_nil.mp hnil] at hmodel'
      exact ⟨model', hmodel', hassert', rfl⟩

end TwoCalls

end RagStack
