import RagStack.Models.SingleDefault

/-!
# `update` as a history of atomic updates

However the statements of several `update` calls are interleaved, the table goes through a history
of atomic updates.  Each is decided on the row that its call had read, which may have been another
one by the time of the commit.

This is as close to a serial execution as one can get for all runs.  A transaction of `update`
writes its own row and those from which it takes the default flag, and its commit makes the writes
visible at once.  That these are exactly the writes of one atomic step is not obvious, since the
statement that clears flags sees the rows that were there when it began.  It is the unique index
that helps: if another default had been left, the own row could not have been made the default.  So
the commit is the atomic update, on a table that is valid.

A history is a list of calls, each with the row on which it has decided.  The invariant of a run
relates each call to the history.  It is still reading, or has decided on a row that was there at
some time, or it is in the history and has answered, or has been refused, has found no model, or has
failed.  A step moves one call from one phase to another, and a commit adds it to the history.

Which histories are those of a serial execution is then a question about lists, without programs,
locks or statements.

* `UpdateCall.applied` — the atomic update.
* `replay` — the table after a history.
* `Phase` — where a call is, with respect to the history.
* `UpdateHistory.step`, `exists_updateHistory` — every run has such a history.
-/

namespace RagStack

/-- The rows after the call, decided on `model`, has been applied to all of them at once. -/
def UpdateCall.applied (call : UpdateCall) (model : ModelRow) (rows : Rows ModelRow) :
    Rows ModelRow := fun k =>
  (rows k).map fun row =>
    if k = call.id then call.change model row
    else if call.makeDefault model && row.isDefault then clearDefault call.now row
    else row

section Applied

variable {call : UpdateCall} {model updated row : ModelRow} {rows rows' : Rows ModelRow} {k : Uuid}

lemma UpdateCall.applied_own (hrow : rows call.id = some row) :
    call.applied model rows call.id = some (call.change model row) := by
  simp [applied, hrow]

lemma UpdateCall.applied_eq_none : call.applied model rows k = none ↔ rows k = none :=
  Option.map_eq_none_iff

lemma UpdateCall.change_isDefault (hmake : call.makeDefault model = true) :
    (call.change model row).isDefault = true := by
  rw [change, if_pos hmake]
  rfl

/-- **A commit is the atomic update.**  That it has cleared every other default follows from the
unique index: its own row is the default now. -/
theorem UpdateCall.Commits.eq_applied (h : call.Commits model updated rows rows')
    (hvalid : Valid modelSchema rows') : rows' = call.applied model rows := by
  obtain ⟨own, hown, hown'⟩ := h.switched.own
  funext k
  by_cases hk : k = call.id
  · subst hk
    rw [hown', applied_own hown]
  · rcases h.switched.others k hk with hsame | ⟨hclears, other, hother, hdefault, hcleared⟩
    · rw [hsame, applied]
      cases hrow : rows k with
      | none => rfl
      | some row =>
          rw [Option.map_some, if_neg hk, if_neg]
          intro hboth
          rw [Bool.and_eq_true] at hboth
          exact hk (hvalid.default_unique ⟨row, hsame.trans hrow, hboth.2⟩
            ⟨_, hown', change_isDefault hboth.1⟩)
    · rw [hcleared, applied, hother, Option.map_some, if_neg hk, hclears, hdefault]
      rfl

end Applied

/-! ## Histories

The table after a history, and what it means for a call to have decided on a row. -/

section Histories

variable {n : ℕ} (calls : Fin n → UpdateCall) (rows : Rows ModelRow)

/-- The table after some calls were applied, each decided on some row. -/
def replay (rows : Rows ModelRow) : List (Fin n × ModelRow) → Rows ModelRow
  | [] => rows
  | (i, model) :: history => replay ((calls i).applied model rows) history

/-- Call `i` had read this row at some time, and let it pass. -/
def DecidedOn (history : List (Fin n × ModelRow)) (i : Fin n) (model : ModelRow) : Prop :=
  ∃ past, past <+: history ∧ replay calls rows past (calls i).id = some model
    ∧ assertTransition model (calls i).input = none

/-- The rest of the transaction of a call that has decided on `model`. -/
def InTransaction (call : UpdateCall) (model : ModelRow) : ModelProg → Prop
  | .read _ next => ∀ db, InTransaction call model (next db)
  | .update _ _ _ next => ∀ count, InTransaction call model (next count)
  | .commit label next => ∃ updated, label = .CommitUpdate model updated
      ∧ next = .done (call.present updated)
  | .rollback next => next = .failed
  | .failed => True
  | .done _ | .insert .. | .delete .. => False

/-- **Where call `i` is**, after this history. -/
inductive Phase (history : List (Fin n × ModelRow)) (i : Fin n) :
    Proc ModelRow ModelStatement ModelReply → Prop where
  | Reading {p : Proc ModelRow ModelStatement ModelReply} (hnew : i ∉ history.map Prod.fst)
      (hprog : p.prog = (calls i).program) (hwrites : p.writes = fun _ => none) :
      Phase history i p
  | Checked {p : Proc ModelRow ModelStatement ModelReply} {model : ModelRow}
      (hnew : i ∉ history.map Prod.fst) (hdecided : DecidedOn calls rows history i model)
      (hprog : InTransaction (calls i) model p.prog) : Phase history i p
  | Committed {p : Proc ModelRow ModelStatement ModelReply} {past rest : List (Fin n × ModelRow)}
      {model updated : ModelRow} (hhistory : history = past ++ (i, model) :: rest)
      (hupdated : replay calls rows (past ++ [(i, model)]) (calls i).id = some updated)
      (hprog : p.prog = .done ((calls i).present updated)) : Phase history i p
  | Refused {p : Proc ModelRow ModelStatement ModelReply} {message : String}
      (hnew : i ∉ history.map Prod.fst) (hprog : p.prog = .done (.Conflict message)) :
      Phase history i p
  | Missing {p : Proc ModelRow ModelStatement ModelReply} (hnew : i ∉ history.map Prod.fst)
      (hmissing : rows (calls i).id = none)
      (hprog : p.prog = .done (.NotFound "Model not found.")) : Phase history i p
  | Failed {p : Proc ModelRow ModelStatement ModelReply} (hnew : i ∉ history.map Prod.fst)
      (hprog : p.prog = .failed) : Phase history i p

/-- **The history of a run**, so far. -/
structure UpdateHistory (history : List (Fin n × ModelRow))
    (sys : Sys n ModelRow ModelStatement ModelReply) : Prop where
  rows_eq : sys.db.rows = replay calls rows history
  nodup : (history.map Prod.fst).Nodup
  decided : ∀ past i model rest, history = past ++ (i, model) :: rest →
    DecidedOn calls rows past i model
  valid : ∀ past, past <+: history → Valid modelSchema (replay calls rows past)
  phase : ∀ i, Phase calls rows history i (sys.procs i)

end Histories

section Steps

variable {n : ℕ} {calls : Fin n → UpdateCall} {rows : Rows ModelRow} {call : UpdateCall}
  {model : ModelRow} {history : List (Fin n × ModelRow)} {i : Fin n} {a : Action}
  {sys sys' : Sys n ModelRow ModelStatement ModelReply}

@[simp] lemma replay_append (history more : List (Fin n × ModelRow)) :
    replay calls rows (history ++ more) = replay calls (replay calls rows history) more := by
  induction history generalizing rows with
  | nil => rfl
  | cons entry history ih => exact ih

lemma replay_eq_none {k : Uuid} : replay calls rows history k = none ↔ rows k = none := by
  induction history generalizing rows with
  | nil => rfl
  | cons entry history ih => exact ih.trans UpdateCall.applied_eq_none

lemma DecidedOn.append (h : DecidedOn calls rows history i model)
    (more : List (Fin n × ModelRow)) : DecidedOn calls rows (history ++ more) i model := by
  obtain ⟨past, hpast, hmodel, hpasses⟩ := h
  exact ⟨past, hpast.trans (List.prefix_append _ _), hmodel, hpasses⟩

lemma Phase.append {p : Proc ModelRow ModelStatement ModelReply} (h : Phase calls rows history i p)
    {j : Fin n} (hj : i ≠ j) (model : ModelRow) :
    Phase calls rows (history ++ [(j, model)]) i p := by
  have hnew' : i ∉ history.map Prod.fst → i ∉ (history ++ [(j, model)]).map Prod.fst := by
    intro hnew hmem
    rw [List.map_append, List.mem_append] at hmem
    rcases hmem with hmem | hmem
    · exact hnew hmem
    · exact hj (List.mem_singleton.mp hmem)
  cases h with
  | Reading hnew hprog hwrites => exact .Reading (hnew' hnew) hprog hwrites
  | Checked hnew hdecided hprog => exact .Checked (hnew' hnew) (hdecided.append _) hprog
  | Committed hhistory hupdated hprog =>
      subst hhistory
      exact .Committed (by rw [List.append_assoc, List.cons_append]) hupdated hprog
  | Refused hnew hprog => exact .Refused (hnew' hnew) hprog
  | Missing hnew hmissing hprog => exact .Missing (hnew' hnew) hmissing hprog
  | Failed hnew hprog => exact .Failed (hnew' hnew) hprog

/-! ### The transaction

A program that is in its transaction stays in it until its commit or its failure. -/

lemma inTransaction_returning {id : Uuid} {next : ModelRow → ModelProg}
    (hnext : ∀ updated, InTransaction call model (next updated)) :
    InTransaction call model (returning id next) := by
  intro db
  beta_reduce
  split
  · rfl
  · exact hnext _

lemma inTransaction_updateRow {label : ModelStatement} {id : Uuid} {data : ModelRow → ModelRow}
    {next : ModelRow → ModelProg} (hnext : ∀ updated, InTransaction call model (next updated)) :
    InTransaction call model (updateRow label id data next) := by
  intro count
  beta_reduce
  split
  · rfl
  · exact inTransaction_returning hnext

lemma inTransaction_transaction (call : UpdateCall) (model : ModelRow) :
    InTransaction call model (call.transaction model) := by
  have hcommit : ∀ updated, InTransaction call model
      (.commit (.CommitUpdate model updated) (.done (call.present updated))) :=
    fun updated => ⟨updated, rfl, rfl⟩
  refine inTransaction_updateRow fun updated => ?_
  split
  · exact fun _ => inTransaction_updateRow hcommit
  · exact hcommit updated

/-- A step of the transaction is its commit, or leaves the committed rows. -/
lemma InTransaction.moved (h : InTransaction call model (sys.procs i).prog)
    (hmoved : Moved modelSchema sys i a sys') :
    (sys'.db.rows = sys.db.rows ∧ InTransaction call model (sys'.procs i).prog)
      ∨ ∃ updated, (sys.procs i).scan = none
        ∧ (sys.procs i).prog = .commit (.CommitUpdate model updated) (.done (call.present updated))
        ∧ sys'.db = sys.view i ∧ (sys'.procs i).prog = .done (call.present updated) := by
  cases hmoved with
  | read hscan hprog =>
      rw [hprog] at h
      rw [Sys.procs_become_self]
      exact .inl ⟨rfl, h _⟩
  | updateStart hscan hprog =>
      rw [hprog] at h
      rw [Sys.procs_become_self]
      exact .inl ⟨rfl, h⟩
  | updateEnd hscan hprog =>
      rw [hprog] at h
      rw [Sys.procs_become_self]
      exact .inl ⟨rfl, h _⟩
  | commit hscan hprog =>
      rw [hprog] at h
      obtain ⟨updated, rfl, rfl⟩ := h
      refine .inr ⟨updated, hscan, hprog, rfl, ?_⟩
      rw [Sys.procs_become_self]
  | rollback hscan hprog =>
      rw [hprog] at h
      rw [Sys.procs_become_self]
      cases h
      exact .inl ⟨rfl, trivial⟩
  | hit hscan hprog hk hr hp hadmits hunhindered =>
      rw [hprog] at h
      rw [Sys.procs_become_self]
      exact .inl ⟨rfl, h⟩
  | hitRejected hscan hprog hk hr hp hrejects =>
      rw [Sys.procs_become_self]
      exact .inl ⟨rfl, trivial⟩
  | miss hscan hprog hk hr =>
      rw [hprog] at h
      rw [Sys.procs_become_self]
      exact .inl ⟨rfl, h⟩
  | abort hdone =>
      rw [Sys.procs_become_self]
      exact .inl ⟨rfl, trivial⟩
  | insert hscan hprog | insertRejected hscan hprog | delete hscan hprog
  | deleteNothing hscan hprog =>
      rw [hprog] at h
      exact h.elim

/-! ### Steps and runs

The calls keep their contracts in every state of a run, so a commit is known to be a `Switched`, and
the table is known to be valid. -/

/-- A step that leaves the committed rows. -/
lemma UpdateHistory.quiet (h : UpdateHistory calls rows history sys)
    (hmoved : Moved modelSchema sys i a sys') (hrows : sys'.db.rows = sys.db.rows)
    (hphase : Phase calls rows history i (sys'.procs i)) :
    UpdateHistory calls rows history sys' := by
  refine ⟨hrows.trans h.rows_eq, h.nodup, h.decided, h.valid, fun j => ?_⟩
  by_cases hj : j = i
  · rwa [hj]
  · rw [Sys.procs_of_moved hmoved hj]
    exact h.phase j

lemma UpdateHistory.commit (h : UpdateHistory calls rows history sys)
    (hmoved : Moved modelSchema sys i a sys') (hvalid : Valid modelSchema sys'.db.rows)
    {updated : ModelRow} (hnew : i ∉ history.map Prod.fst)
    (hdecided : DecidedOn calls rows history i model)
    (hcommits : (calls i).Commits model updated sys.db.rows sys'.db.rows)
    (hprog : (sys'.procs i).prog = .done ((calls i).present updated)) :
    UpdateHistory calls rows (history ++ [(i, model)]) sys' := by
  have hreplay : sys'.db.rows = replay calls rows (history ++ [(i, model)]) := by
    rw [hcommits.eq_applied hvalid, h.rows_eq, replay_append]
    rfl
  refine ⟨hreplay, ?_, fun past k model' rest hhistory => ?_, fun past hpast => ?_, fun j => ?_⟩
  · rw [List.map_append, List.nodup_append]
    refine ⟨h.nodup, List.nodup_singleton _, ?_⟩
    rintro j hj j' hj' rfl
    cases List.mem_singleton.mp hj'
    exact hnew hj
  · rcases List.eq_nil_or_concat rest with rfl | ⟨rest, last, rfl⟩
    · obtain ⟨rfl, hentry⟩ := List.append_inj' hhistory rfl
      cases hentry
      exact hdecided
    · rw [List.concat_eq_append, ← List.cons_append, ← List.append_assoc] at hhistory
      exact h.decided past k model' rest (List.append_inj' hhistory rfl).1
  · rcases List.prefix_concat_iff.mp hpast with rfl | hpast
    · rwa [← hreplay]
    · exact h.valid past hpast
  · by_cases hj : j = i
    · subst hj
      exact .Committed rfl (hreplay ▸ hcommits.returned) hprog
    · rw [Sys.procs_of_moved hmoved hj]
      exact (h.phase j).append hj model

/-- The service reads the row, and decides. -/
lemma Phase.afterFind {p : Proc ModelRow ModelStatement ModelReply}
    (hnew : i ∉ history.map Prod.fst)
    (hprog : p.prog = (calls i).afterFind (replay calls rows history (calls i).id)) :
    Phase calls rows history i p := by
  cases hmodel : replay calls rows history (calls i).id with
  | none =>
      rw [hmodel] at hprog
      exact .Missing hnew (replay_eq_none.mp hmodel) hprog
  | some model =>
      rw [hmodel, UpdateCall.afterFind] at hprog
      cases hassert : assertTransition model (calls i).input with
      | some message =>
          rw [hassert] at hprog
          exact .Refused hnew hprog
      | none =>
          rw [hassert] at hprog
          refine .Checked hnew ⟨history, List.prefix_rfl, hmodel, hassert⟩ ?_
          rw [hprog]
          exact inTransaction_transaction _ _

/-- **Step lemma.**  Only a commit changes the table, and it is the atomic update of its call.
Every other step moves one call on and leaves the history as it is. -/
theorem UpdateHistory.step (h : UpdateHistory calls rows history sys)
    (hsecure : Secure modelSchema (fun _ => True)
      (fun i => modelsContract (.Update (calls i))) sys)
    (henforced : Enforced modelSchema sys') (hmoved : Moved modelSchema sys i a sys') :
    ∃ history', UpdateHistory calls rows history' sys' := by
  have hphase := h.phase i
  generalize hp : sys.procs i = p at hphase
  cases hphase with
  | Reading hnew hprog hwrites =>
      refine ⟨history, ?_⟩
      subst hp
      cases hmoved with
      | read hscan hprog' =>
          rw [hprog] at hprog'
          cases hprog'
          refine h.quiet (.read hscan hprog) rfl (.afterFind hnew ?_)
          rw [Sys.procs_become_self, Sys.view, hwrites, Db.apply_nothing, ← h.rows_eq]
      | abort hdone =>
          refine h.quiet (.abort hdone) rfl (.Failed hnew ?_)
          rw [Sys.procs_become_self]
          rfl
      | insert hscan hprog' | insertRejected hscan hprog' | updateStart hscan hprog'
      | updateEnd hscan hprog' | delete hscan hprog' | deleteNothing hscan hprog'
      | commit hscan hprog' | rollback hscan hprog' | hit hscan hprog' | hitRejected hscan hprog'
      | miss hscan hprog' =>
          rw [hprog] at hprog'
          cases hprog'
  | Checked hnew hdecided hprog =>
      subst hp
      rcases hprog.moved hmoved with ⟨hrows, hprog'⟩ | ⟨updated, hscan, hcommit, hdb, hdone⟩
      · exact ⟨history, h.quiet hmoved hrows (.Checked hnew hdecided hprog')⟩
      · obtain ⟨model', updated', hlabel, hcommits⟩ := hsecure.guar hscan hcommit
        cases hlabel
        rw [← hdb] at hcommits
        exact ⟨_, h.commit hmoved henforced.committed hnew hdecided hcommits hdone⟩
  | Committed _ _ hprog | Refused _ hprog | Missing _ _ hprog =>
      subst hp
      cases hmoved with
      | abort hdone => exact absurd hprog (hdone _)
      | _ hscan hprog' =>
          rw [hprog] at hprog'
          cases hprog'
  | Failed hnew hprog =>
      refine ⟨history, ?_⟩
      subst hp
      cases hmoved with
      | abort hdone =>
          refine h.quiet (.abort hdone) rfl (.Failed hnew ?_)
          rw [Sys.procs_become_self]
          rfl
      | _ hscan hprog' =>
          rw [hprog] at hprog'
          cases hprog'

/-- **Every run has a history.** -/
theorem exists_updateHistory {table : ModelTable} {acts : List (Fin n × Action)}
    (hrun : (modelsSystem table fun i => .Update (calls i)).run modelSchema acts = some sys) :
    ∃ history, UpdateHistory calls table.db.rows history sys := by
  have hstart : (modelsSystem table fun i => .Update (calls i)).run modelSchema []
      = some (modelsSystem table fun i => .Update (calls i)) := rfl
  refine ((secure_modelsSystem hstart).run_induct (admissible_models _ _ _) hrun
    (Q := fun mid => Enforced modelSchema mid
      ∧ ∃ history, UpdateHistory calls table.db.rows history mid) ?_ ?_).2.2
  · refine ⟨enforced_modelsSystem hstart, [], rfl, List.nodup_nil, ?_, ?_, ?_⟩
    · intro past i model rest hhistory
      simp at hhistory
    · intro past hpast
      rw [List.prefix_nil.mp hpast]
      exact table.valid
    · exact fun i => .Reading List.not_mem_nil rfl rfl
  · rintro mid i a mid' hsecure - hmoved ⟨henforced, history, hhistory⟩
    have henforced' := henforced.step modelSchema_lawful hmoved
    exact ⟨henforced', hhistory.step hsecure henforced' hmoved⟩

end Steps

end RagStack
