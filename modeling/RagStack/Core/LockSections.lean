import Mathlib.Data.Finset.Card
import RagStack.Core.LeaseStore
import RagStack.Core.Runs

/-!
# Work under leases

Any number of parties take leases, work and release their leases, in any interleaving.  A party
that works only between taking its keys and releasing them works alone, as long as no lease runs
out under it.

The parties are scripts, and a script says nothing of how a party came to its steps.  So the
theorems serve any program that can be shown to take and to release as the discipline asks, however
it decides what to do.  What the discipline does not ask is that the keys be taken in some order, or
all of them at once; two parties may block each other, and then the work stands still, which the
theorems allow.

That a party is alone at work is the first half.  The second is that its work is not divided: under
one key, the log is the whole work of one party, then that of the next, and only the last party may
have some left.  A key that runs out under its holder would break both, and whether it can is a
question about time which this file leaves to the condition on the steps.

* `LockStep`, `WorksUnder` — what a party does, and the discipline of one party.
* `sectionStep` — one step of the system; `LeasesLast` is the condition on the steps.
* `HoldsKeys` — the invariant: whoever has work left holds what it has taken.
* `OneByOne` — a log of the whole work of one party after the other, the last perhaps unfinished.
* `SectionInvariant.card_atWork_le`, `SectionInvariant.oneByOne` — there are no more parties at work
  than keys, and the work under a key is done one by one.
-/

namespace RagStack

/-- What a party does, as far as its leases are concerned. -/
inductive LockStep (κ β : Type*) where
  /-- `setIfAbsent`, when it is answered with the key. -/
  | Take (key : κ)
  | Release (key : κ)
  | Work (work : β)
  deriving Repr, DecidableEq

/-- Some work is among the steps. -/
def HasWork {κ β : Type*} (steps : List (LockStep κ β)) : Prop := ∃ work, .Work work ∈ steps

/-- The work among the steps, without the steps that take, renew and release keys. -/
def workOf {κ β : Type*} (steps : List (LockStep κ β)) : List β :=
  steps.filterMap fun
    | .Work work => some work
    | _ => none

/-- **The discipline.**  Before any work every key was taken and none was released. -/
def WorksUnder {κ β : Type*} (keys : List κ) (script : List (LockStep κ β)) : Prop :=
  ∀ done work left, script = done ++ .Work work :: left →
    ∀ key ∈ keys, .Take key ∈ done ∧ .Release key ∉ done

/-- The leases, what each party has done and has left to do, and all work in its order. -/
structure SectionSystem (ι κ β : Type*) where
  store : LeaseStore κ ι
  done : ι → List (LockStep κ β)
  left : ι → List (LockStep κ β)
  log : List (ι × β)

inductive SectionAction (ι κ : Type*) where
  /-- The next step of a party. -/
  | Next (party : ι)
  | Expire (key : κ)
  deriving Repr, DecidableEq

variable {ι κ β : Type*}

/-- Nothing is taken and nothing was done. -/
def SectionSystem.initial (script : ι → List (LockStep κ β)) : SectionSystem ι κ β :=
  ⟨fun _ => none, fun _ => [], script, []⟩

/-- The party has worked and is not through with it: some of its work is done and some is left. -/
def SectionSystem.AtWork (s : SectionSystem ι κ β) (i : ι) : Prop :=
  HasWork (s.done i) ∧ HasWork (s.left i)

/-- A key runs out only when its holder has no work left.  This is the condition on the environment,
and it concerns one kind of step. -/
def LeasesLast [DecidableEq ι] (s : SectionSystem ι κ β) : SectionAction ι κ → Prop
  | .Next _ => True
  | .Expire key => ∀ i, s.store.Holds key i → ¬ HasWork (s.left i)

section Step

variable [DecidableEq ι] [DecidableEq κ] (ttlMs : ℤ)

/-- The party has gone on by `step`. -/
def SectionSystem.advance (s : SectionSystem ι κ β) (i : ι) (step : LockStep κ β)
    (rest : List (LockStep κ β)) : SectionSystem ι κ β :=
  { s with
    done := Function.update s.done i (s.done i ++ [step])
    left := Function.update s.left i rest }

/-- One step: a party takes a key that is free, releases one that is its own, or works. -/
def sectionStep (s : SectionSystem ι κ β) : SectionAction ι κ → Option (SectionSystem ι κ β)
  | .Next i =>
      match s.left i with
      | [] => none
      | .Take key :: rest =>
          match s.store.setIfAbsent key i ttlMs with
          | some (true, store) => some { s.advance i (.Take key) rest with store }
          | _ => none
      | .Release key :: rest =>
          some { s.advance i (.Release key) rest with
            store := (s.store.deleteIfMatches key i).2 }
      | .Work work :: rest =>
          some { s.advance i (.Work work) rest with log := s.log ++ [(i, work)] }
  | .Expire key => some { s with store := s.store.expire key }

end Step

/-! ## Steps and scripts

What a party has done and what it has left are a script cut in two, and the discipline says of every
cut what was taken and not yet released. -/

@[simp] lemma workOf_append (front back : List (LockStep κ β)) :
    workOf (front ++ back) = workOf front ++ workOf back := List.filterMap_append

lemma workOf_eq_nil {steps : List (LockStep κ β)} (h : ¬ HasWork steps) : workOf steps = [] := by
  refine List.filterMap_eq_nil_iff.mpr fun step hstep => ?_
  cases step with
  | Work work => exact absurd ⟨work, hstep⟩ h
  | _ => rfl

lemma HasWork.of_cons {step : LockStep κ β} {steps : List (LockStep κ β)} (h : HasWork steps) :
    HasWork (step :: steps) := by
  obtain ⟨work, hwork⟩ := h
  exact ⟨work, List.mem_cons_of_mem _ hwork⟩

/-- Whoever has worked has taken all of its keys. -/
lemma WorksUnder.take_mem {keys : List κ} {done left : List (LockStep κ β)}
    (h : WorksUnder keys (done ++ left)) (hdone : HasWork done) {key : κ} (hkey : key ∈ keys) :
    .Take key ∈ done := by
  obtain ⟨work, hwork⟩ := hdone
  obtain ⟨before, after, rfl⟩ := List.append_of_mem hwork
  have htaken := h before work (after ++ left) (by simp) key hkey
  exact List.mem_append_left _ htaken.1

/-- Whoever has work left has released none of its keys. -/
lemma WorksUnder.release_notMem {keys : List κ} {done left : List (LockStep κ β)}
    (h : WorksUnder keys (done ++ left)) (hleft : HasWork left) {key : κ} (hkey : key ∈ keys) :
    .Release key ∉ done := by
  obtain ⟨work, hwork⟩ := hleft
  obtain ⟨before, after, rfl⟩ := List.append_of_mem hwork
  have hkept := h (done ++ before) work after (by simp) key hkey
  exact fun hmem => hkept.2 (List.mem_append_left _ hmem)

/-- Whoever takes its keys first, works next and releases them last keeps the discipline. -/
lemma WorksUnder.of_sections {keys : List κ} {opening work closing : List (LockStep κ β)}
    (hopening : ¬ HasWork opening) (hclosing : ¬ HasWork closing)
    (htaken : HasWork work → ∀ key ∈ keys, .Take key ∈ opening)
    (hkept : ∀ key ∈ keys, .Release key ∉ opening ++ work) :
    WorksUnder keys (opening ++ (work ++ closing)) := by
  intro done w left hscript key hkey
  rcases append_eq_append_cons hscript with ⟨rest, rfl, -⟩ | ⟨rest, rfl, hlater⟩
  · exact absurd ⟨w, by simp⟩ hopening
  rcases append_eq_append_cons hlater with ⟨rest', rfl, -⟩ | ⟨rest', -, rfl⟩
  · refine ⟨List.mem_append_left _ (htaken ⟨w, by simp⟩ key hkey), fun hmem => ?_⟩
    refine hkept key hkey ?_
    rcases List.mem_append.mp hmem with hmem | hmem
    · exact List.mem_append_left _ hmem
    · exact List.mem_append_right _ (List.mem_append_left _ hmem)
  · exact absurd ⟨w, by simp⟩ hclosing

/-- What one step does to the system. -/
inductive SectionMoves [DecidableEq ι] [DecidableEq κ] (ttlMs : ℤ) (s : SectionSystem ι κ β) :
    SectionAction ι κ → SectionSystem ι κ β → Prop where
  | taken {i : ι} {key : κ} {rest : List (LockStep κ β)} {store : LeaseStore κ ι}
      (hleft : s.left i = .Take key :: rest)
      (hstore : s.store.setIfAbsent key i ttlMs = some (true, store)) :
      SectionMoves ttlMs s (.Next i) { s.advance i (.Take key) rest with store }
  | released {i : ι} {key : κ} {rest : List (LockStep κ β)}
      (hleft : s.left i = .Release key :: rest) :
      SectionMoves ttlMs s (.Next i)
        { s.advance i (.Release key) rest with store := (s.store.deleteIfMatches key i).2 }
  | worked {i : ι} {work : β} {rest : List (LockStep κ β)} (hleft : s.left i = .Work work :: rest) :
      SectionMoves ttlMs s (.Next i)
        { s.advance i (.Work work) rest with log := s.log ++ [(i, work)] }
  | expired {key : κ} :
      SectionMoves ttlMs s (.Expire key) { s with store := s.store.expire key }

section Invariant

variable [DecidableEq ι] {s s' : SectionSystem ι κ β} {action : SectionAction ι κ}
  {script : ι → List (LockStep κ β)} {keys : ι → List κ}

@[simp] lemma advance_done (i j : ι) (step : LockStep κ β) (rest : List (LockStep κ β)) :
    (s.advance i step rest).done j = if j = i then s.done i ++ [step] else s.done j := by
  simp only [SectionSystem.advance, Function.update_apply]

@[simp] lemma advance_left (i j : ι) (step : LockStep κ β) (rest : List (LockStep κ β)) :
    (s.advance i step rest).left j = if j = i then rest else s.left j := by
  simp only [SectionSystem.advance, Function.update_apply]

/-- Every party is somewhere in its script. -/
def FollowsScript (script : ι → List (LockStep κ β)) (s : SectionSystem ι κ β) : Prop :=
  ∀ i, s.done i ++ s.left i = script i

lemma hasDone_advance {j : ι} (i : ι) (step : LockStep κ β) (rest : List (LockStep κ β))
    (h : HasWork (s.done j)) : HasWork ((s.advance i step rest).done j) := by
  obtain ⟨work, hwork⟩ := h
  rw [advance_done]
  split
  · rename_i heq
    exact ⟨work, List.mem_append_left _ (heq ▸ hwork)⟩
  · exact ⟨work, hwork⟩

lemma hasLeft_of_advance {i j : ι} {step : LockStep κ β} {rest : List (LockStep κ β)}
    (hleft : s.left i = step :: rest) (h : HasWork ((s.advance i step rest).left j)) :
    HasWork (s.left j) := by
  rw [advance_left] at h
  split at h
  · rename_i heq
    rw [heq, hleft]
    exact h.of_cons
  · exact h

lemma FollowsScript.advance {i : ι} {step : LockStep κ β} {rest : List (LockStep κ β)}
    (h : FollowsScript script s) (hleft : s.left i = step :: rest) :
    FollowsScript script (s.advance i step rest) := by
  intro j
  rw [advance_done, advance_left]
  by_cases hj : j = i
  · rw [if_pos hj, if_pos hj, hj, List.append_assoc, List.singleton_append, ← hleft]
    exact h i
  · rw [if_neg hj, if_neg hj]
    exact h j

/-- **Whoever has work left holds what it has taken.** -/
def HoldsKeys (keys : ι → List κ) (s : SectionSystem ι κ β) : Prop :=
  ∀ i, HasWork (s.left i) → ∀ key ∈ keys i, .Take key ∈ s.done i → s.store.Holds key i

/-- What a party holds survives a step of the store that is not its own. -/
lemma HoldsKeys.advance {i : ι} {step : LockStep κ β} {rest : List (LockStep κ β)}
    {store : LeaseStore κ ι} {log : List (ι × β)} (h : HoldsKeys keys s)
    (hleft : s.left i = step :: rest)
    (hothers : ∀ j key, j ≠ i → s.store.Holds key j → store.Holds key j)
    (hself : HasWork rest → ∀ key ∈ keys i, .Take key ∈ s.done i ∨ step = .Take key →
      (.Take key ∈ s.done i → s.store.Holds key i) → store.Holds key i) :
    HoldsKeys keys { s.advance i step rest with store, log } := by
  intro j hwork key hkey htaken
  simp only [advance_done, advance_left] at hwork htaken
  by_cases hj : j = i
  · subst hj
    rw [if_pos rfl] at hwork htaken
    refine hself hwork key hkey ?_ (h j (by rw [hleft]; exact hwork.of_cons) key hkey)
    rcases List.mem_append.mp htaken with htaken | htaken
    · exact .inl htaken
    · exact .inr (List.mem_singleton.mp htaken).symm
  · rw [if_neg hj] at hwork htaken
    exact hothers j key hj (h j hwork key hkey htaken)

omit [DecidableEq ι] in
/-- Whoever is at work holds all of its keys. -/
lemma HoldsKeys.holds_of_atWork (h : HoldsKeys keys s) (hscript : FollowsScript script s)
    (hdiscipline : ∀ i, WorksUnder (keys i) (script i)) {i : ι} (hwork : s.AtWork i) {key : κ}
    (hkey : key ∈ keys i) : s.store.Holds key i := by
  have hfollows : WorksUnder (keys i) (s.done i ++ s.left i) := by
    rw [hscript i]
    exact hdiscipline i
  exact h i hwork.2 key hkey (hfollows.take_mem hwork.1 hkey)

variable [DecidableEq κ] {ttlMs : ℤ}

lemma sectionStep_moves (h : sectionStep ttlMs s action = some s') :
    SectionMoves ttlMs s action s' := by
  cases action with
  | Expire key =>
      cases h
      exact .expired
  | Next i =>
      simp only [sectionStep] at h
      cases hleft : s.left i with
      | nil =>
          rw [hleft] at h
          cases h
      | cons step rest =>
          rw [hleft] at h
          cases step with
          | Take key =>
              simp only at h
              split at h
              · rename_i store hstore
                cases h
                exact .taken hleft hstore
              · cases h
          | Release key =>
              cases h
              exact .released hleft
          | Work work =>
              cases h
              exact .worked hleft

lemma FollowsScript.moves (h : FollowsScript script s) (hmoves : SectionMoves ttlMs s action s') :
    FollowsScript script s' := by
  cases hmoves with
  | taken hleft hstore => exact h.advance hleft
  | released hleft => exact h.advance hleft
  | worked hleft => exact h.advance hleft
  | expired => exact h

lemma HoldsKeys.moves (h : HoldsKeys keys s) (hscript : FollowsScript script s)
    (hdiscipline : ∀ i, WorksUnder (keys i) (script i)) (hlast : LeasesLast s action)
    (hmoves : SectionMoves ttlMs s action s') : HoldsKeys keys s' := by
  cases hmoves with
  | @taken i key rest store hleft hstore =>
      have hkept : ∀ j key', s.store.Holds key' j → store.Holds key' j := by
        intro j key' hholds
        obtain ⟨lease, hlease, hvalue⟩ := Option.map_eq_some_iff.mp hholds
        exact Option.map_eq_some_iff.mpr
          ⟨lease, LeaseStore.setIfAbsent_apply_of_some hstore hlease, hvalue⟩
      refine h.advance hleft (fun j key' _ => hkept j key') ?_
      intro _ key' _ htaken hheld
      rcases htaken with htaken | htaken
      · exact hkept i key' (hheld htaken)
      · cases htaken
        rw [LeaseStore.Holds, LeaseStore.setIfAbsent_apply_self hstore]
        rfl
  | @released i key rest hleft =>
      have hkept : ∀ j key', (j = i → key' ≠ key) → s.store.Holds key' j →
          (s.store.deleteIfMatches key i).2.Holds key' j := by
        intro j key' hne hholds
        simp only [LeaseStore.deleteIfMatches]
        split
        · rename_i hown
          have hkey : key' ≠ key := by
            rintro rfl
            exact hne (hholds.unique hown) rfl
          exact LeaseStore.holds_expire_of_ne hkey hholds
        · exact hholds
      refine h.advance hleft (fun j key' hj => hkept j key' fun heq => absurd heq hj) ?_
      intro hwork key' hkey' htaken hheld
      have htaken' : .Take key' ∈ s.done i := htaken.resolve_right (by simp)
      refine hkept i key' (fun _ heq => ?_) (hheld htaken')
      -- the release would stand before the work that is left
      have hfollows : WorksUnder (keys i) (s.done i ++ [.Release key] ++ rest) := by
        rw [List.append_assoc, List.singleton_append, ← hleft, hscript i]
        exact hdiscipline i
      exact hfollows.release_notMem hwork hkey' (by rw [heq]; simp)
  | @worked i work rest hleft =>
      refine h.advance hleft (fun j key' _ hholds => hholds) ?_
      exact fun _ key' _ htaken hheld => hheld (htaken.resolve_right (by simp))
  | @expired key =>
      intro i hwork key' hkey' htaken
      have hholds := h i hwork key' hkey' htaken
      have hne : key' ≠ key := by
        rintro rfl
        exact hlast i hholds hwork
      exact LeaseStore.holds_expire_of_ne hne hholds

end Invariant

/-! ## The work of one party after the other

The log is filtered by party.  It is serial if it is the concatenation of these filters, in some
order of the parties, and the induction shows that a step either prolongs the last of them or begins
a new one. -/

section Serial

variable [DecidableEq ι] {s s' : SectionSystem ι κ β}

/-- The log consists of the whole work of each party of `order`, in this order. -/
def SerialIn (order : List ι) (log : List (ι × β)) : Prop :=
  order.Nodup ∧ log = order.flatMap fun i => log.filter (·.1 = i)

lemma SerialIn.mem_order {order : List ι} {log : List (ι × β)} (h : SerialIn order log) {i : ι}
    {work : β} (hmem : (i, work) ∈ log) : i ∈ order := by
  rw [h.2] at hmem
  obtain ⟨j, hj, hwork⟩ := List.mem_flatMap.mp hmem
  have hi : i = j := of_decide_eq_true (List.mem_filter.mp hwork).2
  exact hi ▸ hj

/-- The work of the others is not touched by more work of `i`. -/
lemma flatMap_filter_concat {order : List ι} {log : List (ι × β)} {i : ι} {work : β}
    (hi : i ∉ order) :
    (order.flatMap fun j => (log ++ [(i, work)]).filter (·.1 = j))
      = order.flatMap fun j => log.filter (·.1 = j) := by
  refine List.flatMap_congr fun j hj => ?_
  have hne : i ≠ j := fun heq => hi (heq ▸ hj)
  rw [List.filter_append]
  simp [hne]

/-- A party that has not worked yet comes last. -/
lemma SerialIn.concat_new {order : List ι} {log : List (ι × β)} (h : SerialIn order log) {i : ι}
    (work : β) (hi : i ∉ order) : SerialIn (order ++ [i]) (log ++ [(i, work)]) := by
  have hnone : log.filter (·.1 = i) = [] := by
    refine List.filter_eq_nil_iff.mpr ?_
    rintro ⟨j, work'⟩ hmem hj
    exact hi (of_decide_eq_true hj ▸ h.mem_order hmem)
  refine ⟨List.nodup_append.mpr ⟨h.1, List.nodup_singleton i, ?_⟩, ?_⟩
  · intro j hj k hk heq
    exact hi (List.mem_singleton.mp hk ▸ heq ▸ hj)
  · rw [List.flatMap_append, flatMap_filter_concat hi, ← h.2, List.flatMap_singleton,
      List.filter_append, hnone]
    simp

/-- The party that has worked last goes on. -/
lemma SerialIn.concat_last {order : List ι} {log : List (ι × β)} {i : ι}
    (h : SerialIn (order ++ [i]) log) (work : β) :
    SerialIn (order ++ [i]) (log ++ [(i, work)]) := by
  have hi : i ∉ order := by
    intro hmem
    exact (List.nodup_append.mp h.1).2.2 i hmem i (List.mem_singleton.mpr rfl) rfl
  have hlog := h.2
  rw [List.flatMap_append, List.flatMap_singleton] at hlog
  refine ⟨h.1, ?_⟩
  rw [List.flatMap_append, flatMap_filter_concat hi, List.flatMap_singleton, List.filter_append,
    ← List.append_assoc, ← hlog]
  simp

/-- The log of a party is the work it has done. -/
def LogFollows (s : SectionSystem ι κ β) : Prop :=
  ∀ i, s.log.filter (·.1 = i) = (workOf (s.done i)).map (Prod.mk i)

lemma LogFollows.advance {log : List (ι × β)} (h : LogFollows s) (i : ι) (step : LockStep κ β)
    (rest : List (LockStep κ β)) (store : LeaseStore κ ι)
    (hlog : log = s.log ++ (workOf [step]).map (Prod.mk i)) :
    LogFollows { s.advance i step rest with store, log } := by
  intro j
  show log.filter (·.1 = j) = (workOf ((s.advance i step rest).done j)).map (Prod.mk j)
  rw [advance_done, hlog, List.filter_append, h j]
  by_cases hj : j = i
  · subst hj
    rw [if_pos rfl, workOf_append, List.map_append, List.filter_eq_self.mpr]
    simp
  · rw [if_neg hj, List.filter_eq_nil_iff.mpr, List.append_nil]
    simp [Ne.symm hj]

variable [DecidableEq κ] {ttlMs : ℤ} {action : SectionAction ι κ}
  {script : ι → List (LockStep κ β)} {keys : ι → List κ} {key : κ}

/-- The work under `key`. -/
def workUnder (keys : ι → List κ) (key : κ) (log : List (ι × β)) : List (ι × β) :=
  log.filter fun entry => key ∈ keys entry.1

/-- Under `key` the work is serial, and only the party that comes last may have some left. -/
def SerialUnder (keys : ι → List κ) (key : κ) (s : SectionSystem ι κ β) : Prop :=
  ∃ order, SerialIn order (workUnder keys key s.log)
    ∧ (∀ i ∈ order, key ∈ keys i ∧ HasWork (s.done i))
    ∧ ∀ i ∈ order.dropLast, ¬ HasWork (s.left i)

/-- A step that logs nothing gives nobody work. -/
lemma SerialUnder.advance {i : ι} {step : LockStep κ β} {rest : List (LockStep κ β)}
    {store : LeaseStore κ ι} (h : SerialUnder keys key s) (hleft : s.left i = step :: rest) :
    SerialUnder keys key { s.advance i step rest with store } := by
  obtain ⟨order, hserial, hdone, hover⟩ := h
  exact ⟨order, hserial, fun j hj => ⟨(hdone j hj).1, hasDone_advance i step rest (hdone j hj).2⟩,
    fun j hj hwork => hover j hj (hasLeft_of_advance hleft hwork)⟩

/-- Work under `key` continues that of the last party or begins that of a new one. -/
lemma SerialUnder.worked {i : ι} {work : β} {rest : List (LockStep κ β)}
    (h : SerialUnder keys key s) (hleft : s.left i = .Work work :: rest)
    (hlone : key ∈ keys i → ∀ j, s.AtWork j → key ∈ keys j → j = i) :
    SerialUnder keys key { s.advance i (.Work work) rest with log := s.log ++ [(i, work)] } := by
  obtain ⟨order, hserial, hdone, hover⟩ := h
  have hhas : HasWork (s.left i) := ⟨work, by rw [hleft]; exact List.mem_cons_self⟩
  have hnow : HasWork ((s.advance i (.Work work) rest).done i) := by
    rw [advance_done, if_pos rfl]
    exact ⟨work, by simp⟩
  have hdone' : ∀ j ∈ order, key ∈ keys j ∧ HasWork ((s.advance i (.Work work) rest).done j) :=
    fun j hj => ⟨(hdone j hj).1, hasDone_advance _ _ _ (hdone j hj).2⟩
  have hover' : ∀ j, ¬ HasWork (s.left j) → ¬ HasWork ((s.advance i (.Work work) rest).left j) :=
    fun j hnot hwork => hnot (hasLeft_of_advance hleft hwork)
  by_cases hkey : key ∈ keys i
  · have hlog : workUnder keys key (s.log ++ [(i, work)])
        = workUnder keys key s.log ++ [(i, work)] := by
      simp [workUnder, List.filter_append, hkey]
    have hmore : ∀ j ∈ order ++ [i], key ∈ keys j
        ∧ HasWork ((s.advance i (.Work work) rest).done j) := by
      intro j hj
      rcases List.mem_append.mp hj with hj | hj
      · exact hdone' j hj
      · rw [List.mem_singleton.mp hj]
        exact ⟨hkey, hnow⟩
    have hnotOver : i ∉ order.dropLast := fun hmem => hover i hmem hhas
    rcases List.eq_nil_or_concat' order with rfl | ⟨front, last, rfl⟩
    · exact ⟨[i], hlog ▸ hserial.concat_new work (List.not_mem_nil), hmore, by simp⟩
    · rw [List.dropLast_concat] at hover hnotOver
      by_cases hlast : last = i
      · subst hlast
        refine ⟨front ++ [last], hlog ▸ hserial.concat_last work, hdone', fun j hj => ?_⟩
        rw [List.dropLast_concat] at hj
        exact hover' j (hover j hj)
      · -- the party before this one is through with its work
        have hthrough : ¬ HasWork (s.left last) := by
          intro hwork
          have hatWork : s.AtWork last := ⟨(hdone last (by simp)).2, hwork⟩
          exact hlast (hlone hkey last hatWork (hdone last (by simp)).1)
        have hnew : i ∉ front ++ [last] := by
          simp only [List.mem_append, List.mem_singleton, not_or]
          exact ⟨hnotOver, fun heq => hlast heq.symm⟩
        refine ⟨front ++ [last] ++ [i], hlog ▸ hserial.concat_new work hnew, hmore, fun j hj => ?_⟩
        rw [List.dropLast_concat] at hj
        rcases List.mem_append.mp hj with hj | hj
        · exact hover' j (hover j hj)
        · rw [List.mem_singleton.mp hj]
          exact hover' last hthrough
  · have hlog : workUnder keys key (s.log ++ [(i, work)]) = workUnder keys key s.log := by
      simp [workUnder, List.filter_append, hkey]
    exact ⟨order, hlog ▸ hserial, hdone', fun j hj => hover' j (hover j hj)⟩

lemma LogFollows.moves (h : LogFollows s) (hmoves : SectionMoves ttlMs s action s') :
    LogFollows s' := by
  cases hmoves with
  | taken hleft hstore => exact h.advance _ _ _ _ (List.append_nil _).symm
  | released hleft => exact h.advance _ _ _ _ (List.append_nil _).symm
  | worked hleft => exact h.advance _ _ _ _ rfl
  | expired => exact h

/-- **One by one.**  The log is the work of the parties of `order` in this order; every party but
the last has done the whole of it. -/
structure OneByOne (work : ι → List β) (order : List ι) (log : List (ι × β)) : Prop where
  nodup : order.Nodup
  serial : log = order.flatMap fun i => log.filter (·.1 = i)
  begun : ∀ i ∈ order, log.filter (·.1 = i) <+: (work i).map (Prod.mk i)
  whole : ∀ i ∈ order.dropLast, log.filter (·.1 = i) = (work i).map (Prod.mk i)

/-! ## Every run

The invariant has four parts.  The first two are about what parties hold, the third about the log
under each key, and the last says that the log is what was done. -/

/-- What holds in every state. -/
structure SectionInvariant (script : ι → List (LockStep κ β)) (keys : ι → List κ)
    (s : SectionSystem ι κ β) : Prop where
  follows : FollowsScript script s
  holds : HoldsKeys keys s
  serial : ∀ key, SerialUnder keys key s
  logged : LogFollows s

/-- **Nobody else is at work under a key.** -/
lemma SectionInvariant.atWork_unique (h : SectionInvariant script keys s)
    (hdiscipline : ∀ i, WorksUnder (keys i) (script i)) {i j : ι} (hi : s.AtWork i)
    (hj : s.AtWork j) (hkeyi : key ∈ keys i) (hkeyj : key ∈ keys j) : i = j :=
  (h.holds.holds_of_atWork h.follows hdiscipline hi hkeyi).unique
    (h.holds.holds_of_atWork h.follows hdiscipline hj hkeyj)

lemma SectionInvariant.moves (h : SectionInvariant script keys s)
    (hdiscipline : ∀ i, WorksUnder (keys i) (script i)) (hlast : LeasesLast s action)
    (hmoves : SectionMoves ttlMs s action s') : SectionInvariant script keys s' := by
  refine ⟨h.follows.moves hmoves, h.holds.moves h.follows hdiscipline hlast hmoves, fun key => ?_,
    h.logged.moves hmoves⟩
  cases hmoves with
  | taken hleft hstore => exact (h.serial key).advance hleft
  | released hleft => exact (h.serial key).advance hleft
  | @worked i work rest hleft =>
      refine (h.serial key).worked hleft fun hkey j hj hkeyj => ?_
      -- the next step of `i` is work, so it holds the key
      have hfollows : WorksUnder (keys i) (s.done i ++ s.left i) := by
        rw [h.follows i]
        exact hdiscipline i
      have hhas : HasWork (s.left i) := ⟨work, by rw [hleft]; exact List.mem_cons_self⟩
      have htaken := (hfollows (s.done i) work rest (by rw [hleft]) key hkey).1
      exact (h.holds.holds_of_atWork h.follows hdiscipline hj hkeyj).unique
        (h.holds i hhas key hkey htaken)
  | expired => exact h.serial key

/-- No lease runs out where only the parties move. -/
lemma leasesLast_of_next (s : SectionSystem ι κ β) {actions : List (SectionAction ι κ)}
    (h : ∀ action ∈ actions, ∃ i, action = .Next i) :
    RunMeets (sectionStep ttlMs) LeasesLast s actions := by
  induction actions generalizing s with
  | nil => trivial
  | cons action actions ih =>
      obtain ⟨i, rfl⟩ := h action List.mem_cons_self
      exact ⟨trivial, fun s' _ => ih s' fun action' hmem => h action' (List.mem_cons_of_mem _ hmem)⟩

/-- **Every state of a run in which no lease runs out under its holder.**  It is proved for any
number of parties and any scripts that keep the discipline. -/
theorem sectionInvariant_of_run (hdiscipline : ∀ i, WorksUnder (keys i) (script i))
    {actions : List (SectionAction ι κ)}
    (hrun : runSteps (sectionStep ttlMs) (.initial script) actions = some s)
    (hlast : RunMeets (sectionStep ttlMs) LeasesLast (.initial script) actions) :
    SectionInvariant script keys s := by
  refine runSteps_invariant_of_meets (P := SectionInvariant script keys) ?_ hlast hrun ?_
  · exact fun s action s' h hlast hstep => h.moves hdiscipline hlast (sectionStep_moves hstep)
  · refine ⟨fun i => rfl, fun i _ key _ htaken => absurd htaken List.not_mem_nil, fun key => ?_,
      fun i => rfl⟩
    exact ⟨[], ⟨List.nodup_nil, rfl⟩, by simp, by simp⟩

/-- There are no more parties at work than keys among which each of them has one. -/
lemma SectionInvariant.card_atWork_le (h : SectionInvariant script keys s)
    (hdiscipline : ∀ i, WorksUnder (keys i) (script i)) (pool : Finset κ) (parties : Finset ι)
    (hparties : ∀ i ∈ parties, s.AtWork i ∧ ∃ key ∈ pool, key ∈ keys i) :
    parties.card ≤ pool.card := by
  rcases parties.eq_empty_or_nonempty with rfl | ⟨someone, hsomeone⟩
  · exact Nat.zero_le _
  have : Nonempty κ := ⟨(hparties someone hsomeone).2.choose⟩
  choose! keyOf hkeyOf using fun i hi => (hparties i hi).2
  refine Finset.card_le_card_of_injOn keyOf (fun i hi => (hkeyOf i hi).1) ?_
  intro i hi j hj heq
  exact h.atWork_unique hdiscipline (hparties i hi).1 (hparties j hj).1 (hkeyOf i hi).2
    (heq ▸ (hkeyOf j hj).2)

/-- **The work under a key is done one by one.** -/
lemma SectionInvariant.oneByOne (h : SectionInvariant script keys s) (key : κ) :
    ∃ order, OneByOne (fun i => workOf (script i)) order (workUnder keys key s.log) := by
  obtain ⟨order, ⟨hnodup, hserial⟩, hdone, hover⟩ := h.serial key
  have hfilter : ∀ i ∈ order, (workUnder keys key s.log).filter (·.1 = i)
      = (workOf (s.done i)).map (Prod.mk i) := by
    intro i hi
    rw [← h.logged i, workUnder, List.filter_filter]
    refine List.filter_congr fun entry _ => ?_
    by_cases hentry : entry.1 = i
    · simp [hentry, (hdone i hi).1]
    · simp [hentry]
  have hscript : ∀ i, workOf (script i) = workOf (s.done i) ++ workOf (s.left i) := by
    intro i
    rw [← h.follows i, workOf_append]
  refine ⟨order, hnodup, hserial, fun i hi => ?_, fun i hi => ?_⟩
  · rw [hfilter i hi, hscript i, List.map_append]
    exact List.prefix_append _ _
  · rw [hfilter i (List.mem_of_mem_dropLast hi), hscript i, workOf_eq_nil (hover i hi),
      List.append_nil]

end Serial

end RagStack
