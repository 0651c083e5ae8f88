import RagStack.Admin.CleanSummary
import RagStack.Admin.SummaryChain

/-!
# What a stored summary may be

A text is checked with the chunk it was made of: it is not degenerate, has no label, and is no entry
of this chunk.  The next text replaces it.  So the text that is stored was compared with the entries
of the last chunk, and with no others.

The check is there because models repeat messages.  A summary that equals a message of the chat is
no summary, whichever message it is, and the specification speaks of all pending entries.  With one
chunk the two are the same.  With several chunks the model is given the text so far and the next
chunk, and if its last answer is a message from an earlier chunk, nothing notices.

The loop is looked at first, for any chunks and any answers.  If it gets to the upsert of a text,
this text was made of the last output and has passed the check with the last chunk, so it is as
specified exactly if it is no entry of the chunks before.  This is an equivalence, as everything
else in the specification is checked.

Then the same is shown for every row that is stored in the system of all calls.  Another invariant
is needed for it: the `try` block of a call has got to its `await` from its own pending entries by
the outputs of its own model calls.  Interleaving does no harm, because between the first read and
the upsert the loop uses nothing but what it has been given.

* `SpecifiedSummary` — what the text should be, with all pending entries in mind.
* `GenerateStores` — the loop over any chunks, with any answers, gets to the upsert of a text.
* `generateStores_iff` — such a text is as specified exactly if it is no entry of a chunk before the
  last.
* `SummarySystem.Generated` — the invariant: the `try` block of a call has got to its `await` with
  the outputs of its own model calls.
* `storedSummary_iff` — any loop, and every text that a call stores, in any interleaving.
-/

namespace RagStack

/-! ## The specification -/

/-- The text is a summary of the pending entries, and neither one of them nor a line of a
transcript. -/
structure SpecifiedSummary (pending : List ChatHistoryEntry) (content : JsString) : Prop where
  substantial : isDegenerateSummary content = false
  trimmed : content.trim = content
  untagged : ∀ tag, IsWrapperTag tag → ¬ tag <+: content ∧ ¬ tag <:+ content
  clean : cleanAdminSummary content = content
  unlabelled : startsWithSpeaker content = false
  original : ∀ entry ∈ pending, content ≠ entry.content.trim

/-- The checks after a model call: the text is as specified, for the entries of its chunk. -/
lemma specifiedSummary_of_checked {text : JsString} {chunk : List ChatHistoryEntry}
    (h : (isDegenerateSummary (cleanAdminSummary text)
      || isEchoedSummary (cleanAdminSummary text) chunk) = false) :
    SpecifiedSummary chunk (cleanAdminSummary text) := by
  rw [Bool.or_eq_false_iff, isEchoedSummary, trim_cleanAdminSummary, Bool.or_eq_false_iff] at h
  obtain ⟨hsubstantial, hunlabelled, hechoed⟩ := h
  refine ⟨hsubstantial, trim_cleanAdminSummary text, ?_, cleanAdminSummary_idem text, hunlabelled,
    ?_⟩
  · intro tag htag
    have huntagged := cleanAdminSummary_untagged text
    constructor
    · rintro ⟨rest, hrest⟩
      exact huntagged.front [] tag rest (by simp [IsGap]) htag hrest.symm
    · rintro ⟨rest, hrest⟩
      exact huntagged.back rest tag [] htag (by simp [IsGap]) (by simpa using hrest.symm)
  · intro entry hentry heq
    have hnot := List.any_eq_false.mp hechoed entry hentry
    simp [heq] at hnot

/-! ## The loop

The `try` block as a function of the answers to its `await`s. -/

/-- The `try` block from one `await` to the next, without its events. -/
def tryStep (settings : ContextSettings) : BodyNext → RefreshAnswer → Option BodyNext
  | .Await phase, answer => (bodyStep settings phase answer).map (·.1)
  | .Finish _, _ => none

/-- The outputs of the model among the answers, the last one at the end. -/
def modelOutputs (answers : List RefreshAnswer) : List OllamaCompletion :=
  answers.filterMap fun
    | .Completion result => some result
    | _ => none

/-- The loop over the chunks, with these answers to its `await`s, gets to the upsert of a text. -/
def GenerateStores (settings : ContextSettings) (model : Model)
    (chunks : List (List ChatHistoryEntry)) (answers : List RefreshAnswer) (content : JsString) :
    Prop :=
  ∃ lastEntry previous tokenCount tokenCount',
    runSteps (tryStep settings) (nextChunk settings model lastEntry previous tokenCount chunks).1
      answers = some (.Await (.Upserting model lastEntry content tokenCount'))

section Loop

variable {settings : ContextSettings} {model model' : Model}
  {lastEntry lastEntry' : ChatHistoryEntry} {content : JsString} {tokenCount : ℤ}

/-- The `try` block is behind its upsert, or at its end. -/
def BodyNext.IsOver : BodyNext → Prop
  | Await (.Rechecking _) | Await (.Reloading _) | Finish _ => True
  | _ => False

lemma tryStep_isOver {next next' : BodyNext} {answer : RefreshAnswer} (h : next.IsOver)
    (hstep : tryStep settings next answer = some next') : next'.IsOver := by
  cases next with
  | Finish outcome => cases hstep
  | Await phase =>
      cases phase with
      | Rechecking error =>
          cases answer <;> cases hstep
          all_goals trivial
      | Reloading saved =>
          cases answer with
          | Messages messages =>
              cases hstep
              obtain ⟨outcome, houtcome⟩ := afterReload_finish saved messages
              rw [houtcome]
              trivial
          | Error error =>
              cases hstep
              trivial
          | _ => cases hstep
      | _ => cases h

lemma not_upserting_of_isOver {next : BodyNext} {answers : List RefreshAnswer}
    (hrun : runSteps (tryStep settings) next answers
      = some (.Await (.Upserting model lastEntry content tokenCount))) (h : next.IsOver) : False :=
  runSteps_invariant (fun _ _ _ h hstep => tryStep_isOver h hstep) hrun h

/-- A round of the loop: the model answers, the usage is recorded, the text is kept. -/
lemma round_of_upserting {chunk : List ChatHistoryEntry} {chunks : List (List ChatHistoryEntry)}
    {previous : Option JsString} {answers : List RefreshAnswer}
    (hrun : runSteps (tryStep settings) (.Await (.Completing model lastEntry previous chunk chunks))
      answers = some (.Await (.Upserting model' lastEntry' content tokenCount))) :
    ∃ result rest tokenCount', answers = .Completion result :: .Recorded :: rest
      ∧ (isDegenerateSummary (cleanAdminSummary result.content)
        || isEchoedSummary (cleanAdminSummary result.content) chunk) = false
      ∧ runSteps (tryStep settings) (nextChunk settings model lastEntry
          (some (cleanAdminSummary result.content)) tokenCount' chunks).1 rest
        = some (.Await (.Upserting model' lastEntry' content tokenCount)) := by
  cases answers with
  | nil => cases hrun
  | cons answer answers =>
      obtain ⟨next, hstep, hrun⟩ := runSteps_cons_eq_some hrun
      cases answer with
      | Completion result =>
          cases hstep
          cases answers with
          | nil => cases hrun
          | cons answer answers =>
              obtain ⟨next, hstep, hrun⟩ := runSteps_cons_eq_some hrun
              cases answer with
              | Recorded =>
                  cases hstep
                  simp only [afterRecord] at hrun
                  split at hrun
                  · exact (not_upserting_of_isOver hrun trivial).elim
                  · rename_i hchecked
                    exact ⟨result, answers, _, rfl, Bool.eq_false_of_not_eq_true hchecked, hrun⟩
              | Error error =>
                  cases hstep
                  exact (not_upserting_of_isOver hrun trivial).elim
              | _ => cases hstep
      | Error error =>
          cases hstep
          exact (not_upserting_of_isOver hrun trivial).elim
      | _ => cases hstep

/-- Without chunks the text is what there was before. -/
lemma nil_of_upserting {previous : Option JsString} {before : ℤ} {answers : List RefreshAnswer}
    (hrun : runSteps (tryStep settings) (nextChunk settings model lastEntry previous before []).1
      answers = some (.Await (.Upserting model' lastEntry' content tokenCount))) :
    answers = [] ∧ previous = some content ∧ model' = model ∧ lastEntry' = lastEntry := by
  cases previous with
  | none => exact (not_upserting_of_isOver hrun trivial).elim
  | some text =>
      cases answers with
      | nil =>
          cases hrun
          exact ⟨rfl, rfl, rfl, rfl⟩
      | cons answer answers =>
          obtain ⟨next, hstep, hrun⟩ := runSteps_cons_eq_some hrun
          refine (not_upserting_of_isOver hrun ?_).elim
          cases answer <;> cases hstep
          all_goals trivial

/-- **The loop**: the text it ends with is made of the last output, and was checked with the last
chunk. -/
lemma last_of_upserting {chunks : List (List ChatHistoryEntry)} (hne : chunks ≠ [])
    {previous : Option JsString} {before : ℤ} {answers : List RefreshAnswer}
    (hrun : runSteps (tryStep settings)
      (nextChunk settings model lastEntry previous before chunks).1 answers
      = some (.Await (.Upserting model' lastEntry' content tokenCount))) :
    ∃ result, (modelOutputs answers).getLast? = some result
      ∧ content = cleanAdminSummary result.content
      ∧ SpecifiedSummary (chunks.getLast hne) content
      ∧ model' = model ∧ lastEntry' = lastEntry := by
  induction chunks generalizing previous before answers with
  | nil => exact absurd rfl hne
  | cons chunk chunks ih =>
      obtain ⟨result, rest, tokenCount', rfl, hchecked, hrest⟩ := round_of_upserting hrun
      rw [show modelOutputs (.Completion result :: .Recorded :: rest) = result :: modelOutputs rest
        from rfl]
      cases chunks with
      | nil =>
          obtain ⟨rfl, hcontent, hsame⟩ := nil_of_upserting hrest
          cases hcontent
          exact ⟨result, rfl, rfl, specifiedSummary_of_checked hchecked, hsame⟩
      | cons next chunks =>
          obtain ⟨last, hlast, hcontent, hspecified, hsame⟩ :=
            ih (List.cons_ne_nil next chunks) hrest
          refine ⟨last, ?_, hcontent, ?_, hsame⟩
          · rw [List.getLast?_cons, hlast]
            rfl
          · rwa [List.getLast_cons (List.cons_ne_nil next chunks)]

end Loop

/-- **Any loop**: the text that it ends with is as specified exactly if it is no entry of a chunk
before the last. -/
theorem generateStores_iff {settings : ContextSettings} {model : Model}
    {chunks : List (List ChatHistoryEntry)} (hne : chunks ≠ []) {answers : List RefreshAnswer}
    {content : JsString} (h : GenerateStores settings model chunks answers content) :
    ∃ result, (modelOutputs answers).getLast? = some result
      ∧ (SpecifiedSummary chunks.flatten content
        ↔ ∀ entry ∈ chunks.dropLast.flatten,
          cleanAdminSummary result.content ≠ entry.content.trim) := by
  obtain ⟨lastEntry, previous, before, tokenCount, hrun⟩ := h
  obtain ⟨result, hlast, rfl, hspecified, -⟩ := last_of_upserting hne hrun
  have hflatten : chunks.flatten = chunks.dropLast.flatten ++ chunks.getLast hne := by
    conv_lhs => rw [← List.dropLast_append_getLast hne]
    rw [List.flatten_append, List.flatten_singleton]
  refine ⟨result, hlast, ?_, ?_⟩
  · intro h entry hentry
    refine h.original entry ?_
    rw [hflatten]
    exact List.mem_append_left _ hentry
  · intro h
    refine { hspecified with original := fun entry hentry => ?_ }
    rw [hflatten] at hentry
    rcases List.mem_append.mp hentry with hentry | hentry
    · exact h entry hentry
    · exact hspecified.original entry hentry

/-! ## What the events tell

The pending entries and the outputs of the model can be read off the events of a call. -/

/-- The pending entries that were found.  A call finds them once, before its first model call. -/
def foundIn (events : List RefreshEvent) : List (List ChatHistoryEntry) :=
  events.filterMap fun
    | .Found pending => some pending
    | _ => none

def outputsIn (events : List RefreshEvent) : List OllamaCompletion :=
  events.filterMap fun
    | .Answered _ result => some result
    | _ => none

@[simp] lemma foundIn_append (events events' : List RefreshEvent) :
    foundIn (events ++ events') = foundIn events ++ foundIn events' := List.filterMap_append

@[simp] lemma outputsIn_append (events events' : List RefreshEvent) :
    outputsIn (events ++ events') = outputsIn events ++ outputsIn events' := List.filterMap_append

@[simp] lemma modelOutputs_append (answers answers' : List RefreshAnswer) :
    modelOutputs (answers ++ answers') = modelOutputs answers ++ modelOutputs answers' :=
  List.filterMap_append

/-- The first `loadState` is under way. -/
def BodyPhase.IsLoading : BodyPhase → Prop
  | Loading _ _ => True
  | _ => False

section Told

variable {settings : ContextSettings}

/-- A step behind the first `loadState`: nothing is found, the output of the model is told, and the
first `loadState` is not repeated. -/
structure ToldBehindLoading (answer : RefreshAnswer) (resumed : BodyNext × List RefreshEvent) :
    Prop where
  found : foundIn resumed.2 = []
  outputs : outputsIn resumed.2 = modelOutputs [answer]
  behind : ∀ phase, resumed.1 = .Await phase → ¬ phase.IsLoading

lemma nextChunk_told (model : Model) (lastEntry : ChatHistoryEntry) (content : Option JsString)
    (tokenCount : ℤ) (chunks : List (List ChatHistoryEntry)) {answer : RefreshAnswer}
    (hanswer : modelOutputs [answer] = []) :
    ToldBehindLoading answer (nextChunk settings model lastEntry content tokenCount chunks) := by
  cases chunks with
  | cons chunk chunks => exact ⟨rfl, hanswer.symm, by rintro phase ⟨⟩ ⟨⟩⟩
  | nil =>
      cases content with
      | none => exact ⟨rfl, hanswer.symm, by rintro phase ⟨⟩⟩
      | some content => exact ⟨rfl, hanswer.symm, by rintro phase ⟨⟩ ⟨⟩⟩

lemma bodyStep_told {phase : BodyPhase} {answer : RefreshAnswer}
    {resumed : BodyNext × List RefreshEvent} (hphase : ¬ phase.IsLoading)
    (hstep : bodyStep settings phase answer = some resumed) : ToldBehindLoading answer resumed := by
  simp only [bodyStep] at hstep
  split at hstep <;> cases hstep
  case h_1 => exact absurd trivial hphase
  case h_2 => exact absurd trivial hphase
  case h_3 =>
    simp only [afterDefault]
    split
    · exact ⟨rfl, rfl, by rintro phase ⟨⟩⟩
    · exact nextChunk_told _ _ _ _ _ rfl
  case h_5 =>
    simp only [afterRecord]
    split
    · exact ⟨rfl, rfl, by rintro phase ⟨⟩⟩
    · exact nextChunk_told _ _ _ _ _ rfl
  case h_8 saved messages =>
    obtain ⟨outcome, houtcome⟩ := afterReload_finish saved messages
    rw [houtcome]
    exact ⟨rfl, rfl, by rintro phase ⟨⟩⟩
  case h_4 => exact ⟨rfl, rfl, by rintro phase ⟨⟩ ⟨⟩⟩
  case h_6 => exact ⟨rfl, rfl, by rintro phase ⟨⟩ ⟨⟩⟩
  case h_11 => exact ⟨rfl, rfl, by rintro phase ⟨⟩ ⟨⟩⟩
  all_goals exact ⟨rfl, rfl, by rintro phase ⟨⟩⟩

end Told

/-! ## The system

A stored row is the one with which its call had got to the upsert. -/

/-- The `try` block has got here from its choice of a model, with the outputs that are told. -/
def BodyNext.Generating (settings : ContextSettings) (events : List RefreshEvent)
    (next : BodyNext) : Prop :=
  ∃ previous pending answers, foundIn events = [pending]
    ∧ outputsIn events = modelOutputs answers
    ∧ runSteps (tryStep settings) (.Await (.Choosing previous pending)) answers = some next

/-- **The invariant**: how a call has got to its `await`. -/
def BodyPhase.Generated (settings : ContextSettings) (events : List RefreshEvent)
    (phase : BodyPhase) : Prop :=
  phase.IsLoading ∧ foundIn events = [] ∧ outputsIn events = []
    ∨ ¬ phase.IsLoading ∧ (BodyNext.Await phase).Generating settings events

section Call

variable {settings : ContextSettings} {events : List RefreshEvent}

/-- What is neither found nor an output changes nothing. -/
lemma BodyNext.Generating.told {next : BodyNext} {told : List RefreshEvent}
    (h : next.Generating settings events) (hfound : foundIn told = [])
    (houtputs : outputsIn told = []) : next.Generating settings (events ++ told) := by
  obtain ⟨previous, pending, answers, hpending, hanswers, hrun⟩ := h
  refine ⟨previous, pending, answers, ?_, ?_, hrun⟩
  · rw [foundIn_append, hfound, List.append_nil, hpending]
  · rw [outputsIn_append, houtputs, List.append_nil, hanswers]

lemma BodyPhase.Generated.told {phase : BodyPhase} {told : List RefreshEvent}
    (h : phase.Generated settings events) (hfound : foundIn told = [])
    (houtputs : outputsIn told = []) : phase.Generated settings (events ++ told) := by
  rcases h with ⟨hloading, hpending, hanswers⟩ | ⟨hbehind, hgenerating⟩
  · refine .inl ⟨hloading, ?_, ?_⟩
    · rw [foundIn_append, hpending, hfound, List.append_nil]
    · rw [outputsIn_append, hanswers, houtputs, List.append_nil]
  · exact .inr ⟨hbehind, hgenerating.told hfound houtputs⟩

/-- The first `loadState`, from one read to the next. -/
lemma loaded_generated (hfound : foundIn events = []) (houtputs : outputsIn events = [])
    (summary : Option (Option AdminChatSummaryWithModel)) (messages : Option (List Message))
    {phase : BodyPhase} (hnext : (loaded summary messages).1 = .Await phase) :
    phase.Generated settings (events ++ (loaded summary messages).2) := by
  simp only [loaded] at hnext ⊢
  split at hnext
  · simp only [afterLoad] at hnext ⊢
    split at hnext
    · cases hnext
    · rename_i entries hentries
      dsimp only at hnext
      split at hnext
      · cases hnext
        refine .inr ⟨id, _, _, [], ?_, ?_, rfl⟩
        · rw [foundIn_append, hfound]
          rfl
        · rw [outputsIn_append, houtputs]
          rfl
      · cases hnext
  · cases hnext
    refine .inl ⟨trivial, ?_, ?_⟩
    · rw [List.append_nil, hfound]
    · rw [List.append_nil, houtputs]

/-- **The `try` block** keeps the invariant. -/
lemma bodyStep_generated {phase : BodyPhase} {answer : RefreshAnswer}
    {resumed : BodyNext × List RefreshEvent} (h : phase.Generated settings events)
    (hstep : bodyStep settings phase answer = some resumed) {next : BodyPhase}
    (hnext : resumed.1 = .Await next) : next.Generated settings (events ++ resumed.2) := by
  rcases h with ⟨hloading, hfound, houtputs⟩ | ⟨hbehind, previous, pending, answers, hfound,
    houtputs, hrun⟩
  · simp only [bodyStep] at hstep
    split at hstep <;> cases hstep
    case h_1 => exact loaded_generated hfound houtputs _ _ hnext
    case h_2 => exact loaded_generated hfound houtputs _ _ hnext
    all_goals first
      | exact hloading.elim
      | cases hnext
  · have htold := bodyStep_told hbehind hstep
    refine .inr ⟨htold.behind next hnext, previous, pending, answers ++ [answer], ?_, ?_, ?_⟩
    · rw [foundIn_append, htold.found, List.append_nil, hfound]
    · rw [outputsIn_append, htold.outputs, modelOutputs_append, houtputs]
    · refine runSteps_concat hrun ?_
      simp only [tryStep, hstep, Option.map_some, hnext]

/-- **A call** keeps it: its `try` block begins with nothing told. -/
lemma refreshStep_generated {phase : RefreshPhase} {answer : RefreshAnswer}
    {resumed : RefreshPhase × List RefreshEvent}
    (hunbegun : phase = .Acquiring → foundIn events = [] ∧ outputsIn events = [])
    (h : ∀ lock body, phase = .Trying lock body → body.Generated settings events)
    (hstep : refreshStep settings phase answer = some resumed) {lock : TokenLock}
    {body : BodyPhase} (hnext : resumed.1 = .Trying lock body) :
    body.Generated settings (events ++ resumed.2) := by
  rcases refreshStep_eq_trying hstep hnext with ⟨rfl, rfl, hevents⟩ | ⟨body', rfl, hbody⟩
  · obtain ⟨hfound, houtputs⟩ := hunbegun rfl
    refine .inl ⟨trivial, ?_, ?_⟩
    · rw [foundIn_append, hfound, hevents]
      rfl
    · rw [outputsIn_append, houtputs, hevents]
      rfl
  · exact bodyStep_generated (h lock body' rfl) hbody rfl

/-- An operation tells of no entries and of no output. -/
lemma Performed.told {chat chat' : Option ChatRecord} {phase : RefreshPhase}
    {answer : RefreshAnswer} {performed : List RefreshEvent}
    (h : Performed chat phase answer chat' performed) :
    foundIn performed = [] ∧ outputsIn performed = [] := by
  cases h with
  | read hsees => exact ⟨rfl, rfl⟩
  | upsert hsees => exact ⟨rfl, rfl⟩

/-- The `try` block is at the upsert of this row. -/
def AtUpsert (settings : ContextSettings) (events : List RefreshEvent) (row : AdminChatSummary) :
    Prop :=
  ∃ model lastEntry tokenCount, row.modelId = model.id
    ∧ (BodyNext.Await (.Upserting model lastEntry row.content tokenCount)).Generating settings
      events

/-- Every row that a call has stored is the one it had got to the upsert of. -/
def StoresGenerated (settings : ContextSettings) (events : List RefreshEvent) : Prop :=
  ∀ before row after, events = before ++ .Stored row :: after → AtUpsert settings before row

lemma StoresGenerated.nil : StoresGenerated settings [] := by
  intro before row after hevents
  simp at hevents

/-- A step stores nothing, or what its call holds. -/
lemma StoresGenerated.resumed {chat chat' : Option ChatRecord} {phase : RefreshPhase}
    {answer : RefreshAnswer} {performed resumed : List RefreshEvent}
    (hstored : StoresGenerated settings events)
    (h : ∀ lock body, phase = .Trying lock body → body.Generated settings events)
    (hperformed : Performed chat phase answer chat' performed)
    (hresumed : ∀ row, .Stored row ∉ resumed) :
    StoresGenerated settings (events ++ (performed ++ resumed)) := by
  intro before row after hevents
  rcases append_eq_append_cons hevents with ⟨rest, hold, -⟩ | ⟨front, rfl, hnew⟩
  · exact hstored before row rest hold
  · have hmem : .Stored row ∈ performed ++ resumed := by simp [hnew]
    cases hperformed with
    | read hsees => exact absurd hmem (hresumed row)
    | @upsert chat lock model lastEntry content tokenCount now answer hsees =>
        have hupserting := h lock _ rfl
        cases front with
        | nil =>
            cases hnew
            rw [List.append_nil]
            rcases hupserting with ⟨hloading, -⟩ | ⟨-, hgenerating⟩
            · exact hloading.elim
            · exact ⟨model, lastEntry, tokenCount, rfl, hgenerating⟩
        | cons event front =>
            cases hnew
            exact absurd (by simp) (hresumed row)

end Call

structure SummarySystem.Generated (settings : ContextSettings) (s : SummarySystem) : Prop where
  body : ∀ i lock (phase : BodyPhase), s.calls[i]? = some (.Trying lock phase) →
    phase.Generated settings (eventsOf i s.events)
  stored : ∀ i, StoresGenerated settings (eventsOf i s.events)

section System

variable {settings : ContextSettings} {chatId : String} {lockTtlMs : ℤ} {s s' : SummarySystem}

lemma SummarySystem.Generated.initial (messages : ChatMessages)
    (store : LeaseStore String String) :
    (SummarySystem.initial messages store).Generated settings where
  body i lock phase hcall := by cases hcall
  stored i := .nil

/-- **Every step** keeps the invariant. -/
lemma SummaryMoves.generated (hmove : SummaryMoves settings s s') (htraced : s.Traced)
    (h : s.Generated settings) : s'.Generated settings := by
  have hcalls := hmove.forall_calls
    (P := fun events phase => phase.Traced events
      ∧ (∀ lock body, phase = .Trying lock body → body.Generated settings events)
      ∧ StoresGenerated settings events)
    (fun i phase hcall => ⟨htraced.call i phase hcall,
      fun lock body hphase => h.body i lock body (hphase ▸ hcall), h.stored i⟩)
    htraced.unbegun ⟨rfl, by rintro lock body ⟨⟩, .nil⟩ ?_
  · refine ⟨fun i lock body hcall => (hcalls i _ hcall).2.1 lock body rfl, fun i => ?_⟩
    cases hcall : s'.calls[i]? with
    | some phase => exact (hcalls i phase hcall).2.2
    | none =>
        rw [(hmove.traced htraced).unbegun i (List.getElem?_eq_none_iff.mp hcall)]
        exact .nil
  · intro events chat chat' phase next answer performed resumed hphase hperformed hresumed
    obtain ⟨htraced, hbody, hstored⟩ := hphase
    refine ⟨performed_traced htraced hperformed hresumed, ?_,
      hstored.resumed hbody hperformed (refreshStep_unstored hresumed)⟩
    rintro lock body rfl
    rw [← List.append_assoc]
    refine refreshStep_generated ?_ ?_ hresumed rfl
    · rintro rfl
      rw [foundIn_append, outputsIn_append, hperformed.told.1, hperformed.told.2,
        show events = [] from htraced]
      exact ⟨rfl, rfl⟩
    · intro lock body hphase
      exact (hbody lock body hphase).told hperformed.told.1 hperformed.told.2

/-- **Every run** keeps the invariant. -/
theorem summaryStep_generated {messages : ChatMessages} {store : LeaseStore String String}
    {actions : List SummaryAction}
    (hrun : runSteps (summaryStep settings chatId lockTtlMs)
      (SummarySystem.initial messages store) actions = some s) : s.Generated settings := by
  refine (runSteps_invariant (P := fun s => s.Traced ∧ s.Generated settings)
    (fun s action s' h hstep => ?_) hrun ⟨.initial messages store, .initial messages store⟩).2
  have hmove := summaryStep_moves hstep
  exact ⟨hmove.traced h.1, hmove.generated h.1 h.2⟩

end System

/-! ## The main result -/

/-- At the upsert, the loop is over: it has gone through the chunks of what was pending. -/
lemma AtUpsert.stores {settings : ContextSettings} {events : List RefreshEvent}
    {row : AdminChatSummary} (h : AtUpsert settings events row) :
    ∃ pending answers, ∃ model : Model, row.modelId = model.id ∧ pending ≠ []
      ∧ foundIn events = [pending] ∧ outputsIn events = modelOutputs answers
      ∧ GenerateStores settings model
        (chunkEntries pending (getContextBudget model.maxContext settings).chunkTokens
          settings.charsPerToken) answers row.content := by
  obtain ⟨model, lastEntry, tokenCount, hmodel, previous, pending, answers, hfound, houtputs, hrun⟩
    := h
  cases answers with
  | nil => cases hrun
  | cons answer answers =>
      obtain ⟨next, hstep, hrun⟩ := runSteps_cons_eq_some hrun
      cases answer with
      | DefaultModel model' =>
          cases hstep
          simp only [afterDefault] at hrun
          split at hrun
          · exact (not_upserting_of_isOver hrun trivial).elim
          · rename_i lastEntry' hlast
            have hne : pending ≠ [] := by
              rintro rfl
              cases hlast
            obtain ⟨-, -, -, -, rfl, rfl⟩ := last_of_upserting (chunkEntries_ne_nil _ _ hne) hrun
            exact ⟨pending, answers, model, hmodel, hne, hfound, houtputs, lastEntry, _, _,
              tokenCount, hrun⟩
      | Error error =>
          cases hstep
          exact (not_upserting_of_isOver hrun trivial).elim
      | _ => cases hstep

/-- **What a stored summary is.**  The text that a loop over chunks ends with is as specified
exactly if the last output is no entry of a chunk before the last.  In any interleaving of calls,
such a loop over the entries that were pending is behind every text that is stored. -/
theorem storedSummary_iff (settings : ContextSettings) :
    (∀ model chunks answers content, chunks ≠ [] →
      GenerateStores settings model chunks answers content →
        ∃ result, (modelOutputs answers).getLast? = some result
          ∧ (SpecifiedSummary chunks.flatten content
            ↔ ∀ entry ∈ chunks.dropLast.flatten,
              cleanAdminSummary result.content ≠ entry.content.trim))
    ∧ ∀ chatId lockTtlMs messages store actions s,
        runSteps (summaryStep settings chatId lockTtlMs) (SummarySystem.initial messages store)
          actions = some s →
        ∀ i before row after, eventsOf i s.events = before ++ .Stored row :: after →
          ∃ pending result, ∃ model : Model, foundIn before = [pending]
            ∧ (outputsIn before).getLast? = some result ∧ row.modelId = model.id
            ∧ (SpecifiedSummary pending row.content
              ↔ ∀ entry ∈ (chunkEntries pending
                  (getContextBudget model.maxContext settings).chunkTokens
                  settings.charsPerToken).dropLast.flatten,
                cleanAdminSummary result.content ≠ entry.content.trim) := by
  refine ⟨fun model chunks answers content hne h => generateStores_iff hne h, ?_⟩
  intro chatId lockTtlMs messages store actions s hrun i before row after hevents
  obtain ⟨pending, answers, model, hmodel, hne, hfound, houtputs, hstores⟩ :=
    ((summaryStep_generated hrun).stored i before row after hevents).stores
  obtain ⟨result, hlast, hiff⟩ := generateStores_iff (chunkEntries_ne_nil _ _ hne) hstores
  rw [chunkEntries_flatten] at hiff
  rw [← houtputs] at hlast
  exact ⟨pending, result, model, hfound, hlast, hmodel, hiff⟩

/-! ### An echo -/

/-- A short question and a long answer. -/
def longTurn : ChatMessages where
  rows :=
    [completedRow 1 .User "Rome?" "m",
      { completedRow 2 .Assistant "" "m" with content := List.replicate 450 0x78 }]
  nodup := by decide

/-- They are two chunks, and the second output repeats the question. -/
def echoingRefresh : List SummaryAction :=
  [.Call, .Await 0 .ChatExists none, .Await 0 (.Acquire "a") none, .Await 0 .FindMessages none,
    .Await 0 (.FindSummary "m") none, .Await 0 (.GetDefault ⟨0, "m", 512, true⟩) none,
    .Await 0 (.Complete ⟨js "A visit.", none, none⟩) none, .Await 0 .Record none,
    .Await 0 (.Complete ⟨js "Rome?", none, none⟩) none, .Await 0 .Record none,
    .Await 0 (.Upsert 5 "m") none]

/-- One of the entries that were found has this text. -/
def echoed (events : List RefreshEvent) (content : JsString) : Bool :=
  (foundIn events).any fun pending => pending.any fun entry => entry.content.trim == content

/-- A row of this text was stored. -/
def storedText (events : List RefreshEvent) (content : JsString) : Bool :=
  events.any fun
    | .Stored row => row.content == content
    | _ => false

/-- An entry of the first chunk is stored as the summary. -/
theorem storedSummary_echo :
    ∃ s, runSteps (summaryStep ContextSettings.defaults "c" 1000)
        (SummarySystem.initial longTurn fun _ => none) echoingRefresh = some s
      ∧ ∃ pending row, .Found pending ∈ eventsOf 0 s.events ∧ .Stored row ∈ eventsOf 0 s.events
        ∧ ¬ SpecifiedSummary pending row.content := by
  have hrun : (runSteps (summaryStep ContextSettings.defaults "c" 1000)
      (SummarySystem.initial longTurn fun _ => none) echoingRefresh).map
        (fun s => (echoed (eventsOf 0 s.events) (js "Rome?"),
          storedText (eventsOf 0 s.events) (js "Rome?")))
      = some (true, true) := by
    decide +kernel
  obtain ⟨s, hs, htext⟩ := Option.map_eq_some_iff.mp hrun
  rw [Prod.mk.injEq] at htext
  obtain ⟨pending, hpending, hechoed⟩ := List.any_eq_true.mp htext.1
  obtain ⟨entry, hentry, hcontent⟩ := List.any_eq_true.mp hechoed
  obtain ⟨event, hevent, hstored⟩ := List.any_eq_true.mp htext.2
  cases event with
  | Stored row =>
      refine ⟨s, hs, pending, row, ?_, hevent, fun h => h.original entry hentry ?_⟩
      · obtain ⟨event, hmem, hfound⟩ := List.mem_filterMap.mp hpending
        cases event with
        | Found found =>
            cases hfound
            exact hmem
        | _ => cases hfound
      · rw [eq_of_beq hstored, eq_of_beq hcontent]
  | _ => cases hstored

/-- The theorem at this run. -/
theorem storedSummary_iff_echo :
    ∃ s, runSteps (summaryStep ContextSettings.defaults "c" 1000)
        (SummarySystem.initial longTurn fun _ => none) echoingRefresh = some s
      ∧ ∃ before row after, eventsOf 0 s.events = before ++ .Stored row :: after
        ∧ ∃ pending result, ∃ model : Model, foundIn before = [pending]
          ∧ (outputsIn before).getLast? = some result ∧ row.modelId = model.id
          ∧ (SpecifiedSummary pending row.content
            ↔ ∀ entry ∈ (chunkEntries pending
                (getContextBudget model.maxContext ContextSettings.defaults).chunkTokens
                ContextSettings.defaults.charsPerToken).dropLast.flatten,
              cleanAdminSummary result.content ≠ entry.content.trim) := by
  have hrun : (runSteps (summaryStep ContextSettings.defaults "c" 1000)
      (SummarySystem.initial longTurn fun _ => none) echoingRefresh).map
        (fun s => storedText (eventsOf 0 s.events) (js "Rome?"))
      = some true := by
    decide +kernel
  obtain ⟨s, hs, htext⟩ := Option.map_eq_some_iff.mp hrun
  obtain ⟨event, hevent, hstored⟩ := List.any_eq_true.mp htext
  cases event with
  | Stored row =>
      obtain ⟨before, after, hevents⟩ := List.append_of_mem hevent
      exact ⟨s, hs, before, row, after, hevents,
        (storedSummary_iff ContextSettings.defaults).2 _ _ _ _ _ s hs 0 before row after hevents⟩
  | _ => cases hstored

end RagStack
