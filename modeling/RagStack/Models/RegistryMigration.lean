import RagStack.Models.SingleDefault
import RagStack.Core.Except
import Mathlib.Data.List.Dedup

/-!
# The migrations that introduce models

Chats named their model by a text.  One migration creates the table `model`, registers every model
that some chat names, and lets the chats refer to it; the next one adds the flags.  Each statement
may violate a constraint, and then the migration fails.  `uuidv7()` numbers the rows of a table in
the order of their insertion; `SELECT DISTINCT` may return its rows in any order, which decides
about nothing but these numbers.

A migration runs once, on data that nobody has seen, and a failure in the middle of a deployment is
an outage.  So it is worth knowing that these two cannot fail.  The places where they could are few.
Two rows of `model` could have one name: the second INSERT takes only the names that are not there,
each of them once.  A chat could be left without a model: every name it could have was registered
before.  A flag could violate its check or its index: the column starts out as false everywhere.

The model follows the statements and keeps every one of these failures, so that the theorem has to
exclude them for every table of chats.  What the migrations leave is then a valid table in the sense
of the other files, from which their runs may start.  It has no default model.  That comes with the
first start of the application, by the seeder.

* `migrateRegistry`, `migrateFlags` — the statements of the two migrations.
* `registry_migration` — they succeed on every table of chats, every chat keeps its model, and what
  they leave is a table of models from which the application can start.
-/

namespace RagStack

/-! ## The statements

One definition for each statement, with the constraint it may violate as its error. -/

/-- A row of `chat` before the migrations. -/
structure LegacyChat where
  id : Uuid
  userId : Option Uuid
  anonymousSessionId : Option Uuid
  title : JsString
  selectedModel : JsString
  lastMessageAt : Timestamp
  deriving Repr, DecidableEq

/-- A row of `model` without flags. -/
structure RegisteredModel where
  name : JsString
  maxContext : ℤ
  createdAt : Timestamp
  updatedAt : Timestamp
  deriving Repr, DecidableEq

/-- The violation of a constraint. -/
inductive MigrationError where
  | UniqueViolation (index : String)
  | CheckViolation (constraint : String)
  | NotNullViolation (column : String)
  | ForeignKeyViolation (constraint : String)
  deriving Repr, DecidableEq

section Statements

variable (now : Timestamp)

/-- `INSERT INTO "model"` of one row. -/
def insertModel (table : List RegisteredModel) (name : JsString) :
    Except MigrationError (List RegisteredModel) :=
  let row : RegisteredModel := ⟨name, 8192, now, now⟩
  if table.any (·.name = name) then .error (.UniqueViolation "model_name_key")
  else if row.maxContext ≤ 0 then .error (.CheckViolation "model_max_context_check")
  else .ok (table ++ [row])

/-- `SELECT DISTINCT "selected_model" FROM "chat" WHERE NOT EXISTS (…)`. -/
def missingModels (table : List RegisteredModel) (legacy : List LegacyChat) : List JsString :=
  ((legacy.map (·.selectedModel)).filter fun name => !table.any (·.name = name)).dedup

/-- `UPDATE "chat" SET "selected_model_id" … WHERE "model"."name" = "chat"."selected_model"`. -/
def selectModelIds (table : List RegisteredModel) (legacy : List LegacyChat) :
    List (LegacyChat × Option Uuid) :=
  legacy.map fun chat => (chat, table.findIdx? (·.name = chat.selectedModel))

/-- `SET NOT NULL` and `DROP COLUMN "selected_model"`, for one chat. -/
def dropSelectedModel : LegacyChat × Option Uuid → Except MigrationError Chat
  | (_, none) => .error (.NotNullViolation "selected_model_id")
  | (chat, some selectedModelId) =>
      .ok ⟨chat.id, chat.userId, chat.anonymousSessionId, chat.title, selectedModelId,
        chat.lastMessageAt⟩

/-- `ADD CONSTRAINT "chat_selected_model_id_fkey"`. -/
def addModelReference (table : List RegisteredModel) (chats : List Chat) :
    Except MigrationError Unit :=
  if chats.all (·.selectedModelId < table.length) then .ok ()
  else .error (.ForeignKeyViolation "chat_selected_model_id_fkey")

def migrateRegistry (legacy : List LegacyChat) :
    Except MigrationError (List RegisteredModel × List Chat) := do
  let table ← insertModel now [] (js "qwen2.5:1.5b")
  let table ← (missingModels table legacy).foldlM (insertModel now) table
  let chats ← (selectModelIds table legacy).mapM dropSelectedModel
  addModelReference table chats
  return (table, chats)

/-- The defaults of the new columns. -/
def RegisteredModel.withFlags (model : RegisteredModel) : ModelRow where
  name := model.name
  maxContext := model.maxContext
  isAvailable := true
  isDefault := false
  createdAt := model.createdAt
  updatedAt := model.updatedAt

/-- The second migration, as far as it is about models. -/
def migrateFlags (table : List RegisteredModel) : Except MigrationError (List ModelRow) :=
  let models := table.map RegisteredModel.withFlags
  if !models.all fun model => !model.isDefault || model.isAvailable then
    .error (.CheckViolation "model_default_is_available_check")
  else if 1 < models.countP (·.isDefault) then .error (.UniqueViolation "model_single_default")
  else .ok models

def migrate (legacy : List LegacyChat) : Except MigrationError (List ModelRow × List Chat) := do
  let (table, chats) ← migrateRegistry now legacy
  let models ← migrateFlags table
  return (models, chats)

end Statements

/-! ## What they leave

The names of the registered models decide about everything: they are distinct, and the name of every
chat is among them. -/

section Statements

variable {now : Timestamp} {table : List RegisteredModel} {legacy : List LegacyChat}

def registered (now : Timestamp) (names : List JsString) : List RegisteredModel :=
  names.map fun name => ⟨name, 8192, now, now⟩

lemma map_name_registered (names : List JsString) :
    (registered now names).map (·.name) = names := by
  rw [registered, List.map_map]
  exact List.map_id'' (fun _ => rfl) names

lemma any_name_iff (name : JsString) :
    table.any (·.name = name) = true ↔ name ∈ table.map (·.name) := by
  rw [List.any_eq_true, List.mem_map]
  simp only [decide_eq_true_eq]

/-- A name that is not there yet can be inserted. -/
lemma insertModel_of_notMem {name : JsString} (hnot : name ∉ table.map (·.name)) :
    insertModel now table name = .ok (table ++ registered now [name]) := by
  have hany : ¬ table.any (·.name = name) = true := by rwa [any_name_iff]
  rw [insertModel, if_neg hany]
  simp [registered]

/-- **Names that are not there yet**, each of them once, can be inserted. -/
lemma foldlM_insertModel {names : List JsString} (hnodup : names.Nodup)
    (hnot : ∀ name ∈ names, name ∉ table.map (·.name)) :
    names.foldlM (insertModel now) table = .ok (table ++ registered now names) := by
  induction names generalizing table with
  | nil => simp [registered, pure, Except.pure]
  | cons name names ih =>
      obtain ⟨hname, hnames⟩ := List.nodup_cons.mp hnodup
      rw [List.foldlM_cons, insertModel_of_notMem (hnot name List.mem_cons_self)]
      show names.foldlM (insertModel now) (table ++ registered now [name]) = _
      rw [ih hnames]
      · simp [registered]
      · intro other hother
        rw [List.map_append, map_name_registered]
        simp only [List.mem_append, List.mem_singleton, not_or]
        refine ⟨hnot other (List.mem_cons_of_mem _ hother), ?_⟩
        rintro rfl
        exact hname hother

lemma mem_missingModels {name : JsString} : name ∈ missingModels table legacy
    ↔ name ∈ legacy.map (·.selectedModel) ∧ name ∉ table.map (·.name) := by
  rw [missingModels, List.mem_dedup, List.mem_filter, Bool.not_eq_true', ← Bool.not_eq_true,
    any_name_iff]

/-- A name that is registered is found. -/
lemma findIdx?_name {name : JsString} (hmem : name ∈ table.map (·.name)) :
    ∃ id model, table.findIdx? (·.name = name) = some id ∧ table[id]? = some model
      ∧ model.name = name := by
  obtain ⟨id, hid⟩ : ∃ id, table.findIdx? (·.name = name) = some id := by
    rw [← Option.isSome_iff_exists, List.findIdx?_isSome, any_name_iff]
    exact hmem
  obtain ⟨hlt, hname, -⟩ := List.findIdx?_eq_some_iff_getElem.mp hid
  exact ⟨id, table[id], hid, List.getElem?_eq_getElem hlt, of_decide_eq_true hname⟩

end Statements

/-- A chat after the migrations: it refers to the model that it named. -/
structure KeepsModel (models : List ModelRow) (old : LegacyChat) (new : Chat) : Prop where
  id : new.id = old.id
  userId : new.userId = old.userId
  anonymousSessionId : new.anonymousSessionId = old.anonymousSessionId
  title : new.title = old.title
  lastMessageAt : new.lastMessageAt = old.lastMessageAt
  model : ∃ model, models[new.selectedModelId]? = some model ∧ model.name = old.selectedModel

/-- **What the migrations leave**: every chat with the model it has named, the registered models
with their flags, and a table that satisfies its constraints. -/
structure Migrated (legacy : List LegacyChat) (models : List ModelRow) (chats : List Chat) : Prop where
  chats : List.Forall₂ (KeepsModel models) legacy chats
  /-- The first model is registered in any case, the others because chats name them. -/
  names : ∃ others, models.map (·.name) = js "qwen2.5:1.5b" :: others
    ∧ ∀ name ∈ others, name ∈ legacy.map (·.selectedModel)
  /-- Every model can be selected, and none is the default. -/
  flags : ∀ model ∈ models, model.isAvailable = true ∧ model.isDefault = false
    ∧ model.maxContext = 8192
  /-- The application can start from the table. -/
  table : ∃ table : ModelTable, table.db = .ofRows (models.map some)

section Migrate

variable {now : Timestamp} {table : List RegisteredModel} {legacy : List LegacyChat}

/-- A chat with the number of its model. -/
def movedChat (table : List RegisteredModel) (chat : LegacyChat) : Chat :=
  ⟨chat.id, chat.userId, chat.anonymousSessionId, chat.title,
    (table.findIdx? (·.name = chat.selectedModel)).getD 0, chat.lastMessageAt⟩

/-- No chat is left without a model. -/
lemma mapM_dropSelectedModel
    (hall : ∀ chat ∈ legacy, chat.selectedModel ∈ table.map (·.name)) :
    (selectModelIds table legacy).mapM dropSelectedModel = .ok (legacy.map (movedChat table)) := by
  rw [mapM_eq_ok_iff, selectModelIds, List.map_map, List.map_map]
  refine List.map_congr_left fun chat hchat => ?_
  obtain ⟨id, model, hid, -⟩ := findIdx?_name (hall chat hchat)
  simp [dropSelectedModel, movedChat, hid]

lemma addModelReference_moved
    (hall : ∀ chat ∈ legacy, chat.selectedModel ∈ table.map (·.name)) :
    addModelReference table (legacy.map (movedChat table)) = .ok () := by
  refine if_pos (List.all_eq_true.mpr fun new hnew => ?_)
  obtain ⟨chat, hchat, rfl⟩ := List.mem_map.mp hnew
  obtain ⟨id, model, hid, hmodel, -⟩ := findIdx?_name (hall chat hchat)
  have hlt : id < table.length := (List.getElem?_eq_some_iff.mp hmodel).1
  simpa [movedChat, hid] using hlt

lemma migrateRegistry_eq (now : Timestamp) (legacy : List LegacyChat) :
    ∃ others, others.Nodup ∧ js "qwen2.5:1.5b" ∉ others
      ∧ (∀ name ∈ others, name ∈ legacy.map (·.selectedModel))
      ∧ (∀ chat ∈ legacy, chat.selectedModel ∈ js "qwen2.5:1.5b" :: others)
      ∧ migrateRegistry now legacy = .ok (registered now (js "qwen2.5:1.5b" :: others),
          legacy.map (movedChat (registered now (js "qwen2.5:1.5b" :: others)))) := by
  let first := registered now [js "qwen2.5:1.5b"]
  have hfirst : insertModel now [] (js "qwen2.5:1.5b") = .ok first :=
    insertModel_of_notMem List.not_mem_nil
  have hnames : first.map (·.name) = [js "qwen2.5:1.5b"] := map_name_registered _
  have hothers : ∀ name, name ∈ missingModels first legacy
      ↔ name ∈ legacy.map (·.selectedModel) ∧ name ≠ js "qwen2.5:1.5b" := by
    intro name
    rw [mem_missingModels, hnames, List.mem_singleton]
  have hnodup : (missingModels first legacy).Nodup := List.nodup_dedup _
  have hall : ∀ chat ∈ legacy,
      chat.selectedModel ∈ js "qwen2.5:1.5b" :: missingModels first legacy := by
    intro chat hchat
    by_cases hname : chat.selectedModel = js "qwen2.5:1.5b"
    · rw [hname]
      exact List.mem_cons_self
    · exact List.mem_cons_of_mem _ ((hothers _).mpr ⟨List.mem_map_of_mem hchat, hname⟩)
  refine ⟨missingModels first legacy, hnodup, fun hmem => ((hothers _).mp hmem).2 rfl,
    fun name hname => ((hothers name).mp hname).1, hall, ?_⟩
  have hfold : (missingModels first legacy).foldlM (insertModel now) first
      = .ok (registered now (js "qwen2.5:1.5b" :: missingModels first legacy)) := by
    refine foldlM_insertModel hnodup fun name hname => ?_
    rw [hnames, List.mem_singleton]
    exact ((hothers name).mp hname).2
  have hmapped : ∀ chat ∈ legacy, chat.selectedModel
      ∈ (registered now (js "qwen2.5:1.5b" :: missingModels first legacy)).map (·.name) := by
    rw [map_name_registered]
    exact hall
  simp only [migrateRegistry, hfirst, hfold, mapM_dropSelectedModel hmapped,
    addModelReference_moved hmapped, bind, Except.bind, pure, Except.pure]

lemma migrateFlags_eq (table : List RegisteredModel) :
    migrateFlags table = .ok (table.map RegisteredModel.withFlags) := by
  have hcount : (table.map RegisteredModel.withFlags).countP (·.isDefault) = 0 := by
    rw [List.countP_eq_zero]
    simp [RegisteredModel.withFlags]
  have hcheck : (table.map RegisteredModel.withFlags).all
      (fun model => !model.isDefault || model.isAvailable) = true := by
    rw [List.all_eq_true]
    simp [RegisteredModel.withFlags]
  simp [migrateFlags, hcount, hcheck]

/-- Different names, no default: the table satisfies its constraints. -/
lemma exists_modelTable {names : List JsString} (hnodup : names.Nodup) :
    ∃ table : ModelTable, table.db
      = .ofRows (((registered now names).map RegisteredModel.withFlags).map some) := by
  refine ⟨.ofModels _ (fun model hmodel => ?_) ?_, rfl⟩
  · simp only [registered, List.map_map, List.mem_map] at hmodel
    obtain ⟨name, -, rfl⟩ := hmodel
    rfl
  · rw [registered, List.map_map, List.pairwise_map]
    refine hnodup.imp fun {name name'} hne => ?_
    simpa [ModelRow.clash, RegisteredModel.withFlags] using hne

end Migrate

/-- **The migrations keep the models of all chats.**  They succeed whatever the chats name, and
nothing else of a chat changes: it refers to the model whose name it had, which is available and has
the context window that the migration chooses. -/
theorem registry_migration (now : Timestamp) (legacy : List LegacyChat) :
    ∃ models chats, migrate now legacy = .ok (models, chats) ∧ Migrated legacy models chats := by
  obtain ⟨others, hnodup, hfirst, hchosen, hall, hmigrate⟩ := migrateRegistry_eq now legacy
  let names := js "qwen2.5:1.5b" :: others
  let table := registered now names
  refine ⟨table.map RegisteredModel.withFlags, legacy.map (movedChat table), ?_, ?_⟩
  · simp only [migrate, hmigrate, bind, Except.bind, migrateFlags_eq, pure, Except.pure]
    rfl
  refine ⟨?_, ⟨others, ?_, hchosen⟩, fun model hmodel => ?_,
    exists_modelTable (List.nodup_cons.mpr ⟨hfirst, hnodup⟩)⟩
  · rw [List.forall₂_map_right_iff, List.forall₂_same]
    intro chat hchat
    refine ⟨rfl, rfl, rfl, rfl, rfl, ?_⟩
    have hname : chat.selectedModel ∈ table.map (·.name) := by
      rw [map_name_registered]
      exact hall chat hchat
    obtain ⟨id, model, hid, hmodel, hsame⟩ := findIdx?_name hname
    refine ⟨model.withFlags, ?_, hsame⟩
    simp [movedChat, hid, hmodel]
  · rw [List.map_map]
    exact map_name_registered names
  · simp only [table, registered, List.map_map, List.mem_map] at hmodel
    obtain ⟨name, -, rfl⟩ := hmodel
    exact ⟨rfl, rfl, rfl⟩

end RagStack
