import RagStack.Models.Repository

/-!
# `model-administration.service.ts` and `model-default.seeder.ts`

`create`, `update` and the seeder.  What the service gets from outside the table, the time and the
installed models that Ollama reports (`none` when it cannot be reached), belongs to the call.  A
call that fails in the database is answered with the `ConflictException` of `create` or `update`
where `isModelConflict` recognises the error.

`update` reads the model, checks with `assertTransition` whether the change is allowed, and then
opens a transaction.  The check is made on the row as it was read, outside the transaction, and
nothing repeats it inside.  Whether the transaction switches the default is decided on that row as
well: a model that is the default already need not be made it.  The program keeps these steps apart,
the read, the check, and the statements of the transaction with the decision as an argument, so that
another call can come between them.

The seeder runs at the start of the application, possibly on several instances at once.  It creates
the default model if the table has no default, in two transactions, one for the row and one for the
flag.
-/

namespace RagStack

structure CreateModelInput where
  name : JsString
  maxContext : ℤ
  isAvailable : Option Bool
  deriving Repr, DecidableEq

structure UpdateModelInput where
  maxContext : Option ℤ
  isAvailable : Option Bool
  isDefault : Option Bool
  deriving Repr, DecidableEq

/-- A call of `create`. -/
structure CreateCall where
  input : CreateModelInput
  now : Timestamp
  installed : Option (List JsString)
  deriving Repr, DecidableEq

/-- A call of `update`. -/
structure UpdateCall where
  id : Uuid
  input : UpdateModelInput
  now : Timestamp
  installed : Option (List JsString)
  deriving Repr, DecidableEq

structure SeedCall where
  seedName : JsString
  now : Timestamp
  deriving Repr, DecidableEq

/-- `SEED_MAX_CONTEXT`. -/
def seedMaxContext : ℤ := 8192

def toAdminModel (id : Uuid) (model : ModelRow) (installed : Option (List JsString)) :
    AdminModel where
  id := id
  name := model.name
  maxContext := model.maxContext
  isAvailable := model.isAvailable
  isDefault := model.isDefault
  installed := installed.map fun names => decide (model.name ∈ names)
  createdAt := model.createdAt
  updatedAt := model.updatedAt

/-- The message of the exception that `assertTransition` throws, if it throws.  The four cases are
in the order of the source, where the first that applies decides about the message. -/
def assertTransition (model : ModelRow) (input : UpdateModelInput) : Option String :=
  if model.isDefault && input.isDefault == some false then
    some "Choose another default model first."
  else if model.isDefault && input.isAvailable == some false then
    some "The default model cannot be made unavailable."
  else if input.isDefault == some true && input.isAvailable == some false then
    some "The default model cannot be made unavailable."
  else if input.isDefault == some true && !model.isAvailable && input.isAvailable != some true then
    some "Make the model available before setting it as default."
  else none

namespace CreateCall

def row (call : CreateCall) : ModelRow :=
  newModel call.now call.input.name.trim call.input.maxContext (call.input.isAvailable.getD true)

/-- `create`. -/
def program (call : CreateCall) : ModelProg :=
  createModel call.row fun id => .done (.Presented (toAdminModel id call.row call.installed))

end CreateCall

namespace UpdateCall

variable (call : UpdateCall)

/-- `{ max_context: input.maxContext, is_available: input.isAvailable }`. -/
def data : UpdateModelRecord := ⟨call.input.maxContext, call.input.isAvailable⟩

/-- `input.isDefault === true && !model.is_default`. -/
def makeDefault (model : ModelRow) : Bool := call.input.isDefault == some true && !model.isDefault

def present (updated : ModelRow) : ModelReply :=
  .Presented (toAdminModel call.id updated call.installed)

/-- The transaction, once the checks have passed on the row that was read. -/
def transaction (model : ModelRow) : ModelProg :=
  updateWithDefault call.now call.id call.data (call.makeDefault model) fun updated =>
    .commit (.CommitUpdate model updated) (.done (call.present updated))

/-- What follows on the row that `findById` returned. -/
def afterFind : Option ModelRow → ModelProg
  | none => .done (.NotFound "Model not found.")
  | some model =>
      match assertTransition model call.input with
      | some message => .done (.Conflict message)
      | none => call.transaction model

/-- `update`. -/
def program : ModelProg := .read .FindModel fun db => call.afterFind (db.rows call.id)

end UpdateCall

/-- `onApplicationBootstrap`. -/
def SeedCall.program (call : SeedCall) : ModelProg :=
  .read .FindDefault fun db =>
    if (db.keysWhere fun _ model => model.isDefault) ≠ [] then .done .Seeded
    else seedDefault call.now call.seedName seedMaxContext fun _ => .done .Seeded

/-- What runs at the same time. -/
inductive ModelsCall where
  | Create (call : CreateCall)
  | Update (call : UpdateCall)
  | Seed (call : SeedCall)
  deriving Repr, DecidableEq

def ModelsCall.program : ModelsCall → ModelProg
  | Create call => call.program
  | Update call => call.program
  | Seed call => call.program

end RagStack
