import RagStack.Chats.Types
import RagStack.Core.ReadCommitted

/-!
# `models.repository.ts`

The `model` table with its constraints, and the repository methods as programs of statements.  A
method that runs inside a transaction takes the rest of the transaction as its continuation.

The table has four constraints, and the repository is written with two of them in mind.  There is at
most one default by a partial unique index, and a default is available by a check.  Making a model
the default is therefore two statements in one transaction: the flag is cleared on all other rows,
and then set on the row, together with `is_available`.  In the other order the index would refuse
the first statement.  Between the two, the transaction has a table without a default, which nobody
else sees.

Prisma's `update` is an UPDATE of the row with that id, and it throws if there is none.  `now` is
the time it writes to `updated_at`.  `upsert` looks for the row and inserts it if there is none.
Models are never deleted.

A commit is labelled with what it is the commit of, and the one of `update` also with the row on
which the service had decided.  This is bookkeeping for the proofs.  It lets a contract say what a
commit does without looking back at the reads before it.
-/

namespace RagStack

/-- A row of `model`. -/
structure ModelRow where
  name : JsString
  maxContext : ℤ
  isAvailable : Bool
  isDefault : Bool
  createdAt : Timestamp
  updatedAt : Timestamp
  deriving Repr, DecidableEq

namespace ModelRow

/-- `model_name_key` and `model_single_default`. -/
def clash (a b : ModelRow) : Bool := a.name == b.name || a.isDefault && b.isDefault

/-- `model_max_context_check` and `model_default_is_available_check`. -/
def check (model : ModelRow) : Bool :=
  decide (0 < model.maxContext) && (!model.isDefault || model.isAvailable)

end ModelRow

/-- The `model` table.  The tables that refer to it are not written here. -/
def modelSchema : Schema ModelRow where
  references _ := []
  cascades _ := []
  setNull _ model := model
  depth := 0
  clash := ModelRow.clash
  check := ModelRow.check

/-- The statements on the table.  A commit is labelled with what it is the commit of. -/
inductive ModelStatement where
  | FindModel
  | FindByName
  | FindDefault
  | CreateModel
  | UpdateModel
  | ClearDefault
  | SetDefault
  | ReturnModel
  | CommitCreate
  | CommitDefault
  /-- The service had read `model`, and the transaction leaves `updated`. -/
  | CommitUpdate (model updated : ModelRow)
  deriving Repr, DecidableEq

/-- `AdminModel`, with `Date`s for their ISO strings. -/
structure AdminModel where
  id : Uuid
  name : JsString
  maxContext : ℤ
  isAvailable : Bool
  isDefault : Bool
  installed : Option Bool
  createdAt : Timestamp
  updatedAt : Timestamp
  deriving Repr, DecidableEq

/-- How a call ends.  One whose transaction violates a constraint fails. -/
inductive ModelReply where
  | Presented (model : AdminModel)
  | Conflict (message : String)
  | NotFound (message : String)
  | Seeded
  deriving Repr, DecidableEq

/-- A call, as the table sees it. -/
abbrev ModelProg : Type := Prog ModelRow ModelStatement ModelReply

/-- `UpdateModelRecord`; `undefined` leaves the column. -/
structure UpdateModelRecord where
  maxContext : Option ℤ
  isAvailable : Option Bool
  deriving Repr, DecidableEq

/-! ## What the statements write

Each of them sets `updated_at` as well, so two transactions that write the same flags still leave
different rows. -/

/-- `data: { max_context, is_available }`. -/
def withData (now : Timestamp) (data : UpdateModelRecord) (model : ModelRow) : ModelRow :=
  { model with
    maxContext := data.maxContext.getD model.maxContext
    isAvailable := data.isAvailable.getD model.isAvailable
    updatedAt := now }

/-- `data: { is_default: false }`. -/
def clearDefault (now : Timestamp) (model : ModelRow) : ModelRow :=
  { model with isDefault := false, updatedAt := now }

/-- `data: { is_default: true, is_available: true }`. -/
def markDefault (now : Timestamp) (model : ModelRow) : ModelRow :=
  { model with isDefault := true, isAvailable := true, updatedAt := now }

/-- A new row; `is_default` has its default. -/
def newModel (now : Timestamp) (name : JsString) (maxContext : ℤ) (isAvailable : Bool) :
    ModelRow where
  name := name
  maxContext := maxContext
  isAvailable := isAvailable
  isDefault := false
  createdAt := now
  updatedAt := now

/-! ## The repository

In the words of the source, with `next` for what the caller does afterwards. -/

/-- The row that a statement returns. -/
def returning (id : Uuid) (next : ModelRow → ModelProg) : ModelProg :=
  .read .ReturnModel fun db =>
    match db.rows id with
    | none => .rollback .failed
    | some model => next model

/-- `model.update({ where: { id }, data })`. -/
def updateRow (label : ModelStatement) (id : Uuid) (data : ModelRow → ModelRow)
    (next : ModelRow → ModelProg) : ModelProg :=
  .update label (fun k _ => k == id && true) data fun count =>
    if count = 0 then .rollback .failed else returning id next

/-- The two statements of a switch.  The first one takes the flag from every other row that has it,
so that the second one is not refused by the index. -/
def applyDefault (now : Timestamp) (id : Uuid) (next : ModelRow → ModelProg) : ModelProg :=
  .update .ClearDefault (fun k model => model.isDefault && k != id) (clearDefault now) fun _ =>
    updateRow .SetDefault id (markDefault now) next

/-- `updateWithDefault`, up to its COMMIT. -/
def updateWithDefault (now : Timestamp) (id : Uuid) (data : UpdateModelRecord) (makeDefault : Bool)
    (next : ModelRow → ModelProg) : ModelProg :=
  updateRow .UpdateModel id (withData now data) fun updated =>
    if makeDefault then applyDefault now id next else next updated

def setDefault (now : Timestamp) (id : Uuid) (next : ModelRow → ModelProg) : ModelProg :=
  applyDefault now id fun model => .commit .CommitDefault (next model)

/-- `create`. -/
def createModel (row : ModelRow) (next : Uuid → ModelProg) : ModelProg :=
  .insert .CreateModel (fun _ => row) fun id => .commit .CommitCreate (next id)

def findByName (db : Db ModelRow) (name : JsString) : Option Uuid :=
  (db.keysWhere fun _ model => model.name == name).head?

def seedDefault (now : Timestamp) (name : JsString) (maxContext : ℤ)
    (next : ModelRow → ModelProg) : ModelProg :=
  .read .FindByName fun db =>
    match findByName db name with
    | some id => setDefault now id next
    | none => createModel (newModel now name maxContext true) fun id => setDefault now id next

end RagStack
