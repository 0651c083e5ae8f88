import RagStack.Chats.Types
import RagStack.Core.CursorPaging
import RagStack.Core.GroupBy
import RagStack.Core.Except
import Mathlib.Data.Prod.Lex

/-!
# Usage reports

What an administrator sees of the usage log: the list pages of users and of anonymous sessions, and
the totals, the breakdown and the rows of one owner.  The list pages join one SQL fragment that
groups the log by owner; the others filter the log by owner.

The same numbers are therefore computed in two ways.  The list pages use raw SQL, where the
grouping, the sum and the sorting happen in one query, and the other reports go through Prisma.
That they agree is not a matter of course, and it fails in one place: SQL computes in types.  An
INTEGER column holds at most `int4Max`, and PostgreSQL adds two of them as INTEGERs, although the
sum over the rows is taken in a larger type.  `COUNT(*)::int` is converted as well.  So a query may
fail on rows that each satisfy their constraints.

PostgreSQL computes a column of a subquery only if it is used.  The column with the sums of both
kinds of tokens is used for sorting only, so the same log can be listed in one order and not in
another.  A report that fails has no value, and this is modelled by `Except`, in the order in which
the query computes its columns.

The definitions are those of the SQL and of the services, one for each fragment.  NULLs are kept as
`Option`, since a LEFT JOIN has them where an owner has no usage, and their place in an order is
part of the query.

* `usageAggregateSql`, `listUsersWithUsage`, `listAnonymousWithUsage` — the list pages.
* `toUsageWhere`, `getTotals`, `getBreakdown`, `listRows` — `UsageReportingService`.

INTEGER columns hold at most `int4Max`.  PostgreSQL adds two of them as INTEGERs, and computes a
column of a subquery only if it is used.
-/

namespace RagStack

/-! ## The log

A row with the columns the reports read.  Its foreign key into `model` is what makes the names in
the breakdown available. -/

/-- `UsageKind` of the database. -/
inductive DbUsageKind where
  | Chat
  | Summary
  | AdminSummary
  deriving Repr, DecidableEq

def DbUsageKind.rank : DbUsageKind → ℕ
  | Chat => 0
  | Summary => 1
  | AdminSummary => 2

def toWireKind : DbUsageKind → String
  | .Chat => "chat"
  | .Summary => "summary"
  | .AdminSummary => "admin_summary"

/-- A row of `usage_log` with all its columns. -/
structure UsageLogRow where
  id : Uuid
  userId : Option Uuid
  anonymousSessionId : Option Uuid
  chatId : Option Uuid
  modelId : Uuid
  kind : DbUsageKind
  inputTokens : ℕ
  outputTokens : ℕ
  createdAt : Timestamp
  deriving Repr, DecidableEq

/-- The largest INTEGER of PostgreSQL, 2^31 - 1. -/
def int4Max : ℕ := 2147483647

/-- PostgreSQL's error for a greater one, as Prisma reports it. -/
def integerOutOfRange : JsError := .Coded "P2010" (some "integer out of range")

/-- The table `usage_log`: its key, its INTEGER columns, its foreign key into `model`. -/
structure UsageLogTable (models : List Model) where
  rows : List UsageLogRow
  nodup : (rows.map (·.id)).Nodup
  int4 : ∀ row ∈ rows, row.inputTokens ≤ int4Max ∧ row.outputTokens ≤ int4Max
  hasModel : ∀ row ∈ rows, ∃ model ∈ models, model.id = row.modelId

/-- A row of `user`, as an administrator sees it. -/
structure AdminUser where
  id : Uuid
  email : String
  displayName : Option String
  createdAt : Timestamp
  deriving Repr, DecidableEq

/-- A row of `anonymous_session`, as an administrator sees it. -/
structure AdminAnonymousSession where
  id : Uuid
  createdAt : Timestamp
  lastSeenAt : Timestamp
  expiresAt : Timestamp
  deriving Repr, DecidableEq

/-- The tables the reports read, with their keys.  The log comes with its own constraints. -/
structure UsageDb where
  models : List Model
  users : List AdminUser
  sessions : List AdminAnonymousSession
  chats : List Chat
  log : UsageLogTable models
  models_nodup : (models.map Model.id).Nodup
  users_nodup : (users.map (·.id)).Nodup
  sessions_nodup : (sessions.map (·.id)).Nodup

inductive UsageOwner where
  | User (id : Uuid)
  | Anonymous (id : Uuid)
  deriving Repr, DecidableEq

structure UsageRange where
  from_ : Option Timestamp
  to_ : Option Timestamp
  deriving Repr, DecidableEq

/-- `PageRequest`, as `toPageRequest` and the query's validation leave it. -/
structure PageRequest where
  page : ℕ
  pageSize : ℕ
  one_le_page : 1 ≤ page
  pageSize_mem : 1 ≤ pageSize ∧ pageSize ≤ 100

/-- `LIMIT pageSize OFFSET (page - 1) * pageSize`. -/
def PageRequest.of {ρ : Type} (page : PageRequest) (rows : List ρ) : List ρ :=
  (rows.drop ((page.page - 1) * page.pageSize)).take page.pageSize

/-! ## The aggregate of the list pages

Grouping, and the columns of a group. -/

structure UsageTotals where
  requests : ℕ
  inputTokens : ℕ
  outputTokens : ℕ
  totalTokens : ℕ
  lastActivityAt : Option Timestamp
  deriving Repr, DecidableEq

/-- `UsageAggregateColumns`, and the column for sorting. -/
structure UsageAggregateColumns where
  requests : Option ℕ
  inputTokens : Option ℕ
  outputTokens : Option ℕ
  lastActivityAt : Option Timestamp
  totalTokens : Option ℕ
  deriving Repr, DecidableEq

/-- `AdminUserSort`, which the lists of users and of anonymous sessions share. -/
inductive AdminSort where
  | LastActivity
  | TotalTokens
  | CreatedAt
  deriving Repr, DecidableEq

def usageRangeSql (range : UsageRange) (row : UsageLogRow) : Bool :=
  (match range.from_ with
    | some from_ => decide (from_ ≤ row.createdAt)
    | none => true)
  && (match range.to_ with
    | some to_ => decide (row.createdAt < to_)
    | none => true)

/-- `input_tokens + output_tokens`. -/
def tokensOf (row : UsageLogRow) : Except JsError ℕ :=
  if row.inputTokens + row.outputTokens ≤ int4Max then .ok (row.inputTokens + row.outputTokens)
  else .error integerOutOfRange

/-- `COUNT(*)::int`. -/
def countInt4 (rows : List UsageLogRow) : Except JsError ℕ :=
  if rows.length ≤ int4Max then .ok rows.length else .error integerOutOfRange

/-- `SUM(input_tokens + output_tokens)`, which one sort uses.  The addition is one of INTEGERs, row
by row, so it can be out of range before anything is summed. -/
def sumTokens (sort : AdminSort) (rows : List UsageLogRow) : Except JsError (Option ℕ) :=
  match sort with
  | .TotalTokens => (rows.mapM tokensOf).map sqlSum
  | .LastActivity | .CreatedAt => .ok none

def aggregateGroup (sort : AdminSort) (rows : List UsageLogRow) :
    Except JsError UsageAggregateColumns := do
  let requests ← countInt4 rows
  let totalTokens ← sumTokens sort rows
  return {
    requests := some requests
    inputTokens := sqlSum (rows.map (·.inputTokens))
    outputTokens := sqlSum (rows.map (·.outputTokens))
    lastActivityAt := sqlMax (rows.map (·.createdAt))
    totalTokens }

/-- `usageAggregateSql`, with the column of the owner. -/
def usageAggregateSql (ownerColumn : UsageLogRow → Option Uuid) (range : UsageRange)
    (sort : AdminSort) (log : List UsageLogRow) :
    Except JsError (List (Option Uuid × UsageAggregateColumns)) :=
  (groupRows ownerColumn (log.filter fun row =>
    (ownerColumn row).isSome && usageRangeSql range row)).mapM fun group =>
      (aggregateGroup sort group.2).map fun columns => (group.1, columns)

/-- The columns a LEFT JOIN has for an owner without a group. -/
def UsageAggregateColumns.null : UsageAggregateColumns := ⟨none, none, none, none, none⟩

/-- `LEFT JOIN (…) s ON s.owner_id = id`. -/
def joinUsage {ρ : Type} (id : ρ → Uuid) (owners : List ρ)
    (aggregates : List (Option Uuid × UsageAggregateColumns)) : List (ρ × UsageAggregateColumns) :=
  owners.map fun owner =>
    (owner, ((aggregates.find? (·.1 = some (id owner))).map Prod.snd).getD .null)

/-- `toSafeNumber`; a number is exact below 2^53. -/
def toSafeNumber (value : Option ℕ) : ℕ := value.getD 0

def toUsageTotals (row : UsageAggregateColumns) : UsageTotals where
  requests := row.requests.getD 0
  inputTokens := toSafeNumber row.inputTokens
  outputTokens := toSafeNumber row.outputTokens
  totalTokens := toSafeNumber row.inputTokens + toSafeNumber row.outputTokens
  lastActivityAt := row.lastActivityAt

/-! ## The list pages

Two lists with one query, which differ in the table of owners and in the time that breaks ties. -/

structure Paginated (α : Type) where
  items : List α
  page : ℕ
  pageSize : ℕ
  total : ℕ
  deriving Repr, DecidableEq

/-- `x DESC`. -/
def desc (a b : ℕ) : Ordering := compare b a

/-- `x DESC NULLS LAST`. -/
def descNullsLast : Option ℕ → Option ℕ → Ordering
  | none, none => .eq
  | none, some _ => .gt
  | some _, none => .lt
  | some a, some b => desc a b

/-- The columns of `SORTS`, with the time that breaks ties.  An owner without usage has no last
activity, and comes last in that order. -/
def sortOrdering {ρ : Type} (createdAt tie : ρ → Timestamp) (sort : AdminSort)
    (a b : ρ × UsageAggregateColumns) : Ordering :=
  match sort with
  | .LastActivity =>
      (descNullsLast a.2.lastActivityAt b.2.lastActivityAt).then (desc (tie a.1) (tie b.1))
  | .TotalTokens =>
      (desc (a.2.totalTokens.getD 0) (b.2.totalTokens.getD 0)).then (desc (tie a.1) (tie b.1))
  | .CreatedAt => desc (createdAt a.1) (createdAt b.1)

/-- The query of a list page: the owners with their aggregates, sorted and cut. -/
def listOwnersWithUsage {ρ : Type} (id : ρ → Uuid) (createdAt tie : ρ → Timestamp)
    (ownerColumn : UsageLogRow → Option Uuid) (sort : AdminSort) (range : UsageRange)
    (page : PageRequest) (owners : List ρ) (log : List UsageLogRow) :
    Except JsError (List (ρ × UsageAggregateColumns)) := do
  let aggregates ← usageAggregateSql ownerColumn range sort log
  return page.of ((joinUsage id owners aggregates).insertionSort fun a b =>
    (sortOrdering createdAt tie sort a b).then (compare (id a.1) (id b.1)) ≠ .gt)

/-- `AdminUsersRepository.listWithUsage` for the users that `searchSql` keeps. -/
def listUsersWithUsage (db : UsageDb) (searchSql : AdminUser → Bool) (sort : AdminSort)
    (range : UsageRange) (page : PageRequest) :
    Except JsError (List (AdminUser × UsageAggregateColumns)) :=
  listOwnersWithUsage (·.id) (·.createdAt) (·.createdAt) (·.userId) sort range page
    (db.users.filter searchSql) db.log.rows

/-- `HAS_ACTIVITY`. -/
def hasActivity (db : UsageDb) (session : AdminAnonymousSession) : Bool :=
  db.log.rows.any (·.anonymousSessionId = some session.id)
    || db.chats.any (·.anonymousSessionId = some session.id)

/-- `AdminAnonymousSessionsRepository.listWithUsage`. -/
def listAnonymousWithUsage (db : UsageDb) (sort : AdminSort) (range : UsageRange)
    (page : PageRequest) : Except JsError (List (AdminAnonymousSession × UsageAggregateColumns)) :=
  listOwnersWithUsage (·.id) (·.createdAt) (·.lastSeenAt) (·.anonymousSessionId) sort range page
    (db.sessions.filter (hasActivity db)) db.log.rows

structure AdminUserListItem where
  user : AdminUser
  usage : UsageTotals
  deriving Repr, DecidableEq

structure AdminAnonymousListItem where
  session : AdminAnonymousSession
  chatCount : ℕ
  usage : UsageTotals
  deriving Repr, DecidableEq

/-- `AdminUsersService.list`. -/
def listUsers (db : UsageDb) (searchSql : AdminUser → Bool) (sort : AdminSort) (range : UsageRange)
    (page : PageRequest) : Except JsError (Paginated AdminUserListItem) := do
  let rows ← listUsersWithUsage db searchSql sort range page
  return {
    items := rows.map fun row => ⟨row.1, toUsageTotals row.2⟩
    page := page.page
    pageSize := page.pageSize
    total := (db.users.filter searchSql).length }

/-- `AdminAnonymousSessionsService.list`. -/
def listAnonymous (db : UsageDb) (sort : AdminSort) (range : UsageRange) (page : PageRequest) :
    Except JsError (Paginated AdminAnonymousListItem) := do
  let rows ← listAnonymousWithUsage db sort range page
  return {
    items := rows.map fun row =>
      ⟨row.1, db.chats.countP (·.anonymousSessionId = some row.1.id), toUsageTotals row.2⟩
    page := page.page
    pageSize := page.pageSize
    total := (db.sessions.filter (hasActivity db)).length }

/-! ## The reports of one owner

They filter the log by the column of the owner, and add in JavaScript what Prisma has summed. -/

def toUsageWhere (owner : UsageOwner) (range : UsageRange) (row : UsageLogRow) : Bool :=
  (match owner with
    | .User id => decide (row.userId = some id)
    | .Anonymous id => decide (row.anonymousSessionId = some id))
  && (if range.from_.isSome || range.to_.isSome then
        range.from_.all (· ≤ row.createdAt) && range.to_.all (row.createdAt < ·)
      else true)

def getTotals (db : UsageDb) (owner : UsageOwner) (range : UsageRange) : UsageTotals :=
  let rows := db.log.rows.filter (toUsageWhere owner range)
  let inputTokens := toSafeNumber (sqlSum (rows.map (·.inputTokens)))
  let outputTokens := toSafeNumber (sqlSum (rows.map (·.outputTokens)))
  { requests := rows.length
    inputTokens
    outputTokens
    totalTokens := inputTokens + outputTokens
    lastActivityAt := sqlMax (rows.map (·.createdAt)) }

structure UsageBreakdownItem where
  model : String
  kind : String
  requests : ℕ
  inputTokens : ℕ
  outputTokens : ℕ
  deriving Repr, DecidableEq

/-- The groups of `breakdown`, ordered by `model_id` and `kind`. -/
def breakdownGroups (rows : List UsageLogRow) : List ((Uuid × DbUsageKind) × List UsageLogRow) :=
  oldestFirst (fun group => (toLex (group.1.1, group.1.2.rank) : Uuid ×ₗ ℕ))
    (groupRows (fun row => (row.modelId, row.kind)) rows)

def getBreakdown (db : UsageDb) (owner : UsageOwner) (range : UsageRange) :
    List UsageBreakdownItem :=
  (breakdownGroups (db.log.rows.filter (toUsageWhere owner range))).map fun group =>
    { model := ((db.models.find? (·.id = group.1.1)).map Model.name).getD "unknown"
      kind := toWireKind group.1.2
      requests := group.2.length
      inputTokens := toSafeNumber (sqlSum (group.2.map (·.inputTokens)))
      outputTokens := toSafeNumber (sqlSum (group.2.map (·.outputTokens))) }

structure UsageRow where
  id : Uuid
  createdAt : Timestamp
  model : String
  kind : String
  inputTokens : ℕ
  outputTokens : ℕ
  chatId : Option Uuid
  deriving Repr, DecidableEq

def listRows (db : UsageDb) (owner : UsageOwner) (range : UsageRange) (page : PageRequest) :
    Paginated UsageRow where
  items := (page.of (newestFirst (fun row => (toLex (row.createdAt, row.id) : Timestamp ×ₗ Uuid))
      (db.log.rows.filter (toUsageWhere owner range)))).filterMap fun row =>
    (db.models.find? (·.id = row.modelId)).map fun model =>
      ⟨row.id, row.createdAt, model.name, toWireKind row.kind, row.inputTokens, row.outputTokens,
        row.chatId⟩
  page := page.page
  pageSize := page.pageSize
  total := (db.log.rows.filter (toUsageWhere owner range)).length

end RagStack
