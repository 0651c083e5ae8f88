import RagStack.Usage.ReportsAgree
import Mathlib.Order.WithBot

/-!
# The pages of the reports

A page is cut out of a sorted list by `LIMIT` and `OFFSET`.  The lists are sorted by columns of
PostgreSQL; what an administrator sees are other values, computed from other columns.

For somebody who goes through the pages two things matter.  Each row should be on one page and on no
other, whatever the size of the pages, and the order should be that of the numbers on the screen.
The first holds for any list that does not change between the queries, and it is a fact about `drop`
and `take`.  It needs that the list is the same for every page, so that the query has to sort by a
total order: with ties left open PostgreSQL could put them in another order on the next page.  The
queries break ties by a time and then by the id, and ids are distinct.

The second takes a comparison of two orders.  The query sorts by sums in columns that the page does
not show, and treats NULL as it does; the page shows totals in which NULL has become zero.  So there
are two keys, and it is shown that they order the owners in the same way.

A list that fails has no pages.  The theorem says for the lists of owners that the pages are there
exactly if what the query computes fits, and for the rows of one owner that they always are.

* `flatMap_pages` — the pages of a size, one after the other, are the list.
* `listKey` — the order of a list page by what it shows.
* `CutInPages` — the pages of a report are one list, each row of it once, in the order of a key.
* `reports_cut_in_pages` — so are the pages of users, of anonymous sessions and of usage rows.
-/

namespace RagStack

/-! ## Pages of a list

Pages of one size, one behind the other, are the list. -/

section Cut

variable {ρ ι : Type}

/-- Page `n + 1` of a size. -/
def pageNumber (pageSize : ℕ) (hsize : 1 ≤ pageSize ∧ pageSize ≤ 100) (n : ℕ) : PageRequest :=
  ⟨n + 1, pageSize, Nat.succ_pos n, hsize⟩

/-- The first pages of a list are its front. -/
lemma flatMap_pages (rows : List ρ) {pageSize : ℕ} (hsize : 1 ≤ pageSize ∧ pageSize ≤ 100)
    (k : ℕ) :
    (List.range k).flatMap (fun n => (pageNumber pageSize hsize n).of rows)
      = rows.take (k * pageSize) := by
  induction k with
  | zero => simp
  | succ k ih =>
      have hlast : (pageNumber pageSize hsize k).of rows
          = (rows.drop (k * pageSize)).take pageSize := rfl
      rw [List.range_succ, List.flatMap_append, ih, List.flatMap_singleton, hlast, Nat.succ_mul,
        List.take_add]

lemma PageRequest.map_of (page : PageRequest) (f : ρ → ι) (rows : List ρ) :
    (page.of rows).map f = page.of (rows.map f) := by
  simp only [PageRequest.of, List.map_take, List.map_drop]

variable {κ : Type} [LinearOrder κ]

/-- **The pages of a report are one list**: the rows that the report is about, each of them once, in
the order of a key, whatever the size of the pages.  Every page tells how many there are. -/
structure CutInPages (rows : List ρ) (row : ι → ρ) (key : ι → κ)
    (report : PageRequest → Paginated ι) (items : List ι) : Prop where
  perm : (items.map row).Perm rows
  sorted : items.Pairwise fun a b => key a < key b
  page : ∀ page, report page = ⟨page.of items, page.page, page.pageSize, rows.length⟩
  whole : ∀ pageSize (hsize : 1 ≤ pageSize ∧ pageSize ≤ 100) k, rows.length ≤ k * pageSize →
    (List.range k).flatMap (fun n => (report (pageNumber pageSize hsize n)).items) = items

/-- The last part follows from the others. -/
lemma cutInPages {rows : List ρ} {row : ι → ρ} {key : ι → κ} {report : PageRequest → Paginated ι}
    {items : List ι} (hrows : (items.map row).Perm rows)
    (hsorted : items.Pairwise fun a b => key a < key b)
    (hpage : ∀ page, report page = ⟨page.of items, page.page, page.pageSize, rows.length⟩) :
    CutInPages rows row key report items where
  perm := hrows
  sorted := hsorted
  page := hpage
  whole pageSize hsize k hk := by
    have hlength : items.length = rows.length := by
      rw [← hrows.length_eq, List.length_map]
    simp only [hpage, flatMap_pages]
    exact List.take_of_length_le (hlength ▸ hk)

end Cut

/-! ## The order of a list page

A key is a triple that is compared from left to right, the first two downwards. -/

abbrev ListKey : Type := (WithBot ℕ)ᵒᵈ ×ₗ (ℕᵒᵈ ×ₗ ℕ)

def toListKey (sorted : WithBot ℕ) (tie : Timestamp) (id : Uuid) : ListKey :=
  toLex (OrderDual.toDual sorted, toLex (OrderDual.toDual tie, id))

lemma toListKey_le_iff {a b : WithBot ℕ} {s t : Timestamp} {i j : Uuid} :
    toListKey a s i ≤ toListKey b t j ↔ b < a ∨ a = b ∧ (t < s ∨ s = t ∧ i ≤ j) := by
  simp [toListKey, Prod.Lex.toLex_le_toLex]

lemma toListKey_id {a b : WithBot ℕ} {s t : Timestamp} {i j : Uuid}
    (h : toListKey a s i = toListKey b t j) : i = j := by
  simp only [toListKey, EmbeddingLike.apply_eq_iff_eq, Prod.mk.injEq] at h
  exact h.2.2

/-- A value that is behind all others if it is NULL. -/
def orBot : Option ℕ → WithBot ℕ
  | none => ⊥
  | some value => WithBot.some value

/-- The place of an owner on a list page, by what the page shows of it. -/
def listKey {ρ : Type} (id : ρ → Uuid) (createdAt tie : ρ → Timestamp) (sort : AdminSort)
    (owner : ρ) (usage : UsageTotals) : ListKey :=
  match sort with
  | .LastActivity => toListKey (orBot usage.lastActivityAt) (tie owner) (id owner)
  | .TotalTokens => toListKey (orBot (some usage.totalTokens)) (tie owner) (id owner)
  | .CreatedAt => toListKey (orBot (some (createdAt owner))) 0 (id owner)

/-- The place of an owner on a list page, by the columns of the query. -/
def columnsKey {ρ : Type} (id : ρ → Uuid) (createdAt tie : ρ → Timestamp) (sort : AdminSort)
    (row : ρ × UsageAggregateColumns) : ListKey :=
  match sort with
  | .LastActivity => toListKey (orBot row.2.lastActivityAt) (tie row.1) (id row.1)
  | .TotalTokens => toListKey (orBot (some (row.2.totalTokens.getD 0))) (tie row.1) (id row.1)
  | .CreatedAt => toListKey (orBot (some (createdAt row.1))) 0 (id row.1)

section Order

variable {ρ : Type} {id : ρ → Uuid} {createdAt tie : ρ → Timestamp} {sort : AdminSort}

lemma then_ne_gt_iff (o o' : Ordering) :
    (o.then o') ≠ .gt ↔ o = .lt ∨ o = .eq ∧ o' ≠ .gt := by
  cases o <;> cases o' <;> decide

lemma then_eq_lt_iff (o o' : Ordering) : (o.then o') = .lt ↔ o = .lt ∨ o = .eq ∧ o' = .lt := by
  cases o <;> cases o' <;> decide

lemma then_eq_eq_iff (o o' : Ordering) : (o.then o') = .eq ↔ o = .eq ∧ o' = .eq := by
  cases o <;> cases o' <;> decide

lemma desc_lt_iff {a b : ℕ} : desc a b = .lt ↔ b < a := by
  rw [desc, compare_lt_iff_lt]

lemma desc_eq_iff {a b : ℕ} : desc a b = .eq ↔ a = b := by
  rw [desc, compare_eq_iff_eq, eq_comm]

@[simp] lemma orBot_some_lt_iff {a b : ℕ} : orBot (some a) < orBot (some b) ↔ a < b :=
  WithBot.coe_lt_coe

@[simp] lemma orBot_some_inj {a b : ℕ} : orBot (some a) = orBot (some b) ↔ a = b :=
  WithBot.coe_inj

lemma bot_lt_orBot_some (a : ℕ) : orBot none < orBot (some a) := WithBot.bot_lt_coe a

lemma descNullsLast_lt_iff {a b : Option ℕ} :
    descNullsLast a b = .lt ↔ orBot b < orBot a := by
  cases a with
  | none => cases b with
    | none => simp [descNullsLast]
    | some b => simp [descNullsLast, (bot_lt_orBot_some b).le]
  | some a => cases b with
    | none => simp [descNullsLast, bot_lt_orBot_some a]
    | some b => simp [descNullsLast, desc_lt_iff]

lemma descNullsLast_eq_iff {a b : Option ℕ} :
    descNullsLast a b = .eq ↔ orBot a = orBot b := by
  cases a with
  | none => cases b with
    | none => simp [descNullsLast]
    | some b => simp [descNullsLast, (bot_lt_orBot_some b).ne]
  | some a => cases b with
    | none => simp [descNullsLast, (bot_lt_orBot_some a).ne']
    | some b => simp [descNullsLast, desc_eq_iff]

/-- `ORDER BY` is the order of a key. -/
lemma sortOrdering_iff (a b : ρ × UsageAggregateColumns) :
    (sortOrdering createdAt tie sort a b).then (compare (id a.1) (id b.1)) ≠ .gt
      ↔ columnsKey id createdAt tie sort a ≤ columnsKey id createdAt tie sort b := by
  have hid : compare (id a.1) (id b.1) ≠ .gt ↔ id a.1 ≤ id b.1 := by
    rw [ne_eq, compare_gt_iff_gt, not_lt]
  rw [then_ne_gt_iff, hid]
  cases sort with
  | LastActivity =>
      simp only [sortOrdering, columnsKey, toListKey_le_iff, then_eq_lt_iff, then_eq_eq_iff,
        descNullsLast_lt_iff, descNullsLast_eq_iff, desc_lt_iff, desc_eq_iff]
      tauto
  | TotalTokens =>
      simp only [sortOrdering, columnsKey, toListKey_le_iff, then_eq_lt_iff, then_eq_eq_iff,
        orBot_some_lt_iff, orBot_some_inj, desc_lt_iff, desc_eq_iff]
      tauto
  | CreatedAt =>
      simp only [sortOrdering, columnsKey, toListKey_le_iff, desc_lt_iff, desc_eq_iff,
        orBot_some_lt_iff, orBot_some_inj, lt_irrefl, false_or, true_and]

lemma insertionSort_congr {r r' : ρ → ρ → Prop} [DecidableRel r] [DecidableRel r']
    (h : ∀ a b, r a b ↔ r' a b) (rows : List ρ) : rows.insertionSort r = rows.insertionSort r' := by
  obtain rfl : r = r' := funext fun a => funext fun b => propext (h a b)
  congr

end Order

/-! ## The lists of owners

Sorting by the columns of the query is sorting by the key of what is shown. -/

section Owners

variable {ρ ι : Type} {id : ρ → Uuid} {createdAt tie : ρ → Timestamp}
  {ownerColumn : UsageLogRow → Option Uuid} {range : UsageRange} {sort : AdminSort}
  {owners : List ρ} {log : List UsageLogRow}

/-- The sum that a list is sorted by is the sum that it shows. -/
lemma columnsKey_joinUsage {groups : List (Option Uuid × List UsageLogRow)}
    {row : ρ × UsageAggregateColumns}
    (hrow : row ∈ joinUsage id owners (groups.map fun group => (group.1, columnsOf sort group.2))) :
    columnsKey id createdAt tie sort row
      = listKey id createdAt tie sort row.1 (toUsageTotals row.2) := by
  obtain ⟨owner, -, rfl⟩ := List.mem_map.mp hrow
  cases sort with
  | LastActivity | CreatedAt => rfl
  | TotalTokens =>
      simp only [columnsKey, listKey, toUsageTotals]
      cases hfind : (groups.map fun group => (group.1, columnsOf .TotalTokens group.2)).find?
          (·.1 = some (id owner)) with
      | none => rfl
      | some found =>
          obtain ⟨group, -, rfl⟩ := List.mem_map.mp (List.mem_of_find?_eq_some hfind)
          simp [columnsOf, toSafeNumber, List.sum_map_add]

/-- The owners of a list page are in the order of what the page shows. -/
lemma sortedOwners_pairwise (hnodup : (owners.map id).Nodup) :
    (sortedOwners id createdAt tie ownerColumn range sort owners log).Pairwise fun a b =>
      listKey id createdAt tie sort a.1 (toUsageTotals a.2)
        < listKey id createdAt tie sort b.1 (toUsageTotals b.2) := by
  have hsorted : sortedOwners id createdAt tie ownerColumn range sort owners log
      = oldestFirst (columnsKey id createdAt tie sort) (joinUsage id owners
        ((groupRows ownerColumn (ownedRows ownerColumn range log)).map fun group =>
          (group.1, columnsOf sort group.2))) := insertionSort_congr sortOrdering_iff _
  have hids : ((sortedOwners id createdAt tie ownerColumn range sort owners log).map
      fun row => id row.1).Nodup := by
    refine ((List.perm_insertionSort _ _).map fun row : ρ × UsageAggregateColumns =>
      id row.1).nodup_iff.mpr ?_
    rwa [joinUsage, List.map_map]
  rw [hsorted] at hids ⊢
  refine ((oldestFirst_pairwise _).and (List.pairwise_map.mp hids)).imp_of_mem ?_
  rintro a b ha hb ⟨hle, hne⟩
  rw [← columnsKey_joinUsage (mem_oldestFirst.mp ha), ← columnsKey_joinUsage (mem_oldestFirst.mp hb)]
  refine lt_of_le_of_ne hle fun heq => hne ?_
  cases sort with
  | LastActivity | TotalTokens | CreatedAt => exact toListKey_id heq

lemma sortedOwners_perm :
    ((sortedOwners id createdAt tie ownerColumn range sort owners log).map Prod.fst).Perm owners := by
  refine ((List.perm_insertionSort _ _).map Prod.fst).trans ?_
  rw [joinUsage, List.map_map]
  exact .of_eq (List.map_id'' (fun _ => rfl) owners)

/-- The pages of a list that may fail are one list: no page fails, and together they are cut out of
it. -/
def ListedInPages {κ : Type} [LinearOrder κ] (rows : List ρ) (row : ι → ρ) (key : ι → κ)
    (list : PageRequest → Except JsError (Paginated ι)) : Prop :=
  ∃ report items, (∀ page, list page = .ok (report page)) ∧ CutInPages rows row key report items

/-- A list of owners is cut into pages exactly if what its query computes fits. -/
lemma listedInPages_iff (item : ρ × UsageAggregateColumns → ι) (hnodup : (owners.map id).Nodup)
    {row : ι → ρ} {usage : ι → UsageTotals} (hrow : ∀ columns, row (item columns) = columns.1)
    (husage : ∀ columns, usage (item columns) = toUsageTotals columns.2)
    {list : PageRequest → Except JsError (Paginated ι)}
    (hlist : ∀ page, list page
      = (listOwnersWithUsage id createdAt tie ownerColumn sort range page owners log).map
        fun rows => ⟨rows.map item, page.page, page.pageSize, owners.length⟩) :
    ListedInPages owners row (fun shown => listKey id createdAt tie sort (row shown) (usage shown))
        list
      ↔ ListFits ownerColumn range sort log := by
  constructor
  · rintro ⟨report, items, hok, -⟩
    have hpage := hok ⟨1, 1, le_rfl, le_rfl, by decide⟩
    rw [hlist] at hpage
    cases hrows : listOwnersWithUsage id createdAt tie ownerColumn sort range
        ⟨1, 1, le_rfl, le_rfl, by decide⟩ owners log with
    | error e =>
        rw [hrows] at hpage
        cases hpage
    | ok rows => exact (listOwnersWithUsage_eq_ok_iff.mp hrows).1
  · intro hfits
    let sorted := sortedOwners id createdAt tie ownerColumn range sort owners log
    refine ⟨fun page => ⟨page.of (sorted.map item), page.page, page.pageSize, owners.length⟩,
      sorted.map item, fun page => ?_, cutInPages ?_ ?_ fun page => rfl⟩
    · rw [hlist, listOwnersWithUsage_eq_ok_iff.mpr ⟨hfits, rfl⟩]
      simp only [Except.map, PageRequest.map_of]
      rfl
    · rw [List.map_map, show row ∘ item = Prod.fst from funext hrow]
      exact sortedOwners_perm
    · rw [List.pairwise_map]
      simp only [hrow, husage]
      exact sortedOwners_pairwise hnodup

end Owners

/-! ## The reports

The three reports that have pages. -/

section Reports

variable {db : UsageDb} {owner : UsageOwner} {range : UsageRange}

/-- A usage row as it is shown. -/
def usageRowOf (db : UsageDb) (row : UsageLogRow) : UsageRow where
  id := row.id
  createdAt := row.createdAt
  model := ((db.models.find? (·.id = row.modelId)).map Model.name).getD ""
  kind := toWireKind row.kind
  inputTokens := row.inputTokens
  outputTokens := row.outputTokens
  chatId := row.chatId

/-- No row is left out for its model: the foreign key is in force. -/
lemma filterMap_usageRow {rows : List UsageLogRow} (hrows : ∀ row ∈ rows, row ∈ db.log.rows) :
    (rows.filterMap fun row => (db.models.find? (·.id = row.modelId)).map fun model =>
      (⟨row.id, row.createdAt, model.name, toWireKind row.kind, row.inputTokens, row.outputTokens,
        row.chatId⟩ : UsageRow)) = rows.map (usageRowOf db) := by
  rw [← List.filterMap_eq_map]
  refine List.filterMap_congr fun row hrow => ?_
  obtain ⟨model, hmodel, hid⟩ := db.log.hasModel row (hrows row hrow)
  obtain ⟨found, hfound⟩ : ∃ found, db.models.find? (·.id = row.modelId) = some found := by
    rw [← Option.isSome_iff_exists, List.find?_isSome]
    exact ⟨model, hmodel, decide_eq_true hid⟩
  simp [usageRowOf, hfound]

/-- The place of a usage row: the newest first. -/
def usageRowKey (row : UsageRow) : (Timestamp ×ₗ Uuid)ᵒᵈ :=
  OrderDual.toDual (toLex (row.createdAt, row.id))

lemma listRows_cut :
    ∃ items, CutInPages ((db.log.rows.filter (toUsageWhere owner range)).map (·.id)) UsageRow.id
      usageRowKey (listRows db owner range) items := by
  let key : UsageLogRow → Timestamp ×ₗ Uuid := fun row => toLex (row.createdAt, row.id)
  let rows := db.log.rows.filter (toUsageWhere owner range)
  refine ⟨(newestFirst key rows).map (usageRowOf db), cutInPages ?_ ?_ fun page => ?_⟩
  · rw [List.map_map]
    exact (newestFirst_perm rows).map _
  · rw [List.pairwise_map]
    have hids : (rows.map (·.id)).Nodup := (List.filter_sublist.map _).nodup db.log.nodup
    have hkeys : (rows.map key).Nodup := by
      refine List.Nodup.of_map (fun place : Timestamp ×ₗ Uuid => (ofLex place).2) ?_
      rwa [List.map_map]
    exact newestFirst_pairwise hkeys
  · have hpage : ∀ row ∈ page.of (newestFirst key rows), row ∈ db.log.rows := fun row hrow =>
      List.mem_of_mem_filter (mem_newestFirst.mp (PageRequest.mem_of hrow))
    rw [listRows, List.length_map, ← PageRequest.map_of, ← filterMap_usageRow hpage]

lemma listUsers_cut {searchSql : AdminUser → Bool} {sort : AdminSort} :
    ListedInPages (db.users.filter searchSql) AdminUserListItem.user
        (fun item => listKey (·.id) (·.createdAt) (·.createdAt) sort item.user item.usage)
        (listUsers db searchSql sort range)
      ↔ ListFits (·.userId) range sort db.log.rows := by
  refine listedInPages_iff (fun row => ⟨row.1, toUsageTotals row.2⟩)
    ((List.filter_sublist.map _).nodup db.users_nodup) (fun _ => rfl) (fun _ => rfl) fun page => ?_
  simp only [listUsers, listUsersWithUsage]
  cases listOwnersWithUsage (·.id) (·.createdAt) (·.createdAt) (·.userId) sort range page
      (db.users.filter searchSql) db.log.rows with
  | error e => rfl
  | ok rows => rfl

lemma listAnonymous_cut {sort : AdminSort} :
    ListedInPages (db.sessions.filter (hasActivity db)) AdminAnonymousListItem.session
        (fun item => listKey (·.id) (·.createdAt) (·.lastSeenAt) sort item.session item.usage)
        (listAnonymous db sort range)
      ↔ ListFits (·.anonymousSessionId) range sort db.log.rows := by
  refine listedInPages_iff (fun row => ⟨row.1,
      db.chats.countP (·.anonymousSessionId = some row.1.id), toUsageTotals row.2⟩)
    ((List.filter_sublist.map _).nodup db.sessions_nodup) (fun _ => rfl) (fun _ => rfl)
    fun page => ?_
  simp only [listAnonymous, listAnonymousWithUsage]
  cases listOwnersWithUsage (·.id) (·.createdAt) (·.lastSeenAt) (·.anonymousSessionId) sort range
      page (db.sessions.filter (hasActivity db)) db.log.rows with
  | error e => rfl
  | ok rows => rfl

/-- **The pages of the reports are one list each.**  Users and anonymous sessions are in the order
of what a page shows of them; their pages are there exactly if what the query computes fits. -/
theorem reports_cut_in_pages (db : UsageDb) (searchSql : AdminUser → Bool) (sort : AdminSort)
    (owner : UsageOwner) (range : UsageRange) :
    (ListedInPages (db.users.filter searchSql) AdminUserListItem.user
        (fun item => listKey (·.id) (·.createdAt) (·.createdAt) sort item.user item.usage)
        (listUsers db searchSql sort range)
      ↔ ListFits (·.userId) range sort db.log.rows)
    ∧ (ListedInPages (db.sessions.filter (hasActivity db)) AdminAnonymousListItem.session
        (fun item => listKey (·.id) (·.createdAt) (·.lastSeenAt) sort item.session item.usage)
        (listAnonymous db sort range)
      ↔ ListFits (·.anonymousSessionId) range sort db.log.rows)
    ∧ ∃ items, CutInPages ((db.log.rows.filter (toUsageWhere owner range)).map (·.id)) UsageRow.id
        usageRowKey (listRows db owner range) items :=
  ⟨listUsers_cut, listAnonymous_cut, listRows_cut⟩

end Reports

end RagStack
