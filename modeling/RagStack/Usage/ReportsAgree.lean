import RagStack.Usage.Reporting

/-!
# The usage reports agree

All reports are sums over the rows of one owner in a range.  The list pages find these rows as a
group of the log, the breakdown splits them into groups again.  Only one thing sets the list pages
apart: they add the two token columns of a row before they sum, as INTEGERs.

So the first step is to reduce every report to the rows of its owner (`ownUsage`).  For the totals
and the rows this is the filter they use.  For a list page it is a lemma about grouping: looking up
an owner among the groups of a log gives the rows of that owner, and a LEFT JOIN gives the empty sum
where there is no group.  For the breakdown it is another one: the groups of some rows are a
partition of them, so a sum over groups of sums is the sum over the rows.

After this, agreement is a matter of when the list page has a value at all.  It fails exactly if a
group has too many rows to count, or if a row has too many tokens and the order needs their sum.
Both are conditions on the log, per owner and within the range; they do not mention the page or the
search, because PostgreSQL aggregates before it joins.  That is why an owner whom a search excludes
can make the list fail.

The theorem is an equivalence for each order and range.  For the orders in which the sum of tokens
is not used, the condition is about the number of rows only.

* `ownUsage` — the rows of an owner in a range.
* `usageAggregateSql_eq_ok_iff` — what the groups become, and when PostgreSQL cannot compute it.
* `joined_totals` — the totals on a list page are those of the rows of the owner.
* `sum_getBreakdown` — so are the sums of the breakdown.
* `usageReports_agree_iff` — the reports agree exactly if what the list page computes fits.
-/

namespace RagStack

def UsageOwner.column : UsageOwner → UsageLogRow → Option Uuid
  | User _, row => row.userId
  | Anonymous _, row => row.anonymousSessionId

def UsageOwner.id : UsageOwner → Uuid
  | User id | Anonymous id => id

/-- The rows of an owner in a range, by the column of the owner. -/
def ownUsage (ownerColumn : UsageLogRow → Option Uuid) (id : Uuid) (range : UsageRange)
    (log : List UsageLogRow) : List UsageLogRow :=
  log.filter fun row => ownerColumn row = some id && usageRangeSql range row

def totalsOf (rows : List UsageLogRow) : UsageTotals where
  requests := rows.length
  inputTokens := (rows.map (·.inputTokens)).sum
  outputTokens := (rows.map (·.outputTokens)).sum
  totalTokens := (rows.map (·.inputTokens)).sum + (rows.map (·.outputTokens)).sum
  lastActivityAt := sqlMax (rows.map (·.createdAt))

section Where

variable {owner : UsageOwner} {range : UsageRange} {log : List UsageLogRow}

/-- The two spellings of the range are one. -/
lemma usageRange_eq (row : UsageLogRow) :
    (if range.from_.isSome || range.to_.isSome then
        range.from_.all (· ≤ row.createdAt) && range.to_.all (row.createdAt < ·)
      else true) = usageRangeSql range row := by
  simp only [usageRangeSql]
  cases range.from_ with
  | none => cases range.to_ <;> simp
  | some from_ => cases range.to_ <;> simp

lemma filter_toUsageWhere :
    log.filter (toUsageWhere owner range) = ownUsage owner.column owner.id range log := by
  unfold ownUsage toUsageWhere
  refine List.filter_congr fun row _ => ?_
  rw [usageRange_eq]
  cases owner <;> rfl

lemma getTotals_eq (db : UsageDb) :
    getTotals db owner range = totalsOf (ownUsage owner.column owner.id range db.log.rows) := by
  simp only [getTotals, filter_toUsageWhere, toSafeNumber, sqlSum_getD, totalsOf]

end Where

/-! ## The aggregate

What a group becomes and when it does not, and then the same for all groups at once, since one
failing group makes the query fail. -/

/-- The numbers of a group fit into INTEGERs, as far as they are computed. -/
def GroupFits (sort : AdminSort) (rows : List UsageLogRow) : Prop :=
  rows.length ≤ int4Max
    ∧ (sort = .TotalTokens → ∀ row ∈ rows, row.inputTokens + row.outputTokens ≤ int4Max)

def columnsOf (sort : AdminSort) (rows : List UsageLogRow) : UsageAggregateColumns where
  requests := some rows.length
  inputTokens := sqlSum (rows.map (·.inputTokens))
  outputTokens := sqlSum (rows.map (·.outputTokens))
  lastActivityAt := sqlMax (rows.map (·.createdAt))
  totalTokens := match sort with
    | .TotalTokens => sqlSum (rows.map fun row => row.inputTokens + row.outputTokens)
    | .LastActivity | .CreatedAt => none

lemma mapM_tokensOf {rows : List UsageLogRow}
    (hfits : ∀ row ∈ rows, row.inputTokens + row.outputTokens ≤ int4Max) :
    rows.mapM tokensOf = .ok (rows.map fun row => row.inputTokens + row.outputTokens) := by
  rw [mapM_eq_ok_iff, List.map_map]
  exact List.map_congr_left fun row hrow => if_pos (hfits row hrow)

/-- A group is aggregated if its numbers fit. -/
lemma aggregateGroup_of_fits {sort : AdminSort} {rows : List UsageLogRow}
    (hfits : GroupFits sort rows) : aggregateGroup sort rows = .ok (columnsOf sort rows) := by
  have hcount : countInt4 rows = .ok rows.length := if_pos hfits.1
  have htotal : sumTokens sort rows = .ok (columnsOf sort rows).totalTokens := by
    cases sort with
    | TotalTokens => simp only [sumTokens, mapM_tokensOf (hfits.2 rfl), Except.map, columnsOf]
    | LastActivity | CreatedAt => rfl
  simp only [aggregateGroup, hcount, htotal, bind, Except.bind]
  rfl

lemma fits_of_aggregateGroup {sort : AdminSort} {rows : List UsageLogRow}
    {columns : UsageAggregateColumns} (h : aggregateGroup sort rows = .ok columns) :
    GroupFits sort rows := by
  simp only [aggregateGroup] at h
  obtain ⟨requests, hcount, h⟩ := bind_eq_ok.mp h
  obtain ⟨totalTokens, htotal, -⟩ := bind_eq_ok.mp h
  refine ⟨?_, ?_⟩
  · unfold countInt4 at hcount
    split at hcount
    · assumption
    · cases hcount
  · rintro rfl row hrow
    simp only [sumTokens] at htotal
    cases hrows : rows.mapM tokensOf with
    | error e =>
        simp only [hrows, Except.map] at htotal
        cases htotal
    | ok values =>
        obtain ⟨value, hvalue⟩ := exists_mapM_eq_ok_iff.mp ⟨values, hrows⟩ row hrow
        simp only [tokensOf] at hvalue
        split at hvalue
        · assumption
        · cases hvalue

section Aggregate

variable {ownerColumn : UsageLogRow → Option Uuid} {range : UsageRange} {sort : AdminSort}
  {log : List UsageLogRow}

/-- **What the list page computes fits** into INTEGERs: every owner has at most `int4Max` rows in
the range and, if the page is sorted by total tokens, every such row has at most `int4Max` tokens.
-/
def ListFits (ownerColumn : UsageLogRow → Option Uuid) (range : UsageRange) (sort : AdminSort)
    (log : List UsageLogRow) : Prop :=
  ∀ id, GroupFits sort (ownUsage ownerColumn id range log)

def ownedRows (ownerColumn : UsageLogRow → Option Uuid) (range : UsageRange)
    (log : List UsageLogRow) : List UsageLogRow :=
  log.filter fun row => (ownerColumn row).isSome && usageRangeSql range row

lemma filter_ownedRows (id : Uuid) :
    (ownedRows ownerColumn range log).filter (ownerColumn · = some id)
      = ownUsage ownerColumn id range log := by
  simp only [ownedRows, ownUsage]
  rw [List.filter_filter]
  refine List.filter_congr fun row _ => ?_
  by_cases hid : ownerColumn row = some id
  · simp [hid]
  · simp [hid]

/-- Every group is the rows of an owner. -/
lemma exists_owner_of_mem {group : Option Uuid × List UsageLogRow}
    (hgroup : group ∈ groupRows ownerColumn (ownedRows ownerColumn range log)) :
    ∃ id, group = (some id, ownUsage ownerColumn id range log) := by
  obtain ⟨k, hk, rfl⟩ := List.mem_map.mp hgroup
  obtain ⟨row, hrow, rfl⟩ := List.mem_map.mp (List.mem_dedup.mp hk)
  have hsome := (List.mem_filter.mp hrow).2
  rw [Bool.and_eq_true] at hsome
  obtain ⟨id, hid⟩ := Option.isSome_iff_exists.mp hsome.1
  exact ⟨id, by rw [hid, filter_ownedRows]⟩

lemma listFits_iff :
    ListFits ownerColumn range sort log
      ↔ ∀ group ∈ groupRows ownerColumn (ownedRows ownerColumn range log),
        GroupFits sort group.2 := by
  constructor
  · intro h group hgroup
    obtain ⟨id, rfl⟩ := exists_owner_of_mem hgroup
    exact h id
  · intro h id
    by_cases hnil : ownUsage ownerColumn id range log = []
    · rw [hnil]
      exact ⟨Nat.zero_le _, by simp⟩
    · obtain ⟨row, hrow⟩ := List.exists_mem_of_ne_nil _ hnil
      have howned := hrow
      rw [← filter_ownedRows, List.mem_filter, decide_eq_true_eq] at howned
      refine h (some id, ownUsage ownerColumn id range log) (List.mem_map.mpr ⟨some id, ?_, ?_⟩)
      · exact List.mem_dedup.mpr (List.mem_map.mpr ⟨row, howned⟩)
      · rw [filter_ownedRows]

/-- **What the aggregate returns**, if it does. -/
lemma usageAggregateSql_eq_ok_iff {aggregates : List (Option Uuid × UsageAggregateColumns)} :
    usageAggregateSql ownerColumn range sort log = .ok aggregates
      ↔ ListFits ownerColumn range sort log
        ∧ aggregates = (groupRows ownerColumn (ownedRows ownerColumn range log)).map fun group =>
          (group.1, columnsOf sort group.2) := by
  have hmap : ListFits ownerColumn range sort log →
      (groupRows ownerColumn (ownedRows ownerColumn range log)).map (fun group =>
          (aggregateGroup sort group.2).map fun columns => (group.1, columns))
        = ((groupRows ownerColumn (ownedRows ownerColumn range log)).map fun group =>
          (group.1, columnsOf sort group.2)).map .ok := by
    intro hfits
    rw [List.map_map]
    refine List.map_congr_left fun group hgroup => ?_
    rw [aggregateGroup_of_fits (listFits_iff.mp hfits group hgroup)]
    rfl
  show (groupRows ownerColumn (ownedRows ownerColumn range log)).mapM _ = _ ↔ _
  constructor
  · intro h
    have hfits : ListFits ownerColumn range sort log := by
      rw [listFits_iff]
      intro group hgroup
      obtain ⟨columns, hcolumns⟩ := exists_mapM_eq_ok_iff.mp ⟨aggregates, h⟩ group hgroup
      cases haggregate : aggregateGroup sort group.2 with
      | error e =>
          rw [haggregate] at hcolumns
          cases hcolumns
      | ok columns => exact fits_of_aggregateGroup haggregate
    rw [mapM_eq_ok_iff, hmap hfits] at h
    exact ⟨hfits, (List.map_injective_iff.mpr (fun _ _ => Except.ok.inj) h).symm⟩
  · rintro ⟨hfits, rfl⟩
    rw [mapM_eq_ok_iff]
    exact hmap hfits

/-- The totals of an owner on a list page. -/
lemma joined_totals (id : Uuid) :
    toUsageTotals (((((groupRows ownerColumn (ownedRows ownerColumn range log)).map fun group =>
      (group.1, columnsOf sort group.2)).find? (·.1 = some id)).map Prod.snd).getD .null)
      = totalsOf (ownUsage ownerColumn id range log) := by
  have hfind : ((groupRows ownerColumn (ownedRows ownerColumn range log)).map fun group =>
      (group.1, columnsOf sort group.2)).find? (·.1 = some id)
      = ((groupRows ownerColumn (ownedRows ownerColumn range log)).find? (·.1 = some id)).map
        fun group => (group.1, columnsOf sort group.2) := List.find?_map
  rw [hfind, find?_groupRows, filter_ownedRows]
  split
  · simp [toUsageTotals, columnsOf, toSafeNumber, totalsOf]
  · rename_i hnot
    have hnil : ownUsage ownerColumn id range log = [] := by
      rw [← filter_ownedRows, List.filter_eq_nil_iff]
      intro row hrow hid
      exact hnot (List.mem_map.mpr ⟨row, hrow, of_decide_eq_true hid⟩)
    rw [hnil]
    rfl

end Aggregate

/-! ## The pages

The join finds for each owner the rows of that owner. -/

section Pages

variable {ρ : Type} {id : ρ → Uuid} {createdAt tie : ρ → Timestamp}
  {ownerColumn : UsageLogRow → Option Uuid} {range : UsageRange} {sort : AdminSort}
  {page : PageRequest} {owners : List ρ} {log : List UsageLogRow}

lemma PageRequest.mem_of {rows : List ρ} {row : ρ} (hrow : row ∈ page.of rows) : row ∈ rows :=
  List.mem_of_mem_drop (List.mem_of_mem_take hrow)

lemma exists_page {rows : List ρ} {row : ρ} (hrow : row ∈ rows) {pageSize : ℕ}
    (hsize : 1 ≤ pageSize ∧ pageSize ≤ 100) :
    ∃ page : PageRequest, page.pageSize = pageSize ∧ row ∈ page.of rows := by
  obtain ⟨i, hi, rfl⟩ := List.mem_iff_getElem.mp hrow
  refine ⟨⟨i / pageSize + 1, pageSize, Nat.succ_le_succ (Nat.zero_le _), hsize⟩, rfl, ?_⟩
  have hdiv : pageSize * (i / pageSize) + i % pageSize = i := Nat.div_add_mod i pageSize
  have hmod : i % pageSize < pageSize := Nat.mod_lt i hsize.1
  simp only [PageRequest.of, Nat.add_sub_cancel, Nat.mul_comm (i / pageSize)]
  refine List.mem_iff_getElem.mpr ⟨i % pageSize, ?_, ?_⟩
  · rw [List.length_take, List.length_drop]
    omega
  · simp only [List.getElem_take, List.getElem_drop, hdiv]

variable (id createdAt tie ownerColumn range sort owners log) in
/-- All owners with their columns, in the order of a list page. -/
def sortedOwners : List (ρ × UsageAggregateColumns) :=
  (joinUsage id owners ((groupRows ownerColumn (ownedRows ownerColumn range log)).map fun group =>
    (group.1, columnsOf sort group.2))).insertionSort fun a b =>
      (sortOrdering createdAt tie sort a b).then (compare (id a.1) (id b.1)) ≠ .gt

lemma mem_sortedOwners {row : ρ × UsageAggregateColumns} :
    row ∈ sortedOwners id createdAt tie ownerColumn range sort owners log
      ↔ ∃ owner ∈ owners, (owner, ((((groupRows ownerColumn (ownedRows ownerColumn range log)).map
        fun group => (group.1, columnsOf sort group.2)).find? (·.1 = some (id owner))).map
          Prod.snd).getD .null) = row := by
  simp only [sortedOwners, joinUsage]
  rw [List.mem_insertionSort, List.mem_map]

/-- What a list page returns, if it does. -/
lemma listOwnersWithUsage_eq_ok_iff {rows : List (ρ × UsageAggregateColumns)} :
    listOwnersWithUsage id createdAt tie ownerColumn sort range page owners log = .ok rows
      ↔ ListFits ownerColumn range sort log
        ∧ rows = page.of (sortedOwners id createdAt tie ownerColumn range sort owners log) := by
  simp only [listOwnersWithUsage]
  rw [bind_eq_ok]
  constructor
  · rintro ⟨aggregates, haggregates, hrows⟩
    obtain ⟨hfits, rfl⟩ := usageAggregateSql_eq_ok_iff.mp haggregates
    exact ⟨hfits, (Except.ok.inj hrows).symm⟩
  · rintro ⟨hfits, rfl⟩
    exact ⟨_, usageAggregateSql_eq_ok_iff.mpr ⟨hfits, rfl⟩, rfl⟩

end Pages

/-! ## The breakdown

A sum over groups of sums. -/

section Breakdown

variable {db : UsageDb} {owner : UsageOwner} {range : UsageRange}

/-- **The sums of the breakdown** are sums over the rows. -/
lemma sum_breakdownGroups (f : UsageLogRow → ℕ) (rows : List UsageLogRow) :
    ((breakdownGroups rows).map fun group => (group.2.map f).sum).sum = (rows.map f).sum := by
  simp only [breakdownGroups]
  rw [((oldestFirst_perm _).map _).sum_eq]
  exact sum_groupRows f

/-- The breakdown of some rows, for a column that sums a number of each row. -/
lemma sum_getBreakdown {column : UsageBreakdownItem → ℕ} {f : UsageLogRow → ℕ}
    (hcolumn : ∀ model kind (rows : List UsageLogRow), column ⟨model, kind, rows.length,
      (rows.map (·.inputTokens)).sum, (rows.map (·.outputTokens)).sum⟩ = (rows.map f).sum) :
    ((getBreakdown db owner range).map column).sum
      = ((ownUsage owner.column owner.id range db.log.rows).map f).sum := by
  rw [← sum_breakdownGroups f, ← filter_toUsageWhere, getBreakdown, List.map_map]
  refine congrArg List.sum (List.map_congr_left fun group _ => ?_)
  simp only [Function.comp_apply, toSafeNumber, sqlSum_getD, hcolumn]

end Breakdown

/-! ## Agreement

A page shows an owner if its list has it, and every owner is on some page. -/

/-- **The reports on an owner agree** with the totals that a list page shows. -/
structure ReportsAgree (db : UsageDb) (owner : UsageOwner) (range : UsageRange)
    (usage : UsageTotals) : Prop where
  totals : getTotals db owner range = usage
  requests : ((getBreakdown db owner range).map (·.requests)).sum = usage.requests
  inputTokens : ((getBreakdown db owner range).map (·.inputTokens)).sum = usage.inputTokens
  outputTokens : ((getBreakdown db owner range).map (·.outputTokens)).sum = usage.outputTokens
  rows : ∀ page, (listRows db owner range page).total = usage.requests

/-- All reports of an owner are about the rows of the owner. -/
lemma reportsAgree_totalsOf (db : UsageDb) (owner : UsageOwner) (range : UsageRange) :
    ReportsAgree db owner range
      (totalsOf (ownUsage owner.column owner.id range db.log.rows)) where
  totals := getTotals_eq db
  requests := by
    rw [sum_getBreakdown (f := fun _ => 1) fun _ _ rows => by simp]
    simp only [totalsOf, List.map_const', List.sum_replicate_nat, mul_one]
  inputTokens := sum_getBreakdown fun _ _ _ => rfl
  outputTokens := sum_getBreakdown fun _ _ _ => rfl
  rows page := by
    simp only [listRows, filter_toUsageWhere, totalsOf]

/-- A list page of users, as its owners and their totals. -/
def userTotals (db : UsageDb) (searchSql : AdminUser → Bool) (sort : AdminSort)
    (range : UsageRange) (page : PageRequest) : Except JsError (List (UsageOwner × UsageTotals)) :=
  (listUsers db searchSql sort range page).map fun list =>
    list.items.map fun item => (.User item.user.id, item.usage)

/-- A list page of anonymous sessions, as its owners and their totals. -/
def anonymousTotals (db : UsageDb) (sort : AdminSort) (range : UsageRange) (page : PageRequest) :
    Except JsError (List (UsageOwner × UsageTotals)) :=
  (listAnonymous db sort range page).map fun list =>
    list.items.map fun item => (.Anonymous item.session.id, item.usage)

/-- **A list agrees with the reports on its owners**: its pages are there, every owner is on one of
them, and the totals that a page shows are those of the other reports. -/
structure ListAgrees (db : UsageDb) (range : UsageRange) (owners : List UsageOwner)
    (listPage : PageRequest → Except JsError (List (UsageOwner × UsageTotals))) : Prop where
  answers : ∀ page, ∃ items, listPage page = .ok items
  shown : ∀ owner ∈ owners, ∀ pageSize, 1 ≤ pageSize ∧ pageSize ≤ 100 →
    ∃ page : PageRequest, page.pageSize = pageSize
      ∧ ∃ items usage, listPage page = .ok items ∧ (owner, usage) ∈ items
  agree : ∀ {page items}, listPage page = .ok items →
    ∀ item ∈ items, ReportsAgree db item.1 range item.2

section List

variable {ρ : Type} {id : ρ → Uuid} {createdAt tie : ρ → Timestamp}
  {ownerColumn : UsageLogRow → Option Uuid} {range : UsageRange} {sort : AdminSort}
  {db : UsageDb} {owners : List ρ} {ownerOf : Uuid → UsageOwner}
  {listPage : PageRequest → Except JsError (List (UsageOwner × UsageTotals))}

variable (id ownerOf) in
/-- The list of some owners agrees if and only if what its query computes fits. -/
lemma listAgrees_iff (hcolumn : ∀ x, (ownerOf x).column = ownerColumn)
    (hid : ∀ x, (ownerOf x).id = x)
    (hlist : ∀ page, listPage page
      = (listOwnersWithUsage id createdAt tie ownerColumn sort range page owners
          db.log.rows).map fun rows =>
        rows.map fun row => (ownerOf (id row.1), toUsageTotals row.2)) :
    ListAgrees db range (owners.map fun owner => ownerOf (id owner)) listPage
      ↔ ListFits ownerColumn range sort db.log.rows := by
  have hok : ∀ {page items}, listPage page = .ok items
      ↔ ListFits ownerColumn range sort db.log.rows
        ∧ items = (page.of (sortedOwners id createdAt tie ownerColumn range sort owners
            db.log.rows)).map fun row => (ownerOf (id row.1), toUsageTotals row.2) := by
    intro page items
    rw [hlist]
    constructor
    · intro h
      cases hrows : listOwnersWithUsage id createdAt tie ownerColumn sort range page owners
          db.log.rows with
      | error e =>
          rw [hrows] at h
          cases h
      | ok rows =>
          rw [hrows] at h
          obtain ⟨hfits, rfl⟩ := listOwnersWithUsage_eq_ok_iff.mp hrows
          exact ⟨hfits, (Except.ok.inj h).symm⟩
    · rintro ⟨hfits, rfl⟩
      rw [listOwnersWithUsage_eq_ok_iff.mpr ⟨hfits, rfl⟩]
      rfl
  constructor
  · intro h
    obtain ⟨items, hitems⟩ := h.answers ⟨1, 1, le_rfl, le_rfl, by decide⟩
    exact (hok.mp hitems).1
  · intro hfits
    refine ⟨fun page => ⟨_, hok.mpr ⟨hfits, rfl⟩⟩, ?_, ?_⟩
    · intro owner howner pageSize hsize
      obtain ⟨row, hrow, rfl⟩ := List.mem_map.mp howner
      obtain ⟨page, hpage, hmem⟩ := exists_page (mem_sortedOwners.mpr ⟨row, hrow, rfl⟩) hsize
      exact ⟨page, hpage, _, _, hok.mpr ⟨hfits, rfl⟩, List.mem_map_of_mem hmem⟩
    · intro page items hitems item hitem
      obtain ⟨-, rfl⟩ := hok.mp hitems
      obtain ⟨row, hrow, rfl⟩ := List.mem_map.mp hitem
      obtain ⟨owner, -, rfl⟩ := mem_sortedOwners.mp (PageRequest.mem_of hrow)
      have hagree := reportsAgree_totalsOf db (ownerOf (id owner)) range
      rwa [hcolumn, hid, ← @joined_totals ownerColumn range sort] at hagree

end List

/-! ## Rows without an owner

Rows whose owner was deleted stay in the log with both columns NULL, and they are in no report. -/

def UsageLogRow.Ownerless (row : UsageLogRow) : Prop :=
  row.userId = none ∧ row.anonymousSessionId = none

instance (row : UsageLogRow) : Decidable row.Ownerless := inferInstanceAs (Decidable (_ ∧ _))

def UsageLogTable.filter {models : List Model} (table : UsageLogTable models)
    (keep : UsageLogRow → Bool) : UsageLogTable models where
  rows := table.rows.filter keep
  nodup := (List.filter_sublist.map _).nodup table.nodup
  int4 row hrow := table.int4 row (List.mem_of_mem_filter hrow)
  hasModel row hrow := table.hasModel row (List.mem_of_mem_filter hrow)

/-- The database without the rows of nobody. -/
def UsageDb.owned (db : UsageDb) : UsageDb :=
  { db with log := db.log.filter fun row => ¬ row.Ownerless }

section Owned

variable {db : UsageDb}

/-- A predicate that no row of nobody meets finds the same rows. -/
lemma filter_owned {keep : UsageLogRow → Bool} (hkeep : ∀ row, keep row → ¬ row.Ownerless) :
    db.owned.log.rows.filter keep = db.log.rows.filter keep := by
  show (db.log.rows.filter _).filter _ = _
  rw [List.filter_filter]
  refine List.filter_congr fun row _ => ?_
  by_cases hrow : keep row
  · simp [hrow, hkeep row hrow]
  · simp [hrow]

lemma filter_toUsageWhere_owned (owner : UsageOwner) (range : UsageRange) :
    db.owned.log.rows.filter (toUsageWhere owner range)
      = db.log.rows.filter (toUsageWhere owner range) := by
  refine filter_owned fun row hrow hnone => ?_
  cases owner with
  | User id => simp [toUsageWhere, hnone.1] at hrow
  | Anonymous id => simp [toUsageWhere, hnone.2] at hrow

lemma ownedRows_owned {ownerColumn : UsageLogRow → Option Uuid} {range : UsageRange}
    (hcolumn : ∀ row : UsageLogRow, row.Ownerless → ownerColumn row = none) :
    ownedRows ownerColumn range db.owned.log.rows = ownedRows ownerColumn range db.log.rows := by
  refine filter_owned fun row hrow hnone => ?_
  simp [hcolumn row hnone] at hrow

lemma listOwnersWithUsage_owned {ρ : Type} {id : ρ → Uuid} {createdAt tie : ρ → Timestamp}
    {ownerColumn : UsageLogRow → Option Uuid} {sort : AdminSort} {range : UsageRange}
    {page : PageRequest} {owners : List ρ}
    (hcolumn : ∀ row : UsageLogRow, row.Ownerless → ownerColumn row = none) :
    listOwnersWithUsage id createdAt tie ownerColumn sort range page owners db.owned.log.rows
      = listOwnersWithUsage id createdAt tie ownerColumn sort range page owners db.log.rows := by
  have hrows := @ownedRows_owned db ownerColumn range hcolumn
  simp only [ownedRows] at hrows
  simp only [listOwnersWithUsage, usageAggregateSql, hrows]

lemma hasActivity_owned (session : AdminAnonymousSession) :
    hasActivity db.owned session = hasActivity db session := by
  simp only [hasActivity]
  refine congrArg (· || _) (Bool.eq_iff_iff.mpr ?_)
  simp only [List.any_eq_true, decide_eq_true_eq]
  refine exists_congr fun row => ?_
  constructor
  · rintro ⟨hrow, hid⟩
    exact ⟨List.mem_of_mem_filter hrow, hid⟩
  · rintro ⟨hrow, hid⟩
    refine ⟨List.mem_filter.mpr ⟨hrow, ?_⟩, hid⟩
    simp [UsageLogRow.Ownerless, hid]

end Owned

/-- **Rows of nobody count in no report.** -/
structure OwnerlessIgnored (db : UsageDb) : Prop where
  getTotals : ∀ owner range, getTotals db.owned owner range = getTotals db owner range
  getBreakdown : ∀ owner range, getBreakdown db.owned owner range = getBreakdown db owner range
  listRows : ∀ owner range page, listRows db.owned owner range page = listRows db owner range page
  listUsers : ∀ searchSql sort range page,
    listUsers db.owned searchSql sort range page = listUsers db searchSql sort range page
  listAnonymous : ∀ sort range page,
    listAnonymous db.owned sort range page = listAnonymous db sort range page

lemma ownerlessIgnored (db : UsageDb) : OwnerlessIgnored db where
  getTotals owner range := by
    simp only [RagStack.getTotals, filter_toUsageWhere_owned]
  getBreakdown owner range := by
    simp only [RagStack.getBreakdown, filter_toUsageWhere_owned]
    rfl
  listRows owner range page := by
    simp only [RagStack.listRows, filter_toUsageWhere_owned]
    rfl
  listUsers searchSql sort range page := by
    simp only [RagStack.listUsers, listUsersWithUsage]
    rw [listOwnersWithUsage_owned fun row hrow => hrow.1]
    rfl
  listAnonymous sort range page := by
    have hactive : hasActivity db.owned = hasActivity db := funext hasActivity_owned
    simp only [RagStack.listAnonymous, listAnonymousWithUsage, hactive]
    rw [listOwnersWithUsage_owned fun row hrow => hrow.2]
    rfl

/-- **The reports agree**: the lists of users and of anonymous sessions, in an order and for a
search, with the reports on their owners. -/
structure UsageReportsAgree (db : UsageDb) (searchSql : AdminUser → Bool) (sort : AdminSort)
    (range : UsageRange) : Prop where
  users : ListAgrees db range ((db.users.filter searchSql).map fun user => .User user.id)
    (userTotals db searchSql sort range)
  sessions : ListAgrees db range
    ((db.sessions.filter (hasActivity db)).map fun session => .Anonymous session.id)
    (anonymousTotals db sort range)
  ownerless : OwnerlessIgnored db

section Agree

variable {db : UsageDb} {searchSql : AdminUser → Bool} {sort : AdminSort} {range : UsageRange}

lemma listAgrees_users_iff :
    ListAgrees db range ((db.users.filter searchSql).map fun user => .User user.id)
        (userTotals db searchSql sort range)
      ↔ ListFits (·.userId) range sort db.log.rows := by
  have hlist : ∀ page, userTotals db searchSql sort range page
      = (listUsersWithUsage db searchSql sort range page).map fun rows =>
        rows.map fun row => (.User row.1.id, toUsageTotals row.2) := by
    intro page
    simp only [userTotals, listUsers]
    cases listUsersWithUsage db searchSql sort range page with
    | error e => rfl
    | ok rows => simp [bind, Except.bind, pure, Except.pure, Except.map]
  exact listAgrees_iff AdminUser.id .User (fun _ => rfl) (fun _ => rfl) hlist

lemma listAgrees_sessions_iff :
    ListAgrees db range
        ((db.sessions.filter (hasActivity db)).map fun session => .Anonymous session.id)
        (anonymousTotals db sort range)
      ↔ ListFits (·.anonymousSessionId) range sort db.log.rows := by
  have hlist : ∀ page, anonymousTotals db sort range page
      = (listAnonymousWithUsage db sort range page).map fun rows =>
        rows.map fun row => (.Anonymous row.1.id, toUsageTotals row.2) := by
    intro page
    simp only [anonymousTotals, listAnonymous]
    cases listAnonymousWithUsage db sort range page with
    | error e => rfl
    | ok rows => simp [bind, Except.bind, pure, Except.pure, Except.map]
  exact listAgrees_iff AdminAnonymousSession.id .Anonymous (fun _ => rfl) (fun _ => rfl) hlist

end Agree

/-- **The reports agree exactly if what the list pages compute fits**: no owner has more than
`int4Max` rows in the range, and if the pages are sorted by total tokens, no row of an owner in the
range has more than `int4Max` tokens. -/
theorem usageReports_agree_iff (db : UsageDb) (searchSql : AdminUser → Bool) (sort : AdminSort)
    (range : UsageRange) :
    UsageReportsAgree db searchSql sort range
      ↔ ListFits (·.userId) range sort db.log.rows
        ∧ ListFits (·.anonymousSessionId) range sort db.log.rows := by
  constructor
  · intro h
    exact ⟨listAgrees_users_iff.mp h.users, listAgrees_sessions_iff.mp h.sessions⟩
  · rintro ⟨husers, hsessions⟩
    exact ⟨listAgrees_users_iff.mpr husers, listAgrees_sessions_iff.mpr hsessions,
      ownerlessIgnored db⟩

/-! ## A row with too many tokens

Each column holds its value, and their sum is out of range. -/

/-- One user, and one row whose columns each fit and whose sum does not. -/
def largeUsage : UsageDb where
  models := [⟨1, "llama3", 1048576, true⟩]
  users := [⟨2, "a@b.de", none, 1⟩]
  sessions := []
  chats := []
  log := {
    rows := [⟨3, some 2, none, none, 1, .Chat, 2147483647, 1, 5⟩]
    nodup := by decide
    int4 := by decide
    hasModel := by decide }
  models_nodup := by decide
  users_nodup := by decide
  sessions_nodup := by decide

/-- PostgreSQL adds its columns before it sums, and finds the INTEGER out of range: sorted by total
tokens, the list of users fails. -/
theorem usageReports_tooManyTokens :
    ¬ ∀ (db : UsageDb) (searchSql : AdminUser → Bool) (sort : AdminSort) (range : UsageRange),
      UsageReportsAgree db searchSql sort range := by
  intro hagree
  obtain ⟨items, hitems⟩ :=
    (hagree largeUsage (fun _ => true) .TotalTokens ⟨none, none⟩).users.answers
      ⟨1, 25, le_rfl, by decide, by decide⟩
  have hfail : userTotals largeUsage (fun _ => true) .TotalTokens ⟨none, none⟩
      ⟨1, 25, le_rfl, by decide, by decide⟩ = .error integerOutOfRange := by decide +kernel
  rw [hfail] at hitems
  cases hitems

end RagStack
