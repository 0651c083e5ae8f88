import Mathlib.Data.List.Sort
import Mathlib.Order.Basic

/-!
# Reading a table page by page

A query returns rows, the largest key first.  A page is the front of its result, and the last row of
a page is the cursor of the next query, which looks the row up by its id, takes the rows at or after
it and drops the first of them.  Between two queries the table may change.

Nothing is lost and nothing comes twice while the row of the cursor keeps its key and stays visible.
If its key has changed, the query goes on from another place: rows in between are skipped, or shown
once more.  And if the row is no longer visible, the row that is dropped is another one.  Both are
covered by one notion, a cursor that is in place for a row, and the theorem is an equivalence for
each row and each page: how often the reader has shown the row is as it should be exactly as long as
all cursors were in place for it.

* `rowsFrom`, `findMany` — the query, without and with its limit.
* `mem_rowsFrom_some` — which rows are left behind a cursor: those that have a row in front of them
  that is at or after the cursor.
* `rowsFrom_congr`, `rowsFrom_of_not_mem`, `rowsFrom_of_front` — what a query tells about the table.
* `Reading`, `turnPage` — a reader: the pages so far, and the cursor with the key it had.
* `Reading.Shows.turnPage_iff` — a row is shown once exactly as long as every cursor is in place for
  it.
* `Reading.Follows.turnPage` — the pages are the rows in order if the cursors stay where they are.
-/

namespace RagStack

variable {ρ κ ι : Type*} [LinearOrder κ] [DecidableEq ι] (key : ρ → κ) (ident : ρ → ι)

/-! ## The query

Rows are sorted by a key and a cursor is looked up by its id.  The key of its row at the time of the
query decides what is behind it, which is not the key it had in the page it was taken from. -/

/-- `orderBy: desc`. -/
def newestFirst (rows : List ρ) : List ρ := rows.insertionSort fun a b => key b ≤ key a

/-- `orderBy: asc`. -/
def oldestFirst (rows : List ρ) : List ρ := rows.insertionSort fun a b => key a ≤ key b

/-- All rows behind a cursor.  It is looked up in the whole table, and one row is skipped. -/
def rowsFrom (visible : ρ → Bool) (cursor : Option ι) (table : List ρ) : List ρ :=
  match cursor with
  | none => newestFirst key (table.filter visible)
  | some cursor =>
      match table.find? (ident · = cursor) with
      | none => []
      | some row => ((newestFirst key (table.filter visible)).filter (key · ≤ key row)).drop 1

/-- `findMany({ where, orderBy, take, cursor, skip: 1 })`. -/
def findMany (visible : ρ → Bool) (take : ℕ) (cursor : Option ι) (table : List ρ) : List ρ :=
  (rowsFrom key ident visible cursor table).take take

section Rows

variable {key ident} {visible : ρ → Bool} {table : List ρ}

@[simp] lemma mem_newestFirst {rows : List ρ} {row : ρ} : row ∈ newestFirst key rows ↔ row ∈ rows :=
  List.mem_insertionSort _

@[simp] lemma length_newestFirst (rows : List ρ) : (newestFirst key rows).length = rows.length :=
  List.length_insertionSort _ _

lemma newestFirst_perm (rows : List ρ) : (newestFirst key rows).Perm rows :=
  List.perm_insertionSort _ _

lemma newestFirst_pairwise {rows : List ρ} (hnodup : (rows.map key).Nodup) :
    (newestFirst key rows).Pairwise fun a b => key b < key a := by
  have htotal : Std.Total fun a b : ρ => key b ≤ key a := ⟨fun a b => le_total (key b) (key a)⟩
  have htrans : IsTrans ρ fun a b => key b ≤ key a := ⟨fun a b c hab hbc => hbc.trans hab⟩
  have hle : (newestFirst key rows).Pairwise fun a b => key b ≤ key a :=
    List.pairwise_insertionSort _ rows
  have hne : (newestFirst key rows).Pairwise fun a b => key a ≠ key b :=
    List.pairwise_map.mp (((newestFirst_perm rows).map key).nodup_iff.mpr hnodup)
  exact (hle.and hne).imp fun h => lt_of_le_of_ne h.1 h.2.symm

/-- Rows in the order of their keys are what they hold. -/
lemma eq_of_pairwise_of_mem_iff {rows rows' : List ρ}
    (hrows : rows.Pairwise fun a b => key b < key a)
    (hrows' : rows'.Pairwise fun a b => key b < key a) (hmem : ∀ row, row ∈ rows ↔ row ∈ rows') :
    rows = rows' := by
  refine List.Perm.eq_of_pairwise (fun a b _ _ hab hba => ?_) hrows hrows' ?_
  · exact absurd hab hba.asymm
  · refine (List.perm_ext_iff_of_nodup ?_ ?_).mpr hmem
    · exact hrows.imp fun h heq => (heq ▸ h).false
    · exact hrows'.imp fun h heq => (heq ▸ h).false

@[simp] lemma mem_oldestFirst {rows : List ρ} {row : ρ} : row ∈ oldestFirst key rows ↔ row ∈ rows :=
  List.mem_insertionSort _

lemma oldestFirst_perm (rows : List ρ) : (oldestFirst key rows).Perm rows :=
  List.perm_insertionSort _ _

lemma oldestFirst_pairwise (rows : List ρ) :
    (oldestFirst key rows).Pairwise fun a b => key a ≤ key b := by
  have htotal : Std.Total fun a b : ρ => key a ≤ key b := ⟨fun a b => le_total (key a) (key b)⟩
  have htrans : IsTrans ρ fun a b => key a ≤ key b := ⟨fun a b c hab hbc => hab.trans hbc⟩
  exact List.pairwise_insertionSort _ rows

/-- The two orders are each other's reverse. -/
lemma reverse_newestFirst {rows : List ρ} (hnodup : (rows.map key).Nodup) :
    (newestFirst key rows).reverse = oldestFirst key rows := by
  have hreverse : (newestFirst key rows).reverse.Pairwise fun a b => key a ≤ key b := by
    rw [List.pairwise_reverse]
    exact (newestFirst_pairwise hnodup).imp le_of_lt
  refine List.Perm.eq_of_pairwise (fun a b ha hb hab hba => ?_) hreverse (oldestFirst_pairwise rows)
    ((List.reverse_perm _).trans ((newestFirst_perm rows).trans (oldestFirst_perm rows).symm))
  exact List.inj_on_of_nodup_map hnodup (mem_newestFirst.mp (List.mem_reverse.mp ha))
    (mem_oldestFirst.mp hb) (le_antisymm hab hba)

/-- Dropping the first row leaves those that have another one in front of them. -/
lemma mem_drop_one {rows : List ρ} (hrows : rows.Pairwise fun a b => key b < key a) {row : ρ} :
    row ∈ rows.drop 1 ↔ row ∈ rows ∧ ∃ other ∈ rows, key row < key other := by
  cases rows with
  | nil => simp
  | cons first rest =>
      rw [List.drop_one, List.tail_cons]
      obtain ⟨hfirst, -⟩ := List.pairwise_cons.mp hrows
      constructor
      · intro hrow
        exact ⟨List.mem_cons_of_mem _ hrow, first, List.mem_cons_self, hfirst row hrow⟩
      · rintro ⟨hrow, other, hother, hlt⟩
        rcases List.mem_cons.mp hrow with rfl | hrow
        · rcases List.mem_cons.mp hother with rfl | hother
          · exact absurd hlt (lt_irrefl _)
          · exact absurd hlt (hfirst other hother).asymm
        · exact hrow

/-- The front of the rows is what is not behind its last row. -/
lemma mem_take {rows : List ρ} (hrows : rows.Pairwise fun a b => key b < key a) {limit : ℕ}
    {last : ρ} (hlast : (rows.take limit).getLast? = some last) {row : ρ} :
    row ∈ rows.take limit ↔ row ∈ rows ∧ key last ≤ key row := by
  obtain ⟨front, hfront⟩ := List.getLast?_eq_some_iff.mp hlast
  constructor
  · intro hrow
    refine ⟨List.mem_of_mem_take hrow, ?_⟩
    have htake : (rows.take limit).Pairwise fun a b => key b < key a := hrows.take
    rw [hfront] at hrow htake
    rcases List.mem_append.mp hrow with hrow | hrow
    · exact ((List.pairwise_append.mp htake).2.2 row hrow last (by simp)).le
    · rw [List.mem_singleton.mp hrow]
  · rintro ⟨hrow, hle⟩
    rw [← List.take_append_drop limit rows] at hrow hrows
    rcases List.mem_append.mp hrow with hrow | hrow
    · exact hrow
    · have hmem : last ∈ rows.take limit := List.mem_of_getLast? hlast
      exact absurd hle (not_le_of_gt ((List.pairwise_append.mp hrows).2.2 last hmem row hrow))

/-! ## The rows behind a cursor

The query drops the first row at or after the cursor, whatever row that is.  So a row is behind the
cursor exactly if another one is between, the row of the cursor included. -/

/-- A search for what only one row can be finds that row. -/
lemma find?_eq_some_iff_of_unique {p : ρ → Bool} {rows : List ρ} {marked : ρ}
    (hunique : ∀ a ∈ rows, ∀ b ∈ rows, p a = true → p b = true → a = b) :
    rows.find? p = some marked ↔ marked ∈ rows ∧ p marked = true := by
  constructor
  · intro hfind
    exact ⟨List.mem_of_find?_eq_some hfind, List.find?_some hfind⟩
  · rintro ⟨hmem, hp⟩
    cases hfind : rows.find? p with
    | none => exact absurd hp (List.find?_eq_none.mp hfind marked hmem)
    | some other =>
        rw [hunique other (List.mem_of_find?_eq_some hfind) marked hmem (List.find?_some hfind) hp]

lemma find?_eq_some_iff_of_nodup (hnodup : (table.map ident).Nodup) {id : ι} {marked : ρ} :
    table.find? (ident · = id) = some marked ↔ marked ∈ table ∧ ident marked = id := by
  rw [find?_eq_some_iff_of_unique, decide_eq_true_eq]
  intro a ha b hb hida hidb
  simp only [decide_eq_true_eq] at hida hidb
  exact List.inj_on_of_nodup_map hnodup ha hb (hida.trans hidb.symm)

lemma visible_pairwise (hnodup : (table.map key).Nodup) (visible : ρ → Bool) :
    (newestFirst key (table.filter visible)).Pairwise fun a b => key b < key a :=
  newestFirst_pairwise (hnodup.sublist (List.filter_sublist.map key))

lemma rowsFrom_pairwise (hnodup : (table.map key).Nodup) (cursor : Option ι) :
    (rowsFrom key ident visible cursor table).Pairwise fun a b => key b < key a := by
  have hrows := visible_pairwise hnodup visible
  simp only [rowsFrom]
  split
  · exact hrows
  · split
    · exact List.Pairwise.nil
    · exact (hrows.filter _).sublist (List.drop_sublist 1 _)

lemma mem_rowsFrom_none {row : ρ} :
    row ∈ rowsFrom key ident visible none table ↔ row ∈ table ∧ visible row = true := by
  rw [rowsFrom, mem_newestFirst, List.mem_filter]

/-- **What is behind a cursor**: the rows that have a row in front of them which is at or after the
cursor.  Usually that is the row of the cursor itself. -/
lemma mem_rowsFrom_some (hnodup : (table.map key).Nodup) {cursor : ι} {row : ρ} :
    row ∈ rowsFrom key ident visible (some cursor) table
      ↔ (row ∈ table ∧ visible row = true) ∧ ∃ marked, table.find? (ident · = cursor) = some marked
        ∧ ∃ other ∈ table, visible other = true ∧ key row < key other ∧ key other ≤ key marked := by
  have hrows := visible_pairwise hnodup visible
  unfold rowsFrom
  split
  · rename_i heq
    cases heq
  · rename_i cursor' heq
    cases heq
    split
    · rename_i hfind
      simp [hfind]
    · rename_i marked hfind
      rw [mem_drop_one (hrows.filter _)]
      simp only [List.mem_filter, mem_newestFirst, decide_eq_true_eq]
      constructor
      · rintro ⟨⟨hrow, hle⟩, other, ⟨⟨hother, hvisible⟩, hmarked⟩, hlt⟩
        exact ⟨hrow, marked, hfind, other, hother, hvisible, hlt, hmarked⟩
      · rintro ⟨hrow, marked', hmarked', other, hother, hvisible, hlt, hle⟩
        obtain rfl : marked = marked' := Option.some.inj (hfind.symm.trans hmarked')
        exact ⟨⟨hrow, hlt.le.trans hle⟩, other, ⟨⟨hother, hvisible⟩, hle⟩, hlt⟩

/-- Two tables with the same visible rows. -/
lemma visible_congr {table' : List ρ} (hnodup : (table.map key).Nodup)
    (hnodup' : (table'.map key).Nodup)
    (hrows : ∀ row, visible row = true → (row ∈ table ↔ row ∈ table')) :
    newestFirst key (table.filter visible) = newestFirst key (table'.filter visible) := by
  refine eq_of_pairwise_of_mem_iff (visible_pairwise hnodup visible)
    (visible_pairwise hnodup' visible) fun row => ?_
  simp only [mem_newestFirst, List.mem_filter]
  constructor
  · rintro ⟨hrow, hvisible⟩
    exact ⟨(hrows row hvisible).mp hrow, hvisible⟩
  · rintro ⟨hrow, hvisible⟩
    exact ⟨(hrows row hvisible).mpr hrow, hvisible⟩

lemma length_visible_congr {table' : List ρ} (hnodup : (table.map key).Nodup)
    (hnodup' : (table'.map key).Nodup)
    (hrows : ∀ row, visible row = true → (row ∈ table ↔ row ∈ table')) :
    (table.filter visible).length = (table'.filter visible).length := by
  have h := congrArg List.length (visible_congr hnodup hnodup' hrows)
  rwa [length_newestFirst, length_newestFirst] at h

/-- Two tables with the same visible rows and the same row of the cursor. -/
lemma rowsFrom_congr {table' : List ρ} {cursor : Option ι} (hids : (table.map ident).Nodup)
    (hids' : (table'.map ident).Nodup) (hnodup : (table.map key).Nodup)
    (hnodup' : (table'.map key).Nodup)
    (hrows : ∀ row, visible row = true → (row ∈ table ↔ row ∈ table'))
    (hcursor : ∀ id, cursor = some id → ∃ row ∈ table, row ∈ table' ∧ ident row = id) :
    rowsFrom key ident visible cursor table = rowsFrom key ident visible cursor table' := by
  cases cursor with
  | none => exact visible_congr hnodup hnodup' hrows
  | some id =>
      obtain ⟨row, hrow, hrow', hid⟩ := hcursor id rfl
      have hfind := (find?_eq_some_iff_of_nodup hids).mpr ⟨hrow, hid⟩
      have hfind' := (find?_eq_some_iff_of_nodup hids').mpr ⟨hrow', hid⟩
      simp only [rowsFrom, hfind, hfind', visible_congr hnodup hnodup' hrows]

/-- Nothing is behind a cursor if there is only one row. -/
lemma rowsFrom_of_length_le_one (hlength : (table.filter visible).length ≤ 1) (cursor : ι) :
    rowsFrom key ident visible (some cursor) table = [] := by
  cases hfind : table.find? (ident · = cursor) with
  | none => simp only [rowsFrom, hfind]
  | some row =>
      simp only [rowsFrom, hfind]
      refine List.drop_eq_nil_of_le ?_
      calc ((newestFirst key (table.filter visible)).filter (key · ≤ key row)).length
          ≤ (newestFirst key (table.filter visible)).length := List.length_filter_le _ _
        _ ≤ 1 := by rwa [length_newestFirst]

/-- Nothing is behind a cursor that names no row. -/
lemma rowsFrom_of_not_mem {cursor : ι} (hcursor : ∀ row ∈ table, ident row ≠ cursor) :
    rowsFrom key ident visible (some cursor) table = [] := by
  have hfind : table.find? (ident · = cursor) = none := by
    rw [List.find?_eq_none]
    intro row hrow
    simpa using hcursor row hrow
  simp only [rowsFrom, hfind]

/-- Behind a cursor whose row is in front of everything is everything but the first row. -/
lemma rowsFrom_of_front (hids : (table.map ident).Nodup) {marked : ρ} (hmarked : marked ∈ table)
    (hfront : ∀ row ∈ table, visible row = true → key row ≤ key marked) :
    (rowsFrom key ident visible (some (ident marked)) table).length
      = (table.filter visible).length - 1 := by
  have hfind := (find?_eq_some_iff_of_nodup hids).mpr ⟨hmarked, rfl⟩
  have hall : (newestFirst key (table.filter visible)).filter (key · ≤ key marked)
      = newestFirst key (table.filter visible) := by
    rw [List.filter_eq_self]
    intro row hrow
    obtain ⟨hrow, hvisible⟩ := List.mem_filter.mp (mem_newestFirst.mp hrow)
    exact decide_eq_true (hfront row hrow hvisible)
  simp only [rowsFrom, hfind, hall, List.length_drop, length_newestFirst]

end Rows

/-! ## Readers

A reader turns pages at any time, and between two pages the table may become any other.  The
theorems are about one turn, with a table that is given, so that they can be put together along any
run. -/

/-- Where a reader is: the next cursor, with the key its row had in the page. -/
inductive Bookmark (κ ι : Type*) where
  | Start
  | Next (cursor : ι) (place : κ)
  | Done
  deriving DecidableEq

/-- The pages so far, in the order they were read. -/
structure Reading (ρ κ ι : Type*) where
  pages : List (List ρ)
  bookmark : Bookmark κ ι

def Reading.start : Reading ρ κ ι := ⟨[], .Start⟩

/-- The cursor of the next query, if there is one. -/
def Bookmark.cursor : Bookmark κ ι → Option ι
  | Start | Done => none
  | Next cursor _ => some cursor

/-- The page of a query that has asked for one row more, and the bookmark in it. -/
def Reading.add (limit : ℕ) (rows : List ρ) (reading : Reading ρ κ ι) : Reading ρ κ ι where
  pages := reading.pages ++ [rows.take limit]
  bookmark :=
    if limit < rows.length then
      match (rows.take limit).getLast? with
      | none => .Done
      | some row => .Next (ident row) (key row)
    else .Done

/-- The reader turns a page: one row more than the limit is queried, and what is shown is the page
without it.  There is no next page behind the last. -/
def turnPage (visible : ρ → Bool) (limit : ℕ) (table : List ρ) (reading : Reading ρ κ ι) :
    Option (Reading ρ κ ι) :=
  match reading.bookmark with
  | .Done => none
  | bookmark =>
      some (reading.add key ident limit
        (findMany key ident visible (limit + 1) bookmark.cursor table))

/-- How often the reader has shown a row. -/
def Reading.shown (reading : Reading ρ κ ι) (id : ι) : ℕ :=
  (reading.pages.flatten.map ident).count id

/-- **The cursor is in place** for a row: the row is behind it if and only if it was behind it in
the page.  So it is if the cursor's row has not changed its key and is still visible. -/
def InPlace (visible : ρ → Bool) (cursor : ι) (place : κ) (table : List ρ) (row : ρ) : Prop :=
  key row < place ↔ ∃ marked ∈ table, ident marked = cursor
    ∧ ∃ other ∈ table, visible other = true ∧ key row < key other ∧ key other ≤ key marked

instance (visible : ρ → Bool) (cursor : ι) (place : κ) (table : List ρ) (row : ρ) :
    Decidable (InPlace key ident visible cursor place table row) :=
  inferInstanceAs (Decidable (_ ↔ _))

/-- The cursor of the next query is in place. -/
def Bookmark.InPlace (visible : ρ → Bool) (table : List ρ) (row : ρ) : Bookmark κ ι → Prop
  | Start | Done => True
  | Next cursor place => RagStack.InPlace key ident visible cursor place table row

instance (visible : ρ → Bool) (table : List ρ) (row : ρ) :
    DecidablePred (Bookmark.InPlace key ident visible table row)
  | .Start | .Done => inferInstanceAs (Decidable True)
  | .Next cursor place =>
      inferInstanceAs (Decidable (RagStack.InPlace key ident visible cursor place table row))

/-- A row that is in the table all the time is shown once as soon as the cursor has passed it. -/
def Reading.Shows (reading : Reading ρ κ ι) (row : ρ) : Prop :=
  reading.shown ident (ident row) = match reading.bookmark with
    | .Start => 0
    | .Next _ place => if place ≤ key row then 1 else 0
    | .Done => 1

section Shows

variable {key ident} {visible : ρ → Bool} {limit : ℕ} {table : List ρ} {row : ρ}
  {reading reading' : Reading ρ κ ι}

omit [DecidableEq ι] in
/-- A cursor whose row is as it was is in place. -/
lemma InPlace.of_unmoved {cursor : ι} {place : κ} {marked : ρ} (hnodup : (table.map ident).Nodup)
    (hmarked : marked ∈ table) (hid : ident marked = cursor) (hkey : key marked = place)
    (hvisible : visible marked = true) (row : ρ) :
    InPlace key ident visible cursor place table row := by
  constructor
  · intro hlt
    exact ⟨marked, hmarked, hid, marked, hmarked, hvisible, hkey ▸ hlt, le_rfl⟩
  · rintro ⟨marked', hmarked', hid', other, -, -, hlt, hle⟩
    obtain rfl : marked' = marked :=
      List.inj_on_of_nodup_map hnodup hmarked' hmarked (hid'.trans hid.symm)
    exact hkey ▸ hlt.trans_le hle

/-- A page shows the ids of its rows. -/
lemma count_page (hnodup : (table.map ident).Nodup) (hrow : row ∈ table) {page : List ρ}
    (hpage : ∀ other ∈ page, other ∈ table) (hpageNodup : page.Nodup) :
    (row ∈ page → (page.map ident).count (ident row) = 1)
      ∧ (row ∉ page → (page.map ident).count (ident row) = 0) := by
  have hids : (page.map ident).Nodup := by
    refine hpageNodup.map_on fun a ha b hb => ?_
    exact List.inj_on_of_nodup_map hnodup (hpage a ha) (hpage b hb)
  refine ⟨fun hmem => List.count_eq_one_of_mem hids (List.mem_map_of_mem hmem), fun hnot => ?_⟩
  refine List.count_eq_zero.mpr fun hid => ?_
  obtain ⟨other, hother, heq⟩ := List.mem_map.mp hid
  exact hnot (List.inj_on_of_nodup_map hnodup (hpage other hother) hrow heq ▸ hother)

/-- There is a next page unless the reader is done. -/
lemma turnPage_eq_some_iff :
    turnPage key ident visible limit table reading = some reading'
      ↔ reading.bookmark ≠ .Done ∧ reading' = reading.add key ident limit
        (findMany key ident visible (limit + 1) reading.bookmark.cursor table) := by
  simp only [turnPage]
  split
  · rename_i hdone
    simp [hdone]
  · rename_i bookmark hnot
    rw [Option.some.injEq, eq_comm]
    exact ⟨fun h => ⟨hnot, h⟩, fun h => h.2⟩

/-- **The next page**: the front of what is behind the cursor, with a bookmark at its end if there
is more. -/
lemma turnPage_spec (hlimit : 0 < limit)
    (hturn : turnPage key ident visible limit table reading = some reading') :
    let rows := rowsFrom key ident visible reading.bookmark.cursor table
    reading.bookmark ≠ .Done ∧ reading'.pages = reading.pages ++ [rows.take limit]
      ∧ (rows.length ≤ limit ∧ reading'.bookmark = .Done
        ∨ ∃ last, limit < rows.length ∧ (rows.take limit).getLast? = some last
          ∧ reading'.bookmark = .Next (ident last) (key last)) := by
  intro rows
  obtain ⟨hnot, hadd⟩ := turnPage_eq_some_iff.mp hturn
  obtain rfl : reading' = reading.add key ident limit (rows.take (limit + 1)) := hadd
  have hpage : (rows.take (limit + 1)).take limit = rows.take limit := by
    rw [List.take_take, Nat.min_eq_left (Nat.le_succ limit)]
  refine ⟨hnot, by rw [Reading.add, hpage], ?_⟩
  simp only [Reading.add, hpage, List.length_take]
  by_cases hmore : limit < rows.length
  · rw [if_pos (by omega)]
    cases hlast : (rows.take limit).getLast? with
    | none =>
        have hlength := congrArg List.length (List.getLast?_eq_none_iff.mp hlast)
        rw [List.length_take, List.length_nil] at hlength
        omega
    | some last => exact .inr ⟨last, hmore, rfl, rfl⟩
  · rw [if_neg (by omega)]
    exact .inl ⟨Nat.le_of_not_lt hmore, rfl⟩

lemma mem_table_of_mem_rowsFrom (hkeys : (table.map key).Nodup) {cursor : Option ι}
    (hrow : row ∈ rowsFrom key ident visible cursor table) :
    row ∈ table ∧ visible row = true := by
  cases cursor with
  | none => exact mem_rowsFrom_none.mp hrow
  | some cursor => exact ((mem_rowsFrom_some hkeys).mp hrow).1

/-- What is behind a cursor that is in place for a row. -/
lemma InPlace.iff_mem (hnodup : (table.map ident).Nodup) (hkeys : (table.map key).Nodup)
    (hrow : row ∈ table) (hvisible : visible row = true) {cursor : ι} {place : κ} :
    InPlace key ident visible cursor place table row
      ↔ (key row < place ↔ row ∈ rowsFrom key ident visible (some cursor) table) := by
  simp only [InPlace]
  rw [mem_rowsFrom_some hkeys]
  simp only [find?_eq_some_iff_of_nodup hnodup, hrow, hvisible, true_and, and_assoc]

/-- A row that is not behind a cursor is in front of everything that is. -/
lemma le_of_not_mem_rowsFrom (hkeys : (table.map key).Nodup) (hrow : row ∈ table)
    (hvisible : visible row = true) {cursor : Option ι}
    (hnot : row ∉ rowsFrom key ident visible cursor table) {last : ρ}
    (hlast : last ∈ rowsFrom key ident visible cursor table) : key last ≤ key row := by
  cases cursor with
  | none => exact absurd (mem_rowsFrom_none.mpr ⟨hrow, hvisible⟩) hnot
  | some cursor =>
      -- otherwise `last` would be in front of `row`, which would be behind the cursor
      refine not_lt.mp fun hgt => hnot ?_
      obtain ⟨⟨hmem, hlastVisible⟩, marked, hmarked, other, -, -, hlt, hle⟩ :=
        (mem_rowsFrom_some hkeys).mp hlast
      exact (mem_rowsFrom_some hkeys).mpr
        ⟨⟨hrow, hvisible⟩, marked, hmarked, last, hmem, hlastVisible, hgt, hlt.le.trans hle⟩

/-- What a page adds to how often a row is shown. -/
lemma shown_turnPage (hlimit : 0 < limit) (hnodup : (table.map ident).Nodup)
    (hkeys : (table.map key).Nodup) (hrow : row ∈ table)
    (hturn : turnPage key ident visible limit table reading = some reading') :
    let rows := rowsFrom key ident visible reading.bookmark.cursor table
    (row ∈ rows.take limit
        → reading'.shown ident (ident row) = reading.shown ident (ident row) + 1)
      ∧ (row ∉ rows.take limit
        → reading'.shown ident (ident row) = reading.shown ident (ident row)) := by
  intro rows
  obtain ⟨-, hpages, -⟩ := turnPage_spec hlimit hturn
  have hsorted : rows.Pairwise fun a b => key b < key a :=
    rowsFrom_pairwise hkeys reading.bookmark.cursor
  have htable : ∀ other ∈ rows.take limit, other ∈ table := fun other hother =>
    (mem_table_of_mem_rowsFrom hkeys (List.mem_of_mem_take hother)).1
  obtain ⟨hone, hzero⟩ := count_page hnodup hrow htable
    (hsorted.imp fun hlt heq => (heq ▸ hlt).false).take
  have hshown : reading'.shown ident (ident row)
      = reading.shown ident (ident row) + ((rows.take limit).map ident).count (ident row) := by
    simp [Reading.shown, hpages, rows]
  rw [hshown]
  exact ⟨fun hmem => by rw [hone hmem], fun hnot => by rw [hzero hnot, Nat.add_zero]⟩

lemma Reading.Shows.shown_le_one (h : reading.Shows key ident row) :
    reading.shown ident (ident row) ≤ 1 := by
  simp only [Shows] at h
  rw [h]
  split
  · exact Nat.zero_le 1
  · split <;> decide
  · exact le_rfl

/-- A page shows a row as it should exactly if the row was not shown before and is behind the
cursor, or neither. -/
lemma Reading.Shows.turnPage_iff_mem (hlimit : 0 < limit) (hnodup : (table.map ident).Nodup)
    (hkeys : (table.map key).Nodup) (hrow : row ∈ table) (hvisible : visible row = true)
    (hturn : RagStack.turnPage key ident visible limit table reading = some reading')
    (h : reading.Shows key ident row) :
    reading'.Shows key ident row ↔ (reading.shown ident (ident row) = 0
      ↔ row ∈ rowsFrom key ident visible reading.bookmark.cursor table) := by
  obtain ⟨-, -, hmore⟩ := turnPage_spec hlimit hturn
  obtain ⟨hone, hzero⟩ := shown_turnPage hlimit hnodup hkeys hrow hturn
  have hshown := h.shown_le_one
  have hsorted : (rowsFrom key ident visible reading.bookmark.cursor table).Pairwise
      fun a b => key b < key a := rowsFrom_pairwise hkeys reading.bookmark.cursor
  have hfront : row ∉ rowsFrom key ident visible reading.bookmark.cursor table →
      ∀ last ∈ rowsFrom key ident visible reading.bookmark.cursor table, key last ≤ key row :=
    fun hmem last hlast => le_of_not_mem_rowsFrom hkeys hrow hvisible hmem hlast
  simp only [Shows]
  generalize rowsFrom key ident visible reading.bookmark.cursor table = rows at *
  rcases hmore with ⟨hlength, hdone⟩ | ⟨last, -, hlast, hnext⟩
  · -- the last page
    rw [hdone]
    rw [List.take_of_length_le hlength] at hone hzero
    by_cases hmem : row ∈ rows
    · rw [hone hmem]
      simp only [hmem, iff_true]
      omega
    · rw [hzero hmem]
      simp only [hmem, iff_false]
      omega
  · rw [hnext]
    dsimp only
    have hiff : row ∈ rows.take limit ↔ row ∈ rows ∧ key last ≤ key row := mem_take hsorted hlast
    have hlastMem : last ∈ rows := List.mem_of_mem_take (List.mem_of_getLast? hlast)
    by_cases hmem : row ∈ rows
    · by_cases hle : key last ≤ key row
      · rw [hone (hiff.mpr ⟨hmem, hle⟩), if_pos hle]
        simp only [hmem, iff_true]
        omega
      · rw [hzero fun htake => hle (hiff.mp htake).2, if_neg hle]
        simp only [hmem, iff_true]
    · rw [hzero fun htake => hmem (hiff.mp htake).1, if_pos (hfront hmem last hlastMem)]
      simp only [hmem, iff_false]
      omega

/-- **Every page** goes on showing a row that is in the table as it should, exactly if its cursor
is in place for the row. -/
lemma Reading.Shows.turnPage_iff (hlimit : 0 < limit) (hnodup : (table.map ident).Nodup)
    (hkeys : (table.map key).Nodup) (hrow : row ∈ table) (hvisible : visible row = true)
    (hturn : RagStack.turnPage key ident visible limit table reading = some reading')
    (h : reading.Shows key ident row) :
    reading'.Shows key ident row ↔ reading.bookmark.InPlace key ident visible table row := by
  obtain ⟨hnot, -, -⟩ := turnPage_spec hlimit hturn
  rw [turnPage_iff_mem hlimit hnodup hkeys hrow hvisible hturn h]
  simp only [Shows] at h
  cases hbookmark : reading.bookmark with
  | Start =>
      rw [hbookmark] at h
      have hmem : row ∈ rowsFrom key ident visible (Bookmark.Start : Bookmark κ ι).cursor table :=
        mem_rowsFrom_none.mpr ⟨hrow, hvisible⟩
      rw [h]
      simp [hmem, Bookmark.InPlace]
  | Done => exact absurd hbookmark hnot
  | Next cursor place =>
      rw [hbookmark] at h
      dsimp only at h
      have hshown : reading.shown ident (ident row) = 0 ↔ key row < place := by
        rw [h]
        by_cases hle : place ≤ key row
        · rw [if_pos hle]
          simpa using hle
        · rw [if_neg hle]
          simpa using hle
      rw [hshown, Bookmark.cursor, ← InPlace.iff_mem hnodup hkeys hrow hvisible]
      exact Iff.rfl

end Shows

/-! ## Pages in order

Where no cursor moves, the pages are the rows in their order, cut. -/

/-- What is left of `keys` behind a bookmark. -/
def Bookmark.below (keys : List κ) : Bookmark κ ι → List κ
  | Start => keys
  | Next _ place => keys.filter (· < place)
  | Done => []

omit [DecidableEq ι] in
lemma Bookmark.mem_of_mem_below {keys : List κ} {bookmark : Bookmark κ ι} {k : κ}
    (hk : k ∈ bookmark.below keys) : k ∈ keys := by
  cases bookmark with
  | Start => exact hk
  | Next cursor place => exact List.mem_of_mem_filter hk
  | Done => cases hk

/-- The pages and what is left are `keys`, and as long as something is left no page is empty. -/
structure Reading.Follows (keys : List κ) (reading : Reading ρ κ ι) : Prop where
  split : reading.pages.flatten.map key ++ reading.bookmark.below keys = keys
  more : reading.bookmark ≠ .Done → reading.pages.length ≤ reading.pages.flatten.length
  length : reading.pages.length ≤ reading.pages.flatten.length + 1

section Follows

variable {key ident} {visible : ρ → Bool} {limit : ℕ} {table : List ρ}
  {reading reading' : Reading ρ κ ι} {keys : List κ}

lemma filter_lt_of_pairwise {front rest : List κ} {k : κ}
    (h : (front ++ k :: rest).Pairwise fun a b => b < a) :
    (front ++ k :: rest).filter (· < k) = rest := by
  obtain ⟨-, hrest, hfront⟩ := List.pairwise_append.mp h
  have hnone : front.filter (· < k) = [] := by
    rw [List.filter_eq_nil_iff]
    intro a ha
    simpa using (hfront a ha k List.mem_cons_self).le
  have hall : rest.filter (· < k) = rest := by
    rw [List.filter_eq_self]
    intro a ha
    simpa using (List.pairwise_cons.mp hrest).1 a ha
  rw [List.filter_append, hnone, List.filter_cons_of_neg (by simp), hall, List.nil_append]

/-- What a query finds behind a cursor whose row is as it was. -/
lemma map_key_rowsFrom (hnodup : (table.map ident).Nodup) (hnodupKeys : (table.map key).Nodup)
    (hkeys : keys.Pairwise fun a b => b < a) {cursor : ι} {place : κ} {marked : ρ}
    (hmarked : marked ∈ table) (hid : ident marked = cursor) (hplace : key marked = place)
    (hvisible : visible marked = true)
    (hsame : ∀ k < place, k ∈ (table.filter visible).map key ↔ k ∈ keys) :
    (rowsFrom key ident visible (some cursor) table).map key = keys.filter (· < place) := by
  have hsorted : ((rowsFrom key ident visible (some cursor) table).map key).Pairwise
      fun a b => id b < id a :=
    List.pairwise_map.mpr (rowsFrom_pairwise hnodupKeys (some cursor))
  refine eq_of_pairwise_of_mem_iff hsorted (hkeys.filter _) fun k => ?_
  · have hrows : ∀ row, row ∈ rowsFrom key ident visible (some cursor) table
        ↔ row ∈ table.filter visible ∧ key row < place := by
      intro row
      have hin := InPlace.of_unmoved hnodup hmarked hid hplace hvisible row
      simp only [InPlace] at hin
      rw [mem_rowsFrom_some hnodupKeys, List.mem_filter, hin]
      simp only [find?_eq_some_iff_of_nodup hnodup, and_assoc]
    simp only [List.mem_map, List.mem_filter, decide_eq_true_eq, hrows]
    constructor
    · rintro ⟨row, ⟨hrow, hlt⟩, rfl⟩
      refine ⟨(hsame _ hlt).mp (List.mem_map_of_mem ?_), hlt⟩
      exact List.mem_filter.mpr hrow
    · rintro ⟨hk, hlt⟩
      obtain ⟨row, hrow, rfl⟩ := List.mem_map.mp ((hsame k hlt).mpr hk)
      exact ⟨row, ⟨List.mem_filter.mp hrow, hlt⟩, rfl⟩

/-- **Every page** goes on where the last one ended. -/
lemma Reading.Follows.turnPage (hlimit : 0 < limit) (hkeys : keys.Pairwise fun a b => b < a)
    (hrows : (rowsFrom key ident visible reading.bookmark.cursor table).map key
      = reading.bookmark.below keys)
    (hturn : RagStack.turnPage key ident visible limit table reading = some reading')
    (h : reading.Follows key keys) : reading'.Follows key keys := by
  obtain ⟨hnot, hpages, hmore⟩ := turnPage_spec hlimit hturn
  generalize rowsFrom key ident visible reading.bookmark.cursor table = rows at *
  have hflatten : reading'.pages.flatten = reading.pages.flatten ++ rows.take limit := by
    rw [hpages, List.flatten_append, List.flatten_singleton]
  have hlength : reading'.pages.length = reading.pages.length + 1 := by
    rw [hpages, List.length_append]
    rfl
  have hall : reading'.pages.flatten.map key ++ (rows.drop limit).map key = keys := by
    rw [hflatten, ← List.map_append, List.append_assoc, List.take_append_drop, List.map_append,
      hrows]
    exact h.split
  have hle := h.more hnot
  rcases hmore with ⟨hshort, hdone⟩ | ⟨last, hlong, hlast, hnext⟩
  · refine ⟨?_, fun hbookmark => absurd hdone hbookmark, ?_⟩
    · rw [List.drop_eq_nil_of_le hshort] at hall
      rw [hdone]
      exact hall
    · rw [hlength, hflatten, List.length_append]
      omega
  · obtain ⟨front, hfront⟩ := List.getLast?_eq_some_iff.mp hlast
    have hpage : 0 < (rows.take limit).length := by
      rw [hfront, List.length_append]
      exact Nat.succ_pos _
    have hkeys' : keys = (reading.pages.flatten ++ front).map key
        ++ key last :: (rows.drop limit).map key := by
      rw [← hall, hflatten, hfront]
      simp
    have hbelow : keys.filter (· < key last) = (rows.drop limit).map key := by
      rw [hkeys'] at hkeys ⊢
      exact filter_lt_of_pairwise hkeys
    refine ⟨?_, fun _ => ?_, ?_⟩
    · rw [hnext]
      show _ ++ keys.filter (· < key last) = keys
      rwa [hbelow]
    · rw [hlength, hflatten, List.length_append]
      omega
    · rw [hlength, hflatten, List.length_append]
      omega

end Follows

end RagStack
