import RagStack.Chats.ChatsTransactions
import RagStack.Core.Runs

/-!
# `chat-sidebar.tsx`: reading the sidebar page by page

`ChatGroups` shows the chats of all pages `useInfiniteQuery` has loaded, one page after the other.
The next page is asked for with the id of the last chat of the last page.  Meanwhile the chats
change: they are renamed, archived and deleted, and a message moves its chat to the front.

A cursor is the id of a chat.  The server looks the chat up and returns those behind it in the order
of the list as it is now.  So the meaning of a cursor changes with its chat.  If a message moves the
chat to the front, everything is behind it again, and the next page shows chats a second time.  If
the chat is archived, the page begins at its place, but the row that is skipped as the cursor's own
is another chat.  If it is deleted, the cursor is not found: the page is empty, the client takes
this for the end, and the rest of the sidebar is never shown.

For a chat that nobody touches, a page does the right thing exactly if its cursor is *in place* for
it: the chat is behind the cursor now if and only if it was when the cursor was handed out.  This is
a condition on the state in which the page is loaded.  A sufficient one that is easier to check is
that the chat of the cursor is listed and was not moved.

In a run that meets the condition at each page, a chat that is untouched is shown once when the
sidebar has been read to its end.  This is an induction over the run, with an invariant that says
for such a chat whether the cursor has passed it.

* `Sidebar.step` — a page is loaded, or a transaction commits.
* `Sidebar.LoadsInPlace` — the cursor separates a chat from the pages as it did when it was handed
  out.  So it does as long as its own chat is listed and was not moved (`loadsInPlace_of_unmoved`).
* `Sidebar.shows_load_iff` — a page shows an untouched chat as it should exactly if it is in place.
* `sidebar_shows_once` — a chat that nobody touches is shown once in every such run.
* `sidebar_loses_chats` — with the chat of the cursor, the rest of the sidebar is gone.
-/

namespace RagStack

/-- The tables, and the pages `useInfiniteQuery` has loaded, which stay as they were when they were
loaded. -/
structure Sidebar where
  db : ChatsDb
  pages : List ChatPage

/-- A page is loaded, with the text of a cursor, or somebody changes the tables. -/
inductive SidebarAction where
  | Load (cursor : Option String)
  | Commit (transaction : ChatsTransaction)

namespace Sidebar

/-- `getNextPageParam`, with the place of the chat it names. -/
def bookmark (s : Sidebar) : Bookmark (Timestamp ×ₗ Uuid) Uuid :=
  match s.pages.getLast? with
  | none => .Start
  | some page =>
      match page.nextCursor, page.chats.getLast? with
      | some cursor, some chat => .Next cursor chat.place
      | _, _ => .Done

/-- How often a chat is shown: `pages.flatMap((page) => page.chats)`. -/
def shown (s : Sidebar) (chatId : Uuid) : ℕ :=
  ((s.pages.flatMap (·.chats)).map (·.id)).count chatId

section Step

variable (parseUuid : String → Option Uuid) (principal : RequestPrincipal) (limit : PageSize)
  (includeArchived : Bool)

/-- The next page.  The text of a cursor is one the server reads as the cursor. -/
def load (s : Sidebar) (cursor : Option String) : Option Sidebar :=
  match s.bookmark with
  | .Done => none
  | bookmark =>
      if parseCursor parseUuid cursor = .ok bookmark.cursor then
        match s.db.list parseUuid principal cursor limit includeArchived with
        | .ok page => some { s with pages := s.pages ++ [page] }
        | .error _ => none
      else none

def step (s : Sidebar) : SidebarAction → Option Sidebar
  | .Load cursor => s.load parseUuid principal limit includeArchived cursor
  | .Commit transaction => some { s with db := s.db.after transaction }

/-- The chat is as it was at every call: whenever a page is loaded, the row is in the table
unchanged. -/
def Untouched (chat : ChatRow) (s : Sidebar) : SidebarAction → Prop
  | .Load _ => chat ∈ s.db.chats.rows
  | .Commit _ => True

/-- **Every call finds its cursor in place**: the chat is behind it now if and only if it was behind
the last chat of the page that handed it out. -/
def LoadsInPlace (chat : ChatRow) (s : Sidebar) : SidebarAction → Prop
  | .Load _ =>
      s.bookmark.InPlace ChatRow.place (·.id) (listed principal includeArchived) s.db.chats.rows chat
  | .Commit _ => True

instance (chat : ChatRow) (s : Sidebar) : DecidablePred (Untouched chat s)
  | .Load _ => inferInstanceAs (Decidable (chat ∈ s.db.chats.rows))
  | .Commit _ => inferInstanceAs (Decidable True)

instance (chat : ChatRow) (s : Sidebar) :
    DecidablePred (LoadsInPlace principal includeArchived chat s)
  | .Load _ => inferInstanceAs (Decidable (s.bookmark.InPlace _ _ _ _ _))
  | .Commit _ => inferInstanceAs (Decidable True)

end Step

/-! ## The pages as rows

What the pages show was read from rows, and the library of cursors is about rows. -/

/-- The rows the pages were made from. -/
structure Reads (s : Sidebar) (reading : Reading ChatRow (Timestamp ×ₗ Uuid) Uuid) : Prop where
  pages : (s.pages.flatMap (·.chats)).map ChatSummary.place
    = reading.pages.flatten.map ChatRow.place
  bookmark : s.bookmark = reading.bookmark

section Load

variable {parseUuid : String → Option Uuid} {principal : RequestPrincipal} {limit : PageSize}
  {includeArchived : Bool} {s s' : Sidebar} {cursor : Option String} {chat : ChatRow}
  {reading : Reading ChatRow (Timestamp ×ₗ Uuid) Uuid}

lemma Reads.shown (h : s.Reads reading) (chatId : Uuid) :
    s.shown chatId = reading.shown (·.id) chatId := by
  have hids := congrArg (fun places : List (Timestamp ×ₗ Uuid) =>
    (places.map fun place => (ofLex place).2).count chatId) h.pages
  simp only [List.map_map] at hids
  exact hids

/-- What `load` has asked for, and what it adds. -/
lemma load_eq_some (hload : s.load parseUuid principal limit includeArchived cursor = some s') :
    s.bookmark ≠ .Done ∧ parseCursor parseUuid cursor = .ok s.bookmark.cursor
      ∧ ∃ page, s.db.list parseUuid principal cursor limit includeArchived = .ok page
        ∧ s' = { s with pages := s.pages ++ [page] } := by
  simp only [Sidebar.load] at hload
  split at hload
  · cases hload
  · rename_i bookmark hnot
    split at hload
    · rename_i hparse
      split at hload
      · rename_i page hpage
        exact ⟨hnot, hparse, page, hpage, (Option.some.inj hload).symm⟩
      · cases hload
    · cases hload

/-- **Loading a page** is turning one. -/
lemma Reads.load (h : s.Reads reading)
    (hload : s.load parseUuid principal limit includeArchived cursor = some s') :
    s'.db = s.db ∧ ∃ reading', turnPage ChatRow.place (·.id) (listed principal includeArchived)
      limit s.db.chats.rows reading = some reading' ∧ s'.Reads reading' := by
  obtain ⟨hnot, hparse, page, hpage, rfl⟩ := load_eq_some hload
  obtain ⟨page', hpage', hplaces, hnext⟩ := ChatsDb.list_page hparse
  obtain rfl : page = page' := Except.ok.inj (hpage.symm.trans hpage')
  rw [h.bookmark] at hnot hplaces hnext
  refine ⟨rfl, reading.add ChatRow.place (·.id) limit
    (listChats principal includeArchived limit reading.bookmark.cursor s.db.chats.rows),
    turnPage_eq_some_iff.mpr ⟨hnot, rfl⟩, ?_, ?_⟩
  · simp only [List.flatMap_append, List.flatMap_singleton, List.map_append, Reading.add,
      List.flatten_append, List.flatten_singleton, h.pages, hplaces]
  · simp only [Sidebar.bookmark, List.getLast?_concat, Reading.add, hnext, ChatsDb.nextCursor]
    have hlast := congrArg List.getLast? hplaces
    simp only [List.getLast?_map] at hlast
    by_cases hmore : limit < (listChats principal includeArchived limit reading.bookmark.cursor
        s.db.chats.rows).length
    · simp only [if_pos hmore]
      cases hrow : ((listChats principal includeArchived limit reading.bookmark.cursor
          s.db.chats.rows).take limit).getLast? with
      | none => rfl
      | some row =>
          rw [hrow, Option.map_some, Option.map_eq_some_iff] at hlast
          obtain ⟨chat, hchat, hplace⟩ := hlast
          simp only [Option.map_some, hchat, hplace]
    · simp only [if_neg hmore]

/-! ## Chats that nobody touches

One page, and all pages of a run. -/

/-- The chat is shown once as soon as the cursor has passed it. -/
def Shows (chat : ChatRow) (s : Sidebar) : Prop :=
  s.shown chat.id = match s.bookmark with
    | .Start => 0
    | .Next _ place => if place ≤ chat.place then 1 else 0
    | .Done => 1

lemma Reads.shows_iff (h : s.Reads reading) :
    s.Shows chat ↔ reading.Shows ChatRow.place (·.id) chat := by
  rw [Shows, Reading.Shows, h.shown, h.bookmark]
  cases reading.bookmark <;> exact Iff.rfl

/-- A cursor is in place for every chat while its own chat is listed where it was. -/
lemma loadsInPlace_of_unmoved {id : Uuid} {place : Timestamp ×ₗ Uuid} {marked : ChatRow}
    (hbookmark : s.bookmark = .Next id place) (hmarked : marked ∈ s.db.chats.rows)
    (hid : marked.id = id) (hplace : marked.place = place)
    (hlisted : listed principal includeArchived marked = true) :
    LoadsInPlace principal includeArchived chat s (.Load cursor) := by
  rw [LoadsInPlace, hbookmark]
  exact InPlace.of_unmoved s.db.chats.nodup hmarked hid hplace hlisted chat

/-- **Every page** goes on showing an untouched chat as it should, exactly if it is in place. -/
theorem shows_load_iff (hreads : ∃ reading, s.Reads reading) (hchat : chat ∈ s.db.chats.rows)
    (hlisted : listed principal includeArchived chat = true)
    (hload : s.load parseUuid principal limit includeArchived cursor = some s')
    (hshows : s.Shows chat) :
    s'.Shows chat ↔ LoadsInPlace principal includeArchived chat s (.Load cursor) := by
  obtain ⟨reading, hreads⟩ := hreads
  obtain ⟨-, reading', hturn, hreads'⟩ := hreads.load hload
  rw [hreads'.shows_iff, LoadsInPlace, hreads.bookmark]
  exact Reading.Shows.turnPage_iff (by omega) s.db.chats.nodup s.db.nodup_chats hchat hlisted hturn
    (hreads.shows_iff.mp hshows)

/-- What holds of every state of a run. -/
structure Inv (chat : ChatRow) (s : Sidebar) : Prop where
  reads : ∃ reading, s.Reads reading
  shows : s.Shows chat

lemma Inv.start (db : ChatsDb) (chat : ChatRow) : Inv chat ⟨db, []⟩ :=
  ⟨⟨.start, rfl, rfl⟩, rfl⟩

lemma Inv.step {action : SidebarAction} (h : Inv chat s)
    (hlisted : listed principal includeArchived chat = true) (huntouched : Untouched chat s action)
    (hplace : LoadsInPlace principal includeArchived chat s action)
    (hstep : Sidebar.step parseUuid principal limit includeArchived s action = some s') :
    Inv chat s' := by
  cases action with
  | Load cursor =>
      refine ⟨?_, (shows_load_iff h.reads huntouched hlisted hstep h.shows).mpr hplace⟩
      obtain ⟨reading, hreads⟩ := h.reads
      obtain ⟨-, reading', -, hreads'⟩ := hreads.load hstep
      exact ⟨reading', hreads'⟩
  | Commit transaction =>
      obtain rfl := Option.some.inj hstep
      obtain ⟨reading, hreads⟩ := h.reads
      exact ⟨⟨reading, hreads.pages, hreads.bookmark⟩, h.shows⟩

end Load

end Sidebar

/-- **A chat that nobody touches is shown once** when the sidebar is read to its end, if every call
finds its cursor in place for it. -/
theorem sidebar_shows_once {parseUuid : String → Option Uuid} {principal : RequestPrincipal}
    {limit : PageSize} {includeArchived : Bool} {db : ChatsDb} {s : Sidebar}
    {actions : List SidebarAction} {chat : ChatRow}
    (hlisted : listed principal includeArchived chat = true)
    (hrun : runSteps (Sidebar.step parseUuid principal limit includeArchived) ⟨db, []⟩ actions
      = some s)
    (huntouched : RunMeets (Sidebar.step parseUuid principal limit includeArchived)
      (Sidebar.Untouched chat) ⟨db, []⟩ actions)
    (hplace : RunMeets (Sidebar.step parseUuid principal limit includeArchived)
      (Sidebar.LoadsInPlace principal includeArchived chat) ⟨db, []⟩ actions)
    (hdone : s.bookmark = .Done) : s.shown chat.id = 1 := by
  have hinv : Sidebar.Inv chat s :=
    runSteps_invariant_of_meets (fun _ _ _ h hmeets hstep =>
      h.step hlisted hmeets.1 hmeets.2 hstep) (huntouched.and hplace) hrun (.start db chat)
  have hshows := hinv.shows
  rwa [Sidebar.Shows, hdone] at hshows

/-! ## A sidebar of three chats

Pages of one chat each, with something happening between the first and the second. -/

/-- Three chats of user 1, the last one in front. -/
def threeChats : ChatsDb where
  models := [⟨7, "m", 4096, true⟩]
  chats :=
    { rows := [⟨⟨1, some 1, none, [], 7, 10⟩, 10, 10, none⟩,
        ⟨⟨2, some 1, none, [], 7, 20⟩, 20, 20, none⟩, ⟨⟨3, some 1, none, [], 7, 30⟩, 30, 30, none⟩]
      nodup := by decide
      hasModel := by decide
      oneOwner := by decide }
  messages := []
  summaries := []
  messages_nodup := List.nodup_nil
  summaries_nodup := List.nodup_nil
  messageChat := by decide
  summaryChat := by decide

/-- Chat 1 of them. -/
def oldestChat : ChatRow := ⟨⟨1, some 1, none, [], 7, 10⟩, 10, 10, none⟩

/-- The UUIDs 2 and 3. -/
def parseTwoOrThree (text : String) : Option Uuid :=
  [("00000000-0000-0000-0000-000000000002", 2), ("00000000-0000-0000-0000-000000000003", 3)].lookup
    text

/-- Pages of one chat, while chat 3 is renamed: chat 1 is on the last page. -/
theorem sidebar_shows_once_renamed :
    let step := Sidebar.step parseTwoOrThree (.Authenticated 1 0) ⟨1, by decide⟩ false
    let actions : List SidebarAction := [.Load none, .Commit (.UpdateChat 3 (some [65]) none none 40),
      .Load (some "00000000-0000-0000-0000-000000000003"),
      .Load (some "00000000-0000-0000-0000-000000000002")]
    ∃ s, runSteps step ⟨threeChats, []⟩ actions = some s ∧ s.bookmark = .Done ∧ s.shown 1 = 1 := by
  intro step actions
  have hsome : (runSteps step ⟨threeChats, []⟩ actions).isSome := by decide +kernel
  obtain ⟨s, hrun⟩ := Option.isSome_iff_exists.mp hsome
  have hdone : (runSteps step ⟨threeChats, []⟩ actions).all (·.bookmark = .Done) := by decide +kernel
  rw [hrun, Option.all_some, decide_eq_true_eq] at hdone
  have huntouched : RunMeets step (Sidebar.Untouched oldestChat) ⟨threeChats, []⟩ actions := by
    decide +kernel
  exact ⟨s, hrun, hdone, sidebar_shows_once (by decide) hrun huntouched (by decide +kernel) hdone⟩

/-- Chat 3 is deleted after the page that ends with it: its id is no cursor any more, the next page
is empty, and chat 1 is not shown. -/
theorem sidebar_loses_chats :
    ¬ ∀ (parseUuid : String → Option Uuid) (principal : RequestPrincipal) (limit : PageSize)
        (includeArchived : Bool) (db : ChatsDb) (actions : List SidebarAction) (s : Sidebar)
        (chat : ChatRow),
      listed principal includeArchived chat = true →
      runSteps (Sidebar.step parseUuid principal limit includeArchived) ⟨db, []⟩ actions = some s →
      RunMeets (Sidebar.step parseUuid principal limit includeArchived)
        (fun s _ => chat ∈ s.db.chats.rows) ⟨db, []⟩ actions →
      s.bookmark = .Done → s.shown chat.id = 1 := by
  intro hall
  let step := Sidebar.step parseTwoOrThree (.Authenticated 1 0) ⟨1, by decide⟩ false
  let actions : List SidebarAction := [.Load none, .Commit (.DeleteChat 3),
    .Load (some "00000000-0000-0000-0000-000000000003")]
  have hsome : (runSteps step ⟨threeChats, []⟩ actions).isSome := by decide +kernel
  obtain ⟨s, hrun⟩ := Option.isSome_iff_exists.mp hsome
  have hend : (runSteps step ⟨threeChats, []⟩ actions).all
      (fun s => s.bookmark = .Done ∧ s.shown 1 = 0) := by decide +kernel
  rw [hrun, Option.all_some, decide_eq_true_eq] at hend
  have hmeets : RunMeets step (fun s _ => oldestChat ∈ s.db.chats.rows) ⟨threeChats, []⟩ actions := by
    decide +kernel
  have hone := hall _ _ _ _ _ _ s oldestChat (by decide) hrun hmeets hend.1
  exact absurd (hend.2.symm.trans hone) (by decide)

end RagStack
