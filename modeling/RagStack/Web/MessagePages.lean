import RagStack.Chats.ChatsTransactions
import RagStack.Core.Runs

/-!
# `chat-page.tsx`: reading a chat page by page

The page of a chat asks for its newest messages first and for older ones with the id of the oldest
message it has.  `mergeMessages` puts the pages in one list, the last page in front.  Meanwhile the
chat goes on: generations add messages at its end and complete them.

Here cursors do what they should.  Messages are ordered by the time of their creation and their id,
neither of which ever changes, and a cursor is a message that stays where it is.  What is added
while somebody scrolls upwards is added at the other end.  So the pages go backwards through the
messages that were there at the first call, each of them once, and the sequence ends, since there
are only so many of them.

What a message says may change nevertheless.  A reply that was still being generated when its page
was loaded is completed later, and the page shows it as it was.  The order and the ids are those of
the first call, and the contents are those of the call that has loaded them.

The condition on what happens in between is that the chat only grows at its end.  New rows that get
the ids and times of earlier ones are excluded by it, and deletions of the chat too.  The proof
carries along that the pages and what is behind the cursor are the messages of the first call.

* `mergeMessages` — of `chat.helpers.ts`, which shows a message once even if two pages have it.
* `ChatReader.step` — a page is loaded, or a transaction commits.
* `ChatReader.Inv` — the pages and what is behind the cursor are the messages of the first call.
* `messagePages_merge` — the sequence ends, with the messages of the first call in their order.
-/

namespace RagStack

/-! ## `mergeMessages` -/

/-- One message: `seen` and `merged` after it. -/
def mergeMessage (state : List Uuid × List ChatMessage) (message : ChatMessage) :
    List Uuid × List ChatMessage :=
  if message.id ∈ state.1 then state else (message.id :: state.1, state.2 ++ [message])

def mergeMessages (pages : List (List ChatMessage)) : List ChatMessage :=
  (pages.reverse.flatten.foldl mergeMessage ([], [])).2

/-- Messages that are new are all appended. -/
lemma foldl_mergeMessage_of_nodup {messages : List ChatMessage} {seen : List Uuid}
    {merged : List ChatMessage} (hnodup : (messages.map (·.id)).Nodup)
    (hnew : ∀ message ∈ messages, message.id ∉ seen) :
    (messages.foldl mergeMessage (seen, merged)).2 = merged ++ messages := by
  induction messages generalizing seen merged with
  | nil => exact (List.append_nil merged).symm
  | cons message messages ih =>
      obtain ⟨hfirst, hnodup⟩ := List.nodup_cons.mp hnodup
      have hstep : mergeMessage (seen, merged) message
          = (message.id :: seen, merged ++ [message]) := if_neg (hnew message List.mem_cons_self)
      rw [List.foldl_cons, hstep, ih hnodup, List.append_assoc, List.singleton_append]
      intro other hother hseen
      rcases List.mem_cons.mp hseen with heq | hseen
      · exact hfirst (List.mem_map.mpr ⟨other, hother, heq⟩)
      · exact hnew other (List.mem_cons_of_mem _ hother) hseen

lemma mergeMessages_of_nodup {pages : List (List ChatMessage)}
    (hnodup : (pages.reverse.flatten.map (·.id)).Nodup) :
    mergeMessages pages = pages.reverse.flatten :=
  foldl_mergeMessage_of_nodup hnodup fun _ _ => List.not_mem_nil

/-! ## The page of a chat

The reader has the tables and the pages, and one step is a page or a transaction of somebody else.
-/

/-- The tables, and the pages `useInfiniteQuery` has loaded, which stay as they were when they were
loaded. -/
structure ChatReader where
  db : ChatsDb
  pages : List ChatDetail

/-- The next page is loaded, with the text of a cursor, or somebody changes the tables. -/
inductive ChatReaderAction where
  | Load (cursor : Option String)
  | Commit (transaction : ChatsTransaction)

/-- The place of a message in its chat, as the client sees it. -/
def ChatMessage.place (message : ChatMessage) : Timestamp ×ₗ Uuid :=
  toLex (message.createdAt, message.id)

namespace ChatReader

/-- `getNextPageParam`, with the place of the message it names: the first one of the page. -/
def bookmark (s : ChatReader) : Bookmark (Timestamp ×ₗ Uuid) Uuid :=
  match s.pages.getLast? with
  | none => .Start
  | some page =>
      match page.nextCursor, page.messages.head? with
      | some cursor, some message => .Next cursor message.place
      | _, _ => .Done

def messages (s : ChatReader) : List ChatMessage := mergeMessages (s.pages.map (·.messages))

section Step

variable (parseUuid : String → Option Uuid) (principal : RequestPrincipal) (chatId : String)
  (limit : PageSize)

/-- The next page.  The text of a cursor is one the server reads as the cursor. -/
def load (s : ChatReader) (cursor : Option String) : Option ChatReader :=
  match s.bookmark with
  | .Done => none
  | bookmark =>
      if parseCursor parseUuid cursor = .ok bookmark.cursor then
        match s.db.get parseUuid principal chatId cursor limit with
        | .ok page => some { s with pages := s.pages ++ [page] }
        | .error _ => none
      else none

def step (s : ChatReader) : ChatReaderAction → Option ChatReader
  | .Load cursor => s.load parseUuid principal chatId limit cursor
  | .Commit transaction => some { s with db := s.db.after transaction }

end Step

/-- New generations only: what is added to the chat is later than what it has. -/
def Grows (chatId : Uuid) (s : ChatReader) : ChatReaderAction → Prop
  | .Load _ => True
  | .Commit transaction => ChatsDb.LaterOnly chatId s.db transaction

instance (chatId : Uuid) (s : ChatReader) : DecidablePred (Grows chatId s)
  | .Load _ => inferInstanceAs (Decidable True)
  | .Commit transaction => inferInstanceAs (Decidable (ChatsDb.LaterOnly chatId s.db transaction))

/-- The message is as it was at every call: whenever a page is loaded, the row is in the table
unchanged. -/
def Untouched (message : Message) (s : ChatReader) : ChatReaderAction → Prop
  | .Load _ => message ∈ s.db.messages
  | .Commit _ => True

/-! ## The pages as rows

As in the sidebar, what was shown was read from rows. -/

/-- The rows the pages were made from. -/
structure Reads (s : ChatReader) (reading : Reading Message (Timestamp ×ₗ Uuid) Uuid) : Prop where
  pages : s.pages.map (·.messages) = reading.pages.map fun rows => rows.reverse.map toChatMessage
  bookmark : s.bookmark = reading.bookmark

section Load

variable {parseUuid : String → Option Uuid} {principal : RequestPrincipal} {chatId : String}
  {id : Uuid} {limit : PageSize} {s s' : ChatReader} {cursor : Option String}
  {reading : Reading Message (Timestamp ×ₗ Uuid) Uuid}

/-- What `load` has asked for, and what it adds. -/
lemma load_eq_some (hload : s.load parseUuid principal chatId limit cursor = some s') :
    s.bookmark ≠ .Done ∧ parseCursor parseUuid cursor = .ok s.bookmark.cursor
      ∧ ∃ page, s.db.get parseUuid principal chatId cursor limit = .ok page
        ∧ s' = { s with pages := s.pages ++ [page] } := by
  simp only [ChatReader.load] at hload
  split at hload
  · cases hload
  · rename_i bookmark hnot
    split at hload
    · rename_i hparse
      split at hload
      · rename_i page hpage
        exact ⟨hnot, hparse, page, hpage, (Option.some.inj hload).symm⟩
      · cases hload
    · cases hload

/-- **Loading a page** is turning one. -/
lemma Reads.load (h : s.Reads reading) (hid : parseId parseUuid chatId = .ok id)
    (hload : s.load parseUuid principal chatId limit cursor = some s') :
    s'.db = s.db ∧ s.db.OwnChat principal id ∧ ∃ reading',
      turnPage Message.place Message.id (·.chatId = id) limit s.db.messages reading = some reading'
        ∧ s'.Reads reading' := by
  obtain ⟨hnot, hparse, page, hpage, rfl⟩ := load_eq_some hload
  have hown := ChatsDb.ownChat_of_get hid hpage
  obtain ⟨page', hpage', hmessages, hnext⟩ := ChatsDb.get_page hid hown hparse
  obtain rfl : page = page' := Except.ok.inj (hpage.symm.trans hpage')
  rw [h.bookmark] at hnot hmessages hnext
  refine ⟨rfl, hown, reading.add Message.place Message.id limit
    (listMessages id limit reading.bookmark.cursor s.db.messages),
    turnPage_eq_some_iff.mpr ⟨hnot, rfl⟩, ?_, ?_⟩
  · simp only [List.map_append, List.map_singleton, Reading.add, h.pages, hmessages]
  · simp only [ChatReader.bookmark, List.getLast?_concat, Reading.add, hnext, ChatsDb.nextCursor,
      hmessages, List.head?_map, List.head?_reverse]
    by_cases hmore : limit < (listMessages id limit reading.bookmark.cursor s.db.messages).length
    · simp only [if_pos hmore]
      cases ((listMessages id limit reading.bookmark.cursor s.db.messages).take limit).getLast? with
      | none => rfl
      | some row => rfl
    · simp only [if_neg hmore]

/-- As long as there is a next page, it can be loaded. -/
lemma load_isSome (hid : parseId parseUuid chatId = .ok id) (hown : s.db.OwnChat principal id)
    (hnot : s.bookmark ≠ .Done) (hcursor : parseCursor parseUuid cursor = .ok s.bookmark.cursor) :
    (s.load parseUuid principal chatId limit cursor).isSome := by
  have hget : ∃ page, s.db.get parseUuid principal chatId cursor limit = .ok page := by
    obtain ⟨page, hpage, -⟩ := ChatsDb.get_page hid hown hcursor
    exact ⟨page, hpage⟩
  obtain ⟨page, hpage⟩ := hget
  unfold load
  split
  · rename_i hdone
    exact absurd hdone hnot
  · rw [if_pos hcursor, hpage]
    rfl

/-! ## The messages of the first call

The invariant, which the first call establishes and every later one keeps. -/

/-- The places of the messages of a chat, the newest first. -/
def newestPlaces (db : ChatsDb) (id : Uuid) : List (Timestamp ×ₗ Uuid) :=
  (newestFirst Message.place (db.messages.filter (·.chatId = id))).map Message.place

lemma mem_newestPlaces {db : ChatsDb} {k : Timestamp ×ₗ Uuid} :
    k ∈ newestPlaces db id ↔ k ∈ db.places id := by
  simp only [newestPlaces, ChatsDb.places, List.mem_map, mem_newestFirst]

lemma newestPlaces_pairwise (db : ChatsDb) (id : Uuid) :
    (newestPlaces db id).Pairwise fun a b => b < a :=
  List.pairwise_map.mpr (visible_pairwise db.nodup_messages _)

/-- **What holds after the first call**, which found the tables `first`: the pages go through its
messages in order, the cursor is one of them, and the chat has kept them. -/
structure Inv (principal : RequestPrincipal) (id : Uuid) (first : ChatsDb) (s : ChatReader)
    (reading : Reading Message (Timestamp ×ₗ Uuid) Uuid) : Prop where
  reads : s.Reads reading
  started : reading.bookmark ≠ .Start
  follows : reading.Follows Message.place (newestPlaces first id)
  marked : ∀ cursor place, reading.bookmark = .Next cursor place →
    place ∈ newestPlaces first id ∧ (ofLex place).2 = cursor
  keeps : ChatsDb.KeepsChat principal id first s.db

/-- What is behind the cursor is what is left of the messages of the first call. -/
lemma Inv.rows {first : ChatsDb} (h : Inv principal id first s reading)
    (hnot : reading.bookmark ≠ .Done) :
    (rowsFrom Message.place Message.id (·.chatId = id) reading.bookmark.cursor s.db.messages).map
      Message.place = reading.bookmark.below (newestPlaces first id) := by
  cases hbookmark : reading.bookmark with
  | Start => exact absurd hbookmark h.started
  | Done => exact absurd hbookmark hnot
  | Next cursor place =>
      obtain ⟨hplace, hcursor⟩ := h.marked cursor place hbookmark
      have hold := h.keeps.old place (mem_newestPlaces.mp hplace)
      obtain ⟨row, hrow, heq⟩ := List.mem_map.mp hold
      obtain ⟨hrow, hvisible⟩ := List.mem_filter.mp hrow
      have hid : row.id = cursor := by
        rw [← hcursor, ← heq]
        rfl
      refine map_key_rowsFrom s.db.messages_nodup s.db.nodup_messages
        (newestPlaces_pairwise first id) hrow hid heq hvisible fun k hk => ?_
      rw [mem_newestPlaces]
      constructor
      · intro hmem
        rcases h.keeps.new k hmem with hmem | hlater
        · exact hmem
        · exact absurd hk (hlater place (mem_newestPlaces.mp hplace)).asymm
      · exact h.keeps.old k

/-- The next bookmark is at a message of the first call. -/
lemma marked_turnPage {first : ChatsDb} {table : List Message} (hlimit : 0 < limit.val)
    {reading' : Reading Message (Timestamp ×ₗ Uuid) Uuid}
    (hrows : (rowsFrom Message.place Message.id (·.chatId = id) reading.bookmark.cursor table).map
      Message.place = reading.bookmark.below (newestPlaces first id))
    (hturn : turnPage Message.place Message.id (·.chatId = id) limit table reading = some reading') :
    reading'.bookmark ≠ .Start ∧ ∀ cursor place, reading'.bookmark = .Next cursor place →
      place ∈ newestPlaces first id ∧ (ofLex place).2 = cursor := by
  obtain ⟨-, -, ⟨-, hdone⟩ | ⟨last, -, hlast, hnext⟩⟩ := turnPage_spec hlimit hturn
  · rw [hdone]
    simp
  · rw [hnext]
    refine ⟨by simp, ?_⟩
    rintro cursor place ⟨⟩
    refine ⟨?_, rfl⟩
    have hmem := List.mem_map_of_mem (f := Message.place)
      (List.mem_of_mem_take (List.mem_of_getLast? hlast))
    rw [hrows] at hmem
    exact Bookmark.mem_of_mem_below hmem

/-- **The first call.** -/
lemma Inv.first {db : ChatsDb} (hid : parseId parseUuid chatId = .ok id)
    (hload : load parseUuid principal chatId limit ⟨db, []⟩ cursor = some s') :
    ∃ reading, turnPage Message.place Message.id (·.chatId = id) limit db.messages .start
        = some reading ∧ Inv principal id db s' reading := by
  have hstart : Reads ⟨db, []⟩ .start := ⟨rfl, rfl⟩
  obtain ⟨hdb, hown, reading', hturn, hreads⟩ := hstart.load hid hload
  have hrows : (rowsFrom Message.place Message.id (·.chatId = id) none db.messages).map Message.place
      = newestPlaces db id := rfl
  obtain ⟨hstarted, hmarked⟩ := marked_turnPage (by omega) hrows hturn
  refine ⟨reading', hturn, hreads, hstarted, ?_, hmarked, ?_⟩
  · refine Reading.Follows.turnPage (by omega) (newestPlaces_pairwise db id) rfl hturn ⟨rfl, ?_, ?_⟩
    · intro _
      exact le_rfl
    · exact Nat.zero_le 1
  · rw [hdb]
    exact .refl hown

/-- **Every later call.**  The page is the next piece of the messages of the first call, since the
cursor is one of them and nothing was put between them. -/
lemma Inv.load {first : ChatsDb} (h : Inv principal id first s reading)
    (hid : parseId parseUuid chatId = .ok id)
    (hload : ChatReader.load parseUuid principal chatId limit s cursor = some s') :
    ∃ reading', turnPage Message.place Message.id (·.chatId = id) limit s.db.messages reading
        = some reading' ∧ Inv principal id first s' reading' := by
  obtain ⟨hdb, hown, reading', hturn, hreads⟩ := h.reads.load hid hload
  have hrows := h.rows (turnPage_spec (by omega) hturn).1
  obtain ⟨hstarted, hmarked⟩ := marked_turnPage (by omega) hrows hturn
  refine ⟨reading', hturn, hreads, hstarted, ?_, hmarked, ?_⟩
  · exact h.follows.turnPage (by omega) (newestPlaces_pairwise first id) hrows hturn
  · rw [hdb]
    exact h.keeps

lemma Inv.commit {first : ChatsDb} (h : Inv principal id first s reading)
    {transaction : ChatsTransaction} (hlater : ChatsDb.LaterOnly id s.db transaction) :
    Inv principal id first { s with db := s.db.after transaction } reading where
  reads := ⟨h.reads.pages, h.reads.bookmark⟩
  started := h.started
  follows := h.follows
  marked := h.marked
  keeps := h.keeps.trans (ChatsDb.after_keepsChat h.keeps.own hlater)

lemma Inv.done {first : ChatsDb} (h : Inv principal id first s reading)
    (hdone : s.bookmark = .Done) :
    s.messages = reading.pages.flatten.reverse.map toChatMessage
      ∧ s.messages.map (·.id)
        = (oldestFirst Message.place (first.messages.filter (·.chatId = id))).map Message.id := by
  have hplaces : reading.pages.flatten.map Message.place = newestPlaces first id := by
    have hsplit := h.follows.split
    rw [← h.reads.bookmark, hdone] at hsplit
    exact (List.append_nil _).symm.trans hsplit
  have hids : reading.pages.flatten.reverse.map Message.id
      = (oldestFirst Message.place (first.messages.filter (·.chatId = id))).map Message.id := by
    have hnodup : ((first.messages.filter (·.chatId = id)).map Message.place).Nodup :=
      first.nodup_messages.sublist (List.filter_sublist.map _)
    have hids := congrArg (List.map fun place => (ofLex place).2) hplaces
    rw [newestPlaces, List.map_map, List.map_map] at hids
    rw [← reverse_newestFirst hnodup, List.map_reverse, List.map_reverse]
    exact congrArg List.reverse hids
  have hflatten : (s.pages.map (·.messages)).reverse.flatten
      = reading.pages.flatten.reverse.map toChatMessage := by
    rw [h.reads.pages, List.reverse_flatten, List.map_flatten, List.map_reverse, List.map_map]
    rfl
  have hmessages : s.messages = reading.pages.flatten.reverse.map toChatMessage := by
    rw [messages, mergeMessages_of_nodup, hflatten]
    rw [hflatten, List.map_map]
    have hview : (fun message : ChatMessage => message.id) ∘ toChatMessage = Message.id := rfl
    rw [hview, hids]
    exact first.messages_nodup.sublist ((List.filter_sublist.map _)) |>.perm
      ((oldestFirst_perm _).map _).symm
  refine ⟨hmessages, ?_⟩
  rw [hmessages, List.map_map]
  exact hids

/-- The pages show the message as it is. -/
def ShownAs (message : Message) (reading : Reading Message (Timestamp ×ₗ Uuid) Uuid) : Prop :=
  ∀ row ∈ reading.pages.flatten, row.id = message.id → row = message

/-- A page shows a message as it is in the table. -/
lemma ShownAs.turnPage {message : Message} {reading' : Reading Message (Timestamp ×ₗ Uuid) Uuid}
    (h : ShownAs message reading) (hmessage : message ∈ s.db.messages)
    (hturn : RagStack.turnPage Message.place Message.id (·.chatId = id) limit s.db.messages reading
      = some reading') : ShownAs message reading' := by
  obtain ⟨-, hpages, -⟩ := turnPage_spec (by omega) hturn
  intro row hrow heq
  rw [hpages, List.flatten_append, List.flatten_singleton] at hrow
  rcases List.mem_append.mp hrow with hrow | hrow
  · exact h row hrow heq
  · have hmem := mem_table_of_mem_rowsFrom s.db.nodup_messages (List.mem_of_mem_take hrow)
    exact List.inj_on_of_nodup_map s.db.messages_nodup hmem.1 hmessage heq

lemma Inv.run {first : ChatsDb} {actions : List ChatReaderAction}
    (h : ∃ reading, Inv principal id first s reading) (hid : parseId parseUuid chatId = .ok id)
    (hgrows : RunMeets (step parseUuid principal chatId limit) (Grows id) s actions)
    (hrun : runSteps (step parseUuid principal chatId limit) s actions = some s') :
    ∃ reading, Inv principal id first s' reading := by
  refine runSteps_invariant_of_meets (P := fun s => ∃ reading, Inv principal id first s reading)
    ?_ hgrows hrun h
  rintro s action s' ⟨reading, h⟩ hmeets hstep
  cases action with
  | Load cursor =>
      obtain ⟨reading', -, h'⟩ := h.load hid hstep
      exact ⟨reading', h'⟩
  | Commit transaction =>
      obtain rfl := Option.some.inj hstep
      exact ⟨reading, h.commit hmeets⟩

/-- A run goes on showing a message that nobody changes as it is. -/
lemma Inv.run_shownAs {first : ChatsDb} {actions : List ChatReaderAction} {message : Message}
    (h : ∃ reading, Inv principal id first s reading ∧ ShownAs message reading)
    (hid : parseId parseUuid chatId = .ok id)
    (hgrows : RunMeets (step parseUuid principal chatId limit) (Grows id) s actions)
    (huntouched : RunMeets (step parseUuid principal chatId limit) (Untouched message) s actions)
    (hrun : runSteps (step parseUuid principal chatId limit) s actions = some s') :
    ∃ reading, Inv principal id first s' reading ∧ ShownAs message reading := by
  refine runSteps_invariant_of_meets
    (P := fun s => ∃ reading, Inv principal id first s reading ∧ ShownAs message reading)
    ?_ (hgrows.and huntouched) hrun h
  rintro s action s' ⟨reading, h, hshown⟩ ⟨hmeets, huntouched⟩ hstep
  cases action with
  | Load cursor =>
      obtain ⟨reading', hturn, h'⟩ := h.load hid hstep
      exact ⟨reading', h', hshown.turnPage huntouched hturn⟩
  | Commit transaction =>
      obtain rfl := Option.some.inj hstep
      exact ⟨reading, h.commit hmeets, hshown⟩

/-- There are not more pages than messages and one. -/
lemma Inv.length_pages {first : ChatsDb} (h : Inv principal id first s reading) :
    s.pages.length ≤ (first.messages.filter (·.chatId = id)).length + 1 := by
  have hpages := congrArg List.length h.reads.pages
  have hsplit := congrArg List.length h.follows.split
  have hlength := h.follows.length
  rw [List.length_map, List.length_map] at hpages
  rw [List.length_append, List.length_map, newestPlaces, List.length_map, length_newestFirst]
    at hsplit
  omega

end Load

end ChatReader

/-- **Reading a chat to its end** while generations are added to it: every next page can be loaded,
there are not more of them than messages at the first call and one, and together they show these
messages in chronological order, each of them once.  A message that nobody changes is shown as it
is. -/
theorem messagePages_merge {parseUuid : String → Option Uuid} {principal : RequestPrincipal}
    {chatId : String} {id : Uuid} {limit : PageSize} {db : ChatsDb} {cursor : Option String}
    {actions : List ChatReaderAction} {s : ChatReader}
    (hid : parseId parseUuid chatId = .ok id)
    (hrun : runSteps (ChatReader.step parseUuid principal chatId limit) ⟨db, []⟩
      (.Load cursor :: actions) = some s)
    (hgrows : RunMeets (ChatReader.step parseUuid principal chatId limit) (ChatReader.Grows id)
      ⟨db, []⟩ (.Load cursor :: actions)) :
    let first := oldestFirst Message.place (db.messages.filter (·.chatId = id))
    s.pages.length ≤ first.length + 1
    ∧ (s.bookmark ≠ .Done → ∀ cursor, parseCursor parseUuid cursor = .ok s.bookmark.cursor →
        (s.load parseUuid principal chatId limit cursor).isSome)
    ∧ (s.bookmark = .Done → s.messages.map (·.id) = first.map Message.id
      ∧ ∀ message ∈ first, RunMeets (ChatReader.step parseUuid principal chatId limit)
          (ChatReader.Untouched message) ⟨db, []⟩ (.Load cursor :: actions) →
        toChatMessage message ∈ s.messages) := by
  intro first
  obtain ⟨s₁, hfirst, hrest⟩ := runSteps_cons_eq_some hrun
  obtain ⟨reading₁, hturn, hinv₁⟩ := ChatReader.Inv.first hid hfirst
  obtain ⟨reading, hinv⟩ := ChatReader.Inv.run ⟨reading₁, hinv₁⟩ hid (hgrows.2 s₁ hfirst) hrest
  refine ⟨?_, fun hnot cursor hcursor => ChatReader.load_isSome hid hinv.keeps.own hnot hcursor,
    fun hdone => ⟨(hinv.done hdone).2, fun message hmessage huntouched => ?_⟩⟩
  · rw [(oldestFirst_perm _).length_eq]
    exact hinv.length_pages
  · have hstart : ChatReader.ShownAs message .start := fun row hrow => absurd hrow List.not_mem_nil
    have hshown₁ : ChatReader.ShownAs message reading₁ :=
      ChatReader.ShownAs.turnPage (s := ⟨db, []⟩) hstart huntouched.1 hturn
    obtain ⟨reading, hinv, hshown⟩ := ChatReader.Inv.run_shownAs ⟨reading₁, hinv₁, hshown₁⟩ hid
      (hgrows.2 s₁ hfirst) (huntouched.2 s₁ hfirst) hrest
    obtain ⟨hmessages, hids⟩ := hinv.done hdone
    -- the message with its id is there, and it is the message itself
    have hmem : message.id ∈ s.messages.map (·.id) := hids ▸ List.mem_map_of_mem hmessage
    obtain ⟨view, hview, heq⟩ := List.mem_map.mp hmem
    rw [hmessages] at hview ⊢
    obtain ⟨row, hrow, rfl⟩ := List.mem_map.mp hview
    have hrowEq := hshown row (List.mem_reverse.mp hrow) heq
    exact List.mem_map.mpr ⟨row, hrow, congrArg toChatMessage hrowEq⟩

/-! ## A chat of three messages

Two pages, and a generation that begins between them. -/

/-- A prompt, its reply and one more prompt. -/
def threeMessages : ChatsDb where
  models := [⟨7, "m", 4096, true⟩]
  chats :=
    { rows := [⟨⟨1, some 1, none, [], 7, 20⟩, 10, 20, none⟩]
      nodup := by decide
      hasModel := by decide
      oneOwner := by decide }
  messages := [
    MessageDraft.message ⟨1, .User, .Completed, [], none, none, .Unknown⟩ 3 10,
    MessageDraft.message ⟨1, .Assistant, .Completed, [], some "m", none, .Unknown⟩ 4 11,
    MessageDraft.message ⟨1, .User, .Completed, [], none, none, .Unknown⟩ 5 20]
  summaries := []
  messages_nodup := by decide
  summaries_nodup := List.nodup_nil
  messageChat := by decide
  summaryChat := by decide

/-- The UUIDs 1 and 4. -/
def parseOneOrFour (text : String) : Option Uuid :=
  [("00000000-0000-0000-0000-000000000001", 1), ("00000000-0000-0000-0000-000000000004", 4)].lookup
    text

/-- Two pages, with a generation between them. -/
theorem messagePages_merge_threeMessages :
    let step := ChatReader.step parseOneOrFour (.Authenticated 1 0)
      "00000000-0000-0000-0000-000000000001" ⟨2, by decide⟩
    let actions : List ChatReaderAction := [.Load none, .Commit (.BeginGeneration 1 [] "m" 8 9 30 30),
      .Load (some "00000000-0000-0000-0000-000000000004")]
    ∃ s, runSteps step ⟨threeMessages, []⟩ actions = some s ∧ s.bookmark = .Done
      ∧ s.messages.map (·.id) = [3, 4, 5] := by
  intro step actions
  have hsome : (runSteps step ⟨threeMessages, []⟩ actions).isSome := by decide +kernel
  obtain ⟨s, hrun⟩ := Option.isSome_iff_exists.mp hsome
  have hdone : (runSteps step ⟨threeMessages, []⟩ actions).all (·.bookmark = .Done) := by
    decide +kernel
  rw [hrun, Option.all_some, decide_eq_true_eq] at hdone
  have hgrows : RunMeets step (ChatReader.Grows 1) ⟨threeMessages, []⟩ actions := by decide +kernel
  have hid : parseId parseOneOrFour "00000000-0000-0000-0000-000000000001" = .ok 1 := by decide
  have hids := ((messagePages_merge hid hrun hgrows).2.2 hdone).1
  have hfirst : (oldestFirst Message.place (threeMessages.messages.filter (·.chatId = 1))).map
      Message.id = [3, 4, 5] := by decide +kernel
  exact ⟨s, hrun, hdone, hids.trans hfirst⟩

end RagStack
