import RagStack.Chats.ChatsTransactions
import Mathlib.Data.Nat.Digits.Lemmas

/-!
# The order of messages and the fallback `uuidv7()`

Messages are read by `(created_at, id)`.  Where PostgreSQL has no `uuidv7()`, a migration installs
one: 48 bits of milliseconds, and random bits behind them.  Within a millisecond its values have no
order.

A generation creates two rows in one transaction, a prompt and its reply, and `now()` is the time of
the transaction.  Their `created_at` is therefore always the same, and it is the ids that decide
which of them is read first.  With an id that grows within the millisecond it would be the prompt.
With this one it is the prompt if its random bits happen to be smaller, unless the clock has gone on
to the next millisecond between the two draws.

The function is modelled on hexadecimal digits, as the migration writes it, with its padding and its
cuts.  What is proved about it is the order of its values.  The order of the messages then is a
statement about neighbours in the order of creation, and the condition for it is about what was
drawn for them.

* `uuidv7` — the function, on hexadecimal digits.
* `uuidv7_lt_iff` — a value is less than another one if its millisecond is earlier, or it is the
  same and the rest is less.
* `ChatsDb.generate` — generations on a chat, one after the other.
* `readInOrder_iff` — the messages are read in the order of their creation exactly if neighbours of
  the same `created_at` have increasing ids.
* `generation_readBackwards` — a reply that is read before its prompt.
-/

namespace RagStack

/-! ## `uuidv7()`

A value is put together from texts, and its order is that of the texts because all values have the
same length. -/

/-- `to_hex`: the digits of a number, the first one in front. -/
def toHex (n : ℕ) : List ℕ := if n = 0 then [0] else (Nat.digits 16 n).reverse

/-- `lpad(text, length, '0')`, which cuts a text that is too long. -/
def lpad (text : List ℕ) (length : ℕ) : List ℕ :=
  if length ≤ text.length then text.take length
  else List.replicate (length - text.length) 0 ++ text

/-- `substr(text, from, count)`. -/
def substr (text : List ℕ) (start count : ℕ) : List ℕ := (text.drop (start - 1)).take count

/-- `::uuid`, by value; hyphens do not count. -/
def hexValue (digits : List ℕ) : ℕ := Nat.ofDigits 16 digits.reverse

/-- What a call of `uuidv7()` draws: the milliseconds of `clock_timestamp()`, the digits of
`gen_random_uuid()`, and `floor(random() * 4)`. -/
structure Draw where
  clock : ℕ
  random : Fin 32 → Fin 16
  variant : Fin 4
  version_four : random 12 = 4
  variant_one : 8 ≤ random 16 ∧ random 16 ≤ 11

namespace Draw

/-- `timestamp_hex`. -/
def timestampHex (draw : Draw) : List ℕ := lpad (toHex draw.clock) 12

/-- `random_hex`. -/
def randomHex (draw : Draw) : List ℕ := List.ofFn fun i => (draw.random i).val

/-- The digits behind the version. -/
def restHex (draw : Draw) : List ℕ :=
  substr draw.randomHex 1 3 ++ [8 + draw.variant.val] ++ substr draw.randomHex 4 3
    ++ substr draw.randomHex 7 12

/-- `uuidv7()`. -/
def uuidv7 (draw : Draw) : Uuid :=
  hexValue (substr draw.timestampHex 1 8 ++ substr draw.timestampHex 9 4 ++ [7] ++ draw.restHex)

/-- The draws in the order of their values: by their millisecond, as far as twelve digits hold it,
and then by the rest. -/
def Earlier (a b : Draw) : Prop :=
  hexValue a.timestampHex < hexValue b.timestampHex
    ∨ hexValue a.timestampHex = hexValue b.timestampHex ∧ hexValue a.restHex < hexValue b.restHex

instance : DecidableRel Earlier := fun _ _ => inferInstanceAs (Decidable (_ ∨ _))

end Draw

lemma hexValue_append (digits digits' : List ℕ) :
    hexValue (digits ++ digits') = hexValue digits * 16 ^ digits'.length + hexValue digits' := by
  rw [hexValue, List.reverse_append, Nat.ofDigits_append, List.length_reverse, hexValue, hexValue]
  ring

lemma length_lpad (text : List ℕ) (length : ℕ) : (lpad text length).length = length := by
  simp only [lpad]
  split
  · rw [List.length_take]
    omega
  · rw [List.length_append, List.length_replicate]
    omega

lemma hexValue_lt {digits : List ℕ} (hdigits : ∀ digit ∈ digits, digit < 16) :
    hexValue digits < 16 ^ digits.length := by
  have hlt : Nat.ofDigits 16 digits.reverse < 16 ^ digits.reverse.length :=
    Nat.ofDigits_lt_base_pow_length (by decide) fun digit hdigit =>
      hdigits digit (List.mem_reverse.mp hdigit)
  rwa [List.length_reverse] at hlt

namespace Draw

lemma timestampHex_split (draw : Draw) :
    substr draw.timestampHex 1 8 ++ substr draw.timestampHex 9 4 = draw.timestampHex := by
  have hlength : draw.timestampHex.length = 12 := length_lpad _ _
  simp only [substr]
  rw [List.drop_zero, List.take_of_length_le (l := draw.timestampHex.drop _) (by simp [hlength])]
  exact List.take_append_drop 8 _

lemma length_restHex (draw : Draw) : draw.restHex.length = 19 := by
  simp [restHex, substr, randomHex]

lemma restHex_lt (draw : Draw) : ∀ digit ∈ draw.restHex, digit < 16 := by
  have hrandom : ∀ digit ∈ draw.randomHex, digit < 16 := by
    intro digit hdigit
    obtain ⟨i, rfl⟩ := List.mem_ofFn.mp hdigit
    exact (draw.random i).isLt
  have hsubstr : ∀ start count, ∀ digit ∈ substr draw.randomHex start count, digit < 16 :=
    fun start count digit hdigit =>
      hrandom digit (List.mem_of_mem_drop (List.mem_of_mem_take hdigit))
  intro digit hdigit
  simp only [restHex, List.mem_append, List.mem_singleton] at hdigit
  rcases hdigit with ((hdigit | rfl) | hdigit) | hdigit
  · exact hsubstr 1 3 digit hdigit
  · omega
  · exact hsubstr 4 3 digit hdigit
  · exact hsubstr 7 12 digit hdigit

lemma uuidv7_eq (draw : Draw) :
    draw.uuidv7 = hexValue draw.timestampHex * 16 ^ 20 + (7 * 16 ^ 19 + hexValue draw.restHex) := by
  have hseven : hexValue [7] = 7 := rfl
  rw [uuidv7, timestampHex_split, List.append_assoc, hexValue_append, hexValue_append, hseven,
    List.length_append, length_restHex]
  rfl

/-- **The order of the values.** -/
lemma uuidv7_lt_iff {a b : Draw} : a.uuidv7 < b.uuidv7 ↔ Earlier a b := by
  have ha := hexValue_lt a.restHex_lt
  have hb := hexValue_lt b.restHex_lt
  rw [length_restHex] at ha hb
  rw [uuidv7_eq, uuidv7_eq, Earlier]
  change (_ : ℕ) < _ ↔ _
  omega

end Draw

/-! ## Generations on a chat -/

/-- A row of a generation: its creation time, and what its id was drawn from. -/
structure GeneratedRow where
  createdAt : Timestamp
  draw : Draw

/-- `(created_at, id)` of the row. -/
def GeneratedRow.place (row : GeneratedRow) : Timestamp ×ₗ Uuid :=
  toLex (row.createdAt, row.draw.uuidv7)

/-- How a generation ends, if it does: `completeGeneration` or `endGeneration`. -/
inductive GenerationEnd where
  | Completed (content : JsString) (promptTokens completionTokens : Option ℤ)
      (finishReason : Option String) (now : Timestamp)
  | Ended (content : JsString) (errorCode : Option String) (now : Timestamp)
  | Interrupted

/-- A generation: what it is asked for, and the two rows it creates. -/
structure Generation where
  content : JsString
  model : String
  prompt : GeneratedRow
  reply : GeneratedRow
  ending : GenerationEnd

/-- The rows in the order of their creation: of each generation the prompt and then the reply. -/
def createdRows (generations : List Generation) : List GeneratedRow :=
  generations.flatMap fun generation => [generation.prompt, generation.reply]

namespace ChatsDb

def generateOnce (db : ChatsDb) (chatId : Uuid) (generation : Generation) :
    Except JsError ChatsDb := do
  let begun ← db.beginGeneration chatId generation.content generation.model
    generation.prompt.draw.uuidv7 generation.reply.draw.uuidv7 generation.prompt.createdAt
    generation.reply.createdAt
  match generation.ending with
  | .Completed content promptTokens completionTokens finishReason now =>
      begun.completeGeneration generation.reply.draw.uuidv7 content promptTokens completionTokens
        finishReason now
  | .Ended content errorCode now =>
      begun.endGeneration generation.reply.draw.uuidv7 content errorCode now
  | .Interrupted => .ok begun

/-- Generations on a chat, one after the other.  The first whose ids the database refuses is the
error of all. -/
def generate (db : ChatsDb) (chatId : Uuid) : List Generation → Except JsError ChatsDb
  | [] => .ok db
  | generation :: generations => do
      let next ← db.generateOnce chatId generation
      next.generate chatId generations

/-- **Messages are read in the order** `rows`: by `findMessagesForHistory` the first one first, and
by `listMessages` the last one first. -/
structure ReadInOrder (db : ChatsDb) (chatId : Uuid) (rows : List GeneratedRow) : Prop where
  history : (oldestFirst Message.place (db.messages.filter (·.chatId = chatId))).map Message.place
    = rows.map GeneratedRow.place
  pages : ∀ limit, (listMessages chatId limit none db.messages).map Message.place
    = (rows.map GeneratedRow.place).reverse.take (limit + 1)

variable {db db' : ChatsDb} {chatId : Uuid}

lemma generateOnce_places {generation : Generation}
    (h : db.generateOnce chatId generation = .ok db') :
    db'.places chatId
      = generation.reply.place :: generation.prompt.place :: db.places chatId := by
  simp only [generateOnce] at h
  cases hbegin : db.beginGeneration chatId generation.content generation.model
      generation.prompt.draw.uuidv7 generation.reply.draw.uuidv7 generation.prompt.createdAt
      generation.reply.createdAt with
  | error e =>
      simp only [hbegin, bind, Except.bind] at h
      cases h
  | ok begun =>
      simp only [hbegin, bind, Except.bind] at h
      have hbegun := beginGeneration_places hbegin
      cases hending : generation.ending with
      | Completed content promptTokens completionTokens finishReason now =>
          simp only [hending] at h
          rw [(completeGeneration_spec h).1, hbegun]
          rfl
      | Ended content errorCode now =>
          simp only [hending] at h
          rw [(endGeneration_spec h).1, hbegun]
          rfl
      | Interrupted =>
          simp only [hending] at h
          cases h
          exact hbegun

/-- **What generations leave of a chat**: their rows, the last one in front. -/
lemma generate_places {generations : List Generation}
    (h : db.generate chatId generations = .ok db') :
    db'.places chatId
      = ((createdRows generations).map GeneratedRow.place).reverse ++ db.places chatId := by
  induction generations generalizing db with
  | nil =>
      cases h
      rfl
  | cons generation generations ih =>
      simp only [generate] at h
      cases hnext : db.generateOnce chatId generation with
      | error e =>
          simp only [hnext, bind, Except.bind] at h
          cases h
      | ok next =>
          simp only [hnext, bind, Except.bind] at h
          rw [ih h, generateOnce_places hnext]
          simp [createdRows]

end ChatsDb

/-! ## The order they are read in

A list is in order exactly if its neighbours are.  Neighbours with different times are in order by
assumption, so what is left are those of the same time. -/

/-- Neighbours decide whether rows are in order.  `S` and `T` is what is known of them. -/
lemma isChain_congr {α : Type*} {S T R R' : α → α → Prop}
    (hiff : ∀ a b, S a b → T a b → (R a b ↔ R' a b)) :
    ∀ {rows : List α}, rows.IsChain S → rows.IsChain T → (rows.IsChain R ↔ rows.IsChain R')
  | [], _, _ | [_], _, _ => by simp
  | a :: b :: rows, hS, hT => by
      obtain ⟨hSab, hS⟩ := List.isChain_cons_cons.mp hS
      obtain ⟨hTab, hT⟩ := List.isChain_cons_cons.mp hT
      rw [List.isChain_cons_cons, List.isChain_cons_cons, hiff a b hSab hTab,
        isChain_congr hiff hS hT]

section Keys

variable {ρ κ : Type*} [LinearOrder κ] {key : ρ → κ} {rows : List ρ} {keys : List κ}

/-- Reading by key yields `keys` exactly if they increase. -/
lemma map_oldestFirst_eq_iff (hperm : (rows.map key).Perm keys) :
    (oldestFirst key rows).map key = keys ↔ keys.Pairwise (· ≤ ·) := by
  have hsorted : ((oldestFirst key rows).map key).Pairwise (· ≤ ·) :=
    List.pairwise_map.mpr (oldestFirst_pairwise rows)
  constructor
  · rintro rfl
    exact hsorted
  · intro hkeys
    exact (((oldestFirst_perm rows).map key).trans hperm).eq_of_pairwise
      (fun _ _ _ _ => le_antisymm) hsorted hkeys

end Keys

namespace ChatsDb

variable {db db' : ChatsDb} {chatId : Uuid} {generations : List Generation}

/-- The messages are read in the order of their creation if their places increase. -/
lemma readInOrder_iff_pairwise {rows : List GeneratedRow}
    (hplaces : db.places chatId = (rows.map GeneratedRow.place).reverse) :
    db.ReadInOrder chatId rows ↔ (rows.map GeneratedRow.place).Pairwise (· ≤ ·) := by
  have hperm : ((db.messages.filter (·.chatId = chatId)).map Message.place).Perm
      (rows.map GeneratedRow.place) := by
    rw [show (db.messages.filter (·.chatId = chatId)).map Message.place = _ from hplaces]
    exact List.reverse_perm _
  rw [← map_oldestFirst_eq_iff hperm]
  refine ⟨ReadInOrder.history, fun hhistory => ⟨hhistory, fun limit => ?_⟩⟩
  have hnodup : ((db.messages.filter (·.chatId = chatId)).map Message.place).Nodup :=
    db.nodup_messages.sublist (List.filter_sublist.map _)
  rw [← hhistory, ← reverse_newestFirst hnodup, List.map_reverse, List.reverse_reverse,
    ← List.map_take]
  rfl

end ChatsDb

/-- **Messages are read in the order of their creation exactly if neighbours of the same
`created_at` have increasing ids**: the id of the later one is drawn in a later millisecond, or in
the same one with a greater rest. -/
theorem readInOrder_iff {db db' : ChatsDb} {chatId : Uuid} {generations : List Generation}
    (hempty : db.places chatId = []) (hrun : db.generate chatId generations = .ok db')
    (htimes : (createdRows generations).IsChain (·.createdAt ≤ ·.createdAt)) :
    db'.ReadInOrder chatId (createdRows generations)
      ↔ (createdRows generations).IsChain fun a b =>
        a.createdAt = b.createdAt → Draw.Earlier a.draw b.draw := by
  have hplaces : db'.places chatId = ((createdRows generations).map GeneratedRow.place).reverse := by
    rw [ChatsDb.generate_places hrun, hempty, List.append_nil]
  have hids : (createdRows generations).Pairwise fun a b => a.draw.uuidv7 ≠ b.draw.uuidv7 := by
    have hnodup : ((db'.places chatId).map fun place => (ofLex place).2).Nodup := by
      rw [ChatsDb.places, List.map_map]
      exact db'.messages_nodup.sublist (List.filter_sublist.map _)
    rw [hplaces, ← List.map_reverse, List.map_map] at hnodup
    have hpairwise := List.pairwise_map.mp hnodup
    exact (List.pairwise_reverse.mp hpairwise).imp fun h heq => h heq.symm
  rw [ChatsDb.readInOrder_iff_pairwise hplaces, List.pairwise_map]
  have htrans : IsTrans GeneratedRow fun a b => a.place ≤ b.place := ⟨fun _ _ _ => le_trans⟩
  rw [← List.isChain_iff_pairwise]
  refine isChain_congr (fun a b htime hid => ?_) htimes hids.isChain
  rw [GeneratedRow.place, GeneratedRow.place, Prod.Lex.toLex_le_toLex, ← Draw.uuidv7_lt_iff]
  constructor
  · rintro (hlt | ⟨-, hle⟩) heq
    · exact absurd heq hlt.ne
    · exact lt_of_le_of_ne hle hid
  · intro hearlier
    rcases htime.lt_or_eq with hlt | heq
    · exact .inl hlt
    · exact .inr ⟨heq, (hearlier heq).le⟩

/-! ## Within a millisecond -/

/-- A draw at one moment whose random digits are all `digit`, but for those that are fixed. -/
def drawOf (digit : Fin 16) : Draw where
  clock := 1790000000000
  random := fun i => if i = 12 then 4 else if i = 16 then 8 else digit
  variant := 0
  version_four := rfl
  variant_one := by revert digit; decide

/-- A prompt and a reply of one millisecond, with the random digits of their ids. -/
def generationOf (prompt reply : Fin 16) : Generation where
  content := []
  model := "m"
  prompt := ⟨1790000000000, drawOf prompt⟩
  reply := ⟨1790000000000, drawOf reply⟩
  ending := .Interrupted

/-- One chat without messages. -/
def emptyChat : ChatsDb where
  models := [⟨7, "m", 4096, true⟩]
  chats :=
    { rows := [⟨⟨1, some 1, none, [], 7, 10⟩, 10, 10, none⟩]
      nodup := by decide
      hasModel := by decide
      oneOwner := by decide }
  messages := []
  summaries := []
  messages_nodup := List.nodup_nil
  summaries_nodup := List.nodup_nil
  messageChat := by decide
  summaryChat := by decide

/-- A generation that commits leaves some tables. -/
lemma exists_generate {prompt reply : Fin 16}
    (hok : (emptyChat.generate 1 [generationOf prompt reply]).isOk = true) :
    ∃ db', emptyChat.generate 1 [generationOf prompt reply] = .ok db' := by
  cases hrun : emptyChat.generate 1 [generationOf prompt reply] with
  | ok db' => exact ⟨db', rfl⟩
  | error e =>
      rw [hrun] at hok
      cases hok

/-- With increasing digits the prompt is read first. -/
theorem readInOrder_iff_increasing :
    ∃ db', emptyChat.generate 1 [generationOf 0 15] = .ok db'
      ∧ db'.ReadInOrder 1 (createdRows [generationOf 0 15]) := by
  have hok : (emptyChat.generate 1 [generationOf 0 15]).isOk = true := by decide +kernel
  obtain ⟨db', hrun⟩ := exists_generate hok
  refine ⟨db', hrun, (readInOrder_iff rfl hrun ?_).mpr ?_⟩
  · simp [createdRows, generationOf]
  · simp only [createdRows, generationOf, List.flatMap_cons, List.flatMap_nil, List.append_nil]
    refine List.isChain_cons_cons.mpr ⟨fun _ => ?_, List.isChain_singleton _⟩
    decide +kernel

/-- With decreasing digits the reply is read before its prompt. -/
theorem generation_readBackwards :
    ¬ ∀ (db db' : ChatsDb) (chatId : Uuid) (generations : List Generation), db.places chatId = [] →
      db.generate chatId generations = .ok db' →
      (createdRows generations).IsChain (·.createdAt ≤ ·.createdAt) →
      db'.ReadInOrder chatId (createdRows generations) := by
  intro hall
  have hok : (emptyChat.generate 1 [generationOf 15 0]).isOk = true := by decide +kernel
  obtain ⟨db', hrun⟩ := exists_generate hok
  have hread := hall emptyChat db' 1 [generationOf 15 0] rfl hrun (by simp [createdRows, generationOf])
  have hplaces : db'.places 1 = ((createdRows [generationOf 15 0]).map GeneratedRow.place).reverse :=
    ChatsDb.generate_places hrun
  have hsorted := (ChatsDb.readInOrder_iff_pairwise hplaces).mp hread
  have hnot : ¬ ((createdRows [generationOf 15 0]).map GeneratedRow.place).Pairwise (· ≤ ·) := by
    decide +kernel
  exact hnot hsorted

end RagStack
