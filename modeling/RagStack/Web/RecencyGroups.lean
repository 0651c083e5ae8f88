import RagStack.Core.LocalTime
import Mathlib.Data.List.Infix

/-!
# `chat.helpers.ts`: chats grouped by recency

The sidebar shows the chats under `Today`, `Yesterday`, `Previous 7 days` and `Older`.  The age of a
chat is the difference of two local midnights in milliseconds, and it is compared with multiples of
24 hours.  A day on which the clock is set back has 25.

The names of the groups are about dates.  A chat of yesterday is one whose last message was on the
calendar day before today, in the time zone of the browser, however many hours that day had.  The
difference of two midnights is a number of hours, and for most days it determines the number of days
between them.  The bounds are where it may not.  Yesterday's midnight is 24 hours before today's
unless yesterday had 25, and then the chat is put one group further.  In the same way a chat of
seven days ago is put under `Older` if the seven days up to this midnight had more than 168 hours
together.

That these are the only mistakes is shown for every time zone whose days have 23, 24 or 25 hours,
with no more to assume about when the clock is changed.  A day that is too short does no harm, since
the comparison leaves room on that side.

The loop that fills the buckets is brought into another form first: each bucket is a filter of the
chats, in their order, and the empty ones are left out.

So the statement about the grouping is an equivalence, for every list of chats, at every instant.

* `groupChatsByRecency_eq` — the groups are four filters, of which the empty ones are left out.
* `GroupedByDate` — grouping by the difference of calendar dates.
* `groupChatsByRecency_iff` — the chats are grouped so exactly if no chat of yesterday is more than
  24 hours away from today, and none of seven days ago more than 168.
-/

namespace RagStack

/-- `ChatGroup['label']`. -/
inductive RecencyLabel where
  | Today
  | Yesterday
  | Previous7Days
  | Older
  deriving Repr, DecidableEq

structure ChatGroup (C : Type) where
  label : RecencyLabel
  chats : List C
  deriving Repr, DecidableEq

/-- `DAY_MS`. -/
def dayMs : ℤ := 86400000

def startOfDay (zone : TimeZone) (date : ℤ) : ℤ := zone.midnight (zone.dayOf date)

/-- The index of the bucket for an age. -/
def bucketIndex (age : ℤ) : ℕ :=
  if age ≤ 0 then 0 else if age ≤ dayMs then 1 else if age ≤ 7 * dayMs then 2 else 3

section Grouping

variable {C : Type} (zone : TimeZone) (lastMessageAt : C → ℤ) (now : ℤ)

/-- `today - startOfDay(new Date(chat.lastMessageAt))`. -/
def chatAge (chat : C) : ℤ := startOfDay zone now - startOfDay zone (lastMessageAt chat)

/-- `buckets[index]?.chats.push(chat)`. -/
def pushChat (buckets : List (ChatGroup C)) (index : ℕ) (chat : C) : List (ChatGroup C) :=
  buckets.modify index fun bucket => { bucket with chats := bucket.chats ++ [chat] }

/-- `groupChatsByRecency`.  `lastMessageAt` is the instant of the field of that name. -/
def groupChatsByRecency (chats : List C) : List (ChatGroup C) :=
  (chats.foldl
    (fun buckets chat => pushChat buckets (bucketIndex (chatAge zone lastMessageAt now chat)) chat)
    [⟨.Today, []⟩, ⟨.Yesterday, []⟩, ⟨.Previous7Days, []⟩, ⟨.Older, []⟩]).filter
      fun bucket => 0 < bucket.chats.length

/-! ## The buckets

The loop pushes each chat into one bucket, and keeps their order. -/

def bucketChats (chats : List C) (index : ℕ) : List C :=
  chats.filter fun chat => bucketIndex (chatAge zone lastMessageAt now chat) = index

def filledBuckets (chats : List C) : List (ChatGroup C) :=
  [⟨.Today, bucketChats zone lastMessageAt now chats 0⟩,
    ⟨.Yesterday, bucketChats zone lastMessageAt now chats 1⟩,
    ⟨.Previous7Days, bucketChats zone lastMessageAt now chats 2⟩,
    ⟨.Older, bucketChats zone lastMessageAt now chats 3⟩]

variable {zone lastMessageAt now}

lemma bucketIndex_le (age : ℤ) : bucketIndex age ≤ 3 := by
  simp only [bucketIndex]
  split_ifs <;> omega

lemma bucketIndex_mono : Monotone bucketIndex := by
  intro age age' h
  have hday : dayMs = 86400000 := rfl
  simp only [bucketIndex]
  split_ifs <;> omega

lemma bucketChats_concat (chats : List C) (chat : C) (index : ℕ) :
    bucketChats zone lastMessageAt now (chats ++ [chat]) index
      = if bucketIndex (chatAge zone lastMessageAt now chat) = index then
          bucketChats zone lastMessageAt now chats index ++ [chat]
        else bucketChats zone lastMessageAt now chats index := by
  simp only [bucketChats, List.filter_append, List.filter_cons, List.filter_nil, decide_eq_true_eq]
  split
  · rfl
  · rw [List.append_nil]

lemma pushChat_filledBuckets (chats : List C) (chat : C) :
    pushChat (filledBuckets zone lastMessageAt now chats)
        (bucketIndex (chatAge zone lastMessageAt now chat)) chat
      = filledBuckets zone lastMessageAt now (chats ++ [chat]) := by
  have hindex := bucketIndex_le (chatAge zone lastMessageAt now chat)
  simp only [filledBuckets, bucketChats_concat, pushChat]
  generalize bucketIndex (chatAge zone lastMessageAt now chat) = index at hindex
  rcases index with _ | _ | _ | _ | index
  · rfl
  · rfl
  · rfl
  · rfl
  · omega

/-- **The groups are filters.** -/
lemma groupChatsByRecency_eq (chats : List C) :
    groupChatsByRecency zone lastMessageAt now chats
      = (filledBuckets zone lastMessageAt now chats).filter fun bucket => 0 < bucket.chats.length := by
  have hloop : ∀ before after : List C,
      after.foldl (fun buckets chat =>
          pushChat buckets (bucketIndex (chatAge zone lastMessageAt now chat)) chat)
        (filledBuckets zone lastMessageAt now before)
      = filledBuckets zone lastMessageAt now (before ++ after) := by
    intro before after
    induction after generalizing before with
    | nil => rw [List.foldl_nil, List.append_nil]
    | cons chat after ih =>
        rw [List.foldl_cons, pushChat_filledBuckets, ih, List.append_assoc, List.singleton_append]
  exact congrArg (List.filter _) (hloop [] chats)

end Grouping

/-! ## By calendar dates

What the groups should be, and the chats which the bounds get wrong. -/

def RecencyLabel.index : RecencyLabel → ℕ
  | .Today => 0
  | .Yesterday => 1
  | .Previous7Days => 2
  | .Older => 3

/-- The group of a chat, by the difference of the calendar dates. -/
def labelOfDays (days : ℤ) : RecencyLabel :=
  if days ≤ 0 then .Today else if days = 1 then .Yesterday
  else if days ≤ 7 then .Previous7Days else .Older

section Dates

variable {C : Type} (zone : TimeZone) (lastMessageAt : C → ℤ) (now : ℤ)

/-- How many calendar days ago the last message was, by the dates of the two instants and not by the
hours between them. -/
def daysAgo (chat : C) : ℤ := zone.dayOf now - zone.dayOf (lastMessageAt chat)

/-- **Grouped by calendar dates.**  Each group has the chats of its dates in their order, there is
one group for the date of each chat, and none without a chat; so chats that are sorted, newest
first, are read off the groups. -/
structure GroupedByDate (chats : List C) (groups : List (ChatGroup C)) : Prop where
  labels : (groups.map (·.label)).Nodup
  members : ∀ group ∈ groups, group.chats
    = chats.filter fun chat => labelOfDays (daysAgo zone lastMessageAt now chat) = group.label
  covers : ∀ chat ∈ chats,
    labelOfDays (daysAgo zone lastMessageAt now chat) ∈ groups.map (·.label)
  nonempty : ∀ group ∈ groups, group.chats ≠ []
  concat : chats.Pairwise (fun chat later => lastMessageAt later ≤ lastMessageAt chat) →
    groups.flatMap (·.chats) = chats

/-- How long ago the midnight of some days ago was at the last midnight. -/
def elapsedDays (days : ℤ) : ℤ :=
  zone.midnight (zone.dayOf now) - zone.midnight (zone.dayOf now - days)

/-- A chat of yesterday, which had more than 24 hours, or of seven days ago, since when the days had
more than 168. -/
def Miscounted (chat : C) : Prop :=
  daysAgo zone lastMessageAt now chat = 1 ∧ 24 * hourMs < elapsedDays zone now 1
    ∨ daysAgo zone lastMessageAt now chat = 7 ∧ 168 * hourMs < elapsedDays zone now 7

variable {zone lastMessageAt now}

lemma chatAge_eq (chat : C) :
    chatAge zone lastMessageAt now chat
      = elapsedDays zone now (daysAgo zone lastMessageAt now chat) := by
  simp only [chatAge, startOfDay, elapsedDays, daysAgo, sub_sub_cancel]

/-- **The only mistakes.**  Whatever the lengths of the days, the number of days between two
midnights can be read off their distance, except at the two bounds. -/
lemma bucketIndex_eq_iff (chat : C) :
    bucketIndex (chatAge zone lastMessageAt now chat)
        = (labelOfDays (daysAgo zone lastMessageAt now chat)).index
      ↔ ¬ Miscounted zone lastMessageAt now chat := by
  rw [chatAge_eq, Miscounted]
  generalize daysAgo zone lastMessageAt now chat = days
  rcases lt_or_ge days 1 with htoday | hbefore
  · have hage : elapsedDays zone now days ≤ 0 := by
      simp only [elapsedDays, sub_nonpos, zone.midnight_le_iff]
      omega
    simp only [bucketIndex, labelOfDays, if_pos hage, if_pos (show days ≤ 0 by omega),
      RecencyLabel.index, true_iff]
    omega
  · obtain ⟨hlower, hupper⟩ :=
      zone.elapsed_bounds (show zone.dayOf now - days ≤ zone.dayOf now by omega)
    rw [sub_sub_cancel] at hlower hupper
    change 23 * hourMs * days ≤ elapsedDays zone now days at hlower
    change elapsedDays zone now days ≤ 25 * hourMs * days at hupper
    have hday : dayMs = 86400000 := rfl
    have hhour : hourMs = 3600000 := rfl
    rw [hhour] at hlower hupper
    simp only [bucketIndex, labelOfDays]
    rw [if_neg (show ¬ elapsedDays zone now days ≤ 0 by omega), if_neg (show ¬ days ≤ 0 by omega)]
    by_cases hone : days = 1
    · subst hone
      simp only [if_true, RecencyLabel.index]
      split_ifs
      · exact iff_of_true rfl (by omega)
      · exact iff_of_false (by omega) (not_not_intro (.inl ⟨trivial, by omega⟩))
      · exact iff_of_false (by omega) (not_not_intro (.inl ⟨trivial, by omega⟩))
    · rw [if_neg hone, if_neg (show ¬ elapsedDays zone now days ≤ dayMs by omega)]
      by_cases hseven : days = 7
      · subst hseven
        simp only [le_refl, if_true, RecencyLabel.index]
        split_ifs
        · exact iff_of_true rfl (by omega)
        · exact iff_of_false (by omega) (not_not_intro (.inr ⟨trivial, by omega⟩))
      · split_ifs
        · exact iff_of_true rfl (by omega)
        · omega
        · omega
        · exact iff_of_true rfl (by omega)

/-! ## Both groupings

Two groupings by labels are the same if the labels are. -/

/-- The label of a bucket says which one it is. -/
lemma mem_filledBuckets {chats : List C} {group : ChatGroup C}
    (h : group ∈ filledBuckets zone lastMessageAt now chats) :
    group.chats = bucketChats zone lastMessageAt now chats group.label.index := by
  simp only [filledBuckets, List.mem_cons, List.not_mem_nil, or_false] at h
  rcases h with rfl | rfl | rfl | rfl <;> rfl

lemma exists_filledBucket (chats : List C) (label : RecencyLabel) :
    ⟨label, bucketChats zone lastMessageAt now chats label.index⟩
      ∈ filledBuckets zone lastMessageAt now chats := by
  cases label <;> simp [filledBuckets, RecencyLabel.index]

lemma index_inj {label label' : RecencyLabel} : label.index = label'.index ↔ label = label' := by
  cases label <;> cases label' <;> decide

lemma mem_groupChatsByRecency {chats : List C} {group : ChatGroup C} :
    group ∈ groupChatsByRecency zone lastMessageAt now chats
      ↔ group ∈ filledBuckets zone lastMessageAt now chats ∧ group.chats ≠ [] := by
  rw [groupChatsByRecency_eq, List.mem_filter, decide_eq_true_eq, List.length_pos_iff]

lemma labels_nodup (chats : List C) :
    ((groupChatsByRecency zone lastMessageAt now chats).map (·.label)).Nodup := by
  rw [groupChatsByRecency_eq]
  refine List.Nodup.sublist (List.filter_sublist.map _) ?_
  exact (by decide : [RecencyLabel.Today, .Yesterday, .Previous7Days, .Older].Nodup)

lemma flatMap_nonempty_chats (groups : List (ChatGroup C)) :
    (groups.filter fun group => 0 < group.chats.length).flatMap (·.chats)
      = groups.flatMap (·.chats) := by
  induction groups with
  | nil => rfl
  | cons group groups ih =>
      rcases h : group.chats with _ | ⟨chat, rest⟩
      · simp [h, ih]
      · simp [h, ih]

/-- Two neighbouring classes of a sorted list. -/
lemma filter_lt_append_filter_eq {α : Type} {f : α → ℕ} {l : List α}
    (hsorted : l.Pairwise fun a b => f a ≤ f b) (n : ℕ) :
    (l.filter fun a => f a < n) ++ (l.filter fun a => f a = n) = l.filter fun a => f a < n + 1 := by
  induction l with
  | nil => rfl
  | cons a l ih =>
      obtain ⟨hfirst, hsorted⟩ := List.pairwise_cons.mp hsorted
      rcases lt_trichotomy (f a) n with hlt | heq | hgt
      · rw [List.filter_cons_of_pos (by simpa using hlt),
          List.filter_cons_of_neg (by simpa using hlt.ne), List.filter_cons_of_pos (by simp; omega),
          List.cons_append, ih hsorted]
      · have hnone : (l.filter fun b => f b < n) = [] := by
          rw [List.filter_eq_nil_iff]
          intro b hb
          simpa [heq] using hfirst b hb
        rw [hnone, List.nil_append] at ih
        rw [List.filter_cons_of_neg (by simp [heq]), hnone, List.nil_append,
          List.filter_cons_of_pos (by simp [heq]), List.filter_cons_of_pos (by simp [heq]),
          ih hsorted]
      · rw [List.filter_cons_of_neg (by simp; omega), List.filter_cons_of_neg (by simp; omega),
          List.filter_cons_of_neg (by simp; omega), ih hsorted]

/-- Chats that are sorted, newest first, are read off the buckets. -/
lemma flatMap_filledBuckets {chats : List C}
    (h : chats.Pairwise fun chat later => lastMessageAt later ≤ lastMessageAt chat) :
    (filledBuckets zone lastMessageAt now chats).flatMap (·.chats) = chats := by
  have hsorted : chats.Pairwise fun chat later =>
      bucketIndex (chatAge zone lastMessageAt now chat)
        ≤ bucketIndex (chatAge zone lastMessageAt now later) := by
    refine h.imp fun {chat later} hle => ?_
    have hday := zone.midnight_le_iff.mpr (zone.dayOf_mono hle)
    refine bucketIndex_mono ?_
    simp only [chatAge, startOfDay]
    omega
  have hlast : chats.filter (fun chat => bucketIndex (chatAge zone lastMessageAt now chat) < 3 + 1)
      = chats :=
    List.filter_eq_self.mpr fun chat _ =>
      decide_eq_true (Nat.lt_succ_of_le (bucketIndex_le (chatAge zone lastMessageAt now chat)))
  have hnone : chats.filter (fun chat => bucketIndex (chatAge zone lastMessageAt now chat) < 0)
      = [] := by simp
  simp only [filledBuckets, bucketChats, List.flatMap_cons, List.flatMap_nil, List.append_nil]
  conv_rhs =>
    rw [← hlast, ← filter_lt_append_filter_eq hsorted 3, ← filter_lt_append_filter_eq hsorted 2,
      ← filter_lt_append_filter_eq hsorted 1, ← filter_lt_append_filter_eq hsorted 0, hnone]
  simp only [List.nil_append, List.append_assoc]

/-- **When the groups are right.**  In every time zone, at every instant and for all chats: they are
grouped by calendar dates exactly if none of them is of yesterday while yesterday had 25 hours, or
of seven days ago while the days since then have more than 168 hours. -/
theorem groupChatsByRecency_iff (zone : TimeZone) (lastMessageAt : C → ℤ) (now : ℤ)
    (chats : List C) :
    GroupedByDate zone lastMessageAt now chats (groupChatsByRecency zone lastMessageAt now chats)
      ↔ ∀ chat ∈ chats, ¬ Miscounted zone lastMessageAt now chat := by
  constructor
  · intro h chat hchat
    rw [← bucketIndex_eq_iff]
    obtain ⟨group, hgroup, hlabel⟩ := List.mem_map.mp (h.covers chat hchat)
    have hmem : chat ∈ group.chats := by
      rw [h.members group hgroup, List.mem_filter]
      exact ⟨hchat, decide_eq_true hlabel.symm⟩
    rw [mem_filledBuckets (mem_groupChatsByRecency.mp hgroup).1, bucketChats, List.mem_filter] at hmem
    rw [← hlabel]
    exact of_decide_eq_true hmem.2
  · intro h
    have hindex : ∀ chat ∈ chats, bucketIndex (chatAge zone lastMessageAt now chat)
        = (labelOfDays (daysAgo zone lastMessageAt now chat)).index :=
      fun chat hchat => (bucketIndex_eq_iff chat).mpr (h chat hchat)
    refine ⟨labels_nodup chats, fun group hgroup => ?_, fun chat hchat => ?_,
      fun group hgroup => (mem_groupChatsByRecency.mp hgroup).2, fun hsorted => ?_⟩
    · rw [mem_filledBuckets (mem_groupChatsByRecency.mp hgroup).1, bucketChats]
      refine List.filter_congr fun chat hchat => ?_
      rw [hindex chat hchat, decide_eq_decide, index_inj]
    · refine List.mem_map.mpr ⟨_, mem_groupChatsByRecency.mpr ⟨exists_filledBucket chats _, ?_⟩, rfl⟩
      refine List.ne_nil_of_mem (List.mem_filter.mpr ⟨hchat, ?_⟩)
      exact decide_eq_true (hindex chat hchat)
    · rw [groupChatsByRecency_eq, flatMap_nonempty_chats, flatMap_filledBuckets hsorted]

end Dates

/-! ## The end of summer time

Noon on the day after the clock was set back. -/

lemma dayLength_autumn (day : ℤ) :
    IsDayLength
      ((if day + 1 ≤ 0 then 24 * hourMs * (day + 1) else 24 * hourMs * (day + 1) + hourMs)
        - if day ≤ 0 then 24 * hourMs * day else 24 * hourMs * day + hourMs) := by
  simp only [IsDayLength, hourMs]
  split_ifs <;> omega

lemma dayOf_autumn (instant day : ℤ)
    (hday : day = if instant < 24 * hourMs then instant / (24 * hourMs)
      else (instant - hourMs) / (24 * hourMs)) :
    (if day ≤ 0 then 24 * hourMs * day else 24 * hourMs * day + hourMs) ≤ instant
      ∧ instant
        < if day + 1 ≤ 0 then 24 * hourMs * (day + 1) else 24 * hourMs * (day + 1) + hourMs := by
  simp only [hourMs] at hday ⊢
  split_ifs at hday ⊢ <;> omega

/-- On day `0` the clock is set back, and it has 25 hours. -/
def autumn : TimeZone where
  midnight day := if day ≤ 0 then 24 * hourMs * day else 24 * hourMs * day + hourMs
  dayLength := dayLength_autumn
  dayOf instant :=
    if instant < 24 * hourMs then instant / (24 * hourMs) else (instant - hourMs) / (24 * hourMs)
  dayOf_spec instant := dayOf_autumn instant _ rfl

/-- At noon on the day after it, a chat of noon on that day is not found under `Yesterday`. -/
theorem autumn_missesYesterday :
    groupChatsByRecency autumn id (37 * hourMs) [12 * hourMs]
        = [⟨.Previous7Days, [12 * hourMs]⟩]
      ∧ labelOfDays (daysAgo autumn id (37 * hourMs) (12 * hourMs)) = .Yesterday
      ∧ ¬ GroupedByDate autumn id (37 * hourMs) [12 * hourMs]
          (groupChatsByRecency autumn id (37 * hourMs) [12 * hourMs]) := by
  have hgroups : groupChatsByRecency autumn id (37 * hourMs) [12 * hourMs]
      = [⟨.Previous7Days, [12 * hourMs]⟩] := by decide +kernel
  refine ⟨hgroups, by decide +kernel, fun h => ?_⟩
  have hcovered := h.covers (12 * hourMs) List.mem_cons_self
  rw [hgroups] at hcovered
  revert hcovered
  decide +kernel

end RagStack
