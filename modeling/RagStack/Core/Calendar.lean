import Mathlib.Order.Monotone.Basic
import Mathlib.Data.Int.LeastGreatest
import Mathlib.Data.Int.SuccPred
import Mathlib.Data.Int.ConditionallyCompleteOrder
import Mathlib.Tactic.Linarith

/-!
# The calendar

Days are numbered from 1 January 1970, as ECMAScript numbers them, and a day of the calendar has a
year, a month and a day of the month.  The language computes with the numbers: it takes a year, a
month and a day that may lie outside their ranges, and makes the number of a day of them, so that
the day after the last one of a month is the first of the next.  What a reader of a program has in
mind are the days of the calendar.  The file connects the two in both directions.

The order of the days is lexicographic, the order of the numbers is that of integers, and they
agree.  For this the days of a year have to be known to lie between its first day and that of the
next year, and those of a month between its first day and that of the next month; the rest is a
comparison of years, then months, then days.  And every number belongs to a day, since years and
months are found by where the number falls.  So a day can be named by its number without loss.

Leap years are those of the Gregorian calendar, extended to all years in both directions.

* `makeDay` — the number of a day whose month and day of the month may lie outside the year or the
  month.
* `CalendarDate` — the days there are.
* `CalendarDate.number_le_iff` — later days have greater numbers.
* `exists_dayNumber` — every number is that of a day.
-/

namespace RagStack

/-! ## Day numbers -/

/-- `DayFromYear`: 1 January. -/
def dayFromYear (year : ℤ) : ℤ :=
  365 * (year - 1970) + (year - 1969) / 4 - (year - 1901) / 100 + (year - 1601) / 400

/-- A year of 366 days. -/
def isLeap (year : ℤ) : Bool := year % 4 = 0 && (year % 100 ≠ 0 || year % 400 = 0)

def monthLengths (leap : Bool) : List ℕ :=
  [31, if leap then 29 else 28, 31, 30, 31, 30, 31, 31, 30, 31, 30, 31]

/-- The days of a year before a month, which is counted from 0. -/
def monthStart (leap : Bool) (month : ℕ) : ℕ := ((monthLengths leap).take month).sum

/-- `MakeDay`, with the month counted from 0. -/
def makeDay (year month day : ℤ) : ℤ :=
  dayFromYear (year + month / 12) + monthStart (isLeap (year + month / 12)) (month % 12).toNat
    + day - 1

/-- A day of the calendar, with the month counted from 1. -/
structure CalendarDate where
  year : ℤ
  month : ℕ
  day : ℕ
  month_mem : 1 ≤ month ∧ month ≤ 12
  day_mem : 1 ≤ day ∧ day ≤ ((monthLengths (isLeap year))[month - 1]?).getD 0
  deriving DecidableEq

namespace CalendarDate

/-- The order of the dates, by year, month and day.  It is the order of their numbers, which is what
makes numbers useful. -/
def Le (date date' : CalendarDate) : Prop :=
  date.year < date'.year
    ∨ date.year = date'.year ∧ (date.month < date'.month
      ∨ date.month = date'.month ∧ date.day ≤ date'.day)

instance (date date' : CalendarDate) : Decidable (date.Le date') :=
  inferInstanceAs (Decidable (_ ∨ _ ∧ (_ ∨ _ ∧ _)))

def number (date : CalendarDate) : ℤ := makeDay date.year (date.month - 1) date.day

end CalendarDate

/-! ## Years and months

The only arithmetic with divisions is in the length of one year.  From there on years are a strictly
increasing sequence of numbers. -/

lemma dayFromYear_succ (year : ℤ) :
    dayFromYear (year + 1) = dayFromYear year + monthStart (isLeap year) 12 := by
  have hlength : monthStart (isLeap year) 12 = if isLeap year then 366 else 365 := by
    cases isLeap year <;> rfl
  rw [hlength]
  simp only [dayFromYear, isLeap, Bool.and_eq_true, Bool.or_eq_true, decide_eq_true_eq]
  split_ifs with hleap
  · push_cast
    omega
  · push_cast
    omega

lemma dayFromYear_strictMono : StrictMono dayFromYear := by
  refine strictMono_int_of_lt_succ fun year => ?_
  have hlength : 0 < monthStart (isLeap year) 12 := by
    cases isLeap year <;> decide
  rw [dayFromYear_succ]
  omega

/-- Months that come later begin after the earlier ones have ended. -/
lemma monthStart_bounds (leap : Bool) {month month' : ℕ} (h : month < month') (hle : month' ≤ 12) :
    monthStart leap month + ((monthLengths leap)[month]?).getD 0 ≤ monthStart leap month' := by
  have hall : ∀ leap, ∀ month' ≤ 12, ∀ month < month',
      monthStart leap month + ((monthLengths leap)[month]?).getD 0 ≤ monthStart leap month' := by
    decide +kernel
  exact hall leap month' hle month h

lemma monthStart_succ (leap : Bool) {month : ℕ} (h : month < 12) :
    monthStart leap (month + 1) = monthStart leap month + ((monthLengths leap)[month]?).getD 0 := by
  have hall : ∀ leap, ∀ month < 12,
      monthStart leap (month + 1) = monthStart leap month + ((monthLengths leap)[month]?).getD 0 := by
    decide +kernel
  exact hall leap month h

namespace CalendarDate

variable (date date' : CalendarDate)

/-- The number of a day by its year, month and day. -/
lemma number_eq : date.number = dayFromYear date.year
    + monthStart (isLeap date.year) (date.month - 1) + date.day - 1 := by
  have hmonth := date.month_mem
  have hyear : ((date.month : ℤ) - 1) / 12 = 0 := by omega
  have hindex : (((date.month : ℤ) - 1) % 12).toNat = date.month - 1 := by omega
  rw [number, makeDay, hyear, hindex, add_zero]

lemma number_bounds : dayFromYear date.year ≤ date.number
    ∧ date.number < dayFromYear (date.year + 1) := by
  have hmonth := date.month_mem
  have hday := date.day_mem
  have hends := monthStart_bounds (isLeap date.year) (show date.month - 1 < 12 by omega) le_rfl
  rw [number_eq, dayFromYear_succ]
  omega

variable {date date'}

lemma number_lt (h : ¬ date'.Le date) : date.number < date'.number := by
  simp only [Le, not_or, not_and, not_lt, not_le] at h
  obtain ⟨hyear, h⟩ := h
  rcases hyear.lt_or_eq with hyear | hyear
  · have hmono := dayFromYear_strictMono.monotone (show date.year + 1 ≤ date'.year by omega)
    have hends := date.number_bounds.2
    have hbegins := date'.number_bounds.1
    omega
  · obtain ⟨hmonth, h⟩ := h hyear.symm
    have hday := date.day_mem
    have hday' := date'.day_mem
    have hmonths := date.month_mem
    have hmonths' := date'.month_mem
    rw [number_eq, number_eq, hyear]
    rw [hyear] at hday
    rcases hmonth.lt_or_eq with hmonth | hmonth
    · have hends := monthStart_bounds (isLeap date'.year)
        (show date.month - 1 < date'.month - 1 by omega) (by omega)
      omega
    · have hlt := h hmonth.symm
      rw [hmonth]
      omega

/-- **Later days have greater numbers.** -/
lemma number_le_iff : date.number ≤ date'.number ↔ date.Le date' := by
  constructor
  · intro h
    by_contra hnot
    have hlt := number_lt hnot
    omega
  · intro h
    by_contra hnot
    have hle : ¬ date'.Le date := by
      intro hge
      simp only [Le] at h hge
      have hsame : date.year = date'.year ∧ date.month = date'.month ∧ date.day = date'.day := by
        omega
      rw [number_eq, number_eq, hsame.1, hsame.2.1, hsame.2.2] at hnot
      exact hnot le_rfl
    have hlt := number_lt hle
    omega

end CalendarDate

/-! ## The day of a number

An increasing sequence of integers has a number between two of its neighbours. -/

lemma exists_between_of_strictMono {f : ℤ → ℤ} (hf : StrictMono f) (n : ℤ) :
    ∃ k, f k ≤ n ∧ n < f (k + 1) := by
  have hsucc : ∀ k (m : ℕ), f k + m ≤ f (k + m) := by
    intro k m
    induction m with
    | zero => simp
    | succ m ih =>
        have hlt := hf (show k + m < k + (m + 1 : ℕ) by omega)
        push_cast at hlt ⊢
        omega
  obtain ⟨k, hk, hgreatest⟩ : ∃ k, f k ≤ n ∧ ∀ k', f k' ≤ n → k' ≤ k := by
    refine Int.exists_greatest_of_bdd ⟨(n - f 0).natAbs, fun k hk => ?_⟩
      ⟨-(n - f 0).natAbs, ?_⟩
    · rcases le_total k 0 with hneg | hpos
      · omega
      · obtain ⟨m, rfl⟩ := Int.eq_ofNat_of_zero_le hpos
        have hle := hsucc 0 m
        rw [zero_add] at hle
        omega
    · have hle := hsucc (-(n - f 0).natAbs) (n - f 0).natAbs
      rw [neg_add_cancel] at hle
      omega
  refine ⟨k, hk, lt_of_not_ge fun h => ?_⟩
  have hle := hgreatest (k + 1) h
  omega

/-- The month of a day of the year. -/
lemma exists_month (leap : Bool) (n months : ℕ) (h : n < monthStart leap months) :
    ∃ month < months, monthStart leap month ≤ n ∧ n < monthStart leap (month + 1) := by
  induction months with
  | zero => exact absurd h (Nat.not_lt_zero n)
  | succ months ih =>
      by_cases hlt : n < monthStart leap months
      · obtain ⟨month, hmonth, hbounds⟩ := ih hlt
        exact ⟨month, by omega, hbounds⟩
      · exact ⟨months, by omega, by omega, h⟩

/-- **Every number is that of a day.** -/
lemma exists_dayNumber (n : ℤ) : ∃ date : CalendarDate, date.number = n := by
  obtain ⟨year, hbegins, hends⟩ := exists_between_of_strictMono dayFromYear_strictMono n
  rw [dayFromYear_succ] at hends
  obtain ⟨month, hmonth, hfirst, hlast⟩ :=
    exists_month (isLeap year) (n - dayFromYear year).toNat 12 (by omega)
  rw [monthStart_succ _ hmonth] at hlast
  refine ⟨⟨year, month + 1, (n - dayFromYear year).toNat - monthStart (isLeap year) month + 1,
    by omega, ?_⟩, ?_⟩
  · rw [Nat.add_sub_cancel]
    omega
  · rw [CalendarDate.number_eq]
    simp only [Nat.add_sub_cancel]
    push_cast
    omega

end RagStack
