import Mathlib.Order.Monotone.Basic
import Mathlib.Tactic.Linarith
import Mathlib.Data.Int.LeastGreatest
import Mathlib.Data.Int.SuccPred
import Mathlib.Data.Int.ConditionallyCompleteOrder

/-!
# Local time

A time zone says at which instant each of its calendar days begins.  Instants are milliseconds and
days are numbered, both without a beginning, so that no statement has to say what happens at an end.

What most statements need of a time zone is little: later days begin later, and every instant is on
one day.  `LocalDays` is that much and no more.  It leaves room for clocks that were set by odd
amounts, as they were where local mean time was given up.  A `TimeZone` says in addition how long a
day can be: 24 hours, or 23 or 25 where the clock is changed.  This is what a program relies on that
counts days by dividing milliseconds, and it is only asked for where that is done.

* `LocalDays`, `LocalDays.dayOf_eq_iff` — the days of a time zone, and that an instant is on the day
  between whose midnights it lies.
* `LocalDays.NearUtc`, `LocalDays.utc` — days that begin at most a day before or after the days of
  universal time, and these days themselves.
* `LocalDays.midnight_lt_iff`, `LocalDays.dayOf_mono` — instants and days are in the same order.
* `TimeZone`, `TimeZone.localDays` — days of bounded length are days.
* `TimeZone.elapsed_bounds` — how long some days are together.
* `existsUnique_timeZone` — every assignment of midnights with these lengths is one time zone: the
  day of an instant is no further choice.
-/

namespace RagStack

/-- An hour in milliseconds. -/
def hourMs : ℤ := 3600000

/-! ## Days -/

/-- The days of a time zone: the first instant of each of them, later days beginning later, and the
day of each instant. -/
structure LocalDays where
  midnight : ℤ → ℤ
  strictMono : StrictMono midnight
  dayOf : ℤ → ℤ
  dayOf_spec : ∀ instant,
    midnight (dayOf instant) ≤ instant ∧ instant < midnight (dayOf instant + 1)

namespace LocalDays

variable (days : LocalDays)

lemma midnight_lt_iff {day day' : ℤ} : days.midnight day < days.midnight day' ↔ day < day' :=
  days.strictMono.lt_iff_lt

lemma midnight_le_iff {day day' : ℤ} : days.midnight day ≤ days.midnight day' ↔ day ≤ day' :=
  days.strictMono.le_iff_le

/-- **The day of an instant** is the one between whose midnights it lies. -/
lemma dayOf_eq_iff {instant day : ℤ} :
    days.dayOf instant = day ↔ days.midnight day ≤ instant ∧ instant < days.midnight (day + 1) := by
  obtain ⟨hbegin, hend⟩ := days.dayOf_spec instant
  constructor
  · rintro rfl
    exact ⟨hbegin, hend⟩
  · rintro ⟨hbegin', hend'⟩
    have hle := days.midnight_lt_iff.mp (hbegin.trans_lt hend')
    have hge := days.midnight_lt_iff.mp (hbegin'.trans_lt hend)
    omega

/-- Later instants are on later days, or on the same one. -/
lemma dayOf_mono {instant instant' : ℤ} (h : instant ≤ instant') :
    days.dayOf instant ≤ days.dayOf instant' := by
  have hlt := (days.dayOf_spec instant).1.trans_lt (h.trans_lt (days.dayOf_spec instant').2)
  have hday := days.midnight_lt_iff.mp hlt
  omega

/-! ### Universal time

Clocks differ from universal time by less than a day, so that the number of a day nearly tells when
it begins, wherever on earth. -/

/-- Every day begins at most 24 hours before or after the day of universal time with its number. -/
def NearUtc : Prop := ∀ day, |days.midnight day - 24 * hourMs * day| ≤ 24 * hourMs

lemma NearUtc.bounds {days : LocalDays} (h : days.NearUtc) (day : ℤ) :
    24 * hourMs * (day - 1) ≤ days.midnight day ∧ days.midnight day ≤ 24 * hourMs * (day + 1) := by
  obtain ⟨hlower, hupper⟩ := abs_le.mp (h day)
  simp only [hourMs] at *
  omega

/-- The days of universal time, of 24 hours each. -/
def utc : LocalDays where
  midnight day := 24 * hourMs * day
  strictMono day day' h := by
    simp only [hourMs]
    omega
  dayOf instant := instant / (24 * hourMs)
  dayOf_spec instant := by
    simp only [hourMs]
    omega

lemma utc_nearUtc : utc.NearUtc := by
  intro day
  simp [utc, hourMs]

end LocalDays

/-! ## Days of 23, 24 or 25 hours -/

/-- Days of 23, 24 or 25 hours. -/
def IsDayLength (length : ℤ) : Prop :=
  length = 23 * hourMs ∨ length = 24 * hourMs ∨ length = 25 * hourMs

instance : DecidablePred IsDayLength := fun _ => inferInstanceAs (Decidable (_ ∨ _ ∨ _))

/-- A time zone: the first instant of each day, and the day of each instant. -/
structure TimeZone where
  midnight : ℤ → ℤ
  dayLength : ∀ day, IsDayLength (midnight (day + 1) - midnight day)
  dayOf : ℤ → ℤ
  dayOf_spec : ∀ instant,
    midnight (dayOf instant) ≤ instant ∧ instant < midnight (dayOf instant + 1)

lemma IsDayLength.bounds {length : ℤ} (h : IsDayLength length) :
    23 * hourMs ≤ length ∧ length ≤ 25 * hourMs := by
  simp only [IsDayLength, hourMs] at h ⊢
  omega

section Midnights

variable {midnight : ℤ → ℤ} (hlength : ∀ day, IsDayLength (midnight (day + 1) - midnight day))
include hlength

/-- Some days together have at least 23 and at most 25 hours each. -/
lemma midnight_bounds (day : ℤ) (count : ℕ) :
    23 * hourMs * count ≤ midnight (day + count) - midnight day
      ∧ midnight (day + count) - midnight day ≤ 25 * hourMs * count := by
  induction count with
  | zero => simp
  | succ count ih =>
      obtain ⟨hlower, hupper⟩ := (hlength (day + count)).bounds
      rw [Nat.cast_succ, ← add_assoc]
      exact ⟨by linarith [ih.1], by linarith [ih.2]⟩

lemma midnight_strictMono : StrictMono midnight := by
  refine strictMono_int_of_lt_succ fun day => ?_
  have hlower := (hlength day).bounds.1
  simp only [hourMs] at hlower
  omega

end Midnights

namespace TimeZone

variable (zone : TimeZone)

/-- Without the lengths of the days. -/
def localDays : LocalDays where
  midnight := zone.midnight
  strictMono := midnight_strictMono zone.dayLength
  dayOf := zone.dayOf
  dayOf_spec := zone.dayOf_spec

lemma midnight_lt_iff {day day' : ℤ} : zone.midnight day < zone.midnight day' ↔ day < day' :=
  zone.localDays.midnight_lt_iff

lemma midnight_le_iff {day day' : ℤ} : zone.midnight day ≤ zone.midnight day' ↔ day ≤ day' :=
  zone.localDays.midnight_le_iff

lemma dayOf_eq_iff {instant day : ℤ} :
    zone.dayOf instant = day ↔ zone.midnight day ≤ instant ∧ instant < zone.midnight (day + 1) :=
  zone.localDays.dayOf_eq_iff

lemma dayOf_mono {instant instant' : ℤ} (h : instant ≤ instant') :
    zone.dayOf instant ≤ zone.dayOf instant' :=
  zone.localDays.dayOf_mono h

/-- **How long some days are together.** -/
lemma elapsed_bounds {day day' : ℤ} (h : day ≤ day') :
    23 * hourMs * (day' - day) ≤ zone.midnight day' - zone.midnight day
      ∧ zone.midnight day' - zone.midnight day ≤ 25 * hourMs * (day' - day) := by
  obtain ⟨count, rfl⟩ := Int.le.dest h
  rw [add_sub_cancel_left]
  exact midnight_bounds zone.dayLength day count

end TimeZone

/-- **Every assignment of midnights is a time zone**, and just one. -/
theorem existsUnique_timeZone {midnight : ℤ → ℤ}
    (hlength : ∀ day, IsDayLength (midnight (day + 1) - midnight day)) :
    ∃! zone : TimeZone, zone.midnight = midnight := by
  have hday : ∀ instant, ∃ day, midnight day ≤ instant ∧ instant < midnight (day + 1) := by
    intro instant
    have hmono := midnight_strictMono hlength
    obtain ⟨day, hle, hgreatest⟩ : ∃ day, midnight day ≤ instant
        ∧ ∀ other, midnight other ≤ instant → other ≤ day := by
      refine Int.exists_greatest_of_bdd ?_ ?_
      · refine ⟨(instant - midnight 0).natAbs, fun day hday => ?_⟩
        rcases le_total day 0 with hneg | hpos
        · omega
        · obtain ⟨count, rfl⟩ := Int.eq_ofNat_of_zero_le hpos
          have hlower := (midnight_bounds hlength 0 count).1
          rw [zero_add] at hlower
          simp only [hourMs] at hlower
          omega
      · have hlower := (midnight_bounds hlength (-(instant - midnight 0).natAbs)
          (instant - midnight 0).natAbs).1
        rw [neg_add_cancel] at hlower
        refine ⟨-(instant - midnight 0).natAbs, ?_⟩
        simp only [hourMs] at hlower
        omega
    refine ⟨day, hle, lt_of_not_ge fun h => ?_⟩
    have hnext := hgreatest (day + 1) h
    omega
  choose dayOf hdayOf using hday
  refine ⟨⟨midnight, hlength, dayOf, hdayOf⟩, rfl, fun zone hzone => ?_⟩
  subst hzone
  have hsame : zone.dayOf = dayOf := funext fun instant => zone.dayOf_eq_iff.mpr (hdayOf instant)
  cases zone
  cases hsame
  rfl

end RagStack
