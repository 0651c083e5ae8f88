import RagStack.Core.Calendar
import RagStack.Core.LocalTime
import RagStack.Usage.ReportsAgree

/-!
# The range of days of the usage pages

An administrator chooses a first and a last day in two date inputs.  `use-list-state.ts` and
`format.ts` turn them into instants in the time zone of the browser: the first midnight of the first
day and, because the end is exclusive, that of the day after the last one.  The API checks the texts
of the instants in `UsageRangeQueryDto`, `toUsageRange` refuses a range that is empty, and the
reports filter the rows of the usage log by what is left.

Nothing on the way ever sees a day again: all comparisons are between instants.  That they count
days nevertheless is one fact about local time, that an instant is on a day exactly if it lies
between two midnights, and one about the calendar, that days are numbered in their order.
`localMidnight_le_iff` and `lt_localMidnight_iff` put the two together for each end of a range, and
everything else is about the comparisons.

Two things keep the theorem from holding for every day a date input can hold.  `new Date` takes a
year below 100 for one of the twentieth century, and the check of the query only accepts instants
whose year is written with four digits and no leading zero.  The days are therefore those of the
years 1001 to 9998, and the time zone one whose days begin at most 24 hours off those of universal
time, so that the midnights stay within the years 1000 to 9999.

* `localMidnight`, `rangeQuery` — the instants.
* `AcceptsPlainYears`, `requestedRange` — the check of the query and the range.
* `requestedRange_eq`, `usageRangeSql_iff` — which ranges are refused, and the rows the others hold.
* `range_counts_days` — a row counts exactly if it was written on one of the chosen days, by the
  calendar of the administrator, and adjacent ranges cut the totals into two.
-/

namespace RagStack

/-! ## The browser -/

/-- The value of a date input that is not empty. -/
structure InputDate where
  date : CalendarDate
  one_le_year : 1 ≤ date.year
  deriving DecidableEq

structure DateRangeValue where
  from_ : Option InputDate
  to_ : Option InputDate
  deriving DecidableEq

/-- `MakeFullYear`, which `new Date(year, month, day)` applies. -/
def makeFullYear (year : ℤ) : ℤ := if 0 ≤ year ∧ year ≤ 99 then 1900 + year else year

def localMidnight (zone : LocalDays) (input : InputDate) (dayOffset : ℤ) : ℤ :=
  zone.midnight (makeDay (makeFullYear input.date.year) (input.date.month - 1)
    (input.date.day + dayOffset))

def toIsoStart (zone : LocalDays) (input : Option InputDate) : Option ℤ :=
  input.map (localMidnight zone · 0)

def toIsoEndExclusive (zone : LocalDays) (input : Option InputDate) : Option ℤ :=
  input.map (localMidnight zone · 1)

/-- `UsageRangeQuery`, with the instants of its texts. -/
structure UsageRangeQuery where
  from_ : Option ℤ
  to_ : Option ℤ
  deriving Repr, DecidableEq

/-- `rangeQuery` of `useListState`. -/
def rangeQuery (zone : LocalDays) (range : DateRangeValue) : UsageRangeQuery where
  from_ := toIsoStart zone range.from_
  to_ := toIsoEndExclusive zone range.to_

/-! ## The API

The validation pipe runs before the handler.  What `@IsISO8601({ strict: true })` accepts is up to
`class-validator`, so the check is a parameter: it is asked about an instant, and stands for the
answer on the text that `toISOString` makes of it. -/

/-- The error of the validation pipe. -/
def validationError : JsError := .Http 400 "Bad Request Exception"

/-- `UsageRangeQueryDto`: a field that is there is checked. -/
def usageRangeQueryDto (isIso8601 : ℤ → Bool) (query : UsageRangeQuery) : Bool :=
  query.from_.all isIso8601 && query.to_.all isIso8601

/-- The error of `toUsageRange`. -/
def rangeError : JsError := .Http 400 "\"from\" must be before \"to\"."

/-- `toUsageRange`.  Rows are not written before 1970, so that earlier instants may be taken for its
first. -/
def toUsageRange (query : UsageRangeQuery) : Except JsError UsageRange :=
  if query.from_.any fun from_ => query.to_.any (· ≤ from_) then .error rangeError
  else .ok ⟨query.from_.map Int.toNat, query.to_.map Int.toNat⟩

/-- The range a report is made for: the query is validated before the controller reads it. -/
def requestedRange (isIso8601 : ℤ → Bool) (query : UsageRangeQuery) : Except JsError UsageRange :=
  if usageRangeQueryDto isIso8601 query then toUsageRange query else .error validationError

/-- The check accepts the instants whose year has four digits, the first of them not zero: their
text is an ISO 8601 date and time of a day there is. -/
def AcceptsPlainYears (isIso8601 : ℤ → Bool) : Prop :=
  ∀ instant, 24 * hourMs * dayFromYear 1000 ≤ instant → instant < 24 * hourMs * dayFromYear 10000 →
    isIso8601 instant = true

/-! ## The chosen days -/

/-- A year between 1001 and 9998: its days and the ones next to them begin in a year of four digits,
wherever on earth. -/
def InputDate.HasPlainYear (input : InputDate) : Prop :=
  1001 ≤ input.date.year ∧ input.date.year ≤ 9998

instance (input : InputDate) : Decidable input.HasPlainYear :=
  inferInstanceAs (Decidable (_ ∧ _))

/-- Both days, if there are any, are in such a year. -/
def DateRangeValue.HasPlainYears (range : DateRangeValue) : Prop :=
  (∀ first ∈ range.from_, first.HasPlainYear) ∧ ∀ last ∈ range.to_, last.HasPlainYear

/-- The parts of a range that is cut between two such days. -/
lemma DateRangeValue.HasPlainYears.cut {range : DateRangeValue} (hrange : range.HasPlainYears)
    {last next : InputDate} (hlast : last.HasPlainYear) (hnext : next.HasPlainYear) :
    (⟨range.from_, some last⟩ : DateRangeValue).HasPlainYears
      ∧ (⟨some next, range.to_⟩ : DateRangeValue).HasPlainYears := by
  simp only [HasPlainYears, Option.mem_def, Option.some.injEq, forall_eq'] at *
  exact ⟨⟨hrange.1, hlast⟩, hnext, hrange.2⟩

/-- The day is one of the chosen ones.  An input that was left empty does not bound them. -/
def DateRangeValue.Includes (range : DateRangeValue) (date : CalendarDate) : Prop :=
  (∀ first, range.from_ = some first → first.date.Le date)
    ∧ ∀ last, range.to_ = some last → date.Le last.date

/-- The range of a query that is accepted. -/
def acceptedRange (zone : LocalDays) (range : DateRangeValue) : UsageRange where
  from_ := (toIsoStart zone range.from_).map Int.toNat
  to_ := (toIsoEndExclusive zone range.to_).map Int.toNat

section Days

variable {zone : LocalDays} {range : DateRangeValue} {input : InputDate}

/-- The instant of an end of a range is the midnight of its day. -/
lemma localMidnight_eq (hyear : input.HasPlainYear) (dayOffset : ℤ) :
    localMidnight zone input dayOffset = zone.midnight (input.date.number + dayOffset) := by
  have hfull : makeFullYear input.date.year = input.date.year := by
    obtain ⟨hlower, -⟩ := hyear
    exact if_neg (by omega)
  have hnumber : makeDay (makeFullYear input.date.year) (input.date.month - 1)
      (input.date.day + dayOffset) = input.date.number + dayOffset := by
    simp only [hfull, CalendarDate.number, makeDay]
    omega
  rw [localMidnight, hnumber]

/-- From the first instant of a day on. -/
lemma localMidnight_le_iff (hyear : input.HasPlainYear) {instant : ℕ} {date : CalendarDate}
    (hdate : zone.dayOf instant = date.number) :
    (localMidnight zone input 0).toNat ≤ instant ↔ input.date.Le date := by
  obtain ⟨hbegins, hends⟩ := zone.dayOf_spec instant
  rw [hdate] at hbegins hends
  rw [Int.toNat_le, localMidnight_eq hyear, add_zero, ← CalendarDate.number_le_iff]
  constructor
  · intro h
    have hlt := zone.midnight_lt_iff.mp (h.trans_lt hends)
    omega
  · intro h
    exact (zone.midnight_le_iff.mpr h).trans hbegins

/-- Until the last instant of a day. -/
lemma lt_localMidnight_iff (hyear : input.HasPlainYear) {instant : ℕ} {date : CalendarDate}
    (hdate : zone.dayOf instant = date.number) :
    instant < (localMidnight zone input 1).toNat ↔ date.Le input.date := by
  obtain ⟨hbegins, hends⟩ := zone.dayOf_spec instant
  rw [hdate] at hbegins hends
  rw [Int.lt_toNat, localMidnight_eq hyear, ← CalendarDate.number_le_iff]
  constructor
  · intro h
    have hlt := zone.midnight_lt_iff.mp (hbegins.trans_lt h)
    omega
  · intro h
    exact hends.trans_le (zone.midnight_le_iff.mpr (by omega))

section Refused

variable {isIso8601 : ℤ → Bool} (hzone : zone.NearUtc) (hcheck : AcceptsPlainYears isIso8601)

include hzone in
/-- The midnight of a chosen day, or of the day after it, is in a year of four digits. -/
lemma localMidnight_bounds (hyear : input.HasPlainYear) {dayOffset : ℤ} (hoffset : 0 ≤ dayOffset)
    (hle : dayOffset ≤ 1) :
    24 * hourMs * dayFromYear 1000 ≤ localMidnight zone input dayOffset
      ∧ localMidnight zone input dayOffset < 24 * hourMs * dayFromYear 10000 := by
  obtain ⟨hlower, hupper⟩ := hyear
  obtain ⟨hbegins, hends⟩ := input.date.number_bounds
  obtain ⟨hearly, hlate⟩ := hzone.bounds (input.date.number + dayOffset)
  have hfirst := dayFromYear_strictMono.monotone hlower
  have hlast := dayFromYear_strictMono.monotone (show input.date.year + 1 ≤ 9999 by omega)
  have hbefore : dayFromYear 1000 < dayFromYear 1001 := by decide
  have hafter : dayFromYear 9999 + 1 < dayFromYear 10000 := by decide
  rw [localMidnight_eq ⟨hlower, hupper⟩]
  simp only [hourMs] at *
  omega

include hzone hcheck in
/-- The query of the usage pages passes its check. -/
lemma usageRangeQueryDto_rangeQuery (hrange : range.HasPlainYears) :
    usageRangeQueryDto isIso8601 (rangeQuery zone range) = true := by
  have haccepts : ∀ input : InputDate, input.HasPlainYear → ∀ dayOffset, 0 ≤ dayOffset →
      dayOffset ≤ 1 → isIso8601 (localMidnight zone input dayOffset) = true := by
    intro input hyear dayOffset hoffset hle
    obtain ⟨hlower, hupper⟩ := localMidnight_bounds hzone hyear hoffset hle
    exact hcheck _ hlower hupper
  obtain ⟨from_, to_⟩ := range
  obtain ⟨hfrom, hto⟩ := hrange
  rw [usageRangeQueryDto, Bool.and_eq_true]
  constructor
  · cases from_ with
    | none => rfl
    | some first => exact haccepts first (hfrom first rfl) 0 le_rfl zero_le_one
  · cases to_ with
    | none => rfl
    | some last => exact haccepts last (hto last rfl) 1 zero_le_one le_rfl

include hzone hcheck in
/-- **The range is refused if its last day comes before its first.** -/
lemma requestedRange_eq (hrange : range.HasPlainYears) :
    requestedRange isIso8601 (rangeQuery zone range)
      = if ∃ first ∈ range.from_, ∃ last ∈ range.to_, ¬ first.date.Le last.date
        then .error rangeError else .ok (acceptedRange zone range) := by
  have hrefused : (rangeQuery zone range).from_.any
        (fun from_ => (rangeQuery zone range).to_.any (· ≤ from_)) = true
      ↔ ∃ first ∈ range.from_, ∃ last ∈ range.to_, ¬ first.date.Le last.date := by
    have hbefore : ∀ first last : InputDate, first.HasPlainYear → last.HasPlainYear →
        (localMidnight zone last 1 ≤ localMidnight zone first 0
          ↔ ¬ first.date.Le last.date) := by
      intro first last hfirst hlast
      rw [localMidnight_eq hfirst, localMidnight_eq hlast, zone.midnight_le_iff,
        ← CalendarDate.number_le_iff]
      omega
    obtain ⟨from_, to_⟩ := range
    obtain ⟨hfrom, hto⟩ := hrange
    cases from_ with
    | none => simp [rangeQuery, toIsoStart]
    | some first =>
        cases to_ with
        | none => simp [rangeQuery, toIsoEndExclusive]
        | some last =>
            simp [rangeQuery, toIsoStart, toIsoEndExclusive,
              hbefore first last (hfrom first rfl) (hto last rfl)]
  rw [requestedRange, if_pos (usageRangeQueryDto_rangeQuery hzone hcheck hrange)]
  simp only [toUsageRange, hrefused]
  rfl

end Refused

/-- **A row counts if it was written on one of the chosen days.** -/
lemma usageRangeSql_iff (hrange : range.HasPlainYears) {row : UsageLogRow} {date : CalendarDate}
    (hdate : zone.dayOf row.createdAt = date.number) :
    usageRangeSql (acceptedRange zone range) row = true ↔ range.Includes date := by
  obtain ⟨from_, to_⟩ := range
  obtain ⟨hfrom, hto⟩ := hrange
  cases from_ with
  | none =>
      cases to_ with
      | none =>
          simp [usageRangeSql, acceptedRange, toIsoStart, toIsoEndExclusive, DateRangeValue.Includes]
      | some last =>
          have hlast := lt_localMidnight_iff (hto last rfl) hdate
          simp [usageRangeSql, acceptedRange, toIsoStart, toIsoEndExclusive,
            DateRangeValue.Includes, hlast]
  | some first =>
      have hfirst := localMidnight_le_iff (hfrom first rfl) hdate
      cases to_ with
      | none =>
          simp [usageRangeSql, acceptedRange, toIsoStart, toIsoEndExclusive,
            DateRangeValue.Includes, hfirst]
      | some last =>
          have hlast := lt_localMidnight_iff (hto last rfl) hdate
          simp [usageRangeSql, acceptedRange, toIsoStart, toIsoEndExclusive,
            DateRangeValue.Includes, hfirst, hlast]

/-- Ranges that follow each other are a cut of the range from the first day to the last. -/
lemma includes_cut {from_ to_ : Option InputDate} {last next : InputDate} (date : CalendarDate)
    (hnext : next.date.number = last.date.number + 1)
    (hfrom : ∀ first ∈ from_, first.date.Le last.date)
    (hto : ∀ final ∈ to_, next.date.Le final.date) :
    ((⟨from_, some last⟩ : DateRangeValue).Includes date
        ↔ (⟨from_, to_⟩ : DateRangeValue).Includes date ∧ date.Le last.date)
      ∧ ((⟨some next, to_⟩ : DateRangeValue).Includes date
        ↔ (⟨from_, to_⟩ : DateRangeValue).Includes date ∧ ¬ date.Le last.date) := by
  simp only [DateRangeValue.Includes, Option.some.injEq, ← CalendarDate.number_le_iff] at *
  constructor
  · constructor
    · rintro ⟨hfirst, hlast⟩
      have hle := hlast last rfl
      refine ⟨⟨hfirst, fun final hfinal => ?_⟩, hle⟩
      have hlt := hto final hfinal
      omega
    · rintro ⟨⟨hfirst, -⟩, hle⟩
      exact ⟨hfirst, by rintro _ rfl; exact hle⟩
  · constructor
    · rintro ⟨hfirst, hlast⟩
      have hle := hfirst next rfl
      refine ⟨⟨fun first hmem => ?_, hlast⟩, by omega⟩
      have hlt := hfrom first hmem
      omega
    · rintro ⟨⟨-, hlast⟩, hlt⟩
      exact ⟨by rintro _ rfl; omega, hlast⟩

lemma toUsageWhere_eq (owner : UsageOwner) (r : UsageRange) (row : UsageLogRow) :
    toUsageWhere owner r row = (decide (owner.column row = some owner.id) && usageRangeSql r row) := by
  rw [← usageRange_eq]
  cases owner <;> rfl

lemma getTotals_totalTokens (db : UsageDb) (owner : UsageOwner) (r : UsageRange) :
    (getTotals db owner r).totalTokens
      = ((db.log.rows.filter (toUsageWhere owner r)).map (·.inputTokens)).sum
        + ((db.log.rows.filter (toUsageWhere owner r)).map (·.outputTokens)).sum := by
  simp [getTotals, toSafeNumber]

/-- The rows on either side of a cut. -/
lemma filter_cut {ρ : Type} (rows : List ρ) (early : ρ → Bool) {p p₁ p₂ : ρ → Bool}
    (h₁ : ∀ row, p₁ row = (p row && early row)) (h₂ : ∀ row, p₂ row = (p row && !early row)) :
    List.Perm (rows.filter p₁ ++ rows.filter p₂) (rows.filter p) := by
  have hfilter₁ : rows.filter p₁ = (rows.filter p).filter early := by
    rw [List.filter_filter]
    exact List.filter_congr fun row _ => (h₁ row).trans (Bool.and_comm _ _)
  have hfilter₂ : rows.filter p₂ = (rows.filter p).filter fun row => !early row := by
    rw [List.filter_filter]
    exact List.filter_congr fun row _ => (h₂ row).trans (Bool.and_comm _ _)
  rw [hfilter₁, hfilter₂]
  exact List.filter_append_perm early _

/-- **A cut between two days.** -/
lemma cut_rows (zone : LocalDays) {from_ to_ : Option InputDate} {last next : InputDate}
    (hrange : (⟨from_, to_⟩ : DateRangeValue).HasPlainYears) (hlastYear : last.HasPlainYear)
    (hnextYear : next.HasPlainYear)
    (hnext : next.date.number = last.date.number + 1)
    (hfrom : ∀ first ∈ from_, first.date.Le last.date)
    (hto : ∀ final ∈ to_, next.date.Le final.date) (owner : UsageOwner)
    (rows : List UsageLogRow) :
    List.Perm (rows.filter (toUsageWhere owner (acceptedRange zone ⟨from_, some last⟩))
        ++ rows.filter (toUsageWhere owner (acceptedRange zone ⟨some next, to_⟩)))
      (rows.filter (toUsageWhere owner (acceptedRange zone ⟨from_, to_⟩))) := by
  have hparts : ∀ row : UsageLogRow,
      (usageRangeSql (acceptedRange zone ⟨from_, some last⟩) row
          = (usageRangeSql (acceptedRange zone ⟨from_, to_⟩) row
            && decide (row.createdAt < (localMidnight zone last 1).toNat)))
        ∧ usageRangeSql (acceptedRange zone ⟨some next, to_⟩) row
          = (usageRangeSql (acceptedRange zone ⟨from_, to_⟩) row
            && !decide (row.createdAt < (localMidnight zone last 1).toNat)) := by
    intro row
    obtain ⟨date, hdate⟩ := exists_dayNumber (zone.dayOf row.createdAt)
    obtain ⟨hearly, hlate⟩ := includes_cut date hnext hfrom hto
    have hcut := lt_localMidnight_iff hlastYear hdate.symm
    obtain ⟨hrange₁, hrange₂⟩ := hrange.cut hlastYear hnextYear
    constructor
    · rw [Bool.eq_iff_iff, Bool.and_eq_true, usageRangeSql_iff hrange₁ hdate.symm,
        usageRangeSql_iff hrange hdate.symm, decide_eq_true_eq, hcut, hearly]
    · rw [Bool.eq_iff_iff, Bool.and_eq_true, usageRangeSql_iff hrange₂ hdate.symm,
        usageRangeSql_iff hrange hdate.symm, Bool.not_eq_true', decide_eq_false_iff_not, hcut, hlate]
  refine filter_cut rows (fun row => decide (row.createdAt < (localMidnight zone last 1).toNat))
    (fun row => ?_) fun row => ?_
  · rw [toUsageWhere_eq, toUsageWhere_eq, (hparts row).1, Bool.and_assoc]
  · rw [toUsageWhere_eq, toUsageWhere_eq, (hparts row).2, Bool.and_assoc]

end Days

/-! ## What the usage pages show

The theorem speaks of days only.  It is stated for the range as the administrator chose it, for any
rows of the usage log, and for both filters there are, the one of the rows and the one in the SQL of
the sums. -/

/-- What the usage pages count for a range of days. -/
structure CountsDays (isIso8601 : ℤ → Bool) (db : UsageDb) (zone : LocalDays)
    (range : DateRangeValue) : Prop where
  /-- The range is refused exactly if its last day comes before its first, and then with the message
  that says so. -/
  refused : ∀ error, requestedRange isIso8601 (rangeQuery zone range) = .error error
    ↔ error = rangeError ∧ ∃ first ∈ range.from_, ∃ last ∈ range.to_, ¬ first.date.Le last.date
  /-- Otherwise the rows of the chosen days count, in both filters. -/
  counted : ∀ r, requestedRange isIso8601 (rangeQuery zone range) = .ok r → ∀ owner row date,
    zone.dayOf row.createdAt = date.number →
      (toUsageWhere owner r row = true ↔ owner.column row = some owner.id ∧ range.Includes date)
        ∧ (usageRangeSql r row = true ↔ range.Includes date)
  /-- A range that is cut between two days is accepted with its parts, and its rows are theirs. -/
  cut : ∀ last next r₁ r₂, last.HasPlainYear → next.HasPlainYear →
    next.date.number = last.date.number + 1 →
    requestedRange isIso8601 (rangeQuery zone ⟨range.from_, some last⟩) = .ok r₁ →
    requestedRange isIso8601 (rangeQuery zone ⟨some next, range.to_⟩) = .ok r₂ →
    ∃ r, requestedRange isIso8601 (rangeQuery zone range) = .ok r ∧ ∀ owner,
      List.Perm (db.log.rows.filter (toUsageWhere owner r₁)
          ++ db.log.rows.filter (toUsageWhere owner r₂))
        (db.log.rows.filter (toUsageWhere owner r))
      ∧ (getTotals db owner r).requests
        = (getTotals db owner r₁).requests + (getTotals db owner r₂).requests
      ∧ (getTotals db owner r).totalTokens
        = (getTotals db owner r₁).totalTokens + (getTotals db owner r₂).totalTokens

/-- **The usage pages count the days that were chosen.**  The time zone is any in which later days
begin later and every instant is on one of them: an hour that the clock skips or repeats does not
matter, because only the first instants of days are ever compared. -/
theorem range_counts_days {isIso8601 : ℤ → Bool} (hcheck : AcceptsPlainYears isIso8601)
    (db : UsageDb) {zone : LocalDays} (hzone : zone.NearUtc) {range : DateRangeValue}
    (hrange : range.HasPlainYears) : CountsDays isIso8601 db zone range := by
  refine ⟨?_, ?_, ?_⟩
  · intro error
    rw [requestedRange_eq hzone hcheck hrange]
    split_ifs with hrefused
    · constructor
      · intro h
        exact ⟨(Except.error.inj h).symm, hrefused⟩
      · rintro ⟨rfl, -⟩
        rfl
    · exact iff_of_false nofun fun h => hrefused h.2
  · intro r hr owner row date hdate
    rw [requestedRange_eq hzone hcheck hrange] at hr
    split_ifs at hr
    cases hr
    have hsql := usageRangeSql_iff hrange hdate
    exact ⟨by rw [toUsageWhere_eq, Bool.and_eq_true, decide_eq_true_eq, hsql], hsql⟩
  · intro last next r₁ r₂ hlastYear hnextYear hnext hr₁ hr₂
    obtain ⟨hrange₁, hrange₂⟩ := hrange.cut hlastYear hnextYear
    rw [requestedRange_eq hzone hcheck hrange₁] at hr₁
    rw [requestedRange_eq hzone hcheck hrange₂] at hr₂
    split_ifs at hr₁ hr₂ with hrefused₁ hrefused₂
    cases hr₁
    cases hr₂
    have hfrom : ∀ first ∈ range.from_, first.date.Le last.date := by
      intro first hfirst
      by_contra hnot
      exact hrefused₁ ⟨first, hfirst, last, rfl, hnot⟩
    have hto : ∀ final ∈ range.to_, next.date.Le final.date := by
      intro final hfinal
      by_contra hnot
      exact hrefused₂ ⟨next, rfl, final, hfinal, hnot⟩
    have haccepted : ¬ ∃ first ∈ range.from_, ∃ final ∈ range.to_,
        ¬ first.date.Le final.date := by
      rintro ⟨first, hfirst, final, hfinal, hnot⟩
      have hle := CalendarDate.number_le_iff.mpr (hfrom first hfirst)
      have hle' := CalendarDate.number_le_iff.mpr (hto final hfinal)
      exact hnot (CalendarDate.number_le_iff.mp (by omega))
    refine ⟨_, by rw [requestedRange_eq hzone hcheck hrange, if_neg haccepted], fun owner => ?_⟩
    have hrows := cut_rows zone hrange hlastYear hnextYear hnext hfrom hto owner db.log.rows
    refine ⟨hrows, ?_, ?_⟩
    · exact hrows.length_eq.symm.trans List.length_append
    · have hinputs := (hrows.map (·.inputTokens)).sum_eq
      have houtputs := (hrows.map (·.outputTokens)).sum_eq
      rw [List.map_append, List.sum_append] at hinputs houtputs
      rw [getTotals_totalTokens, getTotals_totalTokens, getTotals_totalTokens, ← hinputs, ← houtputs]
      omega

def september : DateRangeValue where
  from_ := some ⟨⟨2026, 9, 1, by decide, by decide⟩, by decide⟩
  to_ := some ⟨⟨2026, 9, 30, by decide, by decide⟩, by decide⟩

/-- The days of September are counted where clocks show universal time and the check accepts the
years of four digits and no others. -/
theorem range_counts_days_september :
    CountsDays (fun instant => decide (24 * hourMs * dayFromYear 1000 ≤ instant)
        && decide (instant < 24 * hourMs * dayFromYear 10000)) largeUsage .utc september := by
  refine range_counts_days (fun instant hlower hupper => ?_) largeUsage LocalDays.utc_nearUtc ?_
  · rw [Bool.and_eq_true, decide_eq_true_eq, decide_eq_true_eq]
    exact ⟨hlower, hupper⟩
  · simp [DateRangeValue.HasPlainYears, InputDate.HasPlainYear, september]

end RagStack
