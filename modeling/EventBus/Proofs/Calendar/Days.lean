import EventBus.Calendar.Moment
import Mathlib.Order.Monotone.Basic
import Mathlib.Tactic.SplitIfs

/-!
Days are counted from the first one that the calendar has. The day after a day and the day before it
are the ones with the neighbouring numbers, across the ends of months and years.
-/

namespace EventBus

/-- The days in the first months of a year. -/
def daysThrough (year : Int) : Nat → Nat
  | 0 => 0
  | month + 1 => daysThrough year month + daysIn year (month + 1)

/-- The days in the first years of the calendar. -/
def daysOfYears : Nat → Nat
  | 0 => 0
  | count + 1 => daysOfYears count + daysThrough (firstYear + count) 12

/-- No month is empty. -/
theorem daysIn_pos (year : Int) (month : Nat) : 0 < daysIn year month := by
  -- Each branch gives a number from 28 to 31.
  rw [daysIn]
  split_ifs <;> decide

theorem daysThrough_monotone (year : Int) : Monotone (daysThrough year) :=
  monotone_nat_of_le_succ fun _ => Nat.le_add_right _ _

theorem daysOfYears_monotone : Monotone daysOfYears :=
  monotone_nat_of_le_succ fun _ => Nat.le_add_right _ _

namespace Date

/-- The years of the calendar before the year of a day. -/
def yearsBefore (date : Date) : Nat := (date.year - firstYear).toNat

/-- The number of a day within its year, from one. -/
def dayOfYear (date : Date) : Nat := daysThrough date.year (date.month - 1) + date.day

/-- The number of a day within the calendar, from one. -/
def number (date : Date) : Nat := daysOfYears date.yearsBefore + date.dayOfYear

variable {date other : Date}

/-- The calendar has the day of some numbers if it has a day with these numbers. -/
theorem of?_eq_some_iff {year : Int} {month day : Nat} :
    of? year month day = some date ↔ date.year = year ∧ date.month = month ∧ date.day = day := by
  constructor
  · -- A date is only made where each number has been found to be in range.
    intro made
    simp only [of?] at made
    split_ifs at made
    cases made
    exact ⟨rfl, rfl, rfl⟩
  · rintro ⟨rfl, rfl, rfl⟩
    rw [of?, dif_pos date.year_range, dif_pos date.month_range, dif_pos date.day_range]

/-- Days are the same if their three numbers are. -/
theorem eq_of_numbers (years : date.year = other.year) (months : date.month = other.month)
    (days : date.day = other.day) : date = other :=
  -- Both days are what is made of the same numbers.
  Option.some.inj ((of?_eq_some_iff.mpr ⟨rfl, rfl, rfl⟩).symm.trans
    (of?_eq_some_iff.mpr ⟨years.symm, months.symm, days.symm⟩))

/-- A month is followed by the days of the months behind it. -/
theorem daysThrough_month (date : Date) : daysThrough date.year date.month
    = daysThrough date.year (date.month - 1) + daysIn date.year date.month := by
  -- The months are counted from one, so there is one before.
  obtain ⟨month, succ⟩ := Nat.exists_eq_succ_of_ne_zero (Nat.ne_of_gt date.month_range.1)
  rw [succ]
  rfl

/-- A year is followed by the days of the years behind it. -/
theorem daysOfYears_year (date : Date) : daysOfYears (date.yearsBefore + 1)
    = daysOfYears date.yearsBefore + daysThrough date.year 12 := by
  -- The years are counted from the first one, so the count gives the year back.
  have year : firstYear + (date.yearsBefore : Int) = date.year := by
    have range := date.year_range
    rw [yearsBefore]
    omega
  rw [daysOfYears, year]

theorem dayOfYear_pos (date : Date) : 0 < date.dayOfYear :=
  Nat.add_pos_right _ date.day_range.1

theorem dayOfYear_le_month (date : Date) : date.dayOfYear ≤ daysThrough date.year date.month := by
  -- The days of the month are at most as many as it has.
  rw [daysThrough_month]
  exact Nat.add_le_add_left date.day_range.2 _

theorem dayOfYear_le (date : Date) : date.dayOfYear ≤ daysThrough date.year 12 :=
  date.dayOfYear_le_month.trans (daysThrough_monotone _ date.month_range.2)

theorem number_le (date : Date) : date.number ≤ daysOfYears (date.yearsBefore + 1) := by
  -- The days of the year are at most as many as it has.
  rw [daysOfYears_year]
  exact Nat.add_le_add_left date.dayOfYear_le _

/-- Days of an earlier year come first. -/
theorem number_lt_of_year_lt (earlier : date.year < other.year) : date.number < other.number := by
  -- Whatever the day, its number is within those of its own year.
  have years : date.yearsBefore + 1 ≤ other.yearsBefore := by
    have range := date.year_range
    rw [yearsBefore, yearsBefore]
    omega
  calc date.number
      ≤ daysOfYears (date.yearsBefore + 1) := date.number_le
    _ ≤ daysOfYears other.yearsBefore := daysOfYears_monotone years
    _ < other.number := Nat.lt_add_of_pos_right other.dayOfYear_pos

/-- Within a year, days of an earlier month come first. -/
theorem number_lt_of_month_lt (same : date.year = other.year) (earlier : date.month < other.month) :
    date.number < other.number := by
  -- The days of the month before are passed, so the later month starts behind them.
  have days : date.dayOfYear < other.dayOfYear := calc
    date.dayOfYear ≤ daysThrough date.year date.month := date.dayOfYear_le_month
    _ ≤ daysThrough other.year (other.month - 1) := by
      rw [same]
      exact daysThrough_monotone _ (by omega)
    _ < other.dayOfYear := Nat.lt_add_of_pos_right other.day_range.1
  rw [number, number, yearsBefore, yearsBefore, same]
  exact Nat.add_lt_add_left days _

/-- No two days have one number. -/
theorem number_injective (same : date.number = other.number) : date = other := by
  -- Days in different years or months have numbers in the same order, which leaves the day itself.
  have years : date.year = other.year := by
    rcases Int.lt_trichotomy date.year other.year with earlier | years | later
    · exact absurd same (Nat.ne_of_lt (number_lt_of_year_lt earlier))
    · exact years
    · exact absurd same (Nat.ne_of_gt (number_lt_of_year_lt later))
  have months : date.month = other.month := by
    rcases Nat.lt_trichotomy date.month other.month with earlier | months | later
    · exact absurd same (Nat.ne_of_lt (number_lt_of_month_lt years earlier))
    · exact months
    · exact absurd same (Nat.ne_of_gt (number_lt_of_month_lt years.symm later))
  rw [number, number, yearsBefore, yearsBefore, dayOfYear, dayOfYear, years, months] at same
  exact eq_of_numbers years months (by omega)

/-- The last day of a year has the number of days that have begun by its end. -/
theorem number_last (date : Date) (december : date.month = 12)
    (last : date.day = daysIn date.year date.month) :
    date.number = daysOfYears (date.yearsBefore + 1) := by
  -- December is full, and so is the year with it.
  have full := date.daysThrough_month
  rw [daysOfYears_year, number, dayOfYear, last, ← full, december]

/-- The day after a day has the next number. -/
theorem number_next? (next : date.next? = some other) : other.number = date.number + 1 := by
  have days := date.day_range
  have months := date.month_range
  -- The next day is in the same month, in the next month, or on the first of January.
  rw [next?] at next
  split_ifs at next with inside early
  · obtain ⟨years, month, day⟩ := of?_eq_some_iff.mp next
    rw [number, number, yearsBefore, yearsBefore, dayOfYear, dayOfYear, years, month, day]
    omega
  · obtain ⟨years, month, day⟩ := of?_eq_some_iff.mp next
    have full := date.daysThrough_month
    rw [number, number, yearsBefore, yearsBefore, dayOfYear, dayOfYear, years, month, day,
      Nat.add_sub_cancel, full]
    omega
  · -- The year is over, so all of its days have begun.
    obtain ⟨years, month, day⟩ := of?_eq_some_iff.mp next
    have after : other.yearsBefore = date.yearsBefore + 1 := by
      have range := date.year_range
      rw [yearsBefore, yearsBefore, years]
      omega
    have start : other.dayOfYear = 1 := by
      rw [dayOfYear, month, day]
      rfl
    rw [date.number_last (by omega) (by omega), number, after, start]

/-- A day that is not the last one of the calendar has a day after it. -/
theorem exists_next? (later : date.number < other.number) : ∃ next, date.next? = some next := by
  have days := date.day_range
  have months := date.month_range
  -- In the first two cases the next day can be written down, being within the same year.
  rw [next?]
  split_ifs with inside early
  · exact ⟨⟨date.year, date.month, date.day + 1, date.year_range, months, by omega, inside⟩,
      of?_eq_some_iff.mpr ⟨rfl, rfl, rfl⟩⟩
  · exact ⟨⟨date.year, date.month + 1, 1, date.year_range, by omega, Nat.le_refl 1,
      daysIn_pos _ _⟩, of?_eq_some_iff.mpr ⟨rfl, rfl, rfl⟩⟩
  · -- Were this the last year, then the later day would have begun by the end of this one.
    have more : date.year + 1 ≤ lastYear := by
      by_contra last
      have years : other.yearsBefore + 1 ≤ date.yearsBefore + 1 := by
        have range := other.year_range
        rw [yearsBefore, yearsBefore]
        omega
      have begun := other.number_le.trans (daysOfYears_monotone years)
      rw [← date.number_last (by omega) (by omega)] at begun
      omega
    have range := date.year_range
    exact ⟨⟨date.year + 1, 1, 1, by omega, by decide, Nat.le_refl 1, daysIn_pos _ _⟩,
      of?_eq_some_iff.mpr ⟨rfl, rfl, rfl⟩⟩

/-- The day after a day is the one with the next number. -/
theorem next?_eq_some_iff : date.next? = some other ↔ other.number = date.number + 1 := by
  constructor
  · exact number_next?
  · -- There is a day after this one, and only one day has its number.
    intro successor
    obtain ⟨next, found⟩ := @exists_next? date other (by omega)
    have same : next.number = other.number := by rw [number_next? found, successor]
    rw [found, number_injective same]

/-- A day comes after the day before it. -/
theorem next?_previous? (previous : date.previous? = some other) : other.next? = some date := by
  have days := date.day_range
  have months := date.month_range
  -- The day before is in the same month, in the month before, or on the last of December.
  rw [previous?] at previous
  split_ifs at previous with inside late
  · obtain ⟨years, month, day⟩ := of?_eq_some_iff.mp previous
    rw [next?, years, month, day, if_pos (by omega)]
    exact of?_eq_some_iff.mpr ⟨rfl, rfl, by omega⟩
  · obtain ⟨years, month, day⟩ := of?_eq_some_iff.mp previous
    rw [next?, years, month, day, if_neg (by omega), if_pos (by omega)]
    exact of?_eq_some_iff.mpr ⟨rfl, by omega, by omega⟩
  · obtain ⟨years, month, day⟩ := of?_eq_some_iff.mp previous
    have december : daysIn (date.year - 1) 12 = 31 := rfl
    rw [next?, years, month, day, december, if_neg (by decide), if_neg (by decide)]
    exact of?_eq_some_iff.mpr ⟨by omega, by omega, by omega⟩

/-- A day that is not the first one of the calendar has a day before it. -/
theorem exists_previous? (earlier : other.number < date.number) :
    ∃ previous, date.previous? = some previous := by
  have days := date.day_range
  have months := date.month_range
  -- In the first two cases the day before can be written down, being within the same year.
  rw [previous?]
  split_ifs with inside late
  · exact ⟨⟨date.year, date.month, date.day - 1, date.year_range, months, by omega⟩,
      of?_eq_some_iff.mpr ⟨rfl, rfl, rfl⟩⟩
  · exact ⟨⟨date.year, date.month - 1, daysIn date.year (date.month - 1), date.year_range, by omega,
      daysIn_pos _ _, Nat.le_refl _⟩, of?_eq_some_iff.mpr ⟨rfl, rfl, rfl⟩⟩
  · -- Were this the first year, then this day would have the number one.
    have more : firstYear ≤ date.year - 1 := by
      by_contra first
      have years : date.yearsBefore = 0 := by
        rw [yearsBefore]
        omega
      have month : date.month = 1 := by omega
      have one : date.number = 1 := by
        have day : date.day = 1 := by omega
        rw [number, years, dayOfYear, month, day]
        rfl
      have begun : 0 < other.number := Nat.add_pos_right _ other.dayOfYear_pos
      omega
    have range := date.year_range
    exact ⟨⟨date.year - 1, 12, 31, by omega, by decide, by decide, Nat.le_refl 31⟩,
      of?_eq_some_iff.mpr ⟨rfl, rfl, rfl⟩⟩

/-- The day before a day is the one with the number before. -/
theorem previous?_eq_some_iff : date.previous? = some other ↔ other.number + 1 = date.number := by
  constructor
  · intro previous
    exact (number_next? (next?_previous? previous)).symm
  · -- There is a day before this one, and only one day has its number.
    intro predecessor
    obtain ⟨previous, found⟩ := @exists_previous? date other (by omega)
    have same : previous.number = other.number := by
      have next := number_next? (next?_previous? found)
      omega
    rw [found, number_injective same]

end Date

end EventBus
