import EventBus.Proofs.Calendar.Days

/-!
Minutes are counted from the first day of the calendar, and an offset is taken off their number,
whatever days, months and years lie between.
-/

namespace EventBus

namespace TimeOfDay

variable {time other : TimeOfDay}

/-- A day has the time of some numbers if there is a time with these numbers. -/
theorem of?_eq_some_iff {hour minute second nano : Nat} :
    of? hour minute second nano = some time ↔
      time.hour = hour ∧ time.minute = minute ∧ time.second = second ∧ time.nano = nano := by
  constructor
  · -- A time is only made where each number has been found to be in range.
    intro made
    simp only [of?] at made
    split_ifs at made
    cases made
    exact ⟨rfl, rfl, rfl, rfl⟩
  · rintro ⟨rfl, rfl, rfl, rfl⟩
    rw [of?, dif_pos time.hour_lt, dif_pos time.minute_lt, dif_pos time.second_le,
      dif_pos time.nano_lt]

/-- Times are the same if their four numbers are. -/
theorem eq_of_numbers (hours : time.hour = other.hour) (minutes : time.minute = other.minute)
    (seconds : time.second = other.second) (nanos : time.nano = other.nano) : time = other :=
  -- Both times are what is made of the same numbers.
  Option.some.inj ((of?_eq_some_iff.mpr ⟨rfl, rfl, rfl, rfl⟩).symm.trans
    (of?_eq_some_iff.mpr ⟨hours.symm, minutes.symm, seconds.symm, nanos.symm⟩))

theorem minutes_lt (time : TimeOfDay) : time.minutes < 1440 := by
  -- There are at most 23 whole hours and 59 minutes behind them.
  have hour := time.hour_lt
  have minute := time.minute_lt
  rw [minutes]
  omega

/-- The minutes, the seconds and their fraction tell a time. -/
theorem atMinutes_eq_iff {count : Nat} (inside : count < 1440) :
    time.atMinutes count = other ↔
      other.minutes = count ∧ other.second = time.second ∧ other.nano = time.nano := by
  -- Division by sixty takes the hours and the minutes apart again.
  have hour := other.hour_lt
  have minute := other.minute_lt
  constructor
  · rintro rfl
    refine ⟨?_, rfl, rfl⟩
    show count / 60 % 24 * 60 + count % 60 = count
    omega
  · rintro ⟨rfl, second, nano⟩
    refine eq_of_numbers ?_ ?_ second.symm nano.symm
    · show (other.hour * 60 + other.minute) / 60 % 24 = other.hour
      omega
    · show (other.hour * 60 + other.minute) % 60 = other.minute
      omega

end TimeOfDay

namespace Moment

/-- The minutes since the day before the first of the calendar. -/
def minuteCount (moment : Moment) : Int := moment.date.number * 1440 + moment.time.minutes

/-- A time on a day that has been found is the given moment if the day and the time are. -/
theorem map_day_eq_some_iff {found : Option Date} {time : TimeOfDay} {moment : Moment} :
    found.map (⟨·, time⟩) = some moment ↔ found = some moment.date ∧ time = moment.time := by
  -- The time is the same either way, so only the day can be missing.
  cases found with
  | none => simp
  | some date =>
    cases moment
    rw [Option.map_some, Option.some.injEq, Option.some.injEq, Moment.mk.injEq]

/-- Taking off an offset takes its minutes off and leaves the seconds alone. -/
theorem less?_eq_some_iff {moment moved : Moment} {offset : Int}
    (short : -1440 < offset ∧ offset < 1440) :
    moment.less? offset = some moved ↔
      moved.minuteCount = moment.minuteCount - offset ∧
        moved.time.second = moment.time.second ∧ moved.time.nano = moment.time.nano := by
  have day := moment.time.minutes_lt
  have later := moved.time.minutes_lt
  have inside : (((moment.time.minutes : Int) - offset) % 1440).toNat < 1440 := by omega
  rw [minuteCount, minuteCount]
  simp only [less?]
  -- The minute may lie on the day before, on the same day or on the day after.
  split_ifs with early same
  · rw [map_day_eq_some_iff, TimeOfDay.atMinutes_eq_iff inside, Date.previous?_eq_some_iff]
    constructor
    · rintro ⟨number, minutes, seconds⟩
      exact ⟨by omega, seconds⟩
    · rintro ⟨count, seconds⟩
      exact ⟨by omega, by omega, seconds⟩
  · -- On the same day the minutes decide, and no two days have one number.
    refine (@map_day_eq_some_iff (some moment.date) _ _).trans ?_
    rw [TimeOfDay.atMinutes_eq_iff inside, Option.some.injEq]
    constructor
    · rintro ⟨date, minutes, seconds⟩
      rw [← date]
      exact ⟨by omega, seconds⟩
    · rintro ⟨count, seconds⟩
      exact ⟨Date.number_injective (by omega), by omega, seconds⟩
  · rw [map_day_eq_some_iff, TimeOfDay.atMinutes_eq_iff inside, Date.next?_eq_some_iff]
    constructor
    · rintro ⟨number, minutes, seconds⟩
      exact ⟨by omega, seconds⟩
    · rintro ⟨count, seconds⟩
      exact ⟨by omega, by omega, seconds⟩

end Moment

end EventBus
