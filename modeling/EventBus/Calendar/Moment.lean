import EventBus.Calendar.Date

/-! A moment is a day and a time of day, both of universal time, written as RFC 3339 lays down. -/

namespace EventBus

/-- A time of day; its sixtieth second is a leap second. -/
structure TimeOfDay where
  hour : Nat
  minute : Nat
  second : Nat
  nano : Nat
  hour_lt : hour < 24
  minute_lt : minute < 60
  second_le : second ≤ 60
  nano_lt : nano < 1000000000
  deriving DecidableEq, Repr

namespace TimeOfDay

/-- The time with the given numbers, if a day has it. -/
def of? (hour minute second nano : Nat) : Option TimeOfDay :=
  -- A leap second may stand at the end of any minute, since it moves with the offset.
  if h : hour < 24 then
    if m : minute < 60 then
      if s : second ≤ 60 then
        if n : nano < 1000000000 then some ⟨hour, minute, second, nano, h, m, s, n⟩ else none
      else none
    else none
  else none

/-- The minutes since the day began. -/
def minutes (time : TimeOfDay) : Nat := time.hour * 60 + time.minute

/-- The same seconds at another minute of a day. -/
def atMinutes (time : TimeOfDay) (minutes : Nat) : TimeOfDay :=
  { time with
    hour := minutes / 60 % 24
    minute := minutes % 60
    hour_lt := Nat.mod_lt _ (by decide)
    minute_lt := Nat.mod_lt _ (by decide) }

end TimeOfDay

/-- A moment of universal time. -/
structure Moment where
  date : Date
  time : TimeOfDay
  deriving DecidableEq, Repr

namespace Moment

/-- Moves a moment back by an offset in minutes that is shorter than a day. -/
def less? (moment : Moment) (offset : Int) : Option Moment :=
  -- Offsets are whole minutes, so that seconds and their fraction stay as they are.
  let minutes : Int := moment.time.minutes - offset
  let time := moment.time.atMinutes (minutes % 1440).toNat
  -- An offset shorter than a day leads into the day before or after at most.
  if minutes < 0 then moment.date.previous?.map (⟨·, time⟩)
  else if minutes < 1440 then some ⟨moment.date, time⟩
  else moment.date.next?.map (⟨·, time⟩)

/-- A number with leading zeros up to a given width. -/
def padded (width value : Nat) : List Char :=
  let digits := (toString value).toList
  List.replicate (width - digits.length) '0' ++ digits

/-- Years of four digits stand alone; any other year has a sign. -/
def yearChars (year : Int) : List Char :=
  -- The sign is what tells a longer year from one of four digits.
  if 0 ≤ year ∧ year ≤ 9999 then padded 4 year.toNat
  else (if year < 0 then '-' else '+') :: padded 4 year.natAbs

/-- As many groups of three digits as the fraction of a second needs. -/
def fractionChars (nano : Nat) : List Char :=
  -- A fraction that is a whole number of larger units is written in them.
  if nano = 0 then []
  else if nano % 1000000 = 0 then '.' :: padded 3 (nano / 1000000)
  else if nano % 1000 = 0 then '.' :: padded 6 (nano / 1000)
  else '.' :: padded 9 nano

/-- The written form in front of the zone. -/
def chars (moment : Moment) : List Char :=
  yearChars moment.date.year ++ '-' :: padded 2 moment.date.month ++ '-' ::
    padded 2 moment.date.day ++ 'T' :: padded 2 moment.time.hour ++ ':' ::
    padded 2 moment.time.minute ++ ':' :: padded 2 moment.time.second ++
    fractionChars moment.time.nano

/-- The written form with the zone letter. -/
def text (moment : Moment) : String := String.ofList (moment.chars ++ ['Z'])

/-- The written form with a numeric offset. -/
def offsetText (moment : Moment) : String := String.ofList (moment.chars ++ "+00:00".toList)

/-- The moment that clocks of computers count from. -/
def epoch : Moment :=
  ⟨⟨1970, 1, 1, by decide, by decide, by decide⟩,
    ⟨0, 0, 0, 0, by decide, by decide, by decide, by decide⟩⟩

end Moment

end EventBus
