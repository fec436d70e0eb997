import EventBus.Calendar.Moment
import EventBus.Text.Blank
import EventBus.Text.Digits

/-!
Moments are read in a relaxed form of RFC 3339: numbers need no leading zeros, blanks may stand
between the parts, and any offset shorter than a day is moved into the time.
-/

namespace EventBus

namespace Moment

/-- A number of one to `width` digits, and what stands behind it. -/
def readNumber? (width : Nat) (chars : List Char) : Option (Nat × List Char) :=
  -- Digits beyond the width belong to what follows, even if nothing may follow.
  let digits := (chars.take width).takeWhile Char.isDigit
  if digits.isEmpty then none else some (digitsValue digits, chars.drop digits.length)

/-- A number of at most two digits behind blanks. -/
def readPart? (chars : List Char) : Option (Nat × List Char) := readNumber? 2 (skipBlanks chars)

/-- A year of at most four digits, or of any length behind a sign. -/
def readYear? (chars : List Char) : Option (Int × List Char) :=
  -- A sign lifts the bound on the number of digits.
  match skipBlanks chars with
  | '-' :: rest => (readNumber? rest.length rest).map fun (year, behind) => (-(year : Int), behind)
  | '+' :: rest => (readNumber? rest.length rest).map fun (year, behind) => ((year : Int), behind)
  | rest => (readNumber? 4 rest).map fun (year, behind) => ((year : Int), behind)

/-- What stands behind one given character, which blanks may precede. -/
def readMark? (mark : Char) (chars : List Char) : Option (List Char) :=
  match skipBlanks chars with
  | c :: rest => if c = mark then some rest else none
  | [] => none

/-- The nanoseconds of an optional fraction; digits beyond the ninth are passed over. -/
def readFraction? (chars : List Char) : Option (Nat × List Char) :=
  match chars with
  | '.' :: rest =>
    -- Fewer than nine digits stand for the leading places of the fraction.
    let digits := (rest.take 9).takeWhile Char.isDigit
    if digits.isEmpty then none
    else some (digitsValue digits * Nat.pow 10 (9 - digits.length), rest.dropWhile Char.isDigit)
  | _ => some (0, chars)

/-- Two digits, the first of which must not exceed a bound. -/
def readPair? (bound : Nat) (chars : List Char) : Option (Nat × List Char) :=
  match chars with
  | a :: b :: rest =>
    if a.isDigit && b.isDigit && a.toNat - 48 ≤ bound then
      some ((a.toNat - 48) * 10 + (b.toNat - 48), rest)
    else none
  | _ => none

/-- The minutes of a signed offset; colons and blanks may part its two numbers. -/
def readSigned? (negative : Bool) (chars : List Char) : Option (Int × List Char) := do
  -- Any two digits may stand for hours, and the whole offset is what has to be short enough.
  let (hours, rest) ← readPair? 9 chars
  let (minutes, rest) ← readPair? 5 (rest.dropWhile fun c => c == ':' || isBlankChar c)
  let offset : Int := hours * 60 + minutes
  if offset < 1440 then some (if negative then -offset else offset, rest) else none

/-- The offset of a zone in minutes: a name of universal time or a signed offset. -/
def readZone? (chars : List Char) : Option (Int × List Char) :=
  -- The three letters are tried first, since none of them starts another zone.
  let name := (chars.take 3).map Char.toUpper
  if name = ['U', 'T', 'C'] then some (0, chars.drop 3)
  else
    match chars with
    | 'Z' :: rest | 'z' :: rest => some (0, rest)
    | '+' :: rest => readSigned? false rest
    | '-' :: rest | '\u2212' :: rest => readSigned? true rest
    | _ => none

/-- The moment that a text stands for. -/
def parse? (chars : List Char) : Option Moment := do
  -- The date comes first, with hyphens between its numbers.
  let (year, rest) ← readYear? chars
  let (month, rest) ← readPart? (← readMark? '-' rest)
  let (day, rest) ← readPart? (← readMark? '-' rest)
  -- One character parts the date from the time, and no blank may precede it.
  let rest ← match rest with
    | 'T' :: rest | 't' :: rest | ' ' :: rest => some rest
    | _ => none
  let (hour, rest) ← readPart? rest
  let (minute, rest) ← readPart? (← readMark? ':' rest)
  let (second, rest) ← readPart? (← readMark? ':' rest)
  let (nano, rest) ← readFraction? rest
  -- The zone must be there, since without it the text would be no moment.
  let (offset, rest) ← readZone? (skipBlanks rest)
  -- Only now the numbers have to be those of a day and of a time.
  let date ← Date.of? year month day
  let time ← TimeOfDay.of? hour minute second nano
  if rest.all isBlankChar then less? ⟨date, time⟩ offset else none

end Moment

end EventBus
