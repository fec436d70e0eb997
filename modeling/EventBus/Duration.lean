/-! Durations are counted in nanoseconds and shown in the largest unit that they fill. -/

namespace EventBus

/-- A span of time as a number of nanoseconds. -/
structure Duration where
  nanos : Nat
  deriving DecidableEq, Repr

namespace Duration

/-- A number of milliseconds. -/
def ofMillis (millis : Nat) : Duration := ⟨millis * 1000000⟩

/-- A number of seconds and the nanoseconds beyond them. -/
def ofParts (seconds nanos : Nat) : Duration := ⟨seconds * 1000000000 + nanos⟩

/-- The digits of a fraction with a given number of places, less its trailing zeros. -/
def fractionDigits (places fraction : Nat) : List Char :=
  -- A fraction keeps the zeros in front of its digits and loses those behind them.
  let digits := (toString fraction).toList
  let padded := List.replicate (places - digits.length) '0' ++ digits
  (padded.reverse.dropWhile (· == '0')).reverse

/-- A number of nanoseconds as a decimal number of units of `10 ^ places` nanoseconds. -/
def inUnits (places nanos : Nat) (symbol : String) : String :=
  let whole := nanos / Nat.pow 10 places
  match fractionDigits places (nanos % Nat.pow 10 places) with
  -- A whole number of units has no point.
  | [] => toString whole ++ symbol
  | digits => toString whole ++ "." ++ String.ofList digits ++ symbol

/-- The exact decimal number of the largest unit that is filled at least once. -/
def text (d : Duration) : String :=
  -- The units are tried from the largest down, and nanoseconds are always whole.
  if 1000000000 ≤ d.nanos then inUnits 9 d.nanos "s"
  else if 1000000 ≤ d.nanos then inUnits 6 d.nanos "ms"
  else if 1000 ≤ d.nanos then inUnits 3 d.nanos "µs"
  else inUnits 0 d.nanos "ns"

end Duration

end EventBus
