/-! Hexadecimal digits are written in lower case and read in either case. -/

namespace EventBus

/-- The lower-case digit of a number below sixteen. -/
def hexDigit (value : Nat) : Char :=
  -- The digits start at code 48, and the letters after nine at code 97.
  if value < 10 then Char.ofNat (48 + value) else Char.ofNat (87 + value)

/-- The value of a hexadecimal digit in either case. -/
def hexValue? (c : Char) : Option Nat :=
  -- Three runs of codes are digits: figures, small letters and capitals.
  let code := c.toNat
  if 48 ≤ code ∧ code ≤ 57 then some (code - 48)
  else if 97 ≤ code ∧ code ≤ 102 then some (code - 87)
  else if 65 ≤ code ∧ code ≤ 70 then some (code - 55)
  else none

/-- The lowest `width` hexadecimal digits of a number, most significant first. -/
def hexFixed : Nat → Nat → List Char
  | 0, _ => []
  -- The last digit is written last, behind the digits of what it leaves over.
  | width + 1, value => hexFixed width (value / 16) ++ [hexDigit (value % 16)]

/-- A number without leading zeros, and zero as one digit. -/
def hexText (value : Nat) : String := String.ofList (Nat.toDigits 16 value)

/-- The number that a list of hexadecimal digits stands for, most significant first. -/
def hexNumber? (digits : List Char) : Option Nat :=
  -- One character that is no digit spoils the whole number.
  digits.foldlM (fun value c => (hexValue? c).map (value * 16 + ·)) 0

end EventBus
