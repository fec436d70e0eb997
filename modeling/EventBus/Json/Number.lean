import EventBus.Json.Basic
import EventBus.Json.Double
import EventBus.Text.Digits

/-! Numbers in a document are whole or decimal, which their spelling decides. -/

namespace EventBus

namespace Json

/-- The exponent in what stands behind the digits of a number. -/
def exponent? : List Char → Option Int
  | [] => some 0
  | mark :: rest =>
    let (negative, digits) := match rest with
      | '-' :: digits => (true, digits)
      | '+' :: digits => (false, digits)
      | digits => (false, digits)
    -- The letter has to be there, and at least one digit.
    if (mark = 'e' ∨ mark = 'E') ∧ !digits.isEmpty ∧ digits.all Char.isDigit then
      let value : Int := digitsValue digits
      some (if negative then -value else value)
    else none

/-- A decimal number, unless it is too large for one. -/
def decimal? (negative : Bool) (digits : Nat) (exponent : Int) : Option Json :=
  (Decimal.ofDigits negative digits exponent).shortest?.map .decimal

/-- The number of a spelling without fraction and exponent. -/
def whole? (negative : Bool) (magnitude : Nat) : Option Json :=
  let value : Int := if negative then -magnitude else magnitude
  -- Only a decimal zero has a sign, and whole numbers fit into 64 bits.
  if negative ∧ magnitude = 0 then decimal? negative 0 0
  else if -0x8000000000000000 ≤ value ∧ value < 0x10000000000000000 then some (.integer value)
  else decimal? negative magnitude 0

/-- The number of a spelling without its sign. -/
def unsigned? (negative : Bool) (chars : List Char) : Option Json := do
  let (front, rest) := splitDigits chars
  -- A number starts with a digit, and with a zero only if that stands alone.
  if front.isEmpty ∨ (front.head? = some '0' ∧ 1 < front.length) then none
  match rest with
  | [] => whole? negative (digitsValue front)
  | '.' :: behind =>
    let (fraction, power) := splitDigits behind
    if fraction.isEmpty then none
    let exponent := (← exponent? power) - fraction.length
    decimal? negative (digitsValue (front ++ fraction)) exponent
  | power => decimal? negative (digitsValue front) (← exponent? power)

/-- The number of a spelling. -/
def number? : List Char → Option Json
  | '-' :: chars => unsigned? true chars
  | chars => unsigned? false chars

end Json

end EventBus
