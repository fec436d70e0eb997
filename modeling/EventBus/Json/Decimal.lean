/-! Decimal numbers are digits and a power of ten, and are written with a fraction. -/

namespace EventBus

/-- The number `digits * 10 ^ exponent` with a sign, which zero has too. -/
structure Decimal where
  negative : Bool
  digits : Nat
  exponent : Int
  /-- The last digit is not zero, so that every number has one form. -/
  reduced : digits % 10 ≠ 0 ∨ digits = 0 ∧ exponent = 0
  deriving DecidableEq, Repr

namespace Decimal

/-- The number of any digits; zeros at their end pass into the power of ten. -/
def ofDigits (negative : Bool) (digits : Nat) (exponent : Int) : Decimal :=
  -- Zero has no digit to stop at, and one form for all powers of ten.
  if zero : digits = 0 then ⟨negative, 0, 0, .inr ⟨rfl, rfl⟩⟩
  else if last : digits % 10 = 0 then ofDigits negative (digits / 10) (exponent + 1)
  else ⟨negative, digits, exponent, .inl last⟩
termination_by digits

/-- The digits as characters. -/
def figures (d : Decimal) : List Char := (toString d.digits).toList

/-- How many places the point stands behind the front of the digits. -/
def point (d : Decimal) : Int := d.figures.length + d.exponent

/-- The number with no sign if it is zero. -/
def unsignedZero (d : Decimal) : Decimal := { d with negative := d.negative && d.digits ≠ 0 }

/-- Digits with a point in positional notation; a whole number keeps the fraction `.0`. -/
def positional (figures : List Char) (point : Int) : List Char :=
  -- A point before all digits needs zeros of its own on both sides.
  if point ≤ 0 then '0' :: '.' :: List.replicate point.natAbs '0' ++ figures
  else
    let places := point.toNat
    -- A point behind all digits is reached with zeros, and is followed by one more.
    if figures.length ≤ places then
      figures ++ List.replicate (places - figures.length) '0' ++ ['.', '0']
    else figures.take places ++ '.' :: figures.drop places

/-- Digits with one of them before the point and a power of ten. -/
def scientific (figures : List Char) (point : Int) : List Char :=
  -- A single digit has no point, and the power has a sign in any case.
  let fraction := figures.drop 1
  let power := point - 1
  figures.take 1 ++ (if fraction.isEmpty then [] else '.' :: fraction) ++
    'e' :: (if power < 0 then '-' else '+') :: (toString power.natAbs).toList

/-- The written form: powers of ten only for very large and very small numbers. -/
def chars (d : Decimal) : List Char :=
  -- Sixteen places before the point and five behind it are still written out.
  let written :=
    if -5 < d.point ∧ d.point ≤ 16 then positional d.figures d.point
    else scientific d.figures d.point
  if d.negative then '-' :: written else written

end Decimal

end EventBus
