import EventBus.Json.Decimal

/-!
A number in a document stands for the double that is nearest to it, and is known by the shortest
decimal number that stands for the same double.
-/

namespace EventBus

/-- A fraction that is not negative. -/
structure Fraction where
  num : Nat
  den : Nat

namespace Fraction

/-- A fraction times a power. -/
def scale (value : Fraction) (base : Nat) (exponent : Int) : Fraction :=
  ⟨value.num * base.pow exponent.toNat, value.den * base.pow (-exponent).toNat⟩

/-- Digits times a power of ten. -/
def ofDigits (digits : Nat) (exponent : Int) : Fraction := (Fraction.mk digits 1).scale 10 exponent

/-- The nearest whole number; a half goes to the even one. -/
def round (value : Fraction) : Nat :=
  let below := value.num / value.den
  let twice := 2 * (value.num % value.den)
  if twice < value.den ∨ (twice = value.den ∧ below % 2 = 0) then below else below + 1

/-- The whole numbers around a fraction, the nearer of them first. -/
def neighbours (value : Fraction) : List Nat :=
  let below := value.num / value.den
  if value.round = below then [below, below + 1] else [below + 1, below]

/-- The exponent of the largest power of two that a positive fraction reaches. -/
def log2 (value : Fraction) : Int :=
  -- The logarithms of both parts leave two candidates.
  let upper : Int := (value.num.log2 : Int) - value.den.log2
  let rest := value.scale 2 (-upper)
  if rest.den ≤ rest.num then upper else upper - 1

end Fraction

/-- The number `mantissa * 2 ^ exponent` with a mantissa of at most 53 bits. -/
structure Double where
  mantissa : Nat
  exponent : Int
  deriving DecidableEq, Repr

namespace Double

/-- The exponent of the smallest double above zero. -/
def leastExponent : Int := -1074

/-- The exponent of the largest doubles. -/
def greatestExponent : Int := 971

/-- The double that is nearest to a positive number, unless that is too large for one. -/
def nearest? (value : Fraction) : Option Double :=
  -- The mantissa has all its bits, save for numbers that are too small for that.
  let exponent := max leastExponent (value.log2 - 52)
  let mantissa := (value.scale 2 (-exponent)).round
  -- Rounding up may add a bit to the mantissa, which then is a power of two.
  let double : Double :=
    if mantissa < 0x20000000000000 then ⟨mantissa, exponent⟩ else ⟨0x10000000000000, exponent + 1⟩
  if double.exponent ≤ greatestExponent then some double else none

/-- The number that a double is. -/
def value (double : Double) : Fraction := (Fraction.mk double.mantissa 1).scale 2 double.exponent

/--
The digits and the exponent of the shortest decimal number that stands for a double, sought from the
power of ten at which the point of a number nearby stands.
-/
def shortestDigits? (double : Double) (point : Int) : Option (Nat × Int) :=
  -- Seventeen digits tell all doubles apart, so the search ends there.
  (List.range 18).findSome? fun (places : Nat) =>
    let exponent := point - places
    let candidates := (double.value.scale 10 (-exponent)).neighbours
    -- Of two numbers with as many digits the one nearer to the double is taken.
    let found := candidates.find? fun digits =>
      digits ≠ 0 && nearest? (.ofDigits digits exponent) = some double
    found.map (·, exponent)

end Double

namespace Decimal

/-- The shortest number that stands for the same double, unless it is too large for one. -/
def shortest? (d : Decimal) : Option Decimal :=
  if d.digits = 0 then some d
  -- Far beyond the largest and the smallest double nothing needs to be computed.
  else if 309 < d.point then none
  else if d.point < -323 then some (ofDigits d.negative 0 0)
  else
    (Double.nearest? (.ofDigits d.digits d.exponent)).map fun double =>
      -- A number may be so small that zero is the nearest double.
      if double.mantissa = 0 then ofDigits d.negative 0 0
      else (double.shortestDigits? d.point).elim d fun (digits, exponent) =>
        ofDigits d.negative digits exponent

end Decimal

end EventBus
