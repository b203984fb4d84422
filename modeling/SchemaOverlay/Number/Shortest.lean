import SchemaOverlay.Number.Binary64

/-!
# Shortest decimal digits

The decimal digits under which a binary number is written: as few as still
single the number out, and of those the closest to it.  A decimal singles a
number out when it lies in the interval of values that round to the number.
The search runs over decimal grids, the coarsest one first.
-/

namespace SchemaOverlay

/-- The decimal `digits * 10 ^ exponent`. -/
structure Decimal where
  digits : Nat
  exponent : Int
  deriving DecidableEq, Repr

namespace Magnitude

/--
The values that round to a number other than zero, in quarters of a unit of its
last binary digit.  Just above a power of two the lower half-gap is only half as
wide.  The ends belong to the interval exactly for an even significand.
-/
structure Basin where
  /-- The lower end, in quarter units. -/
  lower : Nat
  /-- The number itself, in quarter units. -/
  centre : Nat
  /-- The upper end, in quarter units. -/
  upper : Nat
  /-- Whether the ends belong to the interval. -/
  closed : Bool

/-- The values that round to the number. -/
def basin (x : Magnitude) : Basin where
  lower :=
    4 * x.significand - (if x.significand = Nat.pow 2 52 ∧ -1074 < x.exponent then 1 else 2)
  centre := 4 * x.significand
  upper := 4 * x.significand + 2
  closed := x.significand % 2 == 0

/-- Whether the point, in quarter units times a common scale, lies in the interval. -/
def Basin.holds (basin : Basin) (scale point : Nat) : Bool :=
  if basin.closed then basin.lower * scale ≤ point && point ≤ basin.upper * scale
  else basin.lower * scale < point && point < basin.upper * scale

/--
Scales that turn quarter units of `2 ^ binary` and steps of `10 ^ decimal` into
whole multiples of one unit: the factor of the first and that of the second.
-/
def commonScale (binary decimal : Int) : Nat × Nat :=
  let quarter := binary - 2
  let units : Nat × Nat :=
    if quarter < 0 then (1, Nat.pow 2 (-quarter).toNat) else (Nat.pow 2 quarter.toNat, 1)
  let steps : Nat × Nat :=
    if decimal < 0 then (1, Nat.pow 10 (-decimal).toNat) else (Nat.pow 10 decimal.toNat, 1)
  (units.1 * steps.2, steps.1 * units.2)

/-- The closest point of the grid `10 ^ exponent` that singles the number out, if one does. -/
def onGrid? (x : Magnitude) (exponent : Int) : Option Decimal :=
  let basin := x.basin
  let scale := commonScale x.exponent exponent
  let centre := basin.centre * scale.1
  let below := centre / scale.2
  let above := below + 1
  let belowHit := basin.holds scale.1 (below * scale.2)
  let aboveHit := basin.holds scale.1 (above * scale.2)
  let belowGap := centre - below * scale.2
  let aboveGap := above * scale.2 - centre
  if belowHit && (!aboveHit || belowGap < aboveGap || (belowGap == aboveGap && below % 2 == 0)) then
    some ⟨below, exponent⟩
  else if aboveHit then some ⟨above, exponent⟩
  else none

/-- A decimal exponent that no digit of the number lies above. -/
def topExponent (x : Magnitude) : Int :=
  ((x.significand.log2 : Int) + 1 + x.exponent) * 30103 / 100000 + 1

/-- The shortest decimal that singles the number out, the closest of those. -/
def shortest (x : Magnitude) : Decimal :=
  if x.isZero then ⟨0, 0⟩
  else
    ((List.range 22).findSome? fun step : Nat => x.onGrid? (x.topExponent - step)).getD ⟨0, 0⟩

end Magnitude

end SchemaOverlay
