/-!
# Binary floating-point numbers

The finite numbers of the 64-bit binary format, each kept as its sign and the
exact value of its magnitude.  `nearest` rounds a quotient to the closest
number of the format, and products and quotients are the rounded exact ones.
All of it is integer arithmetic.
-/

namespace SchemaOverlay

/--
The one way in which the format writes a magnitude: 53 binary digits with the
first of them set, or fewer digits at the lowest exponent.
-/
def Binary64.Canonical (significand : Nat) (exponent : Int) : Prop :=
  significand < Nat.pow 2 53 ∧ -1074 ≤ exponent ∧ exponent ≤ 971 ∧
    (Nat.pow 2 52 ≤ significand ∨ exponent = -1074)

instance (significand : Nat) (exponent : Int) :
    Decidable (Binary64.Canonical significand exponent) :=
  inferInstanceAs (Decidable (_ ∧ _))

/-- The number `significand * 2 ^ exponent`, finite and not negative. -/
structure Magnitude where
  significand : Nat
  exponent : Int
  canonical : Binary64.Canonical significand exponent
  deriving DecidableEq

/-- A finite number of the format; zero has two signs. -/
structure Binary64 where
  negative : Bool
  magnitude : Magnitude
  deriving DecidableEq

namespace Magnitude

def zero : Magnitude := ⟨0, -1074, by decide⟩

def isZero (x : Magnitude) : Bool := x.significand == 0

/-- The whole number closest to a quotient, a half going to the even neighbour. -/
def roundHalfEven (numerator denominator : Nat) : Nat :=
  let below := numerator / denominator
  let rest := numerator % denominator
  if 2 * rest < denominator then below
  else if 2 * rest = denominator ∧ below % 2 = 0 then below
  else below + 1

/-- The quotient in units of `2 ^ exponent`, as a numerator and a denominator. -/
def inUnits (numerator denominator : Nat) (exponent : Int) : Nat × Nat :=
  if exponent < 0 then (numerator * Nat.pow 2 (-exponent).toNat, denominator)
  else (numerator, denominator * Nat.pow 2 exponent.toNat)

/-- The exponent at which a quotient has 53 binary digits, or the lowest one there is. -/
def exponentFor (numerator denominator : Nat) : Int :=
  let guess : Int := numerator.log2 - denominator.log2 - 53
  let units := inUnits numerator denominator guess
  max (-1074) (if units.1 / units.2 < Nat.pow 2 53 then guess else guess + 1)

/-- The number closest to a quotient, a tie going to the even one; none beyond the range. -/
def nearest (numerator denominator : Nat) : Option Magnitude :=
  if numerator = 0 then some zero
  else
    let exponent := exponentFor numerator denominator
    let units := inUnits numerator denominator exponent
    let rounded := roundHalfEven units.1 units.2
    let carried : Nat × Int :=
      if rounded = Nat.pow 2 53 then (Nat.pow 2 52, exponent + 1) else (rounded, exponent)
    if canonical : Binary64.Canonical carried.1 carried.2 then
      some ⟨carried.1, carried.2, canonical⟩
    else none

def toQuotient (x : Magnitude) : Nat × Nat :=
  if x.exponent < 0 then (x.significand, Nat.pow 2 (-x.exponent).toNat)
  else (x.significand * Nat.pow 2 x.exponent.toNat, 1)

/-- The rounded product; none beyond the range. -/
def mul (x y : Magnitude) : Option Magnitude :=
  nearest (x.toQuotient.1 * y.toQuotient.1) (x.toQuotient.2 * y.toQuotient.2)

/-- The rounded quotient by a number other than zero; none beyond the range. -/
def div (x y : Magnitude) : Option Magnitude :=
  nearest (x.toQuotient.1 * y.toQuotient.2) (x.toQuotient.2 * y.toQuotient.1)

/-- The number closest to a whole number; none beyond the range. -/
def ofNat (n : Nat) : Option Magnitude :=
  nearest n 1

end Magnitude

end SchemaOverlay
