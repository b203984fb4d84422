import SchemaOverlay.Number.Literal
import SchemaOverlay.Number.Shortest

/-!
# Numbers

A number is an integer of 64 bits, signed or unsigned, or a binary
floating-point number; `1` and `1.0` are different numbers.  The text of an
integer is its decimal digits.  The text of a floating-point number has the
shortest digits and always a point or an exponent, so that the two kinds stay
apart on paper.
-/

namespace SchemaOverlay

/-- An integer or a floating-point number. -/
inductive Number where
  | integer (value : Int)
  | float (value : Binary64)
  deriving DecidableEq

namespace Number

/-- The integers that fit a signed or an unsigned word of 64 bits. -/
def fitsWord (value : Int) : Bool :=
  -(Int.pow 2 63) ≤ value && value < Int.pow 2 64

/--
The number of a literal.  Whole literals that fit a word are integers, except
the negative zero; every other literal is a floating-point number.
-/
def ofLiteral? (literal : NumberLiteral) : Option Number :=
  if literal.isWhole && fitsWord literal.wholeValue
      && !(literal.negative && literal.wholeValue == 0) then
    some (.integer literal.wholeValue)
  else literal.toBinary64?.map .float

/-- The number that a text spells from end to end. -/
def ofChars? (cs : List Char) : Option Number :=
  (NumberLiteral.ofChars? cs).bind ofLiteral?

def natDigits (n : Nat) : List Char := Nat.toDigits 10 n

def integerText (value : Int) : List Char :=
  if value < 0 then '-' :: natDigits value.natAbs else natDigits value.natAbs

/-- How floating-point numbers are laid out. -/
structure FloatLayout where
  /-- The least power of ten of the first digit that is written positionally. -/
  least : Int
  /-- The first power of ten of the first digit that is no longer written positionally. -/
  bound : Int

/-- Positional from `0.00001` up to, and without, `10 ^ 16`. -/
def floatLayout : FloatLayout := ⟨-5, 16⟩

/-- Digits with a point behind the first `before` of them, filled up with zeros on either side. -/
def positional (digits : List Char) (before : Int) : List Char :=
  if before ≤ 0 then '0' :: '.' :: (List.replicate (-before).toNat '0' ++ digits)
  else if digits.length ≤ before.toNat then
    digits ++ List.replicate (before.toNat - digits.length) '0' ++ ['.', '0']
  else digits.take before.toNat ++ '.' :: digits.drop before.toNat

/-- One digit before the point and a signed power of ten. -/
def scientific (digits : List Char) (power : Int) : List Char :=
  let mantissa :=
    match digits with
    | [] => []
    | [d] => [d]
    | d :: rest => d :: '.' :: rest
  mantissa ++ 'e' :: (if power < 0 then '-' else '+') :: natDigits power.natAbs

def magnitudeText (x : Magnitude) : List Char :=
  if x.isZero then ['0', '.', '0']
  else
    let decimal := x.shortest
    let digits := natDigits decimal.digits
    let power := decimal.exponent + digits.length - 1
    if floatLayout.least ≤ power ∧ power < floatLayout.bound then positional digits (power + 1)
    else scientific digits power

def floatText (x : Binary64) : List Char :=
  if x.negative then '-' :: magnitudeText x.magnitude else magnitudeText x.magnitude

def text : Number → List Char
  | .integer value => integerText value
  | .float value => floatText value

end Number

end SchemaOverlay
