import SchemaOverlay.Number.Binary64

/-!
# Number literals

The grammar of a decimal number literal — a sign, a whole part without needless
zeros, a fraction, an exponent — and the binary number a literal stands for.
The digits are gathered into a significand of 64 bits and scaled once by a power
of ten.  The scaled value is the product or quotient of two rounded numbers, so
it may differ in the last binary digit from the closest one.
-/

namespace SchemaOverlay

/-- The parts of a number literal; digits are listed from the left. -/
structure NumberLiteral where
  negative : Bool
  whole : List Nat
  /-- The digits behind the point, where there is one. -/
  fraction : Option (List Nat)
  /-- The power of ten, where one is given. -/
  exponent : Option Int
  deriving DecidableEq, Repr

namespace NumberLiteral

def digit? (c : Char) : Option Nat :=
  if '0' ≤ c ∧ c ≤ '9' then some (c.toNat - 48) else none

/-- The digits at the front of a text and the text behind them. -/
def takeDigits : List Char → List Nat × List Char
  | [] => ([], [])
  | c :: cs =>
    match digit? c with
    | none => ([], c :: cs)
    | some d => (d :: (takeDigits cs).1, (takeDigits cs).2)

/-- The number that a row of digits spells. -/
def ofDigits (digits : List Nat) : Nat :=
  digits.foldl (fun value d => 10 * value + d) 0

/-- The digits of an exponent, up to the end of the text. -/
def exponentDigits? (cs : List Char) : Option Nat :=
  match takeDigits cs with
  | ([], _) => none
  | (digits, []) => some (ofDigits digits)
  | _ => none

/-- The exponent that ends a literal: nothing at all, or a letter, a sign and digits. -/
def exponent? : List Char → Option (Option Int)
  | [] => some none
  | mark :: cs =>
    if mark = 'e' ∨ mark = 'E' then
      match cs with
      | '-' :: cs => (exponentDigits? cs).map fun n => some (-(n : Int))
      | '+' :: cs => (exponentDigits? cs).map fun n => some (n : Int)
      | cs => (exponentDigits? cs).map fun n => some (n : Int)
    else none

def unsigned? (negative : Bool) (cs : List Char) : Option NumberLiteral :=
  match takeDigits cs with
  | ([], _) => none
  | (0 :: _ :: _, _) => none
  | (whole, '.' :: cs) =>
    match takeDigits cs with
    | ([], _) => none
    | (fraction, cs) => (exponent? cs).map fun e => ⟨negative, whole, some fraction, e⟩
  | (whole, cs) => (exponent? cs).map fun e => ⟨negative, whole, none, e⟩

/-- The literal that a text spells from end to end. -/
def ofChars? : List Char → Option NumberLiteral
  | '-' :: cs => unsigned? true cs
  | cs => unsigned? false cs

/-- Whether the literal has neither a fraction nor an exponent. -/
def isWhole (literal : NumberLiteral) : Bool :=
  literal.fraction.isNone && literal.exponent.isNone

def wholeValue (literal : NumberLiteral) : Int :=
  if literal.negative then -(ofDigits literal.whole : Int) else ofDigits literal.whole

/--
Append digits to a significand as long as it stays below `2 ^ 64`.  The result
holds the significand and the digits that were left out.
-/
def gather (significand : Nat) : List Nat → Nat × List Nat
  | [] => (significand, [])
  | d :: digits =>
    if 10 * significand + d < Nat.pow 2 64 then gather (10 * significand + d) digits
    else (significand, d :: digits)

/-- The significand of a literal and the power of ten it is scaled by. -/
def scaled (literal : NumberLiteral) : Nat × Int :=
  let whole := gather 0 literal.whole
  let fraction := literal.fraction.getD []
  let all := gather whole.1 fraction
  let taken := fraction.length - all.2.length
  (all.1, literal.exponent.getD 0 + whole.2.length - taken)

/-- A power of ten within the range of the format, rounded. -/
def powerOfTen (exponent : Nat) : Option Magnitude :=
  Magnitude.ofNat (Nat.pow 10 exponent)

/-- The number times a power of ten; none beyond the range. -/
def scale (x : Magnitude) (exponent : Int) : Option Magnitude :=
  if exponent.natAbs ≤ 308 then do
    let power ← powerOfTen exponent.natAbs
    if 0 ≤ exponent then x.mul power else x.div power
  else if x.isZero then some x
  else if 0 ≤ exponent then none
  else do
    let power ← powerOfTen 308
    let smaller ← x.div power
    scale smaller (exponent + 308)
termination_by exponent.natAbs
decreasing_by omega

/-- The binary number of the literal; none when it is out of range. -/
def toBinary64? (literal : NumberLiteral) : Option Binary64 := do
  let parts := literal.scaled
  let significand ← Magnitude.ofNat parts.1
  let magnitude ← scale significand parts.2
  some ⟨literal.negative, magnitude⟩

end NumberLiteral

end SchemaOverlay
