import LedgerWire.Text.Decimal
import LedgerWire.Text.Radix

/-!
# Binary floating point in JSON

A number with a fraction or an exponent is held as the 64 bits of a finite double. Rounding is
exact integer arithmetic: `nearest` gives the double closest to a fraction, ties going to the
even significand, and `shortest` gives the fewest decimal digits that read back as the same
double.
-/

namespace LedgerWire

/-- The bits of a finite double: a sign bit, eleven exponent bits below all ones, and 52 bits
of significand. -/
structure Double where
  bits : UInt64
  deriving DecidableEq

namespace Double

/-- Whether the sign bit is set. -/
def isNegative (x : Double) : Bool := 2 ^ 63 ≤ x.bits.toNat

/-- The biased exponent. -/
def exponentField (x : Double) : Nat := x.bits.toNat / 2 ^ 52 % 2 ^ 11

/-- The bits of the significand after the leading one. -/
def fractionField (x : Double) : Nat := x.bits.toNat % 2 ^ 52

/-- The significand as an integer, with the leading one of a normal number. -/
def significand (x : Double) : Nat :=
  if x.exponentField = 0 then x.fractionField else 2 ^ 52 + x.fractionField

/-- The power of two that scales the significand, plus 1074. -/
def scale (x : Double) : Nat := if x.exponentField = 0 then 0 else x.exponentField - 1

/-- Whether the number is a zero of either sign. -/
def isZero (x : Double) : Bool := x.significand == 0

/-- The double with a given sign, significand below 2⁵³ and scale. -/
def ofParts (negative : Bool) (significand scale : Nat) : Double :=
  let magnitude :=
    if significand < 2 ^ 52 then significand
    else (scale + 1) * 2 ^ 52 + (significand - 2 ^ 52)
  ⟨UInt64.ofNat ((if negative then 2 ^ 63 else 0) + magnitude)⟩

/-- The number with its sign turned. -/
def negate (x : Double) : Double := ofParts (!x.isNegative) x.significand x.scale

/-- The fraction rounded to the nearest integer, a tie going to the even one. -/
def roundQuotient (numerator denominator : Nat) : Nat :=
  let quotient := numerator / denominator
  let twice := 2 * (numerator % denominator)
  if twice < denominator ∨ (twice = denominator ∧ quotient % 2 = 0) then quotient
  else quotient + 1

/-- A fraction, with a denominator that is not zero. -/
structure Fraction where
  numerator : Nat
  denominator : Nat

/-- The fraction `numerator / denominator · 2¹⁰⁷⁴ / 2^scale`, in which a double of that scale
has an integer significand. -/
def Fraction.scaled (x : Fraction) (scale : Nat) : Fraction :=
  if scale ≤ 1074 then ⟨x.numerator * 2 ^ (1074 - scale), x.denominator⟩
  else ⟨x.numerator, x.denominator * 2 ^ (scale - 1074)⟩

/-- The scale at which the significand has 53 bits, or the lowest one. -/
def Fraction.scale (x : Fraction) : Nat :=
  let guess := x.numerator.log2 + 1074 - x.denominator.log2 - 53
  let above := x.scaled (guess + 1)
  if above.numerator < above.denominator * 2 ^ 52 then guess else guess + 1

/-- The double nearest to a fraction, ties going to the even significand. Nothing when the
result would be past the largest finite double. -/
def nearest (x : Fraction) : Option Double :=
  let scale := x.scale
  let scaled := x.scaled scale
  let significand := roundQuotient scaled.numerator scaled.denominator
  let carried := if significand = 2 ^ 53 then (2 ^ 52, scale + 1) else (significand, scale)
  if carried.2 ≤ 2045 then some (ofParts false carried.1 carried.2) else none

/-- The magnitude as a fraction. -/
def magnitude (x : Double) : Fraction :=
  if x.scale ≤ 1074 then ⟨x.significand, 2 ^ (1074 - x.scale)⟩
  else ⟨x.significand * 2 ^ (x.scale - 1074), 1⟩

/-- The product of two magnitudes, rounded. -/
def times? (x y : Double) : Option Double :=
  let a := x.magnitude
  let b := y.magnitude
  nearest ⟨a.numerator * b.numerator, a.denominator * b.denominator⟩

/-- The quotient of two magnitudes, rounded. The divisor is not zero. -/
def over? (x y : Double) : Option Double :=
  let a := x.magnitude
  let b := y.magnitude
  nearest ⟨a.numerator * b.denominator, a.denominator * b.numerator⟩

/-- The double nearest to a natural number. -/
def ofNat? (number : Nat) : Option Double := nearest ⟨number, 1⟩

/-- Divides by powers of ten of at most 308 until the exponent is used up. Small results become
zero. The bound is on the number of divisions. -/
def divideByPowersOfTen : Nat → Double → Nat → Option Double
  | 0, x, _ => some x
  | bound + 1, x, exponent =>
    if exponent ≤ 308 then (ofNat? (10 ^ exponent)).bind x.over?
    else if x.isZero then some x
    else do
      let quotient ← x.over? (← ofNat? (10 ^ 308))
      divideByPowersOfTen bound quotient (exponent - 308)

/-- The value of `significand · 10^exponent`, found in two roundings: one of the significand and
one of its product or quotient with a rounded power of ten. Nothing when it is out of range. -/
def ofDecimal? (significand : Nat) (exponent : Int) : Option Double := do
  let x ← ofNat? significand
  if 0 ≤ exponent then
    if exponent ≤ 308 then x.times? (← ofNat? (10 ^ exponent.toNat))
    else if x.isZero then some x
    else none
  else divideByPowersOfTen 4 x (-exponent).toNat

/-- A positive decimal: the digits as one number, and the power of ten that scales it. -/
structure Scientific where
  digits : Nat
  exponent : Int

/-- The fraction that a decimal stands for. -/
def Scientific.fraction (x : Scientific) : Fraction :=
  if 0 ≤ x.exponent then ⟨x.digits * 10 ^ x.exponent.toNat, 1⟩
  else ⟨x.digits, 10 ^ (-x.exponent).toNat⟩

/-- The exponent of the first decimal digit of a positive fraction. -/
def Fraction.decimalExponent (x : Fraction) : Int :=
  let guess : Int := ((x.numerator.log2 : Int) - (x.denominator.log2 : Int)) * 30103 / 100000
  let reaches (e : Int) : Bool :=
    if 0 ≤ e then x.denominator * 10 ^ e.toNat ≤ x.numerator
    else x.denominator ≤ x.numerator * 10 ^ (-e).toNat
  if reaches (guess + 1) then guess + 1 else if reaches guess then guess else guess - 1

/-- The two decimals of `count` digits on either side of a fraction whose first digit has the
given exponent, the nearer one in front. -/
def Fraction.neighbours (x : Fraction) (first : Int) (count : Nat) : Scientific × Scientific :=
  let exponent := first - count + 1
  let numerator := if 0 ≤ exponent then x.numerator else x.numerator * 10 ^ (-exponent).toNat
  let denominator := if 0 ≤ exponent then x.denominator * 10 ^ exponent.toNat else x.denominator
  let below := numerator / denominator
  let near := roundQuotient numerator denominator
  let far := if near = below then below + 1 else below
  (⟨near, exponent⟩, ⟨far, exponent⟩)

/-- Whether a decimal reads back as the magnitude of `x`. -/
def readsBack (x : Double) (decimal : Scientific) : Bool :=
  nearest decimal.fraction = some (ofParts false x.significand x.scale)

/-- Tries ever more digits until one of the two neighbours reads back as `x`. Seventeen digits
always do, so the bound is never reached from one digit on. -/
def shortestFrom (x : Double) (first : Int) : Nat → Nat → Scientific
  | 0, count => (x.magnitude.neighbours first count).1
  | bound + 1, count =>
    let sides := x.magnitude.neighbours first count
    if x.readsBack sides.1 then sides.1
    else if x.readsBack sides.2 then sides.2
    else shortestFrom x first bound (count + 1)

/-- The fewest digits that read back as the magnitude of `x`, nearest to it among those. -/
def shortest (x : Double) : Scientific :=
  shortestFrom x x.magnitude.decimalExponent 17 1

/-- Drops trailing zeros of a decimal. The bound is on how many. -/
def Scientific.trimmed : Nat → Scientific → Scientific
  | 0, x => x
  | bound + 1, x =>
    if x.digits ≠ 0 ∧ x.digits % 10 = 0 then trimmed bound ⟨x.digits / 10, x.exponent + 1⟩ else x

/-- Zeros in a row. -/
def zeros (count : Nat) : List Char := List.replicate count '0'

/-- The text of a positive decimal. It is positional while the first digit stands for 10⁻⁵ up
to 10¹⁵, and then it always has a point; otherwise one digit stands before the point and the
exponent carries its sign. -/
def Scientific.text (x : Scientific) : List Char :=
  let digits := Decimal.chars x.digits
  let point : Int := digits.length + x.exponent
  if 0 ≤ x.exponent ∧ point ≤ 16 then digits ++ zeros x.exponent.toNat ++ ['.', '0']
  else if 0 < point ∧ point ≤ 16 then
    digits.take point.toNat ++ '.' :: digits.drop point.toNat
  else if -5 < point ∧ point ≤ 0 then '0' :: '.' :: zeros (-point).toNat ++ digits
  else
    let lead := match digits with
      | [digit] => [digit]
      | digit :: rest => digit :: '.' :: rest
      | [] => []
    let sign := if 0 < point then '+' else '-'
    lead ++ 'e' :: sign :: Decimal.chars (point - 1).natAbs

/-- The text of a double, with the fewest digits that read back as it. -/
def write (x : Double) : String :=
  let body := if x.isZero then ['0', '.', '0'] else (x.shortest.trimmed 20).text
  String.ofList (if x.isNegative then '-' :: body else body)

end Double

end LedgerWire
