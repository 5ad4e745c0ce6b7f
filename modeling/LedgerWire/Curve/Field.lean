import LedgerWire.Text.Radix

/-!
# The field of the curve

Elements of the field with 2²⁵⁵ − 19 elements are natural numbers below the modulus.
-/

namespace LedgerWire.Field

/-- The number of elements, a prime. -/
def modulus : Nat := 2 ^ 255 - 19

/-- The sum of two elements. -/
def add (x y : Nat) : Nat := (x + y) % modulus

/-- The difference of two elements. -/
def sub (x y : Nat) : Nat := (x + (modulus - y % modulus)) % modulus

/-- The product of two elements. -/
def mul (x y : Nat) : Nat := x * y % modulus

/-- The element that gives zero when added. -/
def neg (x : Nat) : Nat := sub 0 x

/-- A power of an element, by squaring along the binary digits of the exponent. -/
def pow (x exponent : Nat) : Nat :=
  (Radix.digits 2 exponent).foldl
    (fun power bit => if bit = 1 then mul (mul power power) x else mul power power) 1

/-- The element that gives one when multiplied; zero for zero. -/
def inv (x : Nat) : Nat := pow x (modulus - 2)

/-- A square root of minus one. -/
def rootOfMinusOne : Nat :=
  0x2B8324804FC1DF0B2B4D00993DFBD7A72F431806AD2FE478C4EE1B274A0EA0B0

/-- The even square root of `u / v`, when there is one. -/
def sqrtRatio (u v : Nat) : Option Nat :=
  let v3 := mul (mul v v) v
  let v7 := mul (mul v3 v3) v
  let candidate := mul (mul u v3) (pow (mul u v7) ((modulus - 5) / 8))
  let check := mul v (mul candidate candidate)
  let root :=
    if check = u then some candidate
    else if check = neg u then some (mul candidate rootOfMinusOne)
    else none
  root.map fun root => if root % 2 = 0 then root else neg root

end LedgerWire.Field
