import LedgerWire.Bytes
import LedgerWire.Curve.Field

/-!
# Points of the curve

The twisted Edwards curve −x² + y² = 1 + d·x²·y² has a group law without exceptions. A point is
kept with a common denominator, and written as the 32 bytes of its y coordinate with the parity of
x in the highest bit.
-/

namespace LedgerWire

open LedgerWire.Field

/-- A point with x = X/Z, y = Y/Z and x·y = T/Z. -/
structure Point where
  X : Nat
  Y : Nat
  Z : Nat
  T : Nat

namespace Point

/-- The constant d of the curve, −121665/121666. -/
def d : Nat := 0x52036CEE2B6FFE738CC740797779E89800700A4D4141D8AB75EB4DCA135978A3

/-- The neutral element. -/
def zero : Point := ⟨0, 1, 1, 0⟩

/-- The point with the given coordinates. -/
def ofCoordinates (x y : Nat) : Point := ⟨x, y, 1, mul x y⟩

/-- The point that generates the group in which signatures live. Its y coordinate is 4/5. -/
def base : Point :=
  ofCoordinates 0x216936D3CD6E53FEC0A4E231FDD6DC5C692CC7609525A7B2C9562D608F25D51A
    0x6666666666666666666666666666666666666666666666666666666666666658

/-- The sum of two points, which may be equal. -/
def add (P Q : Point) : Point :=
  let a := mul (sub P.Y P.X) (sub Q.Y Q.X)
  let b := mul (Field.add P.Y P.X) (Field.add Q.Y Q.X)
  let c := mul (mul P.T Q.T) (Field.add d d)
  let e := mul (Field.add P.Z P.Z) Q.Z
  let f := sub b a
  let g := sub e c
  let h := Field.add e c
  let k := Field.add b a
  ⟨mul f g, mul h k, mul g h, mul f k⟩

/-- The point that gives the neutral element when added. -/
def neg (P : Point) : Point := ⟨Field.neg P.X, P.Y, P.Z, Field.neg P.T⟩

/-- A multiple of a point, by doubling along the binary digits of the factor. -/
def smul (factor : Nat) (P : Point) : Point :=
  (Radix.digits 2 factor).foldl
    (fun multiple bit =>
      if bit = 1 then (multiple.add multiple).add P else multiple.add multiple) zero

/-- The 32 bytes of a point. -/
def compress (P : Point) : Block 32 :=
  let scale := inv P.Z
  let x := mul P.X scale
  let y := mul P.Y scale
  ⟨Bytes.littleEndian 32 (x % 2 * 2 ^ 255 + y), Bytes.length_littleEndian ..⟩

/-- The point with the given bytes, if there is one. The y coordinate may be written with a
number past the modulus, and the parity of a zero x is not looked at. -/
def decompress (block : Block 32) : Option Point :=
  let number := Bytes.ofLittleEndian block.bytes
  let y := number % 2 ^ 255 % modulus
  let y2 := mul y y
  (sqrtRatio (sub y2 1) (Field.add (mul d y2) 1)).map fun root =>
    ofCoordinates (if number < 2 ^ 255 then root else Field.neg root) y

end Point

end LedgerWire
