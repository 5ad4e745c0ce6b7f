import LedgerWire.Curve.Point
import LedgerWire.Proofs.Curve.Edwards
import LedgerWire.Proofs.Curve.Field

/-!
# Points with a common denominator

The points that are computed with stand for points of the curve, and the operations on them for
those of its group. The bytes of a point depend on the point of the curve alone, and give it back.
-/

namespace LedgerWire

open LedgerWire.Field (Element modulus)

namespace Point

/-- The constant of the curve as an element. -/
def dElement : Element := d

/-- The constant of the curve is the one of its equation. -/
@[simp] theorem cast_d : (d : Element) = dElement := rfl

/-- The constant of the curve is no square, so the addition has no exceptions. -/
theorem dElement_not_isSquare : ¬IsSquare dElement := by
  have hpower : Field.pow d (modulus / 2) = Field.neg 1 := by decide +kernel
  have hcast := congrArg (Nat.cast : Nat → Element) hpower
  rw [Field.cast_pow, Field.cast_neg, Nat.cast_one, cast_d] at hcast
  intro hsquare
  have hne : dElement ≠ 0 := by
    intro hzero
    rw [hzero, zero_pow (by decide)] at hcast
    exact one_ne_zero (neg_eq_zero.mp hcast.symm)
  rw [ZMod.euler_criterion modulus hne, hcast] at hsquare
  refine Field.two_ne_zero ?_
  linear_combination -hsquare

instance : CompleteEdwards dElement where
  two_ne_zero := Field.two_ne_zero
  isSquare_neg_one := ⟨Field.rootOfMinusOne, by rw [← sq, Field.cast_rootOfMinusOne_sq]⟩
  not_isSquare := dElement_not_isSquare

/-- A point with a common denominator stands for a point of the curve. -/
structure Represents (P : Point) (A : AffinePoint dElement) : Prop where
  Z_ne_zero : (P.Z : Element) ≠ 0
  X_eq : (P.X : Element) = A.x * P.Z
  Y_eq : (P.Y : Element) = A.y * P.Z
  T_eq : (P.T : Element) = A.x * A.y * P.Z

/-- The neutral coordinates stand for the neutral point. -/
theorem represents_zero : zero.Represents 0 where
  Z_ne_zero := by simp [zero]
  X_eq := by simp [zero]
  Y_eq := by simp [zero]
  T_eq := by simp [zero]

/-- Coordinates with denominator one stand for the point that they give. -/
theorem represents_ofCoordinates {x y : Nat} {A : AffinePoint dElement}
    (hx : (x : Element) = A.x) (hy : (y : Element) = A.y) : (ofCoordinates x y).Represents A where
  Z_ne_zero := by simp [ofCoordinates]
  X_eq := by simp [ofCoordinates, hx]
  Y_eq := by simp [ofCoordinates, hy]
  T_eq := by simp [ofCoordinates, hx, hy]

namespace Represents

variable {P Q : Point} {A B : AffinePoint dElement}

/-- The negative coordinates stand for the negative point. -/
theorem neg (h : P.Represents A) : P.neg.Represents (-A) where
  Z_ne_zero := h.Z_ne_zero
  X_eq := by
    rw [Point.neg, Field.cast_neg, h.X_eq, AffinePoint.neg_x]
    ring
  Y_eq := h.Y_eq
  T_eq := by
    rw [Point.neg, Field.cast_neg, h.T_eq, AffinePoint.neg_x, AffinePoint.neg_y]
    ring

/-- The sum of coordinates stands for the sum of the points. -/
theorem add (hP : P.Represents A) (hQ : Q.Represents B) : (P.add Q).Represents (A + B) := by
  have hx := AffinePoint.add_x A B
  have hy := AffinePoint.add_y A B
  have hup := AffinePoint.one_add_excess_ne_zero A B
  have hdown := AffinePoint.one_sub_excess_ne_zero A B
  have hX : ((P.add Q).X : Element) =
      (2 * P.Z * Q.Z) ^ 2 * (A.numeratorX B * (1 - A.excess B)) := by
    simp only [Point.add, Field.cast_mul, Field.cast_add, Field.cast_sub, cast_d, hP.X_eq, hP.Y_eq,
      hP.T_eq, hQ.X_eq, hQ.Y_eq, hQ.T_eq, AffinePoint.numeratorX, AffinePoint.excess]
    ring
  have hY : ((P.add Q).Y : Element) =
      (2 * P.Z * Q.Z) ^ 2 * (A.numeratorY B * (1 + A.excess B)) := by
    simp only [Point.add, Field.cast_mul, Field.cast_add, Field.cast_sub, cast_d, hP.X_eq, hP.Y_eq,
      hP.T_eq, hQ.X_eq, hQ.Y_eq, hQ.T_eq, AffinePoint.numeratorY, AffinePoint.excess]
    ring
  have hZ : ((P.add Q).Z : Element) =
      (2 * P.Z * Q.Z) ^ 2 * ((1 + A.excess B) * (1 - A.excess B)) := by
    simp only [Point.add, Field.cast_mul, Field.cast_add, Field.cast_sub, cast_d, hP.T_eq, hQ.T_eq,
      AffinePoint.excess]
    ring
  have hT : ((P.add Q).T : Element) =
      (2 * P.Z * Q.Z) ^ 2 * (A.numeratorX B * A.numeratorY B) := by
    simp only [Point.add, Field.cast_mul, Field.cast_add, Field.cast_sub, hP.X_eq, hP.Y_eq,
      hQ.X_eq, hQ.Y_eq, AffinePoint.numeratorX, AffinePoint.numeratorY]
    ring
  refine ⟨?_, ?_, ?_, ?_⟩
  · rw [hZ]
    exact mul_ne_zero (pow_ne_zero 2 (mul_ne_zero (mul_ne_zero Field.two_ne_zero hP.Z_ne_zero)
      hQ.Z_ne_zero)) (mul_ne_zero hup hdown)
  · rw [hX, hZ, ← hx]
    ring
  · rw [hY, hZ, ← hy]
    ring
  · rw [hT, hZ, ← hx, ← hy]
    ring

/-- A multiple that is found by doubling is the multiple in the group. -/
theorem smul (factor : Nat) (h : P.Represents A) : (P.smul factor).Represents (factor • A) := by
  refine Radix.foldl_digits_two (fun n (multiple : Point) => multiple.Represents (n • A))
    (fun multiple => multiple.add multiple) (fun multiple => multiple.add P) ?_ ?_ ?_ factor
  · rw [zero_nsmul]
    exact represents_zero
  · intro n multiple hmultiple
    rw [two_mul, add_nsmul]
    exact hmultiple.add hmultiple
  · intro n multiple hmultiple
    rw [succ_nsmul]
    exact hmultiple.add h

end Represents

/-! ### Bytes -/

/-- The sign and the second coordinate of a point fit in 256 bits. -/
theorem block_lt (A : AffinePoint dElement) : A.x.val % 2 * 2 ^ 255 + A.y.val < 2 ^ 256 := by
  have hy : A.y.val < modulus := ZMod.val_lt A.y
  have hmodulus : modulus < 2 ^ 255 := by decide
  omega

/-- The bytes of a point of the curve: its y coordinate, with the parity of x in the highest
bit. -/
def block (A : AffinePoint dElement) : Block 32 :=
  ⟨Bytes.littleEndian 32 (A.x.val % 2 * 2 ^ 255 + A.y.val), Bytes.length_littleEndian ..⟩

/-- A common denominator does not show in the bytes. -/
theorem Represents.compress_eq {P : Point} {A : AffinePoint dElement} (h : P.Represents A) :
    P.compress = block A := by
  have hx : Field.mul P.X (Field.inv P.Z) = A.x.val := by
    refine Field.eq_val (Field.mul_lt _ _) ?_
    rw [Field.cast_mul, Field.cast_inv, h.X_eq, mul_inv_cancel_right₀ h.Z_ne_zero]
  have hy : Field.mul P.Y (Field.inv P.Z) = A.y.val := by
    refine Field.eq_val (Field.mul_lt _ _) ?_
    rw [Field.cast_mul, Field.cast_inv, h.Y_eq, mul_inv_cancel_right₀ h.Z_ne_zero]
  simp only [compress, block, hx, hy]

/-- The denominator of x² as a function of y is never zero, since d is no square and minus one
is. -/
theorem denominator_ne_zero (y : Nat) :
    ((Field.add (Field.mul d (Field.mul y y)) 1 : Nat) : Element) ≠ 0 := by
  simp only [Field.cast_add, Field.cast_mul, cast_d, Nat.cast_one]
  intro hzero
  have hsq : (Field.rootOfMinusOne : Element) ^ 2 = dElement * (y : Element) ^ 2 := by
    rw [Field.cast_rootOfMinusOne_sq]
    linear_combination -hzero
  rw [AffinePoint.eq_zero_of_sq_eq hsq] at hzero
  simp at hzero

/-- The numerator and the denominator of x² as a function of y. -/
theorem cast_ratio (A : AffinePoint dElement) {y : Nat} (hy : (y : Element) = A.y) :
    (Field.sub (Field.mul y y) 1 : Element) =
      A.x ^ 2 * (Field.add (Field.mul d (Field.mul y y)) 1 : Nat) := by
  have hcurve := A.onCurve
  simp only [Field.cast_sub, Field.cast_add, Field.cast_mul, cast_d, hy, Nat.cast_one]
  linear_combination hcurve

/-- Of an even root and its negative, the parity of x tells which one is x. -/
theorem cast_root {x : Element} {root : Nat} (hlt : root < modulus) (heven : root % 2 = 0)
    (hsq : (root : Element) ^ 2 = x ^ 2) :
    ((if x.val % 2 = 0 then root else Field.neg root : Nat) : Element) = x := by
  rcases sq_eq_sq_iff_eq_or_eq_neg.mp hsq with hroot | hroot
  · have hval : root = x.val := Field.eq_val hlt hroot
    rw [if_pos (hval ▸ heven), hroot]
  · have hneg : (Field.neg root : Element) = x := by rw [Field.cast_neg, hroot, neg_neg]
    by_cases hparity : x.val % 2 = 0
    · have hval : Field.neg root = x.val := Field.eq_val (Field.neg_lt root) hneg
      have hzero : root = 0 := by
        by_contra hne
        have hother := Field.neg_mod_two (Nat.pos_of_ne_zero hne) hlt
        omega
      rw [if_pos hparity, hzero, ← hneg, hzero, Field.cast_neg, Nat.cast_zero, neg_zero]
    · rw [if_neg hparity, hneg]

/-- The bytes of a point of the curve give it back. -/
theorem decompress_block (A : AffinePoint dElement) :
    ∃ P, decompress (block A) = some P ∧ P.Represents A := by
  have hlt := block_lt A
  have hy : A.y.val < modulus := ZMod.val_lt A.y
  have hmodulus : modulus < 2 ^ 255 := by decide
  have hnumber : Bytes.ofLittleEndian (block A).bytes = A.x.val % 2 * 2 ^ 255 + A.y.val := by
    rw [block, Bytes.ofLittleEndian_littleEndian]
    exact Nat.mod_eq_of_lt (Nat.lt_of_lt_of_eq hlt (by norm_num))
  have hlow : (A.x.val % 2 * 2 ^ 255 + A.y.val) % 2 ^ 255 % modulus = A.y.val := by
    rw [Nat.mul_add_mod_self_right, Nat.mod_eq_of_lt (hy.trans hmodulus), Nat.mod_eq_of_lt hy]
  have hsign : A.x.val % 2 * 2 ^ 255 + A.y.val < 2 ^ 255 ↔ A.x.val % 2 = 0 := by omega
  have hcast : (A.y.val : Element) = A.y := ZMod.natCast_zmod_val A.y
  obtain ⟨root, hroot, hrootlt, heven, hsq⟩ := Field.sqrtRatio_of_sq (Field.sub_lt _ 1)
    (denominator_ne_zero A.y.val) (cast_ratio A hcast)
  refine ⟨_, ?_, represents_ofCoordinates (cast_root hrootlt heven hsq) hcast⟩
  simp only [decompress, hnumber, hlow, hsign, hroot, Option.map_some]

/-- Bytes are read as a point when the curve has a point with their y coordinate. -/
theorem isSome_decompress_iff {bytes : Block 32} :
    (decompress bytes).isSome = true ↔
      ∃ A : AffinePoint dElement,
        A.y = ((Bytes.ofLittleEndian bytes.bytes % 2 ^ 255 : Nat) : Element) := by
  rw [decompress, Option.isSome_map]
  generalize Bytes.ofLittleEndian bytes.bytes % 2 ^ 255 = y
  have hcast : ((y % modulus : Nat) : Element) = y := ZMod.natCast_mod y modulus
  constructor
  · intro h
    obtain ⟨root, hroot⟩ := Option.isSome_iff_exists.mp h
    have hsq := Field.sq_mul_of_sqrtRatio hroot
    simp only [Field.cast_sub, Field.cast_add, Field.cast_mul, cast_d, hcast, Nat.cast_one] at hsq
    exact ⟨⟨root, y, by linear_combination -hsq⟩, rfl⟩
  · rintro ⟨A, hA⟩
    obtain ⟨root, hroot, -⟩ := Field.sqrtRatio_of_sq (Field.sub_lt _ 1)
      (denominator_ne_zero (y % modulus)) (cast_ratio A (hcast.trans hA.symm))
    exact Option.isSome_of_eq_some hroot

end Point

end LedgerWire
