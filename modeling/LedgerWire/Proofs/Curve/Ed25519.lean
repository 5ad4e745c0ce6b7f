import LedgerWire.Curve.Ed25519
import LedgerWire.Proofs.Curve.Point

/-!
# Signatures are valid under the key of their seed

The base point has the order of the group, so factors count modulo that order. A signature opens
with the bytes of a multiple of the base point, and verification recomputes that point from the
second half of the signature and the public key. The hash plays no part in this: it may be any
function that the signer and the verifier share.
-/

namespace LedgerWire

namespace Block

variable {first second : Nat}

/-- The first bytes of two joined blocks are those of the first. -/
@[simp] theorem leading_join (left : Block first) (right : Block second)
    (le : first ≤ first + second) : (left.join right).leading first le = left := by
  obtain ⟨bytes, hlength⟩ := left
  simp [leading, join, hlength]

/-- The last bytes of two joined blocks are those of the second. -/
@[simp] theorem trailing_join (left : Block first) (right : Block second) :
    ((left.join right).trailing first).bytes = right.bytes := by
  simp [trailing, join, left.length_bytes]

end Block

namespace Ed25519

open Point (dElement block)

/-- The public key that belongs to a seed: its secret factor times the base point. -/
def publicKeyOf (seed : Block 32) : Block 32 :=
  (Point.base.smul (secretFactor seed.bytes)).compress

/-- The base point as a point of the curve. -/
def basePoint : AffinePoint dElement where
  x := Point.base.X
  y := Point.base.Y
  onCurve := by
    have h : Field.sub (Field.mul Point.base.Y Point.base.Y) (Field.mul Point.base.X Point.base.X) =
        Field.add 1 (Field.mul Point.d (Field.mul (Field.mul Point.base.X Point.base.Y)
          (Field.mul Point.base.X Point.base.Y))) := by
      decide
    have hcast := congrArg (Nat.cast : Nat → Field.Element) h
    simp only [Field.cast_sub, Field.cast_add, Field.cast_mul, Point.cast_d, Nat.cast_one] at hcast
    linear_combination hcast

/-- The coordinates of the base point stand for it. -/
theorem represents_base : Point.base.Represents basePoint :=
  Point.represents_ofCoordinates rfl rfl

/-- The multiples of the base point repeat after the order of the group. -/
theorem order_nsmul_basePoint : order • basePoint = 0 := by
  have h := represents_base.smul order
  have hX : (Point.base.smul order).X = 0 := by decide +kernel
  have hY : (Point.base.smul order).Y = (Point.base.smul order).Z := by decide +kernel
  ext
  · refine mul_right_cancel₀ h.Z_ne_zero ?_
    rw [← h.X_eq, hX, Nat.cast_zero, AffinePoint.zero_x, zero_mul]
  · refine mul_right_cancel₀ h.Z_ne_zero ?_
    rw [← h.Y_eq, hY, AffinePoint.zero_y, one_mul]

/-- A multiple of the base point depends on the remainder by the order alone. -/
theorem mod_order_nsmul (n : Nat) : (n % order) • basePoint = n • basePoint := by
  conv_rhs => rw [← Nat.mod_add_div n order]
  rw [add_nsmul, mul_nsmul, order_nsmul_basePoint, nsmul_zero, add_zero]

/-- The bytes of a multiple of the base point. -/
theorem compress_smul_base (factor : Nat) :
    (Point.base.smul factor).compress = block (factor • basePoint) :=
  (represents_base.smul factor).compress_eq

/-- The public half that is made of a seed is the bytes of a point. -/
theorem isPublicKey_publicKeyOf (seed : Block 32) : isPublicKey (publicKeyOf seed) = true := by
  obtain ⟨P, hP, -⟩ := Point.decompress_block (secretFactor seed.bytes • basePoint)
  rw [isPublicKey, publicKeyOf, compress_smul_base, hP, Option.isSome_some]

/-- What verification recomputes is the point that the signature opens with. -/
theorem commitment_eq (challenge factor nonce : Nat) :
    challenge • -(factor • basePoint) + ((challenge * factor + nonce) % order) • basePoint =
      nonce • basePoint := by
  rw [mod_order_nsmul, add_nsmul, smul_neg, mul_nsmul', neg_add_cancel_left]

/-- What is verified of a signature whose second half is below the order. -/
theorem verify_join {key : Block 32} {P : Point} (hkey : Point.decompress key = some P)
    (message : Bytes) (commitment : Block 32) {response : Nat} (hresponse : response < order) :
    verify key message
        (commitment.join ⟨Bytes.littleEndian 32 response, Bytes.length_littleEndian ..⟩) =
      (((P.neg.smul (hashToNat (commitment.bytes ++ key.bytes ++ message) % order)).add
        (Point.base.smul response)).compress == commitment) := by
  have horder : order < 256 ^ 32 := by decide
  have hread : Bytes.ofLittleEndian (Bytes.littleEndian 32 response) = response := by
    rw [Bytes.ofLittleEndian_littleEndian]
    exact Nat.mod_eq_of_lt (hresponse.trans horder)
  simp only [verify, hkey, Option.any_some, Block.leading_join, Block.trailing_join, hread,
    decide_eq_true hresponse, Bool.true_and]

/-- A signature made with a seed and the key that belongs to it is valid under that key, whatever
the message is. -/
theorem verify_sign (seed : Block 32) (message : Bytes) :
    verify (publicKeyOf seed) message (sign seed (publicKeyOf seed) message) = true := by
  obtain ⟨P, hdecompress, hP⟩ := Point.decompress_block (secretFactor seed.bytes • basePoint)
  have hkey : Point.decompress (publicKeyOf seed) = some P := by
    rw [publicKeyOf, compress_smul_base, hdecompress]
  have hpoint : ∀ challenge nonce : Nat,
      ((P.neg.smul challenge).add (Point.base.smul ((challenge * secretFactor seed.bytes + nonce) %
        order))).compress = (Point.base.smul nonce).compress := by
    intro challenge nonce
    rw [compress_smul_base, ← commitment_eq challenge (secretFactor seed.bytes) nonce]
    exact ((hP.neg.smul challenge).add (represents_base.smul _)).compress_eq
  unfold sign
  rw [verify_join hkey message _ (Nat.mod_lt _ (by decide)), hpoint]
  exact beq_self_eq_true _

end Ed25519

end LedgerWire
