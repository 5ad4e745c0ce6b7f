import LedgerWire.Proofs.Curve.Ed25519
import Mathlib.GroupTheory.OrderOfElement

/-!
# Signatures with a foreign public half

A signature is made with a seed and with a public key that is taken on trust, and the public key
goes into the challenge that the signature answers. What verification recomputes is off by the
challenge times the difference between the point of that public key and the point of the seed. The
order of the base point is prime, so among its multiples this is zero only if the two points are
one, or the challenge is zero.
-/

namespace LedgerWire

open Point (dElement block)

namespace Point

variable {P : Point} {A B : AffinePoint dElement}

/-- Coordinates stand for one point only. -/
theorem Represents.unique (hA : P.Represents A) (hB : P.Represents B) : A = B := by
  ext
  · exact mul_right_cancel₀ hA.Z_ne_zero (hA.X_eq.symm.trans hB.X_eq)
  · exact mul_right_cancel₀ hA.Z_ne_zero (hA.Y_eq.symm.trans hB.Y_eq)

/-- No two points of the curve have the same bytes. -/
theorem block_injective : Function.Injective block := by
  intro A B hblock
  obtain ⟨P, hP, hA⟩ := decompress_block A
  obtain ⟨Q, hQ, hB⟩ := decompress_block B
  rw [hblock, hQ, Option.some.injEq] at hP
  subst hP
  exact hA.unique hB

/-- What bytes are read as stands for a point of the curve. -/
theorem exists_represents_of_decompress {bytes : Block 32} (h : decompress bytes = some P) :
    ∃ A : AffinePoint dElement, P.Represents A := by
  rw [decompress, Option.map_eq_some_iff] at h
  obtain ⟨root, hroot, rfl⟩ := h
  have hsq := Field.sq_mul_of_sqrtRatio hroot
  generalize Bytes.ofLittleEndian bytes.bytes % 2 ^ 255 % Field.modulus = y at hsq ⊢
  generalize hx : (if Bytes.ofLittleEndian bytes.bytes < 2 ^ 255 then root else Field.neg root) = x
  have hxsq : (x : Field.Element) ^ 2 = (root : Field.Element) ^ 2 := by
    rw [← hx]
    split
    · rfl
    · rw [Field.cast_neg, neg_sq]
  rw [← hxsq] at hsq
  simp only [Field.cast_sub, Field.cast_add, Field.cast_mul, cast_d, Nat.cast_one] at hsq
  exact ⟨⟨x, y, by linear_combination -hsq⟩, represents_ofCoordinates rfl rfl⟩

end Point

namespace Ed25519

variable {A B : AffinePoint dElement} {seed key : Block 32}

/-! ### What verification finds -/

/-- The bytes of a public key are read as the point. -/
def IsPointOf (A : AffinePoint dElement) (key : Block 32) : Prop :=
  ∃ P, Point.decompress key = some P ∧ P.Represents A

/-- The point that belongs to a seed. -/
def seedPoint (seed : Block 32) : AffinePoint dElement := secretFactor seed.bytes • basePoint

/-- What a signature over a message answers: the hash of its first half, of the public key and of
the message. -/
def challenge (key : Block 32) (message : Bytes) (signature : Block 64) : Nat :=
  hashToNat (signature.bytes.take 32 ++ key.bytes ++ message) % order

/-- The order is positive. -/
theorem order_pos : 0 < order := by decide

/-- A challenge is reduced by the order. -/
theorem challenge_lt (key : Block 32) (message : Bytes) (signature : Block 64) :
    challenge key message signature < order := Nat.mod_lt _ order_pos

/-- Bytes are a public key just when they are those of a point. -/
theorem isPublicKey_iff_exists_point : isPublicKey key = true ↔ ∃ A, IsPointOf A key := by
  rw [isPublicKey, Option.isSome_iff_exists]
  constructor
  · rintro ⟨P, hP⟩
    obtain ⟨A, hA⟩ := Point.exists_represents_of_decompress hP
    exact ⟨A, P, hP, hA⟩
  · rintro ⟨A, P, hP, -⟩
    exact ⟨P, hP⟩

/-- The public half of a seed is the bytes of the point of the seed. -/
theorem isPointOf_publicKeyOf (seed : Block 32) :
    IsPointOf (seedPoint seed) (publicKeyOf seed) := by
  obtain ⟨P, hdecompress, hP⟩ := Point.decompress_block (seedPoint seed)
  refine ⟨P, ?_, hP⟩
  rw [publicKeyOf, compress_smul_base]
  exact hdecompress

/-- Bytes are those of one point only. -/
theorem IsPointOf.unique (hA : IsPointOf A key) (hB : IsPointOf B key) : A = B := by
  obtain ⟨P, hP, hA⟩ := hA
  obtain ⟨Q, hQ, hB⟩ := hB
  rw [hP, Option.some.injEq] at hQ
  subst hQ
  exact hA.unique hB

/-- A signature opens with the bytes of a multiple of the base point, and closes with the factor
of the seed times the challenge more. -/
theorem exists_sign_eq (seed key : Block 32) (message : Bytes) :
    ∃ (nonce : Nat) (commitment : Block 32) (response : Nat),
      commitment = (Point.base.smul nonce).compress ∧
      response = (hashToNat (commitment.bytes ++ key.bytes ++ message) % order *
        secretFactor seed.bytes + nonce) % order ∧
      sign seed key message =
        commitment.join ⟨Bytes.littleEndian 32 response, Bytes.length_littleEndian ..⟩ :=
  ⟨hashToNat (secretSalt seed.bytes ++ message) % order, _, _, rfl, rfl, rfl⟩

/-- A signature is valid under the public key that was hashed into it exactly when its challenge
does not tell the point of that key from the point of the seed. -/
theorem verify_sign_iff (hkey : IsPointOf A key) (message : Bytes) :
    verify key message (sign seed key message) = true ↔
      challenge key message (sign seed key message) • A =
        challenge key message (sign seed key message) • seedPoint seed := by
  obtain ⟨P, hdecompress, hP⟩ := hkey
  obtain ⟨nonce, commitment, response, hcommitment, hresponse, hsign⟩ :=
    exists_sign_eq seed key message
  have hlt : response < order := hresponse ▸ Nat.mod_lt _ order_pos
  have htake (right : Block 32) : (commitment.join right).bytes.take 32 = commitment.bytes :=
    congrArg Block.bytes (Block.leading_join commitment right (Nat.le_add_right 32 32))
  rw [hsign, challenge, htake, verify_join hdecompress message commitment hlt,
    beq_iff_eq]
  generalize hashToNat (commitment.bytes ++ key.bytes ++ message) % order = c at hresponse ⊢
  rw [((hP.neg.smul c).add (represents_base.smul response)).compress_eq, hcommitment,
    compress_smul_base, Point.block_injective.eq_iff, hresponse, mod_order_nsmul, add_nsmul,
    mul_nsmul', smul_neg, ← add_assoc, add_eq_right, neg_add_eq_zero, seedPoint]

/-! ### The group of the base point -/

/-- The order of the base point is prime. -/
theorem order_prime : order.Prime := by
  have h1 : Nat.Prime 3044861653679985063343 := by
    have htest : Lucas 3044861653679985063343 5 [137849, 132667, 82163, 30703, 11, 3, 2] := by
      decide +kernel
    exact htest.prime (by norm_num)
  have h2 : Nat.Prime 58964693 := by
    have htest : Lucas 58964693 2 [14741173, 2, 2] := by decide +kernel
    exact htest.prime (by norm_num)
  have h3 : Nat.Prime 198211423230930754013084525763697 := by
    have htest : Lucas 198211423230930754013084525763697 5
        [3044861653679985063343, 58964693, 23, 3, 2, 2, 2, 2] := by decide +kernel
    exact htest.prime (List.forall_mem_cons.mpr ⟨h1, List.forall_mem_cons.mpr ⟨h2, by norm_num⟩⟩)
  have h4 : Nat.Prime 292386187 := by
    have htest : Lucas 292386187 2 [5879, 307, 3, 3, 3, 3, 2] := by decide +kernel
    exact htest.prime (by norm_num)
  have h5 : Nat.Prime 213441916511 := by
    have htest : Lucas 213441916511 13 [292386187, 73, 5, 2] := by decide +kernel
    exact htest.prime (List.forall_mem_cons.mpr ⟨h4, by norm_num⟩)
  have h6 : Nat.Prime 1257559732178653 := by
    have htest : Lucas 1257559732178653 2 [1224481, 531581, 23, 7, 3, 2, 2] := by decide +kernel
    exact htest.prime (by norm_num)
  have h7 : Nat.Prime 4434155615661930479 := by
    have htest : Lucas 4434155615661930479 17 [1257559732178653, 43, 41, 2] := by decide +kernel
    exact htest.prime (List.forall_mem_cons.mpr ⟨h6, by norm_num⟩)
  have h8 : Nat.Prime 172054593956031949258510691 := by
    have htest : Lucas 172054593956031949258510691 2
        [4434155615661930479, 2851, 1361, 5, 2] := by decide +kernel
    exact htest.prime (List.forall_mem_cons.mpr ⟨h7, by norm_num⟩)
  have h9 : Nat.Prime 19757330305831588566944191468367130476339 := by
    have htest : Lucas 19757330305831588566944191468367130476339 2
        [172054593956031949258510691, 213441916511, 269, 2] := by decide +kernel
    exact htest.prime (List.forall_mem_cons.mpr ⟨h8, List.forall_mem_cons.mpr ⟨h5, by norm_num⟩⟩)
  have h10 : Nat.Prime 276602624281642239937218680557139826668747 := by
    have htest : Lucas 276602624281642239937218680557139826668747 2
        [19757330305831588566944191468367130476339, 7, 2] := by decide +kernel
    exact htest.prime (List.forall_mem_cons.mpr ⟨h9, by norm_num⟩)
  have htest : Lucas order 2 [276602624281642239937218680557139826668747,
      198211423230930754013084525763697, 11, 3, 2, 2] := by decide +kernel
  exact htest.prime (List.forall_mem_cons.mpr ⟨h10, List.forall_mem_cons.mpr ⟨h3, by norm_num⟩⟩)

/-- The order of the base point times the point of a seed is the neutral point. -/
theorem order_nsmul_seedPoint (seed : Block 32) : order • seedPoint seed = 0 := by
  rw [seedPoint, nsmul_left_comm, order_nsmul_basePoint, nsmul_zero]

/-- Where every point repeats after the order, a factor below the order tells points apart unless
it is zero. -/
theorem nsmul_eq_nsmul_iff (hA : order • A = 0) (hB : order • B = 0) {c : Nat} (hc : c < order) :
    c • A = c • B ↔ A = B ∨ c = 0 := by
  have : Fact order.Prime := ⟨order_prime⟩
  constructor
  · intro h
    by_cases hne : A = B
    · exact .inl hne
    · have hdifference : order • (A - B) = 0 := by rw [nsmul_sub, hA, hB, sub_zero]
      have horder : addOrderOf (A - B) = order :=
        addOrderOf_eq_prime hdifference (sub_ne_zero.mpr hne)
      have hzero : c • (A - B) = 0 := by rw [nsmul_sub, h, sub_self]
      have hdvd : order ∣ c := horder ▸ addOrderOf_dvd_iff_nsmul_eq_zero.mpr hzero
      exact .inr (Nat.eq_zero_of_dvd_of_lt hdvd hc)
  · rintro (rfl | rfl)
    · rfl
    · rw [zero_nsmul, zero_nsmul]

end Ed25519

end LedgerWire
