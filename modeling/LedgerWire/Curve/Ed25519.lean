import LedgerWire.Curve.Point
import LedgerWire.Digest.Sha512

/-!
# Ed25519 signatures

A key pair is 32 seed bytes followed by the 32 bytes of the public key. The seed is hashed into a
secret factor and a secret salt; the public half is taken as it stands and goes into the hash of
every signature. Verification recomputes the first half of the signature and compares its bytes.
-/

namespace LedgerWire.Ed25519

/-- The number of multiples of the base point. -/
def order : Nat := 2 ^ 252 + 27742317777372353535851937790883648493

/-- The number whose lowest byte is the first byte of a SHA-512 digest. -/
def hashToNat (message : Bytes) : Nat := Bytes.ofLittleEndian (sha512.digest message)

/-- The secret factor of a seed: the first half of its hash with the lowest three bits cleared,
the highest cleared and the next one set. -/
def secretFactor (seed : Bytes) : Nat :=
  let half := Bytes.ofLittleEndian ((sha512.digest seed).take 32)
  2 ^ 254 + half % 2 ^ 254 / 8 * 8

/-- The secret salt of a seed: the second half of its hash. -/
def secretSalt (seed : Bytes) : Bytes := (sha512.digest seed).drop 32

/-- Whether 32 bytes are a point of the curve. -/
def isPublicKey (key : Block 32) : Bool := (Point.decompress key).isSome

/-- Signs a message with a seed and a public key that is taken on trust. -/
def sign (seed key : Block 32) (message : Bytes) : Block 64 :=
  let nonce := hashToNat (secretSalt seed.bytes ++ message) % order
  let commitment := (Point.base.smul nonce).compress
  let challenge := hashToNat (commitment.bytes ++ key.bytes ++ message) % order
  let response := (challenge * secretFactor seed.bytes + nonce) % order
  commitment.join ⟨Bytes.littleEndian 32 response, Bytes.length_littleEndian ..⟩

/-- Whether a signature over a message is valid under a public key. Its second half has to be
below the order of the group. -/
def verify (key : Block 32) (message : Bytes) (signature : Block 64) : Bool :=
  let commitment := signature.leading 32 (by decide)
  let response := Bytes.ofLittleEndian (signature.trailing 32).bytes
  (Point.decompress key).any fun point =>
    let challenge := hashToNat (commitment.bytes ++ key.bytes ++ message) % order
    let expected := (point.neg.smul challenge).add (Point.base.smul response)
    response < order && expected.compress == commitment

end LedgerWire.Ed25519
