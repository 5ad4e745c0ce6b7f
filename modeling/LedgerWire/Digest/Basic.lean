import LedgerWire.Digest.Sha256
import LedgerWire.Wire.Layout

/-!
# Digests

Transactions, blocks and receipts are known by the SHA-256 digest of their bytes. A digest is
written in base58 in text and as 32 bytes in a buffer, and digests are ordered by their bytes.
-/

namespace LedgerWire

/-- A SHA-256 digest. -/
structure Digest where
  data : Block 32
  deriving DecidableEq

namespace Digest

/-- The digest of a buffer. -/
def ofMessage (bytes : Bytes) : Digest := ⟨⟨sha256.digest bytes, sha256.length_digest bytes⟩⟩

/-- The digest with the given bytes. -/
def ofBytes (bytes : Bytes) : Except ArgumentFault Digest :=
  match Block.ofBytes? 32 bytes with
  | some block => .ok ⟨block⟩
  | none => .error (.length "hash" 32 bytes.length)

/-- The digest whose bytes are all zero. -/
def zero : Digest := ⟨.zero 32⟩

/-- Whether the bytes are all zero. -/
def isZero (digest : Digest) : Bool := digest.data.isZero

/-- The text of a digest. -/
def text (digest : Digest) : String := Base58.encode digest.data.bytes

/-- Reads the text of a digest. -/
def ofText (text : String) : Except ArgumentFault Digest :=
  match Base58.decode text with
  | .error fault => .error (.base58 "hash" text fault)
  | .ok bytes => ofBytes bytes

/-- A digest as a JSON text. -/
def schema : Schema Digest :=
  .ofText ofText ArgumentFault.failure text
    fun digest => .atom ("CryptoHash(" ++ digest.text ++ ")")

instance : Wire Digest where
  write digest := digest.data.bytes
  read bytes := (Wire.take 32 bytes).map fun (data, rest) => (⟨data⟩, rest)
  fits _ := true

/-- Digests are ordered by their bytes. -/
def le (a b : Digest) : Bool := !(b.data.bytes < a.data.bytes)

end Digest

end LedgerWire
