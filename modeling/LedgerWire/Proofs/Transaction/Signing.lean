import LedgerWire.Proofs.Curve.Ed25519
import LedgerWire.Proofs.Json.Ledger
import LedgerWire.Proofs.Text.Base64
import LedgerWire.Proofs.Wire.Canonical

/-!
# Signed transactions

Signing and verification each work out the canonical bytes of the transaction and their digest,
and arrive at the same ones. So a key whose halves belong together signs every transaction that
has bytes, and the signature is valid if the transaction names that key. A signed transaction
comes back from its base64 text and from its JSON form as it was, so neither changes its digest or
its validity.
-/

namespace LedgerWire

/-! ### Keys -/

namespace SecretKey

/-- The public half is the public key of the seed. -/
def Matching (key : SecretKey) : Prop := key.publicHalf = Ed25519.publicKeyOf key.seed

instance : DecidablePred Matching := fun _ => inferInstanceAs (Decidable (_ = _))

variable {key : SecretKey}

/-- A matching key is usable. -/
theorem Matching.isUsable (hkey : key.Matching) : key.isUsable = true := by
  unfold SecretKey.isUsable
  rw [hkey]
  exact Ed25519.isPublicKey_publicKeyOf key.seed

/-- The public key of a matching key is its public half. -/
theorem Matching.publicKey_eq (hkey : key.Matching) :
    key.publicKey = .ok ⟨key.curve, key.publicHalf⟩ := by
  rw [publicKey, if_pos hkey.isUsable]

/-- A key whose halves belong together signs every message, and its public key admits the
signature. -/
theorem Matching.exists_sign (hkey : key.Matching) (message : Bytes) :
    ∃ signature, key.sign message = .ok signature ∧
      ∀ publicKey, key.publicKey = .ok publicKey → publicKey.verify message signature = true := by
  refine ⟨_, if_pos hkey.isUsable, ?_⟩
  intro publicKey hpublic
  rw [hkey.publicKey_eq, Except.ok.injEq] at hpublic
  subst hpublic
  unfold PublicKey.verify
  rw [hkey]
  exact Ed25519.verify_sign key.seed message

/-- A key whose halves belong together. -/
def sample : SecretKey where
  curve := .ed25519
  data := ⟨[
    0x9D, 0x61, 0xB1, 0x9D, 0xEF, 0xFD, 0x5A, 0x60, 0xBA, 0x84, 0x4A, 0xF4, 0x92, 0xEC, 0x2C, 0xC4,
    0x44, 0x49, 0xC5, 0x69, 0x7B, 0x32, 0x69, 0x19, 0x70, 0x3B, 0xAC, 0x03, 0x1C, 0xAE, 0x7F, 0x60,
    0xD7, 0x5A, 0x98, 0x01, 0x82, 0xB1, 0x0A, 0xB7, 0xD5, 0x4B, 0xFE, 0xD3, 0xC9, 0x64, 0x07, 0x3A,
    0x0E, 0xE1, 0x72, 0xF3, 0xDA, 0xA6, 0x23, 0x25, 0xAF, 0x02, 0x1A, 0x68, 0xF7, 0x07, 0x51, 0x1A],
    rfl⟩

/-- The sample key matches. -/
theorem sample_matching : sample.Matching := by
  decide +kernel

end SecretKey

/-! ### Bytes and digests -/

/-- The digest of a message is its hash. -/
theorem Digest.bytes_ofMessage (bytes : Bytes) :
    (Digest.ofMessage bytes).data.bytes = sha256.digest bytes := rfl

namespace Transaction

variable {t : Transaction} {bytes : Bytes}

/-- A short transaction has bytes. -/
theorem Short.exists_encode (hshort : t.Short) : ∃ bytes, Wire.encode t = .ok bytes :=
  ⟨Wire.write t, Wire.encode_eq_ok_iff.mpr ⟨Transaction.fits_iff.mpr hshort, rfl⟩⟩

/-- A transaction that has bytes is short. -/
theorem short_of_encode (hencode : Wire.encode t = .ok bytes) : t.Short :=
  Transaction.fits_iff.mp (Wire.encode_eq_ok_iff.mp hencode).1

/-- The digest and the size of a transaction are those of its bytes. -/
theorem digestAndSize_eq (hencode : Wire.encode t = .ok bytes) :
    t.digestAndSize = .ok (Digest.ofMessage bytes, bytes.length) := by
  rw [digestAndSize, hencode]
  rfl

/-- A transaction is signed exactly when the key signs the digest of its bytes. -/
theorem sign_eq_ok_iff (hencode : Wire.encode t = .ok bytes) {key : SecretKey}
    {signed : SignedTransaction} :
    t.sign key = .ok signed ↔
      ∃ signature, key.sign (sha256.digest bytes) = .ok signature ∧ signed = ⟨t, signature⟩ := by
  unfold sign
  rw [digestAndSize_eq hencode, Except.ok_bind]
  simp only [Digest.bytes_ofMessage]
  cases key.sign (sha256.digest bytes) with
  | ok signature => simp [eq_comm]
  | error fault => simp

/-- A transfer that names the key `SecretKey.sample`. -/
def sample : Transaction where
  signerId := ⟨"alice.near", by decide⟩
  publicKey := ⟨SecretKey.sample.curve, SecretKey.sample.publicHalf⟩
  nonce := 7
  receiverId := ⟨"bob.near", by decide⟩
  blockHash := .zero
  actions := [.transfer ⟨⟨1, by decide⟩⟩]

/-- The sample transaction is short. -/
theorem sample_short : sample.Short := by
  refine ⟨by decide, fun action haction => ?_⟩
  rw [List.mem_singleton.mp haction]
  trivial

end Transaction

namespace SignedTransaction

variable {bytes : Bytes} (signed : SignedTransaction)

/-- The digest of a signed transaction is that of the bytes of the transaction. -/
theorem digest_eq (hencode : Wire.encode signed.transaction = .ok bytes) :
    signed.digest = .ok (Digest.ofMessage bytes) := by
  rw [digest, Transaction.digestAndSize_eq hencode, Except.map_ok]

/-- A signed transaction is verified by the key of the transaction over the hash of its bytes. -/
theorem verify_eq (hencode : Wire.encode signed.transaction = .ok bytes) :
    signed.verify =
      signed.transaction.publicKey.verify (sha256.digest bytes) signed.signature := by
  rw [verify, signed.digest_eq hencode, ← Digest.bytes_ofMessage]

/-- The bytes of a signed transaction are those of the transaction and then the signature. -/
theorem encode_eq (hencode : Wire.encode signed.transaction = .ok bytes) :
    Wire.encode signed = .ok (bytes ++ Wire.write signed.signature) := by
  have hwrite : Wire.write signed =
      Wire.write signed.transaction ++ (Wire.write signed.signature ++ []) := rfl
  obtain ⟨hfits, rfl⟩ := Wire.encode_eq_ok_iff.mp hencode
  rw [List.append_nil] at hwrite
  have hshort : signed.Short := Transaction.fits_iff.mp hfits
  exact Wire.encode_eq_ok_iff.mpr ⟨SignedTransaction.fits_iff.mpr hshort, hwrite.symm⟩

/-- A signed transaction comes back from its base64 text. -/
theorem base64_decode (hencode : Wire.encode signed = .ok bytes) :
    ∃ text, signed.base64 = .ok text ∧ Base64.decode text = .ok bytes ∧
      Wire.decode bytes = .ok signed := by
  refine ⟨Base64.encode bytes, ?_, Base64.decode_encode bytes, ?_⟩
  · rw [base64, hencode, Except.map_ok]
  · exact Wire.decode_eq_ok_iff_encode.mpr hencode

/-- What comes back from canonical bytes or from JSON is what was written. -/
theorem eq_of_written {other : SignedTransaction}
    (hread : (∃ bytes, Wire.encode signed = .ok bytes ∧ Wire.decode bytes = .ok other) ∨
      schema.read (schema.write signed) = .ok other) : other = signed := by
  rcases hread with ⟨bytes, hencode, hdecode⟩ | hread
  · rw [Wire.decode_eq_ok_iff_encode.mpr hencode] at hdecode
    exact (Except.ok.inj hdecode).symm
  · rw [Schema.restores signed] at hread
    exact (Except.ok.inj hread).symm

end SignedTransaction

/-- A key whose halves belong together signs every short transaction. The signature is over the
digest of the canonical bytes, the transaction and its digest stay what they were, and the
signature is valid if the transaction names the key. Every short signed transaction comes back
from its base64 text, every one at all from JSON, and what comes back has the same validity and
the same digest. -/
theorem Transaction.sign_valid :
    (∀ (t : Transaction) (key : SecretKey), t.Short → key.Matching →
      key.publicKey = .ok ⟨key.curve, key.publicHalf⟩ ∧
      ∃ bytes digest signed, Wire.encode t = .ok bytes ∧
        t.digestAndSize = .ok (digest, bytes.length) ∧ digest.data.bytes = sha256.digest bytes ∧
        t.sign key = .ok signed ∧ signed.transaction = t ∧
        key.sign digest.data.bytes = .ok signed.signature ∧ signed.digest = .ok digest ∧
        (key.publicKey = .ok t.publicKey → signed.verify = true)) ∧
    (∀ signed : SignedTransaction, signed.Short → ∃ text bytes, signed.base64 = .ok text ∧
      Base64.decode text = .ok bytes ∧ Wire.encode signed = .ok bytes ∧
      Wire.decode bytes = .ok signed) ∧
    (∀ signed : SignedTransaction,
      SignedTransaction.schema.read (SignedTransaction.schema.write signed) = .ok signed) ∧
    (∀ signed other : SignedTransaction,
      (∃ bytes, Wire.encode signed = .ok bytes ∧ Wire.decode bytes = .ok other) ∨
        SignedTransaction.schema.read (SignedTransaction.schema.write signed) = .ok other →
      other.verify = signed.verify ∧ other.digest = signed.digest) := by
  refine ⟨?_, ?_, fun signed => Schema.restores signed, ?_⟩
  · intro t key hshort hkey
    obtain ⟨bytes, hencode⟩ := hshort.exists_encode
    obtain ⟨signature, hsign, hadmits⟩ := hkey.exists_sign (sha256.digest bytes)
    have hsigned : t.sign key = .ok ⟨t, signature⟩ :=
      (sign_eq_ok_iff hencode).mpr ⟨signature, hsign, rfl⟩
    refine ⟨hkey.publicKey_eq, bytes, Digest.ofMessage bytes, ⟨t, signature⟩, hencode,
      digestAndSize_eq hencode, Digest.bytes_ofMessage bytes, hsigned, rfl, hsign,
      SignedTransaction.digest_eq ⟨t, signature⟩ hencode, ?_⟩
    intro hpublic
    rw [SignedTransaction.verify_eq ⟨t, signature⟩ hencode]
    exact hadmits _ hpublic
  · intro signed hshort
    obtain ⟨bytes, hencode⟩ := Transaction.Short.exists_encode hshort
    have hwhole := signed.encode_eq hencode
    obtain ⟨text, htext, hread, hdecode⟩ := signed.base64_decode hwhole
    exact ⟨text, _, htext, hread, hwhole, hdecode⟩
  · intro signed other hread
    rw [signed.eq_of_written hread]
    exact ⟨rfl, rfl⟩

/-- A transfer that is signed with the key that it names. -/
theorem Transaction.sign_valid_transfer :
    (sample.Short ∧ SecretKey.sample.Matching) ∧
    ∃ signed, sample.sign SecretKey.sample = .ok signed ∧ signed.transaction = sample ∧
      signed.verify = true ∧
      (∃ text bytes, signed.base64 = .ok text ∧ Base64.decode text = .ok bytes ∧
        Wire.decode bytes = .ok signed) ∧
      ∃ other, SignedTransaction.schema.read (SignedTransaction.schema.write signed) = .ok other ∧
        other.verify = true := by
  obtain ⟨hsigns, htext, hjson, hkeeps⟩ := Transaction.sign_valid
  obtain ⟨hpublic, _, _, signed, -, -, -, hsign, htransaction, -, -, hvalid⟩ :=
    hsigns sample SecretKey.sample sample_short SecretKey.sample_matching
  have hverify : signed.verify = true := hvalid hpublic
  have hsigned : signed.Short := by
    show signed.transaction.Short
    rw [htransaction]
    exact sample_short
  obtain ⟨text, bytes, hbase64, hread, -, hdecode⟩ := htext signed hsigned
  refine ⟨⟨sample_short, SecretKey.sample_matching⟩, signed, hsign, htransaction, hverify,
    ⟨text, bytes, hbase64, hread, hdecode⟩, signed, hjson signed, ?_⟩
  exact (hkeeps signed signed (Or.inr (hjson signed))).1.trans hverify

end LedgerWire
