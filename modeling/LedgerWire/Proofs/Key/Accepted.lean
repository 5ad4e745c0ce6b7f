import LedgerWire.Proofs.Account.Grammar
import LedgerWire.Proofs.Curve.Foreign
import LedgerWire.Proofs.Key.Canonical
import LedgerWire.Proofs.Transaction.Signing

/-!
# What an accepted secret key signs

A secret key is accepted when its public half is a point of the curve, by itself and as the key of
a signer. Nothing compares the halves. So an accepted key has a public key and signs every message,
but only if the public half belongs to the seed is every signature valid under that public key.
With the public key of another seed no signature is, short of a challenge that is zero.
-/

namespace LedgerWire

open Ed25519 (IsPointOf challenge seedPoint)

/-! ### Keys of signers -/

/-- The key of a signer is read from a part of it. -/
theorem SignerConfig.exists_read_secretKey {json : Json} {config : SignerConfig}
    (h : schema.read json = .ok config) :
    ∃ part, SecretKey.schema.read part = .ok config.secretKey := by
  cases json with
  | object members =>
    obtain ⟨-, hrest⟩ := Fields.readMember_of_fill (Schema.fill_of_record_read h)
    exact Fields.exists_read_of_readMember (Fields.readMember_of_fill hrest).1
  | array items =>
    obtain ⟨_, -, hrest⟩ := Fields.readItem_of_fillFrom (Schema.fillFrom_of_record_read h)
    obtain ⟨_, hkey, -⟩ := Fields.readItem_of_fillFrom hrest
    exact Fields.exists_read_of_readItem hkey
  | _ => cases h

/-- A node that is read as a signer gives it by two texts. -/
theorem SignerConfig.exists_givenBy {node : Yaml.Node} {config : SignerConfig}
    (h : ofNode? node = some config) : ∃ name key, GivenBy name key node := by
  rw [ofNode?] at h
  obtain ⟨fields, hfields, h⟩ := Option.bind_eq_some_iff.mp h
  obtain ⟨name, hname, h⟩ := Option.bind_eq_some_iff.mp h
  obtain ⟨key, hkey, -⟩ := Option.bind_eq_some_iff.mp h
  exact ⟨name, key, ⟨fields, hfields, hname, hkey⟩⟩

namespace SecretKey

variable {key : SecretKey}

/-! ### Accepted keys -/

/-- A key is accepted: by its text, or as the key of a signer in JSON or in a configuration
file. -/
inductive Accepted : SecretKey → Prop where
  | text {text : String} {key : SecretKey} (read : ofText text = .ok key) : Accepted key
  | signer {json : Json} {config : SignerConfig}
      (read : SignerConfig.schema.read json = .ok config) : Accepted config.secretKey
  | file {node : Yaml.Node} {config : SignerConfig}
      (read : SignerConfig.ofNode? node = some config) : Accepted config.secretKey

/-- A key that a text gives has a point. -/
theorem hasPoint_of_ofText {text : String} (h : ofText text = .ok key) : key.HasPoint :=
  ((canonical.ofText_eq_ok_iff text key).mp h).2

/-- A key that a schema reads has a point. -/
theorem hasPoint_of_schema_read {json : Json} (h : schema.read json = .ok key) : key.HasPoint := by
  obtain ⟨text, rfl⟩ := canonical.schema_read_text h
  rw [canonical.schema_read_string, Except.mapError_eq_ok_iff] at h
  exact hasPoint_of_ofText h

/-- Every way of accepting a key looks for a point of the curve, and for nothing else. -/
theorem accepted_iff : key.Accepted ↔ key.HasPoint := by
  constructor
  · rintro (hread | hread | hread)
    · exact hasPoint_of_ofText hread
    · obtain ⟨part, hpart⟩ := SignerConfig.exists_read_secretKey hread
      exact hasPoint_of_schema_read hpart
    · obtain ⟨name, text, hgiven⟩ := SignerConfig.exists_givenBy hread
      exact hasPoint_of_ofText ((SignerConfig.ofNode?_eq_some_iff hgiven).mp hread).2
  · exact fun hpoint => .text ((canonical.ofText_text_iff key).mpr hpoint)

/-- A key is accepted just when its public half is the bytes of a point. -/
theorem accepted_iff_exists_point : key.Accepted ↔ ∃ A, IsPointOf A key.publicHalf := by
  rw [accepted_iff, ← isUsable_iff, isUsable, Ed25519.isPublicKey_iff_exists_point]

/-! ### Signatures -/

/-- The public key of a key and its signature over a message. -/
structure Signs (key : SecretKey) (message : Bytes) (publicKey : PublicKey)
    (signature : Signature) : Prop where
  publicKey_eq : key.publicKey = .ok publicKey
  sign_eq : key.sign message = .ok signature

/-- The challenge that the signature of a key over a message answers. -/
def challengeOf (key : SecretKey) (message : Bytes) : Nat :=
  challenge key.publicHalf message (Ed25519.sign key.seed key.publicHalf message)

/-- A challenge is reduced by the order. -/
theorem challengeOf_lt (key : SecretKey) (message : Bytes) :
    key.challengeOf message < Ed25519.order :=
  Ed25519.challenge_lt ..

/-- Every message is signed, and the signature is valid under the public key of the key. -/
def Sound (key : SecretKey) : Prop :=
  ∀ message, ∃ publicKey signature, key.Signs message publicKey signature ∧
    publicKey.verify message signature = true

/-- A key with a point has its public half as its public key, and signs every message. -/
theorem exists_signs {A : AffinePoint Point.dElement} (hA : IsPointOf A key.publicHalf)
    (message : Bytes) :
    ∃ signature, key.Signs message ⟨key.curve, key.publicHalf⟩ signature ∧
      (PublicKey.verify ⟨key.curve, key.publicHalf⟩ message signature = true ↔
        key.challengeOf message • A = key.challengeOf message • seedPoint key.seed) := by
  have husable : key.isUsable = true :=
    isUsable_iff.mpr (accepted_iff.mp (accepted_iff_exists_point.mpr ⟨A, hA⟩))
  exact ⟨_, ⟨if_pos husable, if_pos husable⟩, Ed25519.verify_sign_iff hA message⟩

/-- A key has one signature over a message, and one public key. -/
theorem Signs.unique {message : Bytes} {publicKey publicKey' : PublicKey}
    {signature signature' : Signature} (h : key.Signs message publicKey signature)
    (h' : key.Signs message publicKey' signature') :
    publicKey = publicKey' ∧ signature = signature' :=
  ⟨Except.ok.inj (h.publicKey_eq.symm.trans h'.publicKey_eq),
    Except.ok.inj (h.sign_eq.symm.trans h'.sign_eq)⟩

/-- All signatures are valid when no challenge tells the point from that of the seed. -/
theorem sound_iff {A : AffinePoint Point.dElement} (hA : IsPointOf A key.publicHalf) :
    key.Sound ↔ ∀ message,
      key.challengeOf message • A = key.challengeOf message • seedPoint key.seed := by
  refine forall_congr' fun message => ?_
  obtain ⟨signature, hsigns, hverify⟩ := exists_signs hA message
  constructor
  · rintro ⟨publicKey, other, hother, hvalid⟩
    obtain ⟨rfl, rfl⟩ := hother.unique hsigns
    exact hverify.mp hvalid
  · exact fun heq => ⟨_, signature, hsigns, hverify.mpr heq⟩

/-- The public half of a matching key is the bytes of the point of its seed. -/
theorem Matching.isPointOf (h : key.Matching) : IsPointOf (seedPoint key.seed) key.publicHalf := by
  rw [h]
  exact Ed25519.isPointOf_publicKeyOf key.seed

/-- A matching key is accepted. -/
theorem Matching.accepted (h : key.Matching) : key.Accepted :=
  accepted_iff_exists_point.mpr ⟨_, h.isPointOf⟩

/-- A matching key is sound. -/
theorem Matching.sound (h : key.Matching) : key.Sound :=
  (sound_iff h.isPointOf).mpr fun _ => rfl

/-- The public half is the public key of another seed, which is not that of the seed half. -/
structure Foreign (key : SecretKey) (seed : Block 32) : Prop where
  publicHalf_eq : key.publicHalf = Ed25519.publicKeyOf seed
  not_matching : ¬key.Matching

/-- The public half of a foreign key is the bytes of the point of the other seed. -/
theorem Foreign.isPointOf {seed : Block 32} (h : key.Foreign seed) :
    IsPointOf (seedPoint seed) key.publicHalf := by
  rw [h.publicHalf_eq]
  exact Ed25519.isPointOf_publicKeyOf seed

/-- A foreign key is accepted. -/
theorem Foreign.accepted {seed : Block 32} (h : key.Foreign seed) : key.Accepted :=
  accepted_iff_exists_point.mpr ⟨_, h.isPointOf⟩

/-- Two seeds with one point have one public key. -/
theorem Foreign.seedPoint_ne {seed : Block 32} (h : key.Foreign seed) :
    seedPoint seed ≠ seedPoint key.seed := by
  intro heq
  refine h.not_matching (h.publicHalf_eq.trans ?_)
  rw [Ed25519.publicKeyOf, Ed25519.publicKeyOf, Ed25519.compress_smul_base,
    Ed25519.compress_smul_base]
  exact congrArg Point.block heq

/-- With the public key of another seed a signature is valid only if its challenge is zero. -/
theorem Foreign.verify_iff {seed : Block 32} (h : key.Foreign seed) (message : Bytes) :
    ∃ publicKey signature, key.Signs message publicKey signature ∧
      (publicKey.verify message signature = true ↔ key.challengeOf message = 0) := by
  obtain ⟨signature, hsigns, hverify⟩ := exists_signs h.isPointOf message
  refine ⟨_, signature, hsigns, hverify.trans ?_⟩
  rw [Ed25519.nsmul_eq_nsmul_iff (Ed25519.order_nsmul_seedPoint _)
    (Ed25519.order_nsmul_seedPoint _) (challengeOf_lt key message)]
  exact or_iff_right h.seedPoint_ne

/-- One challenge other than zero suffices. -/
theorem Foreign.not_sound {seed : Block 32} (h : key.Foreign seed) {message : Bytes}
    (hne : key.challengeOf message ≠ 0) : ¬key.Sound := by
  intro hsound
  obtain ⟨publicKey, signature, hsigns, hvalid⟩ := hsound message
  obtain ⟨_, _, hother, hzero⟩ := h.verify_iff message
  obtain ⟨rfl, rfl⟩ := hsigns.unique hother
  exact hne (hzero.mp hvalid)

/-! ### Accepted keys sign -/

/-- A key is accepted exactly when its public half is a point of the curve, so whether it is
accepted does not depend on the seed. An accepted key is read from its text, and in a signer. It
has its public half as its public key and signs every message; the signature is valid under that
key exactly when the challenge does not tell its point from that of the seed, and every signature
is when no challenge does. None does if the halves belong together. If the public half is the public
key of another seed, the key is accepted as well, and only a challenge of zero makes a signature of
it valid. -/
theorem accepted_signs (key : SecretKey) :
    (key.Accepted ↔ ∃ A, IsPointOf A key.publicHalf) ∧
    (∀ other : SecretKey, key.publicHalf = other.publicHalf → (key.Accepted ↔ other.Accepted)) ∧
    (key.Accepted → ofText key.text = .ok key ∧
      ∀ id : AccountId, SignerConfig.schema.Restores ⟨id, key⟩) ∧
    (∀ A, IsPointOf A key.publicHalf →
      (∀ message, ∃ signature, key.Signs message ⟨key.curve, key.publicHalf⟩ signature ∧
        (PublicKey.verify ⟨key.curve, key.publicHalf⟩ message signature = true ↔
          key.challengeOf message • A = key.challengeOf message • seedPoint key.seed)) ∧
      (key.Sound ↔ ∀ message,
        key.challengeOf message • A = key.challengeOf message • seedPoint key.seed)) ∧
    (key.Matching → key.Accepted ∧ key.Sound) ∧
    ∀ seed : Block 32, key.Foreign seed → key.Accepted ∧
      ∀ message, ∃ publicKey signature, key.Signs message publicKey signature ∧
        (publicKey.verify message signature = true ↔ key.challengeOf message = 0) := by
  refine ⟨accepted_iff_exists_point, fun other hhalf => ?_, fun h => ?_,
    fun A hA => ⟨exists_signs hA, sound_iff hA⟩, fun h => ⟨h.accepted, h.sound⟩,
    fun seed h => ⟨h.accepted, h.verify_iff⟩⟩
  · rw [accepted_iff_exists_point, accepted_iff_exists_point, hhalf]
  · have husable : key.isUsable = true := isUsable_iff.mpr (accepted_iff.mp h)
    exact ⟨ofText_text husable, fun id => SignerConfig.restores husable⟩

/-- The seed of `sample` with the public key of another seed. -/
def crossed : SecretKey where
  curve := .ed25519
  data := ⟨[
    0x9D, 0x61, 0xB1, 0x9D, 0xEF, 0xFD, 0x5A, 0x60, 0xBA, 0x84, 0x4A, 0xF4, 0x92, 0xEC, 0x2C, 0xC4,
    0x44, 0x49, 0xC5, 0x69, 0x7B, 0x32, 0x69, 0x19, 0x70, 0x3B, 0xAC, 0x03, 0x1C, 0xAE, 0x7F, 0x60,
    0x3D, 0x40, 0x17, 0xC3, 0xE8, 0x43, 0x89, 0x5A, 0x92, 0xB7, 0x0A, 0xA7, 0x4D, 0x1B, 0x7E, 0xBC,
    0x9C, 0x98, 0x2C, 0xCF, 0x2E, 0xC4, 0x96, 0x8C, 0xC0, 0xCD, 0x55, 0xF1, 0x2A, 0xF4, 0x66, 0x0C],
    rfl⟩

/-- The seed whose public key stands in `crossed`. -/
def crossedSeed : Block 32 :=
  ⟨[
    0x4C, 0xCD, 0x08, 0x9B, 0x28, 0xFF, 0x96, 0xDA, 0x9D, 0xB6, 0xC3, 0x46, 0xEC, 0x11, 0x4E, 0x0F,
    0x5B, 0x8A, 0x31, 0x9F, 0x35, 0xAB, 0xA6, 0x24, 0xDA, 0x8C, 0xF6, 0xED, 0x4F, 0xB8, 0xA6, 0xFB],
    rfl⟩

/-- The crossed key has the public key of another seed. -/
theorem crossed_foreign : crossed.Foreign crossedSeed where
  publicHalf_eq := by decide +kernel
  not_matching := by decide +kernel

/-- A key whose halves belong together, and one with a foreign public half that is accepted and
signs what its own public key does not admit. -/
theorem accepted_signs_crossed :
    sample.Accepted ∧ sample.Sound ∧ crossed.Accepted ∧ ofText crossed.text = .ok crossed ∧
      (∃ signature, crossed.Signs [] ⟨.ed25519, crossed.publicHalf⟩ signature) ∧
      ∃ publicKey signature, crossed.Signs [] publicKey signature ∧
        publicKey.verify [] signature = false := by
  obtain ⟨-, -, -, -, hmatching, -⟩ := accepted_signs sample
  obtain ⟨-, -, hread, hsigns, -, hforeign⟩ := accepted_signs crossed
  obtain ⟨haccepted, hsound⟩ := hmatching sample_matching
  obtain ⟨hcrossed, hverify⟩ := hforeign crossedSeed crossed_foreign
  obtain ⟨hsigns, -⟩ := hsigns _ crossed_foreign.isPointOf
  obtain ⟨signature, hsignature, -⟩ := hsigns []
  obtain ⟨publicKey, other, hother, hzero⟩ := hverify []
  have hchallenge : crossed.challengeOf [] ≠ 0 := by decide +kernel
  have hinvalid : publicKey.verify [] other ≠ true := mt hzero.mp hchallenge
  exact ⟨haccepted, hsound, hcrossed, (hread hcrossed).1, ⟨signature, hsignature⟩,
    publicKey, other, hother, Bool.eq_false_iff.mpr hinvalid⟩

/-- A text that is accepted as a key which signs what its own public key does not admit. -/
theorem crossed_not_sound :
    ofText ("ed25519:" ++
      "49W385L4rePHy6PAaQUovbD2aacgN4HsKXSMeUzRg4fmmAKmRtx9Zv4guQziLvixpzbwmuov52LhLMddT2YyY2gT") =
        .ok crossed ∧ ¬crossed.Sound := by
  have htext : "ed25519:" ++
      "49W385L4rePHy6PAaQUovbD2aacgN4HsKXSMeUzRg4fmmAKmRtx9Zv4guQziLvixpzbwmuov52LhLMddT2YyY2gT"
        = crossed.text := by
    decide +kernel
  have hchallenge : crossed.challengeOf [] ≠ 0 := by decide +kernel
  rw [htext]
  exact ⟨ofText_text (by decide +kernel), crossed_foreign.not_sound hchallenge⟩

end SecretKey

end LedgerWire
