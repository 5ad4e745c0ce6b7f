import LedgerWire.Proofs.Account.Grammar
import LedgerWire.Proofs.Json.Declared
import LedgerWire.Proofs.Key.Canonical
import LedgerWire.Proofs.Transaction.Signing

/-!
# Transactions from texts

A transaction is built from the texts of its names, key and digest, or read from a JSON object in
which the same texts stand. Both ways agree: they give the same transaction, or they report the
first faulty text in the order of the fields, in the same words.
-/

namespace LedgerWire

namespace Transaction

/-- The texts that a transaction is built from. -/
structure Texts where
  signerId : String
  publicKey : String
  receiverId : String
  blockHash : String

/-- The fields that are given as texts, in the order of their declaration. -/
inductive TextField where
  | signerId
  | publicKey
  | receiverId
  | blockHash

/-- The place of a field among those that are given as texts. -/
def TextField.position : TextField → Nat
  | .signerId => 0
  | .publicKey => 1
  | .receiverId => 2
  | .blockHash => 3

/-- An object with the members in the order of the declaration is read member by member. -/
theorem read_members (signerId publicKey nonce receiverId blockHash actions : Json) :
    schema.read (.object [("signer_id", signerId), ("public_key", publicKey), ("nonce", nonce),
        ("receiver_id", receiverId), ("block_hash", blockHash), ("actions", actions)]) = do
      let signerId ← AccountId.schema.read signerId
      let publicKey ← PublicKey.schema.read publicKey
      let nonce ← Schema.uint64.read nonce
      let receiverId ← AccountId.schema.read receiverId
      let blockHash ← Digest.schema.read blockHash
      let actions ← Action.schema.list.read actions
      return ⟨signerId, publicKey, nonce, receiverId, blockHash, actions⟩ := by
  unfold schema
  refine Eq.trans (@Schema.record_read_zip Transaction _ _ _ _ _
    [signerId, publicKey, nonce, receiverId, blockHash, actions] ?_ rfl) ?_
  · decide
  · rw [Schema.record_read_array rfl]
    simp only [Fields.fillFrom_cons, Fields.fillFrom_done, Except.map_bind, Except.map_ok]
    rfl

namespace Texts

/-- The transaction that is built from the texts. -/
def build (texts : Texts) (nonce : UInt64) (actions : List Action) :
    Except ArgumentFault Transaction :=
  ofTexts texts.signerId texts.publicKey nonce texts.receiverId texts.blockHash actions

/-- The object in which the texts stand. -/
def json (texts : Texts) (nonce : UInt64) (actions : List Action) : Json :=
  .object [("signer_id", .string texts.signerId), ("public_key", .string texts.publicKey),
    ("nonce", .ofUInt64 nonce), ("receiver_id", .string texts.receiverId),
    ("block_hash", .string texts.blockHash), ("actions", Action.schema.list.write actions)]

/-- What is wrong with the text of a field. -/
def Fault (texts : Texts) : TextField → ArgumentFault → Prop
  | .signerId, fault => ∃ found, AccountId.fault? texts.signerId = some found ∧
      fault = .account found
  | .publicKey, fault => Key.Refused 32 "public key" texts.publicKey fault
  | .receiverId, fault => ∃ found, AccountId.fault? texts.receiverId = some found ∧
      fault = .account found
  | .blockHash, fault => Base58.Unfit 32 "hash" texts.blockHash texts.blockHash fault

/-- Nothing is wrong with the text of a field. -/
def Sound (texts : Texts) (field : TextField) : Prop := ∀ fault, ¬texts.Fault field fault

/-- The first of the fields whose text is faulty, and what is wrong with it. -/
structure FirstFault (texts : Texts) (field : TextField) (fault : ArgumentFault) : Prop where
  fault : texts.Fault field fault
  sound_before : ∀ earlier, earlier.position < field.position → texts.Sound earlier

/-- The transaction has the texts, up to the name of the curve in front of the key. -/
structure Describes (texts : Texts) (nonce : UInt64) (actions : List Action) (t : Transaction) :
    Prop where
  signerId : t.signerId.text = texts.signerId
  publicKey : Key.Denotes texts.publicKey t.publicKey.text
  nonce : t.nonce = nonce
  receiverId : t.receiverId.text = texts.receiverId
  blockHash : t.blockHash.text = texts.blockHash
  actions : t.actions = actions

variable {texts : Texts} {nonce : UInt64} {actions : List Action}

/-- Reading the object takes the same steps as building from the texts. -/
theorem read_json (texts : Texts) (nonce : UInt64) (actions : List Action) :
    schema.read (texts.json nonce actions) =
      (texts.build nonce actions).mapError fun fault =>
        .refused (CodecError.argument fault).message := by
  have hname (text : String) : AccountId.schema.read (.string text) = _ :=
    Schema.ofText_read_string text
  have hkey : PublicKey.schema.read (.string texts.publicKey) = _ :=
    Schema.ofText_read_string texts.publicKey
  have hhash : Digest.schema.read (.string texts.blockHash) = _ :=
    Schema.ofText_read_string texts.blockHash
  have hnonce : Schema.uint64.read (.ofUInt64 nonce) = .ok nonce := Schema.uint64_restores nonce
  have hactions : Action.schema.list.read (Action.schema.list.write actions) = .ok actions :=
    Schema.restores actions
  rw [json, read_members, hname, hkey, hnonce, hname, hhash, hactions, build, ofTexts]
  cases AccountId.ofText texts.signerId with
  | error fault => rfl
  | ok signerId =>
    cases PublicKey.ofText texts.publicKey with
    | error fault => rfl
    | ok publicKey =>
      cases AccountId.ofText texts.receiverId with
      | error fault => rfl
      | ok receiverId => cases Digest.ofText texts.blockHash <;> rfl

/-- The transaction that is built is the one that has the texts. -/
theorem build_eq_ok_iff {t : Transaction} :
    texts.build nonce actions = .ok t ↔ texts.Describes nonce actions t := by
  have hkey (key : PublicKey) : PublicKey.ofText texts.publicKey = .ok key ↔
      Key.Denotes texts.publicKey key.text := by
    rw [PublicKey.canonical.ofText_eq_ok_iff, and_true]
  simp only [build, ofTexts, Except.bind_eq_ok_iff, Except.mapError_eq_ok_iff,
    AccountId.ofText_eq_ok_iff, hkey, Digest.ofText_eq_ok_iff]
  constructor
  · rintro ⟨signerId, hsigner, publicKey, hpublic, receiverId, hreceiver, blockHash, hhash, heq⟩
    cases heq
    exact ⟨hsigner.symm, hpublic, rfl, hreceiver.symm, hhash, rfl⟩
  · obtain ⟨signerId, publicKey, nonce', receiverId, blockHash, actions'⟩ := t
    rintro ⟨hsigner, hpublic, rfl, hreceiver, hhash, rfl⟩
    exact ⟨signerId, hsigner.symm, publicKey, hpublic, receiverId, hreceiver.symm, blockHash,
      hhash, rfl⟩

/-- The fields are looked at in the order of their declaration. -/
theorem exists_firstFault_iff {fault : ArgumentFault} :
    (∃ field, texts.FirstFault field fault) ↔
      texts.Fault .signerId fault ∨ (texts.Sound .signerId ∧
        (texts.Fault .publicKey fault ∨ (texts.Sound .publicKey ∧
          (texts.Fault .receiverId fault ∨ (texts.Sound .receiverId ∧
            texts.Fault .blockHash fault))))) := by
  constructor
  · rintro ⟨field, hfault, hbefore⟩
    have hsound {earlier : TextField} (h : earlier.position < field.position) :
        texts.Sound earlier := hbefore earlier h
    cases field with
    | signerId => exact .inl hfault
    | publicKey => exact .inr ⟨hsound (by decide), .inl hfault⟩
    | receiverId => exact .inr ⟨hsound (by decide), .inr ⟨hsound (by decide), .inl hfault⟩⟩
    | blockHash =>
      exact .inr ⟨hsound (by decide), .inr ⟨hsound (by decide), .inr ⟨hsound (by decide), hfault⟩⟩⟩
  · rintro (hfault | ⟨hsigner, hfault | ⟨hkey, hfault | ⟨hreceiver, hfault⟩⟩⟩)
    · refine ⟨.signerId, hfault, fun earlier h => ?_⟩
      cases earlier <;> exact absurd h (by decide)
    · refine ⟨.publicKey, hfault, fun earlier h => ?_⟩
      cases earlier <;> first | assumption | exact absurd h (by decide)
    · refine ⟨.receiverId, hfault, fun earlier h => ?_⟩
      cases earlier <;> first | assumption | exact absurd h (by decide)
    · refine ⟨.blockHash, hfault, fun earlier h => ?_⟩
      cases earlier <;> first | assumption | exact absurd h (by decide)

/-- Building reports the first fault. -/
theorem build_eq_error_iff {fault : ArgumentFault} :
    texts.build nonce actions = .error fault ↔ ∃ field, texts.FirstFault field fault := by
  have hsigner (fault : ArgumentFault) :
      (AccountId.ofText texts.signerId).mapError .account = .error fault ↔
        texts.Fault .signerId fault := AccountId.mapError_ofText_eq_error_iff
  have hkey (fault : ArgumentFault) :
      PublicKey.ofText texts.publicKey = .error fault ↔ texts.Fault .publicKey fault := by
    simp [PublicKey.canonical.ofText_eq_error_iff, Fault]
  have hreceiver (fault : ArgumentFault) :
      (AccountId.ofText texts.receiverId).mapError .account = .error fault ↔
        texts.Fault .receiverId fault := AccountId.mapError_ofText_eq_error_iff
  have hhash (fault : ArgumentFault) :
      Digest.ofText texts.blockHash = .error fault ↔ texts.Fault .blockHash fault :=
    Digest.ofText_eq_error_iff
  have hlast (signerId : AccountId) (publicKey : PublicKey) (receiverId : AccountId)
      (blockHash : Digest) : (pure ⟨signerId, publicKey, nonce, receiverId, blockHash, actions⟩ :
        Except ArgumentFault Transaction) ≠ .error fault := fun h => by cases h
  rw [exists_firstFault_iff]
  simp only [build, ofTexts, Except.bind_eq_error_iff, hsigner, hkey, hreceiver, hhash, hlast,
    and_false, exists_false, or_false, exists_and_right, Except.exists_ok_iff hsigner,
    Except.exists_ok_iff hkey, Except.exists_ok_iff hreceiver, Sound]

/-- There is one first fault at most. There is one result of building, and its fault depends on the
texts alone. -/
theorem FirstFault.unique {field other : TextField} {fault found : ArgumentFault}
    (h : texts.FirstFault field fault) (h' : texts.FirstFault other found) :
    field = other ∧ fault = found := by
  have hfield : field = other := by
    rcases Nat.lt_trichotomy field.position other.position with hlt | heq | hlt
    · exact absurd h.fault (h'.sound_before field hlt fault)
    · cases field <;> cases other <;> first | rfl | cases heq
    · exact absurd h'.fault (h.sound_before other hlt found)
  have hbuild : texts.build 0 [] = .error fault := build_eq_error_iff.mpr ⟨field, h⟩
  rw [build_eq_error_iff.mpr ⟨other, h'⟩] at hbuild
  exact ⟨hfield, (Except.error.inj hbuild).symm⟩

end Texts

/-- A transaction is built from texts exactly when it is read from the object in which they stand,
and it is the transaction that has the texts. Otherwise a first text is faulty, and both report its
fault in the same words. A transaction of short actions that is built has bytes and is decoded from
them. -/
theorem built_as_read (texts : Texts) (nonce : UInt64) (actions : List Action) :
    (∀ t, texts.build nonce actions = .ok t ↔ schema.read (texts.json nonce actions) = .ok t) ∧
    (∀ t, texts.build nonce actions = .ok t ↔ texts.Describes nonce actions t) ∧
    (∀ field fault, texts.FirstFault field fault → texts.build nonce actions = .error fault ∧
      schema.read (texts.json nonce actions) =
        .error (.refused (CodecError.argument fault).message)) ∧
    ((∃ t, texts.build nonce actions = .ok t) ∨
      ∃! place : TextField × ArgumentFault, texts.FirstFault place.1 place.2) ∧
    (∀ t, texts.build nonce actions = .ok t → ShortList Action.Short actions →
      ∃ bytes, Wire.encode t = .ok bytes ∧ Wire.decode bytes = .ok t) := by
  refine ⟨fun t => ?_, fun t => Texts.build_eq_ok_iff, fun field fault hfault => ?_, ?_,
    fun t hbuild hshort => ?_⟩
  · rw [Texts.read_json, Except.mapError_eq_ok_iff]
  · have hbuild : texts.build nonce actions = .error fault :=
      Texts.build_eq_error_iff.mpr ⟨field, hfault⟩
    refine ⟨hbuild, ?_⟩
    rw [Texts.read_json, hbuild, Except.mapError_error]
  · cases hbuild : texts.build nonce actions with
    | ok t => exact .inl ⟨t, rfl⟩
    | error fault =>
      obtain ⟨field, hfault⟩ := Texts.build_eq_error_iff.mp hbuild
      refine .inr ⟨(field, fault), hfault, fun place hplace => ?_⟩
      obtain ⟨hfield, hsame⟩ := hplace.unique hfault
      exact Prod.ext hfield hsame
  · have hactions := (Texts.build_eq_ok_iff.mp hbuild).actions
    have hfits : t.Short := by rwa [Short, hactions]
    obtain ⟨bytes, hencode⟩ := hfits.exists_encode
    exact ⟨bytes, hencode, Wire.decode_eq_ok_iff_encode.mpr hencode⟩

/-- The texts of `Transaction.sample`, and texts of which the key and the digest are faulty. -/
theorem built_as_read_sample :
    let texts : Texts :=
      ⟨"alice.near", sample.publicKey.text, "bob.near", "11111111111111111111111111111111"⟩
    let faulty : Texts := ⟨"alice.near", "secp256k1:1", "bob.near", "0"⟩
    (texts.build 7 sample.actions = .ok sample ∧
      schema.read (texts.json 7 sample.actions) = .ok sample ∧
      ∃ bytes, Wire.encode sample = .ok bytes ∧ Wire.decode bytes = .ok sample) ∧
    faulty.FirstFault .publicKey (.unsupportedCurve "secp256k1") ∧
    faulty.build 7 sample.actions = .error (.unsupportedCurve "secp256k1") := by
  intro texts faulty
  obtain ⟨hread, hdescribes, -, -, hencode⟩ := built_as_read texts 7 sample.actions
  obtain ⟨-, -, hfirst, -, -⟩ := built_as_read faulty 7 sample.actions
  have hkey : Key.Denotes sample.publicKey.text sample.publicKey.text :=
    ((PublicKey.canonical.ofText_eq_ok_iff _ _).mp (PublicKey.ofText_text _)).1
  have hbuild : texts.build 7 sample.actions = .ok sample :=
    (hdescribes sample).mpr ⟨rfl, hkey, rfl, rfl, by decide, rfl⟩
  have hcurve : Curve.ofName "secp256k1" = .error (.unsupportedCurve "secp256k1") := by decide
  have hparts : Key.Parts "secp256k1:1" (some "secp256k1") "1" := .named (by decide) (by decide)
  have hfault : faulty.FirstFault .publicKey (.unsupportedCurve "secp256k1") := by
    refine ⟨.name hparts (Curve.ofName_eq_error_iff.mp hcurve).1, fun earlier hearlier => ?_⟩
    cases earlier with
    | signerId =>
      rintro fault ⟨found, hfound, -⟩
      have hnone : AccountId.fault? "alice.near" = none := by decide
      cases hnone.symm.trans hfound
    | _ => exact absurd hearlier (by decide)
  exact ⟨⟨hbuild, (hread sample).mp hbuild, hencode sample hbuild sample_short⟩, hfault,
    (hfirst _ _ hfault).1⟩

end Transaction

end LedgerWire
