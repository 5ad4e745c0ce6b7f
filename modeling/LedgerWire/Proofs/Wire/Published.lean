import LedgerWire.Proofs.Wire.Sink
import Mathlib.Data.List.OfFn

/-!
# The published layout

What the ledger publishes about its layout, written down from the documented tables alone: the
fields of each record in their order, and the ordinal of each variant as a number. The layouts of
the library, which take their ordinals from the registries, are shown to be the published ones.
-/

namespace LedgerWire

namespace Published

/-- A number in a given width: byte `i` is its `i`-th digit in base 256. -/
def number (width n : Nat) : Bytes :=
  List.ofFn fun i : Fin width => UInt8.ofNat (n / 256 ^ i.val % 256)

/-- The length of a text in four bytes, and its UTF-8 bytes. -/
def text (value : String) : Bytes :=
  number 4 value.utf8ByteSize ++ value.toByteArray.data.toList

/-- The length of a list in four bytes, and its items one after another. -/
def sequence {α : Type} (item : α → Bytes) (items : List α) : Bytes :=
  number 4 items.length ++ (items.map item).flatten

/-- The length of a buffer in four bytes, and the buffer. -/
def buffer (bytes : Bytes) : Bytes := number 4 bytes.length ++ bytes

/-- The byte of the curve, zero, and the 32 bytes of the key. -/
def key (key : PublicKey) : Bytes := [0] ++ key.data.bytes

/-- An allowance: zero for none, or one and the amount in sixteen bytes. -/
def allowance : Option Amount → Bytes
  | none => [0]
  | some amount => [1] ++ number 16 amount.units

/-- The permissions: a limited one has ordinal 0, full access has ordinal 1. -/
def permission : AccessKeyPermission → Bytes
  | .functionCall p =>
    [0] ++ allowance p.allowance ++ text p.receiverId.text ++ sequence text p.methodNames
  | .fullAccess => [1]

/-- The ordinals of the actions, and their fields. -/
def action : Action → Bytes
  | .createAccount => [0]
  | .deployContract a => [1] ++ buffer a.code
  | .functionCall a =>
    [2] ++ text a.methodName ++ buffer a.args ++ number 8 a.gas.toNat ++ number 16 a.deposit.units
  | .transfer a => [3] ++ number 16 a.deposit.units
  | .stake a => [4] ++ number 16 a.stake.units ++ key a.publicKey
  | .addKey a =>
    [5] ++ key a.publicKey ++ number 8 a.accessKey.nonce.toNat ++
      permission a.accessKey.permission
  | .deleteKey a => [6] ++ key a.publicKey
  | .deleteAccount a => [7] ++ text a.beneficiaryId.text
  | .stakeChunkOnly a => [8] ++ number 16 a.stake.units ++ key a.publicKey

/-- The fields of a transaction. -/
def transaction (t : Transaction) : Bytes :=
  text t.signerId.text ++ key t.publicKey ++ number 8 t.nonce.toNat ++ text t.receiverId.text ++
    t.blockHash.data.bytes ++ sequence action t.actions

/-- A transaction, the byte of the curve and the 64 bytes of the signature. -/
def signedTransaction (s : SignedTransaction) : Bytes :=
  transaction s.transaction ++ [0] ++ s.signature.data.bytes

/-! ### The layouts are the published ones -/

/-- A number is written as published: the low byte first. -/
theorem littleEndian_eq (width n : Nat) : Bytes.littleEndian width n = number width n := by
  induction width generalizing n with
  | zero => rfl
  | succ width ih =>
    rw [Bytes.littleEndian, ih, number, number, List.ofFn_succ]
    congr 1
    · rw [Fin.val_zero, Nat.pow_zero, Nat.div_one]
      exact UInt8.ofNat_mod_size.symm
    · congr 1
      funext i
      rw [Fin.val_succ, Nat.pow_succ', Nat.div_div_eq_div_mul]

/-- A text is written as published: its length, then its bytes in UTF-8. -/
theorem write_text (value : String) : Wire.write value = text value := by
  show Bytes.littleEndian 4 (Utf8.encode value).length ++ Utf8.encode value = text value
  rw [littleEndian_eq, Utf8.length_encode, Utf8.encode_eq_toByteArray, text]

/-- A list is written as published: its length, then its items. -/
theorem write_list {α : Type} [Wire α] [Wire.Sized α] {item : α → Bytes}
    (hitem : ∀ a : α, Wire.write a = item a) (items : List α) :
    Wire.write items = sequence item items := by
  show Bytes.littleEndian 4 items.length ++ items.flatMap Wire.write = sequence item items
  rw [littleEndian_eq, funext hitem, sequence, List.flatMap_def]

/-- Bytes are written as published: their number, then themselves. -/
theorem write_bytes (bytes : Bytes) : Wire.write bytes = buffer bytes := by
  show Bytes.littleEndian 4 bytes.length ++ (bytes.flatMap fun byte => [byte]) = buffer bytes
  rw [littleEndian_eq, List.flatMap_singleton', buffer]

/-- A public key is written as published. -/
theorem write_key (k : PublicKey) : Wire.write k = key k := by
  obtain ⟨⟨⟩, data⟩ := k
  rfl

/-- An allowance is written as published. -/
theorem write_allowance (value : Option Amount) : Wire.write value = allowance value := by
  cases value with
  | none => rfl
  | some amount =>
    show 1 :: Bytes.littleEndian 16 amount.units = [1] ++ number 16 amount.units
    rw [littleEndian_eq, List.singleton_append]

/-- A permission is written as published. -/
theorem write_permission (value : AccessKeyPermission) : Wire.write value = permission value := by
  cases value with
  | fullAccess => rfl
  | functionCall p =>
    show 0 :: (Wire.write p.allowance ++ (Wire.write p.receiverId.text ++
      (Wire.write p.methodNames ++ []))) = permission (.functionCall p)
    rw [write_allowance, write_text, write_list write_text, permission]
    simp only [List.append_nil, List.append_assoc, List.cons_append, List.nil_append]

/-- An action is written as published. -/
theorem write_action (value : Action) : Wire.write value = action value := by
  cases value with
  | createAccount => rfl
  | deployContract a =>
    show 1 :: (Wire.write a.code ++ []) = action (.deployContract a)
    rw [write_bytes, List.append_nil, action, List.singleton_append]
  | functionCall a =>
    show 2 :: (Wire.write a.methodName ++ (Wire.write a.args ++
      (Bytes.littleEndian 8 a.gas.toNat ++ (Bytes.littleEndian 16 a.deposit.units ++ [])))) =
        action (.functionCall a)
    rw [write_text, write_bytes, littleEndian_eq, littleEndian_eq, action]
    simp only [List.append_nil, List.append_assoc, List.cons_append, List.nil_append]
  | transfer a =>
    show 3 :: (Bytes.littleEndian 16 a.deposit.units ++ []) = action (.transfer a)
    rw [littleEndian_eq, List.append_nil, action, List.singleton_append]
  | stake a =>
    show 4 :: (Bytes.littleEndian 16 a.stake.units ++ (Wire.write a.publicKey ++ [])) =
      action (.stake a)
    rw [littleEndian_eq, write_key, action]
    simp only [List.append_nil, List.cons_append, List.nil_append]
  | addKey a =>
    show 5 :: (Wire.write a.publicKey ++ ((Bytes.littleEndian 8 a.accessKey.nonce.toNat ++
      (Wire.write a.accessKey.permission ++ [])) ++ [])) = action (.addKey a)
    rw [littleEndian_eq, write_key, write_permission, action]
    simp only [List.append_nil, List.append_assoc, List.cons_append, List.nil_append]
  | deleteKey a =>
    show 6 :: (Wire.write a.publicKey ++ []) = action (.deleteKey a)
    rw [write_key, List.append_nil, action, List.singleton_append]
  | deleteAccount a =>
    show 7 :: (Wire.write a.beneficiaryId.text ++ []) = action (.deleteAccount a)
    rw [write_text, List.append_nil, action, List.singleton_append]
  | stakeChunkOnly a =>
    show 8 :: (Bytes.littleEndian 16 a.stake.units ++ (Wire.write a.publicKey ++ [])) =
      action (.stakeChunkOnly a)
    rw [littleEndian_eq, write_key, action]
    simp only [List.append_nil, List.cons_append, List.nil_append]

/-- A transaction is written as published. -/
theorem write_transaction (t : Transaction) : Wire.write t = transaction t := by
  show Wire.write t.signerId.text ++ (Wire.write t.publicKey ++
    (Bytes.littleEndian 8 t.nonce.toNat ++ (Wire.write t.receiverId.text ++
      (t.blockHash.data.bytes ++ (Wire.write t.actions ++ []))))) = transaction t
  rw [write_text, write_key, littleEndian_eq, write_text, write_list write_action, transaction]
  simp only [List.append_nil, List.append_assoc]

/-- A signed transaction is written as published. -/
theorem write_signedTransaction (s : SignedTransaction) : Wire.write s = signedTransaction s := by
  obtain ⟨t, ⟨⟨⟩, data⟩⟩ := s
  show Wire.write t ++ (([0] ++ data.bytes) ++ []) = transaction t ++ [0] ++ data.bytes
  rw [write_transaction, List.append_nil, List.append_assoc]

end Published

/-- The bytes of a short transaction are the published ones, its digest is the digest of those
bytes and its size their number. With any signature they are followed by a zero byte and the
signature. Whatever a buffer holds, putting a value of the binary format behind it appends the
bytes of the value. -/
theorem encode_eq_published (t : Transaction) (hshort : t.Short) :
    Wire.encode t = .ok (Published.transaction t) ∧
      t.digestAndSize =
        .ok (.ofMessage (Published.transaction t), (Published.transaction t).length) ∧
      (∀ signature : Signature, Wire.encode (⟨t, signature⟩ : SignedTransaction) =
        .ok (Published.transaction t ++ [0] ++ signature.data.bytes)) ∧
      ∀ {sized : Bool} (type : BinaryType sized) (value : type.Value) (buffer : Bytes),
        Sink.put value buffer = (Wire.encode value).map (buffer ++ ·) := by
  have hencode : Wire.encode t = .ok (Published.transaction t) :=
    Wire.encode_eq_ok_iff.mpr
      ⟨Transaction.fits_iff.mpr hshort, (Published.write_transaction t).symm⟩
  refine ⟨hencode, ?_, ?_, ?_⟩
  · rw [Transaction.digestAndSize, hencode, Except.ok_bind]
    rfl
  · intro signature
    have hwrite := Published.write_signedTransaction ⟨t, signature⟩
    have hfits : Wire.fits (⟨t, signature⟩ : SignedTransaction) = true :=
      SignedTransaction.fits_iff.mpr hshort
    exact Wire.encode_eq_ok_iff.mpr ⟨hfits, hwrite.symm⟩
  · exact fun _ value buffer => Sink.put_eq_encode value buffer

/-- A transaction that creates an account and sends five units to it. -/
theorem encode_eq_published_transfer :
    Wire.encode (⟨⟨"alice.near", by decide⟩, ⟨.ed25519, .zero 32⟩, 7, ⟨"bob.near", by decide⟩,
        .zero, [.createAccount, .transfer ⟨⟨5, by decide⟩⟩]⟩ : Transaction) =
      .ok ([10, 0, 0, 0, 97, 108, 105, 99, 101, 46, 110, 101, 97, 114] ++
        [0] ++ List.replicate 32 0 ++ [7, 0, 0, 0, 0, 0, 0, 0] ++
        [8, 0, 0, 0, 98, 111, 98, 46, 110, 101, 97, 114] ++ List.replicate 32 0 ++
        [2, 0, 0, 0] ++ [0] ++ [3, 5] ++ List.replicate 15 0) := by
  refine (encode_eq_published _ ?_).1.trans ?_
  · show ShortList Action.Short [.createAccount, .transfer ⟨⟨5, by decide⟩⟩]
    exact ⟨by decide, by simp [Action.Short]⟩
  · decide

end LedgerWire
