import LedgerWire.Proofs.Wire.Ledger
import LedgerWire.Proofs.Wire.Short
import LedgerWire.Proofs.Wire.Sized

/-!
# Values and canonical bytes correspond

The types of the binary format are closed under lists and optional values, so they are given as
codes, each with the type it stands for. Every short value has bytes, which are read back from the
front of any longer buffer, and a buffer that can be read at all starts with the bytes of the
value that is read.
-/

namespace LedgerWire

/-- The types that have a binary form. The index tells whether the values of a type take room, as
the items of a list do: a curve and the empty block have a single value, so there is no list of
them. -/
inductive BinaryType : Bool → Type where
  | uint8 : BinaryType true
  | uint32 : BinaryType true
  | uint64 : BinaryType true
  | amount : BinaryType true
  | bool : BinaryType true
  | text : BinaryType true
  | block (size : Nat) (pos : 0 < size) : BinaryType true
  | emptyBlock : BinaryType false
  | list (item : BinaryType true) : BinaryType true
  | option {sized : Bool} (item : BinaryType sized) : BinaryType true
  | curve : BinaryType false
  | accountId : BinaryType true
  | publicKey : BinaryType true
  | signature : BinaryType true
  | digest : BinaryType true
  | deployContract : BinaryType true
  | functionCall : BinaryType true
  | transfer : BinaryType true
  | stake : BinaryType true
  | addKey : BinaryType true
  | deleteKey : BinaryType true
  | deleteAccount : BinaryType true
  | action : BinaryType true
  | callPermission : BinaryType true
  | permission : BinaryType true
  | accessKey : BinaryType true
  | transaction : BinaryType true
  | signedTransaction : BinaryType true

namespace BinaryType

/-- The values of a type. -/
@[reducible]
def Value : {sized : Bool} → BinaryType sized → Type
  | _, uint8 => UInt8
  | _, uint32 => UInt32
  | _, uint64 => UInt64
  | _, amount => Amount
  | _, bool => Bool
  | _, text => String
  | _, block size _ => Block size
  | _, emptyBlock => Block 0
  | _, list item => List item.Value
  | _, option item => Option item.Value
  | _, curve => Curve
  | _, accountId => AccountId
  | _, publicKey => PublicKey
  | _, signature => Signature
  | _, digest => Digest
  | _, deployContract => DeployContractAction
  | _, functionCall => FunctionCallAction
  | _, transfer => TransferAction
  | _, stake => StakeAction
  | _, addKey => AddKeyAction
  | _, deleteKey => DeleteKeyAction
  | _, deleteAccount => DeleteAccountAction
  | _, action => Action
  | _, callPermission => FunctionCallPermission
  | _, permission => AccessKeyPermission
  | _, accessKey => AccessKey
  | _, transaction => Transaction
  | _, signedTransaction => SignedTransaction

/-- The index tells the truth: a type whose values take room has more than one. -/
instance sized : (type : BinaryType true) → Wire.Sized type.Value
  | uint8 => inferInstanceAs (Wire.Sized UInt8)
  | uint32 => inferInstanceAs (Wire.Sized UInt32)
  | uint64 => inferInstanceAs (Wire.Sized UInt64)
  | amount => inferInstanceAs (Wire.Sized Amount)
  | bool => inferInstanceAs (Wire.Sized Bool)
  | text => inferInstanceAs (Wire.Sized String)
  | block _ pos => Wire.Sized.block pos
  | list item =>
    have := item.sized
    have : Nonempty item.Value := Wire.Sized.nonempty
    inferInstanceAs (Wire.Sized (List item.Value))
  | @option true item =>
    have := item.sized
    have : Nonempty item.Value := Wire.Sized.nonempty
    inferInstanceAs (Wire.Sized (Option item.Value))
  | option emptyBlock =>
    have : Nonempty (Block 0) := ⟨.zero 0⟩
    inferInstanceAs (Wire.Sized (Option (Block 0)))
  | option curve =>
    have : Nonempty Curve := ⟨.ed25519⟩
    inferInstanceAs (Wire.Sized (Option Curve))
  | accountId => inferInstanceAs (Wire.Sized AccountId)
  | publicKey => inferInstanceAs (Wire.Sized PublicKey)
  | signature => inferInstanceAs (Wire.Sized Signature)
  | digest => inferInstanceAs (Wire.Sized Digest)
  | deployContract => inferInstanceAs (Wire.Sized DeployContractAction)
  | functionCall => inferInstanceAs (Wire.Sized FunctionCallAction)
  | transfer => inferInstanceAs (Wire.Sized TransferAction)
  | stake => inferInstanceAs (Wire.Sized StakeAction)
  | addKey => inferInstanceAs (Wire.Sized AddKeyAction)
  | deleteKey => inferInstanceAs (Wire.Sized DeleteKeyAction)
  | deleteAccount => inferInstanceAs (Wire.Sized DeleteAccountAction)
  | action => inferInstanceAs (Wire.Sized Action)
  | callPermission => inferInstanceAs (Wire.Sized FunctionCallPermission)
  | permission => inferInstanceAs (Wire.Sized AccessKeyPermission)
  | accessKey => inferInstanceAs (Wire.Sized AccessKey)
  | transaction => inferInstanceAs (Wire.Sized Transaction)
  | signedTransaction => inferInstanceAs (Wire.Sized SignedTransaction)

/-- A type whose values take no room has a single one. -/
theorem not_sized : (type : BinaryType false) → ¬Wire.Sized type.Value
  | curve, ⟨.ed25519, .ed25519, hne⟩ => hne rfl
  | emptyBlock, ⟨⟨first, hfirst⟩, ⟨second, hsecond⟩, hne⟩ => by
    obtain rfl := List.length_eq_zero_iff.mp hfirst
    obtain rfl := List.length_eq_zero_iff.mp hsecond
    exact hne rfl

instance wire : {sized : Bool} → (type : BinaryType sized) → Wire type.Value
  | _, uint8 => inferInstanceAs (Wire UInt8)
  | _, uint32 => inferInstanceAs (Wire UInt32)
  | _, uint64 => inferInstanceAs (Wire UInt64)
  | _, amount => inferInstanceAs (Wire Amount)
  | _, bool => inferInstanceAs (Wire Bool)
  | _, text => inferInstanceAs (Wire String)
  | _, block size _ => inferInstanceAs (Wire (Block size))
  | _, emptyBlock => inferInstanceAs (Wire (Block 0))
  | _, list item =>
    letI := wire item
    inferInstanceAs (Wire (List item.Value))
  | _, option item =>
    letI := wire item
    inferInstanceAs (Wire (Option item.Value))
  | _, curve => inferInstanceAs (Wire Curve)
  | _, accountId => inferInstanceAs (Wire AccountId)
  | _, publicKey => inferInstanceAs (Wire PublicKey)
  | _, signature => inferInstanceAs (Wire Signature)
  | _, digest => inferInstanceAs (Wire Digest)
  | _, deployContract => inferInstanceAs (Wire DeployContractAction)
  | _, functionCall => inferInstanceAs (Wire FunctionCallAction)
  | _, transfer => inferInstanceAs (Wire TransferAction)
  | _, stake => inferInstanceAs (Wire StakeAction)
  | _, addKey => inferInstanceAs (Wire AddKeyAction)
  | _, deleteKey => inferInstanceAs (Wire DeleteKeyAction)
  | _, deleteAccount => inferInstanceAs (Wire DeleteAccountAction)
  | _, action => inferInstanceAs (Wire Action)
  | _, callPermission => inferInstanceAs (Wire FunctionCallPermission)
  | _, permission => inferInstanceAs (Wire AccessKeyPermission)
  | _, accessKey => inferInstanceAs (Wire AccessKey)
  | _, transaction => inferInstanceAs (Wire Transaction)
  | _, signedTransaction => inferInstanceAs (Wire SignedTransaction)

instance lawful : {sized : Bool} → (type : BinaryType sized) → Wire.Lawful type.Value
  | _, uint8 => inferInstanceAs (Wire.Lawful UInt8)
  | _, uint32 => inferInstanceAs (Wire.Lawful UInt32)
  | _, uint64 => inferInstanceAs (Wire.Lawful UInt64)
  | _, amount => inferInstanceAs (Wire.Lawful Amount)
  | _, bool => inferInstanceAs (Wire.Lawful Bool)
  | _, text => inferInstanceAs (Wire.Lawful String)
  | _, block size _ => inferInstanceAs (Wire.Lawful (Block size))
  | _, emptyBlock => inferInstanceAs (Wire.Lawful (Block 0))
  | _, list item =>
    have := lawful item
    inferInstanceAs (Wire.Lawful (List item.Value))
  | _, option item =>
    have := lawful item
    inferInstanceAs (Wire.Lawful (Option item.Value))
  | _, curve => inferInstanceAs (Wire.Lawful Curve)
  | _, accountId => inferInstanceAs (Wire.Lawful AccountId)
  | _, publicKey => inferInstanceAs (Wire.Lawful PublicKey)
  | _, signature => inferInstanceAs (Wire.Lawful Signature)
  | _, digest => inferInstanceAs (Wire.Lawful Digest)
  | _, deployContract => inferInstanceAs (Wire.Lawful DeployContractAction)
  | _, functionCall => inferInstanceAs (Wire.Lawful FunctionCallAction)
  | _, transfer => inferInstanceAs (Wire.Lawful TransferAction)
  | _, stake => inferInstanceAs (Wire.Lawful StakeAction)
  | _, addKey => inferInstanceAs (Wire.Lawful AddKeyAction)
  | _, deleteKey => inferInstanceAs (Wire.Lawful DeleteKeyAction)
  | _, deleteAccount => inferInstanceAs (Wire.Lawful DeleteAccountAction)
  | _, action => inferInstanceAs (Wire.Lawful Action)
  | _, callPermission => inferInstanceAs (Wire.Lawful FunctionCallPermission)
  | _, permission => inferInstanceAs (Wire.Lawful AccessKeyPermission)
  | _, accessKey => inferInstanceAs (Wire.Lawful AccessKey)
  | _, transaction => inferInstanceAs (Wire.Lawful Transaction)
  | _, signedTransaction => inferInstanceAs (Wire.Lawful SignedTransaction)

/-- Whether all texts and lists in a value are short enough for their counts. The types without
texts and lists, and account names, have short values only. -/
def Short : {sized : Bool} → (type : BinaryType sized) → type.Value → Prop
  | _, text, value => ShortText value
  | _, list item, values => ShortList item.Short values
  | _, option item, value => ∀ present ∈ value, item.Short present
  | _, deployContract, value => value.Short
  | _, functionCall, value => value.Short
  | _, addKey, value => value.Short
  | _, action, value => value.Short
  | _, callPermission, value => value.Short
  | _, permission, value => value.Short
  | _, accessKey, value => value.Short
  | _, transaction, value => value.Short
  | _, signedTransaction, value => value.Short
  | _, uint8, _ | _, uint32, _ | _, uint64, _ | _, amount, _ | _, bool, _ | _, block _ _, _
  | _, emptyBlock, _ | _, curve, _ | _, accountId, _ | _, publicKey, _ | _, signature, _
  | _, digest, _ | _, transfer, _ | _, stake, _ | _, deleteKey, _ | _, deleteAccount, _ => True

variable {sized : Bool}

/-- The layouts ask for short texts and lists and for nothing else. -/
theorem fits_iff (type : BinaryType sized) : ∀ value : type.Value, Wire.fits value = true ↔
    type.Short value := by
  induction type with
  | text => exact fun _ => Wire.fits_text_iff
  | list item ih => exact fun _ => Wire.fits_list_iff ih
  | option item ih =>
    rintro (_ | value)
    · exact iff_of_true rfl nofun
    · show Wire.fits value = true ↔ ∀ present ∈ some value, item.Short present
      simp [ih]
  | deployContract => exact fun _ => DeployContractAction.fits_iff
  | functionCall => exact fun _ => FunctionCallAction.fits_iff
  | addKey => exact fun _ => AddKeyAction.fits_iff
  | action => exact fun _ => Action.fits_iff
  | callPermission => exact fun _ => FunctionCallPermission.fits_iff
  | permission => exact fun _ => AccessKeyPermission.fits_iff
  | accessKey => exact fun _ => AccessKey.fits_iff
  | transaction => exact fun _ => Transaction.fits_iff
  | signedTransaction => exact fun _ => SignedTransaction.fits_iff
  | accountId => exact fun id => iff_of_true id.fits_eq_true trivial
  | deleteAccount =>
    intro value
    show (Wire.fits value.beneficiaryId && true) = true ↔ True
    simp
  | uint8 | uint32 | uint64 | amount | bool | block | emptyBlock | curve | publicKey | signature
  | digest | transfer | stake | deleteKey => exact fun _ => iff_of_true rfl trivial

end BinaryType

namespace Wire

variable {α : Type} [Wire α]

/-- A value is encoded just when it fits, and as what is written for it. -/
theorem encode_eq_ok_iff {value : α} {bytes : Bytes} :
    encode value = .ok bytes ↔ fits value = true ∧ bytes = write value := by
  unfold encode
  by_cases hfits : fits value = true
  · rw [if_pos hfits, Except.ok.injEq, eq_comm]
    exact (and_iff_right hfits).symm
  · rw [if_neg hfits]
    exact iff_of_false nofun fun h => hfits h.1

/-- A whole buffer is read when nothing is left of it. -/
theorem decode_eq_ok_iff {value : α} {bytes : Bytes} :
    decode bytes = .ok value ↔ read bytes = .ok (value, []) := by
  simp only [decode, Except.bind_eq_ok_iff, Prod.exists]
  constructor
  · rintro ⟨value', rest, hread, h⟩
    split at h
    · rename_i hrest
      cases h
      rw [hread, List.isEmpty_iff.mp hrest]
    · cases h
  · intro hread
    exact ⟨value, [], hread, rfl⟩

/-- For a lawful layout, reading is the inverse of encoding in front of any rest. -/
theorem read_eq_ok_iff_encode [Lawful α] {bytes rest : Bytes} {value : α} :
    read bytes = .ok (value, rest) ↔ ∃ front, encode value = .ok front ∧ bytes = front ++ rest := by
  simp only [read_eq_ok_iff, encode_eq_ok_iff]
  constructor
  · rintro ⟨hfits, rfl⟩
    exact ⟨write value, ⟨hfits, rfl⟩, rfl⟩
  · rintro ⟨front, ⟨hfits, rfl⟩, rfl⟩
    exact ⟨hfits, rfl⟩

/-- For a lawful layout, decoding a whole buffer is the inverse of encoding. -/
theorem decode_eq_ok_iff_encode [Lawful α] {bytes : Bytes} {value : α} :
    decode bytes = .ok value ↔ encode value = .ok bytes := by
  rw [decode_eq_ok_iff, read_eq_ok_iff_encode]
  simp

end Wire

namespace BinaryType

/-- Short values and canonical bytes correspond, also inside a longer buffer: every short value
has bytes, and they are read back with whatever follows them left over; and whatever is read from
a buffer has the bytes that were taken off as its own. -/
theorem encode_bijective {sized : Bool} (type : BinaryType sized) :
    (∀ value : type.Value, type.Short value → ∃ bytes, Wire.encode value = .ok bytes ∧
      (∀ rest, Wire.read (bytes ++ rest) = .ok (value, rest)) ∧ Wire.decode bytes = .ok value) ∧
    (∀ (buffer rest : Bytes) (value : type.Value), Wire.read buffer = .ok (value, rest) →
      ∃ bytes, Wire.encode value = .ok bytes ∧ buffer = bytes ++ rest) ∧
    (∀ (buffer : Bytes) (value : type.Value), Wire.decode buffer = .ok value →
      Wire.encode value = .ok buffer) := by
  refine ⟨?_, ?_, ?_⟩
  · intro value hshort
    have hencode : Wire.encode value = .ok (Wire.write value) :=
      Wire.encode_eq_ok_iff.mpr ⟨(type.fits_iff value).mpr hshort, rfl⟩
    refine ⟨Wire.write value, hencode, ?_, ?_⟩
    · exact fun rest => Wire.read_eq_ok_iff_encode.mpr ⟨_, hencode, rfl⟩
    · exact Wire.decode_eq_ok_iff_encode.mpr hencode
  · exact fun buffer rest value hread => Wire.read_eq_ok_iff_encode.mp hread
  · exact fun buffer value hdecode => Wire.decode_eq_ok_iff_encode.mp hdecode

/-- The correspondence at a nested access key, and at buffers that are read without being written
first. -/
theorem encode_bijective_limited_key :
    (∃ bytes, Wire.encode (AccessKey.functionCall none ⟨"bob.near", by decide⟩ ["greet"]) =
        .ok bytes ∧
      (∀ rest, Wire.read (bytes ++ rest) =
        .ok (AccessKey.functionCall none ⟨"bob.near", by decide⟩ ["greet"], rest)) ∧
      Wire.decode bytes =
        .ok (AccessKey.functionCall none ⟨"bob.near", by decide⟩ ["greet"])) ∧
    (∃ bytes, Wire.encode (some 5 : Option UInt32) = .ok bytes ∧
      [1, 5, 0, 0, 0, 9] = bytes ++ [9]) ∧
    Wire.encode (some 5 : Option UInt32) = .ok [1, 5, 0, 0, 0] :=
  ⟨(encode_bijective .accessKey).1 _ (show ShortList ShortText ["greet"] by decide),
    (encode_bijective (.option .uint32)).2.1 [1, 5, 0, 0, 0, 9] [9] (some 5) rfl,
    (encode_bijective (.option .uint32)).2.2 [1, 5, 0, 0, 0] (some 5) rfl⟩

end BinaryType

end LedgerWire
