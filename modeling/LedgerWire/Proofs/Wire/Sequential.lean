import LedgerWire.Proofs.Wire.Canonical

/-!
# Readers that take one part after another

Every reader of the binary format is put together in the same few ways: it takes a byte or a block
off the front, looks up the ordinal that a byte is, goes on with what a part turned out to be, and
at some point is done or refuses what it has read. A law of readers is therefore proved once, by
induction on how a reader is put together. A byte that is no ordinal is reported with the name of
its family.
-/

namespace LedgerWire

/-- A byte that is the ordinal of nothing in the family of the given name. -/
inductive Unassigned : String → UInt8 → Prop where
  | action {byte : UInt8} (free : ∀ tag, Action.registry.ordinalOf rfl tag ≠ byte) :
      Unassigned "Action" byte
  | permission {byte : UInt8}
      (free : ∀ tag, AccessKeyPermission.registry.ordinalOf rfl tag ≠ byte) :
      Unassigned "AccessKeyPermission" byte
  | curve {byte : UInt8} (free : ∀ curve : Curve, curve.ordinal ≠ byte) :
      Unassigned "KeyType" byte

/-- A lookup of ordinals that fails only on bytes that are unassigned in the family, and tells the
family and the byte. -/
def TellsUnassigned {α : Type} (family : String) (meaning : UInt8 → Except CodecError α) : Prop :=
  ∀ {byte error}, meaning byte = .error error →
    Unassigned family byte ∧ error = .unknownVariant family (Decimal.write byte.toNat)

namespace Wire

/-- A reader that takes one part after another off the front of a buffer. -/
inductive Sequential : {α : Type} → Reader α → Prop where
  | done {α : Type} (value : α) : Sequential fun bytes => .ok (value, bytes)
  | refuse {α : Type} (fault : FormatFault) :
      Sequential fun _ => (.error (.format fault) : Except CodecError (α × Bytes))
  | byte : Sequential (read : Reader UInt8)
  | block (size : Nat) : Sequential (take size)
  | ordinal {α : Type} {family : String} {meaning : UInt8 → Except CodecError α}
      (tells : TellsUnassigned family meaning) :
      Sequential fun bytes => (read bytes : Except CodecError (UInt8 × Bytes)) >>= fun front =>
        (meaning front.1).map fun value => (value, front.2)
  | next {α β : Type} {first : Reader α} {second : α → Reader β} (hfirst : Sequential first)
      (hsecond : ∀ value, Sequential (second value)) :
      Sequential fun bytes => first bytes >>= fun front => second front.1 front.2

namespace Sequential

variable {α β ε : Type} {first : Reader α}

/-- What was read may be turned into something else. -/
theorem map (hfirst : Sequential first) (f : α → β) :
    Sequential fun bytes => (first bytes).map fun front => (f front.1, front.2) := by
  have hmap : (fun bytes => (first bytes).map fun front => (f front.1, front.2)) =
      fun bytes => first bytes >>= fun front => .ok (f front.1, front.2) := by
    funext bytes
    cases first bytes <;> rfl
  rw [hmap]
  exact hfirst.next fun value => done (f value)

/-- What was read may be refused when it is looked at. -/
theorem checked (hfirst : Sequential first) (check : α → Except ε β) (reason : ε → FormatFault) :
    Sequential fun bytes => first bytes >>= fun front =>
      ((check front.1).mapError fun fault => .format (reason fault)).map fun value =>
        (value, front.2) := by
  have hchecked : ∀ value, Sequential fun rest =>
      ((check value).mapError fun fault => .format (reason fault)).map fun value =>
        (value, rest) := by
    intro value
    cases check value with
    | ok checked => exact done checked
    | error fault => exact refuse (reason fault)
  exact hfirst.next hchecked

/-- The way on may depend on the first byte, and there has to be one. -/
theorem onByte {reader : Reader α} (hnil : reader [] = .error (.format .unexpectedEnd))
    (hcons : ∀ byte, Sequential fun rest => reader (byte :: rest)) : Sequential reader := by
  have hread : reader = fun bytes => (read bytes : Except CodecError (UInt8 × Bytes)) >>=
      fun front => reader (front.1 :: front.2) := by
    funext bytes
    cases bytes with
    | nil => exact hnil
    | cons byte rest => rfl
  rw [hread]
  exact Sequential.byte.next hcons

/-- Reading a number is sequential. -/
theorem number (width : Nat) : Sequential (takeNat width) :=
  (block width).map fun front => Bytes.ofLittleEndian front.bytes

/-- Reading a count of items is sequential if reading an item is. -/
theorem many (hfirst : Sequential first) (count : Nat) : Sequential (readMany first count) := by
  induction count with
  | zero => exact done []
  | succ count ih => exact hfirst.next fun value => ih.next fun values => done (value :: values)

end Sequential

/-- A type that is read one part after another. -/
class InSequence (α : Type) [Wire α] : Prop where
  sequential : Sequential (read : Reader α)

export InSequence (sequential)

end Wire

open Wire (InSequence Sequential)

/-! ### Words, texts and lists -/

instance : InSequence Unit := ⟨.done ()⟩

instance : InSequence UInt8 := ⟨.byte⟩

instance : InSequence UInt32 := ⟨(Sequential.number 4).map UInt32.ofNat⟩

instance : InSequence UInt64 := ⟨(Sequential.number 8).map UInt64.ofNat⟩

instance : InSequence Amount := ⟨(Sequential.block 16).map Amount.ofBlock⟩

instance {size : Nat} : InSequence (Block size) := ⟨.block size⟩

instance {α β : Type} [Wire α] [Wire β] [InSequence α] [InSequence β] : InSequence (α × β) where
  sequential := Wire.sequential.next fun first : α => Wire.sequential.next fun second : β =>
    .done (first, second)

instance {α : Type} [Wire α] [Wire.Sized α] [InSequence α] : InSequence (List α) where
  sequential := (Sequential.number 4).next fun count => Wire.sequential.many count

instance : InSequence Bool where
  sequential := by
    refine .onByte rfl fun byte => ?_
    show Sequential fun rest =>
      if byte = 0 then .ok (false, rest)
      else if byte = 1 then .ok (true, rest)
      else .error (.format (.invalidBool byte))
    by_cases hzero : byte = 0
    · simpa only [if_pos hzero] using .done false
    · by_cases hone : byte = 1
      · simpa only [if_neg hzero, if_pos hone] using .done true
      · simpa only [if_neg hzero, if_neg hone] using .refuse (.invalidBool byte)

instance {α : Type} [Wire α] [InSequence α] : InSequence (Option α) where
  sequential := by
    refine .onByte rfl fun byte => ?_
    show Sequential fun rest =>
      if byte = 0 then .ok (none, rest)
      else if byte = 1 then
        (Wire.read rest : Except CodecError (α × Bytes)).map fun front => (some front.1, front.2)
      else .error (.format (.invalidOption byte))
    by_cases hzero : byte = 0
    · simpa only [if_pos hzero] using .done none
    · by_cases hone : byte = 1
      · simpa only [if_neg hzero, if_pos hone] using Wire.sequential.map some
      · simpa only [if_neg hzero, if_neg hone] using .refuse (.invalidOption byte)

instance : InSequence String where
  sequential := by
    have hread : (Wire.read : Reader String) = fun bytes =>
        Wire.takeNat 4 bytes >>= fun count => Wire.take count.1 count.2 >>= fun front =>
          ((Utf8.decode front.1.bytes).mapError fun fault => .format (.utf8 fault)).map fun text =>
            (text, front.2) := by
      funext bytes
      show (Wire.takeNat 4 bytes >>= _) = _
      refine bind_congr fun count => bind_congr fun front => ?_
      obtain ⟨front, rest⟩ := front
      simp only
      cases Utf8.decode front.bytes <;> rfl
    rw [hread]
    exact (Sequential.number 4).next fun count =>
      (Sequential.block count).checked (fun front => Utf8.decode front.bytes) .utf8

/-! ### The ledger -/

instance : InSequence AccountId where
  sequential := by
    have hread : (Wire.read : Reader AccountId) = fun bytes =>
        (Wire.read bytes : Except CodecError (String × Bytes)) >>= fun front =>
          ((AccountId.ofText front.1).mapError fun fault =>
            .format (.argument (.account fault))).map fun id => (id, front.2) := by
      funext bytes
      show ((Wire.read bytes : Except CodecError (String × Bytes)) >>= _) = _
      refine bind_congr fun front => ?_
      obtain ⟨name, rest⟩ := front
      simp only
      cases AccountId.ofText name <;> rfl
    rw [hread]
    exact Wire.sequential.checked AccountId.ofText fun fault => .argument (.account fault)

/-- A byte of no curve is told with the name of the family. -/
theorem Curve.ofOrdinal_tells : TellsUnassigned "KeyType" ofOrdinal := by
  intro byte error h
  simp only [ofOrdinal] at h
  split at h
  · cases h
  · rename_i hbyte
    cases h
    exact ⟨.curve fun curve hcurve => hbyte (by cases curve; exact hcurve.symm), rfl⟩

instance : InSequence Curve := ⟨.ordinal Curve.ofOrdinal_tells⟩

instance : InSequence Digest := ⟨(Sequential.block 32).map Digest.mk⟩

/-- A record is read in sequence when its row is. -/
theorem Wire.InSequence.ofRow {ρ τ : Type} [Wire τ] [InSequence τ] (row : Row ρ τ) :
    letI := Wire.ofRow row
    InSequence ρ :=
  letI := Wire.ofRow row
  ⟨(Wire.sequential (α := τ)).map row.ofRow⟩

instance : InSequence PublicKey := .ofRow PublicKey.row

instance : InSequence Signature := .ofRow Signature.row

/-- A byte that is the ordinal of no tag is told with the name of the family. -/
theorem Registry.free_of_tagOf_eq_error {τ υ : Type} [DecidableEq τ] [VariantTag τ]
    {registry : Registry τ υ} (numbered : registry.hasOrdinals = true) {byte : UInt8}
    {error : CodecError} (h : registry.tagOf byte = .error error) :
    (∀ tag, registry.ordinalOf numbered tag ≠ byte) ∧
      error = .unknownVariant registry.family (Decimal.write byte.toNat) := by
  constructor
  · rintro tag rfl
    rw [Registry.tagOf_ordinalOf numbered] at h
    cases h
  · unfold Registry.tagOf at h
    split at h
    · cases h
    · cases h
      rfl

/-- The body behind an ordinal is read in sequence when the body of each tag is. Looking up the tag
is a step of its own, which may fail before any body is read. -/
theorem Wire.Sequential.tagged {τ υ : Type} [DecidableEq τ] [VariantTag τ]
    {registry : Registry τ υ} (tells : TellsUnassigned registry.family registry.tagOf)
    {readBody : τ → Reader υ} (hbody : ∀ tag, Sequential (readBody tag)) :
    Sequential fun bytes => (Wire.read bytes : Except CodecError (UInt8 × Bytes)) >>= fun front =>
      registry.tagOf front.1 >>= fun tag => readBody tag front.2 := by
  have hread : (fun bytes => (Wire.read bytes : Except CodecError (UInt8 × Bytes)) >>= fun front =>
      registry.tagOf front.1 >>= fun tag => readBody tag front.2) = fun bytes =>
        ((Wire.read bytes : Except CodecError (UInt8 × Bytes)) >>= fun front =>
          (registry.tagOf front.1).map fun tag => (tag, front.2)) >>= fun front =>
        readBody front.1 front.2 := by
    funext bytes
    rw [bind_assoc]
    refine bind_congr fun front => ?_
    cases registry.tagOf front.1 <;> rfl
  rw [hread]
  exact (Sequential.ordinal tells).next hbody

/-! ### Access keys -/

instance : InSequence FunctionCallPermission := .ofRow FunctionCallPermission.row

/-- The body of a permission is read in sequence. -/
theorem AccessKeyPermission.readBody_sequential (tag : Tag) : Sequential (readBody tag) := by
  cases tag with
  | fullAccess => exact .done AccessKeyPermission.fullAccess
  | functionCall => exact Wire.sequential.map AccessKeyPermission.functionCall

/-- The lookup of permissions tells the unassigned ordinals. -/
theorem AccessKeyPermission.tagOf_tells : TellsUnassigned "AccessKeyPermission" registry.tagOf :=
  fun h => (Registry.free_of_tagOf_eq_error rfl h).imp_left .permission

instance : InSequence AccessKeyPermission :=
  ⟨.tagged AccessKeyPermission.tagOf_tells AccessKeyPermission.readBody_sequential⟩

instance : InSequence AccessKey := .ofRow AccessKey.row

/-! ### Actions and transactions -/

instance : InSequence DeployContractAction := .ofRow DeployContractAction.row

instance : InSequence FunctionCallAction := .ofRow FunctionCallAction.row

instance : InSequence TransferAction := .ofRow TransferAction.row

instance : InSequence StakeAction := .ofRow StakeAction.row

instance : InSequence AddKeyAction := .ofRow AddKeyAction.row

instance : InSequence DeleteKeyAction := .ofRow DeleteKeyAction.row

instance : InSequence DeleteAccountAction := .ofRow DeleteAccountAction.row

/-- The body of an action is read in sequence. -/
theorem Action.readBody_sequential (tag : Tag) : Sequential (readBody tag) := by
  cases tag with
  | addKey => exact Wire.sequential.map Action.addKey
  | createAccount => exact .done Action.createAccount
  | deleteAccount => exact Wire.sequential.map Action.deleteAccount
  | deleteKey => exact Wire.sequential.map Action.deleteKey
  | deployContract => exact Wire.sequential.map Action.deployContract
  | functionCall => exact Wire.sequential.map Action.functionCall
  | stake => exact Wire.sequential.map Action.stake
  | stakeChunkOnly => exact Wire.sequential.map Action.stakeChunkOnly
  | transfer => exact Wire.sequential.map Action.transfer

/-- The lookup of actions tells the unassigned ordinals. -/
theorem Action.tagOf_tells : TellsUnassigned "Action" registry.tagOf :=
  fun h => (Registry.free_of_tagOf_eq_error rfl h).imp_left .action

instance : InSequence Action := ⟨.tagged Action.tagOf_tells Action.readBody_sequential⟩

instance : InSequence Transaction := .ofRow Transaction.row

instance : InSequence SignedTransaction := .ofRow SignedTransaction.row

instance BinaryType.inSequence :
    {sized : Bool} → (type : BinaryType sized) → InSequence type.Value
  | _, uint8 => inferInstanceAs (InSequence UInt8)
  | _, uint32 => inferInstanceAs (InSequence UInt32)
  | _, uint64 => inferInstanceAs (InSequence UInt64)
  | _, amount => inferInstanceAs (InSequence Amount)
  | _, bool => inferInstanceAs (InSequence Bool)
  | _, text => inferInstanceAs (InSequence String)
  | _, block size _ => inferInstanceAs (InSequence (Block size))
  | _, emptyBlock => inferInstanceAs (InSequence (Block 0))
  | _, list item =>
    have := item.inSequence
    inferInstanceAs (InSequence (List item.Value))
  | _, option item =>
    have := item.inSequence
    inferInstanceAs (InSequence (Option item.Value))
  | _, curve => inferInstanceAs (InSequence Curve)
  | _, accountId => inferInstanceAs (InSequence AccountId)
  | _, publicKey => inferInstanceAs (InSequence PublicKey)
  | _, signature => inferInstanceAs (InSequence Signature)
  | _, digest => inferInstanceAs (InSequence Digest)
  | _, deployContract => inferInstanceAs (InSequence DeployContractAction)
  | _, functionCall => inferInstanceAs (InSequence FunctionCallAction)
  | _, transfer => inferInstanceAs (InSequence TransferAction)
  | _, stake => inferInstanceAs (InSequence StakeAction)
  | _, addKey => inferInstanceAs (InSequence AddKeyAction)
  | _, deleteKey => inferInstanceAs (InSequence DeleteKeyAction)
  | _, deleteAccount => inferInstanceAs (InSequence DeleteAccountAction)
  | _, action => inferInstanceAs (InSequence Action)
  | _, callPermission => inferInstanceAs (InSequence FunctionCallPermission)
  | _, permission => inferInstanceAs (InSequence AccessKeyPermission)
  | _, accessKey => inferInstanceAs (InSequence AccessKey)
  | _, transaction => inferInstanceAs (InSequence Transaction)
  | _, signedTransaction => inferInstanceAs (InSequence SignedTransaction)

end LedgerWire
