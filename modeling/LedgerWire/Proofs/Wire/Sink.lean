import LedgerWire.Proofs.Wire.Canonical
import LedgerWire.Wire.Sink

/-!
# Writing into a buffer appends

Putting a value behind what a buffer holds gives that buffer followed by the bytes of the value,
or fails when the value has none. The parts of a value are put one after another, so the law for
a value follows from the laws for its parts.
-/

namespace LedgerWire

/-- Puts bytes behind those of a buffer, unless they are not to be put at all. -/
def Sink.append (fits : Bool) (bytes buffer : Bytes) : Except CodecError Bytes :=
  if fits then .ok (buffer ++ bytes) else .error (.format .tooLong)

/-- A type whose values are put as their bytes, or not at all. -/
class Sink.Lawful (α : Type) [Wire α] [Sink α] : Prop where
  put_eq (value : α) (buffer : Bytes) :
    Sink.put value buffer = append (Wire.fits value) (Wire.write value) buffer
  slice?_eq {values : List α} {bytes : Bytes} (hslice : Sink.slice? values = some bytes) :
    values.all Wire.fits = true ∧ bytes = values.flatMap Wire.write := by exact nofun

namespace Sink

export Lawful (put_eq slice?_eq)

/-- Two parts that are put one after another are put as one, if both are. -/
theorem append_bind {fits fits' : Bool} {bytes bytes' : Bytes} (buffer : Bytes)
    {next : Bytes → Except CodecError Bytes}
    (hnext : ∀ buffer, next buffer = append fits' bytes' buffer) :
    (append fits bytes buffer >>= next) = append (fits && fits') (bytes ++ bytes') buffer := by
  cases fits with
  | false => rfl
  | true =>
    show next (buffer ++ bytes) = append fits' (bytes ++ bytes') buffer
    rw [hnext, append, append, List.append_assoc]

/-- A count is put behind the buffer if it fits. -/
theorem putCount_eq (count : Nat) (buffer : Bytes) :
    putCount count buffer = append (Wire.countFits count) (Wire.writeCount count) buffer := by
  by_cases hcount : count < 2 ^ 32
  · rw [putCount, if_pos hcount, append, if_pos (Wire.countFits_iff.mpr hcount)]
    rfl
  · rw [putCount, if_neg hcount, append, if_neg (mt Wire.countFits_iff.mp hcount)]

variable {α : Type} [Wire α] [Sink α] [Lawful α]

/-- Putting a value appends the bytes that it is encoded to. -/
theorem put_eq_encode (value : α) (buffer : Bytes) :
    put value buffer = (Wire.encode value).map (buffer ++ ·) := by
  rw [put_eq, append, Wire.encode]
  cases Wire.fits value <;> rfl

/-- Items are put behind the buffer one after the other, if all of them fit. -/
theorem putItems_eq (values : List α) (buffer : Bytes) :
    putItems values buffer =
      append (values.all Wire.fits) (values.flatMap Wire.write) buffer := by
  induction values generalizing buffer with
  | nil => simp [putItems, append]
  | cons value values ih =>
    rw [putItems, put_eq, append_bind buffer ih, List.all_cons, List.flatMap_cons]

end Sink

open Sink (put_eq append_bind)

/-! ### Words, texts and lists -/

instance : Sink.Lawful Unit where
  put_eq _ buffer := by
    show Except.ok buffer = .ok (buffer ++ [])
    rw [List.append_nil]

instance : Sink.Lawful UInt8 where
  put_eq _ _ := rfl
  slice?_eq {values bytes} hslice := by
    cases hslice
    exact ⟨by simp [Wire.fits], by simp [Wire.write]⟩

instance : Sink.Lawful UInt32 where
  put_eq _ _ := rfl

instance : Sink.Lawful UInt64 where
  put_eq _ _ := rfl

instance : Sink.Lawful Amount where
  put_eq _ _ := rfl

instance : Sink.Lawful Bool where
  put_eq _ _ := rfl

instance {size : Nat} : Sink.Lawful (Block size) where
  put_eq _ _ := rfl

instance {α β : Type} [Wire α] [Sink α] [Sink.Lawful α] [Wire β] [Sink β] [Sink.Lawful β] :
    Sink.Lawful (α × β) where
  put_eq pair buffer := by
    show (do
      let buffer ← Sink.put pair.1 buffer
      Sink.put pair.2 buffer) =
        Sink.append (Wire.fits pair.1 && Wire.fits pair.2)
          (Wire.write pair.1 ++ Wire.write pair.2) buffer
    rw [put_eq, append_bind buffer (put_eq pair.2)]

instance {α : Type} [Wire α] [Wire.Sized α] [Sink α] [Sink.Lawful α] :
    Sink.Lawful (List α) where
  put_eq values buffer := by
    have hitems : ∀ buffer, (match Sink.slice? values with
        | some bytes => Sink.putBytes bytes buffer
        | none => Sink.putItems values buffer) =
          Sink.append (values.all Wire.fits) (values.flatMap Wire.write) buffer := by
      intro buffer
      cases hslice : Sink.slice? values with
      | none => exact Sink.putItems_eq values buffer
      | some bytes =>
        obtain ⟨hfits, rfl⟩ := Sink.slice?_eq hslice
        rw [hfits]
        rfl
    show (do
      let buffer ← Sink.putCount values.length buffer
      match Sink.slice? values with
      | some bytes => Sink.putBytes bytes buffer
      | none => Sink.putItems values buffer) =
        Sink.append (Wire.countFits values.length && values.all Wire.fits)
          (Wire.writeCount values.length ++ values.flatMap Wire.write) buffer
    rw [Sink.putCount_eq, append_bind buffer hitems]

instance : Sink.Lawful String where
  put_eq text buffer := by
    have hbytes : ∀ buffer, Sink.putBytes (Utf8.encode text) buffer =
        Sink.append true (Utf8.encode text) buffer := fun _ => rfl
    show (do
      let buffer ← Sink.putCount (Utf8.encode text).length buffer
      Sink.putBytes (Utf8.encode text) buffer) =
        Sink.append (Wire.countFits (Utf8.encode text).length)
          (Wire.writeCount (Utf8.encode text).length ++ Utf8.encode text) buffer
    rw [Sink.putCount_eq, append_bind buffer hbytes, Bool.and_true]

instance {α : Type} [Wire α] [Sink α] [Sink.Lawful α] : Sink.Lawful (Option α) where
  put_eq value buffer := by
    cases value with
    | none => rfl
    | some value =>
      show (Sink.append true [1] buffer >>= Sink.put value) =
        Sink.append (Wire.fits value) ([1] ++ Wire.write value) buffer
      rw [append_bind buffer (put_eq value), Bool.true_and]

/-- A record is put as its bytes when its row is. -/
theorem Sink.Lawful.ofRow {ρ τ : Type} [Wire τ] [Sink τ] [Sink.Lawful τ] (row : Row ρ τ) :
    letI := Wire.ofRow row
    letI := Sink.ofRow row
    Sink.Lawful ρ :=
  letI := Wire.ofRow row
  letI := Sink.ofRow row
  { put_eq := fun record buffer => put_eq (row.toRow record) buffer }

/-! ### The ledger -/

instance : Sink.Lawful AccountId where
  put_eq id buffer := put_eq id.text buffer

instance : Sink.Lawful Curve where
  put_eq _ _ := rfl

instance : Sink.Lawful Digest where
  put_eq _ _ := rfl

instance : Sink.Lawful PublicKey := .ofRow PublicKey.row

instance : Sink.Lawful Signature := .ofRow Signature.row

instance : Sink.Lawful FunctionCallPermission := .ofRow FunctionCallPermission.row

/-- In a registry with ordinals the ordinal of a value is always found. -/
theorem Sink.putOrdinal_eq {τ υ : Type} [DecidableEq τ] [VariantTag τ] (union : Tagged τ υ)
    (numbered : union.registry.hasOrdinals = true) (value : υ) (buffer : Bytes) :
    putOrdinal union value buffer =
      append true [union.registry.ordinalOf numbered (union.tag value)] buffer := by
  have hordinal : (union.registry.variant (union.tag value)).ordinal =
      some (union.registry.ordinalOf numbered (union.tag value)) := (Option.some_get _).symm
  unfold putOrdinal Registry.ordinal
  rw [hordinal]
  rfl

/-- A value that is put as the ordinal of its tag and a body is put as its bytes when the body
is. -/
theorem Sink.putTagged_eq {τ υ : Type} [DecidableEq τ] [VariantTag τ] {union : Tagged τ υ}
    (numbered : union.registry.hasOrdinals = true) {value : υ} {fits : Bool} {body : Bytes}
    {putBody : Bytes → Except CodecError Bytes}
    (hbody : ∀ buffer, putBody buffer = append fits body buffer) (buffer : Bytes) :
    (putOrdinal union value buffer >>= putBody) =
      append fits (union.registry.ordinalOf numbered (union.tag value) :: body) buffer := by
  rw [putOrdinal_eq union numbered, append_bind buffer hbody, Bool.true_and,
    List.singleton_append]

/-- The body of a permission is put behind the buffer if the permission fits. -/
theorem AccessKeyPermission.putBody_eq (permission : AccessKeyPermission) (buffer : Bytes) :
    permission.putBody buffer =
      Sink.append (Wire.fits permission) permission.writeBody buffer := by
  cases permission with
  | fullAccess => exact put_eq () buffer
  | functionCall permission => exact put_eq permission buffer

instance : Sink.Lawful AccessKeyPermission where
  put_eq permission buffer := Sink.putTagged_eq rfl permission.putBody_eq buffer

instance : Sink.Lawful AccessKey := .ofRow AccessKey.row

instance : Sink.Lawful DeployContractAction := .ofRow DeployContractAction.row

instance : Sink.Lawful FunctionCallAction := .ofRow FunctionCallAction.row

instance : Sink.Lawful TransferAction := .ofRow TransferAction.row

instance : Sink.Lawful StakeAction := .ofRow StakeAction.row

instance : Sink.Lawful AddKeyAction := .ofRow AddKeyAction.row

instance : Sink.Lawful DeleteKeyAction := .ofRow DeleteKeyAction.row

instance : Sink.Lawful DeleteAccountAction := .ofRow DeleteAccountAction.row

/-- The body of an action is put behind the buffer if the action fits. -/
theorem Action.putBody_eq (action : Action) (buffer : Bytes) :
    action.putBody buffer = Sink.append (Wire.fits action) action.writeBody buffer := by
  cases action with
  | createAccount => exact put_eq () buffer
  | addKey a | deleteAccount a | deleteKey a | deployContract a | functionCall a | stake a
  | stakeChunkOnly a | transfer a => exact put_eq a buffer

instance : Sink.Lawful Action where
  put_eq action buffer := Sink.putTagged_eq rfl action.putBody_eq buffer

instance : Sink.Lawful Transaction := .ofRow Transaction.row

instance : Sink.Lawful SignedTransaction := .ofRow SignedTransaction.row

namespace BinaryType

instance sink : {sized : Bool} → (type : BinaryType sized) → Sink type.Value
  | _, uint8 => inferInstanceAs (Sink UInt8)
  | _, uint32 => inferInstanceAs (Sink UInt32)
  | _, uint64 => inferInstanceAs (Sink UInt64)
  | _, amount => inferInstanceAs (Sink Amount)
  | _, bool => inferInstanceAs (Sink Bool)
  | _, text => inferInstanceAs (Sink String)
  | _, block size _ => inferInstanceAs (Sink (Block size))
  | _, emptyBlock => inferInstanceAs (Sink (Block 0))
  | _, list item =>
    letI := sink item
    inferInstanceAs (Sink (List item.Value))
  | _, option item =>
    letI := sink item
    inferInstanceAs (Sink (Option item.Value))
  | _, curve => inferInstanceAs (Sink Curve)
  | _, accountId => inferInstanceAs (Sink AccountId)
  | _, publicKey => inferInstanceAs (Sink PublicKey)
  | _, signature => inferInstanceAs (Sink Signature)
  | _, digest => inferInstanceAs (Sink Digest)
  | _, deployContract => inferInstanceAs (Sink DeployContractAction)
  | _, functionCall => inferInstanceAs (Sink FunctionCallAction)
  | _, transfer => inferInstanceAs (Sink TransferAction)
  | _, stake => inferInstanceAs (Sink StakeAction)
  | _, addKey => inferInstanceAs (Sink AddKeyAction)
  | _, deleteKey => inferInstanceAs (Sink DeleteKeyAction)
  | _, deleteAccount => inferInstanceAs (Sink DeleteAccountAction)
  | _, action => inferInstanceAs (Sink Action)
  | _, callPermission => inferInstanceAs (Sink FunctionCallPermission)
  | _, permission => inferInstanceAs (Sink AccessKeyPermission)
  | _, accessKey => inferInstanceAs (Sink AccessKey)
  | _, transaction => inferInstanceAs (Sink Transaction)
  | _, signedTransaction => inferInstanceAs (Sink SignedTransaction)

instance lawfulSink : {sized : Bool} → (type : BinaryType sized) → Sink.Lawful type.Value
  | _, uint8 => inferInstanceAs (Sink.Lawful UInt8)
  | _, uint32 => inferInstanceAs (Sink.Lawful UInt32)
  | _, uint64 => inferInstanceAs (Sink.Lawful UInt64)
  | _, amount => inferInstanceAs (Sink.Lawful Amount)
  | _, bool => inferInstanceAs (Sink.Lawful Bool)
  | _, text => inferInstanceAs (Sink.Lawful String)
  | _, block size _ => inferInstanceAs (Sink.Lawful (Block size))
  | _, emptyBlock => inferInstanceAs (Sink.Lawful (Block 0))
  | _, list item =>
    have := lawfulSink item
    inferInstanceAs (Sink.Lawful (List item.Value))
  | _, option item =>
    have := lawfulSink item
    inferInstanceAs (Sink.Lawful (Option item.Value))
  | _, curve => inferInstanceAs (Sink.Lawful Curve)
  | _, accountId => inferInstanceAs (Sink.Lawful AccountId)
  | _, publicKey => inferInstanceAs (Sink.Lawful PublicKey)
  | _, signature => inferInstanceAs (Sink.Lawful Signature)
  | _, digest => inferInstanceAs (Sink.Lawful Digest)
  | _, deployContract => inferInstanceAs (Sink.Lawful DeployContractAction)
  | _, functionCall => inferInstanceAs (Sink.Lawful FunctionCallAction)
  | _, transfer => inferInstanceAs (Sink.Lawful TransferAction)
  | _, stake => inferInstanceAs (Sink.Lawful StakeAction)
  | _, addKey => inferInstanceAs (Sink.Lawful AddKeyAction)
  | _, deleteKey => inferInstanceAs (Sink.Lawful DeleteKeyAction)
  | _, deleteAccount => inferInstanceAs (Sink.Lawful DeleteAccountAction)
  | _, action => inferInstanceAs (Sink.Lawful Action)
  | _, callPermission => inferInstanceAs (Sink.Lawful FunctionCallPermission)
  | _, permission => inferInstanceAs (Sink.Lawful AccessKeyPermission)
  | _, accessKey => inferInstanceAs (Sink.Lawful AccessKey)
  | _, transaction => inferInstanceAs (Sink.Lawful Transaction)
  | _, signedTransaction => inferInstanceAs (Sink.Lawful SignedTransaction)

end BinaryType

end LedgerWire
