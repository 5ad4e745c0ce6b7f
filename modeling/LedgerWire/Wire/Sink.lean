import LedgerWire.Transaction

/-!
# Writing into a buffer

A value is put behind whatever a buffer holds already, one part after another. The length of a
text or list is checked when it is about to be written, and the first one that does not fit its
count ends the writing.
-/

namespace LedgerWire

/-- How a value is put at the end of a buffer. -/
class Sink (α : Type) where
  put : α → Bytes → Except CodecError Bytes
  /-- The bytes of a whole list of values, for types of which they are known at once. -/
  slice? : List α → Option Bytes := fun _ => none

namespace Sink

/-- Puts bytes as they are. -/
def putBytes (bytes buffer : Bytes) : Except CodecError Bytes := .ok (buffer ++ bytes)

/-- Puts the length of a text or list, unless it is past the four bytes it has. -/
def putCount (count : Nat) (buffer : Bytes) : Except CodecError Bytes :=
  if count < 2 ^ 32 then putBytes (Bytes.littleEndian 4 count) buffer
  else .error (.format .tooLong)

/-- Puts the items of a list one after another. -/
def putItems {α : Type} [Sink α] : List α → Bytes → Except CodecError Bytes
  | [], buffer => .ok buffer
  | item :: rest, buffer => do
    let buffer ← put item buffer
    putItems rest buffer

/-- Puts the ordinal of the variant of a value. -/
def putOrdinal {τ υ : Type} [DecidableEq τ] [VariantTag τ] (union : Tagged τ υ) (value : υ)
    (buffer : Bytes) : Except CodecError Bytes := do
  let ordinal ← union.registry.ordinal (union.tag value)
  putBytes [ordinal] buffer

/-- Puts a record field by field, in the order of their declaration. -/
@[reducible]
def ofRow {ρ τ : Type} [Sink τ] (row : Row ρ τ) : Sink ρ where
  put record := put (row.toRow record)

end Sink

instance : Sink Unit where
  put _ buffer := .ok buffer

instance {α β : Type} [Sink α] [Sink β] : Sink (α × β) where
  put pair buffer := do
    let buffer ← Sink.put pair.1 buffer
    Sink.put pair.2 buffer

instance : Sink UInt8 where
  put byte := Sink.putBytes [byte]
  slice? := some

instance : Sink UInt32 where
  put word := Sink.putBytes (Bytes.littleEndian 4 word.toNat)

instance : Sink UInt64 where
  put word := Sink.putBytes (Bytes.littleEndian 8 word.toNat)

instance : Sink Amount where
  put amount := Sink.putBytes (Bytes.littleEndian 16 amount.units)

instance : Sink Bool where
  put value := Sink.putBytes [if value then 1 else 0]

instance {size : Nat} : Sink (Block size) where
  put block := Sink.putBytes block.bytes

instance {α : Type} [Sink α] [Wire.Sized α] : Sink (List α) where
  put values buffer := do
    let buffer ← Sink.putCount values.length buffer
    match Sink.slice? values with
    | some bytes => Sink.putBytes bytes buffer
    | none => Sink.putItems values buffer

instance : Sink String where
  put text buffer := do
    let bytes := Utf8.encode text
    let buffer ← Sink.putCount bytes.length buffer
    Sink.putBytes bytes buffer

instance {α : Type} [Sink α] : Sink (Option α) where
  put
    | none, buffer => Sink.put (0 : UInt8) buffer
    | some value, buffer => do
      let buffer ← Sink.put (1 : UInt8) buffer
      Sink.put value buffer

/-! ### The ledger -/

instance : Sink AccountId where
  put id := Sink.put id.text

instance : Sink Curve where
  put curve := Sink.put curve.ordinal

instance : Sink Digest where
  put digest := Sink.put digest.data

instance : Sink PublicKey := Sink.ofRow PublicKey.row

instance : Sink Signature := Sink.ofRow Signature.row

instance : Sink FunctionCallPermission := Sink.ofRow FunctionCallPermission.row

/-- Puts what follows the ordinal of a permission. -/
def AccessKeyPermission.putBody : AccessKeyPermission → Bytes → Except CodecError Bytes
  | .fullAccess, buffer => .ok buffer
  | .functionCall permission, buffer => Sink.put permission buffer

instance : Sink AccessKeyPermission where
  put permission buffer := do
    let buffer ← Sink.putOrdinal AccessKeyPermission.union permission buffer
    permission.putBody buffer

instance : Sink AccessKey := Sink.ofRow AccessKey.row

instance : Sink DeployContractAction := Sink.ofRow DeployContractAction.row

instance : Sink FunctionCallAction := Sink.ofRow FunctionCallAction.row

instance : Sink TransferAction := Sink.ofRow TransferAction.row

instance : Sink StakeAction := Sink.ofRow StakeAction.row

instance : Sink AddKeyAction := Sink.ofRow AddKeyAction.row

instance : Sink DeleteKeyAction := Sink.ofRow DeleteKeyAction.row

instance : Sink DeleteAccountAction := Sink.ofRow DeleteAccountAction.row

/-- Puts what follows the ordinal of an action. -/
def Action.putBody : Action → Bytes → Except CodecError Bytes
  | .addKey a, buffer => Sink.put a buffer
  | .createAccount, buffer => .ok buffer
  | .deleteAccount a, buffer => Sink.put a buffer
  | .deleteKey a, buffer => Sink.put a buffer
  | .deployContract a, buffer => Sink.put a buffer
  | .functionCall a, buffer => Sink.put a buffer
  | .stake a, buffer => Sink.put a buffer
  | .stakeChunkOnly a, buffer => Sink.put a buffer
  | .transfer a, buffer => Sink.put a buffer

instance : Sink Action where
  put action buffer := do
    let buffer ← Sink.putOrdinal Action.union action buffer
    action.putBody buffer

instance : Sink Transaction := Sink.ofRow Transaction.row

instance : Sink SignedTransaction := Sink.ofRow SignedTransaction.row

end LedgerWire
