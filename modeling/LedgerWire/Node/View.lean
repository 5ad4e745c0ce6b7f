import LedgerWire.AccessKey
import LedgerWire.Digest.Basic

/-!
# What a node tells about keys and blocks

A view of an access key carries the block at which it was looked up. Of a block only the author
and the header are kept, which is what a new transaction refers to.
-/

namespace LedgerWire

/-- An access key as a node shows it. -/
structure AccessKeyView where
  nonce : UInt64
  permission : AccessKeyPermission
  blockHeight : UInt64
  blockHash : Digest
  deriving DecidableEq

/-- The header of a block. -/
structure BlockHeaderView where
  height : UInt64
  epochId : Digest
  hash : Digest
  prevHash : Digest
  timestamp : UInt64
  deriving DecidableEq

/-- A block as a node shows it, as far as a transaction needs it. -/
structure BlockView where
  author : AccountId
  header : BlockHeaderView
  deriving DecidableEq

namespace AccessKeyView

/-- The fields in the order of their declaration. -/
def row : Row AccessKeyView (UInt64 × AccessKeyPermission × UInt64 × Digest × Unit) where
  toRow v := (v.nonce, v.permission, v.blockHeight, v.blockHash, ())
  ofRow := fun (nonce, permission, blockHeight, blockHash, ()) =>
    ⟨nonce, permission, blockHeight, blockHash⟩

/-- The record in JSON. -/
def schema : Schema AccessKeyView :=
  .record "AccessKeyView"
    (.field "nonce" .uint64 none <| .field "permission" AccessKeyPermission.schema none <|
      .field "block_height" .uint64 none <| .field "block_hash" Digest.schema none .done)
    row false

end AccessKeyView

namespace BlockHeaderView

/-- The fields in the order of their declaration. -/
def row : Row BlockHeaderView (UInt64 × Digest × Digest × Digest × UInt64 × Unit) where
  toRow v := (v.height, v.epochId, v.hash, v.prevHash, v.timestamp, ())
  ofRow := fun (height, epochId, hash, prevHash, timestamp, ()) =>
    ⟨height, epochId, hash, prevHash, timestamp⟩

/-- The record in JSON. -/
def schema : Schema BlockHeaderView :=
  .record "BlockHeaderView"
    (.field "height" .uint64 none <| .field "epoch_id" Digest.schema none <|
      .field "hash" Digest.schema none <| .field "prev_hash" Digest.schema none <|
      .field "timestamp" .uint64 none .done)
    row false

end BlockHeaderView

namespace BlockView

/-- The fields in the order of their declaration. -/
def row : Row BlockView (AccountId × BlockHeaderView × Unit) where
  toRow v := (v.author, v.header, ())
  ofRow := fun (author, header, ()) => ⟨author, header⟩

/-- The record in JSON. -/
def schema : Schema BlockView :=
  .record "BlockView"
    (.field "author" AccountId.schema none <| .field "header" BlockHeaderView.schema none .done)
    row false

end BlockView

end LedgerWire
