import LedgerWire.Rpc.Failure

/-!
# Reading the envelope of a failure

An envelope names a category and, under its cause, the cause and the details. Older nodes leave
the details of the cause empty and put them beside it. Reading never fails: what is not
understood becomes an unclassified failure that keeps the envelope and tells the reason.
-/

namespace LedgerWire

namespace RpcFailure

/-- Reads a detail that is a text. -/
def textDetail (details : Json) (name : String) : Except CodecError String :=
  match details.get? name with
  | some (.string text) => .ok text
  | some value => .error (.typeMismatch (.stringMember name) (.kind value.kind))
  | none => .error (.format (.missingMember name))

/-- Reads a detail that is a word. -/
def wordDetail (details : Json) (name : String) : Except CodecError UInt64 :=
  match details.get? name with
  | some value =>
    match value.uint64? with
    | some word => .ok word
    | none => .error (.typeMismatch (.unsignedMember name) (.kind value.kind))
  | none => .error (.format (.missingMember name))

/-- A known failure: its category, its cause, and how it is read from the details. -/
structure Known where
  category : String
  cause : String
  read : Json → Except CodecError RpcFailure

namespace Known

/-- A failure without details. -/
def bare (category cause : String) (failure : RpcFailure) : Known where
  category := category
  cause := cause
  read _ := .ok failure

/-- A failure with one text. -/
def ofText (category cause name : String) (make : String → RpcFailure) : Known where
  category := category
  cause := cause
  read details := (textDetail details name).map make

/-- A failure with one word. -/
def ofWord (category cause name : String) (make : UInt64 → RpcFailure) : Known where
  category := category
  cause := cause
  read details := (wordDetail details name).map make

/-- A failure about a named thing at a block. -/
def ofBlock (category cause name : String) (make : String → UInt64 → String → RpcFailure) :
    Known where
  category := category
  cause := cause
  read details := do
    let subject ← textDetail details name
    let height ← wordDetail details "block_height"
    let hash ← textDetail details "block_hash"
    return make subject height hash

end Known

/-- Reads a block that is gone from its height and digest. -/
def readGarbageCollected (details : Json) : Except CodecError RpcFailure := do
  let height ← wordDetail details "block_height"
  let hash ← textDetail details "block_hash"
  return .garbageCollectedBlock height hash

/-- Reads an execution error. Some nodes wrap it once more, under the name of its family. -/
def readInvalidTransaction (details : Json) : Except CodecError RpcFailure :=
  let error := (details.get? TxExecutionError.registry.family).getD details
  (TxExecutionError.union.decode error).map .invalidTransaction

/-- Failures of the node to answer a well-formed request. -/
def handlerErrors : List Known := [
  .bare "HANDLER_ERROR" "UNKNOWN_BLOCK" .unknownBlock,
  .ofText "HANDLER_ERROR" "UNKNOWN_CHUNK" "chunk_hash" .unknownChunk,
  .bare "HANDLER_ERROR" "UNKNOWN_EPOCH" .unknownEpoch,
  .ofWord "HANDLER_ERROR" "INVALID_SHARD_ID" "shard_id" .invalidShardId,
  .ofWord "HANDLER_ERROR" "UNAVAILABLE_SHARD" "requested_shard_id" .unavailableShard,
  .bare "HANDLER_ERROR" "NO_SYNCED_BLOCKS" .noSyncedBlocks,
  .bare "HANDLER_ERROR" "NOT_SYNCED_YET" .notSyncedYet,
  ⟨"HANDLER_ERROR", "GARBAGE_COLLECTED_BLOCK", readGarbageCollected⟩,
  .ofBlock "HANDLER_ERROR" "INVALID_ACCOUNT" "requested_account_id" .invalidAccount,
  .ofBlock "HANDLER_ERROR" "UNKNOWN_ACCOUNT" "requested_account_id" .unknownAccount,
  .ofBlock "HANDLER_ERROR" "NO_CONTRACT_CODE" "contract_account_id" .noContractCode,
  .ofBlock "HANDLER_ERROR" "TOO_LARGE_CONTRACT_STATE" "contract_account_id"
    .tooLargeContractState,
  .ofBlock "HANDLER_ERROR" "UNKNOWN_ACCESS_KEY" "public_key" .unknownAccessKey,
  .ofBlock "HANDLER_ERROR" "CONTRACT_EXECUTION_ERROR" "vm_error" .contractExecutionError,
  .ofText "HANDLER_ERROR" "UNKNOWN_TRANSACTION" "requested_transaction_hash" .unknownTransaction,
  .ofText "HANDLER_ERROR" "UNKNOWN_RECEIPT" "receipt_id" .unknownReceipt,
  ⟨"HANDLER_ERROR", "INVALID_TRANSACTION", readInvalidTransaction⟩,
  .ofText "HANDLER_ERROR" "REQUEST_ROUTED" "transaction_hash" .requestRouted,
  .bare "HANDLER_ERROR" "DOES_NOT_TRACK_SHARD" .doesNotTrackShard,
  .bare "HANDLER_ERROR" "TIMEOUT_ERROR" .timeoutError]

/-- Failures of the request itself. -/
def requestErrors : List Known := [
  .ofText "REQUEST_VALIDATION_ERROR" "PARSE_ERROR" "error_message" .parseError,
  .ofText "REQUEST_VALIDATION_ERROR" "METHOD_NOT_FOUND" "method_name" .methodNotFound]

/-- Failures inside the node. -/
def internalErrors : List Known := [
  .ofText "INTERNAL_ERROR" "INTERNAL_ERROR" "error_message" .internalError]

/-- All known failures. -/
def known : List Known := handlerErrors ++ requestErrors ++ internalErrors

/-- The known failure with the given category and cause. -/
def known? (category cause : String) : Option Known :=
  known.find? fun entry => entry.category == category && entry.cause == cause

/-- Whether a value carries no details. -/
def isEmpty : Json → Bool
  | .null => true
  | .object members => members.isEmpty
  | _ => false

/-- The category that an envelope names. -/
def category? (envelope : Json) : Option String := (envelope.get? "name").bind Json.string?

/-- The cause that an envelope names. -/
def cause? (envelope : Json) : Option String :=
  (envelope.get? "cause").bind fun cause => (cause.get? "name").bind Json.string?

/-- The details of an envelope: those of the cause when there are any, and otherwise those
beside it. -/
def details (envelope : Json) : Json :=
  let beside := (envelope.get? "data").getD .null
  match (envelope.get? "cause").bind (·.get? "info") with
  | some info => if isEmpty info then beside else info
  | none => beside

/-- Reads an envelope that is not a bare text. -/
def ofNames (envelope : Json) : RpcFailure :=
  let unclassified := RpcFailure.unclassified (category? envelope) (cause? envelope) envelope
  match category? envelope, cause? envelope with
  | some category, some cause =>
    match known? category cause with
    | none => unclassified .unknownPair
    | some entry =>
      match entry.read (details envelope) with
      | .ok failure => failure
      | .error error => unclassified (.detail error)
  | _, _ => unclassified .unnamed

/-- Reads an envelope. -/
def ofEnvelope : Json → RpcFailure
  | .string text => .message text
  | envelope => ofNames envelope

end RpcFailure

end LedgerWire
