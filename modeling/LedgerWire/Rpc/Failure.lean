import LedgerWire.Execution.Status

/-!
# Failures that a node reports

A node tells why it did not answer by a category, a cause and some details about the cause. The
details are texts and words, except for a rejected transaction, which carries the whole execution
error. Reports that are none of these are kept too: a bare text, and an envelope that could not
be classified together with the reason.
-/

namespace LedgerWire

/-- Why an envelope was left unclassified. -/
inductive RpcFailure.Reason where
  /-- The category or the cause is missing. -/
  | unnamed
  /-- No known failure has this category and cause. -/
  | unknownPair
  /-- The details do not read as those of the failure. -/
  | detail (error : CodecError)
  deriving DecidableEq

/-- The wording of a reason. -/
def RpcFailure.Reason.message : RpcFailure.Reason → String
  | .unnamed => "envelope has no name/cause"
  | .unknownPair => "unknown error kind"
  | .detail error => error.message

/-- A failure that a node reports. Names, keys and digests in it are kept as the node wrote
them. -/
inductive RpcFailure where
  | unknownBlock
  | unknownChunk (chunkHash : String)
  | unknownEpoch
  | invalidShardId (shardId : UInt64)
  | unavailableShard (shardId : UInt64)
  | noSyncedBlocks
  | notSyncedYet
  | garbageCollectedBlock (blockHeight : UInt64) (blockHash : String)
  | invalidAccount (accountId : String) (blockHeight : UInt64) (blockHash : String)
  | unknownAccount (accountId : String) (blockHeight : UInt64) (blockHash : String)
  | noContractCode (accountId : String) (blockHeight : UInt64) (blockHash : String)
  | tooLargeContractState (accountId : String) (blockHeight : UInt64) (blockHash : String)
  | unknownAccessKey (publicKey : String) (blockHeight : UInt64) (blockHash : String)
  | contractExecutionError (vmError : String) (blockHeight : UInt64) (blockHash : String)
  | unknownTransaction (hash : String)
  | unknownReceipt (id : String)
  | invalidTransaction (error : TxExecutionError)
  | requestRouted (transactionHash : String)
  | doesNotTrackShard
  | timeoutError
  | parseError (reason : String)
  | methodNotFound (method : String)
  | internalError (reason : String)
  /-- The node reported a bare text. -/
  | message (text : String)
  /-- The report was not understood and is kept as it is. -/
  | unclassified (name cause : Option String) (detail : Json) (reason : RpcFailure.Reason)
  deriving DecidableEq

/-- A detail of a failure. -/
inductive RpcFailure.Attribute where
  | text (value : String)
  | word (value : UInt64)
  deriving DecidableEq

namespace RpcFailure

/-- A detail in JSON. -/
def Attribute.json : Attribute → Json
  | .text value => .string value
  | .word value => .ofUInt64 value

/-- A detail as it appears in a diagnostic. -/
def Attribute.shown : Attribute → Shown
  | .text value => .text value
  | .word value => .nat value.toNat

/-- The details of a failure that is tied to a block, after the one it is about. -/
def atBlock (name : String) (subject : String) (height : UInt64) (hash : String) :
    List (String × Attribute) :=
  [(name, .text subject), ("block_height", .word height), ("block_hash", .text hash)]

/-- The name of the kind of a failure. -/
def kind : RpcFailure → String
  | .unknownBlock => "UnknownBlock"
  | .unknownChunk _ => "UnknownChunk"
  | .unknownEpoch => "UnknownEpoch"
  | .invalidShardId _ => "InvalidShardId"
  | .unavailableShard _ => "UnavailableShard"
  | .noSyncedBlocks => "NoSyncedBlocks"
  | .notSyncedYet => "NotSyncedYet"
  | .garbageCollectedBlock _ _ => "GarbageCollectedBlock"
  | .invalidAccount _ _ _ => "InvalidAccount"
  | .unknownAccount _ _ _ => "UnknownAccount"
  | .noContractCode _ _ _ => "NoContractCode"
  | .tooLargeContractState _ _ _ => "TooLargeContractState"
  | .unknownAccessKey _ _ _ => "UnknownAccessKey"
  | .contractExecutionError _ _ _ => "ContractExecutionError"
  | .unknownTransaction _ => "UnknownTransaction"
  | .unknownReceipt _ => "UnknownReceipt"
  | .invalidTransaction _ => "InvalidTransaction"
  | .requestRouted _ => "RequestRouted"
  | .doesNotTrackShard => "DoesNotTrackShard"
  | .timeoutError => "TimeoutError"
  | .parseError _ => "ParseError"
  | .methodNotFound _ => "MethodNotFound"
  | .internalError _ => "InternalError"
  | .message _ => "Message"
  | .unclassified _ _ _ _ => "Unclassified"

/-- The details of a failure by their names on the wire, for the kinds that consist of them. -/
def attributes : RpcFailure → List (String × Attribute)
  | .unknownChunk chunkHash => [("chunk_hash", .text chunkHash)]
  | .invalidShardId shardId => [("shard_id", .word shardId)]
  | .unavailableShard shardId => [("requested_shard_id", .word shardId)]
  | .garbageCollectedBlock height hash =>
    [("block_height", .word height), ("block_hash", .text hash)]
  | .invalidAccount id height hash => atBlock "requested_account_id" id height hash
  | .unknownAccount id height hash => atBlock "requested_account_id" id height hash
  | .noContractCode id height hash => atBlock "contract_account_id" id height hash
  | .tooLargeContractState id height hash => atBlock "contract_account_id" id height hash
  | .unknownAccessKey key height hash => atBlock "public_key" key height hash
  | .contractExecutionError error height hash => atBlock "vm_error" error height hash
  | .unknownTransaction hash => [("requested_transaction_hash", .text hash)]
  | .unknownReceipt id => [("receipt_id", .text id)]
  | .requestRouted hash => [("transaction_hash", .text hash)]
  | .parseError reason => [("error_message", .text reason)]
  | .methodNotFound method => [("method_name", .text method)]
  | .internalError reason => [("error_message", .text reason)]
  | .unknownBlock | .unknownEpoch | .noSyncedBlocks | .notSyncedYet | .doesNotTrackShard
  | .timeoutError => []
  | .invalidTransaction _ | .message _ | .unclassified _ _ _ _ => []

/-- A failure as it appears in a diagnostic. -/
def shown (failure : RpcFailure) : Shown :=
  match failure with
  | .invalidTransaction error => .tuple failure.kind [TxExecutionError.schema.shown error]
  | .message text => .tuple failure.kind [.text text]
  | .unclassified name cause detail reason =>
    .record failure.kind
      [("name", .option (name.map .text)), ("cause", .option (cause.map .text)),
        ("detail", detail.shown), ("reason", .text reason.message)]
  | failure =>
    .record failure.kind (failure.attributes.map fun (name, value) => (name, value.shown))

/-- The wording of a failure. -/
def display : RpcFailure → String
  | .unknownBlock => "unknown block"
  | .unknownChunk chunkHash => "unknown chunk " ++ chunkHash
  | .unknownEpoch => "unknown epoch"
  | .invalidShardId shardId => "invalid shard id " ++ Decimal.write shardId.toNat
  | .unavailableShard shardId =>
    "shard " ++ Decimal.write shardId.toNat ++ " is not available on this node"
  | .noSyncedBlocks => "node has no synced blocks"
  | .notSyncedYet => "node is not synced yet"
  | .garbageCollectedBlock height hash =>
    "block " ++ hash ++ " at height " ++ Decimal.write height.toNat ++ " was garbage collected"
  | .invalidAccount id _ hash => "invalid account " ++ id ++ " at block " ++ hash
  | .unknownAccount id _ hash => "account " ++ id ++ " does not exist at block " ++ hash
  | .noContractCode id _ _ => "account " ++ id ++ " has no contract code"
  | .tooLargeContractState id _ _ => "contract state of " ++ id ++ " is too large"
  | .unknownAccessKey key _ hash => "access key " ++ key ++ " does not exist at block " ++ hash
  | .contractExecutionError error _ _ => "contract execution failed: " ++ error
  | .unknownTransaction hash => "unknown transaction " ++ hash
  | .unknownReceipt id => "unknown receipt " ++ id
  | .invalidTransaction error =>
    "invalid transaction: " ++ (TxExecutionError.schema.shown error).line
  | .requestRouted hash => "transaction " ++ hash ++ " was routed to another node"
  | .doesNotTrackShard => "node does not track the shard"
  | .timeoutError => "timed out"
  | .parseError reason => "request parse error: " ++ reason
  | .methodNotFound method => "method " ++ method ++ " not found"
  | .internalError reason => "internal error: " ++ reason
  | .message text => text
  | .unclassified name cause _ reason =>
    "unclassified rpc error " ++ (Shown.option (name.map .text)).line ++ "/" ++
      (Shown.option (cause.map .text)).line ++ ": " ++ reason.message

end RpcFailure

end LedgerWire
