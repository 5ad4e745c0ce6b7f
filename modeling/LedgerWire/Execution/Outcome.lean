import LedgerWire.Execution.Status
import LedgerWire.Transaction

/-!
# What a node tells about a transaction

The outcome of an execution names its logs, its cost and its status. The final outcome of a
transaction gathers its own outcome and those of all receipts.
-/

namespace LedgerWire

/-- The outcome of one receipt or transaction. -/
structure ExecutionOutcome where
  logs : List String
  receiptIds : List Digest
  gasBurnt : UInt64
  tokensBurnt : Amount
  executorId : AccountId
  status : ExecutionStatus
  deriving DecidableEq

/-- An outcome with the receipt or transaction that it belongs to and the block it is in. -/
structure ExecutionOutcomeWithId where
  id : Digest
  blockHash : Digest
  outcome : ExecutionOutcome
  deriving DecidableEq

/-- A signed transaction as a node shows it. -/
structure TransactionView where
  signerId : AccountId
  publicKey : PublicKey
  nonce : UInt64
  receiverId : AccountId
  actions : List Action
  signature : Signature
  hash : Digest
  deriving DecidableEq

/-- How a transaction ended, with the outcomes of all that came of it. -/
structure FinalExecutionOutcome where
  status : FinalExecutionStatus
  transaction : TransactionView
  transactionOutcome : ExecutionOutcomeWithId
  receiptsOutcome : List ExecutionOutcomeWithId
  deriving DecidableEq

namespace ExecutionOutcome

/-- The fields in the order of their declaration. -/
def row : Row ExecutionOutcome
    (List String × List Digest × UInt64 × Amount × AccountId × ExecutionStatus × Unit) where
  toRow o := (o.logs, o.receiptIds, o.gasBurnt, o.tokensBurnt, o.executorId, o.status, ())
  ofRow := fun (logs, receiptIds, gasBurnt, tokensBurnt, executorId, status, ()) =>
    ⟨logs, receiptIds, gasBurnt, tokensBurnt, executorId, status⟩

/-- The record in JSON. -/
def schema : Schema ExecutionOutcome :=
  .record "ExecutionOutcome"
    (.field "logs" (.list .text) none <| .field "receipt_ids" (.list Digest.schema) none <|
      .field "gas_burnt" .uint64 none <| .field "tokens_burnt" .amount none <|
      .field "executor_id" AccountId.schema none <|
      .field "status" ExecutionStatus.schema none .done)
    row false

end ExecutionOutcome

namespace ExecutionOutcomeWithId

/-- The fields in the order of their declaration. -/
def row : Row ExecutionOutcomeWithId (Digest × Digest × ExecutionOutcome × Unit) where
  toRow o := (o.id, o.blockHash, o.outcome, ())
  ofRow := fun (id, blockHash, outcome, ()) => ⟨id, blockHash, outcome⟩

/-- The record in JSON. -/
def schema : Schema ExecutionOutcomeWithId :=
  .record "ExecutionOutcomeWithId"
    (.field "id" Digest.schema none <| .field "block_hash" Digest.schema none <|
      .field "outcome" ExecutionOutcome.schema none .done)
    row false

/-- The failure that the outcome ended in, if it did. -/
def failure? (o : ExecutionOutcomeWithId) : Option TxExecutionError :=
  match o.outcome.status with
  | .failure error => some error
  | _ => none

end ExecutionOutcomeWithId

namespace TransactionView

/-- The fields in the order of their declaration. -/
def row : Row TransactionView
    (AccountId × PublicKey × UInt64 × AccountId × List Action × Signature × Digest × Unit) where
  toRow t :=
    (t.signerId, t.publicKey, t.nonce, t.receiverId, t.actions, t.signature, t.hash, ())
  ofRow := fun (signerId, publicKey, nonce, receiverId, actions, signature, hash, ()) =>
    ⟨signerId, publicKey, nonce, receiverId, actions, signature, hash⟩

/-- The record in JSON. -/
def schema : Schema TransactionView :=
  .record "TransactionView"
    (.field "signer_id" AccountId.schema none <| .field "public_key" PublicKey.schema none <|
      .field "nonce" .uint64 none <| .field "receiver_id" AccountId.schema none <|
      .field "actions" (.list Action.schema) none <|
      .field "signature" Signature.schema none <| .field "hash" Digest.schema none .done)
    row false

end TransactionView

namespace FinalExecutionOutcome

/-- The fields in the order of their declaration. -/
def row : Row FinalExecutionOutcome
    (FinalExecutionStatus × TransactionView × ExecutionOutcomeWithId ×
      List ExecutionOutcomeWithId × Unit) where
  toRow o := (o.status, o.transaction, o.transactionOutcome, o.receiptsOutcome, ())
  ofRow := fun (status, transaction, transactionOutcome, receiptsOutcome, ()) =>
    ⟨status, transaction, transactionOutcome, receiptsOutcome⟩

/-- The record in JSON. -/
def schema : Schema FinalExecutionOutcome :=
  .record "FinalExecutionOutcome"
    (.field "status" FinalExecutionStatus.schema none <|
      .field "transaction" TransactionView.schema none <|
      .field "transaction_outcome" ExecutionOutcomeWithId.schema none <|
      .field "receipts_outcome" (.list ExecutionOutcomeWithId.schema) none .done)
    row false

/-- The first failure among the transaction and its receipts. -/
def firstFailure? (o : FinalExecutionOutcome) : Option TxExecutionError :=
  (o.transactionOutcome :: o.receiptsOutcome).findSome? (·.failure?)

end FinalExecutionOutcome

end LedgerWire
