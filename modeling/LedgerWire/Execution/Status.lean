import LedgerWire.Digest.Basic
import LedgerWire.Execution.ActionError
import LedgerWire.Execution.InvalidTxError

/-!
# How a transaction ended

An execution ends in a value, in another receipt or in a failure, or its end is not known yet. The
final status is about a transaction together with every receipt that came of it.
-/

namespace LedgerWire

/-- Why a transaction failed. -/
inductive TxExecutionError where
  /-- An action of an otherwise valid transaction failed. -/
  | actionError (error : ActionError)
  /-- The transaction was rejected before any action ran. -/
  | invalidTxError (error : InvalidTxError)
  deriving DecidableEq

/-- The tags of the execution errors. -/
inductive TxExecutionError.Tag where
  | actionError
  | invalidTxError
  deriving DecidableEq

namespace TxExecutionError

instance : VariantTag Tag where
  all := [.actionError, .invalidTxError]
  name
    | .actionError => "ActionError"
    | .invalidTxError => "InvalidTxError"
  mem_all tag := by cases tag <;> decide
  nodup_names := by decide

/-- The table of the execution errors. -/
def registry : Registry Tag TxExecutionError where
  family := "TxExecutionError"
  variants := [
    .nested .actionError ActionError.decode .actionError,
    .nested .invalidTxError InvalidTxError.union.decode .invalidTxError]
  of?_variants := rfl

/-- The execution errors as a tagged union. -/
def union : Tagged Tag TxExecutionError where
  registry := registry
  parts
    | .actionError error => .carrying .actionError ActionError.schema error
    | .invalidTxError error => .carrying .invalidTxError InvalidTxError.schema error

/-- The union as the type of a field. -/
def schema : Schema TxExecutionError := union.schema

end TxExecutionError

/-- How one receipt or transaction ended. -/
inductive ExecutionStatus where
  | failure (error : TxExecutionError)
  | successReceiptId (id : Digest)
  /-- The returned bytes in base64; there may be none. -/
  | successValue (message : String)
  | unknown
  deriving DecidableEq

/-- The tags of the statuses. -/
inductive ExecutionStatus.Tag where
  | failure
  | successReceiptId
  | successValue
  | unknown
  deriving DecidableEq

namespace ExecutionStatus

instance : VariantTag Tag where
  all := [.failure, .successReceiptId, .successValue, .unknown]
  name
    | .failure => "Failure"
    | .successReceiptId => "SuccessReceiptId"
    | .successValue => "SuccessValue"
    | .unknown => "Unknown"
  mem_all tag := by cases tag <;> decide
  nodup_names := by decide

/-- The table of the statuses. -/
def registry : Registry Tag ExecutionStatus where
  family := "ExecutionStatus"
  variants := [
    .unit .unknown .unknown,
    .unwrapped .successReceiptId Digest.schema .successReceiptId,
    .unwrapped .successValue .text .successValue,
    .nested .failure TxExecutionError.union.decode .failure]
  of?_variants := rfl

/-- The statuses as a tagged union. -/
def union : Tagged Tag ExecutionStatus where
  registry := registry
  parts
    | .failure error => .carrying .failure TxExecutionError.schema error
    | .successReceiptId id => .carrying .successReceiptId Digest.schema id
    | .successValue message => .carrying .successValue .text message
    | .unknown => .bare .unknown

/-- The union as the type of a field. -/
def schema : Schema ExecutionStatus := union.schema

end ExecutionStatus

/-- How a transaction ended together with all its receipts. -/
inductive FinalExecutionStatus where
  | failure (error : TxExecutionError)
  | notStarted
  | started
  /-- The returned bytes in base64; there may be none. -/
  | successValue (message : String)
  deriving DecidableEq

/-- The tags of the final statuses. -/
inductive FinalExecutionStatus.Tag where
  | failure
  | notStarted
  | started
  | successValue
  deriving DecidableEq

namespace FinalExecutionStatus

instance : VariantTag Tag where
  all := [.failure, .notStarted, .started, .successValue]
  name
    | .failure => "Failure"
    | .notStarted => "NotStarted"
    | .started => "Started"
    | .successValue => "SuccessValue"
  mem_all tag := by cases tag <;> decide
  nodup_names := by decide

/-- The table of the final statuses. -/
def registry : Registry Tag FinalExecutionStatus where
  family := "FinalExecutionStatus"
  variants := [
    .unit .notStarted .notStarted,
    .unit .started .started,
    .unwrapped .successValue .text .successValue,
    .nested .failure TxExecutionError.union.decode .failure]
  of?_variants := rfl

/-- The final statuses as a tagged union. -/
def union : Tagged Tag FinalExecutionStatus where
  registry := registry
  parts
    | .failure error => .carrying .failure TxExecutionError.schema error
    | .notStarted => .bare .notStarted
    | .started => .bare .started
    | .successValue message => .carrying .successValue .text message

/-- The union as the type of a field. -/
def schema : Schema FinalExecutionStatus := union.schema

end FinalExecutionStatus

namespace FinalExecutionStatus

/-- Whether a value was returned. -/
def isSuccess : FinalExecutionStatus → Bool
  | .successValue _ => true
  | _ => false

/-- The failure, if it ended in one. -/
def failure? : FinalExecutionStatus → Option TxExecutionError
  | .failure error => some error
  | _ => none

/-- The returned bytes, if a value was returned. -/
def returned : FinalExecutionStatus → Except CodecError (Option Bytes)
  | .successValue encoded =>
    match Base64.decode encoded with
    | .ok bytes => .ok (some bytes)
    | .error fault => .error (.format (.returnedValue fault))
  | _ => .ok none

end FinalExecutionStatus

end LedgerWire
