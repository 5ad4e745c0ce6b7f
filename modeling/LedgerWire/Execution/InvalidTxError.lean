import LedgerWire.Execution.ActionContext
import LedgerWire.Execution.TransactionContext
import LedgerWire.Union.Tagged

/-!
# Why a transaction is rejected

A transaction may be invalid for its signer, its numbers, its size or its access key. The reasons
of the last kind are a union of their own.
-/

namespace LedgerWire

/-- Why an access key does not cover a transaction. -/
inductive InvalidAccessKeyError where
  | accessKeyNotFound (context : KeyContext)
  | depositWithFunctionCall
  | methodNameMismatch (context : MethodNameContext)
  | notEnoughAllowance (context : NotEnoughAllowanceContext)
  | receiverMismatch (context : ReceiverMismatchContext)
  | requiresFullAccess
  deriving DecidableEq

/-- The tags of the access key errors. -/
inductive InvalidAccessKeyError.Tag where
  | accessKeyNotFound
  | depositWithFunctionCall
  | methodNameMismatch
  | notEnoughAllowance
  | receiverMismatch
  | requiresFullAccess
  deriving DecidableEq

namespace InvalidAccessKeyError

instance : VariantTag Tag where
  all := [.accessKeyNotFound, .depositWithFunctionCall, .methodNameMismatch, .notEnoughAllowance,
    .receiverMismatch, .requiresFullAccess]
  name
    | .accessKeyNotFound => "AccessKeyNotFound"
    | .depositWithFunctionCall => "DepositWithFunctionCall"
    | .methodNameMismatch => "MethodNameMismatch"
    | .notEnoughAllowance => "NotEnoughAllowance"
    | .receiverMismatch => "ReceiverMismatch"
    | .requiresFullAccess => "RequiresFullAccess"
  mem_all tag := by cases tag <;> decide
  nodup_names := by decide

/-- The table of the access key errors. -/
def registry : Registry Tag InvalidAccessKeyError where
  family := "InvalidAccessKeyError"
  variants := [
    .unit .depositWithFunctionCall .depositWithFunctionCall,
    .unit .requiresFullAccess .requiresFullAccess,
    .structured .accessKeyNotFound KeyContext.schema .accessKeyNotFound,
    .structured .methodNameMismatch MethodNameContext.schema .methodNameMismatch,
    .structured .notEnoughAllowance NotEnoughAllowanceContext.schema .notEnoughAllowance,
    .structured .receiverMismatch ReceiverMismatchContext.schema .receiverMismatch]
  of?_variants := rfl

/-- The access key errors as a tagged union. -/
def union : Tagged Tag InvalidAccessKeyError where
  registry := registry
  parts
    | .accessKeyNotFound context => .carrying .accessKeyNotFound KeyContext.schema context
    | .depositWithFunctionCall => .bare .depositWithFunctionCall
    | .methodNameMismatch context => .carrying .methodNameMismatch MethodNameContext.schema context
    | .notEnoughAllowance context =>
      .carrying .notEnoughAllowance NotEnoughAllowanceContext.schema context
    | .receiverMismatch context =>
      .carrying .receiverMismatch ReceiverMismatchContext.schema context
    | .requiresFullAccess => .bare .requiresFullAccess

/-- The union as the type of a field. -/
def schema : Schema InvalidAccessKeyError := union.schema

end InvalidAccessKeyError

/-- Why a transaction is rejected before any action runs. -/
inductive InvalidTxError where
  /-- The list of actions is invalid; kept as it was reported. -/
  | actionsValidation (detail : Json)
  | costOverflow
  | expired
  | invalidAccessKeyError (error : InvalidAccessKeyError)
  | invalidChain
  | invalidNonce (context : InvalidNonceContext)
  | invalidReceiverId (context : ReceiverContext)
  | invalidSignature
  | invalidSignerId (context : SignerContext)
  | lackBalanceForState (context : SignerBalanceContext)
  | nonceTooLarge (context : NonceTooLargeContext)
  | notEnoughBalance (context : NotEnoughBalanceContext)
  | signerDoesNotExist (context : SignerContext)
  | transactionSizeExceeded (context : SizeContext)
  deriving DecidableEq

/-- The tags of the transaction errors. -/
inductive InvalidTxError.Tag where
  | actionsValidation
  | costOverflow
  | expired
  | invalidAccessKeyError
  | invalidChain
  | invalidNonce
  | invalidReceiverId
  | invalidSignature
  | invalidSignerId
  | lackBalanceForState
  | nonceTooLarge
  | notEnoughBalance
  | signerDoesNotExist
  | transactionSizeExceeded
  deriving DecidableEq

namespace InvalidTxError

instance : VariantTag Tag where
  all := [.actionsValidation, .costOverflow, .expired, .invalidAccessKeyError, .invalidChain,
    .invalidNonce, .invalidReceiverId, .invalidSignature, .invalidSignerId, .lackBalanceForState,
    .nonceTooLarge, .notEnoughBalance, .signerDoesNotExist, .transactionSizeExceeded]
  name
    | .actionsValidation => "ActionsValidation"
    | .costOverflow => "CostOverflow"
    | .expired => "Expired"
    | .invalidAccessKeyError => "InvalidAccessKeyError"
    | .invalidChain => "InvalidChain"
    | .invalidNonce => "InvalidNonce"
    | .invalidReceiverId => "InvalidReceiverId"
    | .invalidSignature => "InvalidSignature"
    | .invalidSignerId => "InvalidSignerId"
    | .lackBalanceForState => "LackBalanceForState"
    | .nonceTooLarge => "NonceTooLarge"
    | .notEnoughBalance => "NotEnoughBalance"
    | .signerDoesNotExist => "SignerDoesNotExist"
    | .transactionSizeExceeded => "TransactionSizeExceeded"
  mem_all tag := by cases tag <;> decide
  nodup_names := by decide

/-- The table of the transaction errors. -/
def registry : Registry Tag InvalidTxError where
  family := "InvalidTxError"
  variants := [
    .unit .costOverflow .costOverflow,
    .unit .expired .expired,
    .unit .invalidChain .invalidChain,
    .unit .invalidSignature .invalidSignature,
    .unwrapped .actionsValidation .json .actionsValidation,
    .nested .invalidAccessKeyError InvalidAccessKeyError.union.decode .invalidAccessKeyError,
    .structured .invalidNonce InvalidNonceContext.schema .invalidNonce,
    .structured .invalidReceiverId ReceiverContext.schema .invalidReceiverId,
    .structured .invalidSignerId SignerContext.schema .invalidSignerId,
    .structured .lackBalanceForState SignerBalanceContext.schema .lackBalanceForState,
    .structured .nonceTooLarge NonceTooLargeContext.schema .nonceTooLarge,
    .structured .notEnoughBalance NotEnoughBalanceContext.schema .notEnoughBalance,
    .structured .signerDoesNotExist SignerContext.schema .signerDoesNotExist,
    .structured .transactionSizeExceeded SizeContext.schema .transactionSizeExceeded]
  of?_variants := rfl

/-- The transaction errors as a tagged union. -/
def union : Tagged Tag InvalidTxError where
  registry := registry
  parts
    | .actionsValidation detail => .carrying .actionsValidation .json detail
    | .costOverflow => .bare .costOverflow
    | .expired => .bare .expired
    | .invalidAccessKeyError error =>
      .carrying .invalidAccessKeyError InvalidAccessKeyError.schema error
    | .invalidChain => .bare .invalidChain
    | .invalidNonce context => .carrying .invalidNonce InvalidNonceContext.schema context
    | .invalidReceiverId context => .carrying .invalidReceiverId ReceiverContext.schema context
    | .invalidSignature => .bare .invalidSignature
    | .invalidSignerId context => .carrying .invalidSignerId SignerContext.schema context
    | .lackBalanceForState context =>
      .carrying .lackBalanceForState SignerBalanceContext.schema context
    | .nonceTooLarge context => .carrying .nonceTooLarge NonceTooLargeContext.schema context
    | .notEnoughBalance context =>
      .carrying .notEnoughBalance NotEnoughBalanceContext.schema context
    | .signerDoesNotExist context => .carrying .signerDoesNotExist SignerContext.schema context
    | .transactionSizeExceeded context =>
      .carrying .transactionSizeExceeded SizeContext.schema context

/-- The union as the type of a field. -/
def schema : Schema InvalidTxError := union.schema

end InvalidTxError

end LedgerWire
