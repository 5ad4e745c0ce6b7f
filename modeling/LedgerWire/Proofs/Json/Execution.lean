import LedgerWire.Execution.Outcome
import LedgerWire.Proofs.Json.Ledger

/-!
# Outcomes in JSON are read back

The unions of failures hold each other: a status may hold an execution error, that an action
error, that a call error, and so on down to a trap. Each is restored because the unions inside it
are. An action error has a decoder of its own, beside its schema, and is read back by both.
-/

namespace LedgerWire

/-! ### What failures are about -/

instance : AccountContext.schema.Faithful := .record (by decide)

instance : KeyContext.schema.Faithful := .record (by decide)

instance : RegistrarContext.schema.Faithful := .record (by decide)

instance : PredecessorContext.schema.Faithful := .record (by decide)

instance : ActorContext.schema.Faithful := .record (by decide)

instance : LackBalanceContext.schema.Faithful := .record (by decide)

instance : StakeContext.schema.Faithful := .record (by decide)

instance : InsufficientStakeContext.schema.Faithful := .record (by decide)

instance : MessageContext.schema.Faithful := .record (by decide)

instance : SignerContext.schema.Faithful := .record (by decide)

instance : ReceiverContext.schema.Faithful := .record (by decide)

instance : InvalidNonceContext.schema.Faithful := .record (by decide)

instance : NonceTooLargeContext.schema.Faithful := .record (by decide)

instance : NotEnoughBalanceContext.schema.Faithful := .record (by decide)

instance : SignerBalanceContext.schema.Faithful := .record (by decide)

instance : SizeContext.schema.Faithful := .record (by decide)

instance : ReceiverMismatchContext.schema.Faithful := .record (by decide)

instance : MethodNameContext.schema.Faithful := .record (by decide)

instance : NotEnoughAllowanceContext.schema.Faithful := .record (by decide)

/-! ### Failures of calls -/

/-- A failure to find a method comes back from its JSON. -/
theorem MethodResolveError.restores (error : MethodResolveError) : union.Restores error := by
  cases error <;> exact Variant.unit_restores _ _

/-- A trap comes back from its JSON. -/
theorem WasmTrap.restores (trap : WasmTrap) : union.Restores trap := by
  cases trap <;> exact Variant.unit_restores _ _

/-- A failure of compilation comes back from its JSON. -/
theorem CompilationError.restores (error : CompilationError) : union.Restores error := by
  cases error with
  | codeDoesNotExist context =>
    exact Variant.structured_restores AccountContext.schema context ⟨_, rfl⟩
  | prepareError message => exact Variant.unwrapped_restores .text message
  | wasmerCompileError context =>
    exact Variant.structured_restores MessageContext.schema context ⟨_, rfl⟩

/-- A failure of a function call comes back from its JSON. -/
theorem FunctionCallError.restores (error : FunctionCallError) : union.Restores error := by
  cases error with
  | compilationError error =>
    exact Variant.nested_restores CompilationError.union.decode
      (Tagged.decode_write (CompilationError.restores error))
  | executionError message => exact Variant.unwrapped_restores .text message
  | hostError detail => exact Variant.unwrapped_restores .json detail
  | linkError context => exact Variant.structured_restores MessageContext.schema context ⟨_, rfl⟩
  | methodResolveError error =>
    exact Variant.nested_restores MethodResolveError.union.decode
      (Tagged.decode_write (MethodResolveError.restores error))
  | wasmTrap trap =>
    exact Variant.nested_restores WasmTrap.union.decode
      (Tagged.decode_write (WasmTrap.restores trap))
  | wasmUnknownError =>
    exact Variant.unit_restores Tag.wasmUnknownError FunctionCallError.wasmUnknownError

/-! ### Failures of actions -/

/-- The kind of an action error comes back from its JSON. -/
theorem ActionErrorKind.restores (kind : ActionErrorKind) : union.Restores kind := by
  cases kind with
  | accountAlreadyExists context | accountDoesNotExist context | deleteAccountStaking context
  | onlyImplicitAccountCreationAllowed context | triesToUnstake context =>
    exact Variant.structured_restores AccountContext.schema context ⟨_, rfl⟩
  | addKeyAlreadyExists context | deleteKeyDoesNotExist context =>
    exact Variant.structured_restores KeyContext.schema context ⟨_, rfl⟩
  | actorNoPermission context =>
    exact Variant.structured_restores ActorContext.schema context ⟨_, rfl⟩
  | createAccountNotAllowed context =>
    exact Variant.structured_restores PredecessorContext.schema context ⟨_, rfl⟩
  | createAccountOnlyByRegistrar context =>
    exact Variant.structured_restores RegistrarContext.schema context ⟨_, rfl⟩
  | insufficientStake context =>
    exact Variant.structured_restores InsufficientStakeContext.schema context ⟨_, rfl⟩
  | lackBalanceForState context =>
    exact Variant.structured_restores LackBalanceContext.schema context ⟨_, rfl⟩
  | triesToStake context => exact Variant.structured_restores StakeContext.schema context ⟨_, rfl⟩
  | delegateActionExpired =>
    exact Variant.unit_restores Tag.delegateActionExpired ActionErrorKind.delegateActionExpired
  | functionCallError error =>
    exact Variant.nested_restores FunctionCallError.union.decode
      (Tagged.decode_write (FunctionCallError.restores error))

instance : ActionErrorKind.schema.Faithful := Tagged.schema_faithful ActionErrorKind.restores

instance : ActionError.schema.Faithful := .record (by decide)

namespace ActionError

/-- The index of an action error comes back from its JSON. -/
theorem decodeIndex_write (index : Option UInt64) :
    decodeIndex (some (Schema.uint64.optional.write index)) = .ok index := by
  cases index with
  | none => rfl
  | some index =>
    have hwrite : Schema.uint64.optional.write (some index) = Json.ofUInt64 index := rfl
    have hword : (Json.ofUInt64 index).uint64? = some index := Json.uint64?_ofUInt64 index
    rw [hwrite]
    simp only [Json.ofUInt64] at hword ⊢
    simp only [decodeIndex, hword]

/-- The decoder that is used inside a union reads back what the schema writes. -/
theorem decode_write (error : ActionError) : decode (schema.write error) = .ok error := by
  have hkind := Tagged.decode_write (ActionErrorKind.restores error.kind)
  have hindex := decodeIndex_write error.index
  show (do
      let index ← decodeIndex (some (Schema.uint64.optional.write error.index))
      return ⟨index, ← ActionErrorKind.union.decode (ActionErrorKind.union.write error.kind)⟩) =
    Except.ok error
  rw [hindex, hkind]
  rfl

end ActionError

/-! ### Failures of transactions -/

/-- A failure of an access key comes back from its JSON. -/
theorem InvalidAccessKeyError.restores (error : InvalidAccessKeyError) : union.Restores error := by
  cases error with
  | accessKeyNotFound context =>
    exact Variant.structured_restores KeyContext.schema context ⟨_, rfl⟩
  | depositWithFunctionCall =>
    exact Variant.unit_restores Tag.depositWithFunctionCall
      InvalidAccessKeyError.depositWithFunctionCall
  | methodNameMismatch context =>
    exact Variant.structured_restores MethodNameContext.schema context ⟨_, rfl⟩
  | notEnoughAllowance context =>
    exact Variant.structured_restores NotEnoughAllowanceContext.schema context ⟨_, rfl⟩
  | receiverMismatch context =>
    exact Variant.structured_restores ReceiverMismatchContext.schema context ⟨_, rfl⟩
  | requiresFullAccess =>
    exact Variant.unit_restores Tag.requiresFullAccess InvalidAccessKeyError.requiresFullAccess

/-- An invalid transaction comes back from its JSON. -/
theorem InvalidTxError.restores (error : InvalidTxError) : union.Restores error := by
  cases error with
  | actionsValidation detail => exact Variant.unwrapped_restores .json detail
  | costOverflow => exact Variant.unit_restores Tag.costOverflow InvalidTxError.costOverflow
  | expired => exact Variant.unit_restores Tag.expired InvalidTxError.expired
  | invalidChain => exact Variant.unit_restores Tag.invalidChain InvalidTxError.invalidChain
  | invalidSignature =>
    exact Variant.unit_restores Tag.invalidSignature InvalidTxError.invalidSignature
  | invalidAccessKeyError error =>
    exact Variant.nested_restores InvalidAccessKeyError.union.decode
      (Tagged.decode_write (InvalidAccessKeyError.restores error))
  | invalidNonce context =>
    exact Variant.structured_restores InvalidNonceContext.schema context ⟨_, rfl⟩
  | invalidReceiverId context =>
    exact Variant.structured_restores ReceiverContext.schema context ⟨_, rfl⟩
  | invalidSignerId context | signerDoesNotExist context =>
    exact Variant.structured_restores SignerContext.schema context ⟨_, rfl⟩
  | lackBalanceForState context =>
    exact Variant.structured_restores SignerBalanceContext.schema context ⟨_, rfl⟩
  | nonceTooLarge context =>
    exact Variant.structured_restores NonceTooLargeContext.schema context ⟨_, rfl⟩
  | notEnoughBalance context =>
    exact Variant.structured_restores NotEnoughBalanceContext.schema context ⟨_, rfl⟩
  | transactionSizeExceeded context =>
    exact Variant.structured_restores SizeContext.schema context ⟨_, rfl⟩

/-- A failure of execution comes back from its JSON. -/
theorem TxExecutionError.restores (error : TxExecutionError) : union.Restores error := by
  cases error with
  | actionError error =>
    exact Variant.nested_restores ActionError.decode (ActionError.decode_write error)
  | invalidTxError error =>
    exact Variant.nested_restores InvalidTxError.union.decode
      (Tagged.decode_write (InvalidTxError.restores error))

/-! ### Statuses and outcomes -/

/-- A status comes back from its JSON. -/
theorem ExecutionStatus.restores (status : ExecutionStatus) : union.Restores status := by
  cases status with
  | failure error =>
    exact Variant.nested_restores TxExecutionError.union.decode
      (Tagged.decode_write (TxExecutionError.restores error))
  | successReceiptId id => exact Variant.unwrapped_restores Digest.schema id
  | successValue message => exact Variant.unwrapped_restores .text message
  | unknown => exact Variant.unit_restores Tag.unknown ExecutionStatus.unknown

instance : ExecutionStatus.schema.Faithful := Tagged.schema_faithful ExecutionStatus.restores

/-- A final status comes back from its JSON. -/
theorem FinalExecutionStatus.restores (status : FinalExecutionStatus) : union.Restores status := by
  cases status with
  | failure error =>
    exact Variant.nested_restores TxExecutionError.union.decode
      (Tagged.decode_write (TxExecutionError.restores error))
  | notStarted => exact Variant.unit_restores Tag.notStarted FinalExecutionStatus.notStarted
  | started => exact Variant.unit_restores Tag.started FinalExecutionStatus.started
  | successValue message => exact Variant.unwrapped_restores .text message

instance : FinalExecutionStatus.schema.Faithful :=
  Tagged.schema_faithful FinalExecutionStatus.restores

instance : ExecutionOutcome.schema.Faithful := .record (by decide)

instance : ExecutionOutcomeWithId.schema.Faithful := .record (by decide)

instance : TransactionView.schema.Faithful := .record (by decide)

instance : FinalExecutionOutcome.schema.Faithful := .record (by decide)

end LedgerWire
