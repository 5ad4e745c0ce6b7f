import LedgerWire.Proofs.Json.Execution

/-!
# Decoding undoes encoding

Every tagged union and every record that crosses the wire in JSON, named by a code and taken
together. A union has two writers and two readers, one pair of its own and one as the type of a
field, and a record has its schema.
-/

namespace LedgerWire

/-- The tagged unions. -/
inductive UnionType where
  | accessKeyPermission
  | action
  | actionErrorKind
  | compilationError
  | executionStatus
  | finalExecutionStatus
  | functionCallError
  | invalidAccessKeyError
  | invalidTxError
  | methodResolveError
  | txExecutionError
  | wasmTrap

namespace UnionType

/-- The values of a union. -/
@[reducible]
def Value : UnionType → Type
  | accessKeyPermission => AccessKeyPermission
  | action => Action
  | actionErrorKind => ActionErrorKind
  | compilationError => CompilationError
  | executionStatus => ExecutionStatus
  | finalExecutionStatus => FinalExecutionStatus
  | functionCallError => FunctionCallError
  | invalidAccessKeyError => InvalidAccessKeyError
  | invalidTxError => InvalidTxError
  | methodResolveError => MethodResolveError
  | txExecutionError => TxExecutionError
  | wasmTrap => WasmTrap

/-- The tags of a union. -/
@[reducible]
def Tag : UnionType → Type
  | accessKeyPermission => AccessKeyPermission.Tag
  | action => Action.Tag
  | actionErrorKind => ActionErrorKind.Tag
  | compilationError => CompilationError.Tag
  | executionStatus => ExecutionStatus.Tag
  | finalExecutionStatus => FinalExecutionStatus.Tag
  | functionCallError => FunctionCallError.Tag
  | invalidAccessKeyError => InvalidAccessKeyError.Tag
  | invalidTxError => InvalidTxError.Tag
  | methodResolveError => MethodResolveError
  | txExecutionError => TxExecutionError.Tag
  | wasmTrap => WasmTrap

instance : (type : UnionType) → DecidableEq type.Tag
  | accessKeyPermission => inferInstanceAs (DecidableEq AccessKeyPermission.Tag)
  | action => inferInstanceAs (DecidableEq Action.Tag)
  | actionErrorKind => inferInstanceAs (DecidableEq ActionErrorKind.Tag)
  | compilationError => inferInstanceAs (DecidableEq CompilationError.Tag)
  | executionStatus => inferInstanceAs (DecidableEq ExecutionStatus.Tag)
  | finalExecutionStatus => inferInstanceAs (DecidableEq FinalExecutionStatus.Tag)
  | functionCallError => inferInstanceAs (DecidableEq FunctionCallError.Tag)
  | invalidAccessKeyError => inferInstanceAs (DecidableEq InvalidAccessKeyError.Tag)
  | invalidTxError => inferInstanceAs (DecidableEq InvalidTxError.Tag)
  | methodResolveError => inferInstanceAs (DecidableEq MethodResolveError)
  | txExecutionError => inferInstanceAs (DecidableEq TxExecutionError.Tag)
  | wasmTrap => inferInstanceAs (DecidableEq WasmTrap)

instance : (type : UnionType) → VariantTag type.Tag
  | accessKeyPermission => inferInstanceAs (VariantTag AccessKeyPermission.Tag)
  | action => inferInstanceAs (VariantTag Action.Tag)
  | actionErrorKind => inferInstanceAs (VariantTag ActionErrorKind.Tag)
  | compilationError => inferInstanceAs (VariantTag CompilationError.Tag)
  | executionStatus => inferInstanceAs (VariantTag ExecutionStatus.Tag)
  | finalExecutionStatus => inferInstanceAs (VariantTag FinalExecutionStatus.Tag)
  | functionCallError => inferInstanceAs (VariantTag FunctionCallError.Tag)
  | invalidAccessKeyError => inferInstanceAs (VariantTag InvalidAccessKeyError.Tag)
  | invalidTxError => inferInstanceAs (VariantTag InvalidTxError.Tag)
  | methodResolveError => inferInstanceAs (VariantTag MethodResolveError)
  | txExecutionError => inferInstanceAs (VariantTag TxExecutionError.Tag)
  | wasmTrap => inferInstanceAs (VariantTag WasmTrap)

/-- The table and the parts of a union. -/
def union : (type : UnionType) → Tagged type.Tag type.Value
  | accessKeyPermission => AccessKeyPermission.union
  | action => Action.union
  | actionErrorKind => ActionErrorKind.union
  | compilationError => CompilationError.union
  | executionStatus => ExecutionStatus.union
  | finalExecutionStatus => FinalExecutionStatus.union
  | functionCallError => FunctionCallError.union
  | invalidAccessKeyError => InvalidAccessKeyError.union
  | invalidTxError => InvalidTxError.union
  | methodResolveError => MethodResolveError.union
  | txExecutionError => TxExecutionError.union
  | wasmTrap => WasmTrap.union

/-- Every union restores every value. -/
theorem restores (type : UnionType) (value : type.Value) : type.union.Restores value := by
  cases type with
  | accessKeyPermission => exact AccessKeyPermission.restores value
  | action => exact Action.restores value
  | actionErrorKind => exact ActionErrorKind.restores value
  | compilationError => exact CompilationError.restores value
  | executionStatus => exact ExecutionStatus.restores value
  | finalExecutionStatus => exact FinalExecutionStatus.restores value
  | functionCallError => exact FunctionCallError.restores value
  | invalidAccessKeyError => exact InvalidAccessKeyError.restores value
  | invalidTxError => exact InvalidTxError.restores value
  | methodResolveError => exact MethodResolveError.restores value
  | txExecutionError => exact TxExecutionError.restores value
  | wasmTrap => exact WasmTrap.restores value

end UnionType

/-- The records. -/
inductive RecordType where
  | accessKey
  | accessKeyView
  | accountContext
  | actionError
  | actorContext
  | addKeyAction
  | blockHeaderView
  | blockView
  | clientConfig
  | deleteAccountAction
  | deleteKeyAction
  | deployContractAction
  | executionOutcome
  | executionOutcomeWithId
  | finalExecutionOutcome
  | functionCallAction
  | functionCallPermission
  | insufficientStakeContext
  | invalidNonceContext
  | keyContext
  | lackBalanceContext
  | messageContext
  | methodNameContext
  | nonceTooLargeContext
  | notEnoughAllowanceContext
  | notEnoughBalanceContext
  | predecessorContext
  | receiverContext
  | receiverMismatchContext
  | registrarContext
  | rpcConfig
  | signedTransaction
  | signerBalanceContext
  | signerConfig
  | signerContext
  | sizeContext
  | stakeAction
  | stakeContext
  | transaction
  | transactionView
  | transferAction

namespace RecordType

/-- The values of a record type. -/
@[reducible]
def Value : RecordType → Type
  | accessKey => AccessKey
  | accessKeyView => AccessKeyView
  | accountContext => AccountContext
  | actionError => ActionError
  | actorContext => ActorContext
  | addKeyAction => AddKeyAction
  | blockHeaderView => BlockHeaderView
  | blockView => BlockView
  | clientConfig => ClientConfig
  | deleteAccountAction => DeleteAccountAction
  | deleteKeyAction => DeleteKeyAction
  | deployContractAction => DeployContractAction
  | executionOutcome => ExecutionOutcome
  | executionOutcomeWithId => ExecutionOutcomeWithId
  | finalExecutionOutcome => FinalExecutionOutcome
  | functionCallAction => FunctionCallAction
  | functionCallPermission => FunctionCallPermission
  | insufficientStakeContext => InsufficientStakeContext
  | invalidNonceContext => InvalidNonceContext
  | keyContext => KeyContext
  | lackBalanceContext => LackBalanceContext
  | messageContext => MessageContext
  | methodNameContext => MethodNameContext
  | nonceTooLargeContext => NonceTooLargeContext
  | notEnoughAllowanceContext => NotEnoughAllowanceContext
  | notEnoughBalanceContext => NotEnoughBalanceContext
  | predecessorContext => PredecessorContext
  | receiverContext => ReceiverContext
  | receiverMismatchContext => ReceiverMismatchContext
  | registrarContext => RegistrarContext
  | rpcConfig => RpcConfig
  | signedTransaction => SignedTransaction
  | signerBalanceContext => SignerBalanceContext
  | signerConfig => SignerConfig
  | signerContext => SignerContext
  | sizeContext => SizeContext
  | stakeAction => StakeAction
  | stakeContext => StakeContext
  | transaction => Transaction
  | transactionView => TransactionView
  | transferAction => TransferAction

/-- The schema of a record type. -/
@[reducible]
def schema : (type : RecordType) → Schema type.Value
  | accessKey => AccessKey.schema
  | accessKeyView => AccessKeyView.schema
  | accountContext => AccountContext.schema
  | actionError => ActionError.schema
  | actorContext => ActorContext.schema
  | addKeyAction => AddKeyAction.schema
  | blockHeaderView => BlockHeaderView.schema
  | blockView => BlockView.schema
  | clientConfig => ClientConfig.schema
  | deleteAccountAction => DeleteAccountAction.schema
  | deleteKeyAction => DeleteKeyAction.schema
  | deployContractAction => DeployContractAction.schema
  | executionOutcome => ExecutionOutcome.schema
  | executionOutcomeWithId => ExecutionOutcomeWithId.schema
  | finalExecutionOutcome => FinalExecutionOutcome.schema
  | functionCallAction => FunctionCallAction.schema
  | functionCallPermission => FunctionCallPermission.schema
  | insufficientStakeContext => InsufficientStakeContext.schema
  | invalidNonceContext => InvalidNonceContext.schema
  | keyContext => KeyContext.schema
  | lackBalanceContext => LackBalanceContext.schema
  | messageContext => MessageContext.schema
  | methodNameContext => MethodNameContext.schema
  | nonceTooLargeContext => NonceTooLargeContext.schema
  | notEnoughAllowanceContext => NotEnoughAllowanceContext.schema
  | notEnoughBalanceContext => NotEnoughBalanceContext.schema
  | predecessorContext => PredecessorContext.schema
  | receiverContext => ReceiverContext.schema
  | receiverMismatchContext => ReceiverMismatchContext.schema
  | registrarContext => RegistrarContext.schema
  | rpcConfig => RpcConfig.schema
  | signedTransaction => SignedTransaction.schema
  | signerBalanceContext => SignerBalanceContext.schema
  | signerConfig => SignerConfig.schema
  | signerContext => SignerContext.schema
  | sizeContext => SizeContext.schema
  | stakeAction => StakeAction.schema
  | stakeContext => StakeContext.schema
  | transaction => Transaction.schema
  | transactionView => TransactionView.schema
  | transferAction => TransferAction.schema

/-- Whether the secret key in a record, if it has one, has a public half on the curve. Only
configurations hold secret keys. -/
def Usable : (type : RecordType) → type.Value → Prop
  | signerConfig, config => config.secretKey.isUsable = true
  | clientConfig, config => ∀ signer ∈ config.signer, signer.secretKey.isUsable = true
  | _, _ => True

/-- Every record whose secret key is usable is restored. -/
theorem restores (type : RecordType) (record : type.Value) (husable : type.Usable record) :
    type.schema.Restores record := by
  cases type with
  | signerConfig => exact SignerConfig.restores husable
  | clientConfig => exact ClientConfig.restores husable
  | _ => exact Schema.restores record

end RecordType

/-- Decoding undoes encoding. The two writers of a union agree, and both readers give back the
value that was written. Every record with a usable key, if it has a key at all, is read back. What
is kept as it was reported stands unchanged under the name of its variant and comes back as it
was, null included. -/
theorem decode_encode_json :
    (∀ (type : UnionType) (value : type.Value),
      type.union.schema.write value = type.union.encode value ∧
        type.union.decode (type.union.encode value) = .ok value ∧
        type.union.schema.read (type.union.encode value) = .ok value) ∧
    (∀ (type : RecordType) (record : type.Value), type.Usable record →
      type.schema.read (type.schema.write record) = .ok record) ∧
    (∀ detail : Json,
      FunctionCallError.union.encode (.hostError detail) = .object [("HostError", detail)] ∧
        FunctionCallError.union.decode (.object [("HostError", detail)]) =
          .ok (.hostError detail) ∧
        InvalidTxError.union.encode (.actionsValidation detail) =
          .object [("ActionsValidation", detail)] ∧
        InvalidTxError.union.decode (.object [("ActionsValidation", detail)]) =
          .ok (.actionsValidation detail)) := by
  refine ⟨?_, ?_, ?_⟩
  · intro type value
    have hwrite : type.union.schema.write value = type.union.encode value :=
      type.union.write_eq_encode value
    have hfaithful : type.union.schema.Faithful := Tagged.schema_faithful type.restores
    have hread : type.union.schema.read (type.union.schema.write value) = .ok value :=
      hfaithful.restores value
    rw [hwrite] at hread
    exact ⟨hwrite, Tagged.decode_encode (type.restores value), hread⟩
  · exact fun type record husable => type.restores record husable
  · intro detail
    exact ⟨rfl, Tagged.decode_encode (FunctionCallError.restores (.hostError detail)),
      rfl, Tagged.decode_encode (InvalidTxError.restores (.actionsValidation detail))⟩

/-- A configuration whose signer has the base point of the curve as its public half. -/
theorem decode_encode_json_signer :
    ClientConfig.schema.read (ClientConfig.schema.write
      ⟨{}, some ⟨⟨"alice.near", by decide⟩,
        ⟨.ed25519, ⟨List.replicate 32 0 ++ 0x58 :: List.replicate 31 0x66, rfl⟩⟩⟩⟩) =
      .ok ⟨{}, some ⟨⟨"alice.near", by decide⟩,
        ⟨.ed25519, ⟨List.replicate 32 0 ++ 0x58 :: List.replicate 31 0x66, rfl⟩⟩⟩⟩ := by
  refine decode_encode_json.2.1 .clientConfig _ ?_
  rintro signer ⟨⟩
  decide +kernel

end LedgerWire
