import LedgerWire.Proofs.Json.RoundTrip
import LedgerWire.Proofs.Union.ByName

/-!
# Every type goes by name

Names, keys and digests are texts, records go by name because their fields do, and unions because
their variants do. Two failures are kept as they were reported, order and all: a failure of the
host, and an invalid list of actions. Whatever holds one of these is read up to the order of
members in what was kept.
-/

namespace LedgerWire

open Json (ByName Reordered)

/-! ### Names, keys and digests -/

instance : AccountId.schema.Unordered := .ofText

instance : PublicKey.schema.Unordered := .ofText

instance : Signature.schema.Unordered := .ofText

instance : SecretKey.schema.Unordered := .ofText

instance : Digest.schema.Unordered := .ofText

/-! ### Access keys -/

instance : FunctionCallPermission.schema.Unordered := .record

/-- A permission is read by name. -/
theorem AccessKeyPermission.decode_byName : ByName Eq union.decode := by
  refine Tagged.decode_byName ?_
  simp only [union, registry, List.forall_mem_cons]
  exact ⟨Variant.withOrdinal_byName 0 (Variant.structured_unordered _ _ _),
    Variant.withOrdinal_byName 1 (Variant.unit_byName _ _), by simp⟩

instance : AccessKeyPermission.schema.Unordered :=
  Tagged.schema_unordered AccessKeyPermission.decode_byName

instance : AccessKey.schema.Unordered := .record

/-! ### Actions and transactions -/

instance : DeployContractAction.schema.Unordered := .record

instance : FunctionCallAction.schema.Unordered := .record

instance : TransferAction.schema.Unordered := .record

instance : StakeAction.schema.Unordered := .record

instance : AddKeyAction.schema.Unordered := .record

instance : DeleteKeyAction.schema.Unordered := .record

instance : DeleteAccountAction.schema.Unordered := .record

/-- An action is read by name. -/
theorem Action.decode_byName : ByName Eq union.decode := by
  refine Tagged.decode_byName ?_
  simp only [union, registry, List.forall_mem_cons]
  exact ⟨Variant.withOrdinal_byName 0 (Variant.unit_byName _ _),
    Variant.withOrdinal_byName 1 (Variant.structured_unordered _ _ _),
    Variant.withOrdinal_byName 2 (Variant.structured_unordered _ _ _),
    Variant.withOrdinal_byName 3 (Variant.structured_unordered _ _ _),
    Variant.withOrdinal_byName 4 (Variant.structured_unordered _ _ _),
    Variant.withOrdinal_byName 5 (Variant.structured_unordered _ _ _),
    Variant.withOrdinal_byName 6 (Variant.structured_unordered _ _ _),
    Variant.withOrdinal_byName 7 (Variant.structured_unordered _ _ _),
    Variant.withOrdinal_byName 8 (Variant.structured_unordered _ _ _), by simp⟩

instance : Action.schema.Unordered := Tagged.schema_unordered Action.decode_byName

instance : Transaction.schema.Unordered := .record

instance : SignedTransaction.schema.Unordered := .record

/-! ### Keys, blocks and transactions as a node shows them -/

instance : AccessKeyView.schema.Unordered := .record

instance : BlockHeaderView.schema.Unordered := .record

instance : BlockView.schema.Unordered := .record

instance : TransactionView.schema.Unordered := .record

/-! ### Configurations -/

/-- Only an object with one member is read as a network. -/
theorem Network.read_object_of_length {members : List (String × Json)}
    (hlength : members.length ≠ 1) :
    read (.object members) = .error (.invalidValue .map "map with a single key") := by
  cases members with
  | nil => rfl
  | cons first rest =>
    cases rest with
    | nil => exact absurd rfl hlength
    | cons second rest => rfl

/-- A network is read by name. -/
theorem Network.read_byName : ByName Eq read := by
  intro value value' h
  cases h with
  | string name => exact .refl (fun _ => rfl) _
  | @object members shuffled members' hdistinct horder hmembers =>
    have hlength : members.length = members'.length := horder.length_eq.trans hmembers.length_eq
    by_cases hone : members.length = 1
    · obtain ⟨member, rfl⟩ := List.length_eq_one_iff.mp hone
      obtain rfl := List.singleton_perm.mp horder
      cases hmembers with
      | cons hmember hrest =>
        cases hrest
        obtain ⟨name, hvalue⟩ := hmember
        refine (SameOutcome.refl (fun _ => rfl) (ofName name)).bind fun hnetwork => ?_
        subst hnetwork
        cases hvalue with
        | null => exact .ok rfl
        | _ => exact .error _ _
    · rw [read_object_of_length hone, read_object_of_length (hlength ▸ hone)]
      exact .error _ _
  | _ => exact .error _ _

instance : Network.schema.Unordered := ⟨Network.read_byName⟩

instance : RpcConfig.fields.Unordered := by
  unfold RpcConfig.fields
  infer_instance

instance : RpcConfig.schema.Unordered := .record

instance : SignerConfig.fields.Unordered := by
  unfold SignerConfig.fields
  infer_instance

instance : SignerConfig.schema.Unordered := .record

instance : ClientConfig.fields.Unordered := by
  unfold ClientConfig.fields
  infer_instance

instance : ClientConfig.schema.Unordered := .record

/-! ### What failures are about -/

instance : AccountContext.schema.Unordered := .record

instance : KeyContext.schema.Unordered := .record

instance : RegistrarContext.schema.Unordered := .record

instance : PredecessorContext.schema.Unordered := .record

instance : ActorContext.schema.Unordered := .record

instance : LackBalanceContext.schema.Unordered := .record

instance : StakeContext.schema.Unordered := .record

instance : InsufficientStakeContext.schema.Unordered := .record

instance : MessageContext.schema.Unordered := .record

instance : SignerContext.schema.Unordered := .record

instance : ReceiverContext.schema.Unordered := .record

instance : InvalidNonceContext.schema.Unordered := .record

instance : NonceTooLargeContext.schema.Unordered := .record

instance : NotEnoughBalanceContext.schema.Unordered := .record

instance : SignerBalanceContext.schema.Unordered := .record

instance : SizeContext.schema.Unordered := .record

instance : ReceiverMismatchContext.schema.Unordered := .record

instance : MethodNameContext.schema.Unordered := .record

instance : NotEnoughAllowanceContext.schema.Unordered := .record

/-! ### Failures of calls -/

/-- A failure to find a method is read by name. -/
theorem MethodResolveError.decode_byName : ByName Eq union.decode := by
  refine Tagged.decode_byName ?_
  simp only [union, registry, List.forall_mem_cons]
  exact ⟨Variant.unit_byName _ _, Variant.unit_byName _ _, Variant.unit_byName _ _, by simp⟩

/-- A trap is read by name. -/
theorem WasmTrap.decode_byName : ByName Eq union.decode := by
  refine Tagged.decode_byName ?_
  simp only [union, registry, List.forall_mem_cons]
  exact ⟨Variant.unit_byName _ _, Variant.unit_byName _ _, Variant.unit_byName _ _,
    Variant.unit_byName _ _, Variant.unit_byName _ _, Variant.unit_byName _ _,
    Variant.unit_byName _ _, Variant.unit_byName _ _, Variant.unit_byName _ _, by simp⟩

/-- A failure of compilation is read by name. -/
theorem CompilationError.decode_byName : ByName Eq union.decode := by
  refine Tagged.decode_byName ?_
  simp only [union, registry, List.forall_mem_cons]
  exact ⟨Variant.unwrapped_unordered _ _ _, Variant.structured_unordered _ _ _,
    Variant.structured_unordered _ _ _, by simp⟩

/-- The same call error, up to the order of members in a failure of the host. -/
inductive FunctionCallError.Same : FunctionCallError → FunctionCallError → Prop where
  | equal {error error' : FunctionCallError} (h : error = error') : Same error error'
  | hostError {detail detail' : Json} (h : Reordered detail detail') :
      Same (.hostError detail) (.hostError detail')

/-- A failure of a function call is read by name. -/
theorem FunctionCallError.decode_byName : ByName Same union.decode := by
  refine Tagged.decode_byName ?_
  simp only [union, registry, List.forall_mem_cons]
  exact ⟨(Variant.unit_byName _ _).mono .equal, (Variant.unwrapped_unordered _ _ _).mono .equal,
    Variant.unwrapped_byName Schema.json_byName .hostError,
    (Variant.nested_byName CompilationError.decode_byName (congrArg _)).mono .equal,
    (Variant.nested_byName MethodResolveError.decode_byName (congrArg _)).mono .equal,
    (Variant.nested_byName WasmTrap.decode_byName (congrArg _)).mono .equal,
    (Variant.structured_unordered _ _ _).mono .equal, by simp⟩

/-! ### Failures of actions -/

/-- The same kind of failure, up to the order of members in what it holds verbatim. -/
inductive ActionErrorKind.Same : ActionErrorKind → ActionErrorKind → Prop where
  | equal {kind kind' : ActionErrorKind} (h : kind = kind') : Same kind kind'
  | functionCallError {error error' : FunctionCallError} (h : error.Same error') :
      Same (.functionCallError error) (.functionCallError error')

/-- The kind of an action error is read by name. -/
theorem ActionErrorKind.decode_byName : ByName Same union.decode := by
  refine Tagged.decode_byName ?_
  simp only [union, registry, List.forall_mem_cons]
  exact ⟨(Variant.unit_byName _ _).mono .equal,
    Variant.nested_byName FunctionCallError.decode_byName .functionCallError,
    (Variant.structured_unordered _ _ _).mono .equal,
    (Variant.structured_unordered _ _ _).mono .equal,
    (Variant.structured_unordered _ _ _).mono .equal,
    (Variant.structured_unordered _ _ _).mono .equal,
    (Variant.structured_unordered _ _ _).mono .equal,
    (Variant.structured_unordered _ _ _).mono .equal,
    (Variant.structured_unordered _ _ _).mono .equal,
    (Variant.structured_unordered _ _ _).mono .equal,
    (Variant.structured_unordered _ _ _).mono .equal,
    (Variant.structured_unordered _ _ _).mono .equal,
    (Variant.structured_unordered _ _ _).mono .equal,
    (Variant.structured_unordered _ _ _).mono .equal,
    (Variant.structured_unordered _ _ _).mono .equal, by simp⟩

/-- The same action error, up to the order of members in what its kind holds verbatim. -/
structure ActionError.Same (error error' : ActionError) : Prop where
  index : error.index = error'.index
  kind : error.kind.Same error'.kind

namespace ActionError

/-- The schema of an action error goes by name. -/
theorem schema_byName : ByName Same schema.read :=
  Schema.record_byName
    (.field Schema.byName (fun _ _ => rfl) <|
      .required (Tagged.schema_byName ActionErrorKind.decode_byName) .done)
    fun h => ⟨h.1, h.2.1⟩

/-- The kind among the members, which has to be there. -/
def decodeKind : Option Json → Except CodecError ActionErrorKind
  | none => .error (.format .missingKind)
  | some kind => ActionErrorKind.union.decode kind

/-- Two members are looked at, and no other plays any part. -/
theorem decode_object (members : List (String × Json)) :
    decode (.object members) = decodeIndex (members.lookup "index") >>= fun index =>
      decodeKind (members.lookup "kind") >>= fun kind => .ok ⟨index, kind⟩ := by
  simp only [decode]
  refine bind_congr fun index => ?_
  cases members.lookup "kind" <;> rfl

/-- An index is decoded alike from members that are the same up to the order. -/
theorem decodeIndex_byName {member member' : Option Json}
    (h : Option.Rel Reordered member member') :
    SameOutcome Eq (decodeIndex member) (decodeIndex member') := by
  cases h with
  | none => exact .ok rfl
  | some hvalue =>
    cases hvalue with
    | array hitems => exact .error _ _
    | object hdistinct horder hmembers => exact .error _ _
    | _ => exact .refl (fun _ => rfl) _

/-- A kind is decoded alike from members that are the same up to the order. -/
theorem decodeKind_byName {member member' : Option Json}
    (h : Option.Rel Reordered member member') :
    SameOutcome ActionErrorKind.Same (decodeKind member) (decodeKind member') := by
  cases h with
  | none => exact .error _ _
  | some hvalue => exact ActionErrorKind.decode_byName hvalue

/-- An action error is read by name. -/
theorem decode_byName : ByName Same decode := by
  intro value value' h
  cases h with
  | @object members shuffled members' hdistinct horder hmembers =>
    have hlookup := Json.lookup_reordered hdistinct horder hmembers
    rw [decode_object, decode_object]
    exact (decodeIndex_byName (hlookup "index")).bind fun hindex =>
      (decodeKind_byName (hlookup "kind")).bind fun hkind => .ok ⟨hindex, hkind⟩
  | _ => exact .error _ _

end ActionError

/-! ### Failures of transactions -/

/-- A failure of an access key is read by name. -/
theorem InvalidAccessKeyError.decode_byName : ByName Eq union.decode := by
  refine Tagged.decode_byName ?_
  simp only [union, registry, List.forall_mem_cons]
  exact ⟨Variant.unit_byName _ _, Variant.unit_byName _ _, Variant.structured_unordered _ _ _,
    Variant.structured_unordered _ _ _, Variant.structured_unordered _ _ _,
    Variant.structured_unordered _ _ _, by simp⟩

/-- The same transaction error, up to the order of members in an invalid list of actions. -/
inductive InvalidTxError.Same : InvalidTxError → InvalidTxError → Prop where
  | equal {error error' : InvalidTxError} (h : error = error') : Same error error'
  | actionsValidation {detail detail' : Json} (h : Reordered detail detail') :
      Same (.actionsValidation detail) (.actionsValidation detail')

/-- An invalid transaction is read by name. -/
theorem InvalidTxError.decode_byName : ByName Same union.decode := by
  refine Tagged.decode_byName ?_
  simp only [union, registry, List.forall_mem_cons]
  exact ⟨(Variant.unit_byName _ _).mono .equal, (Variant.unit_byName _ _).mono .equal,
    (Variant.unit_byName _ _).mono .equal, (Variant.unit_byName _ _).mono .equal,
    Variant.unwrapped_byName Schema.json_byName .actionsValidation,
    (Variant.nested_byName InvalidAccessKeyError.decode_byName (congrArg _)).mono .equal,
    (Variant.structured_unordered _ _ _).mono .equal,
    (Variant.structured_unordered _ _ _).mono .equal,
    (Variant.structured_unordered _ _ _).mono .equal,
    (Variant.structured_unordered _ _ _).mono .equal,
    (Variant.structured_unordered _ _ _).mono .equal,
    (Variant.structured_unordered _ _ _).mono .equal,
    (Variant.structured_unordered _ _ _).mono .equal,
    (Variant.structured_unordered _ _ _).mono .equal, by simp⟩

/-- The same execution error, up to the order of members in what it holds verbatim. -/
inductive TxExecutionError.Same : TxExecutionError → TxExecutionError → Prop where
  | actionError {error error' : ActionError} (h : error.Same error') :
      Same (.actionError error) (.actionError error')
  | invalidTxError {error error' : InvalidTxError} (h : error.Same error') :
      Same (.invalidTxError error) (.invalidTxError error')

/-- A failure of execution is read by name. -/
theorem TxExecutionError.decode_byName : ByName Same union.decode := by
  refine Tagged.decode_byName ?_
  simp only [union, registry, List.forall_mem_cons]
  exact ⟨Variant.nested_byName ActionError.decode_byName .actionError,
    Variant.nested_byName InvalidTxError.decode_byName .invalidTxError, by simp⟩

/-! ### Statuses and outcomes -/

/-- The same status, up to the order of members in what a failure holds verbatim. -/
inductive ExecutionStatus.Same : ExecutionStatus → ExecutionStatus → Prop where
  | equal {status status' : ExecutionStatus} (h : status = status') : Same status status'
  | failure {error error' : TxExecutionError} (h : error.Same error') :
      Same (.failure error) (.failure error')

/-- A status is read by name. -/
theorem ExecutionStatus.decode_byName : ByName Same union.decode := by
  refine Tagged.decode_byName ?_
  simp only [union, registry, List.forall_mem_cons]
  exact ⟨(Variant.unit_byName _ _).mono .equal, (Variant.unwrapped_unordered _ _ _).mono .equal,
    (Variant.unwrapped_unordered _ _ _).mono .equal,
    Variant.nested_byName TxExecutionError.decode_byName .failure, by simp⟩

/-- The same final status, up to the order of members in what a failure holds verbatim. -/
inductive FinalExecutionStatus.Same : FinalExecutionStatus → FinalExecutionStatus → Prop where
  | equal {status status' : FinalExecutionStatus} (h : status = status') : Same status status'
  | failure {error error' : TxExecutionError} (h : error.Same error') :
      Same (.failure error) (.failure error')

/-- A final status is read by name. -/
theorem FinalExecutionStatus.decode_byName : ByName Same union.decode := by
  refine Tagged.decode_byName ?_
  simp only [union, registry, List.forall_mem_cons]
  exact ⟨(Variant.unit_byName _ _).mono .equal, (Variant.unit_byName _ _).mono .equal,
    (Variant.unwrapped_unordered _ _ _).mono .equal,
    Variant.nested_byName TxExecutionError.decode_byName .failure, by simp⟩

/-- The same outcome, up to the order of members in what its status holds verbatim. -/
structure ExecutionOutcome.Same (outcome outcome' : ExecutionOutcome) : Prop where
  rest : { outcome with status := outcome'.status } = outcome'
  status : outcome.status.Same outcome'.status

/-- An outcome is read by name. -/
theorem ExecutionOutcome.schema_byName : ByName Same schema.read := by
  refine Schema.record_byName
    (.required Schema.byName <| .required Schema.byName <| .required Schema.byName <|
      .required Schema.byName <| .required Schema.byName <|
      .required (Tagged.schema_byName ExecutionStatus.decode_byName) .done) ?_
  rintro ⟨logs, receiptIds, gasBurnt, tokensBurnt, executorId, status, ⟨⟩⟩
    ⟨_, _, _, _, _, status', ⟨⟩⟩ ⟨rfl, rfl, rfl, rfl, rfl, hstatus, -⟩
  exact ⟨rfl, hstatus⟩

/-- The same outcome with what it belongs to, up to the order of members in what it holds
verbatim. -/
structure ExecutionOutcomeWithId.Same (outcome outcome' : ExecutionOutcomeWithId) : Prop where
  rest : { outcome with outcome := outcome'.outcome } = outcome'
  outcome : outcome.outcome.Same outcome'.outcome

/-- An outcome with what it belongs to is read by name. -/
theorem ExecutionOutcomeWithId.schema_byName : ByName Same schema.read := by
  refine Schema.record_byName
    (.required Schema.byName <| .required Schema.byName <|
      .required ExecutionOutcome.schema_byName .done) ?_
  rintro ⟨id, blockHash, outcome, ⟨⟩⟩ ⟨_, _, outcome', ⟨⟩⟩ ⟨rfl, rfl, houtcome, -⟩
  exact ⟨rfl, houtcome⟩

/-- The same final outcome, up to the order of members in what it holds verbatim. -/
structure FinalExecutionOutcome.Same (outcome outcome' : FinalExecutionOutcome) : Prop where
  status : outcome.status.Same outcome'.status
  transaction : outcome.transaction = outcome'.transaction
  transactionOutcome : outcome.transactionOutcome.Same outcome'.transactionOutcome
  receiptsOutcome : List.Forall₂ ExecutionOutcomeWithId.Same outcome.receiptsOutcome
    outcome'.receiptsOutcome

/-- A final outcome is read by name. -/
theorem FinalExecutionOutcome.schema_byName : ByName Same schema.read :=
  Schema.record_byName
    (.required (Tagged.schema_byName FinalExecutionStatus.decode_byName) <|
      .required Schema.byName <| .required ExecutionOutcomeWithId.schema_byName <|
      .required (Schema.list_byName ExecutionOutcomeWithId.schema_byName) .done)
    fun h => ⟨h.1, h.2.1, h.2.2.1, h.2.2.2.1⟩

/-! ### All types -/

/-- The same value of a union, up to the order of members in what it holds verbatim. -/
def UnionType.Same : (type : UnionType) → type.Value → type.Value → Prop
  | actionErrorKind => ActionErrorKind.Same
  | executionStatus => ExecutionStatus.Same
  | finalExecutionStatus => FinalExecutionStatus.Same
  | functionCallError => FunctionCallError.Same
  | invalidTxError => InvalidTxError.Same
  | txExecutionError => TxExecutionError.Same
  | accessKeyPermission | action | compilationError | invalidAccessKeyError | methodResolveError
  | wasmTrap => Eq

/-- Every union goes by name. -/
theorem UnionType.decode_byName (type : UnionType) : ByName type.Same type.union.decode := by
  cases type with
  | accessKeyPermission => exact AccessKeyPermission.decode_byName
  | action => exact Action.decode_byName
  | actionErrorKind => exact ActionErrorKind.decode_byName
  | compilationError => exact CompilationError.decode_byName
  | executionStatus => exact ExecutionStatus.decode_byName
  | finalExecutionStatus => exact FinalExecutionStatus.decode_byName
  | functionCallError => exact FunctionCallError.decode_byName
  | invalidAccessKeyError => exact InvalidAccessKeyError.decode_byName
  | invalidTxError => exact InvalidTxError.decode_byName
  | methodResolveError => exact MethodResolveError.decode_byName
  | txExecutionError => exact TxExecutionError.decode_byName
  | wasmTrap => exact WasmTrap.decode_byName

/-- The same record, up to the order of members in what it holds verbatim. -/
def RecordType.Same : (type : RecordType) → type.Value → type.Value → Prop
  | actionError => ActionError.Same
  | executionOutcome => ExecutionOutcome.Same
  | executionOutcomeWithId => ExecutionOutcomeWithId.Same
  | finalExecutionOutcome => FinalExecutionOutcome.Same
  | _ => Eq

/-- Every record goes by name. -/
theorem RecordType.schema_byName (type : RecordType) : ByName type.Same type.schema.read := by
  cases type with
  | actionError => exact ActionError.schema_byName
  | executionOutcome => exact ExecutionOutcome.schema_byName
  | executionOutcomeWithId => exact ExecutionOutcomeWithId.schema_byName
  | finalExecutionOutcome => exact FinalExecutionOutcome.schema_byName
  | _ => exact Schema.byName

end LedgerWire
