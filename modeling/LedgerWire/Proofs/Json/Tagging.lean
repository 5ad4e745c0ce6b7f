import LedgerWire.Proofs.Execution.Nesting
import LedgerWire.Proofs.Union.Form

/-!
# The unions in their externally tagged form

Each union has a form for each of its tags, given here in the order of declaration. The tables list
the variants in another order, and state the tag and the constructor of a variant apart from each
other; that every line of every table follows the form of its tag is what keeps the two together.
-/

namespace LedgerWire

/-! ### The forms -/

/-- The forms of the permissions of a key. -/
def AccessKeyPermission.form : Tag → Form AccessKeyPermission
  | .fullAccess => .unit .fullAccess
  | .functionCall => .structured FunctionCallPermission.schema .functionCall

/-- The forms of the actions. Two of them have the same fields. -/
def Action.form : Tag → Form Action
  | .addKey => .structured AddKeyAction.schema .addKey
  | .createAccount => .unit .createAccount
  | .deleteAccount => .structured DeleteAccountAction.schema .deleteAccount
  | .deleteKey => .structured DeleteKeyAction.schema .deleteKey
  | .deployContract => .structured DeployContractAction.schema .deployContract
  | .functionCall => .structured FunctionCallAction.schema .functionCall
  | .stake => .structured StakeAction.schema .stake
  | .stakeChunkOnly => .structured StakeAction.schema .stakeChunkOnly
  | .transfer => .structured TransferAction.schema .transfer

/-- The forms of the reasons why a method was not found. -/
def MethodResolveError.form : MethodResolveError → Form MethodResolveError
  | .methodEmptyName => .unit .methodEmptyName
  | .methodInvalidSignature => .unit .methodInvalidSignature
  | .methodNotFound => .unit .methodNotFound

/-- The forms of the traps. -/
def WasmTrap.form : WasmTrap → Form WasmTrap
  | .callIndirectOob => .unit .callIndirectOob
  | .genericTrap => .unit .genericTrap
  | .illegalArithmetic => .unit .illegalArithmetic
  | .incorrectCallIndirectSignature => .unit .incorrectCallIndirectSignature
  | .indirectCallToNull => .unit .indirectCallToNull
  | .memoryOutOfBounds => .unit .memoryOutOfBounds
  | .misalignedAtomicAccess => .unit .misalignedAtomicAccess
  | .stackOverflow => .unit .stackOverflow
  | .unreachable => .unit .unreachable

/-- The forms of the reasons why a contract does not compile. -/
def CompilationError.form : Tag → Form CompilationError
  | .codeDoesNotExist => .structured AccountContext.schema .codeDoesNotExist
  | .prepareError => .unwrapped .text .prepareError
  | .wasmerCompileError => .structured MessageContext.schema .wasmerCompileError

/-- The forms of the failures of a call. What the host reports is kept as it is. -/
def FunctionCallError.form : Tag → Form FunctionCallError
  | .compilationError => .nested CompilationError.union.decode .compilationError
  | .executionError => .unwrapped .text .executionError
  | .hostError => .unwrapped .json .hostError
  | .linkError => .structured MessageContext.schema .linkError
  | .methodResolveError => .nested MethodResolveError.union.decode .methodResolveError
  | .wasmTrap => .nested WasmTrap.union.decode .wasmTrap
  | .wasmUnknownError => .unit .wasmUnknownError

/-- The forms of the failures of an action. -/
def ActionErrorKind.form : Tag → Form ActionErrorKind
  | .accountAlreadyExists => .structured AccountContext.schema .accountAlreadyExists
  | .accountDoesNotExist => .structured AccountContext.schema .accountDoesNotExist
  | .actorNoPermission => .structured ActorContext.schema .actorNoPermission
  | .addKeyAlreadyExists => .structured KeyContext.schema .addKeyAlreadyExists
  | .createAccountNotAllowed => .structured PredecessorContext.schema .createAccountNotAllowed
  | .createAccountOnlyByRegistrar =>
    .structured RegistrarContext.schema .createAccountOnlyByRegistrar
  | .delegateActionExpired => .unit .delegateActionExpired
  | .deleteAccountStaking => .structured AccountContext.schema .deleteAccountStaking
  | .deleteKeyDoesNotExist => .structured KeyContext.schema .deleteKeyDoesNotExist
  | .functionCallError => .nested FunctionCallError.union.decode .functionCallError
  | .insufficientStake => .structured InsufficientStakeContext.schema .insufficientStake
  | .lackBalanceForState => .structured LackBalanceContext.schema .lackBalanceForState
  | .onlyImplicitAccountCreationAllowed =>
    .structured AccountContext.schema .onlyImplicitAccountCreationAllowed
  | .triesToStake => .structured StakeContext.schema .triesToStake
  | .triesToUnstake => .structured AccountContext.schema .triesToUnstake

/-- The forms of the reasons to reject a key. -/
def InvalidAccessKeyError.form : Tag → Form InvalidAccessKeyError
  | .accessKeyNotFound => .structured KeyContext.schema .accessKeyNotFound
  | .depositWithFunctionCall => .unit .depositWithFunctionCall
  | .methodNameMismatch => .structured MethodNameContext.schema .methodNameMismatch
  | .notEnoughAllowance => .structured NotEnoughAllowanceContext.schema .notEnoughAllowance
  | .receiverMismatch => .structured ReceiverMismatchContext.schema .receiverMismatch
  | .requiresFullAccess => .unit .requiresFullAccess

/-- The forms of the reasons to reject a transaction. -/
def InvalidTxError.form : Tag → Form InvalidTxError
  | .actionsValidation => .unwrapped .json .actionsValidation
  | .costOverflow => .unit .costOverflow
  | .expired => .unit .expired
  | .invalidAccessKeyError => .nested InvalidAccessKeyError.union.decode .invalidAccessKeyError
  | .invalidChain => .unit .invalidChain
  | .invalidNonce => .structured InvalidNonceContext.schema .invalidNonce
  | .invalidReceiverId => .structured ReceiverContext.schema .invalidReceiverId
  | .invalidSignature => .unit .invalidSignature
  | .invalidSignerId => .structured SignerContext.schema .invalidSignerId
  | .lackBalanceForState => .structured SignerBalanceContext.schema .lackBalanceForState
  | .nonceTooLarge => .structured NonceTooLargeContext.schema .nonceTooLarge
  | .notEnoughBalance => .structured NotEnoughBalanceContext.schema .notEnoughBalance
  | .signerDoesNotExist => .structured SignerContext.schema .signerDoesNotExist
  | .transactionSizeExceeded => .structured SizeContext.schema .transactionSizeExceeded

/-- The forms of the failures of a transaction. -/
def TxExecutionError.form : Tag → Form TxExecutionError
  | .actionError => .nested ActionError.decode .actionError
  | .invalidTxError => .nested InvalidTxError.union.decode .invalidTxError

/-- The forms of the ends of a receipt. -/
def ExecutionStatus.form : Tag → Form ExecutionStatus
  | .failure => .nested TxExecutionError.union.decode .failure
  | .successReceiptId => .unwrapped Digest.schema .successReceiptId
  | .successValue => .unwrapped .text .successValue
  | .unknown => .unit .unknown

/-- The forms of the ends of a transaction. -/
def FinalExecutionStatus.form : Tag → Form FinalExecutionStatus
  | .failure => .nested TxExecutionError.union.decode .failure
  | .notStarted => .unit .notStarted
  | .started => .unit .started
  | .successValue => .unwrapped .text .successValue

namespace UnionType

/-- The form of a tag. -/
def form : (type : UnionType) → type.Tag → Form type.Value
  | accessKeyPermission => AccessKeyPermission.form
  | action => Action.form
  | actionErrorKind => ActionErrorKind.form
  | compilationError => CompilationError.form
  | executionStatus => ExecutionStatus.form
  | finalExecutionStatus => FinalExecutionStatus.form
  | functionCallError => FunctionCallError.form
  | invalidAccessKeyError => InvalidAccessKeyError.form
  | invalidTxError => InvalidTxError.form
  | methodResolveError => MethodResolveError.form
  | txExecutionError => TxExecutionError.form
  | wasmTrap => WasmTrap.form

/-! ### The tables follow the forms -/

/-- Every line of a table has the form of its tag. -/
theorem follows (type : UnionType) : type.union.registry.Follows type.form := by
  intro tag
  cases type <;> cases tag <;> exact ⟨rfl, rfl⟩

/-- The constructor of a form belongs to its tag. -/
theorem makes (type : UnionType) (tag : type.Tag) :
    (type.form tag).Makes type.union.tag tag := by
  cases type <;> cases tag <;> first | rfl | exact fun _ => rfl

/-- A value is read under a name, alone or with a payload. -/
def ReadUnder (type : UnionType) (name : String) (decoded : type.Value) : Prop :=
  type.union.decode (.string name) = .ok decoded ∨
    ∃ payload, type.union.decode (.object [(name, payload)]) = .ok decoded

variable {type : UnionType}

/-- A value is decoded as what it stands for in the form of the union, and as nothing else. -/
theorem decode_eq_ok_iff {value : Json} {decoded : type.Value} :
    type.union.decode value = .ok decoded ↔ Stands type.form value decoded :=
  type.follows.decode_eq_ok_iff

/-- The name on the wire is the name of the tag of the value that is read. -/
theorem ReadUnder.name_eq {name : String} {decoded : type.Value}
    (hread : type.ReadUnder name decoded) : name = type.union.variantName decoded := by
  rcases hread with htext | ⟨payload, hobject⟩
  · have hstands := decode_eq_ok_iff.mp htext
    generalize hvalue : Json.string name = value at hstands
    cases hstands with
    | @name tag _ bare =>
      have htag : type.union.tag decoded = tag := by
        refine (type.makes tag).tag_eq (show Form.Builds _ Json.null _ from ?_)
        rw [bare]
        exact .unit
      cases hvalue
      rw [Tagged.variantName, htag]
    | member => cases hvalue
  · have hstands := decode_eq_ok_iff.mp hobject
    generalize hvalue : Json.object [(name, payload)] = value at hstands
    cases hstands with
    | name => cases hvalue
    | @member tag _ _ builds =>
      have htag : type.union.tag decoded = tag := (type.makes tag).tag_eq builds
      cases hvalue
      rw [Tagged.variantName, htag]

/-- A union decodes exactly what stands for a value by the forms of its tags. The value that is
read has the name that it was read under, so values of one variant are read under one name. All
else is refused: a text that is not the name of a variant without payload and a single member
under the name of no variant as unknown, an object with any other number of members for that
number, what is neither a text nor an object, what is present where there is no payload, and what
is no object where there are fields as the kind of value that it is. -/
theorem decode_externally_tagged (type : UnionType) :
    (∀ (value : Json) (decoded : type.Value),
      type.union.decode value = .ok decoded ↔ Stands type.form value decoded) ∧
    (∀ (name : String) (decoded : type.Value), type.ReadUnder name decoded →
      name = type.union.variantName decoded) ∧
    (∀ (name other : String) (decoded same : type.Value), type.ReadUnder name decoded →
      type.ReadUnder other same → type.union.tag decoded = type.union.tag same → name = other) ∧
    (∀ text : String,
      (∀ tag : type.Tag, VariantTag.name tag = text → (type.form tag).shape ≠ .unit) →
      type.union.decode (.string text) = .error (.unknownVariant type.family text)) ∧
    (∀ (name : String) (payload : Json), (∀ tag : type.Tag, VariantTag.name tag ≠ name) →
      type.union.decode (.object [(name, payload)]) =
        .error (.unknownVariant type.family name)) ∧
    (∀ members : List (String × Json), members.length ≠ 1 →
      type.union.decode (.object members) =
        .error (.format (.memberCount type.family members.length))) ∧
    (∀ value : Json, (∀ text, value ≠ .string text) → (∀ members, value ≠ .object members) →
      type.union.decode value = .error (.typeMismatch (.union type.family) (.kind value.kind))) ∧
    (∀ (tag : type.Tag) (payload : Json), (type.form tag).shape = .unit → payload ≠ .null →
      type.union.decode (.object [(VariantTag.name tag, payload)]) =
        .error (.typeMismatch (.noPayload (VariantTag.name tag)) (.kind payload.kind))) ∧
    (∀ (tag : type.Tag) (payload : Json), (type.form tag).shape = .structured →
      (∀ members, payload ≠ .object members) →
      type.union.decode (.object [(VariantTag.name tag, payload)]) =
        .error (.typeMismatch (.objectPayload (VariantTag.name tag)) (.kind payload.kind))) := by
  refine ⟨?_, ?_, ?_, ?_, ?_, ?_, ?_, ?_, ?_⟩
  · intro value decoded
    exact decode_eq_ok_iff
  · intro name decoded hread
    exact hread.name_eq
  · intro name other decoded same hread hother htag
    have hname : type.union.variantName decoded = type.union.variantName same :=
      congrArg VariantTag.name htag
    exact hread.name_eq.trans (hname.trans hother.name_eq.symm)
  · intro text hunknown
    exact type.follows.decode_unknownText hunknown
  · intro name payload hunknown
    exact Registry.decode_of_refuses (.unknownMember hunknown)
  · intro members hcount
    exact Registry.decode_of_refuses (.memberCount hcount)
  · intro value htext hobject
    exact Registry.decode_of_refuses (.notTagged htext hobject)
  · intro tag payload hshape hpresent
    exact type.follows.decode_present hshape hpresent
  · intro tag payload hshape hother
    exact type.follows.decode_notObject hshape hother

/-- A rejection without payload, and what is not quite one. -/
theorem decode_externally_tagged_expired :
    InvalidTxError.union.decode (.string "Expired") = .ok .expired ∧
    InvalidTxError.union.decode (.object [("Expired", .null)]) = .ok .expired ∧
    "Expired" = InvalidTxError.union.variantName .expired ∧
    InvalidTxError.union.decode (.string "InvalidNonce") =
      .error (.unknownVariant "InvalidTxError" "InvalidNonce") ∧
    InvalidTxError.union.decode (.object [("expired", .null)]) =
      .error (.unknownVariant "InvalidTxError" "expired") ∧
    InvalidTxError.union.decode (.object []) =
      .error (.format (.memberCount "InvalidTxError" 0)) ∧
    InvalidTxError.union.decode (.array [.string "Expired"]) =
      .error (.typeMismatch (.union "InvalidTxError") (.kind "array")) ∧
    InvalidTxError.union.decode (.object [("Expired", .bool true)]) =
      .error (.typeMismatch (.noPayload "Expired") (.kind "boolean")) ∧
    InvalidTxError.union.decode (.object [("InvalidNonce", .array [])]) =
      .error (.typeMismatch (.objectPayload "InvalidNonce") (.kind "array")) := by
  obtain ⟨haccepts, hname, -, htext, hmember, hcount, hother, hpresent, hobject⟩ :=
    decode_externally_tagged .invalidTxError
  have hread : InvalidTxError.union.decode (.string "Expired") = .ok .expired :=
    (haccepts _ _).mpr (.name (show InvalidTxError.form .expired = .unit .expired from rfl))
  have hnull : (InvalidTxError.form .expired).Builds .null .expired := .unit
  refine ⟨hread, (haccepts _ _).mpr (.member hnull), hname _ _ (.inl hread), htext _ ?_,
    hmember _ _ ?_, hcount [] (by decide), hother _ ?_ ?_, ?_, ?_⟩
  · intro tag hnonce
    obtain rfl : tag = InvalidTxError.Tag.invalidNonce := VariantTag.name_injective hnonce
    decide
  · intro tag
    cases tag <;> decide
  · intro text hstring
    cases hstring
  · intro members hmembers
    cases hmembers
  · refine hpresent InvalidTxError.Tag.expired (.bool true) rfl ?_
    intro hbool
    cases hbool
  · refine hobject InvalidTxError.Tag.invalidNonce (.array []) rfl ?_
    intro members hmembers
    cases hmembers

end UnionType

end LedgerWire
