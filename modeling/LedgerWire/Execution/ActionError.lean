import LedgerWire.Execution.FunctionCallError

/-!
# Why an action failed

An action error is a kind with a context, and the position of the action in its transaction. It
has two readers: as the type of a field, where every failure is put into words, and inside a
union, where a failure of the kind keeps its own kind.
-/

namespace LedgerWire

/-- Why an action failed. -/
inductive ActionErrorKind where
  | accountAlreadyExists (context : AccountContext)
  | accountDoesNotExist (context : AccountContext)
  | actorNoPermission (context : ActorContext)
  | addKeyAlreadyExists (context : KeyContext)
  | createAccountNotAllowed (context : PredecessorContext)
  | createAccountOnlyByRegistrar (context : RegistrarContext)
  | delegateActionExpired
  | deleteAccountStaking (context : AccountContext)
  | deleteKeyDoesNotExist (context : KeyContext)
  | functionCallError (error : FunctionCallError)
  | insufficientStake (context : InsufficientStakeContext)
  | lackBalanceForState (context : LackBalanceContext)
  | onlyImplicitAccountCreationAllowed (context : AccountContext)
  | triesToStake (context : StakeContext)
  | triesToUnstake (context : AccountContext)
  deriving DecidableEq

/-- The tags of the action errors. -/
inductive ActionErrorKind.Tag where
  | accountAlreadyExists
  | accountDoesNotExist
  | actorNoPermission
  | addKeyAlreadyExists
  | createAccountNotAllowed
  | createAccountOnlyByRegistrar
  | delegateActionExpired
  | deleteAccountStaking
  | deleteKeyDoesNotExist
  | functionCallError
  | insufficientStake
  | lackBalanceForState
  | onlyImplicitAccountCreationAllowed
  | triesToStake
  | triesToUnstake
  deriving DecidableEq

namespace ActionErrorKind

instance : VariantTag Tag where
  all := [.accountAlreadyExists, .accountDoesNotExist, .actorNoPermission, .addKeyAlreadyExists,
    .createAccountNotAllowed, .createAccountOnlyByRegistrar, .delegateActionExpired,
    .deleteAccountStaking, .deleteKeyDoesNotExist, .functionCallError, .insufficientStake,
    .lackBalanceForState, .onlyImplicitAccountCreationAllowed, .triesToStake, .triesToUnstake]
  name
    | .accountAlreadyExists => "AccountAlreadyExists"
    | .accountDoesNotExist => "AccountDoesNotExist"
    | .actorNoPermission => "ActorNoPermission"
    | .addKeyAlreadyExists => "AddKeyAlreadyExists"
    | .createAccountNotAllowed => "CreateAccountNotAllowed"
    | .createAccountOnlyByRegistrar => "CreateAccountOnlyByRegistrar"
    | .delegateActionExpired => "DelegateActionExpired"
    | .deleteAccountStaking => "DeleteAccountStaking"
    | .deleteKeyDoesNotExist => "DeleteKeyDoesNotExist"
    | .functionCallError => "FunctionCallError"
    | .insufficientStake => "InsufficientStake"
    | .lackBalanceForState => "LackBalanceForState"
    | .onlyImplicitAccountCreationAllowed => "OnlyImplicitAccountCreationAllowed"
    | .triesToStake => "TriesToStake"
    | .triesToUnstake => "TriesToUnstake"
  mem_all tag := by cases tag <;> decide
  nodup_names := by decide

/-- The table of the action errors. -/
def registry : Registry Tag ActionErrorKind where
  family := "ActionErrorKind"
  variants := [
    .unit .delegateActionExpired .delegateActionExpired,
    .nested .functionCallError FunctionCallError.union.decode .functionCallError,
    .structured .accountAlreadyExists AccountContext.schema .accountAlreadyExists,
    .structured .accountDoesNotExist AccountContext.schema .accountDoesNotExist,
    .structured .actorNoPermission ActorContext.schema .actorNoPermission,
    .structured .addKeyAlreadyExists KeyContext.schema .addKeyAlreadyExists,
    .structured .createAccountNotAllowed PredecessorContext.schema .createAccountNotAllowed,
    .structured .createAccountOnlyByRegistrar RegistrarContext.schema .createAccountOnlyByRegistrar,
    .structured .deleteAccountStaking AccountContext.schema .deleteAccountStaking,
    .structured .deleteKeyDoesNotExist KeyContext.schema .deleteKeyDoesNotExist,
    .structured .insufficientStake InsufficientStakeContext.schema .insufficientStake,
    .structured .lackBalanceForState LackBalanceContext.schema .lackBalanceForState,
    .structured .onlyImplicitAccountCreationAllowed AccountContext.schema
      .onlyImplicitAccountCreationAllowed,
    .structured .triesToStake StakeContext.schema .triesToStake,
    .structured .triesToUnstake AccountContext.schema .triesToUnstake]
  of?_variants := rfl

/-- The action errors as a tagged union. -/
def union : Tagged Tag ActionErrorKind where
  registry := registry
  parts
    | .accountAlreadyExists context => .carrying .accountAlreadyExists AccountContext.schema context
    | .accountDoesNotExist context => .carrying .accountDoesNotExist AccountContext.schema context
    | .actorNoPermission context => .carrying .actorNoPermission ActorContext.schema context
    | .addKeyAlreadyExists context => .carrying .addKeyAlreadyExists KeyContext.schema context
    | .createAccountNotAllowed context =>
      .carrying .createAccountNotAllowed PredecessorContext.schema context
    | .createAccountOnlyByRegistrar context =>
      .carrying .createAccountOnlyByRegistrar RegistrarContext.schema context
    | .delegateActionExpired => .bare .delegateActionExpired
    | .deleteAccountStaking context => .carrying .deleteAccountStaking AccountContext.schema context
    | .deleteKeyDoesNotExist context => .carrying .deleteKeyDoesNotExist KeyContext.schema context
    | .functionCallError error => .carrying .functionCallError FunctionCallError.schema error
    | .insufficientStake context =>
      .carrying .insufficientStake InsufficientStakeContext.schema context
    | .lackBalanceForState context =>
      .carrying .lackBalanceForState LackBalanceContext.schema context
    | .onlyImplicitAccountCreationAllowed context =>
      .carrying .onlyImplicitAccountCreationAllowed AccountContext.schema context
    | .triesToStake context => .carrying .triesToStake StakeContext.schema context
    | .triesToUnstake context => .carrying .triesToUnstake AccountContext.schema context

/-- The union as the type of a field. -/
def schema : Schema ActionErrorKind := union.schema

end ActionErrorKind

/-- The failure of an action, with its position when the failure is tied to one action. -/
structure ActionError where
  index : Option UInt64
  kind : ActionErrorKind
  deriving DecidableEq

namespace ActionError

/-- The fields in the order of their declaration. -/
def row : Row ActionError (Option UInt64 × ActionErrorKind × Unit) where
  toRow e := (e.index, e.kind, ())
  ofRow := fun (index, kind, ()) => ⟨index, kind⟩

/-- The record in JSON. A missing index is no index. -/
def schema : Schema ActionError :=
  .record "ActionError"
    (.field "index" (.optional .uint64) (some none) <|
      .field "kind" ActionErrorKind.schema none .done)
    row false

/-- The index among the members, null standing for none. -/
def decodeIndex : Option Json → Except CodecError (Option UInt64)
  | none => .ok none
  | some .null => .ok none
  | some value =>
    match value.uint64? with
    | some index => .ok (some index)
    | none => .error (.typeMismatch .actionIndex (.kind value.kind))

/-- Decodes an action error inside a union, where a failure of its kind keeps its own kind. The
index is looked at first. -/
def decode : Json → Except CodecError ActionError
  | .object members => do
    let index ← decodeIndex (members.lookup "index")
    match members.lookup "kind" with
    | none => throw (.format .missingKind)
    | some kind => return ⟨index, ← ActionErrorKind.union.decode kind⟩
  | value => .error (.typeMismatch .actionError (.kind value.kind))

end ActionError

end LedgerWire
