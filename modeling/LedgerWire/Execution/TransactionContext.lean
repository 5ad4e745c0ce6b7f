import LedgerWire.Account.Encoding
import LedgerWire.Key.Basic

/-!
# What a transaction was rejected for

Each record names the accounts, numbers and amounts that made a transaction invalid.
-/

namespace LedgerWire

/-- The signer. -/
structure SignerContext where
  signerId : AccountId
  deriving DecidableEq

/-- The receiver. -/
structure ReceiverContext where
  receiverId : AccountId
  deriving DecidableEq

/-- The number of the transaction and the last one of its key. -/
structure InvalidNonceContext where
  txNonce : UInt64
  akNonce : UInt64
  deriving DecidableEq

/-- The number of the transaction and the bound that it reaches. -/
structure NonceTooLargeContext where
  txNonce : UInt64
  upperBound : UInt64
  deriving DecidableEq

/-- The signer, what it holds and what the transaction costs. -/
structure NotEnoughBalanceContext where
  signerId : AccountId
  balance : Amount
  cost : Amount
  deriving DecidableEq

/-- The signer and the amount that it is short of. -/
structure SignerBalanceContext where
  signerId : AccountId
  amount : Amount
  deriving DecidableEq

/-- The size of the transaction and the greatest one allowed. -/
structure SizeContext where
  size : UInt64
  limit : UInt64
  deriving DecidableEq

/-- The receiver of the transaction and the one its key is limited to. -/
structure ReceiverMismatchContext where
  txReceiver : AccountId
  akReceiver : String
  deriving DecidableEq

/-- The method that the key may not call. -/
structure MethodNameContext where
  methodName : String
  deriving DecidableEq

/-- A key of an account, its allowance and what the transaction costs. -/
structure NotEnoughAllowanceContext where
  accountId : AccountId
  publicKey : PublicKey
  allowance : Amount
  cost : Amount
  deriving DecidableEq

namespace SignerContext

/-- The fields in the order of their declaration. -/
def row : Row SignerContext (AccountId × Unit) where
  toRow c := (c.signerId, ())
  ofRow := fun (signerId, ()) => ⟨signerId⟩

/-- The record in JSON. -/
def schema : Schema SignerContext :=
  .record "SignerContext" (.field "signer_id" AccountId.schema none .done) row false

end SignerContext

namespace ReceiverContext

/-- The fields in the order of their declaration. -/
def row : Row ReceiverContext (AccountId × Unit) where
  toRow c := (c.receiverId, ())
  ofRow := fun (receiverId, ()) => ⟨receiverId⟩

/-- The record in JSON. -/
def schema : Schema ReceiverContext :=
  .record "ReceiverContext" (.field "receiver_id" AccountId.schema none .done) row false

end ReceiverContext

namespace InvalidNonceContext

/-- The fields in the order of their declaration. -/
def row : Row InvalidNonceContext (UInt64 × UInt64 × Unit) where
  toRow c := (c.txNonce, c.akNonce, ())
  ofRow := fun (txNonce, akNonce, ()) => ⟨txNonce, akNonce⟩

/-- The record in JSON. -/
def schema : Schema InvalidNonceContext :=
  .record "InvalidNonceContext"
    (.field "tx_nonce" .uint64 none <| .field "ak_nonce" .uint64 none .done)
    row false

end InvalidNonceContext

namespace NonceTooLargeContext

/-- The fields in the order of their declaration. -/
def row : Row NonceTooLargeContext (UInt64 × UInt64 × Unit) where
  toRow c := (c.txNonce, c.upperBound, ())
  ofRow := fun (txNonce, upperBound, ()) => ⟨txNonce, upperBound⟩

/-- The record in JSON. -/
def schema : Schema NonceTooLargeContext :=
  .record "NonceTooLargeContext"
    (.field "tx_nonce" .uint64 none <| .field "upper_bound" .uint64 none .done)
    row false

end NonceTooLargeContext

namespace NotEnoughBalanceContext

/-- The fields in the order of their declaration. -/
def row : Row NotEnoughBalanceContext (AccountId × Amount × Amount × Unit) where
  toRow c := (c.signerId, c.balance, c.cost, ())
  ofRow := fun (signerId, balance, cost, ()) => ⟨signerId, balance, cost⟩

/-- The record in JSON. -/
def schema : Schema NotEnoughBalanceContext :=
  .record "NotEnoughBalanceContext"
    (.field "signer_id" AccountId.schema none <| .field "balance" .amount none <|
      .field "cost" .amount none .done)
    row false

end NotEnoughBalanceContext

namespace SignerBalanceContext

/-- The fields in the order of their declaration. -/
def row : Row SignerBalanceContext (AccountId × Amount × Unit) where
  toRow c := (c.signerId, c.amount, ())
  ofRow := fun (signerId, amount, ()) => ⟨signerId, amount⟩

/-- The record in JSON. -/
def schema : Schema SignerBalanceContext :=
  .record "SignerBalanceContext"
    (.field "signer_id" AccountId.schema none <| .field "amount" .amount none .done)
    row false

end SignerBalanceContext

namespace SizeContext

/-- The fields in the order of their declaration. -/
def row : Row SizeContext (UInt64 × UInt64 × Unit) where
  toRow c := (c.size, c.limit, ())
  ofRow := fun (size, limit, ()) => ⟨size, limit⟩

/-- The record in JSON. -/
def schema : Schema SizeContext :=
  .record "SizeContext" (.field "size" .uint64 none <| .field "limit" .uint64 none .done) row false

end SizeContext

namespace ReceiverMismatchContext

/-- The fields in the order of their declaration. -/
def row : Row ReceiverMismatchContext (AccountId × String × Unit) where
  toRow c := (c.txReceiver, c.akReceiver, ())
  ofRow := fun (txReceiver, akReceiver, ()) => ⟨txReceiver, akReceiver⟩

/-- The record in JSON. -/
def schema : Schema ReceiverMismatchContext :=
  .record "ReceiverMismatchContext"
    (.field "tx_receiver" AccountId.schema none <| .field "ak_receiver" .text none .done)
    row false

end ReceiverMismatchContext

namespace MethodNameContext

/-- The fields in the order of their declaration. -/
def row : Row MethodNameContext (String × Unit) where
  toRow c := (c.methodName, ())
  ofRow := fun (methodName, ()) => ⟨methodName⟩

/-- The record in JSON. -/
def schema : Schema MethodNameContext :=
  .record "MethodNameContext" (.field "method_name" .text none .done) row false

end MethodNameContext

namespace NotEnoughAllowanceContext

/-- The fields in the order of their declaration. -/
def row : Row NotEnoughAllowanceContext (AccountId × PublicKey × Amount × Amount × Unit) where
  toRow c := (c.accountId, c.publicKey, c.allowance, c.cost, ())
  ofRow := fun (accountId, publicKey, allowance, cost, ()) =>
    ⟨accountId, publicKey, allowance, cost⟩

/-- The record in JSON. -/
def schema : Schema NotEnoughAllowanceContext :=
  .record "NotEnoughAllowanceContext"
    (.field "account_id" AccountId.schema none <| .field "public_key" PublicKey.schema none <|
      .field "allowance" .amount none <| .field "cost" .amount none .done)
    row false

end NotEnoughAllowanceContext

end LedgerWire
