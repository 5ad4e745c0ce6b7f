import LedgerWire.Account.Encoding
import LedgerWire.Key.Basic

/-!
# What an action error is about

Each record names the accounts, keys and amounts that an action failed on.
-/

namespace LedgerWire

/-- An account. -/
structure AccountContext where
  accountId : AccountId
  deriving DecidableEq

/-- A key of an account. -/
structure KeyContext where
  accountId : AccountId
  publicKey : PublicKey
  deriving DecidableEq

/-- A new account, the registrar that alone may create it, and who tried. -/
structure RegistrarContext where
  accountId : AccountId
  registrarAccountId : AccountId
  predecessorId : AccountId
  deriving DecidableEq

/-- A new account and who tried to create it. -/
structure PredecessorContext where
  accountId : AccountId
  predecessorId : AccountId
  deriving DecidableEq

/-- An account and who acted on it. -/
structure ActorContext where
  accountId : AccountId
  actorId : AccountId
  deriving DecidableEq

/-- An account and the amount that it is short of. -/
structure LackBalanceContext where
  accountId : AccountId
  amount : Amount
  deriving DecidableEq

/-- An account, the stake it asked for, what it has locked and what it holds. -/
structure StakeContext where
  accountId : AccountId
  stake : Amount
  locked : Amount
  balance : Amount
  deriving DecidableEq

/-- An account, the stake it asked for and the least one allowed. -/
structure InsufficientStakeContext where
  accountId : AccountId
  stake : Amount
  minimumStake : Amount
  deriving DecidableEq

/-- A message from the machine that runs contracts. -/
structure MessageContext where
  msg : String
  deriving DecidableEq

namespace AccountContext

/-- The fields in the order of their declaration. -/
def row : Row AccountContext (AccountId × Unit) where
  toRow c := (c.accountId, ())
  ofRow := fun (accountId, ()) => ⟨accountId⟩

/-- The record in JSON. -/
def schema : Schema AccountContext :=
  .record "AccountContext" (.field "account_id" AccountId.schema none .done) row false

end AccountContext

namespace KeyContext

/-- The fields in the order of their declaration. -/
def row : Row KeyContext (AccountId × PublicKey × Unit) where
  toRow c := (c.accountId, c.publicKey, ())
  ofRow := fun (accountId, publicKey, ()) => ⟨accountId, publicKey⟩

/-- The record in JSON. -/
def schema : Schema KeyContext :=
  .record "KeyContext"
    (.field "account_id" AccountId.schema none <| .field "public_key" PublicKey.schema none .done)
    row false

end KeyContext

namespace RegistrarContext

/-- The fields in the order of their declaration. -/
def row : Row RegistrarContext (AccountId × AccountId × AccountId × Unit) where
  toRow c := (c.accountId, c.registrarAccountId, c.predecessorId, ())
  ofRow := fun (accountId, registrarAccountId, predecessorId, ()) =>
    ⟨accountId, registrarAccountId, predecessorId⟩

/-- The record in JSON. -/
def schema : Schema RegistrarContext :=
  .record "RegistrarContext"
    (.field "account_id" AccountId.schema none <|
      .field "registrar_account_id" AccountId.schema none <|
      .field "predecessor_id" AccountId.schema none .done)
    row false

end RegistrarContext

namespace PredecessorContext

/-- The fields in the order of their declaration. -/
def row : Row PredecessorContext (AccountId × AccountId × Unit) where
  toRow c := (c.accountId, c.predecessorId, ())
  ofRow := fun (accountId, predecessorId, ()) => ⟨accountId, predecessorId⟩

/-- The record in JSON. -/
def schema : Schema PredecessorContext :=
  .record "PredecessorContext"
    (.field "account_id" AccountId.schema none <|
      .field "predecessor_id" AccountId.schema none .done)
    row false

end PredecessorContext

namespace ActorContext

/-- The fields in the order of their declaration. -/
def row : Row ActorContext (AccountId × AccountId × Unit) where
  toRow c := (c.accountId, c.actorId, ())
  ofRow := fun (accountId, actorId, ()) => ⟨accountId, actorId⟩

/-- The record in JSON. -/
def schema : Schema ActorContext :=
  .record "ActorContext"
    (.field "account_id" AccountId.schema none <| .field "actor_id" AccountId.schema none .done)
    row false

end ActorContext

namespace LackBalanceContext

/-- The fields in the order of their declaration. -/
def row : Row LackBalanceContext (AccountId × Amount × Unit) where
  toRow c := (c.accountId, c.amount, ())
  ofRow := fun (accountId, amount, ()) => ⟨accountId, amount⟩

/-- The record in JSON. -/
def schema : Schema LackBalanceContext :=
  .record "LackBalanceContext"
    (.field "account_id" AccountId.schema none <| .field "amount" .amount none .done)
    row false

end LackBalanceContext

namespace StakeContext

/-- The fields in the order of their declaration. -/
def row : Row StakeContext (AccountId × Amount × Amount × Amount × Unit) where
  toRow c := (c.accountId, c.stake, c.locked, c.balance, ())
  ofRow := fun (accountId, stake, locked, balance, ()) => ⟨accountId, stake, locked, balance⟩

/-- The record in JSON. -/
def schema : Schema StakeContext :=
  .record "StakeContext"
    (.field "account_id" AccountId.schema none <| .field "stake" .amount none <|
      .field "locked" .amount none <| .field "balance" .amount none .done)
    row false

end StakeContext

namespace InsufficientStakeContext

/-- The fields in the order of their declaration. -/
def row : Row InsufficientStakeContext (AccountId × Amount × Amount × Unit) where
  toRow c := (c.accountId, c.stake, c.minimumStake, ())
  ofRow := fun (accountId, stake, minimumStake, ()) => ⟨accountId, stake, minimumStake⟩

/-- The record in JSON. -/
def schema : Schema InsufficientStakeContext :=
  .record "InsufficientStakeContext"
    (.field "account_id" AccountId.schema none <| .field "stake" .amount none <|
      .field "minimum_stake" .amount none .done)
    row false

end InsufficientStakeContext

namespace MessageContext

/-- The fields in the order of their declaration. -/
def row : Row MessageContext (String × Unit) where
  toRow c := (c.msg, ())
  ofRow := fun (msg, ()) => ⟨msg⟩

/-- The record in JSON. -/
def schema : Schema MessageContext :=
  .record "MessageContext" (.field "msg" .text none .done) row false

end MessageContext

end LedgerWire
