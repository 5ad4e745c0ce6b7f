import LedgerWire.AccessKey

/-!
# Actions

A transaction is a list of actions. The ordinals of the nine actions are part of the wire format
and are given in the table alone; the order of declaration plays no part.
-/

namespace LedgerWire

/-- Puts a contract on the account. -/
structure DeployContractAction where
  code : Bytes
  deriving DecidableEq

/-- Calls a method of the receiver, with a limit on gas and a deposit. -/
structure FunctionCallAction where
  methodName : String
  args : Bytes
  gas : UInt64
  deposit : Amount
  deriving DecidableEq

/-- Sends tokens to the receiver. -/
structure TransferAction where
  deposit : Amount
  deriving DecidableEq

/-- Locks tokens for validating under a key. -/
structure StakeAction where
  stake : Amount
  publicKey : PublicKey
  deriving DecidableEq

/-- Adds a key to the account. -/
structure AddKeyAction where
  publicKey : PublicKey
  accessKey : AccessKey
  deriving DecidableEq

/-- Takes a key off the account. -/
structure DeleteKeyAction where
  publicKey : PublicKey
  deriving DecidableEq

/-- Closes the account, what is left going to the beneficiary. -/
structure DeleteAccountAction where
  beneficiaryId : AccountId
  deriving DecidableEq

namespace DeployContractAction

/-- The fields in the order of their declaration. -/
def row : Row DeployContractAction (Bytes × Unit) where
  toRow a := (a.code, ())
  ofRow := fun (code, ()) => ⟨code⟩

/-- The record in JSON, with the code in base64. -/
def schema : Schema DeployContractAction :=
  .record "DeployContractAction" (.field "code" .base64 none .done) row false

instance : Wire DeployContractAction := Wire.ofRow row

end DeployContractAction

namespace FunctionCallAction

/-- The fields in the order of their declaration. -/
def row : Row FunctionCallAction (String × Bytes × UInt64 × Amount × Unit) where
  toRow a := (a.methodName, a.args, a.gas, a.deposit, ())
  ofRow := fun (methodName, args, gas, deposit, ()) => ⟨methodName, args, gas, deposit⟩

/-- The record in JSON, with the arguments in base64. -/
def schema : Schema FunctionCallAction :=
  .record "FunctionCallAction"
    (.field "method_name" .text none <| .field "args" .base64 none <|
      .field "gas" .uint64 none <| .field "deposit" .amount none .done)
    row false

instance : Wire FunctionCallAction := Wire.ofRow row

end FunctionCallAction

namespace TransferAction

/-- The fields in the order of their declaration. -/
def row : Row TransferAction (Amount × Unit) where
  toRow a := (a.deposit, ())
  ofRow := fun (deposit, ()) => ⟨deposit⟩

/-- The record in JSON. -/
def schema : Schema TransferAction :=
  .record "TransferAction" (.field "deposit" .amount none .done) row false

instance : Wire TransferAction := Wire.ofRow row

end TransferAction

namespace StakeAction

/-- The fields in the order of their declaration. -/
def row : Row StakeAction (Amount × PublicKey × Unit) where
  toRow a := (a.stake, a.publicKey, ())
  ofRow := fun (stake, publicKey, ()) => ⟨stake, publicKey⟩

/-- The record in JSON. -/
def schema : Schema StakeAction :=
  .record "StakeAction"
    (.field "stake" .amount none <| .field "public_key" PublicKey.schema none .done)
    row false

instance : Wire StakeAction := Wire.ofRow row

end StakeAction

namespace AddKeyAction

/-- The fields in the order of their declaration. -/
def row : Row AddKeyAction (PublicKey × AccessKey × Unit) where
  toRow a := (a.publicKey, a.accessKey, ())
  ofRow := fun (publicKey, accessKey, ()) => ⟨publicKey, accessKey⟩

/-- The record in JSON. -/
def schema : Schema AddKeyAction :=
  .record "AddKeyAction"
    (.field "public_key" PublicKey.schema none <|
      .field "access_key" AccessKey.schema none .done)
    row false

instance : Wire AddKeyAction := Wire.ofRow row

end AddKeyAction

namespace DeleteKeyAction

/-- The fields in the order of their declaration. -/
def row : Row DeleteKeyAction (PublicKey × Unit) where
  toRow a := (a.publicKey, ())
  ofRow := fun (publicKey, ()) => ⟨publicKey⟩

/-- The record in JSON. -/
def schema : Schema DeleteKeyAction :=
  .record "DeleteKeyAction" (.field "public_key" PublicKey.schema none .done) row false

instance : Wire DeleteKeyAction := Wire.ofRow row

end DeleteKeyAction

namespace DeleteAccountAction

/-- The fields in the order of their declaration. -/
def row : Row DeleteAccountAction (AccountId × Unit) where
  toRow a := (a.beneficiaryId, ())
  ofRow := fun (beneficiaryId, ()) => ⟨beneficiaryId⟩

/-- The record in JSON. -/
def schema : Schema DeleteAccountAction :=
  .record "DeleteAccountAction" (.field "beneficiary_id" AccountId.schema none .done) row false

instance : Wire DeleteAccountAction := Wire.ofRow row

end DeleteAccountAction

/-- One step of a transaction. -/
inductive Action where
  | addKey (action : AddKeyAction)
  | createAccount
  | deleteAccount (action : DeleteAccountAction)
  | deleteKey (action : DeleteKeyAction)
  | deployContract (action : DeployContractAction)
  | functionCall (action : FunctionCallAction)
  | stake (action : StakeAction)
  | stakeChunkOnly (action : StakeAction)
  | transfer (action : TransferAction)
  deriving DecidableEq

/-- The tags of the actions. -/
inductive Action.Tag where
  | addKey
  | createAccount
  | deleteAccount
  | deleteKey
  | deployContract
  | functionCall
  | stake
  | stakeChunkOnly
  | transfer
  deriving DecidableEq

namespace Action

instance : VariantTag Tag where
  all := [.addKey, .createAccount, .deleteAccount, .deleteKey, .deployContract, .functionCall,
    .stake, .stakeChunkOnly, .transfer]
  name
    | .addKey => "AddKey"
    | .createAccount => "CreateAccount"
    | .deleteAccount => "DeleteAccount"
    | .deleteKey => "DeleteKey"
    | .deployContract => "DeployContract"
    | .functionCall => "FunctionCall"
    | .stake => "Stake"
    | .stakeChunkOnly => "StakeChunkOnly"
    | .transfer => "Transfer"
  mem_all tag := by cases tag <;> decide
  nodup_names := by decide

/-- The table of the actions. -/
def registry : Registry Tag Action where
  family := "Action"
  variants := [
    (Variant.unit .createAccount .createAccount).withOrdinal 0,
    (Variant.structured .deployContract DeployContractAction.schema .deployContract).withOrdinal 1,
    (Variant.structured .functionCall FunctionCallAction.schema .functionCall).withOrdinal 2,
    (Variant.structured .transfer TransferAction.schema .transfer).withOrdinal 3,
    (Variant.structured .stake StakeAction.schema .stake).withOrdinal 4,
    (Variant.structured .addKey AddKeyAction.schema .addKey).withOrdinal 5,
    (Variant.structured .deleteKey DeleteKeyAction.schema .deleteKey).withOrdinal 6,
    (Variant.structured .deleteAccount DeleteAccountAction.schema .deleteAccount).withOrdinal 7,
    (Variant.structured .stakeChunkOnly StakeAction.schema .stakeChunkOnly).withOrdinal 8]
  of?_variants := rfl

/-- The actions as a tagged union. -/
def union : Tagged Tag Action where
  registry := registry
  parts
    | .addKey a => .carrying .addKey AddKeyAction.schema a
    | .createAccount => .bare .createAccount
    | .deleteAccount a => .carrying .deleteAccount DeleteAccountAction.schema a
    | .deleteKey a => .carrying .deleteKey DeleteKeyAction.schema a
    | .deployContract a => .carrying .deployContract DeployContractAction.schema a
    | .functionCall a => .carrying .functionCall FunctionCallAction.schema a
    | .stake a => .carrying .stake StakeAction.schema a
    | .stakeChunkOnly a => .carrying .stakeChunkOnly StakeAction.schema a
    | .transfer a => .carrying .transfer TransferAction.schema a

/-- An action as the type of a field. -/
def schema : Schema Action := union.schema

/-- Adds a new key that grants everything. -/
def addFullAccessKey (key : PublicKey) : Action := .addKey ⟨key, .fullAccess⟩

/-- Adds a new key limited to calls. -/
def addFunctionCallKey (key : PublicKey) (allowance : Option Amount) (receiverId : AccountId)
    (methodNames : List String) : Action :=
  .addKey ⟨key, .functionCall allowance receiverId methodNames⟩

/-- The bytes after the ordinal. -/
def writeBody : Action → Bytes
  | .addKey a => Wire.write a
  | .createAccount => []
  | .deleteAccount a => Wire.write a
  | .deleteKey a => Wire.write a
  | .deployContract a => Wire.write a
  | .functionCall a => Wire.write a
  | .stake a => Wire.write a
  | .stakeChunkOnly a => Wire.write a
  | .transfer a => Wire.write a

/-- Reads what follows the ordinal of a tag. -/
def readBody : Tag → Reader Action
  | .addKey, bytes => (Wire.read bytes).map fun (a, rest) => (.addKey a, rest)
  | .createAccount, bytes => .ok (.createAccount, bytes)
  | .deleteAccount, bytes => (Wire.read bytes).map fun (a, rest) => (.deleteAccount a, rest)
  | .deleteKey, bytes => (Wire.read bytes).map fun (a, rest) => (.deleteKey a, rest)
  | .deployContract, bytes => (Wire.read bytes).map fun (a, rest) => (.deployContract a, rest)
  | .functionCall, bytes => (Wire.read bytes).map fun (a, rest) => (.functionCall a, rest)
  | .stake, bytes => (Wire.read bytes).map fun (a, rest) => (.stake a, rest)
  | .stakeChunkOnly, bytes => (Wire.read bytes).map fun (a, rest) => (.stakeChunkOnly a, rest)
  | .transfer, bytes => (Wire.read bytes).map fun (a, rest) => (.transfer a, rest)

instance : Wire Action where
  write action := registry.ordinalOf rfl (union.tag action) :: writeBody action
  read bytes := do
    let (ordinal, rest) ← Wire.read bytes
    let tag ← registry.tagOf ordinal
    readBody tag rest
  fits
    | .addKey a => Wire.fits a
    | .createAccount => true
    | .deleteAccount a => Wire.fits a
    | .deleteKey a => Wire.fits a
    | .deployContract a => Wire.fits a
    | .functionCall a => Wire.fits a
    | .stake a => Wire.fits a
    | .stakeChunkOnly a => Wire.fits a
    | .transfer a => Wire.fits a

instance : Wire.Sized Action := ⟨.createAccount, .transfer ⟨.ofUInt64 0⟩, by simp⟩

end Action

end LedgerWire
