import LedgerWire.Config
import LedgerWire.Node.View
import LedgerWire.Proofs.Account.Id
import LedgerWire.Proofs.Key.Basic
import LedgerWire.Proofs.Union.Tagged
import LedgerWire.Transaction

/-!
# The ledger in JSON is read back

Names, keys and digests are faithful because their texts are read back, records because their
fields are, and the two unions because each variant decodes the payload that its constructor is
taken apart into. A configuration is read back unless its signer has an unusable key.
-/

namespace LedgerWire

/-! ### Names, keys and digests -/

instance : AccountId.schema.Faithful := .ofText fun _ => AccountId.ofText_eq_ok_iff.mpr rfl

instance : PublicKey.schema.Faithful := .ofText PublicKey.ofText_text

instance : Signature.schema.Faithful := .ofText Signature.ofText_text

instance : Digest.schema.Faithful := .ofText Digest.ofText_text

/-! ### Access keys -/

instance : FunctionCallPermission.schema.Faithful := .record (by decide)

/-- A permission comes back from its JSON. -/
theorem AccessKeyPermission.restores (permission : AccessKeyPermission) :
    union.Restores permission := by
  cases permission with
  | fullAccess =>
    exact Variant.withOrdinal_restores 1
      (Variant.unit_restores Tag.fullAccess AccessKeyPermission.fullAccess)
  | functionCall permission =>
    exact Variant.withOrdinal_restores 0
      (Variant.structured_restores FunctionCallPermission.schema permission ⟨_, rfl⟩)

instance : AccessKeyPermission.schema.Faithful :=
  Tagged.schema_faithful AccessKeyPermission.restores

instance : AccessKey.schema.Faithful := .record (by decide)

/-! ### Actions and transactions -/

instance : DeployContractAction.schema.Faithful := .record (by decide)

instance : FunctionCallAction.schema.Faithful := .record (by decide)

instance : TransferAction.schema.Faithful := .record (by decide)

instance : StakeAction.schema.Faithful := .record (by decide)

instance : AddKeyAction.schema.Faithful := .record (by decide)

instance : DeleteKeyAction.schema.Faithful := .record (by decide)

instance : DeleteAccountAction.schema.Faithful := .record (by decide)

/-- An action comes back from its JSON. -/
theorem Action.restores (action : Action) : union.Restores action := by
  cases action with
  | createAccount =>
    exact Variant.withOrdinal_restores 0
      (Variant.unit_restores Tag.createAccount Action.createAccount)
  | deployContract a =>
    exact Variant.withOrdinal_restores 1
      (Variant.structured_restores DeployContractAction.schema a ⟨_, rfl⟩)
  | functionCall a =>
    exact Variant.withOrdinal_restores 2
      (Variant.structured_restores FunctionCallAction.schema a ⟨_, rfl⟩)
  | transfer a =>
    exact Variant.withOrdinal_restores 3
      (Variant.structured_restores TransferAction.schema a ⟨_, rfl⟩)
  | stake a =>
    exact Variant.withOrdinal_restores 4
      (Variant.structured_restores StakeAction.schema a ⟨_, rfl⟩)
  | addKey a =>
    exact Variant.withOrdinal_restores 5
      (Variant.structured_restores AddKeyAction.schema a ⟨_, rfl⟩)
  | deleteKey a =>
    exact Variant.withOrdinal_restores 6
      (Variant.structured_restores DeleteKeyAction.schema a ⟨_, rfl⟩)
  | deleteAccount a =>
    exact Variant.withOrdinal_restores 7
      (Variant.structured_restores DeleteAccountAction.schema a ⟨_, rfl⟩)
  | stakeChunkOnly a =>
    exact Variant.withOrdinal_restores 8
      (Variant.structured_restores StakeAction.schema a ⟨_, rfl⟩)

instance : Action.schema.Faithful := Tagged.schema_faithful Action.restores

instance : Transaction.schema.Faithful := .record (by decide)

instance : SignedTransaction.schema.Faithful := .record (by decide)

/-! ### Keys and blocks as a node shows them -/

instance : AccessKeyView.schema.Faithful := .record (by decide)

instance : BlockHeaderView.schema.Faithful := .record (by decide)

instance : BlockView.schema.Faithful := .record (by decide)

/-! ### Configurations -/

instance : Network.schema.Faithful where
  restores network := by
    cases network <;> rfl

instance : RpcConfig.fields.Faithful := by
  unfold RpcConfig.fields
  infer_instance

instance : RpcConfig.schema.Faithful := .record (by decide)

/-- A signer is read back if the public half of its key is a point of the curve. -/
theorem SignerConfig.restores {config : SignerConfig}
    (husable : config.secretKey.isUsable = true) : schema.Restores config := by
  have hkey : SecretKey.schema.Restores config.secretKey :=
    Schema.ofText_restores (SecretKey.ofText_text husable)
  exact Schema.record_restores (by decide) ⟨Schema.restores config.accountId, hkey, trivial⟩

/-- A configuration is read back if the key of its signer, if any, is usable. -/
theorem ClientConfig.restores {config : ClientConfig}
    (husable : ∀ signer ∈ config.signer, signer.secretKey.isUsable = true) :
    schema.Restores config := by
  have hsigner : SignerConfig.schema.optional.Restores config.signer :=
    Schema.optional_restores (fun _ _ => Json.noConfusion) fun signer hsigner =>
      SignerConfig.restores (husable signer hsigner)
  exact Schema.record_restores (by decide) ⟨Schema.restores config.rpc, hsigner, trivial⟩

end LedgerWire
