import LedgerWire.Transaction

/-!
# Types whose values take room

The items of a list have more than one value. A block has when it is not empty, and a record has
when one of its fields has; only a curve and the empty block have a single value.
-/

namespace LedgerWire

namespace Wire.Sized

variable {α β : Type}

/-- A type with more than one value has a value. -/
theorem nonempty [Sized α] : Nonempty α :=
  have ⟨value, _⟩ := Sized.exists_ne (α := α)
  ⟨value⟩

/-- A type that holds different values for different values of a part has as many as the part. -/
theorem of_part [Sized α] (make : α → β) (hmake : ∀ first second, make first = make second →
    first = second) : Sized β :=
  have ⟨first, second, hne⟩ := Sized.exists_ne (α := α)
  ⟨make first, make second, fun h => hne (hmake first second h)⟩

/-- A block of some bytes has more than one value. -/
theorem block {size : Nat} (pos : 0 < size) : Sized (Block size) where
  exists_ne := by
    refine ⟨.zero size, ⟨List.replicate size 1, List.length_replicate⟩, fun h => ?_⟩
    have hbytes : List.replicate size (0 : UInt8) = List.replicate size 1 :=
      congrArg Block.bytes h
    rw [List.replicate_inj] at hbytes
    rcases hbytes with ⟨-, hzero | hbyte⟩
    · omega
    · exact absurd hbyte (by decide)

end Wire.Sized

open Wire (Sized)

instance : Sized (Block 32) := .block (by decide)

instance : Sized (Block 64) := .block (by decide)

instance : Sized Amount := .of_part Amount.ofUInt64 fun first second h => by
  have hunits : first.toNat = second.toNat := congrArg Amount.units h
  exact UInt64.toNat_inj.mp hunits

/-! ### Names, keys and digests -/

instance : Sized AccountId := ⟨⟨"aa", by decide⟩, ⟨"bb", by decide⟩, by decide⟩

instance : Nonempty AccountId := Sized.nonempty

instance : Sized PublicKey := .of_part (PublicKey.mk .ed25519) fun _ _ h => by cases h; rfl

instance : Nonempty PublicKey := Sized.nonempty

instance : Sized Signature := .of_part (Signature.mk .ed25519) fun _ _ h => by cases h; rfl

instance : Sized Digest := .of_part Digest.mk fun _ _ h => by cases h; rfl

/-! ### Access keys -/

instance : Sized FunctionCallPermission :=
  .of_part (fun receiver => ⟨none, receiver, []⟩) fun _ _ h => by cases h; rfl

instance : Sized AccessKeyPermission :=
  have ⟨permission⟩ := Sized.nonempty (α := FunctionCallPermission)
  ⟨.fullAccess, .functionCall permission, by simp⟩

instance : Sized AccessKey := .of_part (fun nonce => ⟨nonce, .fullAccess⟩) fun _ _ h => by
  cases h; rfl

/-! ### Actions -/

instance : Sized DeployContractAction := .of_part DeployContractAction.mk fun _ _ h => by
  cases h; rfl

instance : Sized FunctionCallAction :=
  .of_part (fun name => ⟨name, [], 0, .ofUInt64 0⟩) fun _ _ h => by cases h; rfl

instance : Sized TransferAction := .of_part TransferAction.mk fun _ _ h => by cases h; rfl

instance : Sized StakeAction :=
  .of_part (fun key => ⟨.ofUInt64 0, key⟩) fun _ _ h => by cases h; rfl

instance : Sized AddKeyAction :=
  .of_part (fun key => ⟨key, ⟨0, .fullAccess⟩⟩) fun _ _ h => by cases h; rfl

instance : Sized DeleteKeyAction := .of_part DeleteKeyAction.mk fun _ _ h => by cases h; rfl

instance : Sized DeleteAccountAction := .of_part DeleteAccountAction.mk fun _ _ h => by
  cases h; rfl

/-! ### Transactions -/

instance : Sized Transaction :=
  have ⟨id⟩ := Sized.nonempty (α := AccountId)
  have ⟨key⟩ := Sized.nonempty (α := PublicKey)
  .of_part (fun nonce => ⟨id, key, nonce, id, ⟨.zero 32⟩, []⟩) fun _ _ h => by cases h; rfl

instance : Sized SignedTransaction :=
  have ⟨transaction⟩ := Sized.nonempty (α := Transaction)
  .of_part (fun signature => ⟨transaction, signature⟩) fun _ _ h => by cases h; rfl

end LedgerWire
