import LedgerWire.Proofs.Account.Id
import LedgerWire.Proofs.Union.Registry
import LedgerWire.Proofs.Wire.Lawful
import LedgerWire.Transaction

/-!
# The layouts of the ledger are canonical

Records are lawful because their rows are. An action and a permission are written behind the
ordinal of their tag, and the reader finds the tag of an ordinal in the same registry; since a
registry is a bijection, the two meet, in whatever order the tags are declared.
-/

namespace LedgerWire

open Wire (Lawful)

namespace Wire

/-- A body that is read as one value and put under a constructor. -/
theorem map_read_eq_ok_iff {α υ : Type} [Wire α] [Lawful α] {make : α → υ} {bytes rest : Bytes}
    {value : υ} :
    ((read bytes).map fun (a, rest) => (make a, rest)) = .ok (value, rest) ↔
      ∃ a, make a = value ∧ fits a = true ∧ bytes = write a ++ rest := by
  simp only [Except.map_eq_ok_iff, Prod.exists, read_eq_ok_iff, Prod.mk.injEq]
  constructor
  · rintro ⟨a, rest', ⟨hfits, rfl⟩, rfl, rfl⟩
    exact ⟨a, rfl, hfits, rfl⟩
  · rintro ⟨a, rfl, hfits, rfl⟩
    exact ⟨a, rest, ⟨hfits, rfl⟩, rfl, rfl⟩

/-- If every body is read back behind the ordinal of its own tag, then a value is read back from
its ordinal and its body. -/
theorem readTagged_eq_ok_iff {τ υ : Type} [DecidableEq τ] [VariantTag τ] {union : Tagged τ υ}
    (numbered : union.registry.hasOrdinals = true) {writeBody : υ → Bytes}
    {readBody : τ → Reader υ} {fits : υ → Bool}
    (hbody : ∀ {tag bytes rest value}, readBody tag bytes = .ok (value, rest) ↔
      union.tag value = tag ∧ fits value = true ∧ bytes = writeBody value ++ rest)
    {bytes rest : Bytes} {value : υ} :
    (do let (ordinal, rest) ← read bytes
        let tag ← union.registry.tagOf ordinal
        readBody tag rest) = Except.ok (value, rest) ↔
      fits value = true ∧
        bytes = union.registry.ordinalOf numbered (union.tag value) :: writeBody value ++ rest := by
  simp only [Except.bind_eq_ok_iff, Prod.exists, read_eq_ok_iff, hbody]
  constructor
  · rintro ⟨ordinal, rest', ⟨-, rfl⟩, tag, htag, rfl, hfits, rfl⟩
    rw [Registry.ordinalOf_of_tagOf numbered htag]
    exact ⟨hfits, rfl⟩
  · rintro ⟨hfits, rfl⟩
    exact ⟨_, _, ⟨rfl, rfl⟩, _, Registry.tagOf_ordinalOf numbered _, rfl, hfits, rfl⟩

end Wire

/-! ### Names, keys and digests -/

instance : Lawful AccountId where
  read_eq_ok_iff {bytes rest id} := by
    show (do
        let (name, rest) ← Wire.read bytes
        match AccountId.ofText name with
        | .ok id => return (id, rest)
        | .error fault => throw (.format (.argument (.account fault)))) = Except.ok (id, rest) ↔
      Wire.fits id.text = true ∧ bytes = Wire.write id.text ++ rest
    simp only [Except.bind_eq_ok_iff, Prod.exists, Wire.read_eq_ok_iff]
    constructor
    · rintro ⟨name, rest', ⟨hfits, rfl⟩, h⟩
      split at h
      · rename_i read hread
        cases h
        rw [← AccountId.ofText_eq_ok_iff.mp hread]
        exact ⟨hfits, rfl⟩
      · cases h
    · rintro ⟨hfits, rfl⟩
      refine ⟨id.text, rest, ⟨hfits, rfl⟩, ?_⟩
      rw [AccountId.ofText_eq_ok_iff.mpr rfl]
      rfl

/-- A byte is the ordinal of a curve just when the curve has it. -/
theorem Curve.ofOrdinal_eq_ok_iff {ordinal : UInt8} {curve : Curve} :
    ofOrdinal ordinal = .ok curve ↔ ordinal = curve.ordinal := by
  cases curve
  simp [ofOrdinal, Curve.ordinal]

instance : Lawful Curve where
  read_eq_ok_iff {bytes rest curve} := by
    show (do
        let (ordinal, rest) ← Wire.read bytes
        let curve ← Curve.ofOrdinal ordinal
        return (curve, rest)) = Except.ok (curve, rest) ↔
      true = true ∧ bytes = Wire.write curve.ordinal ++ rest
    simp only [Except.bind_eq_ok_iff, Prod.exists, Wire.read_eq_ok_iff, Curve.ofOrdinal_eq_ok_iff]
    constructor
    · rintro ⟨ordinal, rest', ⟨-, rfl⟩, curve', rfl, heq⟩
      cases heq
      exact ⟨trivial, rfl⟩
    · rintro ⟨-, rfl⟩
      exact ⟨curve.ordinal, rest, ⟨rfl, rfl⟩, curve, rfl, rfl⟩

instance : Lawful Digest where
  read_eq_ok_iff {bytes rest digest} := by
    simp only [Wire.read, Wire.fits, Wire.write, Except.map_eq_ok_iff, Prod.exists,
      Wire.take_eq_ok_iff, Prod.mk.injEq, true_and]
    constructor
    · rintro ⟨block, rest', rfl, rfl, rfl⟩
      rfl
    · rintro rfl
      exact ⟨digest.data, rest, rfl, rfl, rfl⟩

instance : Lawful PublicKey := .ofRow PublicKey.row

instance : Lawful Signature := .ofRow Signature.row

/-! ### Access keys -/

instance : Lawful FunctionCallPermission := .ofRow FunctionCallPermission.row

/-- The body of a permission is read just when the bytes begin with it. -/
theorem AccessKeyPermission.readBody_eq_ok_iff {tag : Tag} {bytes rest : Bytes}
    {permission : AccessKeyPermission} :
    readBody tag bytes = .ok (permission, rest) ↔
      union.tag permission = tag ∧ Wire.fits permission = true ∧
        bytes = writeBody permission ++ rest := by
  cases tag <;> cases permission <;>
    simp [readBody, Wire.map_read_eq_ok_iff, writeBody, union, Tagged.tag, Parts.bare,
      Parts.carrying, Wire.fits]

instance : Lawful AccessKeyPermission where
  read_eq_ok_iff := Wire.readTagged_eq_ok_iff rfl AccessKeyPermission.readBody_eq_ok_iff

instance : Lawful AccessKey := .ofRow AccessKey.row

/-! ### Actions -/

instance : Lawful DeployContractAction := .ofRow DeployContractAction.row

instance : Lawful FunctionCallAction := .ofRow FunctionCallAction.row

instance : Lawful TransferAction := .ofRow TransferAction.row

instance : Lawful StakeAction := .ofRow StakeAction.row

instance : Lawful AddKeyAction := .ofRow AddKeyAction.row

instance : Lawful DeleteKeyAction := .ofRow DeleteKeyAction.row

instance : Lawful DeleteAccountAction := .ofRow DeleteAccountAction.row

/-- The body of an action is read just when the bytes begin with it. -/
theorem Action.readBody_eq_ok_iff {tag : Tag} {bytes rest : Bytes} {action : Action} :
    readBody tag bytes = .ok (action, rest) ↔
      union.tag action = tag ∧ Wire.fits action = true ∧ bytes = writeBody action ++ rest := by
  cases tag <;> cases action <;>
    simp [readBody, Wire.map_read_eq_ok_iff, writeBody, union, Tagged.tag, Parts.bare,
      Parts.carrying, Wire.fits]

instance : Lawful Action where
  read_eq_ok_iff := Wire.readTagged_eq_ok_iff rfl Action.readBody_eq_ok_iff

/-! ### Transactions -/

instance : Lawful Transaction := .ofRow Transaction.row

instance : Lawful SignedTransaction := .ofRow SignedTransaction.row

end LedgerWire
