import LedgerWire.Proofs.Wire.Lawful
import LedgerWire.Transaction

/-!
# Values whose counts fit

The only values without bytes are those with a text or a list too long for its count of four
bytes. Here the condition is spelt out for each type of the ledger, in terms of the texts and
lists in it alone, and shown to be what the layouts ask for. Account names are never too long.
-/

namespace LedgerWire

/-- The bytes of a text are as many as its size says. -/
theorem Utf8.length_encode (text : String) : (encode text).length = text.utf8ByteSize := by
  rw [encode_eq_toByteArray]
  simp

/-! ### Texts and lists -/

/-- A text that is short enough for its count. -/
def ShortText (text : String) : Prop := text.utf8ByteSize < 2 ^ 32

/-- A list that is short enough for its count, of items that are themselves short. -/
def ShortList {α : Type} (short : α → Prop) (items : List α) : Prop :=
  items.length < 2 ^ 32 ∧ ∀ item ∈ items, short item

instance : DecidablePred ShortText := fun _ => inferInstanceAs (Decidable (_ < _))

instance {α : Type} {short : α → Prop} [DecidablePred short] : DecidablePred (ShortList short) :=
  fun _ => inferInstanceAs (Decidable (_ ∧ _))

/-- A text fits just when it is short. -/
theorem Wire.fits_text_iff {text : String} : Wire.fits text = true ↔ ShortText text := by
  show Wire.countFits (Utf8.encode text).length = true ↔ _
  rw [Wire.countFits_iff, Utf8.length_encode, ShortText]

/-- A list fits just when it is short, with items that are. -/
theorem Wire.fits_list_iff {α : Type} [Wire α] [Wire.Sized α] {short : α → Prop}
    (hitem : ∀ item : α, Wire.fits item = true ↔ short item) {items : List α} :
    Wire.fits items = true ↔ ShortList short items := by
  show (Wire.countFits items.length && items.all Wire.fits) = true ↔ _
  simp only [Bool.and_eq_true, Wire.countFits_iff, List.all_eq_true, hitem, ShortList]

/-- Bytes fit just when their number fits 32 bits. -/
theorem Wire.fits_bytes_iff {bytes : Bytes} :
    Wire.fits bytes = true ↔ bytes.length < 2 ^ 32 := by
  have hbyte : ∀ byte : UInt8, Wire.fits byte = true ↔ True := fun _ => iff_of_true rfl trivial
  rw [Wire.fits_list_iff hbyte]
  simp [ShortList]

/-- An account name has at most 64 bytes. -/
theorem AccountId.shortText (id : AccountId) : ShortText id.text := by
  have hclean := id.fault?_text
  simp only [AccountId.fault?] at hclean
  split at hclean
  · cases hclean
  · rename_i hlength
    rw [Utf8.length_encode, maxLength] at hlength
    rw [ShortText]
    omega

/-- The name of an account always fits. -/
@[simp] theorem AccountId.fits_eq_true (id : AccountId) : Wire.fits id = true :=
  Wire.fits_text_iff.mpr id.shortText

/-! ### Access keys -/

/-- A limited permission whose method names are short, and not too many. -/
def FunctionCallPermission.Short (p : FunctionCallPermission) : Prop :=
  ShortList ShortText p.methodNames

/-- A permission for function calls fits just when it is short. -/
theorem FunctionCallPermission.fits_iff {p : FunctionCallPermission} :
    Wire.fits p = true ↔ p.Short := by
  show (p.allowance.all Wire.fits && (Wire.fits p.receiverId &&
    (Wire.fits p.methodNames && true))) = true ↔ _
  have hallowance : p.allowance.all Wire.fits = true := by
    cases p.allowance <;> rfl
  simp only [hallowance, AccountId.fits_eq_true, Bool.true_and, Bool.and_true,
    Wire.fits_list_iff fun _ => Wire.fits_text_iff]
  rfl

/-- A permission is short when its limits are. -/
def AccessKeyPermission.Short : AccessKeyPermission → Prop
  | .fullAccess => True
  | .functionCall p => p.Short

/-- A permission fits just when it is short. -/
theorem AccessKeyPermission.fits_iff {permission : AccessKeyPermission} :
    Wire.fits permission = true ↔ permission.Short := by
  cases permission with
  | fullAccess => simp [Wire.fits, Short]
  | functionCall p => exact FunctionCallPermission.fits_iff

/-- A key is short when its permission is. -/
def AccessKey.Short (key : AccessKey) : Prop := key.permission.Short

/-- An access key fits just when it is short. -/
theorem AccessKey.fits_iff {key : AccessKey} : Wire.fits key = true ↔ key.Short := by
  show (true && (Wire.fits key.permission && true)) = true ↔ _
  rw [Bool.true_and, Bool.and_true, AccessKeyPermission.fits_iff, Short]

/-! ### Actions and transactions -/

/-- A deployment of short code. -/
def DeployContractAction.Short (a : DeployContractAction) : Prop := a.code.length < 2 ^ 32

/-- A deployment fits just when it is short. -/
theorem DeployContractAction.fits_iff {a : DeployContractAction} :
    Wire.fits a = true ↔ a.Short := by
  show (Wire.fits a.code && true) = true ↔ _
  rw [Bool.and_true, Wire.fits_bytes_iff, Short]

/-- A call with a short method name and short arguments. -/
def FunctionCallAction.Short (a : FunctionCallAction) : Prop :=
  ShortText a.methodName ∧ a.args.length < 2 ^ 32

/-- A function call fits just when it is short. -/
theorem FunctionCallAction.fits_iff {a : FunctionCallAction} : Wire.fits a = true ↔ a.Short := by
  show (Wire.fits a.methodName && (Wire.fits a.args && (true && (true && true)))) = true ↔ _
  rw [Bool.and_true, Bool.and_true, Bool.and_true, Bool.and_eq_true, Wire.fits_text_iff,
    Wire.fits_bytes_iff, Short]

/-- An added key is short when its access key is. -/
def AddKeyAction.Short (a : AddKeyAction) : Prop := a.accessKey.Short

/-- An addition of a key fits just when it is short. -/
theorem AddKeyAction.fits_iff {a : AddKeyAction} : Wire.fits a = true ↔ a.Short := by
  show ((true && true) && (Wire.fits a.accessKey && true)) = true ↔ _
  rw [Bool.and_true, Bool.true_and, Bool.and_true, AccessKey.fits_iff, Short]

/-- An action whose texts and lists are all short. -/
def Action.Short : Action → Prop
  | .addKey a => a.Short
  | .deployContract a => a.Short
  | .functionCall a => a.Short
  | .createAccount | .deleteAccount _ | .deleteKey _ | .stake _ | .stakeChunkOnly _
  | .transfer _ => True

/-- An action fits just when it is short. -/
theorem Action.fits_iff {action : Action} : Wire.fits action = true ↔ action.Short := by
  cases action with
  | addKey a => exact AddKeyAction.fits_iff
  | deployContract a => exact DeployContractAction.fits_iff
  | functionCall a => exact FunctionCallAction.fits_iff
  | deleteAccount a =>
    show (Wire.fits a.beneficiaryId && true) = true ↔ True
    simp
  | createAccount => exact iff_of_true rfl trivial
  | deleteKey a => exact iff_of_true rfl trivial
  | stake a => exact iff_of_true rfl trivial
  | stakeChunkOnly a => exact iff_of_true rfl trivial
  | transfer a => exact iff_of_true rfl trivial

/-- A transaction of short actions, and not too many. -/
def Transaction.Short (t : Transaction) : Prop := ShortList Action.Short t.actions

/-- A transaction fits just when it is short. -/
theorem Transaction.fits_iff {t : Transaction} : Wire.fits t = true ↔ t.Short := by
  show (Wire.fits t.signerId && ((true && true) && (true && (Wire.fits t.receiverId &&
    (true && (Wire.fits t.actions && true)))))) = true ↔ _
  simp only [AccountId.fits_eq_true, Bool.true_and, Bool.and_true,
    Wire.fits_list_iff fun _ => Action.fits_iff]
  rfl

/-- A signed transaction is short when the transaction is. -/
def SignedTransaction.Short (s : SignedTransaction) : Prop := s.transaction.Short

/-- A signed transaction fits just when it is short. -/
theorem SignedTransaction.fits_iff {s : SignedTransaction} : Wire.fits s = true ↔ s.Short := by
  show (Wire.fits s.transaction && ((true && true) && true)) = true ↔ _
  simp only [Bool.and_true, Transaction.fits_iff, Short]

end LedgerWire
