import LedgerWire.Account.Id

/-!
# Account names are their texts

An account name carries the proof that nothing is wrong with its text, so reading a text gives the
name with that text or none.
-/

namespace LedgerWire.AccountId

/-- Reading a text gives the account name with that text, and no other. -/
theorem ofText_eq_ok_iff {name : String} {id : AccountId} :
    ofText name = .ok id ↔ name = id.text := by
  unfold ofText
  constructor
  · intro h
    split at h
    · cases h
      rfl
    · cases h
  · rintro rfl
    split
    · rfl
    · rename_i fault hfault
      rw [id.fault?_text] at hfault
      cases hfault

end LedgerWire.AccountId
