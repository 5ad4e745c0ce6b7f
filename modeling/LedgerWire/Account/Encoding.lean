import LedgerWire.Wire.Layout

/-!
# Account names in JSON and in buffers

In JSON and in a buffer an account name is a text that is checked when it is read. A faulty name
is a faulty text in JSON and a malformed buffer in binary, with the same wording.
-/

namespace LedgerWire.AccountId

/-- An account name as a JSON text. -/
def schema : Schema AccountId :=
  .ofText ofText (fun fault => (ArgumentFault.account fault).failure) text
    fun id => .atom ("AccountId(" ++ id.text ++ ")")

instance : Wire AccountId where
  write id := Wire.write id.text
  read bytes := do
    let (name, rest) ← Wire.read bytes
    match ofText name with
    | .ok id => return (id, rest)
    | .error fault => throw (.format (.argument (.account fault)))
  fits id := Wire.fits id.text

end LedgerWire.AccountId
