import LedgerWire.Account.Encoding
import LedgerWire.Key.Basic
import LedgerWire.Union.Tagged

/-!
# Access keys

An access key either grants everything, or only calls of some methods of one account up to an
allowance. The ordinals of the two permissions are part of the wire format.
-/

namespace LedgerWire

/-- What a key limited to calls may do: call the named methods of the receiver, or all of its
methods when none is named, and spend at most the allowance on fees if there is one. -/
structure FunctionCallPermission where
  allowance : Option Amount
  receiverId : AccountId
  methodNames : List String
  deriving DecidableEq

namespace FunctionCallPermission

/-- The fields in the order of their declaration. -/
def row : Row FunctionCallPermission (Option Amount × AccountId × List String × Unit) where
  toRow p := (p.allowance, p.receiverId, p.methodNames, ())
  ofRow := fun (allowance, receiverId, methodNames, ()) => ⟨allowance, receiverId, methodNames⟩

/-- The record in JSON. A missing allowance is no allowance. -/
def schema : Schema FunctionCallPermission :=
  .record "FunctionCallPermission"
    (.field "allowance" (.optional .amount) (some none) <|
      .field "receiver_id" AccountId.schema none <|
      .field "method_names" (.list .text) none .done)
    row false

instance : Wire FunctionCallPermission := Wire.ofRow row

end FunctionCallPermission

/-- What an access key may do. -/
inductive AccessKeyPermission where
  | fullAccess
  | functionCall (permission : FunctionCallPermission)
  deriving DecidableEq

/-- The tags of the permissions. -/
inductive AccessKeyPermission.Tag where
  | fullAccess
  | functionCall
  deriving DecidableEq

namespace AccessKeyPermission

instance : VariantTag Tag where
  all := [.fullAccess, .functionCall]
  name
    | .fullAccess => "FullAccess"
    | .functionCall => "FunctionCall"
  mem_all tag := by cases tag <;> decide
  nodup_names := by decide

/-- The table of the permissions. -/
def registry : Registry Tag AccessKeyPermission where
  family := "AccessKeyPermission"
  variants := [
    (Variant.structured .functionCall FunctionCallPermission.schema .functionCall).withOrdinal 0,
    (Variant.unit .fullAccess .fullAccess).withOrdinal 1]
  of?_variants := rfl

/-- The permissions as a tagged union. -/
def union : Tagged Tag AccessKeyPermission where
  registry := registry
  parts
    | .fullAccess => .bare .fullAccess
    | .functionCall permission =>
      .carrying .functionCall FunctionCallPermission.schema permission

/-- A permission as the type of a field. -/
def schema : Schema AccessKeyPermission := union.schema

/-- The bytes after the ordinal. -/
def writeBody : AccessKeyPermission → Bytes
  | .fullAccess => []
  | .functionCall permission => Wire.write permission

/-- Reads what follows the ordinal of a tag. -/
def readBody : Tag → Reader AccessKeyPermission
  | .fullAccess, bytes => .ok (.fullAccess, bytes)
  | .functionCall, bytes =>
    (Wire.read bytes).map fun (permission, rest) => (.functionCall permission, rest)

instance : Wire AccessKeyPermission where
  write permission := registry.ordinalOf rfl (union.tag permission) :: writeBody permission
  read bytes := do
    let (ordinal, rest) ← Wire.read bytes
    let tag ← registry.tagOf ordinal
    readBody tag rest
  fits
    | .fullAccess => true
    | .functionCall permission => Wire.fits permission

end AccessKeyPermission

/-- A key of an account, with the number of its last transaction. -/
structure AccessKey where
  nonce : UInt64
  permission : AccessKeyPermission
  deriving DecidableEq

namespace AccessKey

/-- A new key that grants everything. -/
def fullAccess : AccessKey := ⟨0, .fullAccess⟩

/-- A new key limited to calls. -/
def functionCall (allowance : Option Amount) (receiverId : AccountId) (methodNames : List String) :
    AccessKey :=
  ⟨0, .functionCall ⟨allowance, receiverId, methodNames⟩⟩

/-- The fields in the order of their declaration. -/
def row : Row AccessKey (UInt64 × AccessKeyPermission × Unit) where
  toRow key := (key.nonce, key.permission, ())
  ofRow := fun (nonce, permission, ()) => ⟨nonce, permission⟩

/-- The record in JSON. -/
def schema : Schema AccessKey :=
  .record "AccessKey"
    (.field "nonce" .uint64 none <| .field "permission" AccessKeyPermission.schema none .done)
    row false

instance : Wire AccessKey := Wire.ofRow row

end AccessKey

end LedgerWire
