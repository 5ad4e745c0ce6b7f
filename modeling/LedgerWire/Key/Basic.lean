import LedgerWire.Curve.Ed25519
import LedgerWire.Wire.Layout

/-!
# Keys and signatures

Keys and signatures carry the curve they belong to. Their text is the name of the curve, a colon
and the bytes in base58; the curve may be left out when reading and its name may be in any case.
In a buffer the curve is one byte. Reading a secret key checks that its public half is a point of
the curve, but not that it belongs to the seed.
-/

namespace LedgerWire

/-- A signature curve. There is one. -/
inductive Curve where
  | ed25519
  deriving DecidableEq

namespace Curve

/-- The name of a curve. -/
def name : Curve → String
  | .ed25519 => "ed25519"

/-- The byte of a curve in a buffer. -/
def ordinal : Curve → UInt8
  | .ed25519 => 0

/-- The curve of a byte. -/
def ofOrdinal (ordinal : UInt8) : Except CodecError Curve :=
  if ordinal = 0 then .ok .ed25519
  else .error (.unknownVariant "KeyType" (Decimal.write ordinal.toNat))

/-- The curve of a name in any case. -/
def ofName (name : String) : Except ArgumentFault Curve :=
  if name.toList.map Char.toLower = "ed25519".toList then .ok .ed25519
  else .error (.unsupportedCurve name)

end Curve

instance : Wire Curve where
  write curve := [curve.ordinal]
  read bytes := do
    let (ordinal, rest) ← Wire.read bytes
    let curve ← Curve.ofOrdinal ordinal
    return (curve, rest)
  fits _ := true

namespace Key

/-- The mark between the name of the curve and the bytes. -/
def separator : Char := ':'

/-- The text of a block of a curve. -/
def write {size : Nat} (curve : Curve) (data : Block size) : String :=
  curve.name ++ separator.toString ++ Base58.encode data.bytes

/-- Splits a text at its first separator. Without one, everything is data. -/
def split (text : String) : Option String × String :=
  let chars := text.toList
  match chars.dropWhile (· != separator) with
  | [] => (none, text)
  | _ :: data => (some (String.ofList (chars.takeWhile (· != separator))), String.ofList data)

/-- Reads the text of a block of a curve. The subject names what the text stands for. -/
def read (size : Nat) (subject text : String) : Except ArgumentFault (Curve × Block size) := do
  let (name, data) := split text
  let curve ← match name with
    | some name => Curve.ofName name
    | none => .ok .ed25519
  match Base58.decode data with
  | .error fault => throw (.base58 subject text fault)
  | .ok bytes =>
    match Block.ofBytes? size bytes with
    | some block => return (curve, block)
    | none => throw (.length subject size bytes.length)

end Key

/-- A public key. -/
structure PublicKey where
  curve : Curve
  data : Block 32
  deriving DecidableEq

/-- A signature. -/
structure Signature where
  curve : Curve
  data : Block 64
  deriving DecidableEq

/-- A secret key: the seed and the public key that is said to belong to it. -/
structure SecretKey where
  curve : Curve
  data : Block 64
  deriving DecidableEq

namespace PublicKey

/-- The text of a public key. -/
def text (key : PublicKey) : String := Key.write key.curve key.data

/-- Reads a public key. Any 32 bytes will do. -/
def ofText (text : String) : Except ArgumentFault PublicKey :=
  (Key.read 32 "public key" text).map fun (curve, data) => ⟨curve, data⟩

/-- A public key as a JSON text. -/
def schema : Schema PublicKey :=
  .ofText ofText ArgumentFault.failure text fun key => .atom ("PublicKey(" ++ key.text ++ ")")

/-- The fields of a public key in a buffer. -/
def row : Row PublicKey (Curve × Block 32) where
  toRow key := (key.curve, key.data)
  ofRow := fun (curve, data) => ⟨curve, data⟩

instance : Wire PublicKey := Wire.ofRow row

/-- Whether a signature over a message is valid under this key. -/
def verify (key : PublicKey) (message : Bytes) (signature : Signature) : Bool :=
  Ed25519.verify key.data message signature.data

end PublicKey

namespace Signature

/-- The text of a signature. -/
def text (signature : Signature) : String := Key.write signature.curve signature.data

/-- Reads a signature. Any 64 bytes will do. -/
def ofText (text : String) : Except ArgumentFault Signature :=
  (Key.read 64 "signature" text).map fun (curve, data) => ⟨curve, data⟩

/-- A signature as a JSON text. -/
def schema : Schema Signature :=
  .ofText ofText ArgumentFault.failure text
    fun signature => .atom ("Signature(" ++ signature.text ++ ")")

/-- The fields of a signature in a buffer. -/
def row : Row Signature (Curve × Block 64) where
  toRow signature := (signature.curve, signature.data)
  ofRow := fun (curve, data) => ⟨curve, data⟩

instance : Wire Signature := Wire.ofRow row

end Signature

namespace SecretKey

/-- The seed half. -/
def seed (key : SecretKey) : Block 32 := key.data.leading 32 (Nat.le_add_right 32 32)

/-- The public half. -/
def publicHalf (key : SecretKey) : Block 32 := key.data.trailing 32

/-- Whether the public half is a point of the curve. -/
def isUsable (key : SecretKey) : Bool := Ed25519.isPublicKey key.publicHalf

/-- The text of a secret key. -/
def text (key : SecretKey) : String := Key.write key.curve key.data

/-- Reads a secret key whose public half is a point of the curve. -/
def ofText (text : String) : Except ArgumentFault SecretKey := do
  let (curve, data) ← Key.read 64 "secret key" text
  let key : SecretKey := ⟨curve, data⟩
  if key.isUsable then return key else throw .keypair

/-- A secret key as a JSON text. Diagnostics do not show its bytes. -/
def schema : Schema SecretKey :=
  .ofText ofText ArgumentFault.failure text
    fun key => .atom ("SecretKey(" ++ key.curve.name ++ ":<redacted>)")

/-- The public key of a usable secret key. -/
def publicKey (key : SecretKey) : Except ArgumentFault PublicKey :=
  if key.isUsable then .ok ⟨key.curve, key.publicHalf⟩ else .error .keypair

/-- Signs a message with a usable secret key. -/
def sign (key : SecretKey) (message : Bytes) : Except ArgumentFault Signature :=
  if key.isUsable then .ok ⟨key.curve, Ed25519.sign key.seed key.publicHalf message⟩
  else .error .keypair

end SecretKey

end LedgerWire
