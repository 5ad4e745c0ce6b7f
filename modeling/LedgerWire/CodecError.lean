import LedgerWire.Account.Id
import LedgerWire.Json.ReadError
import LedgerWire.Text.Base58
import LedgerWire.Text.Base64

/-!
# Failures of the codecs

There are four kinds of failure: a malformed buffer or object, a JSON value of the wrong shape, a
tag that its family does not have, and a malformed text of a name, key, signature or digest. Each
cause is kept as data and worded in one place.
-/

namespace LedgerWire

open Json (ReadError marked)

/-- What is wrong with the text of a name, key, signature or digest. -/
inductive ArgumentFault where
  | account (fault : AccountId.Fault)
  | unsupportedCurve (name : String)
  /-- The text of the named thing is not base58. -/
  | base58 (subject text : String) (fault : Base58.Fault)
  /-- The named thing has the wrong number of bytes. -/
  | length (subject : String) (expected found : Nat)
  /-- The public half of a secret key is no point of the curve. -/
  | keypair
  deriving DecidableEq

/-- The wording of a faulty text. -/
def ArgumentFault.message : ArgumentFault → String
  | .account fault => fault.message
  | .unsupportedCurve name => "unsupported key type " ++ marked name
  | .base58 subject text fault =>
    "invalid base58 " ++ subject ++ " " ++ marked text ++ ": " ++ fault.message
  | .length subject expected found =>
    subject ++ " must be " ++ Decimal.write expected ++ " bytes, got " ++ Decimal.write found
  | .keypair =>
    "invalid ed25519 keypair: signature error: Cannot decompress Edwards point"

/-- The wording of a faulty text as a failure of its own. -/
def ArgumentFault.failure (fault : ArgumentFault) : String := "invalid argument: " ++ fault.message

/-- What is malformed in a buffer or in the shape of an object. -/
inductive FormatFault where
  | unexpectedEnd
  | trailingBytes
  | invalidBool (byte : UInt8)
  | invalidOption (byte : UInt8)
  | utf8 (fault : Utf8.Fault)
  /-- A text inside a buffer is well encoded and still not what it has to be. -/
  | argument (fault : ArgumentFault)
  /-- A text or list is longer than its count can tell. -/
  | tooLong
  | noOrdinals (family : String)
  | memberCount (family : String) (count : Nat)
  | missingKind
  | missingMember (name : String)
  | returnedValue (fault : Base64.Fault)
  deriving DecidableEq

/-- The wording of what is malformed. -/
def FormatFault.message : FormatFault → String
  | .unexpectedEnd => "Unexpected length of input"
  | .trailingBytes => "Not all bytes read"
  | .invalidBool byte => "Invalid bool representation: " ++ Decimal.write byte.toNat
  | .invalidOption byte =>
    "Invalid Option representation: " ++ Decimal.write byte.toNat ++
      ". The first byte must be 0 or 1"
  | .utf8 fault => fault.message
  | .argument fault => fault.failure
  | .tooLong => "invalid input parameter"
  | .noOrdinals family => family ++ " has no binary ordinals"
  | .memberCount family count =>
    family ++ " object must have exactly one key, found " ++ Decimal.write count
  | .missingKind => "ActionError is missing `kind`"
  | .missingMember name => "missing field " ++ marked name
  | .returnedValue fault => "SuccessValue is not base64: " ++ fault.message

/-- What a JSON value was expected to be. -/
inductive Expectation where
  | union (family : String)
  | noPayload (variant : String)
  | objectPayload (variant : String)
  | payload (variant : String)
  | actionError
  | actionIndex
  | stringMember (name : String)
  | unsignedMember (name : String)
  deriving DecidableEq

/-- The wording of an expectation. -/
def Expectation.describe : Expectation → String
  | .union family => family ++ " as string or single-key object"
  | .noPayload variant => "no payload for unit variant " ++ variant
  | .objectPayload variant => "object payload for " ++ variant
  | .payload variant => "payload of " ++ variant
  | .actionError => "ActionError object"
  | .actionIndex => "unsigned ActionError index"
  | .stringMember name => "string field " ++ marked name
  | .unsignedMember name => "unsigned field " ++ marked name

/-- What a JSON value turned out to be: of some kind, or unreadable for some cause. -/
inductive Observation where
  | kind (name : String)
  | unreadable (error : ReadError)
  deriving DecidableEq

/-- The wording of an observation. -/
def Observation.describe : Observation → String
  | .kind name => name
  | .unreadable error => error.message

/-- A failure of a codec. -/
inductive CodecError where
  /-- A malformed buffer, or an object of the wrong shape. -/
  | format (fault : FormatFault)
  /-- A JSON value of the wrong shape. -/
  | typeMismatch (expected : Expectation) (found : Observation)
  /-- A tag or an ordinal that the family does not have. -/
  | unknownVariant (family tag : String)
  /-- A malformed text of a name, key, signature or digest. -/
  | argument (fault : ArgumentFault)
  deriving DecidableEq

/-- The wording of a failure. -/
def CodecError.message : CodecError → String
  | .format fault => "format error: " ++ fault.message
  | .typeMismatch expected found =>
    "type mismatch: expected " ++ expected.describe ++ ", found " ++ found.describe
  | .unknownVariant family tag => "unknown variant " ++ marked tag ++ " for " ++ family
  | .argument fault => fault.failure

end LedgerWire
