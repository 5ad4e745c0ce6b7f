import LedgerWire.Action
import LedgerWire.Digest.Basic

/-!
# Transactions

The binary layout of a transaction is what the ledger hashes and what the signer signs: the
signature is over the 32 bytes of the digest of those bytes. A signed transaction is the
transaction followed by its signature.
-/

namespace LedgerWire

/-- A list of actions from one account to another, bound to a recent block. -/
structure Transaction where
  signerId : AccountId
  publicKey : PublicKey
  nonce : UInt64
  receiverId : AccountId
  blockHash : Digest
  actions : List Action
  deriving DecidableEq

/-- A transaction with a signature, which need not be valid. -/
structure SignedTransaction where
  transaction : Transaction
  signature : Signature
  deriving DecidableEq

namespace Transaction

/-- The fields in the order of their declaration. -/
def row : Row Transaction
    (AccountId × PublicKey × UInt64 × AccountId × Digest × List Action × Unit) where
  toRow t := (t.signerId, t.publicKey, t.nonce, t.receiverId, t.blockHash, t.actions, ())
  ofRow := fun (signerId, publicKey, nonce, receiverId, blockHash, actions, ()) =>
    ⟨signerId, publicKey, nonce, receiverId, blockHash, actions⟩

/-- The record in JSON. -/
def schema : Schema Transaction :=
  .record "Transaction"
    (.field "signer_id" AccountId.schema none <| .field "public_key" PublicKey.schema none <|
      .field "nonce" .uint64 none <| .field "receiver_id" AccountId.schema none <|
      .field "block_hash" Digest.schema none <|
      .field "actions" (.list Action.schema) none .done)
    row false

instance : Wire Transaction := Wire.ofRow row

/-- A transaction from the texts of its names, key and digest. The first faulty text in the order
of the fields is reported. -/
def ofTexts (signerId publicKey : String) (nonce : UInt64) (receiverId blockHash : String)
    (actions : List Action) : Except ArgumentFault Transaction := do
  let signerId ← (AccountId.ofText signerId).mapError .account
  let publicKey ← PublicKey.ofText publicKey
  let receiverId ← (AccountId.ofText receiverId).mapError .account
  let blockHash ← Digest.ofText blockHash
  return ⟨signerId, publicKey, nonce, receiverId, blockHash, actions⟩

/-- The digest of the canonical bytes, and how many there are. -/
def digestAndSize (t : Transaction) : Except CodecError (Digest × Nat) := do
  let bytes ← Wire.encode t
  return (Digest.ofMessage bytes, bytes.length)

/-- Signs the digest of the transaction. The key need not be the one that the transaction
names. -/
def sign (t : Transaction) (key : SecretKey) : Except CodecError SignedTransaction := do
  let (digest, _) ← t.digestAndSize
  let signature ← (key.sign digest.data.bytes).mapError .argument
  return ⟨t, signature⟩

end Transaction

namespace SignedTransaction

/-- The fields in the order of their declaration. -/
def row : Row SignedTransaction (Transaction × Signature × Unit) where
  toRow s := (s.transaction, s.signature, ())
  ofRow := fun (transaction, signature, ()) => ⟨transaction, signature⟩

/-- The record in JSON. -/
def schema : Schema SignedTransaction :=
  .record "SignedTransaction"
    (.field "transaction" Transaction.schema none <|
      .field "signature" Signature.schema none .done)
    row false

instance : Wire SignedTransaction := Wire.ofRow row

/-- The digest of the transaction, by which the ledger knows it. -/
def digest (s : SignedTransaction) : Except CodecError Digest :=
  s.transaction.digestAndSize.map Prod.fst

/-- Whether the signature is valid under the key that the transaction names. -/
def verify (s : SignedTransaction) : Bool :=
  match s.digest with
  | .ok digest => s.transaction.publicKey.verify digest.data.bytes s.signature
  | .error _ => false

/-- The canonical bytes in base64, as they are sent to a node. -/
def base64 (s : SignedTransaction) : Except CodecError String :=
  (Wire.encode s).map Base64.encode

end SignedTransaction

end LedgerWire
