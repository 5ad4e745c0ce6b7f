import LedgerWire.Config
import LedgerWire.Yaml.Typed

/-!
# Configuration files

A configuration is kept in a YAML file. Reading it either succeeds or fails as a whole.
-/

namespace LedgerWire

open Yaml (Node)

/-- The network that a node names: by its text, or by a mapping from its name to null. The name
in a mapping is no alias. A network as a tag would need a null that has no tag. -/
def Network.ofNode? (node : Node) : Option Network :=
  match node.target with
  | .scalar text _ tag =>
    if tag.any fun tag => tag.handle == "!" && (ofName? tag.suffix).isSome then none
    else ofName? text
  | .mapping [(.scalar name _ _, value)] => if value.isNull then ofName? name else none
  | _ => none

/-- The node to talk to, as far as it is told. -/
def RpcConfig.ofNode? (node : Node) : Option RpcConfig := do
  let fields ← node.fields? RpcConfig.fields.names
  let network ← Node.field? Network.ofNode? (some standard.network) "network" fields
  let url ← Node.field? (Node.optional? Node.text?) (some standard.url) "url" fields
  let timeout ← Node.field? Node.word? (some standard.timeout) "timeout_secs" fields
  return ⟨network, url, timeout⟩

/-- A signer. -/
def SignerConfig.ofNode? (node : Node) : Option SignerConfig := do
  let fields ← node.fields? SignerConfig.fields.names
  let accountId ← Node.field? Node.text? none "account_id" fields
  let secretKey ← Node.field? Node.text? none "secret_key" fields
  return ⟨← (AccountId.ofText accountId).toOption, ← (SecretKey.ofText secretKey).toOption⟩

/-- A whole configuration. -/
def ClientConfig.ofNode? (node : Node) : Option ClientConfig := do
  let fields ← node.fields? ClientConfig.fields.names
  let rpc ← Node.field? RpcConfig.ofNode? (some standard.rpc) "rpc" fields
  let signer ←
    Node.field? (Node.optional? SignerConfig.ofNode?) (some standard.signer) "signer" fields
  return ⟨rpc, signer⟩

/-- Reads the text of a configuration file. -/
def ClientConfig.ofYaml? (text : String) : Option ClientConfig :=
  (Node.ofText? text).bind ofNode?

end LedgerWire
