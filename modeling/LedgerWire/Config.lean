import LedgerWire.Account.Encoding
import LedgerWire.Key.Basic

/-!
# Configuration

A configuration names the node to talk to and, if transactions are to be signed, the signer. No
level of it admits a member that is not declared. What is left out has a default, except that a
signer is complete or absent.
-/

namespace LedgerWire

/-- A network with a public node. -/
inductive Network where
  | mainnet
  | testnet
  | localnet
  deriving DecidableEq

namespace Network

/-- The name of a network. -/
def name : Network → String
  | .mainnet => "mainnet"
  | .testnet => "testnet"
  | .localnet => "localnet"

/-- All networks. -/
def all : List Network := [.mainnet, .testnet, .localnet]

/-- The network of a name. -/
def ofName? (name : String) : Option Network := all.find? (·.name == name)

/-- Where the public node of a network is. -/
def defaultUrl : Network → String
  | .mainnet => "https://rpc.mainnet.near.org"
  | .testnet => "https://rpc.testnet.near.org"
  | .localnet => "http://127.0.0.1:3030"

/-- Reads the name of a network in JSON. -/
def ofName (name : String) : Except Json.ReadError Network :=
  match ofName? name with
  | some network => .ok network
  | none => .error (.unknownVariant name (all.map Network.name))

/-- Reads a network: its name alone, or an object whose one member has that name and is null. -/
def read : Json → Except Json.ReadError Network
  | .string name => ofName name
  | .object [(name, value)] => do
    let network ← ofName name
    match value with
    | .null => return network
    | value => Schema.unexpected value "unit"
  | .object _ => .error (.invalidValue .map "map with a single key")
  | value => Schema.unexpected value "string or map"

/-- A network as the type of a field, written as its name. -/
def schema : Schema Network where
  read := read
  write network := .string network.name
  shown
    | .mainnet => .atom "Mainnet"
    | .testnet => .atom "Testnet"
    | .localnet => .atom "Localnet"

end Network

/-- Which node to talk to: the public node of a network or one with its own address. -/
structure RpcConfig where
  network : Network := .testnet
  url : Option String := none
  /-- How long a reply is waited for, in seconds. -/
  timeout : UInt64 := 10
  deriving DecidableEq

/-- The account that signs, and its key. -/
structure SignerConfig where
  accountId : AccountId
  secretKey : SecretKey
  deriving DecidableEq

/-- A whole configuration. -/
structure ClientConfig where
  rpc : RpcConfig := {}
  signer : Option SignerConfig := none
  deriving DecidableEq

namespace RpcConfig

/-- The fields in the order of their declaration. -/
def row : Row RpcConfig (Network × Option String × UInt64 × Unit) where
  toRow c := (c.network, c.url, c.timeout, ())
  ofRow := fun (network, url, timeout, ()) => ⟨network, url, timeout⟩

/-- The configuration that nothing is said in. -/
def standard : RpcConfig := {}

/-- The fields in JSON. Every one has a default. -/
def fields : Fields (Network × Option String × UInt64 × Unit) :=
  .field "network" Network.schema (some standard.network) <|
    .field "url" (.optional .text) (some standard.url) <|
    .field "timeout_secs" .uint64 (some standard.timeout) .done

/-- The record in JSON. -/
def schema : Schema RpcConfig := .record "RpcConfig" fields row true

/-- The address of the node: its own if there is one, otherwise that of the network. -/
def endpoint (config : RpcConfig) : String := config.url.getD config.network.defaultUrl

end RpcConfig

namespace SignerConfig

/-- The fields in the order of their declaration. -/
def row : Row SignerConfig (AccountId × SecretKey × Unit) where
  toRow c := (c.accountId, c.secretKey, ())
  ofRow := fun (accountId, secretKey, ()) => ⟨accountId, secretKey⟩

/-- The fields in JSON. -/
def fields : Fields (AccountId × SecretKey × Unit) :=
  .field "account_id" AccountId.schema none <|
    .field "secret_key" SecretKey.schema none .done

/-- The record in JSON. -/
def schema : Schema SignerConfig := .record "SignerConfig" fields row true

end SignerConfig

namespace ClientConfig

/-- The fields in the order of their declaration. -/
def row : Row ClientConfig (RpcConfig × Option SignerConfig × Unit) where
  toRow c := (c.rpc, c.signer, ())
  ofRow := fun (rpc, signer, ()) => ⟨rpc, signer⟩

/-- The configuration that nothing is said in. -/
def standard : ClientConfig := {}

/-- The fields in JSON. Every one has a default. -/
def fields : Fields (RpcConfig × Option SignerConfig × Unit) :=
  .field "rpc" RpcConfig.schema (some standard.rpc) <|
    .field "signer" (.optional SignerConfig.schema) (some standard.signer) .done

/-- The record in JSON. -/
def schema : Schema ClientConfig := .record "ClientConfig" fields row true

end ClientConfig

end LedgerWire
