import LedgerWire.CommandLine.Invocation
import LedgerWire.Config.Yaml
import LedgerWire.Rpc.Client

/-!
# Running a command

A run is a function of the files and of the network. It prints some lines, sends at most one
request, and may fail after it has printed. The configuration is read first, whatever the
command, and a signature is printed only after it has been verified.
-/

namespace LedgerWire

/-- Why the text of a file was not read. -/
inductive FileFault where
  | notFound
  | denied
  | notDirectory
  | isDirectory
  | notText
  /-- Some other failure, in the words of the system. -/
  | other (reason : String)
  deriving DecidableEq

/-- The wording of a fault. -/
def FileFault.message : FileFault → String
  | .notFound => "No such file or directory (os error 2)"
  | .denied => "Permission denied (os error 13)"
  | .notDirectory => "Not a directory (os error 20)"
  | .isDirectory => "Is a directory (os error 21)"
  | .notText => "stream did not contain valid UTF-8"
  | .other reason => reason

/-- Why a command failed. -/
inductive CommandFailure where
  /-- The configuration in the named file was not read. -/
  | config (path : String)
  | file (path : String) (fault : FileFault)
  /-- The file does not hold JSON. -/
  | notJson
  | json (error : Json.ReadError)
  | codec (error : CodecError)
  | noSigner
  | otherSigner (configured signer : AccountId)
  /-- The configured key did not make a signature that the transaction admits. -/
  | otherKey
  | client (error : ClientError)
  deriving DecidableEq

/-- The wording of a failure. What the reader of JSON says of a text that is none is not modelled: a
fixed text stands for it, as for the words of the HTTP library. -/
def CommandFailure.message : CommandFailure → String
  | .config path => "failed to load config " ++ path
  | .file path fault => "Failed to read " ++ path ++ ": " ++ fault.message
  | .notJson => "the file is not valid JSON"
  | .json error => error.message
  | .codec error => error.message
  | .noSigner => "--sign needs a `signer` section in the config"
  | .otherSigner configured signer =>
    "configured signer " ++ configured.text ++ " does not match transaction signer " ++ signer.text
  | .otherKey => "configured secret key does not match the transaction public key"
  | .client error => error.message

/-- What a command did. -/
structure Report where
  /-- What was printed, each text ending a line. -/
  printed : List String := []
  /-- What was sent to a node. -/
  sent : Option Post := none
  failure : Option CommandFailure := none

/-- The report of a command that failed before it printed anything. -/
def Report.failed (failure : CommandFailure) : Report := { failure := some failure }

/-- The texts of files by their paths. -/
abbrev Files := String → Except FileFault String

namespace Command

/-- Reads a file that holds JSON. -/
def readJson (files : Files) (path : String) : Except CommandFailure Json :=
  match files path with
  | .error fault => .error (.file path fault)
  | .ok text =>
    match Json.ofText? text with
    | some value => .ok value
    | none => .error .notJson

/-- The signed transaction in base64, if the configured signer is that of the transaction and its
key is the one that the transaction names. -/
def signedPayload (config : ClientConfig) (t : Transaction) : Except CommandFailure String :=
  match config.signer with
  | none => .error .noSigner
  | some signer => do
    if signer.accountId ≠ t.signerId then throw (.otherSigner signer.accountId t.signerId)
    let signed ← (t.sign signer.secretKey).mapError .codec
    if signed.verify then signed.base64.mapError .codec else throw .otherKey

/-- Prints the bytes, the digest and the size of a transaction, and the signed transaction if
that is asked for. -/
def printTransaction (config : ClientConfig) (t : Transaction) (sign : Bool) : Report :=
  match Wire.encode t with
  | .error error => .failed (.codec error)
  | .ok bytes =>
    let facts := ["bytes: " ++ Hex.encode bytes, "hash:  " ++ (Digest.ofMessage bytes).text,
      "size:  " ++ Decimal.write bytes.length]
    if sign then
      match signedPayload config t with
      | .ok payload => { printed := facts ++ ["signed: " ++ payload] }
      | .error failure => { printed := facts, failure := some failure }
    else { printed := facts }

/-- Encodes the transaction in a file. -/
def runEncode (config : ClientConfig) (files : Files) (path : String) (sign : Bool) : Report :=
  match readJson files path with
  | .error failure => .failed failure
  | .ok value =>
    match Transaction.schema.read value with
    | .ok t => printTransaction config t sign
    | .error error => .failed (.json error)

/-- Classifies the envelope in a file, or the one under `error` in a whole reply. -/
def runClassify (files : Files) (path : String) : Report :=
  match readJson files path with
  | .error failure => .failed failure
  | .ok value =>
    let failure := RpcFailure.ofEnvelope ((value.get? "error").getD value)
    { printed := [failure.display, failure.shown.block] }

/-- Looks up an access key. -/
def runAccessKey (config : ClientConfig) (network : Post → Reply) (account : AccountId)
    (key : PublicKey) : Report :=
  let query := Query.accessKey account key
  let (post, _) := (Client.ofConfig config.rpc).post query
  match (network post).answer query with
  | .ok view => { printed := [(AccessKeyView.schema.write view).layout], sent := some post }
  | .error error => { sent := some post, failure := some (.client error) }

end Command

namespace Invocation

/-- The configuration that an invocation names, or the standard one. -/
def readConfig (invocation : Invocation) (files : Files) : Except CommandFailure ClientConfig :=
  match invocation.config with
  | none => .ok .standard
  | some path =>
    match files path with
    | .error _ => .error (.config path)
    | .ok text =>
      match ClientConfig.ofYaml? text with
      | some config => .ok config
      | none => .error (.config path)

/-- Runs an invocation. -/
def run (invocation : Invocation) (files : Files) (network : Post → Reply) : Report :=
  match invocation.readConfig files with
  | .error failure => .failed failure
  | .ok config =>
    match invocation.command with
    | .encode file sign => Command.runEncode config files file sign
    | .classify file => Command.runClassify files file
    | .accessKey account key => Command.runAccessKey config network account key

/-- The paths of the files that an invocation may read. -/
def paths (invocation : Invocation) : List String :=
  invocation.config.toList ++
    match invocation.command with
    | .encode file _ => [file]
    | .classify file => [file]
    | .accessKey _ _ => []

end Invocation

end LedgerWire
