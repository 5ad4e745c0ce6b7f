import LedgerWire.CommandLine.Grammar
import LedgerWire.Key.Basic
import LedgerWire.Account.Encoding

/-!
# Invocations

An invocation is a command line that makes sense: a command with its arguments, and perhaps the
file that the configuration is read from, which is named before the command.
-/

namespace LedgerWire

/-- What is to be done. -/
inductive Command where
  /-- Print the canonical bytes of the transaction in a file, and sign it if that is asked for. -/
  | encode (file : String) (sign : Bool)
  /-- Classify the failure in a file. -/
  | classify (file : String)
  /-- Look up an access key on the configured node. -/
  | accessKey (account : AccountId) (key : PublicKey)
  deriving DecidableEq

/-- A command line that makes sense. -/
structure Invocation where
  config : Option String
  command : Command
  deriving DecidableEq

namespace CommandLine

/-- A path is not empty. -/
def checkPath (path : String) : Option UsageFault :=
  if path.isEmpty then some .invalidValue else none

/-- An argument is an account name. -/
def checkAccount (name : String) : Option UsageFault :=
  match AccountId.ofText name with
  | .ok _ => none
  | .error _ => some .refusedValue

/-- An argument is a public key. -/
def checkKey (text : String) : Option UsageFault :=
  match PublicKey.ofText text with
  | .ok _ => none
  | .error _ => some .refusedValue

/-- The option that asks for help, which every level has. -/
def helpOption : Named := ⟨"help", some 'h', .help⟩

/-- The option for the file with the input of a command. -/
def fileOption : Named := ⟨"file", none, .value ⟨"file", checkPath, true⟩⟩

/-- The level before the command. -/
def rootLevel : Level where
  options := [⟨"config", some 'f', .value ⟨"config", checkPath, false⟩⟩, helpOption,
    ⟨"version", some 'V', .version⟩]
  arguments := []
  commands := ["encode", "classify", "access-key", "help"]

/-- The level of the command that encodes. -/
def encodeLevel : Level := ⟨[fileOption, ⟨"sign", none, .flag⟩, helpOption], [], []⟩

/-- The level of the command that classifies. -/
def classifyLevel : Level := ⟨[fileOption, helpOption], [], []⟩

/-- The level of the command that looks up an access key. -/
def accessKeyLevel : Level where
  options := [helpOption]
  arguments := [⟨"account_id", checkAccount, true⟩, ⟨"public_key", checkKey, true⟩]
  commands := []

/-- A value that has to be there. -/
def demand (reading : Reading) (name : String) : Except UsageFault String :=
  match reading.get? name with
  | some value => .ok value
  | none => .error .missingArgument

/-- Reads the words after the name of a command. -/
def readCommand (name : String) (words : List String) : Except UsageFault Command := do
  match name with
  | "encode" =>
    let reading ← encodeLevel.readAll words
    return .encode (← demand reading "file") (reading.get? "sign").isSome
  | "classify" =>
    let reading ← classifyLevel.readAll words
    return .classify (← demand reading "file")
  | "access-key" =>
    let reading ← accessKeyLevel.readAll words
    let account ← demand reading "account_id"
    let key ← demand reading "public_key"
    return .accessKey
      (← (AccountId.ofText account).mapError fun _ => .refusedValue)
      (← (PublicKey.ofText key).mapError fun _ => .refusedValue)
  | _ => throw .invalidCommand

/-- What the words after the command for help ask for: help on a command, or on all of them. -/
def helpFault : List String → UsageFault
  | [] => .displayHelp
  | [name] => if rootLevel.commands.contains name then .displayHelp else .invalidCommand
  | _ => .invalidCommand

/-- Reads a command line. The command goes before the value of an option that stands in front of
it. -/
def read (words : List String) : Except UsageFault Invocation := do
  let (reading, command) ← rootLevel.read words {}
  match command with
  | some ("help", rest) => throw (helpFault rest)
  | some (name, rest) =>
    let command ← readCommand name rest
    let reading ← reading.settle
    return ⟨reading.get? "config", command⟩
  | none =>
    let reading ← reading.settle
    if reading.given.isEmpty then throw .helpOnMissing else throw .missingCommand

end CommandLine

end LedgerWire
