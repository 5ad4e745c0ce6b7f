/-!
# The grammar of a command line

One level of a command line has options, which come by name in any order, arguments, which come
by position, and commands, which begin a level of their own. A value is looked at only when the
next option or argument comes or the level ends, so a faulty name after it is reported first.
-/

namespace LedgerWire

/-- Why a command line is not run. -/
inductive UsageFault where
  | displayHelp
  | displayVersion
  /-- Nothing at all was asked for. -/
  | helpOnMissing
  | missingCommand
  | invalidCommand
  | unknownArgument
  /-- An option has no value, or an empty one where that is not allowed. -/
  | invalidValue
  /-- A value was given to an option that takes none. -/
  | unneededValue
  | missingArgument
  /-- A value is not of its type. -/
  | refusedValue
  | repeatedOption
  deriving DecidableEq

/-- The name of the kind of a fault. -/
def UsageFault.name : UsageFault → String
  | .displayHelp => "DisplayHelp"
  | .displayVersion => "DisplayVersion"
  | .helpOnMissing => "DisplayHelpOnMissingArgumentOrSubcommand"
  | .missingCommand => "MissingSubcommand"
  | .invalidCommand => "InvalidSubcommand"
  | .unknownArgument => "UnknownArgument"
  | .invalidValue => "InvalidValue"
  | .unneededValue => "TooManyValues"
  | .missingArgument => "MissingRequiredArgument"
  | .refusedValue => "ValueValidation"
  | .repeatedOption => "ArgumentConflict"

namespace CommandLine

/-- A value with a name: what may be wrong with it, and whether it has to be there. -/
structure Parameter where
  name : String
  check : String → Option UsageFault
  required : Bool

/-- What an option does. -/
inductive Role where
  | help
  | version
  | flag
  | value (parameter : Parameter)

/-- An option with its long name and perhaps a short one. -/
structure Named where
  long : String
  short : Option Char
  role : Role

/-- One level of a command line. -/
structure Level where
  options : List Named
  arguments : List Parameter
  commands : List String

/-- A value that has not been looked at yet, or is still to come. -/
structure Pending where
  parameter : Parameter
  value : Option String

/-- What has been read of a level. -/
structure Reading where
  /-- The values so far by name. A flag has the empty value. -/
  given : List (String × String) := []
  pending : Option Pending := none
  /-- Whether the next word is the value that is still to come. -/
  awaiting : Bool := false
  /-- How many arguments there are so far. -/
  position : Nat := 0
  /-- Whether only arguments may follow. -/
  trailing : Bool := false

namespace Reading

/-- The value of a name. -/
def get? (reading : Reading) (name : String) : Option String := reading.given.lookup name

/-- Adds a value. No name may have two. -/
def give (reading : Reading) (name value : String) : Except UsageFault Reading :=
  if (reading.get? name).isSome then .error .repeatedOption
  else .ok { reading with given := reading.given ++ [(name, value)] }

/-- Adds a value after a look at it. -/
def giveChecked (reading : Reading) (parameter : Parameter) (value : String) :
    Except UsageFault Reading := do
  let reading ← reading.give parameter.name value
  match parameter.check value with
  | some fault => throw fault
  | none => return reading

/-- Looks at the pending value. One that never came is a fault. -/
def settle (reading : Reading) : Except UsageFault Reading :=
  match reading.pending with
  | none => .ok reading
  | some ⟨_, none⟩ => .error .invalidValue
  | some ⟨parameter, some value⟩ =>
    { reading with pending := none }.giveChecked parameter value

/-- Takes an option, with the value that is attached to it if there is one. -/
def takeOption (reading : Reading) (option : Named) (attached : Option String) :
    Except UsageFault Reading := do
  match option.role, attached with
  | .value parameter, some value =>
    let reading ← reading.settle
    return { ← reading.giveChecked parameter value with awaiting := false }
  | .value parameter, none =>
    let reading ← reading.settle
    return { reading with pending := some ⟨parameter, none⟩, awaiting := true }
  | _, some _ => throw .unneededValue
  | role, none =>
    let reading ← reading.settle
    match role with
    | .help => throw .displayHelp
    | .version => throw .displayVersion
    | _ => return { ← reading.give option.long "" with awaiting := false }

end Reading

/-- Whether an option takes a value. -/
def Role.takesValue : Role → Bool
  | .value _ => true
  | _ => false

namespace Level

/-- Takes short options that are written together. What follows one that takes a value is its
value, with or without an equals sign. -/
def takeShort (level : Level) : List Char → Reading → Except UsageFault Reading
  | [], reading => .ok reading
  | c :: rest, reading =>
    match level.options.find? (·.short == some c) with
    | none => .error .unknownArgument
    | some option =>
      if option.role.takesValue then
        match rest with
        | [] => reading.takeOption option none
        | '=' :: value => reading.takeOption option (some (String.ofList value))
        | value => reading.takeOption option (some (String.ofList value))
      else
        match reading.takeOption option none with
        | .ok reading => takeShort level rest reading
        | .error fault => .error fault

/-- Takes a long option. What follows an equals sign is its value. -/
def takeLong (level : Level) (text : List Char) (reading : Reading) :
    Except UsageFault Reading :=
  let name := String.ofList (text.takeWhile (· != '='))
  let attached := match text.dropWhile (· != '=') with
    | [] => none
    | _ :: value => some (String.ofList value)
  match level.options.find? (·.long == name) with
  | none => .error .unknownArgument
  | some option => reading.takeOption option attached

/-- Takes an argument. Where there are commands, a word too many was meant for one. -/
def takeArgument (level : Level) (word : String) (reading : Reading) :
    Except UsageFault Reading :=
  match level.arguments[reading.position]? with
  | some parameter => do
    let reading ← reading.settle
    return { reading with
      pending := some ⟨parameter, some word⟩, awaiting := false, position := reading.position + 1 }
  | none =>
    if level.commands.isEmpty || (reading.trailing && level.commands.contains word) then
      .error .unknownArgument
    else .error .invalidCommand

/-- Takes a word that is no command. -/
def takeWord (level : Level) (word : String) (reading : Reading) : Except UsageFault Reading :=
  if reading.trailing then level.takeArgument word reading
  else
    match word.toList with
    | ['-', '-'] => .ok { reading with trailing := true }
    | '-' :: '-' :: text => level.takeLong text reading
    | '-' :: c :: rest => level.takeShort (c :: rest) reading
    | _ =>
      match reading.awaiting, reading.pending with
      | true, some pending =>
        .ok { reading with pending := some { pending with value := some word }, awaiting := false }
      | _, _ => level.takeArgument word reading

/-- Whether a word begins a command here. -/
def isCommand (level : Level) (word : String) (reading : Reading) : Bool :=
  !reading.trailing && !reading.awaiting && level.commands.contains word

/-- Reads words up to the first command, and gives it with the words after it. -/
def read (level : Level) : List String → Reading →
    Except UsageFault (Reading × Option (String × List String))
  | [], reading => .ok (reading, none)
  | word :: rest, reading =>
    if level.isCommand word reading then .ok (reading, some (word, rest))
    else
      match level.takeWord word reading with
      | .ok reading => read level rest reading
      | .error fault => .error fault

/-- The parameters of a level. -/
def parameters (level : Level) : List Parameter :=
  (level.options.filterMap fun option =>
    match option.role with
    | .value parameter => some parameter
    | _ => none) ++ level.arguments

/-- Reads a level without commands to its end. -/
def readAll (level : Level) (words : List String) : Except UsageFault Reading := do
  let (reading, _) ← level.read words {}
  let reading ← reading.settle
  if level.parameters.all fun p => !p.required || (reading.get? p.name).isSome then
    return reading
  else throw .missingArgument

end Level

end CommandLine

end LedgerWire
