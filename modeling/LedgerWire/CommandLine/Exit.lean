import LedgerWire.CommandLine.Run

/-!
# How the program ends

A command that succeeds ends with code 0 and one that fails with code 1. A command line that is
not run ends with code 2, unless it asks for help or for the version.
-/

namespace LedgerWire

/-- The name and the version of the program. -/
def CommandLine.version : String := "nearline 0.1.0"

/-- How the program is used. -/
def CommandLine.usage : List String := [
  "Usage: nearline [OPTIONS] <COMMAND>",
  "",
  "Commands:",
  "  encode      Print the canonical bytes, hash and size of a JSON transaction",
  "  classify    Classify an RPC error envelope (or a whole error response)",
  "  access-key  Look up an access key on the configured node",
  "  help        Print this message or the help of the given subcommand(s)",
  "",
  "Options:",
  "  -f, --config <CONFIG>  Path to client configuration file",
  "  -h, --help             Print help",
  "  -V, --version          Print version"]

/-- How a process ends: its exit code, what it prints, and the wording of its failure. -/
structure Exit where
  code : UInt32
  printed : List String
  failure : Option String

/-- How the program ends on a command line that is not run. -/
def UsageFault.exit : UsageFault → Exit
  | .displayHelp => ⟨0, CommandLine.usage, none⟩
  | .displayVersion => ⟨0, [CommandLine.version], none⟩
  | _ => ⟨2, [], none⟩

/-- How the program ends after a run. -/
def Report.exit (report : Report) : Exit :=
  match report.failure with
  | none => ⟨0, report.printed, none⟩
  | some failure => ⟨1, report.printed, some failure.message⟩

end LedgerWire
