import LedgerWire.CommandLine.Exit

/-!
# The program

Reads the files that the command line names, runs the command and prints its report. There is no
network here: every request goes without a reply.
-/

namespace LedgerWire

/-- Why the system did not read a file. -/
def FileFault.ofError : IO.Error → FileFault
  | .noFileOrDirectory .. => .notFound
  | .permissionDenied .. => .denied
  | .inappropriateType .. => .isDirectory
  | error => .other error.toString

/-- Reads a file as text. -/
def readText (path : String) : IO (Except FileFault String) := do
  match ← (IO.FS.readBinFile path).toBaseIO with
  | .error error => return .error (.ofError error)
  | .ok bytes =>
    match Utf8.decode bytes.toList with
    | .ok text => return .ok text
    | .error _ => return .error .notText

/-- Reads the files at some paths. -/
def readFiles (paths : List String) : IO Files := do
  let texts ← paths.mapM fun path => return (path, ← readText path)
  return fun path => (texts.lookup path).getD (.error .notFound)

/-- Runs a command line to the end of the process. -/
def finish (words : List String) : IO Exit := do
  match CommandLine.read words with
  | .error fault => return fault.exit
  | .ok invocation =>
    let files ← readFiles invocation.paths
    return (invocation.run files fun _ => .unreadable).exit

end LedgerWire

/-- The program. -/
def main (words : List String) : IO UInt32 := do
  let exit ← LedgerWire.finish words
  exit.printed.forM IO.println
  if let some failure := exit.failure then IO.eprintln ("Error: " ++ failure)
  return exit.code
