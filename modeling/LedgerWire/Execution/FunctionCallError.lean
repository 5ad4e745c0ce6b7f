import LedgerWire.Execution.ActionContext
import LedgerWire.Union.Tagged

/-!
# Why a call of a contract failed

A contract may not be found, not compile, not resolve the method, trap, or fail in a function of
the host. Each union decodes the unions inside it by their own tables, so a failure far inside
stays the failure it is.
-/

namespace LedgerWire

/-- Why a method of a contract was not found. -/
inductive MethodResolveError where
  | methodEmptyName
  | methodInvalidSignature
  | methodNotFound
  deriving DecidableEq

namespace MethodResolveError

instance : VariantTag MethodResolveError where
  all := [.methodEmptyName, .methodInvalidSignature, .methodNotFound]
  name
    | .methodEmptyName => "MethodEmptyName"
    | .methodInvalidSignature => "MethodInvalidSignature"
    | .methodNotFound => "MethodNotFound"
  mem_all tag := by cases tag <;> decide
  nodup_names := by decide

/-- The table of the reasons. -/
def registry : Registry MethodResolveError MethodResolveError where
  family := "MethodResolveError"
  variants := [
    .unit .methodEmptyName .methodEmptyName,
    .unit .methodInvalidSignature .methodInvalidSignature,
    .unit .methodNotFound .methodNotFound]
  of?_variants := rfl

/-- The reasons as a tagged union. -/
def union : Tagged MethodResolveError MethodResolveError where
  registry := registry
  parts := .bare

/-- The union as the type of a field. -/
def schema : Schema MethodResolveError := union.schema

end MethodResolveError

/-- Where the machine that runs contracts stopped. -/
inductive WasmTrap where
  | callIndirectOob
  | genericTrap
  | illegalArithmetic
  | incorrectCallIndirectSignature
  | indirectCallToNull
  | memoryOutOfBounds
  | misalignedAtomicAccess
  | stackOverflow
  | unreachable
  deriving DecidableEq

namespace WasmTrap

instance : VariantTag WasmTrap where
  all := [.callIndirectOob, .genericTrap, .illegalArithmetic, .incorrectCallIndirectSignature,
    .indirectCallToNull, .memoryOutOfBounds, .misalignedAtomicAccess, .stackOverflow,
    .unreachable]
  name
    | .callIndirectOob => "CallIndirectOOB"
    | .genericTrap => "GenericTrap"
    | .illegalArithmetic => "IllegalArithmetic"
    | .incorrectCallIndirectSignature => "IncorrectCallIndirectSignature"
    | .indirectCallToNull => "IndirectCallToNull"
    | .memoryOutOfBounds => "MemoryOutOfBounds"
    | .misalignedAtomicAccess => "MisalignedAtomicAccess"
    | .stackOverflow => "StackOverflow"
    | .unreachable => "Unreachable"
  mem_all tag := by cases tag <;> decide
  nodup_names := by decide

/-- The table of the traps. -/
def registry : Registry WasmTrap WasmTrap where
  family := "WasmTrap"
  variants := [
    .unit .callIndirectOob .callIndirectOob,
    .unit .genericTrap .genericTrap,
    .unit .illegalArithmetic .illegalArithmetic,
    .unit .incorrectCallIndirectSignature .incorrectCallIndirectSignature,
    .unit .indirectCallToNull .indirectCallToNull,
    .unit .memoryOutOfBounds .memoryOutOfBounds,
    .unit .misalignedAtomicAccess .misalignedAtomicAccess,
    .unit .stackOverflow .stackOverflow,
    .unit .unreachable .unreachable]
  of?_variants := rfl

/-- The traps as a tagged union. -/
def union : Tagged WasmTrap WasmTrap where
  registry := registry
  parts := .bare

/-- The union as the type of a field. -/
def schema : Schema WasmTrap := union.schema

end WasmTrap

/-- Why a contract did not compile. -/
inductive CompilationError where
  | codeDoesNotExist (context : AccountContext)
  | prepareError (message : String)
  | wasmerCompileError (context : MessageContext)
  deriving DecidableEq

/-- The tags of the compilation errors. -/
inductive CompilationError.Tag where
  | codeDoesNotExist
  | prepareError
  | wasmerCompileError
  deriving DecidableEq

namespace CompilationError

instance : VariantTag Tag where
  all := [.codeDoesNotExist, .prepareError, .wasmerCompileError]
  name
    | .codeDoesNotExist => "CodeDoesNotExist"
    | .prepareError => "PrepareError"
    | .wasmerCompileError => "WasmerCompileError"
  mem_all tag := by cases tag <;> decide
  nodup_names := by decide

/-- The table of the compilation errors. -/
def registry : Registry Tag CompilationError where
  family := "CompilationError"
  variants := [
    .unwrapped .prepareError .text .prepareError,
    .structured .codeDoesNotExist AccountContext.schema .codeDoesNotExist,
    .structured .wasmerCompileError MessageContext.schema .wasmerCompileError]
  of?_variants := rfl

/-- The compilation errors as a tagged union. -/
def union : Tagged Tag CompilationError where
  registry := registry
  parts
    | .codeDoesNotExist context => .carrying .codeDoesNotExist AccountContext.schema context
    | .prepareError message => .carrying .prepareError .text message
    | .wasmerCompileError context => .carrying .wasmerCompileError MessageContext.schema context

/-- The union as the type of a field. -/
def schema : Schema CompilationError := union.schema

end CompilationError

/-- Why a call failed inside the machine that runs contracts. -/
inductive FunctionCallError where
  | compilationError (error : CompilationError)
  | executionError (message : String)
  /-- A failure of the host, kept as it was reported. -/
  | hostError (detail : Json)
  | linkError (context : MessageContext)
  | methodResolveError (error : MethodResolveError)
  | wasmTrap (error : WasmTrap)
  | wasmUnknownError
  deriving DecidableEq

/-- The tags of the call errors. -/
inductive FunctionCallError.Tag where
  | compilationError
  | executionError
  | hostError
  | linkError
  | methodResolveError
  | wasmTrap
  | wasmUnknownError
  deriving DecidableEq

namespace FunctionCallError

instance : VariantTag Tag where
  all := [.compilationError, .executionError, .hostError, .linkError, .methodResolveError,
    .wasmTrap, .wasmUnknownError]
  name
    | .compilationError => "CompilationError"
    | .executionError => "ExecutionError"
    | .hostError => "HostError"
    | .linkError => "LinkError"
    | .methodResolveError => "MethodResolveError"
    | .wasmTrap => "WasmTrap"
    | .wasmUnknownError => "WasmUnknownError"
  mem_all tag := by cases tag <;> decide
  nodup_names := by decide

/-- The table of the call errors. -/
def registry : Registry Tag FunctionCallError where
  family := "FunctionCallError"
  variants := [
    .unit .wasmUnknownError .wasmUnknownError,
    .unwrapped .executionError .text .executionError,
    .unwrapped .hostError .json .hostError,
    .nested .compilationError CompilationError.union.decode .compilationError,
    .nested .methodResolveError MethodResolveError.union.decode .methodResolveError,
    .nested .wasmTrap WasmTrap.union.decode .wasmTrap,
    .structured .linkError MessageContext.schema .linkError]
  of?_variants := rfl

/-- The call errors as a tagged union. -/
def union : Tagged Tag FunctionCallError where
  registry := registry
  parts
    | .compilationError error => .carrying .compilationError CompilationError.schema error
    | .executionError message => .carrying .executionError .text message
    | .hostError detail => .carrying .hostError .json detail
    | .linkError context => .carrying .linkError MessageContext.schema context
    | .methodResolveError error => .carrying .methodResolveError MethodResolveError.schema error
    | .wasmTrap error => .carrying .wasmTrap WasmTrap.schema error
    | .wasmUnknownError => .bare .wasmUnknownError

/-- The union as the type of a field. -/
def schema : Schema FunctionCallError := union.schema

end FunctionCallError

end LedgerWire
