import GuestBridge.Layout.Codec
import GuestBridge.Module.Compiled
import GuestBridge.Module.Metadata
import GuestBridge.Sandbox.Error

/-!
# Why a program fails

The causes for which a module is not brought up, and for which an operation on a program is refused
or fails, with their wording.
-/

namespace GuestBridge

/-- How far a program is. -/
inductive RuntimeState where
  | uninstantiated
  | ready
  | failed
  | closed
  deriving DecidableEq, Repr

namespace RuntimeState

def text : RuntimeState → String
  | uninstantiated => "uninstantiated"
  | ready => "ready"
  | failed => "failed"
  | closed => "closed"

def name : RuntimeState → String
  | uninstantiated => "Uninstantiated"
  | ready => "Ready"
  | failed => "Failed"
  | closed => "Closed"

end RuntimeState

/-- What is asked of a program. -/
inductive Operation where
  | instantiate
  | call
  | writeStruct
  | readStruct
  deriving DecidableEq, Repr

def Operation.text : Operation → String
  | instantiate => "instantiate"
  | call => "call a function"
  | writeStruct => "write a struct"
  | readStruct => "read a struct"

/-- What is wrong with the declared signature of an export: a type that is refused, or other words
than those of the export. -/
inductive SignatureFault where
  | unresolved (e : RegistryError)
  | mismatch (declared : DeclaredSignature) (params results : List WireType)
      (exportParams exportResults : List WireType)
  deriving DecidableEq, Repr

def wireTypesText (types : List WireType) : String :=
  let listed := ", ".intercalate (types.map WireType.name)
  s!"[{listed}]"

def SignatureFault.message : SignatureFault → String
  | unresolved e => e.message
  | mismatch declared params results exportParams exportResults =>
      let declaredParams := ", ".intercalate declared.params
      let declaredResults := ", ".intercalate declared.results
      let params := wireTypesText params
      let results := wireTypesText results
      let exportParams := wireTypesText exportParams
      let exportResults := wireTypesText exportResults
      s!"declared ({declaredParams}) -> ({declaredResults}) lowers to {params} -> {results}"
        ++ s!", but the export is {exportParams} -> {exportResults}"

/-- Why a module is not brought up. -/
inductive InstantiationError where
  | load (cause : SandboxError)
  | unresolvedImport (name : ImportName)
  | importSignature (name : ImportName) (expected bound : String)
  | initializer (entry message : String)
  | metadata (e : MetadataError)
  | signature (function : String) (fault : SignatureFault)
  | registry (e : RegistryError)
  deriving DecidableEq, Repr

namespace InstantiationError

/-- A sandbox that cannot be loaded. A trap while loading comes from the start function. -/
def ofLoad : SandboxError → InstantiationError
  | .unresolvedImport name => .unresolvedImport name
  | .importSignature name expected bound => .importSignature name expected bound
  | .trap message _ => .initializer "start" message
  | e => .load e

def message : InstantiationError → String
  | load cause =>
      let reason := cause.message
      s!"failed to load module: {reason}"
  | unresolvedImport name => SandboxError.unresolvedText name
  | importSignature name expected bound => SandboxError.importSignatureText name expected bound
  | initializer entry message => s!"initializer `{entry}` trapped: {message}"
  | metadata e => e.message
  | signature function fault =>
      let reason := fault.message
      s!"signature of `{function}`: {reason}"
  | registry e =>
      let reason := e.message
      s!"registering module structs: {reason}"

end InstantiationError

/-- Why a program can not be used any more. -/
inductive FailureReason where
  | instantiation (e : InstantiationError)
  | trap (function message : String)
  deriving DecidableEq, Repr

/-- The wording of a trap. -/
def trapText (function message : String) : String :=
  s!"`{function}` trapped: {message}"

def FailureReason.message : FailureReason → String
  | instantiation e => e.message
  | trap function message => trapText function message

/-- Why the text of a struct field is not placed or fetched. -/
inductive SliceFault where
  | tooLong (bytes : Nat)
  | guest (e : SandboxError)
  deriving DecidableEq, Repr

def SliceFault.message : SliceFault → String
  | tooLong bytes => s!"{bytes} bytes do not fit"
  | guest e => e.message

/-- Why an operation on a program is refused or fails. -/
inductive RuntimeError where
  | compile (d : Diagnostic)
  | instantiation (e : InstantiationError)
  | noSuchFunction (name : String) (available : List String)
  | arity (name : String) (expected actual : Nat)
  | argumentType (function : String) (index : Nat) (mismatch : TypeMismatch)
  | resultCount (name : String) (expected actual : Nat)
  | trap (function message : String)
  | runtimeFailed (reason : FailureReason)
  | closed
  | invalidState (operation : Operation) (state : RuntimeState)
  | marshal (function : String) (cause : SandboxError)
  | registry (e : RegistryError)
  | layout (e : CodecError SliceFault)
  deriving DecidableEq, Repr

def RuntimeError.message : RuntimeError → String
  | compile d =>
      let reason := d.text
      s!"compile error: {reason}"
  | instantiation e =>
      let reason := e.message
      s!"instantiation failed: {reason}"
  | noSuchFunction name available =>
      let listed := ", ".intercalate available
      s!"no such function `{name}` (exported: {listed})"
  | arity name expected actual => s!"`{name}` takes {expected} argument(s), got {actual}"
  | argumentType function index mismatch =>
      let reason := mismatch.message
      s!"argument {index} of `{function}`: {reason}"
  | resultCount name expected actual => s!"`{name}` returns {actual} value(s), expected {expected}"
  | trap function message => trapText function message
  | runtimeFailed reason =>
      let reason := reason.message
      s!"runtime failed: {reason}"
  | closed => "runtime is closed"
  | invalidState operation state =>
      let operation := operation.text
      let state := state.text
      s!"cannot {operation} while {state}"
  | marshal function cause =>
      let reason := cause.message
      s!"marshalling `{function}`: {reason}"
  | registry e => e.message
  | layout e => e.message SliceFault.message

end GuestBridge
