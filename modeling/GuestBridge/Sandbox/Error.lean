import GuestBridge.Call.Word

/-!
# Why a sandbox fails

The causes that a sandbox reports, with their wording. Only a trap has a severity: after a fatal one
the instance cannot be used. A cause that comes with its own words is `reported`.
-/

namespace GuestBridge

/-- The two names of an import. -/
structure ImportName where
  module : String
  name : String
  deriving DecidableEq, Repr

/-- What went wrong with guest memory. -/
inductive MemoryFault where
  | tooLong (bytes : Nat)
  | beyondRange (bytes : Nat)
  | noRoom (bytes : Nat)
  | outOfRange (address length : Nat)
  | write (bytes address : Nat) (reason : String)
  | read (bytes address size : Nat)
  | reported (message : String)
  deriving DecidableEq, Repr

def MemoryFault.message : MemoryFault → String
  | tooLong bytes => s!"string of {bytes} bytes does not fit"
  | beyondRange bytes => s!"{bytes} bytes exceed guest range"
  | noRoom bytes => s!"no room for {bytes} bytes"
  | outOfRange address length => s!"read {address}+{length} out of range"
  | write bytes address reason => s!"writing {bytes} bytes at {address}: {reason}"
  | read bytes address size => s!"read of {bytes} bytes at {address} exceeds memory size {size}"
  | reported message => message

/-- What does not follow the calling convention. -/
inductive AbiFault where
  | wordCount (expected actual : Nat)
  | lengthWord
  | word (kind : Kind) (found : Word)
  | result (function : String)
  | allocatorResult
  | reported (message : String)
  deriving DecidableEq, Repr

def AbiFault.message : AbiFault → String
  | wordCount expected actual => s!"expected {expected} word(s), got {actual}"
  | lengthWord => "string length word missing"
  | word kind found =>
      let kind := kind.name
      let found := found.text
      s!"cannot read {kind} from Some({found})"
  | result function => s!"`{function}` returned a non-numeric value"
  | allocatorResult => "allocator must return i32"
  | reported message => message

/-- Why a sandbox fails. -/
inductive SandboxError where
  | load (reason : String)
  | unresolvedImport (name : ImportName)
  | importSignature (name : ImportName) (expected bound : String)
  | missingExport (name : String)
  | trap (message : String) (fatal : Bool)
  | memory (fault : MemoryFault)
  | abi (fault : AbiFault)
  deriving DecidableEq, Repr

namespace SandboxError

/-- The failure leaves the instance unusable. -/
def isFatal : SandboxError → Bool
  | trap _ fatal => fatal
  | _ => false

/-- The wording of an import without a binding. -/
def unresolvedText (name : ImportName) : String :=
  let module := name.module
  let name := name.name
  s!"unresolved import `{module}.{name}`"

/-- The wording of an import whose binding has another type. -/
def importSignatureText (name : ImportName) (expected bound : String) : String :=
  let module := name.module
  let name := name.name
  s!"import `{module}.{name}` has type {expected}, host binding declares {bound}"

def message : SandboxError → String
  | load reason => reason
  | unresolvedImport name => unresolvedText name
  | importSignature name expected bound => importSignatureText name expected bound
  | missingExport name => s!"missing export `{name}`"
  | trap message _ => message
  | memory fault =>
      let reason := fault.message
      s!"guest memory: {reason}"
  | abi fault =>
      let reason := fault.message
      s!"abi mismatch: {reason}"

end SandboxError

end GuestBridge
