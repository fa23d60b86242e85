import GuestBridge.Call.Marshal
import GuestBridge.Host.Function

/-!
# Calls from a guest

`dispatch` answers a guest that calls a host function with words: it reads the arguments, runs the
function and turns its answer into words, all through guest memory. Running a function is one step
on what the host keeps (`HostSide`), which tells the function of the calls before and takes note of
this one. A failed call is a `HostFault`, which is fatal if the function says so or guest memory
failed fatally.
-/

namespace GuestBridge

/-- Why a call from a guest fails. -/
inductive HostFaultCause where
  /-- The guest passes something that is no word. -/
  | argument
  | memory (e : SandboxError)
  | call (e : HostCallError)
  deriving DecidableEq, Repr

/-- A failed call of a host function. -/
structure HostFault where
  function : String
  cause : HostFaultCause
  deriving DecidableEq, Repr

namespace HostFault

/-- The instance cannot be used any more. -/
def isFatal (f : HostFault) : Bool :=
  match f.cause with
  | .argument => false
  | .memory e => e.isFatal
  | .call e => e.isFatal

def message (f : HostFault) : String :=
  let name := f.function
  let reason := match f.cause with
    | .argument => "non-numeric argument"
    | .memory e => e.message
    | .call e => e.message
  s!"host function `{name}` failed: {reason}"

end HostFault

/-- What happens while a guest calls the host. -/
inductive HostEvent where
  | called (ctx : HostContext)
  | failed (fault : HostFault)
  deriving DecidableEq, Repr

variable {μ : Type}

/-! ## The side of the host -/

/-- A run of the body of a function. -/
structure HostRun where
  function : HostFunction
  past : HostHistory
  context : HostContext

/-- What the body answers. -/
def HostRun.outcome (r : HostRun) : Except HostCallError Value :=
  r.function.body r.past r.context

/-- What the host keeps in a state: the calls there have been, to which every run of a body is
added, and the calls that failed. -/
structure HostSide (μ : Type) where
  past : μ → HostHistory
  ran : HostRun → μ → μ
  failed : HostFault → μ → μ

/-- Runs a function and takes note of the run. -/
def HostSide.call (host : HostSide μ) (f : HostFunction) (ctx : HostContext) :
    Fallible μ HostCallError Value :=
  .ofFunction fun s =>
    let past := host.past s
    (f.callAfter past ctx, host.ran ⟨f, past, ctx⟩ s)

/-! ## Dispatching -/

/-- A step in guest memory on behalf of a host function. -/
def forFunction {α : Type} (name : String) (op : GuestM μ α) : Fallible μ HostFault α :=
  ExceptT.adapt (fun e => ⟨name, .memory e⟩) op

/-- Reads the arguments off the operands, which have to be words, runs the function and answers the
words of its result. -/
def dispatchCall (mem : GuestMemory μ) (host : HostSide μ) (name : String) (f : HostFunction)
    (operands : List (Option Word)) : Fallible μ HostFault (List Word) := do
  let some words := operands.mapM id | throw ⟨name, .argument⟩
  let args ← forFunction name (liftValues mem f.params words)
  let v ← ExceptT.adapt (fun e => ⟨name, .call e⟩) (host.call f ⟨name, args⟩)
  forFunction name (lowerValues mem [v])

/-- Answers a call from a guest, and takes note of it if it fails. -/
def dispatch (mem : GuestMemory μ) (host : HostSide μ) (name : String) (f : HostFunction)
    (operands : List (Option Word)) : Fallible μ HostFault (List Word) :=
  tryCatch (dispatchCall mem host name f operands) fun fault => do
    modify (host.failed fault)
    throw fault

end GuestBridge
