import GuestBridge.Config
import GuestBridge.Host.Bindings
import GuestBridge.Host.Dispatch

/-!
# Sandboxes

A `Backend σ` brings up modules in a sandbox and drives them; `σ` is the state of one. Each
operation answers with the state after it and with what happened in the host meanwhile (`Reply`).

What is asked of a sandbox is kept in a `Trace`: every operation with its answer, in order. A
sandbox together with the trace so far is a `Traced σ`, and `Backend.memory` is guest memory that
keeps it.
-/

namespace GuestBridge

/-- An exported function and its words. -/
structure ExportInfo where
  name : String
  params : List WireType
  results : List WireType
  deriving DecidableEq, Repr

/-- The answer of a sandbox, its state after it, and what happened in the host. -/
structure Reply (σ α : Type) where
  result : Except SandboxError α
  state : σ
  events : List HostEvent

/-- What brings up modules and drives them. -/
structure Backend (σ : Type) where
  /-- Loads bytecode and links every import. -/
  load : Bytes → HostBindings → Config → Except SandboxError σ × List HostEvent
  /-- The exported functions. -/
  exports : σ → List ExportInfo
  /-- Runs an export without arguments, if there is one of that name, and tells whether it ran. -/
  runInitializer : String → σ → Reply σ Bool
  /-- Runs an export. -/
  invoke : String → List Word → σ → Reply σ (List Word)
  /-- Places bytes in guest memory. -/
  alloc : Bytes → σ → Reply σ UInt32
  /-- Reads guest memory. -/
  read : UInt32 → UInt32 → σ → Reply σ Bytes

/-- An operation of a sandbox and its answer. -/
inductive SandboxCall where
  | load (result : Except SandboxError Unit)
  | exports (found : List ExportInfo)
  | runInitializer (entry : String) (result : Except SandboxError Bool)
  | invoke (name : String) (words : List Word) (result : Except SandboxError (List Word))
  | alloc (bytes : Bytes) (result : Except SandboxError UInt32)
  | read (address length : UInt32) (result : Except SandboxError Bytes)
  | release

/-- An operation and what happened in the host meanwhile. -/
structure TraceEntry where
  call : SandboxCall
  events : List HostEvent

/-- What was asked of a sandbox, in order. -/
abbrev Trace := List TraceEntry

/-- A sandbox and what was asked of it so far. -/
structure Traced (σ : Type) where
  sandbox : σ
  trace : Trace

namespace Backend

variable {σ α : Type}

/-- Runs an operation and adds it to the trace. -/
def perform (op : σ → Reply σ α) (entry : Except SandboxError α → SandboxCall) :
    Fallible (Traced σ) SandboxError α :=
  .ofFunction fun t =>
    let reply := op t.sandbox
    (reply.result, ⟨reply.state, t.trace ++ [⟨entry reply.result, reply.events⟩]⟩)

/-- Runs an export. -/
def traceInvoke (b : Backend σ) (name : String) (words : List Word) :
    Fallible (Traced σ) SandboxError (List Word) :=
  perform (b.invoke name words) (.invoke name words)

/-- Runs the initializer. -/
def traceInitializer (b : Backend σ) (entry : String) : Fallible (Traced σ) SandboxError Bool :=
  perform (b.runInitializer entry) (.runInitializer entry)

/-- The memory of the guest in the sandbox. -/
def memory (b : Backend σ) : GuestMemory (Traced σ) where
  alloc bytes := perform (b.alloc bytes) (.alloc bytes)
  read address length := perform (b.read address length) (.read address length)

end Backend

end GuestBridge
