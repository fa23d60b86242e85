import GuestBridge.Call.Marshal
import GuestBridge.Runtime.Basic

/-!
# Using a program

Calls, and structs written to and read from the memory of a guest. A request that does not fit is
refused before the sandbox is asked anything. A fatal trap breaks the runtime, also when it arises
while the text of a struct field is placed or fetched; any other failure leaves it as it was.
-/

namespace GuestBridge

variable {σ α : Type}

/-- Why the sandbox did not do what it was asked for. -/
inductive CallFault where
  | sandbox (e : SandboxError)
  | layout (e : CodecError SliceFault)
  deriving DecidableEq, Repr

/-- A computation in the sandbox of a program. -/
abbrev ProgramM (σ : Type) := Fallible (Traced σ) CallFault

/-- A step of the sandbox. -/
def sandboxStep (op : Fallible (Traced σ) SandboxError α) : ProgramM σ α :=
  ExceptT.adapt CallFault.sandbox op

/-- A failure of a struct codec. The fatal failure of a slice counts for itself. -/
def CallFault.ofCodec (e : CodecError SliceFault) : CallFault :=
  match e with
  | .indirect _ _ (.guest cause) => if cause.isFatal then .sandbox cause else .layout e
  | _ => .layout e

/-- The texts of struct fields in guest memory; the empty one is an address and a length of zero. -/
def guestSlices {μ : Type} (mem : GuestMemory μ) : SliceAccess μ SliceFault where
  store text := do
    let part := Text.encode text
    if UInt32.size ≤ part.length then throw (.tooLong part.length)
    if part.isEmpty then return (0, 0)
    let address ← ExceptT.adapt SliceFault.guest (mem.alloc part)
    return (address, UInt32.ofNat part.length)
  load address length :=
    ExceptT.adapt SliceFault.guest (readText mem address length)

namespace Runtime

/-- What becomes of a program whose sandbox failed on behalf of a function. -/
def settle (config : Config) (digest : String) (program : Program) (t : Traced σ)
    (function : String) (fault : CallFault) : Outcome σ α :=
  let ready : Runtime σ := ⟨config, .ready digest program t.sandbox⟩
  match fault with
  | .layout e => ⟨.error (.layout e), ready, t.trace⟩
  | .sandbox (.trap message true) =>
      ⟨.error (.trap function message),
        ⟨config, .broken digest program t.sandbox (.trap function message)⟩, t.trace⟩
  | .sandbox (.trap message false) => ⟨.error (.trap function message), ready, t.trace⟩
  | .sandbox e => ⟨.error (.marshal function e), ready, t.trace⟩

/-- Runs a computation in a sandbox on behalf of a function. -/
def inGuest (config : Config) (digest : String) (program : Program) (sandbox : σ)
    (function : String) (op : ProgramM σ α) : Outcome σ α :=
  match op.from ⟨sandbox, []⟩ with
  | (.ok a, t) => ⟨.ok a, ⟨config, .ready digest program t.sandbox⟩, t.trace⟩
  | (.error fault, t) => settle config digest program t function fault

/-! ## Calls -/

/-- The first argument that is not of the kind of its parameter. -/
def firstMismatch (index : Nat) : List Value → List Kind → Option (Nat × TypeMismatch)
  | v :: args, k :: params =>
      if v.kind = k then firstMismatch (index + 1) args params else some (index, ⟨k, v.kind⟩)
  | _, _ => none

/-- The signature under which a function is called with the arguments. -/
def prepareCall (program : Program) (name : String) (args : List Value) :
    Except RuntimeError Signature :=
  match program.exports.get? name with
  | none => .error (.noSuchFunction name program.exports.keys)
  | some s =>
      if args.length ≠ s.params.length then .error (.arity name s.params.length args.length)
      else
        match firstMismatch 0 args s.params with
        | some (index, mismatch) => .error (.argumentType name index mismatch)
        | none => .ok s

/-- Calls an export: arguments to words, the call, words to results. -/
def invokeWith (b : Backend σ) (name : String) (s : Signature) (args : List Value) :
    ProgramM σ (List Value) := do
  let words ← sandboxStep (lowerValues b.memory args)
  let out ← sandboxStep (b.traceInvoke name words)
  sandboxStep (liftValues b.memory s.results out)

/-- Calls a function with any number of results. -/
def callMulti (b : Backend σ) (rt : Runtime σ) (name : String) (args : List Value) :
    Outcome σ (List Value) :=
  match rt.phase with
  | .ready digest program sandbox =>
      match prepareCall program name args with
      | .error e => rt.refuse e
      | .ok s => inGuest rt.config digest program sandbox name (invokeWith b name s args)
  | _ => rt.refuse (rt.refusal .call)

/-- The last one of the results. -/
def lastResult (name : String) (values : List Value) : Except RuntimeError Value :=
  match values.getLast? with
  | some v => .ok v
  | none => .error (.resultCount name 1 0)

/-- Calls a function with one result. -/
def call (b : Backend σ) (rt : Runtime σ) (name : String) (args : List Value) :
    Outcome σ Value :=
  match rt.phase with
  | .ready digest program sandbox =>
      match prepareCall program name args with
      | .error e => rt.refuse e
      | .ok s =>
          if s.results.length ≠ 1 then rt.refuse (.resultCount name 1 s.results.length)
          else
            let out := inGuest rt.config digest program sandbox name (invokeWith b name s args)
            ⟨out.result.bind (lastResult name), out.runtime, out.trace⟩
  | _ => rt.refuse (rt.refusal .call)

/-! ## Structs -/

/-- Places a struct value in guest memory: its texts first, and then its bytes. -/
def placeStruct (b : Backend σ) (type : TypeDescriptor) (v : StructValue) :
    ProgramM σ UInt32 := do
  let bytes ← ExceptT.adapt CallFault.ofCodec (encodeStruct (guestSlices b.memory) type v)
  sandboxStep (b.memory.alloc bytes)

/-- Fetches a struct value from guest memory. -/
def fetchStruct (b : Backend σ) (type : TypeDescriptor) (address : UInt32) :
    ProgramM σ StructValue := do
  let bytes ← sandboxStep (b.memory.read address type.size)
  ExceptT.adapt CallFault.ofCodec (decodeStruct (guestSlices b.memory) type bytes)

/-- Copies a struct value into the guest and answers its address. -/
def writeStruct (b : Backend σ) (r : Registry) (rt : Runtime σ) (v : StructValue) :
    Outcome σ UInt32 :=
  match rt.phase with
  | .ready digest program sandbox =>
      match r.lookup v.typeName with
      | .error e => rt.refuse (.registry e)
      | .ok type =>
          inGuest rt.config digest program sandbox v.typeName (placeStruct b type v)
  | _ => rt.refuse (rt.refusal .writeStruct)

/-- Reads a struct of the named type at an address. -/
def readStruct (b : Backend σ) (r : Registry) (rt : Runtime σ) (typeName : String)
    (address : UInt32) : Outcome σ StructValue :=
  match rt.phase with
  | .ready digest program sandbox =>
      match r.lookup typeName with
      | .error e => rt.refuse (.registry e)
      | .ok type =>
          inGuest rt.config digest program sandbox typeName (fetchStruct b type address)
  | _ => rt.refuse (rt.refusal .readStruct)

end Runtime

end GuestBridge
