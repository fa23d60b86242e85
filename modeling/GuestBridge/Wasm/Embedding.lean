import GuestBridge.Config
import GuestBridge.Host.Dispatch
import GuestBridge.Sandbox.Backend
import GuestBridge.Wasm.Engine

/-!
# Sandboxes on an engine

Brings up the module of a binary on an engine and drives it from outside. A guest that calls the
host is answered by `dispatch`, which may in turn call the allocator of the guest while the call of
the host waits. Calls are followed for at most a number of steps, `limit`.

What the host keeps beside a guest is its `HostLog`. Every operation but reading memory is granted
its fuel anew, and answers with what happened in the host meanwhile. An invocation begins with no
fault kept, and its trap is reported with the fault that is kept then (`HostLog.report`). Placing
bytes reports a trap of the allocator itself and leaves the fault where it is.
-/

namespace GuestBridge

namespace Wasm

/-! ## What the host keeps -/

/-- The calls of host functions there have been, what has happened in the host and was not told yet,
both latest first, and the fault that is to be reported. -/
structure HostLog where
  past : HostHistory
  events : List HostEvent
  fault : Option HostFault

namespace HostLog

def empty : HostLog := ⟨[], [], none⟩

/-- The log after a run of a body. -/
def ran (r : HostRun) (l : HostLog) : HostLog :=
  { l with past := r.context :: l.past, events := .called r.context :: l.events }

/-- The log after a failed call. Its fault takes the place of one that was kept before. -/
def failed (fault : HostFault) (l : HostLog) : HostLog :=
  { l with events := .failed fault :: l.events, fault := some fault }

/-- The log when everything has been told. -/
def told (l : HostLog) : HostLog :=
  { l with events := [] }

/-- The log with another fault, or with none. -/
def keep (fault : Option HostFault) (l : HostLog) : HostLog :=
  { l with fault := fault }

/-- How a trap is reported: a fault that is kept goes before the words of the engine, and only such
a fault is ever fatal. -/
def report (l : HostLog) (message : String) : SandboxError :=
  match l.fault with
  | some fault => .trap fault.message fault.isFatal
  | none => .trap message false

end HostLog

namespace Engine

variable (E : Engine)

/-- A guest, and what the host keeps beside it. -/
structure State where
  guest : E.Guest
  log : HostLog

namespace State

variable {E}

/-- The state with another log. -/
def withLog (s : E.State) (log : HostLog) : E.State :=
  { s with log := log }

end State

/-- The host, as it is called by guests. -/
def hostSide : HostSide E.State where
  past s := s.log.past
  ran r s := s.withLog (s.log.ran r)
  failed fault s := s.withLog (s.log.failed fault)

/-! ## Guest memory -/

/-- What follows a call up to its end. -/
abbrev Runner := E.Thread → E.State → Except String (List (Option Word)) × E.State

/-- The wording of a failed allocation. -/
def allocatorTrapped (reason : String) : String :=
  s!"allocator trapped: {reason}"

/-- Has an allocator hand out room for bytes and copies them there. -/
def place (runner : E.Runner) (waiting : Option E.Thread) (alloc : E.Func) (memory : E.Mem)
    (part : Bytes) (s : E.State) : Except SandboxError UInt32 × E.State :=
  if 0x80000000 ≤ part.length then (.error (.memory (.beyondRange part.length)), s)
  else
    match runner (E.enter waiting alloc [.i32 (Int32.ofNat part.length)] 1) s with
    | (.error reason, s) => (.error (.trap (allocatorTrapped reason) true), s)
    | (.ok (some (.i32 address) :: _), ⟨guest, log⟩) =>
        let address := address.toUInt32
        match E.write memory address.toNat part guest with
        | .ok guest => (.ok address, ⟨guest, log⟩)
        | .error reason =>
            (.error (.memory (.write part.length address.toNat reason)), ⟨guest, log⟩)
    | (.ok _, s) => (.error (.abi .allocatorResult), s)

section Memory

variable (config : Config)

/-- The allocator of a guest, and its memory. -/
def allocator (guest : E.Guest) : Except SandboxError (E.Func × E.Mem) :=
  match E.function? guest config.allocExport, E.memory? guest config.memoryExport with
  | none, _ => .error (.missingExport config.allocExport)
  | some _, none => .error (.missingExport config.memoryExport)
  | some alloc, some memory => .ok (alloc, memory)

/-- Reads the memory of a guest. -/
def readMemory (address length : UInt32) (guest : E.Guest) : Except SandboxError Bytes :=
  match E.memory? guest config.memoryExport with
  | none => .error (.missingExport config.memoryExport)
  | some memory =>
      let content := E.content memory guest
      match content.read? address.toNat length.toNat with
      | some part => .ok part
      | none => .error (.memory (.read length.toNat address.toNat content.size))

/-- Has the allocator of a guest that waits hand out room for bytes, and copies them there. -/
def allocate (runner : E.Runner) (waiting : E.Thread) (part : Bytes) (s : E.State) :
    Except SandboxError UInt32 × E.State :=
  match E.allocator config s.guest with
  | .error e => (.error e, s)
  | .ok (alloc, memory) => E.place runner (some waiting) alloc memory part s

/-- The memory that a host function finds which was called by a guest. -/
def guestMemory (runner : E.Runner) (waiting : E.Thread) : GuestMemory E.State where
  alloc part := .ofFunction (E.allocate config runner waiting part)
  read address length := .ofFunction fun s => (E.readMemory config address length s.guest, s)

/-- The memory that a host function finds which was called from outside. -/
def noMemory : GuestMemory E.State where
  alloc _ := throw (.missingExport config.allocExport)
  read _ _ := throw (.missingExport config.memoryExport)

/-- The memory that a host function finds while a call waits. -/
def hostMemory (runner : E.Runner) (byGuest : Bool) (waiting : E.Thread) : GuestMemory E.State :=
  if byGuest then E.guestMemory config runner waiting else E.noMemory config

end Memory

/-! ## Running -/

/-- Answers a call of a host function. A call that fails is answered with the words of its fault. -/
def callHost (mem : GuestMemory E.State) (i : LinkedImport) (args : List (Option Word))
    (s : E.State) : Except String (List Word) × E.State :=
  let (answer, s) := (dispatch mem E.hostSide i.name.name i.binding args).from s
  (answer.mapError HostFault.message, s)

/-- The words for a call that was followed to no end. -/
def givenUp : String := "call given up"

/-- Follows a call for at most a number of steps. -/
def run (config : Config) : Nat → E.Runner
  | 0, _, s => (.error givenUp, s)
  | steps + 1, t, ⟨guest, log⟩ =>
      match E.advance t guest with
      | (.running t, guest) => run config steps t ⟨guest, log⟩
      | (.finished results, guest) => (.ok results, ⟨guest, log⟩)
      | (.failed message, guest) => (.error message, ⟨guest, log⟩)
      | (.calling i byGuest args t, guest) =>
          let mem := E.hostMemory config (run config steps) byGuest t
          let (answer, s) := E.callHost mem i args ⟨guest, log⟩
          run config steps (E.resume t answer) s

/-! ## Loading -/

/-- A module that is up. -/
structure Sandbox where
  code : E.Code
  config : Config
  state : E.State

/-- Runs the start function of a guest, if it has one. -/
def runStart (limit : Nat) (config : Config) (s : E.State) :
    Except String (List (Option Word)) × E.State :=
  match E.start? s.guest with
  | none => (.ok [], s)
  | some t => E.run config limit t s

/-- Brings up a module with its linked imports. Failing in its start is fatal. -/
def bringUp (limit : Nat) (code : E.Code) (linked : List LinkedImport) (config : Config) :
    Except SandboxError E.Sandbox × List HostEvent :=
  match E.instantiate code linked config.fuelPerCall with
  | .error reason => (.error (.load reason), [])
  | .ok guest =>
      match E.runStart limit config ⟨guest, .empty⟩ with
      | (.error message, s) =>
          (.error (.trap (s.log.report message).message true), s.log.events.reverse)
      | (.ok _, s) => (.ok ⟨code, config, s.withLog s.log.told⟩, s.log.events.reverse)

/-- Brings up the module of a binary. -/
def load (limit : Nat) (binary : Bytes) (host : HostBindings) (config : Config) :
    Except SandboxError E.Sandbox × List HostEvent :=
  match E.compile config.fuelPerCall.isSome binary with
  | .error reason => (.error (.load reason), [])
  | .ok code =>
      match link host config.hostModule (E.imports code) with
      | .error e => (.error e, [])
      | .ok linked => E.bringUp limit code linked config

namespace Sandbox

/-! ## Driving -/

variable {E}

/-- The function as it is listed, if all it takes and returns are words. -/
def exportInfo? (name : String) (type : ExternType) : Option ExportInfo := do
  let t ← type.function?
  let (params, results) ← t.wires?
  return ⟨name, params, results⟩

/-- The exported functions that take and return words. -/
def exportInfos (sb : E.Sandbox) : List ExportInfo :=
  (E.exports sb.code).filterMap fun (name, type) => exportInfo? name type

/-- The answer of an operation that leaves a guest in a state. -/
def reply {α : Type} (sb : E.Sandbox) (result : Except SandboxError α) (s : E.State) :
    Reply E.Sandbox α :=
  ⟨result, { sb with state := s.withLog s.log.told }, s.log.events.reverse⟩

/-- The sandbox with a fault kept, or with none. -/
def keeping (fault : Option HostFault) (sb : E.Sandbox) : E.Sandbox :=
  { sb with state := sb.state.withLog (sb.state.log.keep fault) }

/-- The state with the fuel of an operation. -/
def refuelled (sb : E.Sandbox) : Except SandboxError E.State :=
  match sb.config.fuelPerCall with
  | none => .ok sb.state
  | some fuel =>
      match E.refuel fuel sb.state.guest with
      | .ok guest => .ok { sb.state with guest := guest }
      | .error reason => .error (.trap s!"cannot set fuel: {reason}" false)

/-- Calls a function of the guest from outside. -/
def call (limit : Nat) (f : E.Func) (words : List Word) (sb : E.Sandbox) :
    E.State → Except String (List (Option Word)) × E.State :=
  E.run sb.config limit (E.enter none f words (E.type f).results.length)

/-- The answer of a function that has returned. One that returns a reference has no answer. -/
def callAnswer (name : String) (results : List (Option Word)) : Except SandboxError (List Word) :=
  match results.mapM id with
  | some words => .ok words
  | none => .error (.abi (.result name))

/-- Runs an export. A fault that is reported is not kept any longer. -/
def invoke (limit : Nat) (name : String) (words : List Word) (sb : E.Sandbox) :
    Reply E.Sandbox (List Word) :=
  match E.function? sb.state.guest name with
  | none => sb.reply (.error (.missingExport name)) sb.state
  | some f =>
      let sb := sb.keeping none
      match sb.refuelled with
      | .error e => sb.reply (.error e) sb.state
      | .ok s =>
          match sb.call limit f words s with
          | (.error message, s) =>
              sb.reply (.error (s.log.report message)) (s.withLog (s.log.keep none))
          | (.ok results, s) => sb.reply (callAnswer name results) s

/-- Runs an export without arguments, if there is one of that name. -/
def runInitializer (limit : Nat) (entry : String) (sb : E.Sandbox) : Reply E.Sandbox Bool :=
  match E.function? sb.state.guest entry with
  | none => sb.reply (.ok false) sb.state
  | some _ =>
      let r := sb.invoke limit entry []
      ⟨r.result.map fun _ => true, r.state, r.events⟩

/-- Places bytes in memory. -/
def alloc (limit : Nat) (part : Bytes) (sb : E.Sandbox) : Reply E.Sandbox UInt32 :=
  match E.allocator sb.config sb.state.guest with
  | .error e => sb.reply (.error e) sb.state
  | .ok (alloc, memory) =>
      match sb.refuelled with
      | .error e => sb.reply (.error e) sb.state
      | .ok s =>
          let (result, s) := E.place (E.run sb.config limit) none alloc memory part s
          sb.reply result s

/-- Reads memory. -/
def read (address length : UInt32) (sb : E.Sandbox) : Reply E.Sandbox Bytes :=
  sb.reply (E.readMemory sb.config address length sb.state.guest) sb.state

end Sandbox

/-- Sandboxes on an engine. -/
def backend (limit : Nat) : Backend E.Sandbox where
  load := E.load limit
  exports := Sandbox.exportInfos
  runInitializer := Sandbox.runInitializer limit
  invoke := Sandbox.invoke limit
  alloc := Sandbox.alloc limit
  read := Sandbox.read

end Engine

end Wasm

end GuestBridge
