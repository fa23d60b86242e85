import GuestBridge.Wasm.Embedding
import GuestBridge.Wasm.Machine
import GuestBridge.Wasm.Typing

/-!
# Sandboxes of modules

The machine as an engine (`interpreter`), one among others that knows a part of the instructions,
and sandboxes on it.
-/

namespace GuestBridge

namespace Wasm

/-! ## Bringing up modules -/

/-- The memory with the data segments in place, if they fit. -/
def placeData (memory : Memory) : List DataSegment → Option Memory
  | [] => some memory
  | d :: rest => do
      let memory ← memory.write? d.offset d.bytes
      placeData memory rest

/-- The store a module starts with. -/
def Module.store? (m : Module) (fuel : Option UInt64) : Option Store := do
  let pages := (m.memory.map Limits.least).getD 0
  let memory ← placeData (.zeros pages) m.data
  return ⟨memory, m.globals.map Global.value, fuel.map UInt64.toNat⟩

/-- The function that answers an import, if it is linked to one of its type. -/
def Import.callee (linked : List LinkedImport) (i : Import) : Except String Callee :=
  match linkedTo linked i.name with
  | none => .error "import is not linked"
  | some l =>
      if i.type.function? = some (bindingType l.binding) then .ok (.host l)
      else .error "import has two types"

/-- A module that is up. -/
structure Guest where
  inst : Instance
  store : Store

namespace Guest

/-- The guest with another store. -/
def withStore (g : Guest) (s : Store) : Guest :=
  { g with store := s }

/-- Brings up a module with its imports linked. -/
def ofModule (m : Module) (linked : List LinkedImport) (fuel : Option UInt64) :
    Except String Guest := do
  let imported ← m.imports.mapM (Import.callee linked)
  match m.store? fuel with
  | none => throw "data segment out of bounds"
  | some s => return ⟨⟨m, imported ++ m.functions.map .guest⟩, s⟩

/-- The call of the start function, if there is one. -/
def start? (g : Guest) : Option Thread := do
  let index ← g.inst.module.start
  let c ← g.inst.functions[index]?
  return .enter none c [] 0

/-- Writes bytes to memory. -/
def write (g : Guest) (address : Nat) (part : Bytes) : Except String Guest :=
  match g.store.memory.write? address part with
  | some memory => .ok (g.withStore { g.store with memory := memory })
  | none => .error Trap.outOfBounds.message

end Guest

/-- The machine as an engine. Each guest has one memory at most. -/
def interpreter : Engine where
  Code := Module
  Guest := Guest
  Func := Callee
  Mem := Unit
  Thread := Thread
  compile _ binary := (Module.load binary).elim (.error "malformed module") .ok
  imports := Module.imports
  exports := Module.exportTypes
  instantiate := Guest.ofModule
  start? := Guest.start?
  refuel fuel g := .ok (g.withStore { g.store with fuel := some fuel.toNat })
  function? g := g.inst.function?
  memory? g name := if g.inst.exportsMemory name then some () else none
  type := Callee.type
  content _ g := g.store.memory
  write _ address part g := g.write address part
  enter := Thread.enter
  advance t g :=
    let (progress, s) := t.advance g.inst g.store
    (progress, g.withStore s)
  resume := Thread.resume

/-- The machine gives up a call of the host that fails. -/
theorem interpreter_unwinds : interpreter.Unwinds :=
  fun t _ _ => by cases t <;> rfl

/-! ## Sandboxes -/

/-- The most steps of an operation whose fuel is not limited. -/
def maxSteps : Nat := 0x4000000000000000

/-- A module that is up on the machine. -/
abbrev Sandbox := interpreter.Sandbox

/-- Sandboxes of modules. -/
def backend : Backend Sandbox :=
  interpreter.backend maxSteps

end Wasm

end GuestBridge
