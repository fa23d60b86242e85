import GuestBridge.Wasm.Link
import GuestBridge.Wasm.Memory

/-!
# Engines

An `Engine` compiles modules, brings them up and runs their functions. How it does this is its own
affair, and here is what its host sees of it. A call goes on step by step (`advance`). Where it gets
to a function of the host it stops, with a thread that waits for the answer (`Progress.calling`) and
goes on from there (`resume`); meanwhile the host may have other functions of the same guest called.
What an engine fails with is told in words of its own.

What engines are documented to do is assumed where it is needed, by name: `Engine.Unwinds` and
`Engine.ComparesTypes`.
-/

namespace GuestBridge

namespace Wasm

/-- What comes of going on with a call. Operands that are no words are missing. -/
inductive Progress (Thread : Type) where
  | running (t : Thread)
  | finished (results : List (Option Word))
  | failed (message : String)
  /-- A function of the host is called, by a guest or, where it is exported itself, from outside. -/
  | calling (i : LinkedImport) (byGuest : Bool) (args : List (Option Word)) (t : Thread)

/-- What runs modules. -/
structure Engine where
  /-- A module that is compiled. -/
  Code : Type
  /-- A module that is up, with all that changes while its functions run. -/
  Guest : Type
  /-- A function of a guest. -/
  Func : Type
  /-- A memory of a guest. -/
  Mem : Type
  /-- A call under way. -/
  Thread : Type
  /-- Compiles the module of a binary, such that it uses up fuel or not. -/
  compile : Bool → Bytes → Except String Code
  imports : Code → List Import
  exports : Code → List (String × ExternType)
  /-- Brings up a module with its imports linked and with some fuel, unless that is unlimited. -/
  instantiate : Code → List LinkedImport → Option UInt64 → Except String Guest
  /-- The call of the start function, if there is one. -/
  start? : Guest → Option Thread
  /-- Grants fuel anew. -/
  refuel : UInt64 → Guest → Except String Guest
  /-- The exported function of a name. -/
  function? : Guest → String → Option Func
  /-- The exported memory of a name. -/
  memory? : Guest → String → Option Mem
  type : Func → FuncType
  /-- What a memory holds. -/
  content : Mem → Guest → Memory
  /-- Writes bytes at an address. -/
  write : Mem → Nat → Bytes → Guest → Except String Guest
  /-- The call of a function with a number of results, from outside or while another call waits. -/
  enter : Option Thread → Func → List Word → Nat → Thread
  advance : Thread → Guest → Progress Thread × Guest
  /-- The call after the host has answered it with words, or failed in these words. -/
  resume : Thread → Except String (List Word) → Thread

namespace Engine

/-- A failure of the host ends the call that waits for it. -/
def Unwinds (E : Engine) : Prop :=
  ∀ t message guest, (E.advance (E.resume t (.error message)) guest).1 = .failed message

/-- A module is not brought up with an import of another type than what it is linked to. -/
def ComparesTypes (E : Engine) : Prop :=
  ∀ code linked fuel, ∀ i ∈ E.imports code, ∀ l, linkedTo linked i.name = some l →
    i.type.function? ≠ some (bindingType l.binding) →
      ∃ reason, E.instantiate code linked fuel = .error reason

end Engine

end Wasm

end GuestBridge
