import GuestBridge.Bytes

/-!
# Linear memory

The bytes of a guest, in pages. Reading and writing (`read?`, `write?`) happen within its size or
not at all, and growing adds zeros.
-/

namespace GuestBridge

namespace Wasm

def pageSize : Nat := 65536

/-- The bytes of a guest. -/
abbrev Memory := ByteArray

namespace Memory

/-- Zeros for a number of pages. -/
def zeros (pages : Nat) : Memory :=
  ⟨Array.replicate (pages * pageSize) 0⟩

def pages (m : Memory) : Nat :=
  m.size / pageSize

def read? (m : Memory) (address size : Nat) : Option Bytes :=
  if address + size ≤ m.size then some (m.extract address (address + size)).data.toList else none

/-- The memory with bytes written at an address. -/
def write? (m : Memory) (address : Nat) (part : Bytes) : Option Memory :=
  if address + part.length ≤ m.size then
    some ((ByteArray.mk part.toArray).copySlice 0 m address part.length)
  else none

/-- The memory with pages added. -/
def grow (m : Memory) (pages : Nat) : Memory :=
  m ++ zeros pages

end Memory

end Wasm

end GuestBridge
