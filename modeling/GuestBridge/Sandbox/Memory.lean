import GuestBridge.Bytes
import GuestBridge.Fallible
import GuestBridge.Sandbox.Error

/-!
# Guest memory

A `GuestMemory` is all that marshalling knows of a guest: it places bytes where the guest can find
them and reads bytes back. It works on a state of its own.
-/

namespace GuestBridge

/-- Places bytes in a guest and reads them back. -/
structure GuestMemory (μ : Type) where
  alloc : Bytes → Fallible μ SandboxError UInt32
  read : UInt32 → UInt32 → Fallible μ SandboxError Bytes

end GuestBridge
