import GuestBridge.Layout.Codec
import GuestBridge.Sandbox.Memory

/-!
# An arena

The plainest guest memory: a run of bytes handed out from the bottom up, nothing ever given back.
Requests can be made to fail ahead of time, one by one.
-/

namespace GuestBridge

/-- A run of bytes, the address of the next one to hand out, and for each coming request a failure
or none. -/
structure Arena where
  bytes : Bytes
  next : Nat
  failures : List (Option SandboxError)

namespace Arena

/-- An arena of zeros. -/
def zeroed (base size : Nat) (failures : List (Option SandboxError)) : Arena :=
  ⟨List.replicate size 0, base, failures⟩

/-- Copies bytes to the next address and moves it past them. -/
def place (part : Bytes) (a : Arena) : Except SandboxError UInt32 × Arena :=
  if a.bytes.length < a.next + part.length then (.error (.memory (.noRoom part.length)), a)
  else (.ok (UInt32.ofNat a.next),
    { a with bytes := a.bytes.splice a.next part, next := a.next + part.length })

/-- Hands out bytes, unless the request was made to fail. -/
def alloc (part : Bytes) (a : Arena) : Except SandboxError UInt32 × Arena :=
  match a.failures with
  | some e :: rest => (.error e, { a with failures := rest })
  | none :: rest => place part { a with failures := rest }
  | [] => place part a

/-- The bytes at an address. -/
def read (address length : UInt32) (a : Arena) : Except SandboxError Bytes × Arena :=
  if a.bytes.length < address.toNat + length.toNat then
    (.error (.memory (.outOfRange address.toNat length.toNat)), a)
  else (.ok (a.bytes.slice address.toNat length.toNat), a)

/-- The arena with bytes overwritten. -/
def poke (address : Nat) (part : Bytes) (a : Arena) : Arena :=
  { a with bytes := a.bytes.splice address part }

/-- The arena as guest memory. -/
def memory : GuestMemory Arena where
  alloc part := .ofFunction (alloc part)
  read address length := .ofFunction (read address length)

/-- The arena as the place for texts, the empty one included. -/
def slices : SliceAccess Arena SandboxError where
  store text := do
    let part := Text.encode text
    let address ← memory.alloc part
    return (address, UInt32.ofNat part.length)
  load address length := do
    let part ← memory.read address length
    return Text.decodeLossy part

end Arena

end GuestBridge
